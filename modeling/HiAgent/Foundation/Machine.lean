/-
  Foundation/Machine.lean --- runs of a total step function.

  A system is given by one function `step : σ → ε → σ`: the state after an event.
-/
import Mathlib.Data.List.Basic
import Mathlib.Tactic.TypeStar

namespace HiAgent.Foundation

open List

variable {σ ε : Type*}

def exec (step : σ → ε → σ) (s : σ) (events : List ε) : σ :=
  events.foldl step s

/-- `P` holds of every event of the run, in the state the event fires in. -/
def Along (step : σ → ε → σ) (P : σ → ε → Prop) : σ → List ε → Prop
  | _, [] => True
  | s, event :: rest => P s event ∧ Along step P (step s event) rest

/-- `P` holds of some event of the run, in the state the event fires in. -/
def Sometime (step : σ → ε → σ) (P : σ → ε → Prop) : σ → List ε → Prop
  | _, [] => False
  | s, event :: rest => P s event ∨ Sometime step P (step s event) rest

/-- `Inv` holds in every state of the run, the first and the last included. -/
def Always (step : σ → ε → σ) (Inv : σ → Prop) : σ → List ε → Prop
  | s, [] => Inv s
  | s, event :: rest => Inv s ∧ Always step Inv (step s event) rest

section Basics

variable {step : σ → ε → σ} {P Q : σ → ε → Prop}

@[simp] theorem exec_nil (s : σ) : exec step s [] = s := rfl

@[simp] theorem exec_cons (s : σ) (event : ε) (rest : List ε) :
    exec step s (event :: rest) = exec step (step s event) rest := rfl

@[simp] theorem along_nil (s : σ) : Along step P s [] := trivial

@[simp] theorem along_cons (s : σ) (event : ε) (rest : List ε) : Along step P s (event :: rest) ↔
      P s event ∧ Along step P (step s event) rest := Iff.rfl

theorem along_append (s : σ) (first second : List ε) : Along step P s (first ++ second) ↔
      Along step P s first ∧ Along step P (exec step s first) second := by
  induction first generalizing s with
  | nil => simp
  | cons event rest ih => simp [ih, and_assoc]

variable {events : List ε}

theorem along_of_forall {s : σ} (h : ∀ event ∈ events, ∀ s, P s event) : Along step P s events := by
  induction events generalizing s with
  | nil => trivial
  | cons event rest ih =>
    exact ⟨h event mem_cons_self s, ih fun other hother => h other (mem_cons_of_mem event hother)⟩

theorem along_congr_of_mem (h : ∀ event ∈ events, ∀ s, P s event ↔ Q s event)
    (s : σ) : Along step P s events ↔ Along step Q s events := by
  induction events generalizing s with
  | nil => exact Iff.rfl
  | cons event rest ih =>
    rw [along_cons, along_cons, h event mem_cons_self]
    exact and_congr_right fun _ =>
      ih (fun other hother => h other (mem_cons_of_mem event hother)) _

theorem along_congr (h : ∀ s event, P s event ↔ Q s event) (s : σ)
    (events : List ε) : Along step P s events ↔ Along step Q s events :=
  along_congr_of_mem (fun event _ s => h s event) s

theorem along_of_not_sometime {s : σ} (h : ¬ Sometime step P s events) :
    Along step (fun s event => ¬ P s event) s events := by
  induction events generalizing s with
  | nil => trivial
  | cons event rest ih =>
    rw [Sometime, not_or] at h
    exact ⟨h.1, ih h.2⟩

@[simp] theorem always_nil {Inv : σ → Prop} (s : σ) : Always step Inv s [] ↔ Inv s := Iff.rfl

@[simp] theorem always_cons {Inv : σ → Prop} (s : σ) (event : ε) (rest : List ε) :
    Always step Inv s (event :: rest) ↔ Inv s ∧ Always step Inv (step s event) rest := Iff.rfl

theorem Always.first {Inv : σ → Prop} {s : σ} (h : Always step Inv s events) : Inv s := by
  cases events with
  | nil => exact h
  | cons event rest => exact h.1

theorem Always.last {Inv : σ → Prop} {s : σ}
    (h : Always step Inv s events) : Inv (exec step s events) := by
  induction events generalizing s with
  | nil => exact h
  | cons event rest ih => exact ih h.2

instance Along.decide [∀ s event, Decidable (P s event)] :
    ∀ (s : σ) (events : List ε), Decidable (Along step P s events)
  | _, [] => isTrue trivial
  | s, event :: rest =>
    have := Along.decide (step s event) rest
    inferInstanceAs (Decidable (P s event ∧ Along step P (step s event) rest))

end Basics

/-! ## Two systems in step -/

section Lockstep

variable {τ : Type*}

def lockstep (step : σ → ε → σ) (other : τ → ε → τ) (pair : σ × τ) (event : ε) : σ × τ :=
  (step pair.1 event, other pair.2 event)

theorem along_lockstep_fst (step : σ → ε → σ) (other : τ → ε → τ) (P : σ → ε → Prop)
    (pair : σ × τ) (events : List ε) :
    Along (lockstep step other) (fun pair event => P pair.1 event) pair events ↔
      Along step P pair.1 events := by
  induction events generalizing pair with
  | nil => exact Iff.rfl
  | cons event rest ih => exact and_congr Iff.rfl (ih (lockstep step other pair event))

end Lockstep

/-! ## Rules for runs -/

section Rules

variable {step : σ → ε → σ} {Inv : σ → Prop} {Guard Q : σ → ε → Prop} {events : List ε} {s : σ}

/-- An invariant of the guarded steps holds behind a guarded run. -/
theorem exec_invariant (keeps : ∀ s event, Inv s → Guard s event → Inv (step s event))
    (hinit : Inv s) (hguard : Along step Guard s events) : Inv (exec step s events) := by
  induction events generalizing s with
  | nil => exact hinit
  | cons event rest ih =>
    exact ih (keeps s event hinit hguard.1) hguard.2

/-- So does what it gives, in every state reached. -/
theorem always_of_invariant {Q : σ → Prop}
    (keeps : ∀ s event, Inv s → Guard s event → Inv (step s event))
    (gives : ∀ s, Inv s → Q s) (hinit : Inv s)
    (hguard : Along step Guard s events) : Always step Q s events := by
  induction events generalizing s with
  | nil => exact gives s hinit
  | cons event rest ih =>
    exact ⟨gives s hinit, ih (keeps s event hinit hguard.1) hguard.2⟩

theorem along_of_always {Q : σ → Prop}
    (keeps : ∀ s event, Inv s → Guard s event → Inv (step s event))
    (needs : ∀ s event, Inv s → Q (step s event) → Guard s event)
    (hinit : Inv s) (h : Always step Q s events) : Along step Guard s events := by
  induction events generalizing s with
  | nil => trivial
  | cons event rest ih =>
    have hguard := needs s event hinit h.2.first
    exact ⟨hguard, ih (keeps s event hinit hguard) h.2⟩

/-- Where the property needs the guard, it holds of the guarded runs alone. -/
theorem always_iff_along_within {Domain : σ → ε → Prop} {Q : σ → Prop}
    (keeps : ∀ s event, Inv s → Domain s event → Guard s event → Inv (step s event))
    (gives : ∀ s, Inv s → Q s)
    (needs : ∀ s event, Inv s → Domain s event → Q (step s event) → Guard s event)
    (hinit : Inv s) (hdomain : Along step Domain s events) :
    Always step Q s events ↔ Along step Guard s events := by
  induction events generalizing s with
  | nil => exact iff_of_true (gives s hinit) trivial
  | cons event rest ih =>
    rw [always_cons, along_cons]
    constructor
    · rintro ⟨_, hrest⟩
      have hguard := needs s event hinit hdomain.1 hrest.first
      exact ⟨hguard, (ih (keeps s event hinit hdomain.1 hguard) hdomain.2).mp hrest⟩
    · rintro ⟨hguard, hrest⟩
      exact ⟨gives s hinit, (ih (keeps s event hinit hdomain.1 hguard) hdomain.2).mpr hrest⟩

theorem always_iff_along {Q : σ → Prop}
    (keeps : ∀ s event, Inv s → Guard s event → Inv (step s event)) (gives : ∀ s, Inv s → Q s)
    (needs : ∀ s event, Inv s → Q (step s event) → Guard s event)
    (hinit : Inv s) (events : List ε) : Always step Q s events ↔ Along step Guard s events := by
  have hdomain : Along step (fun _ _ => True) s events :=
    along_of_forall fun _ _ _ => trivial
  exact always_iff_along_within (fun s event h _ => keeps s event h) gives
    (fun s event h _ => needs s event h) hinit hdomain

theorem exec_iff_along {Q : σ → Prop} (keeps : ∀ s event, Q s → (Q (step s event) ↔ Guard s event))
    (stays : ∀ s event, Q (step s event) → Q s) (hinit : Q s)
    (events : List ε) : Q (exec step s events) ↔ Along step Guard s events := by
  have hback : ∀ (rest : List ε) (t : σ), Q (exec step t rest) → Q t := by
    intro rest
    induction rest with
    | nil => exact fun _ h => h
    | cons event rest ih => exact fun t h => stays t event (ih (step t event) h)
  induction events generalizing s with
  | nil => exact iff_of_true hinit trivial
  | cons event rest ih =>
    rw [exec_cons, along_cons]
    constructor
    · intro h
      have hstep := hback rest (step s event) h
      exact ⟨(keeps s event hinit).mp hstep, (ih hstep).mp h⟩
    · rintro ⟨hguard, hrest⟩
      exact (ih ((keeps s event hinit).mpr hguard)).mpr hrest

theorem along_of_invariant (keeps : ∀ s event, Inv s → Guard s event → Inv (step s event))
    (gives : ∀ s event, Inv s → Guard s event → Q s event) (hinit : Inv s)
    (hguard : Along step Guard s events) : Along step Q s events := by
  induction events generalizing s with
  | nil => trivial
  | cons event rest ih =>
    exact ⟨gives s event hinit hguard.1, ih (keeps s event hinit hguard.1) hguard.2⟩

theorem along_iff_along_within {Domain P : σ → ε → Prop}
    (keeps : ∀ s event, Inv s → Domain s event → Guard s event → Inv (step s event))
    (same : ∀ s event, Inv s → Domain s event → (P s event ↔ Guard s event))
    (hinit : Inv s) (hdomain : Along step Domain s events) :
    Along step P s events ↔ Along step Guard s events := by
  induction events generalizing s with
  | nil => exact Iff.rfl
  | cons event rest ih =>
    rw [along_cons, along_cons, same s event hinit hdomain.1]
    exact and_congr_right fun hguard =>
      ih (keeps s event hinit hdomain.1 hguard) hdomain.2

theorem along_iff_along {P : σ → ε → Prop}
    (keeps : ∀ s event, Inv s → Guard s event → Inv (step s event))
    (same : ∀ s event, Inv s → (P s event ↔ Guard s event)) (hinit : Inv s) (events : List ε) :
    Along step P s events ↔ Along step Guard s events := by
  have hdomain : Along step (fun _ _ => True) s events :=
    along_of_forall fun _ _ _ => trivial
  exact along_iff_along_within (fun s event h _ => keeps s event h)
    (fun s event h _ => same s event h) hinit hdomain

/-- A value that unguarded steps lower is kept by guarded runs alone. -/
theorem exec_eq_iff_along (value : σ → Nat)
    (keeps : ∀ s event, Guard s event → value (step s event) = value s)
    (lowers : ∀ s event, ¬ Guard s event → value (step s event) < value s)
    (s : σ) (events : List ε) :
    value (exec step s events) = value s ↔ Along step Guard s events := by
  have hle : ∀ (rest : List ε) (t : σ), value (exec step t rest) ≤ value t := by
    intro rest
    induction rest with
    | nil => exact fun t => Nat.le_refl _
    | cons event rest ih =>
      intro t
      have hrest := ih (step t event)
      rw [exec_cons]
      rcases Classical.em (Guard t event) with hguard | hguard
      · have hstep := keeps t event hguard
        omega
      · have hstep := lowers t event hguard
        omega
  induction events generalizing s with
  | nil => simp
  | cons event rest ih =>
    rw [exec_cons, along_cons]
    rcases Classical.em (Guard s event) with hguard | hguard
    · have hrest := ih (step s event)
      rw [keeps s event hguard] at hrest
      exact hrest.trans (and_iff_right hguard).symm
    · refine iff_of_false ?_ fun h => hguard h.1
      have hstep := lowers s event hguard
      have hrest := hle rest (step s event)
      omega

end Rules

end HiAgent.Foundation

namespace HiAgent.Foundation.Roster

open List

variable {α : Type*} {parties : List α} {index : Nat} {party : α}

/-- The parties after the one at `index` has gone on to `next`, or has left. -/
def advance (parties : List α) (index : Nat) : Option α → List α
  | some next => parties.set index next
  | none => parties.eraseIdx index

theorem exists_split (h : parties[index]? = some party) :
    ∃ before behind, parties = before ++ party :: behind ∧
      ∀ next, advance parties index next = before ++ next.toList ++ behind := by
  induction parties generalizing index with
  | nil => simp at h
  | cons first rest ih =>
    cases index with
    | zero =>
      obtain rfl : first = party := by simpa using h
      refine ⟨[], rest, rfl, fun next => ?_⟩
      cases next with
      | none => rfl
      | some next => rfl
    | succ index =>
      obtain ⟨before, behind, hsplit, hadvance⟩ := ih (by simpa using h)
      refine ⟨first :: before, behind, by rw [hsplit]; rfl, fun next => ?_⟩
      have hrest := hadvance next
      cases next with
      | _ => exact congrArg (first :: ·) hrest

theorem advance_eq (h : parties[index]? = some party) (next : Option α) :
    parties = parties.take index ++ party :: parties.drop (index + 1) ∧ advance parties index next =
        parties.take index ++ next.toList ++ parties.drop (index + 1) := by
  obtain ⟨hbound, hparty⟩ := List.getElem?_eq_some_iff.mp h
  constructor
  · rw [← hparty, ← drop_eq_getElem_cons hbound, take_append_drop]
  · cases next with
    | none => rw [advance, eraseIdx_eq_take_drop_succ, Option.toList_none, append_nil]
    | some next =>
      rw [advance, set_eq_take_append_cons_drop, if_pos hbound, Option.toList_some, append_assoc]
      rfl

theorem countP_advance (h : parties[index]? = some party) (p : α → Bool) (next : Option α) :
    (advance parties index next).countP p + [party].countP p =
      parties.countP p + next.toList.countP p := by
  obtain ⟨before, behind, hsplit, hadvance⟩ := exists_split h
  have hparty : (party :: behind).countP p = [party].countP p + behind.countP p := by
    rw [← countP_append]
    rfl
  rw [hadvance, hsplit, countP_append, countP_append, countP_append, hparty]
  omega

theorem mem_advance {next : Option α} (h : party ∈ advance parties index next) :
    party ∈ parties ∨ next = some party := by
  cases next with
  | none => exact .inl (mem_of_mem_eraseIdx h)
  | some next => exact (mem_or_eq_of_mem_set h).imp_right fun heq => congrArg some heq.symm

theorem length_advance (h : parties[index]? = some party) (next : Option α) :
    (advance parties index next).length + 1 = parties.length + next.toList.length := by
  obtain ⟨before, behind, hsplit, hadvance⟩ := exists_split h
  rw [hadvance, hsplit, length_append, length_append, length_append, length_cons]
  omega

theorem countP_flatMap_advance {β : Type*} (h : parties[index]? = some party)
    (held : α → List β) (p : β → Bool) (next : Option α) :
    ((advance parties index next).flatMap held).countP p + (held party).countP p =
      (parties.flatMap held).countP p + (next.toList.flatMap held).countP p := by
  obtain ⟨before, behind, hsplit, hadvance⟩ := exists_split h
  rw [hadvance, hsplit]
  simp only [flatMap_append, flatMap_cons, countP_append]
  omega

end HiAgent.Foundation.Roster
