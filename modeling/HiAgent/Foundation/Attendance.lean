/-
  Foundation/Attendance.lean --- who is present after a record of arrivals and departures.

  A record is a list of events of any kind; `moveOf` says who arrives or leaves with an event, if
  anybody. The present ones are those with an arrival after their last departure, in the order of
  these arrivals.
-/
import Mathlib.Data.List.DropRight
import Mathlib.Data.List.Induction

namespace HiAgent.Foundation.Attendance

open List

/-- One entry of the record. -/
inductive Move (κ : Type*) where
  | arrives (key : κ)
  | leaves (key : κ)
  deriving DecidableEq

variable {κ ε : Type*} [DecidableEq κ] (moveOf : ε → Option (Move κ))

def move (present : List κ) : Option (Move κ) → List κ
  | none => present
  | some (.arrives key) => if key ∈ present then present else present ++ [key]
  | some (.leaves key) => present.filter (· != key)

def attend (events : List ε) : List κ :=
  events.foldl (fun present event => move present (moveOf event)) []

def stay (key : κ) (events : List ε) : List ε :=
  events.rtakeWhile fun event => moveOf event != some (.leaves key)

def arrivedAt (events : List ε) (key : κ) : Nat :=
  events.length - (stay moveOf key events).length +
    (stay moveOf key events).findIdx fun event => moveOf event == some (.arrives key)

/-! ## One entry more -/

section Concat

variable {moveOf} {events : List ε} {event : ε} {key : κ}

theorem attend_concat (events : List ε) (event : ε) :
    attend moveOf (events ++ [event]) = move (attend moveOf events) (moveOf event) := by
  simp [attend]

theorem stay_concat_of_leaves (h : moveOf event = some (.leaves key)) :
    stay moveOf key (events ++ [event]) = [] := by
  simp [stay, h]

theorem stay_concat_of_ne (h : moveOf event ≠ some (.leaves key)) :
    stay moveOf key (events ++ [event]) = stay moveOf key events ++ [event] := by
  simp [stay, h]

theorem length_stay_le : (stay moveOf key events).length ≤ events.length := by
  apply List.IsSuffix.length_le
  apply rtakeWhile_suffix

section

variable (h : ∃ arrival ∈ stay moveOf key events, moveOf arrival = some (.arrives key))
include h

theorem findIdx_stay_lt :
    (stay moveOf key events).findIdx (fun event => moveOf event == some (.arrives key)) <
      (stay moveOf key events).length := by
  obtain ⟨arrival, harrival, hmove⟩ := h
  apply findIdx_lt_length_of_exists
  exact ⟨arrival, harrival, by simp [hmove]⟩

theorem arrivedAt_concat (hevent : moveOf event ≠ some (.leaves key)) :
    arrivedAt moveOf (events ++ [event]) key = arrivedAt moveOf events key := by
  have hle : (stay moveOf key events).length ≤ events.length := length_stay_le
  have hfound := findIdx_stay_lt h
  rw [arrivedAt, arrivedAt, stay_concat_of_ne hevent, findIdx_append, if_pos hfound]
  simp only [length_append, length_singleton]
  omega

theorem arrivedAt_lt : arrivedAt moveOf events key < events.length := by
  have hle : (stay moveOf key events).length ≤ events.length := length_stay_le
  have hfound := findIdx_stay_lt h
  rw [arrivedAt]
  omega

end

theorem arrivedAt_concat_self
    (h : ¬ ∃ arrival ∈ stay moveOf key events, moveOf arrival = some (.arrives key))
    (hevent : moveOf event = some (.arrives key)) :
    arrivedAt moveOf (events ++ [event]) key = events.length := by
  have hle : (stay moveOf key events).length ≤ events.length := length_stay_le
  have hnone : (stay moveOf key events).findIdx
      (fun event => moveOf event == some (.arrives key)) = (stay moveOf key events).length := by
    apply findIdx_eq_length.mpr
    intro arrival harrival
    have hmove : moveOf arrival ≠ some (.arrives key) := fun hmove => h ⟨arrival, harrival, hmove⟩
    simp [hmove]
  rw [arrivedAt, stay_concat_of_ne (by simp [hevent]), findIdx_append, hnone]
  simp [hevent]
  omega

end Concat

/-! ## Who is present, and in which order -/

/-- Present is who has come since leaving last. -/
theorem mem_attend_iff (events : List ε) (key : κ) : key ∈ attend moveOf events ↔
      ∃ arrival ∈ stay moveOf key events, moveOf arrival = some (.arrives key) := by
  induction events using List.reverseRecOn with
  | nil => simp [attend, stay]
  | append_singleton earlier event ih =>
    rw [attend_concat]
    cases hmove : moveOf event with
    | none =>
      rw [stay_concat_of_ne (by simp [hmove])]
      simp [move, ih, hmove, or_and_right, exists_or]
    | some happened =>
      cases happened with
      | arrives arriving =>
        rw [stay_concat_of_ne (by simp [hmove])]
        have hpresent : key ∈ move (attend moveOf earlier) (some (.arrives arriving)) ↔
            key ∈ attend moveOf earlier ∨ arriving = key := by
          rw [move]
          split
          · rename_i hthere
            exact ⟨.inl, fun h => h.elim id fun heq => heq ▸ hthere⟩
          · simp [eq_comm]
        rw [hpresent, ih]
        simp [hmove, or_and_right, exists_or]
      | leaves leaving =>
        rw [move, mem_filter, ih]
        by_cases hkey : leaving = key
        · rw [stay_concat_of_leaves (by rw [hmove, hkey])]
          simp [hkey]
        · rw [stay_concat_of_ne (by simp [hmove, hkey])]
          simp [hmove, or_and_right, exists_or, Ne.symm hkey]

/-- Who is present stands in the order of arrival. -/
theorem pairwise_arrivedAt (events : List ε) : (attend moveOf events).Pairwise fun first second =>
      arrivedAt moveOf events first < arrivedAt moveOf events second := by
  induction events using List.reverseRecOn with
  | nil => exact .nil
  | append_singleton earlier event ih =>
    have hkept : ∀ stayers : List κ, stayers.Sublist (attend moveOf earlier) →
        (∀ key ∈ stayers, moveOf event ≠ some (.leaves key)) →
        stayers.Pairwise fun first second =>
          arrivedAt moveOf (earlier ++ [event]) first <
            arrivedAt moveOf (earlier ++ [event]) second := by
      intro stayers hsub hstays
      apply (ih.sublist hsub).imp_of_mem
      intro first second hfirst hsecond hlt
      rwa [arrivedAt_concat ((mem_attend_iff moveOf earlier first).mp (hsub.mem hfirst))
          (hstays first hfirst),
        arrivedAt_concat ((mem_attend_iff moveOf earlier second).mp (hsub.mem hsecond))
          (hstays second hsecond)]
    rw [attend_concat]
    cases hmove : moveOf event with
    | none => exact hkept _ (.refl _) (by simp [hmove])
    | some happened =>
      cases happened with
      | leaves leaving =>
        apply hkept _ filter_sublist
        intro key hkey
        simp only [mem_filter, bne_iff_ne] at hkey
        simpa [hmove] using Ne.symm hkey.2
      | arrives arriving =>
        have hall := hkept _ (.refl _) (by simp [hmove])
        rw [move]
        split
        · exact hall
        · rename_i habsent
          -- the newcomer's place is the event itself, and every other place is earlier
          rw [pairwise_append]
          refine ⟨hall, pairwise_singleton _ _, ?_⟩
          intro first hfirst second hsecond
          obtain rfl := mem_singleton.mp hsecond
          rw [mem_attend_iff] at habsent hfirst
          rw [arrivedAt_concat_self habsent hmove, arrivedAt_concat hfirst (by simp [hmove])]
          exact arrivedAt_lt hfirst

theorem nodup_attend (events : List ε) : (attend moveOf events).Nodup := by
  apply (pairwise_arrivedAt moveOf events).imp
  intro first second hlt heq
  exact absurd hlt (by simp [heq])

end HiAgent.Foundation.Attendance
