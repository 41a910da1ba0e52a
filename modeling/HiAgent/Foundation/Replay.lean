/-
  Foundation/Replay.lean --- states that follow a log.

  The entries of a log carry positions, and a state knows the position of the last
  entry it has taken in. Entries that are not relevant are passed over: they leave
  the state, and the position it knows, as they are.
-/
import Mathlib.Data.List.Basic
import Mathlib.Order.Lattice
import Mathlib.Tactic.TypeStar

namespace HiAgent.Foundation

open List

/-- How a state follows a log. -/
structure Follower (σ ε : Type*) where
  position : ε → Int
  /-- Whether an entry is taken in. -/
  relevant : ε → Bool
  apply : σ → ε → σ
  /-- The position of the last entry taken in. -/
  seen : σ → Int
  seen_apply : ∀ state entry, seen (apply state entry) = position entry

namespace Follower

variable {σ ε : Type*} (F : Follower σ ε)

def advance (state : σ) (entry : ε) : σ :=
  if F.relevant entry then F.apply state entry else state

def follow (state : σ) (entries : List ε) : σ := entries.foldl F.advance state

/-- The entries are read until one lies behind the position `through`. -/
def followThrough (through : Int) : σ → List ε → σ
  | state, [] => state
  | state, entry :: rest =>
    if through < F.position entry then state
    else followThrough through (F.advance state entry) rest

def after (position : Int) (entries : List ε) : List ε :=
  entries.filter fun entry => position < F.position entry

def upTo (position : Int) (entries : List ε) : List ε :=
  entries.filter fun entry => F.position entry ≤ position

/-- The positions grow from `low` on. -/
def Ascending (low : Int) (entries : List ε) : Prop :=
  (low :: entries.map F.position).Pairwise (· < ·)

variable {F} {state start : σ} {low position : Int} {entry : ε} {entries more : List ε}

/-! ## Reading -/

theorem follow_append (F : Follower σ ε) (state : σ) (entries more : List ε) :
    F.follow state (entries ++ more) = F.follow (F.follow state entries) more :=
  foldl_append

theorem follow_eq_foldl (F : Follower σ ε) (state : σ) (entries : List ε) :
    F.follow state entries = (entries.filter F.relevant).foldl F.apply state := by
  induction entries generalizing state with
  | nil => rfl
  | cons entry rest ih =>
    cases hmatter : F.relevant entry with
    | true =>
      rw [filter_cons_of_pos hmatter, foldl_cons, ← ih]
      simp [follow, advance, hmatter]
    | false =>
      rw [filter_cons_of_neg (by simp [hmatter]), ← ih]
      simp [follow, advance, hmatter]

theorem seen_advance_le (hstate : F.seen state ≤ position) (hentry : F.position entry ≤ position) :
    F.seen (F.advance state entry) ≤ position := by
  unfold advance
  split
  · rw [F.seen_apply]
    exact hentry
  · exact hstate

theorem seen_follow_le (hstate : F.seen state ≤ position)
    (hentries : ∀ entry ∈ entries, F.position entry ≤ position) :
    F.seen (F.follow state entries) ≤ position := by
  induction entries generalizing state with
  | nil => exact hstate
  | cons entry rest ih =>
    rw [forall_mem_cons] at hentries
    exact ih (seen_advance_le hstate hentries.1) hentries.2

/-! ## Growing positions -/

theorem ascending_cons_iff : F.Ascending low (entry :: entries) ↔
      low < F.position entry ∧ F.Ascending (F.position entry) entries := by
  rw [Ascending, Ascending, map_cons, pairwise_cons, forall_mem_cons]
  constructor
  · rintro ⟨⟨hlow, -⟩, hrest⟩
    exact ⟨hlow, hrest⟩
  · rintro ⟨hlow, hrest⟩
    refine ⟨⟨hlow, fun later hlater => ?_⟩, hrest⟩
    exact lt_trans hlow ((pairwise_cons.mp hrest).1 later hlater)

theorem Ascending.lt (h : F.Ascending low entries) (hentry : entry ∈ entries) :
    low < F.position entry :=
  (pairwise_cons.mp h).1 _ (mem_map_of_mem hentry)

theorem Ascending.mono {lower : Int} (h : F.Ascending low entries) (hle : lower ≤ low) :
    F.Ascending lower entries := by
  refine pairwise_cons.mpr ⟨fun later hlater => ?_, (pairwise_cons.mp h).2⟩
  exact lt_of_le_of_lt hle ((pairwise_cons.mp h).1 later hlater)

theorem Ascending.append {high : Int} (h : F.Ascending low entries)
    (hhigh : ∀ entry ∈ entries, F.position entry ≤ high) (hlow : low ≤ high)
    (hmore : F.Ascending high more) : F.Ascending low (entries ++ more) := by
  rw [Ascending, map_append, ← cons_append]
  refine pairwise_append.mpr ⟨h, (pairwise_cons.mp hmore).2, ?_⟩
  intro earlier hearlier later hlater
  have hlater := (pairwise_cons.mp hmore).1 later hlater
  rcases mem_cons.mp hearlier with rfl | hearlier
  · exact lt_of_le_of_lt hlow hlater
  · obtain ⟨entry, hentry, rfl⟩ := mem_map.mp hearlier
    exact lt_of_le_of_lt (hhigh entry hentry) hlater

theorem upTo_cons (F : Follower σ ε) (position : Int) (entry : ε) (entries : List ε) :
    F.upTo position (entry :: entries) =
      if F.position entry ≤ position then entry :: F.upTo position entries
      else F.upTo position entries := by
  simp [upTo, filter_cons]

theorem after_cons (F : Follower σ ε) (position : Int) (entry : ε) (entries : List ε) :
    F.after position (entry :: entries) =
      if F.position entry ≤ position then F.after position entries
      else entry :: F.after position entries := by
  by_cases hle : F.position entry ≤ position
  · rw [if_pos hle, after, filter_cons_of_neg (by simpa using hle), after]
  · rw [if_neg hle, after, filter_cons_of_pos (by simpa using hle), after]

theorem upTo_of_forall_lt (h : ∀ entry ∈ entries, position < F.position entry) :
    F.upTo position entries = [] := by
  rw [upTo, filter_eq_nil_iff]
  intro entry hentry
  have hlt := h entry hentry
  simpa using hlt

theorem after_of_forall_lt (h : ∀ entry ∈ entries, position < F.position entry) :
    F.after position entries = entries := by
  rw [after, filter_eq_self]
  intro entry hentry
  simpa using h entry hentry

theorem upTo_append_after (h : F.Ascending low entries) (position : Int) :
    F.upTo position entries ++ F.after position entries = entries := by
  induction entries generalizing low with
  | nil => rfl
  | cons entry rest ih =>
    obtain ⟨-, hrest⟩ := ascending_cons_iff.mp h
    rw [upTo_cons, after_cons]
    split
    · rw [cons_append, ih hrest]
    · rename_i hbehind
      have hlater : ∀ later ∈ rest, position < F.position later := by
        intro later hlater
        have hlt := hrest.lt hlater
        omega
      rw [upTo_of_forall_lt hlater, after_of_forall_lt hlater]
      rfl

theorem upTo_append_upTo_after (h : F.Ascending low entries) (first second : Int) :
    F.upTo first entries ++ F.upTo second (F.after first entries) =
      F.upTo (max second first) entries := by
  induction entries generalizing low with
  | nil => rfl
  | cons entry rest ih =>
    obtain ⟨-, hrest⟩ := ascending_cons_iff.mp h
    rw [upTo_cons, after_cons, upTo_cons F (max second first)]
    by_cases hfirst : F.position entry ≤ first
    · rw [if_pos hfirst, if_pos hfirst, if_pos (by omega), cons_append, ih hrest]
    · have hlater : ∀ later ∈ rest, first < F.position later := by
        intro later hlater
        have hlt := hrest.lt hlater
        omega
      rw [if_neg hfirst, if_neg hfirst, upTo_of_forall_lt hlater,
        after_of_forall_lt hlater, nil_append, upTo_cons]
      have hrest' := ih hrest
      rw [upTo_of_forall_lt hlater, after_of_forall_lt hlater, nil_append] at hrest'
      rw [hrest']
      have hsame : F.position entry ≤ second ↔ F.position entry ≤ max second first := by
        omega
      simp only [hsame]

/-- Of entries in order those up to a position are followed. -/
theorem followThrough_eq (h : F.Ascending low entries) (through : Int) (state : σ) :
    F.followThrough through state entries = F.follow state (F.upTo through entries) := by
  induction entries generalizing low state with
  | nil => rfl
  | cons entry rest ih =>
    obtain ⟨-, hrest⟩ := ascending_cons_iff.mp h
    rw [followThrough, upTo_cons]
    split
    · rename_i hbehind
      have hlater : ∀ later ∈ rest, through < F.position later := by
        intro later hlater
        have hlt := hrest.lt hlater
        omega
      rw [if_neg (by omega), upTo_of_forall_lt hlater]
      rfl
    · rw [if_pos (by omega), ih hrest]
      rfl

section

variable (h : F.Ascending (F.seen state) entries)
include h

theorem le_seen_follow : F.seen state ≤ F.seen (F.follow state entries) := by
  induction entries generalizing state with
  | nil => exact le_refl _
  | cons entry rest ih =>
    obtain ⟨hlow, hrest⟩ := ascending_cons_iff.mp h
    change F.seen state ≤ F.seen (F.follow (F.advance state entry) rest)
    unfold advance
    split
    · have hle : F.seen (F.apply state entry) ≤ F.seen (F.follow (F.apply state entry) rest) :=
        ih (by rw [F.seen_apply]; exact hrest)
      rw [F.seen_apply] at hle
      omega
    · exact ih (hrest.mono (by omega))

theorem le_seen_follow_iff :
    position ≤ F.seen (F.follow state entries) ↔ position ≤ F.seen state ∨
        ∃ entry ∈ entries, F.relevant entry = true ∧ position ≤ F.position entry := by
  induction entries generalizing state with
  | nil => simp [follow]
  | cons entry rest ih =>
    obtain ⟨hlow, hrest⟩ := ascending_cons_iff.mp h
    have hcons : F.follow state (entry :: rest) = F.follow (F.advance state entry) rest := rfl
    rw [hcons]
    simp only [mem_cons, exists_eq_or_imp]
    cases hmatter : F.relevant entry with
    | true =>
      have hadvance : F.advance state entry = F.apply state entry := by
        simp [advance, hmatter]
      rw [hadvance, ih (by rw [F.seen_apply]; exact hrest), F.seen_apply]
      constructor
      · rintro (hle | hlater)
        · exact .inr (.inl ⟨rfl, hle⟩)
        · exact .inr (.inr hlater)
      · rintro (hle | ⟨-, hle⟩ | hlater)
        · exact .inl (by omega)
        · exact .inl hle
        · exact .inr hlater
    | false =>
      have hadvance : F.advance state entry = state := by
        simp [advance, hmatter]
      rw [hadvance, ih (hrest.mono (le_of_lt hlow))]
      simp

theorem follow_upTo_seen :
    F.follow state (F.upTo (F.seen (F.follow state entries)) entries) = F.follow state entries := by
  induction entries generalizing state with
  | nil => rfl
  | cons entry rest ih =>
    obtain ⟨hlow, hrest⟩ := ascending_cons_iff.mp h
    have hcons : F.follow state (entry :: rest) = F.follow (F.advance state entry) rest := rfl
    rw [hcons, upTo_cons]
    cases hmatter : F.relevant entry with
    | true =>
      have hadvance : F.advance state entry = F.apply state entry := by
        simp [advance, hmatter]
      have hasc : F.Ascending (F.seen (F.apply state entry)) rest := by
        rw [F.seen_apply]
        exact hrest
      have hle := le_seen_follow hasc
      rw [F.seen_apply] at hle
      rw [hadvance, if_pos hle]
      change F.follow (F.advance state entry) _ = _
      rw [hadvance]
      exact ih hasc
    | false =>
      have hadvance : F.advance state entry = state := by
        simp [advance, hmatter]
      have hrest' := ih (hrest.mono (le_of_lt hlow))
      rw [hadvance]
      split
      · change F.follow (F.advance state entry) _ = _
        rw [hadvance]
        exact hrest'
      · exact hrest'

end

/-! ## Resuming -/

/-- The state is the one a reader from the start has at the position it knows. -/
def Current (F : Follower σ ε) (start : σ) (entries : List ε) (state : σ) : Prop :=
  state = F.follow start (F.upTo (F.seen state) entries)

theorem current_self (h : F.Ascending (F.seen start) entries) : F.Current start entries start := by
  rw [Current, upTo_of_forall_lt fun entry hentry => h.lt hentry]
  rfl

theorem current_follow_upTo (h : F.Ascending (F.seen start) entries) (position : Int) :
    F.Current start entries (F.follow start (F.upTo position entries)) := by
  have hpart : F.Ascending (F.seen start) (F.upTo position entries) := by
    refine List.Pairwise.sublist ?_ h
    exact (filter_sublist.map F.position).cons_cons _
  have hseen : F.seen (F.follow start (F.upTo position entries)) ≤ position ∨
      F.upTo position entries = [] := by
    rcases le_or_gt (F.seen start) position with hle | hgt
    · refine .inl (seen_follow_le hle fun entry hentry => ?_)
      simpa [upTo] using (mem_filter.mp hentry).2
    · exact .inr (upTo_of_forall_lt fun entry hentry => lt_trans hgt (h.lt hentry))
  rcases hseen with hle | hnil
  · have hupTo : F.upTo (F.seen (F.follow start (F.upTo position entries)))
        (F.upTo position entries) =
          F.upTo (F.seen (F.follow start (F.upTo position entries))) entries := by
      generalize F.seen (F.follow start (F.upTo position entries)) = seen at hle
      rw [upTo, upTo, upTo, filter_filter]
      refine filter_congr fun entry _ => ?_
      rw [← Bool.decide_and, decide_eq_decide]
      omega
    rw [Current, ← hupTo, follow_upTo_seen hpart]
  · rw [hnil]
    exact current_self h

theorem Current.append (h : F.Current start entries state)
    (hmore : ∀ entry ∈ more, F.seen state < F.position entry) :
    F.Current start (entries ++ more) state := by
  rw [Current, upTo, filter_append, ← upTo, ← upTo, upTo_of_forall_lt hmore, append_nil]
  exact h

theorem Current.follow_after (h : F.Current start entries state) (hasc : F.Ascending low entries) :
    F.follow state (F.after (F.seen state) entries) = F.follow start entries := by
  calc F.follow state (F.after (F.seen state) entries)
      = F.follow (F.follow start (F.upTo (F.seen state) entries))
          (F.after (F.seen state) entries) := by rw [← h]
    _ = F.follow start entries := by rw [← follow_append, upTo_append_after hasc]

theorem Current.followThrough_after (h : F.Current start entries state)
    (hasc : F.Ascending low entries) (through : Int) :
    F.followThrough through state (F.after (F.seen state) entries) =
      F.follow start (F.upTo (max through (F.seen state)) entries) := by
  have hafter : F.Ascending low (F.after (F.seen state) entries) := by
    refine List.Pairwise.sublist ?_ hasc
    exact (filter_sublist.map F.position).cons_cons _
  calc F.followThrough through state (F.after (F.seen state) entries)
      = F.follow state (F.upTo through (F.after (F.seen state) entries)) :=
        followThrough_eq hafter through state
    _ = F.follow (F.follow start (F.upTo (F.seen state) entries))
          (F.upTo through (F.after (F.seen state) entries)) := by rw [← h]
    _ = F.follow start (F.upTo (max through (F.seen state)) entries) := by
        rw [← follow_append, upTo_append_upTo_after hasc]

end Follower

end HiAgent.Foundation
