/-
  Foundation/TokenBucket.lean --- spending against a credit that grows with time.

  A system takes timed steps, and a step may spend. What is spent between two times is
  bounded by a credit that stays between zero and a capacity, grows no faster than a rate,
  and pays for every step.
-/
import Mathlib.Algebra.Order.Field.Basic
import Mathlib.Tactic.Linarith
import Mathlib.Tactic.Ring

namespace HiAgent.Foundation

open List

/-! ## Timed runs -/

section Timed

variable {K σ ε : Type} [LinearOrder K] (step : σ → ε → σ) (time : ε → K) (spend : σ → ε → Nat)

def InOrder : K → List ε → Prop
  | _, [] => True
  | clock, event :: rest => clock ≤ time event ∧ InOrder (time event) rest

/-- What the steps of a run spend between two times. -/
def spentBetween (start stop : K) : σ → List ε → Nat
  | _, [] => 0
  | s, event :: rest =>
    (if start ≤ time event ∧ time event ≤ stop then spend s event else 0) +
      spentBetween start stop (step s event) rest

variable {step time spend}

theorem InOrder.le {clock : K} {events : List ε} (h : InOrder time clock events) :
    ∀ event ∈ events, clock ≤ time event := by
  induction events generalizing clock with
  | nil => exact fun event hmem => (not_mem_nil hmem).elim
  | cons first rest ih =>
    intro event hmem
    rcases mem_cons.mp hmem with rfl | hmem
    · exact h.1
    · exact h.1.trans (ih h.2 event hmem)

theorem InOrder.earlier {clock later : K} {events : List ε} (h : InOrder time later events)
    (hclock : clock ≤ later) : InOrder time clock events := by
  cases events with
  | nil => trivial
  | cons first rest => exact ⟨hclock.trans h.1, h.2⟩

theorem InOrder.past {clock stop : K} {event : ε} {rest : List ε}
    (h : InOrder time clock (event :: rest)) (hstop : stop < time event) :
    ∀ other ∈ event :: rest, stop < time other := by
  intro other hmem
  rcases mem_cons.mp hmem with rfl | hmem
  · exact hstop
  · exact lt_of_lt_of_le hstop (h.2.le other hmem)

theorem inOrder_replicate_append {clock : K} {event : ε} {rest : List ε}
    (hclock : clock ≤ time event) (hrest : InOrder time (time event) rest) (n : Nat) :
    InOrder time clock (List.replicate n event ++ rest) := by
  induction n generalizing clock with
  | zero => exact hrest.earlier hclock
  | succ n ih => exact ⟨hclock, ih (le_refl _)⟩

theorem inOrder_replicate {clock : K} {event : ε} (hclock : clock ≤ time event) (n : Nat) :
    InOrder time clock (List.replicate n event) := by
  have h := inOrder_replicate_append hclock (show InOrder time (time event) [] from trivial) n
  rwa [append_nil] at h

theorem spentBetween_append (start stop : K) (s : σ) (first second : List ε) :
    spentBetween step time spend start stop s (first ++ second) =
      spentBetween step time spend start stop s first +
        spentBetween step time spend start stop (first.foldl step s) second := by
  induction first generalizing s with
  | nil => simp [spentBetween]
  | cons event rest ih =>
    rw [cons_append, spentBetween, spentBetween, ih, foldl_cons, Nat.add_assoc]

theorem spentBetween_eq_zero {start stop : K} {events : List ε}
    (hlate : ∀ event ∈ events, stop < time event) (s : σ) :
    spentBetween step time spend start stop s events = 0 := by
  induction events generalizing s with
  | nil => rfl
  | cons event rest ih =>
    have hfirst : ¬ (start ≤ time event ∧ time event ≤ stop) :=
      fun h => absurd (hlate event mem_cons_self) (not_lt_of_ge h.2)
    rw [spentBetween, if_neg hfirst, ih fun other h => hlate other (mem_cons_of_mem _ h)]

end Timed

/-! ## Credit -/

section Credit

variable {K σ ε : Type} [Field K] [LinearOrder K] [IsStrictOrderedRing K]
variable {step : σ → ε → σ} {time : ε → K} {spend : σ → ε → Nat}
variable {Inv : σ → K → Prop} {credit : σ → K → K} {capacity rate : K}

/-- The credit pays for what the steps spend. -/
structure Metered (step : σ → ε → σ) (time : ε → K) (spend : σ → ε → Nat)
    (Inv : σ → K → Prop) (credit : σ → K → K) (capacity rate : K) : Prop where
  rate_nonneg : 0 ≤ rate
  later : ∀ {s clock now}, Inv s clock → clock ≤ now → Inv s now
  keeps : ∀ {s event}, Inv s (time event) → Inv (step s event) (time event)
  nonneg : ∀ {s now}, Inv s now → 0 ≤ credit s now
  le_capacity : ∀ {s now}, Inv s now → credit s now ≤ capacity
  grows : ∀ {s clock now}, Inv s clock → clock ≤ now →
    credit s now ≤ credit s clock + rate * (now - clock)
  pays : ∀ {s event}, Inv s (time event) →
    credit (step s event) (time event) + spend s event ≤ credit s (time event)

theorem Metered.spent_le_credit (h : Metered step time spend Inv credit capacity rate)
    {start stop clock : K} {s : σ} {events : List ε} (hinv : Inv s clock)
    (horder : InOrder time clock events) (hclock : clock ≤ stop) :
    (spentBetween step time spend start stop s events : K) ≤
      credit s clock + rate * (stop - clock) := by
  induction events generalizing s clock with
  | nil =>
    have hcredit := h.nonneg hinv
    have hgrowth := mul_nonneg h.rate_nonneg (sub_nonneg.mpr hclock)
    rw [spentBetween, Nat.cast_zero]
    exact add_nonneg hcredit hgrowth
  | cons event rest ih =>
    have hgrown := h.grows hinv horder.1
    rcases le_or_gt (time event) stop with hstop | hstop
    · have hthen := h.later hinv horder.1
      have hspent : (if start ≤ time event ∧ time event ≤ stop then spend s event else 0) ≤
          spend s event := by
        split
        · exact Nat.le_refl _
        · exact Nat.zero_le _
      have hcast : ((if start ≤ time event ∧ time event ≤ stop then spend s event else 0 : Nat) : K)
          ≤ spend s event := Nat.cast_le.mpr hspent
      have hlater := ih (h.keeps hthen) horder.2 hstop
      have hpaid := h.pays hthen
      have hsum : rate * (stop - time event) + rate * (time event - clock) =
          rate * (stop - clock) := by ring
      rw [spentBetween, Nat.cast_add]
      linarith
    · have hcredit := h.nonneg hinv
      have hgrowth := mul_nonneg h.rate_nonneg (sub_nonneg.mpr hclock)
      rw [spentBetween_eq_zero (horder.past hstop), Nat.cast_zero]
      exact add_nonneg hcredit hgrowth

/-- In any window no more is spent than the capacity and what flows in. -/
theorem Metered.spent_le (h : Metered step time spend Inv credit capacity rate)
    {start stop clock : K} (hle : start ≤ stop) {s : σ} {events : List ε} (hinv : Inv s clock)
    (horder : InOrder time clock events) :
    (spentBetween step time spend start stop s events : K) ≤ capacity + rate * (stop - start) := by
  have hroom : 0 ≤ capacity + rate * (stop - start) :=
    add_nonneg ((h.nonneg hinv).trans (h.le_capacity hinv))
      (mul_nonneg h.rate_nonneg (sub_nonneg.mpr hle))
  induction events generalizing s clock with
  | nil => simpa [spentBetween] using hroom
  | cons event rest ih =>
    have hthen := h.later hinv horder.1
    rcases le_or_gt start (time event) with hstart | hstart
    · rcases le_or_gt (time event) stop with hstop | hstop
      · have hagain : InOrder time (time event) (event :: rest) := ⟨le_refl _, horder.2⟩
        have hspent : (spentBetween step time spend start stop s (event :: rest) : K) ≤
            credit s (time event) + rate * (stop - time event) :=
          h.spent_le_credit hthen hagain hstop
        have hcapacity := h.le_capacity hthen
        have hshorter := mul_le_mul_of_nonneg_left (sub_le_sub_left hstart stop) h.rate_nonneg
        linarith
      · rw [spentBetween_eq_zero (horder.past hstop), Nat.cast_zero]
        exact hroom
    · rw [spentBetween, if_neg fun hin => absurd hin.1 (not_le_of_gt hstart), Nat.zero_add]
      exact ih (h.keeps hthen) horder.2

end Credit

/-! ## Buckets -/

/-- A token bucket: the tokens at the last refill. -/
structure Bucket (K : Type) where
  tokens : K
  lastRefill : K

namespace Bucket

variable {K : Type} [Field K] [LinearOrder K]

def refill (capacity rate now : K) (bucket : Bucket K) : Bucket K :=
  ⟨min capacity (bucket.tokens + (now - bucket.lastRefill) * rate), now⟩

def draw (bucket : Bucket K) : Bool × Bucket K :=
  if 1 ≤ bucket.tokens then (true, { bucket with tokens := bucket.tokens - 1 }) else (false, bucket)

def level (capacity rate : K) : Option (Bucket K) → K → K
  | none, _ => capacity
  | some bucket, now => (bucket.refill capacity rate now).tokens

@[simp] theorem level_none (capacity rate now : K) : level capacity rate none now = capacity := rfl

theorem level_some (capacity rate now : K) (bucket : Bucket K) :
    level capacity rate (some bucket) now =
      min capacity (bucket.tokens + (now - bucket.lastRefill) * rate) := rfl

variable [IsStrictOrderedRing K] {capacity rate clock now : K} {bucket : Bucket K}

omit [IsStrictOrderedRing K] in
theorem level_le_capacity (held : Option (Bucket K)) : level capacity rate held now ≤ capacity := by
  cases held with
  | none => exact le_refl _
  | some bucket => exact min_le_left _ _

theorem level_nonneg (hcapacity : 0 ≤ capacity) (hrate : 0 ≤ rate) {held : Option (Bucket K)}
    (hheld : ∀ bucket ∈ held, 0 ≤ bucket.tokens ∧ bucket.lastRefill ≤ now) :
    0 ≤ level capacity rate held now := by
  cases held with
  | none => exact hcapacity
  | some bucket =>
    obtain ⟨htokens, hrefill⟩ := hheld bucket rfl
    exact le_min hcapacity (add_nonneg htokens (mul_nonneg (sub_nonneg.mpr hrefill) hrate))

/-- The level grows by the rate at most. -/
theorem level_grows (hrate : 0 ≤ rate) (hclock : clock ≤ now) (held : Option (Bucket K)) :
    level capacity rate held now ≤ level capacity rate held clock + rate * (now - clock) := by
  have hgrowth := mul_nonneg hrate (sub_nonneg.mpr hclock)
  cases held with
  | none => exact le_add_of_nonneg_right hgrowth
  | some bucket =>
    rw [level_some, level_some, min_add]
    refine le_min ((min_le_left _ _).trans (le_add_of_nonneg_right hgrowth)) ?_
    refine (min_le_right _ _).trans (le_of_eq ?_)
    ring

theorem level_stale {patience : K} (hfull : capacity ≤ patience * rate) (hrate : 0 ≤ rate)
    (htokens : 0 ≤ bucket.tokens) (hstale : patience < now - bucket.lastRefill) :
    level capacity rate (some bucket) now = capacity := by
  have hgained := mul_le_mul_of_nonneg_right hstale.le hrate
  rw [level_some]
  exact min_eq_left (by linarith)

/-- The bucket that is used for a request: the one that is there, or a full one. -/
def ofHeld (capacity now : K) (held : Option (Bucket K)) : Bucket K := held.getD ⟨capacity, now⟩

omit [IsStrictOrderedRing K] in
theorem refill_ofHeld (held : Option (Bucket K)) :
    (ofHeld capacity now held).refill capacity rate now = ⟨level capacity rate held now, now⟩ := by
  cases held with
  | none => simp [ofHeld, refill]
  | some bucket => rfl

omit [IsStrictOrderedRing K] in
theorem level_now {tokens : K} (htokens : tokens ≤ capacity) :
    level capacity rate (some ⟨tokens, now⟩) now = tokens := by
  simp [level_some, htokens]

end Bucket

end HiAgent.Foundation
