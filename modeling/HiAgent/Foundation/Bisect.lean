/-
  Foundation/Bisect.lean --- binary search for the greatest number that passes a test.

  The window goes from `low` up to, and without, `stop`. What is found passes the test, or is
  what the search began with; where every number below one that passes does, it is the greatest.
-/

namespace HiAgent.Foundation

/-- The loop over the window, with the best number so far. -/
def bisect (fits : Nat → Bool) (low stop best : Nat) : Nat :=
  if h : low < stop then
    if fits ((low + stop - 1) / 2) then
      bisect fits ((low + stop - 1) / 2 + 1) stop ((low + stop - 1) / 2)
    else bisect fits low ((low + stop - 1) / 2) best
  else best
termination_by stop - low

variable {fits : Nat → Bool} {low stop best : Nat}

theorem bisect_fits (hbest : fits best = true) : fits (bisect fits low stop best) = true := by
  fun_induction bisect fits low stop best with
  | case1 low stop best _ hfits ih => exact ih hfits
  | case2 low stop best _ _ ih => exact ih hbest
  | case3 => exact hbest

theorem le_bisect (hdown : ∀ m n, m ≤ n → fits n = true → fits m = true)
    (hlow : ∀ n < low, n ≤ best) (hstop : ∀ n, stop ≤ n → fits n = false) {n : Nat}
    (hn : fits n = true) : n ≤ bisect fits low stop best := by
  fun_induction bisect fits low stop best with
  | case1 low stop best _ _ ih => exact ih (fun m hm => Nat.le_of_lt_succ hm) hstop
  | case2 low stop best _ hfits ih =>
    refine ih hlow fun m hm => ?_
    exact Bool.eq_false_iff.mpr fun hpasses => hfits (hdown _ m hm hpasses)
  | case3 low stop best hempty =>
    have hbelow : n < stop := Nat.lt_of_not_le fun hout => by simp [hstop n hout] at hn
    exact hlow n (by omega)

end HiAgent.Foundation
