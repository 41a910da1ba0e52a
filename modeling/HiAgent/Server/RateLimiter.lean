/-
  Server/RateLimiter.lean --- the token buckets of `hi_agent/server/rate_limiter.py`.

  `RateLimiter` keeps one bucket for each client or tenant and one more for each tenant with a
  lower rate. Readings of the clock, tokens and rates are exact rational numbers. The cleanup
  forgets a bucket that was idle for the stale time.
-/
import HiAgent.Foundation.Dict
import HiAgent.Foundation.TokenBucket
import HiAgent.Server.Idempotency
import Mathlib.Algebra.Order.Field.Rat
import Mathlib.Algebra.Order.Ring.Cast
import Mathlib.Algebra.Order.Ring.Int
import Mathlib.Data.Int.Cast.Lemmas

namespace HiAgent.Server

open Foundation

structure ZeroDivisionError where

/-- The arguments of the constructor, which divides by the window. -/
structure RateLimits where
  maxRequests : Int
  windowSeconds : ℚ
  burst : Int
  tenantRateDivisor : ℚ
  window_ne : windowSeconds ≠ 0

def staleSeconds : ℚ := 600

namespace RateLimits

variable (limits : RateLimits)

def rate : ℚ := limits.maxRequests / limits.windowSeconds

def tenantRate : ℚ := limits.rate / max limits.tenantRateDivisor 1

/-- `int(value)`. -/
def truncate (value : ℚ) : Int := value.num.tdiv value.den

def tenantBurst : Int := max 1 (truncate (limits.burst / max limits.tenantRateDivisor 1))

end RateLimits

/-- What a `RateLimiter` changes. -/
structure RateLimiter where
  buckets : Dict String (Bucket ℚ)
  tenantLimiters : Dict String (Bucket ℚ)
  lastCleanup : ℚ

namespace RateLimiter

variable (limits : RateLimits) (limiter : RateLimiter)

def new (now : ℚ) : RateLimiter := ⟨.empty, .empty, now⟩

/-- `now - b.last_refill > _STALE_SECONDS`. -/
def isStale (now : ℚ) (item : String × Bucket ℚ) : Bool :=
  decide (staleSeconds < now - item.2.lastRefill)

def cleanupStaleBuckets (now : ℚ) : RateLimiter :=
  { limiter with
    buckets := limiter.buckets.delete (isStale now)
    tenantLimiters := limiter.tenantLimiters.delete (isStale now) }

def maybeCleanup (now : ℚ) : RateLimiter :=
  if now - limiter.lastCleanup < staleSeconds then limiter
  else cleanupStaleBuckets { limiter with lastCleanup := now } now

/-- One token of the bucket under a key: whether there was one, and how long to wait for the
next where there was none. -/
def take (burst : Int) (rate : ℚ) (buckets : Dict String (Bucket ℚ)) (key : String) (now : ℚ) :
    Except ZeroDivisionError (Bool × ℚ) × Dict String (Bucket ℚ) :=
  let bucket := (Bucket.ofHeld (burst : ℚ) now (buckets.get? key)).refill (burst : ℚ) rate now
  match bucket.draw with
  | (true, bucket) => (.ok (true, 0), buckets.set key bucket)
  | (false, bucket) =>
    (if rate = 0 then .error ⟨⟩ else .ok (false, (1 - bucket.tokens) / rate),
      buckets.set key bucket)

def bucketKey (clientIp tenantId : String) (execCtx : Option RunExecutionContext) : String :=
  let effectiveTenant := overriding ((execCtx.map (·.tenantId)).getD "") tenantId
  if effectiveTenant ≠ "" then "tenant:" ++ effectiveTenant else "ip:" ++ clientIp

def consume (now : ℚ) (clientIp tenantId : String) (execCtx : Option RunExecutionContext) :
    Except ZeroDivisionError (Bool × ℚ) × RateLimiter :=
  let cleaned := limiter.maybeCleanup now
  let (result, buckets) :=
    take limits.burst limits.rate cleaned.buckets (bucketKey clientIp tenantId execCtx) now
  (result, { cleaned with buckets })

def consumeTenant (now : ℚ) (tenantId : String) :
    Except ZeroDivisionError (Bool × ℚ) × RateLimiter :=
  let (result, tenantLimiters) :=
    take limits.tenantBurst limits.tenantRate limiter.tenantLimiters tenantId now
  (result, { limiter with tenantLimiters })

/-! ## Requests -/

/-- A call, at a reading of the clock. -/
inductive Request where
  | consume (now : ℚ) (clientIp tenantId : String) (execCtx : Option RunExecutionContext)
  | consumeTenant (now : ℚ) (tenantId : String)
  | cleanupStaleBuckets (now : ℚ)

def Request.now : Request → ℚ
  | .consume now _ _ _ => now
  | .consumeTenant now _ => now
  | .cleanupStaleBuckets now => now

def step : Request → RateLimiter
  | .consume now clientIp tenantId execCtx =>
    (limiter.consume limits now clientIp tenantId execCtx).2
  | .consumeTenant now tenantId => (limiter.consumeTenant limits now tenantId).2
  | .cleanupStaleBuckets now => limiter.cleanupStaleBuckets now

/-- A call was answered `(True, _)`. -/
def allowed : Except ZeroDivisionError (Bool × ℚ) → Bool
  | .ok (answer, _) => answer
  | .error _ => false

/-- The requests of a key that `_consume` allows in a call: one or none. -/
def granted (key : String) : Request → Nat
  | .consume now clientIp tenantId execCtx =>
    if bucketKey clientIp tenantId execCtx = key ∧
      allowed (limiter.consume limits now clientIp tenantId execCtx).1 = true then 1 else 0
  | _ => 0

/-- The requests of a tenant that `_consume_tenant` allows in a call: one or none. -/
def grantedTenant (tenantId : String) : Request → Nat
  | .consumeTenant now tenant =>
    if tenant = tenantId ∧ allowed (limiter.consumeTenant limits now tenant).1 = true then 1 else 0
  | _ => 0

/-- The bound: in every interval of time a key is allowed no more than its burst and what its
rate brings in, and a tenant no more than the tenant burst and what the tenant rate brings in. -/
def Bounded : Prop :=
  ∀ (created : ℚ) (requests : List Request), InOrder Request.now created requests →
    ∀ start stop : ℚ, start ≤ stop →
      (∀ key, (spentBetween (step limits) Request.now (fun limiter => limiter.granted limits key)
          start stop (new created) requests : ℚ) ≤
        limits.burst + limits.rate * (stop - start)) ∧
      ∀ tenantId, (spentBetween (step limits) Request.now
          (fun limiter => limiter.grantedTenant limits tenantId)
          start stop (new created) requests : ℚ) ≤
        limits.tenantBurst + limits.tenantRate * (stop - start)

variable {limits : RateLimits} {limiter : RateLimiter} {buckets : Dict String (Bucket ℚ)}
variable {clock now : ℚ} {burst : Int} {rate : ℚ} {key : String}

def levelOf (burst : Int) (rate : ℚ) (buckets : Dict String (Bucket ℚ)) (key : String)
    (now : ℚ) : ℚ :=
  Bucket.level (burst : ℚ) rate (buckets.get? key) now

def Sound (buckets : Dict String (Bucket ℚ)) (clock : ℚ) : Prop :=
  ∀ key, ∀ bucket ∈ buckets.get? key, 0 ≤ bucket.tokens ∧ bucket.lastRefill ≤ clock

theorem Sound.later (h : Sound buckets clock) (hclock : clock ≤ now) : Sound buckets now :=
  fun key bucket hbucket => ⟨(h key bucket hbucket).1, (h key bucket hbucket).2.trans hclock⟩

theorem sound_empty (clock : ℚ) : Sound .empty clock :=
  fun _ _ h => (Option.some_ne_none _ h.symm).elim

theorem Sound.level_nonneg (h : Sound buckets now) (hburst : 0 ≤ burst) (hrate : 0 ≤ rate)
    (key : String) : 0 ≤ levelOf burst rate buckets key now :=
  Bucket.level_nonneg (Int.cast_nonneg hburst) hrate (h key)

/-! ## One bucket -/

def remaining (level : ℚ) : ℚ := if 1 ≤ level then level - 1 else level

theorem remaining_le (level : ℚ) : remaining level ≤ level := by
  rw [remaining]
  split
  · exact sub_le_self level zero_le_one
  · exact le_refl level

theorem remaining_nonneg {level : ℚ} (h : 0 ≤ level) : 0 ≤ remaining level := by
  rw [remaining]
  split
  · exact sub_nonneg.mpr ‹_›
  · exact h

theorem take_eq (buckets : Dict String (Bucket ℚ)) (key : String) (now : ℚ) :
    take burst rate buckets key now = if 1 ≤ levelOf burst rate buckets key now then
        (.ok (true, 0), buckets.set key ⟨levelOf burst rate buckets key now - 1, now⟩) else
        (if rate = 0 then .error ⟨⟩
          else .ok (false, (1 - levelOf burst rate buckets key now) / rate),
          buckets.set key ⟨levelOf burst rate buckets key now, now⟩) := by
  delta take
  dsimp only
  rw [Bucket.refill_ofHeld, ← levelOf, Bucket.draw]
  by_cases hlevel : 1 ≤ levelOf burst rate buckets key now
  · rw [if_pos hlevel, if_pos hlevel]
  · rw [if_neg hlevel, if_neg hlevel]

theorem take_snd (buckets : Dict String (Bucket ℚ)) (key : String) (now : ℚ) :
    (take burst rate buckets key now).2 =
      buckets.set key ⟨remaining (levelOf burst rate buckets key now), now⟩ := by
  rw [take_eq, remaining]
  by_cases hlevel : 1 ≤ levelOf burst rate buckets key now
  · rw [if_pos hlevel, if_pos hlevel]
  · rw [if_neg hlevel, if_neg hlevel]

theorem allowed_take (buckets : Dict String (Bucket ℚ)) (key : String) (now : ℚ) :
    allowed (take burst rate buckets key now).1 = true ↔
      1 ≤ levelOf burst rate buckets key now := by
  rw [take_eq]
  by_cases hlevel : 1 ≤ levelOf burst rate buckets key now
  · rw [if_pos hlevel]
    exact iff_of_true rfl hlevel
  · rw [if_neg hlevel]
    refine iff_of_false ?_ hlevel
    dsimp only
    split
    · exact Bool.false_ne_true
    · exact Bool.false_ne_true

theorem levelOf_take (buckets : Dict String (Bucket ℚ)) (key other : String) (now : ℚ) :
    levelOf burst rate (take burst rate buckets key now).2 other now =
      if other = key then remaining (levelOf burst rate buckets key now)
      else levelOf burst rate buckets other now := by
  rw [take_snd, levelOf, Dict.get?_set]
  split
  · exact Bucket.level_now ((remaining_le _).trans (Bucket.level_le_capacity _))
  · rfl

theorem Sound.take (h : Sound buckets now) (hburst : 0 ≤ burst) (hrate : 0 ≤ rate) (key : String) :
    Sound (take burst rate buckets key now).2 now := by
  intro other bucket hbucket
  rw [take_snd, Dict.get?_set] at hbucket
  split at hbucket
  · cases hbucket
    exact ⟨remaining_nonneg (h.level_nonneg hburst hrate key), le_refl now⟩
  · exact h other bucket hbucket

/-! ## The cleanup -/

theorem get?_delete_isStale (buckets : Dict String (Bucket ℚ)) (key : String) (now : ℚ) :
    Dict.get? (buckets.delete (isStale now)) key =
      (buckets.get? key).filter fun bucket => !decide (staleSeconds < now - bucket.lastRefill) := by
  rw [Dict.get?, Dict.get?, Table.lookup_delete]
  cases buckets.lookup key with
  | none => rfl
  | some row =>
    rw [Option.map_some, Option.filter_some, Option.filter_some, isStale]
    split <;> rfl

theorem Sound.delete (h : Sound buckets clock) (now : ℚ) :
    Sound (buckets.delete (isStale now)) clock := by
  intro key bucket hbucket
  rw [get?_delete_isStale, Option.mem_def, Option.filter_eq_some_iff] at hbucket
  exact h key bucket hbucket.1

theorem Sound.levelOf_delete (h : Sound buckets now) (hfull : (burst : ℚ) ≤ staleSeconds * rate)
    (hrate : 0 ≤ rate) (key : String) :
    levelOf burst rate (buckets.delete (isStale now)) key now =
      levelOf burst rate buckets key now := by
  rw [levelOf, levelOf, get?_delete_isStale]
  cases hheld : buckets.get? key with
  | none => rfl
  | some bucket =>
    rw [Option.filter_some]
    split
    · rfl
    · rename_i hstale
      rw [Bool.not_eq_true', decide_eq_false_iff_not, not_not] at hstale
      exact (Bucket.level_stale hfull hrate (h key bucket hheld).1 hstale).symm

def CleanupDue (limiter : RateLimiter) (now : ℚ) : Prop := staleSeconds ≤ now - limiter.lastCleanup

theorem maybeCleanup_of_due (hdue : limiter.CleanupDue now) : limiter.maybeCleanup now =
      ⟨limiter.buckets.delete (isStale now), limiter.tenantLimiters.delete (isStale now), now⟩ :=
  if_neg (not_lt_of_ge hdue)

theorem maybeCleanup_of_not_due (hdue : ¬ limiter.CleanupDue now) :
    limiter.maybeCleanup now = limiter :=
  if_pos (lt_of_not_ge hdue)

theorem maybeCleanup_cases (limiter : RateLimiter) (now : ℚ) :
    ((limiter.maybeCleanup now).buckets = limiter.buckets.delete (isStale now) ∧
        (limiter.maybeCleanup now).tenantLimiters = limiter.tenantLimiters.delete (isStale now)) ∨
      limiter.maybeCleanup now = limiter := by
  by_cases hdue : limiter.CleanupDue now
  · rw [maybeCleanup_of_due hdue]
    exact .inl ⟨rfl, rfl⟩
  · exact .inr (maybeCleanup_of_not_due hdue)

/-! ## The bound -/

theorem levelOf_take_add (buckets : Dict String (Bucket ℚ)) (requested key : String) (now : ℚ) :
    levelOf burst rate (take burst rate buckets requested now).2 key now +
        ((if requested = key ∧ allowed (take burst rate buckets requested now).1 = true then 1
          else 0 : Nat) : ℚ) = levelOf burst rate buckets key now := by
  simp only [levelOf_take, allowed_take]
  by_cases hkey : requested = key
  · subst hkey
    by_cases hlevel : 1 ≤ levelOf burst rate buckets requested now
    · simp [hlevel, remaining]
    · simp [hlevel, remaining]
  · simp [hkey, Ne.symm hkey]

/-- What a limiter may do to one of its two groups of buckets at a time, while `spent` tokens
are handed out under the key. -/
inductive GroupStep (burst : Int) (rate : ℚ) (key : String) (now : ℚ)
    (old : Dict String (Bucket ℚ)) : Dict String (Bucket ℚ) → Nat → Prop
  | same : GroupStep burst rate key now old old 0
  | cleaned : GroupStep burst rate key now old (old.delete (isStale now)) 0
  | taken (between : Dict String (Bucket ℚ))
      (hbetween : between = old ∨ between = old.delete (isStale now)) (requested : String) :
      GroupStep burst rate key now old (take burst rate between requested now).2
        (if requested = key ∧ allowed (take burst rate between requested now).1 = true then 1
          else 0)

theorem GroupStep.sound {old new : Dict String (Bucket ℚ)} {spent : Nat}
    (h : GroupStep burst rate key now old new spent) (hburst : 0 ≤ burst) (hrate : 0 ≤ rate)
    (hold : Sound old now) : Sound new now := by
  cases h with
  | same => exact hold
  | cleaned => exact hold.delete now
  | taken between hbetween requested =>
    rcases hbetween with rfl | rfl
    · exact hold.take hburst hrate requested
    · exact (hold.delete now).take hburst hrate requested

theorem GroupStep.pays {old new : Dict String (Bucket ℚ)} {spent : Nat}
    (h : GroupStep burst rate key now old new spent) (hrate : 0 ≤ rate)
    (hfull : (burst : ℚ) ≤ staleSeconds * rate) (hold : Sound old now) :
    levelOf burst rate new key now + spent = levelOf burst rate old key now := by
  cases h with
  | same => rw [Nat.cast_zero, add_zero]
  | cleaned => rw [Nat.cast_zero, add_zero, hold.levelOf_delete hfull hrate]
  | taken between hbetween requested =>
    rw [levelOf_take_add]
    rcases hbetween with rfl | rfl
    · rfl
    · exact hold.levelOf_delete hfull hrate key

theorem metered (hburst : 0 ≤ burst) (hfull : (burst : ℚ) ≤ staleSeconds * rate) (hrate : 0 ≤ rate)
    {spend : RateLimiter → Request → Nat} {group : RateLimiter → Dict String (Bucket ℚ)}
    (hstep : ∀ limiter request, GroupStep burst rate key request.now (group limiter)
      (group (step limits limiter request)) (spend limiter request)) :
    Metered (step limits) Request.now spend (fun limiter clock => Sound (group limiter) clock)
      (fun limiter now => levelOf burst rate (group limiter) key now) burst rate where
  rate_nonneg := hrate
  later h hclock := h.later hclock
  keeps h := (hstep _ _).sound hburst hrate h
  nonneg h := h.level_nonneg hburst hrate key
  le_capacity _ := Bucket.level_le_capacity _
  grows _ hclock := Bucket.level_grows hrate hclock _
  pays h := le_of_eq ((hstep _ _).pays hrate hfull h)

theorem groupStep_buckets (limiter : RateLimiter) (request : Request) :
    GroupStep limits.burst limits.rate key request.now limiter.buckets
      (limiter.step limits request).buckets (limiter.granted limits key request) := by
  cases request with
  | consume now clientIp tenantId execCtx =>
    refine .taken (limiter.maybeCleanup now).buckets ?_ (bucketKey clientIp tenantId execCtx)
    rcases maybeCleanup_cases limiter now with ⟨hbuckets, -⟩ | hsame
    · exact .inr hbuckets
    · exact .inl (congrArg RateLimiter.buckets hsame)
  | consumeTenant now tenantId => exact .same
  | cleanupStaleBuckets now => exact .cleaned

theorem groupStep_tenantLimiters (limiter : RateLimiter) (request : Request) :
    GroupStep limits.tenantBurst limits.tenantRate key request.now limiter.tenantLimiters
      (limiter.step limits request).tenantLimiters (limiter.grantedTenant limits key request) := by
  cases request with
  | consume now clientIp tenantId execCtx =>
    have hstep : (limiter.step limits (.consume now clientIp tenantId execCtx)).tenantLimiters =
        (limiter.maybeCleanup now).tenantLimiters := rfl
    rw [hstep]
    rcases maybeCleanup_cases limiter now with ⟨-, hbuckets⟩ | hsame
    · rw [hbuckets]
      exact .cleaned
    · rw [hsame]
      exact .same
  | consumeTenant now tenantId => exact .taken limiter.tenantLimiters (.inl rfl) tenantId
  | cleanupStaleBuckets now => exact .cleaned

theorem one_le_tenantBurst (limits : RateLimits) : 1 ≤ limits.tenantBurst := le_max_left _ _

theorem staleSeconds_pos : 0 < staleSeconds := by norm_num [staleSeconds]

theorem rate_nonneg (hburst : 0 ≤ burst) (hfull : (burst : ℚ) ≤ staleSeconds * rate) : 0 ≤ rate :=
  nonneg_of_mul_nonneg_right ((Int.cast_nonneg hburst).trans hfull) staleSeconds_pos

theorem bounded_of_full (hburst : 0 ≤ limits.burst)
    (hfull : (limits.burst : ℚ) ≤ staleSeconds * limits.rate)
    (htenant : (limits.tenantBurst : ℚ) ≤ staleSeconds * limits.tenantRate) : Bounded limits := by
  intro created requests horder start stop hle
  have hpos : 0 ≤ limits.tenantBurst := zero_le_one.trans (one_le_tenantBurst limits)
  constructor
  · intro key
    exact (metered hburst hfull (rate_nonneg hburst hfull) groupStep_buckets).spent_le hle
      (sound_empty created) horder
  · intro tenantId
    exact (metered hpos htenant (rate_nonneg hpos htenant)
      groupStep_tenantLimiters).spent_le hle (sound_empty created) horder

/-! ## Where the bound fails -/

variable {start stop : ℚ}

theorem spentBetween_replicate {spend : RateLimiter → Request → Nat}
    (group : RateLimiter → Dict String (Bucket ℚ)) (Ready : RateLimiter → Prop) {request : Request}
    (hnow : request.now = now)
    (hready : ∀ limiter, Ready limiter → Ready (step limits limiter request))
    (hgroup : ∀ limiter, Ready limiter → group (step limits limiter request) =
      (take burst rate (group limiter) key now).2) (hspend : ∀ limiter, Ready limiter →
      allowed (take burst rate (group limiter) key now).1 = true → spend limiter request = 1)
    (hstart : start ≤ now) (hstop : now ≤ stop) (n : Nat)
    (hlimiter : Ready limiter) (htokens : (n : ℚ) ≤ levelOf burst rate (group limiter) key now) :
    spentBetween (step limits) Request.now spend start stop limiter
      (List.replicate n request) = n := by
  induction n generalizing limiter with
  | zero => rfl
  | succ n ih =>
    rw [Nat.cast_succ] at htokens
    have hone : 1 ≤ levelOf burst rate (group limiter) key now :=
      (le_add_of_nonneg_left (Nat.cast_nonneg n)).trans htokens
    have hleft : levelOf burst rate (group (step limits limiter request)) key now =
        levelOf burst rate (group limiter) key now - 1 := by
      rw [hgroup limiter hlimiter, levelOf_take, if_pos rfl, remaining, if_pos hone]
    have hrest := ih (hready limiter hlimiter) (by rw [hleft]; exact le_sub_iff_add_le.mpr htokens)
    rw [List.replicate_succ, spentBetween, if_pos (by rw [hnow]; exact ⟨hstart, hstop⟩), hrest,
      hspend limiter hlimiter ((allowed_take ..).mpr hone), Nat.add_comm]

def RefilledAt (buckets : Dict String (Bucket ℚ)) (key : String) (now : ℚ) : Prop :=
  ∀ bucket ∈ buckets.get? key, bucket.lastRefill = now

theorem refilledAt_take (buckets : Dict String (Bucket ℚ)) (key : String) (now : ℚ) :
    RefilledAt (take burst rate buckets key now).2 key now := by
  intro bucket hbucket
  rw [take_snd, Dict.get?_set, if_pos rfl] at hbucket
  cases hbucket
  rfl

theorem refilledAt_replicate (burst : Int) (rate : ℚ) (group : RateLimiter → Dict String (Bucket ℚ))
    (Ready : RateLimiter → Prop) {request : Request}
    (hready : ∀ limiter, Ready limiter → Ready (step limits limiter request))
    (hgroup : ∀ limiter, Ready limiter → group (step limits limiter request) =
      (take burst rate (group limiter) key now).2)
    (hlimiter : Ready limiter) (hrefilled : RefilledAt (group limiter) key now) (n : Nat) :
    Ready ((List.replicate n request).foldl (step limits) limiter) ∧
      RefilledAt (group ((List.replicate n request).foldl (step limits) limiter)) key now := by
  induction n generalizing limiter with
  | zero => exact ⟨hlimiter, hrefilled⟩
  | succ n ih =>
    refine ih (hready limiter hlimiter) ?_
    rw [hgroup limiter hlimiter]
    exact refilledAt_take _ _ _

theorem RefilledAt.levelOf_delete {later : ℚ} (h : RefilledAt buckets key now)
    (hlate : staleSeconds < later - now) :
    levelOf burst rate (buckets.delete (isStale later)) key later = burst := by
  rw [levelOf, get?_delete_isStale]
  cases hheld : buckets.get? key with
  | none => rfl
  | some bucket =>
    have hstale : staleSeconds < later - bucket.lastRefill := by
      rw [h bucket hheld]
      exact hlate
    rw [Option.filter_some, if_neg (by simp [hstale])]
    rfl

theorem not_cleanupDue_self (h : limiter.lastCleanup = now) : ¬ limiter.CleanupDue now := by
  rw [CleanupDue, h, sub_self]
  exact not_le_of_gt staleSeconds_pos

theorem not_cleanupDue_maybeCleanup (limiter : RateLimiter) (now : ℚ) :
    ¬ (limiter.maybeCleanup now).CleanupDue now := by
  by_cases hdue : limiter.CleanupDue now
  · rw [maybeCleanup_of_due hdue]
    exact not_cleanupDue_self rfl
  · rw [maybeCleanup_of_not_due hdue]
    exact hdue

theorem consume_maybeCleanup (limits : RateLimits) (limiter : RateLimiter) (now : ℚ)
    (clientIp tenantId : String) (execCtx : Option RunExecutionContext) :
    (limiter.maybeCleanup now).consume limits now clientIp tenantId execCtx =
      limiter.consume limits now clientIp tenantId execCtx := by
  simp only [consume, maybeCleanup_of_not_due (not_cleanupDue_maybeCleanup limiter now)]

theorem exists_late (hrate : 0 ≤ rate) (hgap : staleSeconds * rate < burst) :
    ∃ later : ℚ, staleSeconds < later ∧ rate * later < burst := by
  have hpos : 0 < 2 * (rate + 1) := by linarith
  have hroom : 0 < (burst - staleSeconds * rate) / (2 * (rate + 1)) :=
    div_pos (sub_pos.mpr hgap) hpos
  refine ⟨staleSeconds + (burst - staleSeconds * rate) / (2 * (rate + 1)), by linarith, ?_⟩
  have hsmall : rate * ((burst - staleSeconds * rate) / (2 * (rate + 1))) <
      burst - staleSeconds * rate := by
    rw [mul_div_assoc', div_lt_iff₀ hpos]
    nlinarith [sub_pos.mpr hgap]
  linarith

def fromClient (now : ℚ) : Request := .consume now "10.0.0.1" "" none

def clientKey : String := bucketKey "10.0.0.1" "" none

theorem granted_fromClient (limiter : RateLimiter) (now : ℚ) (hdue : ¬ limiter.CleanupDue now)
    (hallowed : allowed (take limits.burst limits.rate limiter.buckets clientKey now).1 = true) :
    limiter.granted limits clientKey (fromClient now) = 1 := by
  have hconsume : (limiter.consume limits now "10.0.0.1" "" none).1 =
      (take limits.burst limits.rate limiter.buckets clientKey now).1 := by
    simp only [consume, maybeCleanup_of_not_due hdue, clientKey]
  exact if_pos ⟨rfl, by rw [hconsume]; exact hallowed⟩

theorem step_fromClient (limiter : RateLimiter) (now : ℚ) (hdue : ¬ limiter.CleanupDue now) :
    limiter.step limits (fromClient now) =
      { limiter with buckets := (take limits.burst limits.rate limiter.buckets
        clientKey now).2 } := by
  simp only [fromClient, step, consume, maybeCleanup_of_not_due hdue, clientKey]

theorem spentBetween_fromClient (limits : RateLimits) (limiter : RateLimiter)
    (hstart : start ≤ now) (hstop : now ≤ stop) (n : Nat) (hdue : ¬ limiter.CleanupDue now)
    (htokens : (n : ℚ) ≤ levelOf limits.burst limits.rate limiter.buckets clientKey now) :
    spentBetween (step limits) Request.now (fun limiter => limiter.granted limits clientKey)
      start stop limiter (List.replicate n (fromClient now)) = n := by
  refine spentBetween_replicate RateLimiter.buckets (fun limiter => ¬ limiter.CleanupDue now)
    ?_ ?_ ?_ ?_ hstart hstop n hdue htokens
  · rfl
  · intro limiter hready
    rw [step_fromClient limiter now hready]
    exact hready
  · intro limiter hready
    rw [step_fromClient limiter now hready]
  · intro limiter hready hallowed
    exact granted_fromClient limiter now hready hallowed

theorem left_fromClient (limits : RateLimits) {limiter : RateLimiter}
    (hcleanup : limiter.lastCleanup = now)
    (hrefilled : RefilledAt limiter.buckets clientKey now) (n : Nat) :
    ((List.replicate n (fromClient now)).foldl (step limits) limiter).lastCleanup = now ∧
      RefilledAt ((List.replicate n (fromClient now)).foldl (step limits) limiter).buckets
        clientKey now := by
  refine refilledAt_replicate limits.burst limits.rate RateLimiter.buckets
    (fun limiter => limiter.lastCleanup = now) ?_ ?_ hcleanup hrefilled n
  · intro limiter hready
    rw [step_fromClient limiter now (not_cleanupDue_self hready)]
    exact hready
  · intro limiter hready
    rw [step_fromClient limiter now (not_cleanupDue_self hready)]

theorem spentBetween_maybeCleanup (n : Nat) :
    spentBetween (step limits) Request.now (fun limiter => limiter.granted limits clientKey)
        start stop (limiter.maybeCleanup now) (List.replicate n (fromClient now)) =
      spentBetween (step limits) Request.now (fun limiter => limiter.granted limits clientKey)
        start stop limiter (List.replicate n (fromClient now)) := by
  cases n with
  | zero => rfl
  | succ n =>
    have hconsume := consume_maybeCleanup limits limiter now "10.0.0.1" "" none
    have hstep : (limiter.maybeCleanup now).step limits (fromClient now) =
        limiter.step limits (fromClient now) := congrArg Prod.snd hconsume
    have hgranted : (limiter.maybeCleanup now).granted limits clientKey (fromClient now) =
        limiter.granted limits clientKey (fromClient now) := by
      simp only [fromClient, granted, hconsume]
    simp only [List.replicate_succ, spentBetween, hstep, hgranted]

theorem full_of_bounded (hbounded : Bounded limits) (hburst : 0 ≤ limits.burst)
    (hrate : 0 ≤ limits.rate) : (limits.burst : ℚ) ≤ staleSeconds * limits.rate := by
  by_contra hgap
  obtain ⟨later, hlate, hsmall⟩ := exists_late hrate (lt_of_not_ge hgap)
  have hlater : (0 : ℚ) ≤ later := (staleSeconds_pos.trans hlate).le
  have hcast : ((limits.burst.toNat : Nat) : ℚ) = limits.burst := by
    exact_mod_cast Int.toNat_of_nonneg hburst
  have hnow : (0 : ℚ) ≤ (fromClient 0).now := le_refl 0
  have hthen : (fromClient 0).now ≤ (fromClient later).now := hlater
  have horder : InOrder Request.now 0 (List.replicate limits.burst.toNat (fromClient 0) ++
      List.replicate limits.burst.toNat (fromClient later)) :=
    inOrder_replicate_append hnow (inOrder_replicate hthen _) _
  have hbound := (hbounded 0 _ horder 0 later hlater).1 clientKey
  have hnew : RefilledAt (new 0).buckets clientKey 0 :=
    fun _ h => (Option.some_ne_none _ h.symm).elim
  have hcreated : (new 0).lastCleanup = 0 := rfl
  obtain ⟨hcleanup, hrefilled⟩ := left_fromClient limits hcreated hnew limits.burst.toNat
  have hfirst := spentBetween_fromClient limits (new 0) (le_refl (0 : ℚ)) hlater
    limits.burst.toNat (not_cleanupDue_self hcreated) (by rw [hcast]; exact le_refl _)
  have hdue : CleanupDue ((List.replicate limits.burst.toNat (fromClient 0)).foldl
    (step limits) (new 0))
      later := by
    rw [CleanupDue, hcleanup, sub_zero]
    exact hlate.le
  have hfull : (limits.burst.toNat : ℚ) ≤ levelOf limits.burst limits.rate
      (maybeCleanup ((List.replicate limits.burst.toNat (fromClient 0)).foldl (step limits) (new 0))
        later).buckets clientKey later := by
    simp only [maybeCleanup_of_due hdue]
    rw [hrefilled.levelOf_delete (by rw [sub_zero]; exact hlate), hcast]
  have hsecond := spentBetween_fromClient limits _ hlater (le_refl later) limits.burst.toNat
    (not_cleanupDue_maybeCleanup _ _) hfull
  rw [spentBetween_maybeCleanup] at hsecond
  rw [spentBetween_append, hfirst, hsecond, Nat.cast_add, hcast, sub_zero] at hbound
  linarith

/-! ## The same for tenants -/

def ofTenant (now : ℚ) : Request := .consumeTenant now "north"

theorem spentBetween_ofTenant (limits : RateLimits) (limiter : RateLimiter)
    (hstart : start ≤ now) (hstop : now ≤ stop) (n : Nat) (htokens : (n : ℚ) ≤
      levelOf limits.tenantBurst limits.tenantRate limiter.tenantLimiters "north" now) :
    spentBetween (step limits) Request.now (fun limiter => limiter.grantedTenant limits "north")
      start stop limiter (List.replicate n (ofTenant now)) = n := by
  refine spentBetween_replicate RateLimiter.tenantLimiters (fun _ => True)
    ?_ ?_ ?_ ?_ hstart hstop n trivial htokens
  · rfl
  · exact fun _ _ => trivial
  · exact fun _ _ => rfl
  · exact fun _ _ hallowed => if_pos ⟨rfl, hallowed⟩

theorem left_ofTenant (limits : RateLimits) {limiter : RateLimiter}
    (hcleanup : limiter.lastCleanup = clock)
    (hrefilled : RefilledAt limiter.tenantLimiters "north" now) (n : Nat) :
    ((List.replicate n (ofTenant now)).foldl (step limits) limiter).lastCleanup = clock ∧
      RefilledAt ((List.replicate n (ofTenant now)).foldl (step limits) limiter).tenantLimiters
        "north" now :=
  refilledAt_replicate limits.tenantBurst limits.tenantRate RateLimiter.tenantLimiters
    (fun limiter => limiter.lastCleanup = clock) (fun _ => id) (fun _ _ => rfl) hcleanup hrefilled n

theorem tenantFull_of_bounded (hbounded : Bounded limits) (hrate : 0 ≤ limits.tenantRate) :
    (limits.tenantBurst : ℚ) ≤ staleSeconds * limits.tenantRate := by
  by_contra hgap
  obtain ⟨later, hlate, hsmall⟩ := exists_late hrate (lt_of_not_ge hgap)
  have hlater : (0 : ℚ) ≤ later := (staleSeconds_pos.trans hlate).le
  have hburst : 0 ≤ limits.tenantBurst := zero_le_one.trans (one_le_tenantBurst limits)
  have hcast : ((limits.tenantBurst.toNat : Nat) : ℚ) = limits.tenantBurst := by
    exact_mod_cast Int.toNat_of_nonneg hburst
  have hnow : (0 : ℚ) ≤ (ofTenant 0).now := le_refl 0
  have hthen : (fromClient later).now ≤ (ofTenant later).now := le_refl later
  have hrest : InOrder Request.now (ofTenant 0).now
      (fromClient later :: List.replicate limits.tenantBurst.toNat (ofTenant later)) :=
    ⟨hlater, inOrder_replicate hthen _⟩
  have horder : InOrder Request.now 0 (List.replicate limits.tenantBurst.toNat (ofTenant 0) ++
      fromClient later :: List.replicate limits.tenantBurst.toNat (ofTenant later)) :=
    inOrder_replicate_append hnow hrest _
  have hbound := (hbounded 0 _ horder 0 later hlater).2 "north"
  have hcreated : (new 0).lastCleanup = 0 := rfl
  have hnew : RefilledAt (new 0).tenantLimiters "north" 0 :=
    fun _ h => (Option.some_ne_none _ h.symm).elim
  obtain ⟨hcleanup, hrefilled⟩ := left_ofTenant limits hcreated hnew limits.tenantBurst.toNat
  have hfirst := spentBetween_ofTenant limits (new 0) (le_refl (0 : ℚ)) hlater
    limits.tenantBurst.toNat (by rw [hcast]; exact le_refl _)
  have hdue : CleanupDue
      ((List.replicate limits.tenantBurst.toNat (ofTenant 0)).foldl (step limits)
        (new 0)) later := by
    rw [CleanupDue, hcleanup, sub_zero]
    exact hlate.le
  have hcleaned : (((List.replicate limits.tenantBurst.toNat (ofTenant 0)).foldl (step limits)
      (new 0)).step limits (fromClient later)).tenantLimiters =
        ((List.replicate limits.tenantBurst.toNat (ofTenant 0)).foldl (step limits)
          (new 0)).tenantLimiters.delete (isStale later) := by
    simp only [fromClient, step, consume, maybeCleanup_of_due hdue]
  have hfull : (limits.tenantBurst.toNat : ℚ) ≤ levelOf limits.tenantBurst limits.tenantRate
      (((List.replicate limits.tenantBurst.toNat (ofTenant 0)).foldl (step limits)
        (new 0)).step limits (fromClient later)).tenantLimiters "north" later := by
    rw [hcleaned, hrefilled.levelOf_delete (by rw [sub_zero]; exact hlate), hcast]
  have hsecond := spentBetween_ofTenant limits _ hlater
    (le_refl later) limits.tenantBurst.toNat hfull
  have hbetween : ∀ limiter : RateLimiter,
    limiter.grantedTenant limits "north" (fromClient later) = 0 :=
    fun _ => rfl
  rw [spentBetween_append, hfirst, spentBetween, hsecond, hbetween, ite_self, Nat.zero_add,
    Nat.cast_add, hcast, sub_zero] at hbound
  linarith

/-! ## All configurations -/

theorem nonneg_of_room {capacity rate : ℚ}
    (hroom : ∀ stop : ℚ, 0 ≤ stop → 0 ≤ capacity + rate * stop) : 0 ≤ capacity ∧ 0 ≤ rate := by
  have hcapacity : 0 ≤ capacity := by simpa using hroom 0 (le_refl 0)
  refine ⟨hcapacity, ?_⟩
  by_contra hnegative
  have hpos : 0 < -rate := neg_pos.mpr (lt_of_not_ge hnegative)
  have hlater := hroom ((capacity + 1) / -rate) (div_nonneg (by linarith) hpos.le)
  have hused : rate * ((capacity + 1) / -rate) = -(capacity + 1) := by
    rw [mul_div_assoc', div_eq_iff hpos.ne']
    ring
  linarith

/-- The configurations that keep the bound are those whose burst is not negative, whose rate
brings in the burst within the stale time, and whose tenant rate brings in the tenant burst. -/
theorem bounded_iff (limits : RateLimits) : Bounded limits ↔
      0 ≤ limits.burst ∧ (limits.burst : ℚ) ≤ staleSeconds * limits.rate ∧
        (limits.tenantBurst : ℚ) ≤ staleSeconds * limits.tenantRate := by
  constructor
  · intro hbounded
    have hidle : ∀ stop : ℚ, 0 ≤ stop → (0 : ℚ) ≤ limits.burst + limits.rate * stop ∧
        (0 : ℚ) ≤ limits.tenantBurst + limits.tenantRate * stop := by
      intro stop hstop
      obtain ⟨hclient, htenant⟩ := hbounded 0 [] trivial 0 stop hstop
      have h := hclient clientKey
      have h' := htenant "north"
      rw [spentBetween, Nat.cast_zero, sub_zero] at h h'
      exact ⟨h, h'⟩
    obtain ⟨hburst, hrate⟩ := nonneg_of_room fun stop hstop => (hidle stop hstop).1
    obtain ⟨-, htenantRate⟩ := nonneg_of_room fun stop hstop => (hidle stop hstop).2
    exact ⟨Int.cast_nonneg_iff.mp hburst,
      full_of_bounded hbounded (Int.cast_nonneg_iff.mp hburst) hrate,
      tenantFull_of_bounded hbounded htenantRate⟩
  · rintro ⟨hburst, hfull, htenant⟩
    exact bounded_of_full hburst hfull htenant

theorem hour_ne : (3600 : ℚ) ≠ 0 := by norm_num

def hourly : RateLimits := ⟨1, 3600, 2, 10, hour_ne⟩

def twice : List Request :=
  [fromClient 0, fromClient 0, fromClient 601, fromClient 601]

/-- Four requests are allowed within eleven minutes. -/
theorem not_bounded_hourly : ¬ Bounded hourly := by
  intro hbounded
  have horder : InOrder Request.now 0 twice := by
    simp [InOrder, twice, fromClient, Request.now]
  have hbound := (hbounded 0 twice horder 0 601 (by norm_num)).1 clientKey
  have hspent : spentBetween (step hourly) Request.now
      (fun limiter => limiter.granted hourly clientKey) 0 601 (new 0) twice = 4 := by
    decide +kernel
  rw [hspent] at hbound
  norm_num [hourly, RateLimits.rate] at hbound

end RateLimiter

end HiAgent.Server
