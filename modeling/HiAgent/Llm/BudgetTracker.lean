/-
  Llm/BudgetTracker.lean --- `LLMBudgetTracker` of `hi_agent/llm/budget_tracker.py`.

  The tracker counts calls and adds up tokens, over all calls and for each tenant, under a
  lock. `HttpLLMGateway.complete` and `HTTPGateway.complete` check the budget first; the
  charge is made behind the direct path, which they take when there is no failover chain or
  the chain raises.
-/
import HiAgent.Foundation.Dict
import HiAgent.Llm.HttpGateway

namespace HiAgent.Llm

open Foundation

/-- A value that is an `int`; the truth values are. -/
def integerOf : PyValue → Option Int
  | .int value => some value
  | .bool value => some (if value then 1 else 0)
  | _ => none

/-- What the tracker does with values that are not both integers, and how it prints. -/
structure BudgetEnv where
  /-- `left + right`. -/
  mixedSum : PyValue → PyValue → Except Raised PyValue
  /-- `value >= limit`. -/
  mixedReaches : PyValue → Int → Bool
  str : PyValue → String
  repr : String → String

namespace BudgetEnv

variable (env : BudgetEnv)

/-- `left + right`. -/
def plus (left right : PyValue) : Except Raised PyValue :=
  match integerOf left, integerOf right with
  | some left, some right => .ok (.int (left + right))
  | _, _ => env.mixedSum left right

/-- `value >= limit`. -/
def reaches (value : PyValue) (limit : Int) : Bool :=
  match integerOf value with
  | some value => decide (limit ≤ value)
  | none => env.mixedReaches value limit

end BudgetEnv

/-- What the methods of the tracker raise. -/
inductive BudgetError where
  /-- `LLMBudgetExhaustedError`. -/
  | exhausted (message : String)
  /-- `.strip` of a tenant that is no text. -/
  | attributeError
  | raised (error : Raised)
  deriving DecidableEq

/-- `tenant_id.strip()`, when there is a tenant. -/
def tenantKey : PyValue → Except BudgetError (Option String)
  | .str tenantId => .ok (if Text.strip tenantId = "" then none else some (Text.strip tenantId))
  | value => if value.truthy then .error .attributeError else .ok none

structure LlmBudgetTracker where
  maxCalls : Int
  maxTokens : Int
  totalCalls : Int
  totalTokens : PyValue
  perTenantCalls : Dict String Int
  perTenantTokens : Dict String PyValue

namespace LlmBudgetTracker

variable (tracker : LlmBudgetTracker) (env : BudgetEnv)

/-- `__init__`. -/
def new (maxCalls maxTokens : Int) : LlmBudgetTracker where
  maxCalls := maxCalls
  maxTokens := maxTokens
  totalCalls := 0
  totalTokens := .int 0
  perTenantCalls := Dict.empty
  perTenantTokens := Dict.empty

def callsOf (tid : String) : Int := tracker.perTenantCalls.getD tid 0

def tokensOf (tid : String) : PyValue := tracker.perTenantTokens.getD tid (.int 0)

/-- `record`, with what it has written when it raises. -/
def record (usage : TokenUsage) (tenantId : PyValue) : Except BudgetError Unit × LlmBudgetTracker :=
  let counted := { tracker with totalCalls := tracker.totalCalls + 1 }
  match env.plus tracker.totalTokens usage.totalTokens with
  | .error error => (.error (.raised error), counted)
  | .ok total =>
    let summed := { counted with totalTokens := total }
    match tenantKey tenantId with
    | .error error => (.error error, summed)
    | .ok none => (.ok (), summed)
    | .ok (some tid) =>
      let called :=
        { summed with perTenantCalls := tracker.perTenantCalls.set tid (tracker.callsOf tid + 1) }
      match env.plus (tracker.tokensOf tid) usage.totalTokens with
      | .error error => (.error (.raised error), called)
      | .ok tokens =>
        (.ok (), { called with perTenantTokens := tracker.perTenantTokens.set tid tokens })

def check (tenantId : PyValue) : Except BudgetError Unit :=
  (tenantKey tenantId).bind fun tid =>
    if tracker.maxCalls ≤ tracker.totalCalls then
      .error (.exhausted ("Call budget exhausted: " ++ toString tracker.totalCalls ++ "/" ++
        toString tracker.maxCalls))
    else if env.reaches tracker.totalTokens tracker.maxTokens then
      .error (.exhausted ("Token budget exhausted: " ++ env.str tracker.totalTokens ++ "/" ++
        toString tracker.maxTokens))
    else
      match tid with
      | none => .ok ()
      | some tid =>
        if tracker.maxCalls ≤ tracker.callsOf tid then
          .error (.exhausted ("Call budget exhausted for tenant " ++ env.repr tid ++ ": " ++
            toString (tracker.callsOf tid) ++ "/" ++ toString tracker.maxCalls))
        else if env.reaches (tracker.tokensOf tid) tracker.maxTokens then
          .error (.exhausted ("Token budget exhausted for tenant " ++ env.repr tid ++ ": " ++
            env.str (tracker.tokensOf tid) ++ "/" ++ toString tracker.maxTokens))
        else .ok ()

variable {tracker env}

theorem totalCalls_record (usage : TokenUsage) (tenantId : PyValue) :
    (tracker.record env usage tenantId).2.totalCalls = tracker.totalCalls + 1 := by
  unfold record
  split
  · rfl
  · split
    · rfl
    · rfl
    · split
      · rfl
      · rfl

theorem of_record {usage : TokenUsage} {tenantId : PyValue}
    (h : (tracker.record env usage tenantId).1 = .ok ()) :
    env.plus tracker.totalTokens usage.totalTokens =
        .ok (tracker.record env usage tenantId).2.totalTokens ∧
      ∃ key, tenantKey tenantId = .ok key ∧ ∀ tid, if key = some tid then
          (tracker.record env usage tenantId).2.callsOf tid = tracker.callsOf tid + 1 ∧
            env.plus (tracker.tokensOf tid) usage.totalTokens =
              .ok ((tracker.record env usage tenantId).2.tokensOf tid) else
          (tracker.record env usage tenantId).2.callsOf tid = tracker.callsOf tid ∧
            (tracker.record env usage tenantId).2.tokensOf tid = tracker.tokensOf tid := by
  unfold record at h ⊢
  cases htotal : env.plus tracker.totalTokens usage.totalTokens with
  | error error =>
    rw [htotal] at h
    cases h
  | ok total =>
    simp only [htotal] at h ⊢
    cases hkey : tenantKey tenantId with
    | error error =>
      rw [hkey] at h
      cases h
    | ok key =>
      cases key with
      | none => exact ⟨rfl, none, rfl, fun tid => ⟨rfl, rfl⟩⟩
      | some own =>
        simp only [hkey] at h ⊢
        cases htokens : env.plus (tracker.tokensOf own) usage.totalTokens with
        | error error =>
          rw [htokens] at h
          cases h
        | ok tokens =>
          refine ⟨rfl, some own, rfl, fun tid => ?_⟩
          simp only [callsOf, tokensOf, Dict.getD_set, Option.some.injEq]
          by_cases hown : own = tid
          · subst hown
            simp only [if_true]
            exact ⟨trivial, htokens⟩
          · simp only [hown, Ne.symm hown, if_false, and_self]

theorem of_check {tenantId : PyValue} (h : tracker.check env tenantId = .ok ()) :
    (tracker.totalCalls < tracker.maxCalls ∧
        env.reaches tracker.totalTokens tracker.maxTokens = false) ∧
      ∀ tid, tenantKey tenantId = .ok (some tid) → tracker.callsOf tid < tracker.maxCalls ∧
          env.reaches (tracker.tokensOf tid) tracker.maxTokens = false := by
  unfold check at h
  obtain ⟨key, hkey, hlimits⟩ := bind_eq_ok_iff.mp h
  split at hlimits
  · cases hlimits
  · rename_i hcalls
    split at hlimits
    · cases hlimits
    · rename_i htokens
      refine ⟨⟨Int.not_le.mp hcalls, Bool.eq_false_iff.mpr htokens⟩, fun tid htid => ?_⟩
      obtain rfl : key = some tid := Except.ok.inj (hkey.symm.trans htid)
      dsimp only at hlimits
      split at hlimits
      · cases hlimits
      · rename_i hown
        split at hlimits
        · cases hlimits
        · rename_i howed
          exact ⟨Int.not_le.mp hown, Bool.eq_false_iff.mpr howed⟩

end LlmBudgetTracker

open List

/-! ## Calls -/

/-- A call of `complete` that the budget has let through. -/
structure BudgetedCall where
  /-- `request.metadata.get("tenant_id")`. -/
  tenantId : PyValue
  /-- It waits for the failover chain, and not for the direct path. -/
  chained : Bool
  /-- A limit had been reached when it started. -/
  late : Bool

/-- A response that was returned, with the tenant of its request. -/
structure Charge where
  tenantId : PyValue
  usage : TokenUsage

/-- The tracker, the calls under way and the responses returned to callers. -/
structure BudgetedGateway where
  tracker : LlmBudgetTracker
  calls : List BudgetedCall
  returned : List Charge

/-- What happens next. The number is the position of a call. -/
inductive BudgetEvent where
  /-- `complete` of a gateway with a failover chain, or without one. -/
  | called (chained : Bool) (tenantId : PyValue)
  /-- The failover chain ends. -/
  | chainEnded (call : Nat) (outcome : Except GatewayError LlmResponse)
  /-- `_direct_complete` ends. -/
  | directEnded (call : Nat) (outcome : Except GatewayError LlmResponse)
  /-- The call is cancelled. -/
  | aborted (call : Nat)

def tokenSum (env : BudgetEnv) (charges : List Charge) : Except Raised PyValue :=
  charges.foldlM (fun total charge => env.plus total charge.usage.totalTokens) (.int 0)

def tokensReach (env : BudgetEnv) (charges : List Charge) (limit : Int) : Bool :=
  match tokenSum env charges with
  | .ok total => env.reaches total limit
  | .error _ => false

namespace BudgetedGateway

variable (env : BudgetEnv) (gateway : BudgetedGateway)

def start (maxCalls maxTokens : Int) : BudgetedGateway :=
  ⟨.new maxCalls maxTokens, [], []⟩

def returnedTo (tid : String) : List Charge :=
  gateway.returned.filter fun charge => decide (tenantKey charge.tenantId = .ok (some tid))

def exhausted (charges : List Charge) : Bool :=
  decide (gateway.tracker.maxCalls ≤ charges.length) ||
    tokensReach env charges gateway.tracker.maxTokens

/-- The responses returned so far have reached a limit, all of them or those of the
tenant. -/
def reached (tenantId : PyValue) : Bool :=
  gateway.exhausted env gateway.returned || match tenantKey tenantId with
    | .ok (some tid) => gateway.exhausted env (gateway.returnedTo tid)
    | _ => false

/-- `complete`, up to its first await. -/
def call (chained : Bool) (tenantId : PyValue) : BudgetedGateway :=
  match gateway.tracker.check env tenantId with
  | .error _ => gateway
  | .ok _ =>
    { gateway with
      calls := gateway.calls ++ [⟨tenantId, chained, gateway.reached env tenantId⟩] }

/-- The call at a position, when it waits for the chain or for the direct path. -/
def callAt (index : Nat) (chained : Bool) : Option BudgetedCall :=
  gateway.calls[index]?.filter fun call => call.chained == chained

def answer (index : Nat) (call : BudgetedCall) (response : LlmResponse) : BudgetedGateway :=
  { gateway with
    calls := Roster.advance gateway.calls index none
    returned := gateway.returned ++ [⟨call.tenantId, response.usage⟩] }

def raise (index : Nat) : BudgetedGateway :=
  { gateway with calls := Roster.advance gateway.calls index none }

/-- "3. Fallback: original direct HTTP logic", behind `_direct_complete`. -/
def charge (index : Nat) (call : BudgetedCall) (response : LlmResponse) : BudgetedGateway :=
  match gateway.tracker.record env response.usage call.tenantId with
  | (.ok _, tracker) => { gateway with tracker := tracker }.answer index call response
  | (.error _, tracker) => { gateway with tracker := tracker }.raise index

/-- One event. -/
def step : BudgetEvent → BudgetedGateway
  | .called chained tenantId => gateway.call env chained tenantId
  | .chainEnded index outcome =>
    match gateway.callAt index true, outcome with
    | none, _ => gateway
    -- the chain's response is returned as it is
    | some call, .ok response => gateway.answer index call response
    | some call, .error _ =>
      { gateway with
        calls := Roster.advance gateway.calls index (some { call with chained := false }) }
  | .directEnded index outcome =>
    match gateway.callAt index false, outcome with
    | none, _ => gateway
    | some call, .ok response => gateway.charge env index call response
    | some _, .error _ => gateway.raise index
  | .aborted index => gateway.raise index

/-! ## The law -/

/-- The tracker has charged what was returned, and no call under way started after a
limit had been reached. -/
structure Charged : Prop where
  calls : gateway.tracker.totalCalls = gateway.returned.length
  tokens : tokenSum env gateway.returned = .ok gateway.tracker.totalTokens
  callsOf : ∀ tid, gateway.tracker.callsOf tid = (gateway.returnedTo tid).length
  tokensOf : ∀ tid, tokenSum env (gateway.returnedTo tid) = .ok (gateway.tracker.tokensOf tid)
  onTime : ∀ call ∈ gateway.calls, call.late = false

/-- No call returns a response of the failover chain, and a response of the direct path
can be charged. -/
def Meets : BudgetEvent → Prop
  | .chainEnded index (.ok _) => gateway.callAt index true = none
  | .directEnded index (.ok response) =>
    ∀ call ∈ gateway.callAt index false,
      (gateway.tracker.record env response.usage call.tenantId).1 = .ok ()
  | _ => True

end BudgetedGateway

/-! ## Sums -/

theorem tokenSum_append (env : BudgetEnv) (charges : List Charge) (charge : Charge) :
    tokenSum env (charges ++ [charge]) =
      (tokenSum env charges).bind fun total => env.plus total charge.usage.totalTokens := by
  rw [tokenSum, foldlM_append]
  change ((tokenSum env charges).bind fun total =>
    (env.plus total charge.usage.totalTokens).bind Except.ok) = _
  congr
  funext total
  cases env.plus total charge.usage.totalTokens with
  | error error => rfl
  | ok sum => rfl

theorem tokenSum_charged {env : BudgetEnv} {charges : List Charge} {charge : Charge}
    {before after : PyValue} (hbefore : tokenSum env charges = .ok before)
    (hplus : env.plus before charge.usage.totalTokens = .ok after) :
    tokenSum env (charges ++ [charge]) = .ok after := by
  rw [tokenSum_append, hbefore]
  exact hplus

namespace BudgetedGateway

variable {env : BudgetEnv} {gateway : BudgetedGateway}

/-! ## What an event keeps -/

theorem exhausted_eq_false {charges : List Charge} {calls : Int} {total : PyValue}
    (hcalls : calls = charges.length) (htokens : tokenSum env charges = .ok total)
    (hbelow : calls < gateway.tracker.maxCalls ∧
      env.reaches total gateway.tracker.maxTokens = false) :
    gateway.exhausted env charges = false := by
  have hreach : tokensReach env charges gateway.tracker.maxTokens = false := by
    rw [tokensReach, htokens]
    exact hbelow.2
  rw [exhausted, hreach, Bool.or_false, decide_eq_false_iff_not]
  omega

theorem Charged.reached_eq_false (h : gateway.Charged env) {tenantId : PyValue}
    (hcheck : gateway.tracker.check env tenantId = .ok ()) :
    gateway.reached env tenantId = false := by
  obtain ⟨hall, htenant⟩ := LlmBudgetTracker.of_check hcheck
  rw [reached, exhausted_eq_false h.calls h.tokens hall, Bool.false_or]
  split
  · rename_i tid htid
    exact exhausted_eq_false (h.callsOf tid) (h.tokensOf tid) (htenant tid htid)
  · rfl

theorem Charged.call (h : gateway.Charged env) (chained : Bool) (tenantId : PyValue) :
    (gateway.call env chained tenantId).Charged env := by
  unfold BudgetedGateway.call
  cases hcheck : gateway.tracker.check env tenantId with
  | error error => exact h
  | ok passed =>
    refine ⟨h.calls, h.tokens, h.callsOf, h.tokensOf, fun call hcall => ?_⟩
    rcases mem_append.mp hcall with hold | hnew
    · exact h.onTime call hold
    · rw [mem_singleton.mp hnew]
      exact h.reached_eq_false hcheck

theorem Charged.advance (h : gateway.Charged env) (index : Nat) {next : Option BudgetedCall}
    (hnext : ∀ call ∈ next, call.late = false) :
    ({ gateway with calls := Roster.advance gateway.calls index next } :
      BudgetedGateway).Charged env := by
  refine ⟨h.calls, h.tokens, h.callsOf, h.tokensOf, fun call hcall => ?_⟩
  rcases Roster.mem_advance hcall with hold | hnew
  · exact h.onTime call hold
  · exact hnext call hnew

theorem Charged.raise (h : gateway.Charged env) (index : Nat) : (gateway.raise index).Charged env :=
  h.advance index fun call hcall => by cases hcall

theorem returnedTo_answer (index : Nat) (call : BudgetedCall) (response : LlmResponse)
    (tid : String) : (gateway.answer index call response).returnedTo tid =
      if tenantKey call.tenantId = .ok (some tid) then
        gateway.returnedTo tid ++ [⟨call.tenantId, response.usage⟩]
      else gateway.returnedTo tid := by
  rw [returnedTo, answer, filter_append, filter_singleton]
  by_cases hkey : tenantKey call.tenantId = .ok (some tid)
  · simp [hkey, returnedTo]
  · simp [hkey, returnedTo]

theorem Charged.charge (h : gateway.Charged env) {index : Nat} {call : BudgetedCall}
    {response : LlmResponse}
    (hrecord : (gateway.tracker.record env response.usage call.tenantId).1 = .ok ()) :
    (gateway.charge env index call response).Charged env := by
  obtain ⟨htotal, key, hkey, htenant⟩ := LlmBudgetTracker.of_record hrecord
  have hcharge : gateway.charge env index call response = { gateway with
        tracker := (gateway.tracker.record env response.usage call.tenantId).2
        calls := Roster.advance gateway.calls index none
        returned := gateway.returned ++ [⟨call.tenantId, response.usage⟩] } := by
    rw [BudgetedGateway.charge, ← Prod.eta (gateway.tracker.record env response.usage
      call.tenantId), hrecord]
    rfl
  have hback : ∀ tid, (gateway.charge env index call response).returnedTo tid =
      if key = some tid then gateway.returnedTo tid ++ [⟨call.tenantId, response.usage⟩]
      else gateway.returnedTo tid := by
    intro tid
    have hanswer : (gateway.answer index call response).returnedTo tid = _ :=
      returnedTo_answer index call response tid
    rw [hkey] at hanswer
    simp only [Except.ok.injEq] at hanswer
    rw [hcharge, ← hanswer]
    rfl
  constructor
  case calls =>
    rw [hcharge, length_append, LlmBudgetTracker.totalCalls_record, h.calls]
    rfl
  case tokens =>
    rw [hcharge]
    exact tokenSum_charged h.tokens htotal
  case callsOf =>
    intro tid
    have hown := htenant tid
    rw [hback]
    rw [hcharge]
    split at hown
    · rename_i hsame
      rw [if_pos hsame, hown.1, h.callsOf, length_append]
      rfl
    · rename_i hother
      rw [if_neg hother, hown.1, h.callsOf]
  case tokensOf =>
    intro tid
    have hown := htenant tid
    rw [hback]
    rw [hcharge]
    split at hown
    · rename_i hsame
      rw [if_pos hsame]
      exact tokenSum_charged (h.tokensOf tid) hown.2
    · rename_i hother
      rw [if_neg hother, hown.2]
      exact h.tokensOf tid
  case onTime =>
    rw [hcharge]
    intro other hother
    exact h.onTime other (mem_of_mem_eraseIdx hother)

theorem mem_of_callAt {index : Nat} {chained : Bool} {call : BudgetedCall}
    (h : gateway.callAt index chained = some call) : call ∈ gateway.calls :=
  mem_of_getElem? (Option.filter_eq_some_iff.mp h).1

theorem Charged.step (h : gateway.Charged env) {event : BudgetEvent}
    (hmeets : gateway.Meets env event) : (gateway.step env event).Charged env := by
  cases event with
  | called chained tenantId => exact h.call chained tenantId
  | chainEnded index outcome =>
    cases hcall : gateway.callAt index true with
    | none =>
      simp only [BudgetedGateway.step, hcall]
      exact h
    | some call =>
      cases outcome with
      | ok response =>
        have hnone : gateway.callAt index true = none := hmeets
        rw [hcall] at hnone
        cases hnone
      | error error =>
        simp only [BudgetedGateway.step, hcall]
        refine h.advance index fun other hother => ?_
        rw [← Option.some.inj hother]
        exact h.onTime call (mem_of_callAt hcall)
  | directEnded index outcome =>
    cases hcall : gateway.callAt index false with
    | none =>
      simp only [BudgetedGateway.step, hcall]
      exact h
    | some call =>
      cases outcome with
      | ok response =>
        simp only [BudgetedGateway.step, hcall]
        exact h.charge (hmeets call hcall)
      | error error =>
        simp only [BudgetedGateway.step, hcall]
        exact h.raise index
  | aborted index => exact h.raise index

theorem Charged.meets (h : gateway.Charged env) {event : BudgetEvent}
    (hafter : (gateway.step env event).Charged env) : gateway.Meets env event := by
  cases event with
  | called chained tenantId => trivial
  | chainEnded index outcome =>
    cases outcome with
    | error error => trivial
    | ok response =>
      change gateway.callAt index true = none
      by_contra hcall
      obtain ⟨call, hcall⟩ := Option.ne_none_iff_exists'.mp hcall
      -- one response more, and the same count
      have hcount := hafter.calls
      simp only [BudgetedGateway.step, hcall, answer, length_append] at hcount
      have hbefore := h.calls
      rw [length_singleton] at hcount
      omega
  | directEnded index outcome =>
    cases outcome with
    | error error => trivial
    | ok response =>
      intro call hcall
      have hat : gateway.callAt index false = some call := hcall
      have hcount := hafter.calls
      simp only [BudgetedGateway.step, hat, BudgetedGateway.charge] at hcount
      cases hrecord : gateway.tracker.record env response.usage call.tenantId with
      | mk result tracker =>
        have htotal : (gateway.tracker.record env response.usage
            call.tenantId).2.totalCalls = gateway.tracker.totalCalls + 1 :=
          LlmBudgetTracker.totalCalls_record response.usage call.tenantId
        rw [hrecord] at htotal hcount
        cases result with
        | ok done => rfl
        | error error =>
          have hbefore := h.calls
          simp only [BudgetedGateway.raise] at hcount htotal
          omega
  | aborted index => trivial

/-! ## Runs -/

theorem Charged.start (maxCalls maxTokens : Int) : (start maxCalls maxTokens).Charged env where
  calls := rfl
  tokens := rfl
  callsOf := fun _ => rfl
  tokensOf := fun _ => rfl
  onTime := fun call hcall => by cases hcall

/-- The counters are right in every state of a run exactly when every response comes
from the direct path and can be charged. -/
theorem always_charged_iff_meets (env : BudgetEnv) (maxCalls maxTokens : Int)
    (events : List BudgetEvent) :
    Always (step env) (Charged env) (start maxCalls maxTokens) events ↔
      Along (step env) (Meets env) (start maxCalls maxTokens) events :=
  always_iff_along (fun _ _ h hmeets => h.step hmeets) (fun _ h => h)
    (fun _ _ h hafter => h.meets hafter) (Charged.start maxCalls maxTokens) events

/-- The failover chain answers the only call. -/
theorem not_charged_chained :
    ¬ ∀ (env : BudgetEnv) (maxCalls maxTokens : Int) (events : List BudgetEvent),
      Always (step env) (Charged env) (start maxCalls maxTokens) events := by
  intro h
  have hlast := (h ⟨fun _ _ => .error .typeError, fun _ _ => false, fun _ => "", id⟩ 100 500000
    [.called true (.str "tenant"),
      .chainEnded 0 (.ok ⟨.str "draft", .str "gpt-4o", ⟨.int 10, .int 5, .int 15⟩,
        .str "stop", []⟩)]).last.calls
  exact absurd hlast (by decide)

end BudgetedGateway

end HiAgent.Llm
