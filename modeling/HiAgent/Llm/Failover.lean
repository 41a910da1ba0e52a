/-
  Llm/Failover.lean --- `hi_agent/llm/failover.py`: the credential pool and the chain.

  `FailoverChain.complete` and `FailoverChain.stream` share one pool with every other call. A
  call is suspended while a gateway answers, while a stream waits for its next item and while it
  backs off; between two awaits it is one function of the pool.
-/
import HiAgent.Foundation.Machine
import HiAgent.Foundation.Text

namespace HiAgent.Llm

open Foundation List

/-! ## Reasons -/

inductive FailoverReason where
  | auth
  | authPermanent
  | billing
  | rateLimit
  | overloaded
  | serverError
  | timeout
  | contextOverflow
  | modelNotFound
  | unknown

/-- The text of a reason. -/
def FailoverReason.value : FailoverReason → String
  | auth => "auth"
  | authPermanent => "auth_permanent"
  | billing => "billing"
  | rateLimit => "rate_limit"
  | overloaded => "overloaded"
  | serverError => "server_error"
  | timeout => "timeout"
  | contextOverflow => "context_overflow"
  | modelNotFound => "model_not_found"
  | unknown => "unknown"

/-- `_PERMANENT_REASONS`. -/
def FailoverReason.isPermanent : FailoverReason → Bool
  | authPermanent => true
  | billing => true
  | _ => false

structure FailoverError where
  reason : FailoverReason
  message : String
  statusCode : Option Int
  provider : Option String

def permanentAuthHints : List String :=
  ["invalid_api_key", "invalid api key", "no such user", "account deactivated",
    "account has been disabled"]

def contextOverflowHints : List String :=
  ["context_length_exceeded", "maximum context length", "too many tokens", "context window"]

/-- `hint in body`. -/
def contains (hint body : String) : Bool :=
  (List.range (body.length + 1)).any fun place =>
    hint.toList.isPrefixOf (body.toList.drop place)

/-- `classify_http_error`, with `str.lower`. -/
def classifyHttpError (lower : String → String) (statusCode : Int) (responseBody : String) :
    FailoverReason :=
  let body := lower responseBody
  if statusCode = 401 ∨ statusCode = 403 then
    if permanentAuthHints.any fun hint => contains hint body then .authPermanent else .auth
  else if statusCode = 402 then .billing
  else if statusCode = 404 then .modelNotFound
  else if statusCode = 408 then .timeout
  else if statusCode = 429 then .rateLimit
  else if statusCode = 500 ∨ statusCode = 502 ∨ statusCode = 504 then
    if contextOverflowHints.any fun hint => contains hint body then .contextOverflow
    else .serverError
  else if statusCode = 503 ∨ statusCode = 529 then .overloaded
  else .unknown

/-! ## Spans and moments -/

/-- A `float` of seconds. -/
inductive Seconds where
  | finite (milliseconds : Int)
  | infinite
  | negInfinite
  | nan
  deriving DecidableEq

namespace Seconds

/-- `time.time() + seconds`. -/
def after (now : Int) : Seconds → Seconds
  | finite span => finite (now + span)
  | other => other

/-- `seconds < now`. -/
def isBefore (now : Int) : Seconds → Bool
  | finite moment => decide (moment < now)
  | infinite => false
  | negInfinite => true
  | nan => false

/-- `seconds >= now`. -/
def isNotBefore (now : Int) : Seconds → Bool
  | finite moment => decide (now ≤ moment)
  | infinite => true
  | negInfinite => false
  | nan => false

def isForever : Seconds → Bool
  | infinite => true
  | nan => true
  | _ => false

theorem isBefore_of_isForever {seconds : Seconds} (h : seconds.isForever = true) (now : Int) :
    seconds.isBefore now = false := by
  cases seconds with
  | finite moment => cases h
  | infinite => rfl
  | negInfinite => cases h
  | nan => rfl

end Seconds

def transientCooldown : Seconds := .finite 60000

/-! ## The pool -/

structure CredentialEntry where
  apiKey : String
  provider : String
  cooldownUntil : Seconds
  failureCount : Int
  deriving DecidableEq

def CredentialEntry.new (apiKey provider : String) : CredentialEntry :=
  ⟨apiKey, provider, .finite 0, 0⟩

/-- `CredentialPool`; an empty list of entries is refused. -/
structure CredentialPool where
  entries : List CredentialEntry
  nonempty : entries ≠ []
  roundRobinIndex : Int

/-- The first entry with a key is changed. -/
def updateFirst (apiKey : String) (change : CredentialEntry → CredentialEntry) :
    List CredentialEntry → List CredentialEntry
  | [] => []
  | entry :: rest =>
    if entry.apiKey = apiKey then change entry :: rest
    else entry :: updateFirst apiKey change rest

theorem length_updateFirst (apiKey : String) (change : CredentialEntry → CredentialEntry)
    (entries : List CredentialEntry) :
    (updateFirst apiKey change entries).length = entries.length := by
  induction entries with
  | nil => rfl
  | cons entry rest ih =>
    rw [updateFirst]
    split
    · rfl
    · rw [length_cons, length_cons, ih]

theorem updateFirst_ne_nil {apiKey : String} {change : CredentialEntry → CredentialEntry}
    {entries : List CredentialEntry} (h : entries ≠ []) :
    updateFirst apiKey change entries ≠ [] := by
  rw [← length_pos_iff, length_updateFirst]
  exact length_pos_iff.mpr h

theorem mem_updateFirst {apiKey : String} {change : CredentialEntry → CredentialEntry}
    {entries : List CredentialEntry} {entry : CredentialEntry}
    (h : entry ∈ updateFirst apiKey change entries) :
    entry ∈ entries ∨ ∃ old ∈ entries, old.apiKey = apiKey ∧ entry = change old := by
  induction entries with
  | nil => cases h
  | cons first rest ih =>
    rw [updateFirst] at h
    split at h
    · rename_i hkey
      rcases mem_cons.mp h with rfl | hrest
      · exact .inr ⟨first, mem_cons_self, hkey, rfl⟩
      · exact .inl (mem_cons_of_mem first hrest)
    · rcases mem_cons.mp h with rfl | hrest
      · exact .inl mem_cons_self
      · rcases ih hrest with hold | ⟨old, hold, hkey, heq⟩
        · exact .inl (mem_cons_of_mem first hold)
        · exact .inr ⟨old, mem_cons_of_mem first hold, hkey, heq⟩

namespace CredentialPool

variable (pool : CredentialPool)

/-- `__init__`. -/
def new (entries : List CredentialEntry) (nonempty : entries ≠ []) : CredentialPool :=
  ⟨entries, nonempty, -1⟩

/-- Where the search of `next_eligible` starts. -/
def start : Nat := ((pool.roundRobinIndex + 1) % pool.entries.length).toNat

/-- The positions in the order in which `next_eligible` tries them. -/
def probes : List Nat :=
  (List.range pool.entries.length).map fun offset =>
    (pool.start + offset) % pool.entries.length

def eligibleAt (now : Int) (index : Nat) : Bool :=
  (pool.entries[index]?).any fun entry => entry.cooldownUntil.isBefore now

def nextEligible (now : Int) : Option CredentialEntry × CredentialPool :=
  match pool.probes.find? (pool.eligibleAt now) with
  | some index => (pool.entries[index]?, { pool with roundRobinIndex := index })
  | none => (none, { pool with roundRobinIndex := pool.start })

/-- The pool with the first entry of a key changed. -/
def update (apiKey : String) (change : CredentialEntry → CredentialEntry) : CredentialPool where
  entries := updateFirst apiKey change pool.entries
  nonempty := updateFirst_ne_nil pool.nonempty
  roundRobinIndex := pool.roundRobinIndex

def markFailed (apiKey : String) (cooldownSeconds : Seconds) (now : Int) : CredentialPool :=
  pool.update apiKey fun entry =>
    { entry with
      failureCount := entry.failureCount + 1
      cooldownUntil := cooldownSeconds.after now }

def markSuccess (apiKey : String) : CredentialPool :=
  pool.update apiKey fun entry =>
    { entry with
      failureCount := 0
      cooldownUntil := .finite 0 }

def allCoolingDown (now : Int) : Bool :=
  pool.entries.all fun entry => entry.cooldownUntil.isNotBefore now

variable {pool}

@[simp] theorem entries_nextEligible (now : Int) :
    (pool.nextEligible now).2.entries = pool.entries := by
  unfold nextEligible
  split
  · rfl
  · rfl

theorem of_nextEligible {now : Int} {entry : CredentialEntry}
    (h : (pool.nextEligible now).1 = some entry) :
    entry ∈ pool.entries ∧ entry.cooldownUntil.isBefore now = true := by
  unfold nextEligible at h
  split at h
  · rename_i index hfound
    have hentry : pool.entries[index]? = some entry := h
    have heligible := find?_some hfound
    rw [eligibleAt, hentry] at heligible
    exact ⟨mem_of_getElem? h, heligible⟩
  · cases h

end CredentialPool

/-! ## What a gateway does -/

/-- `httpx.HTTPStatusError`: what the chain reads of the response. -/
structure HttpStatusError where
  statusCode : Int
  text : String
  /-- The header `Retry-After`. -/
  retryAfter : Option String

/-- The exceptions of a gateway, as the chain tells them apart. -/
inductive Failure (ε : Type) where
  | httpStatusError (error : HttpStatusError)
  /-- `httpx.TimeoutException`. -/
  | timeoutException
  /-- Another `httpx.RequestError`, with its text. -/
  | requestError (text : String)
  /-- Any other exception, a cancellation included. -/
  | other (error : ε)

/-- How `await gateway.complete(request)` ends. -/
inductive Outcome (α ε : Type) where
  | response (response : α)
  | failed (failure : Failure ε)

/-- How a native stream ends. -/
inductive StreamEnd (ε : Type) where
  | finished
  | failed (failure : Failure ε)

/-- `RetryPolicy`, without what only the length of a backoff depends on. -/
structure RetryPolicy where
  maxRetries : Int

/-- What the chain is built over: the policy, `str.lower` and `float()` of a text. -/
structure ChainEnv where
  policy : RetryPolicy
  lower : String → String
  float : String → Option Seconds

def ChainEnv.parseRetryAfter (env : ChainEnv) (error : HttpStatusError) : Option Seconds :=
  error.retryAfter.bind env.float

def ChainEnv.reasonOf (env : ChainEnv) (error : HttpStatusError) : FailoverReason :=
  classifyHttpError env.lower error.statusCode error.text

/-! ## Calls -/

/-- The exception a call ends with. -/
inductive ChainError (ε : Type) where
  | failover (error : FailoverError)
  /-- An exception of the gateway that no handler takes. -/
  | propagated (failure : Failure ε)

/-- How a call ends. The items of a stream have been yielded before. -/
inductive Ending (α ε : Type) where
  | returned (response : Option α)
  | raised (error : ChainError ε)
  /-- It is cancelled, or its consumer closes it. -/
  | abandoned

/-- A call between two attempts. -/
structure Progress (α : Type) where
  /-- `stream`, and not `complete`. -/
  streams : Bool
  attempt : Nat
  lastReason : FailoverReason
  lastStatus : Option Int
  lastProvider : Option String
  /-- The keys that gateways were built for, and the items that were yielded, each with
  the number of its attempt. -/
  tried : List String
  yielded : List (Nat × α)

/-- The await a call is suspended at. -/
inductive ChainPoint where
  /-- `gateway.complete`. -/
  | completing
  /-- The next item of a native stream, or the `yield` of the one before. -/
  | streaming
  /-- `asyncio.sleep`. -/
  | sleeping
  deriving DecidableEq

/-- A call that is suspended, and the entry of its attempt. -/
structure ChainCall (α : Type) where
  progress : Progress α
  apiKey : String
  provider : String
  point : ChainPoint

/-- What the next attempt of a call finds: the reading of the clock in `next_eligible`,
and whether the gateway that is built has a method `stream`. -/
structure Attempt where
  now : Int
  hasStream : Bool

/-- Where a call goes. -/
inductive Moved (α ε : Type) where
  | suspended (call : ChainCall α)
  | ended (progress : Progress α) (ending : Ending α ε)

section Moves

variable {α ε : Type} (env : ChainEnv)

/-- A call that begins. -/
def Progress.new (streams : Bool) : Progress α where
  streams := streams
  attempt := 0
  lastReason := .unknown
  lastStatus := none
  lastProvider := none
  tried := []
  yielded := []

namespace Progress

variable (progress : Progress α)

def next : Progress α := { progress with attempt := progress.attempt + 1 }

/-- `(HTTP {last_status})`. -/
def httpText : String :=
  "(HTTP " ++ (progress.lastStatus.map toString).getD "None" ++ ")"

/-- A `FailoverError` is raised. -/
def raise (reason : FailoverReason) (message : String) (statusCode : Option Int)
    (provider : Option String) : Moved α ε :=
  .ended progress (.raised (.failover ⟨reason, message, statusCode, provider⟩))

/-- The end of the loop. -/
def exhausted : Moved α ε :=
  let attempts := toString (env.policy.maxRetries + 1) ++ " attempt(s)."
  progress.raise progress.lastReason
    (if progress.streams then "LLM stream failover chain exhausted after " ++ attempts
    else "LLM failover chain exhausted after " ++ attempts ++ " Last failure: " ++
      progress.lastReason.value ++ " " ++ progress.httpText)
    progress.lastStatus progress.lastProvider

/-- The top of the loop, up to the first await. -/
def attemptNext (pool : CredentialPool) (next : Attempt) : CredentialPool × Moved α ε :=
  if (progress.attempt : Int) < env.policy.maxRetries + 1 then
    match pool.nextEligible next.now with
    | (none, pool) =>
      (pool, progress.raise progress.lastReason
        ((if progress.streams then "All LLM credentials are in cooldown (stream). "
          else "All LLM credentials are in cooldown. ") ++ "Last failure: " ++
            progress.lastReason.value ++ " " ++ progress.httpText)
        progress.lastStatus progress.lastProvider)
    | (some entry, pool) =>
      (pool, .suspended
        { progress :=
            { progress with
              lastProvider := some entry.provider
              tried := progress.tried ++ [entry.apiKey] }
          apiKey := entry.apiKey
          provider := entry.provider
          point := if progress.streams && next.hasStream then .streaming else .completing })
  else (pool, progress.exhausted env)

end Progress

namespace ChainCall

variable (call : ChainCall α)

def hasRetry : Bool := decide ((call.progress.attempt : Int) < env.policy.maxRetries)

/-- The call backs off, or its loop ends. -/
def backOff (progress : Progress α) : Moved α ε :=
  if call.hasRetry env then
    .suspended
      { call with
        progress := progress
        point := .sleeping }
  else progress.exhausted env

def seen (error : HttpStatusError) : Progress α :=
  { call.progress with
    lastReason := env.reasonOf error
    lastStatus := some error.statusCode }

/-- The last clause of an `except` block that raises where no attempt is left. -/
def backOffOrRaise (reason : FailoverReason) (message : String) : Moved α ε :=
  let progress := { call.progress with lastReason := reason }
  if call.hasRetry env then call.backOff env progress
  else progress.raise reason message none (some call.provider)

/-- The `except` blocks of `complete`. -/
def failComplete (pool : CredentialPool) (failure : Failure ε) (markedAt checkedAt : Int)
    (next : Attempt) : CredentialPool × Moved α ε :=
  match failure with
  | .httpStatusError error =>
    let reason := env.reasonOf error
    let progress := call.seen env error
    if reason.isPermanent then
      let pool := pool.markFailed call.apiKey .infinite markedAt
      if pool.allCoolingDown checkedAt then
        (pool, progress.raise reason
          ("Permanent failure (" ++ reason.value ++ ") from provider=" ++ call.provider ++
            ". No further credentials available.")
          (some error.statusCode) (some call.provider))
      -- the next credential is tried without a backoff
      else progress.next.attemptNext env pool next
    else
      (pool.markFailed call.apiKey ((env.parseRetryAfter error).getD transientCooldown)
        markedAt, call.backOff env progress)
  | .timeoutException =>
    (pool.markFailed call.apiKey transientCooldown markedAt, call.backOffOrRaise env .timeout
        ("LLM request timed out after " ++ toString (call.progress.attempt + 1) ++ " attempt(s)."))
  | .requestError text =>
    (pool.markFailed call.apiKey transientCooldown markedAt,
      call.backOffOrRaise env .unknown ("LLM request failed: " ++ text))
  | .other error => (pool, .ended call.progress (.raised (.propagated (.other error))))

/-- The `except` block of `stream` around `complete` of a gateway without streams; only
an HTTP error is caught. -/
def failFallback (pool : CredentialPool) (failure : Failure ε) (markedAt checkedAt : Int) :
    CredentialPool × Moved α ε :=
  match failure with
  | .httpStatusError error =>
    let reason := env.reasonOf error
    let progress := call.seen env error
    let pool := pool.markFailed call.apiKey
      (if reason.isPermanent then .infinite else transientCooldown) markedAt
    if reason.isPermanent && pool.allCoolingDown checkedAt then
      (pool, progress.raise reason
        ("Permanent stream failure from provider=" ++ call.provider ++ ".")
        (some error.statusCode) (some call.provider))
    else (pool, call.backOff env progress)
  | failure => (pool, .ended call.progress (.raised (.propagated failure)))

/-- The `except` blocks of `stream` around a native stream. -/
def failStream (pool : CredentialPool) (failure : Failure ε) (markedAt checkedAt : Int) :
    CredentialPool × Moved α ε :=
  match failure with
  | .httpStatusError error =>
    let reason := env.reasonOf error
    let progress := call.seen env error
    let pool := pool.markFailed call.apiKey
      (if reason.isPermanent then .infinite
        else (env.parseRetryAfter error).getD transientCooldown) markedAt
    if reason.isPermanent && pool.allCoolingDown checkedAt then
      (pool, progress.raise reason
        ("Permanent stream failure from provider=" ++ call.provider ++ ".")
        (some error.statusCode) (some call.provider))
    else (pool, call.backOff env progress)
  | .timeoutException =>
    (pool.markFailed call.apiKey transientCooldown markedAt, call.backOffOrRaise env .timeout
        ("LLM stream request timed out after " ++ toString (call.progress.attempt + 1) ++
          " attempt(s)."))
  | failure => (pool, .ended call.progress (.raised (.propagated failure)))

/-- The gateway has answered: `mark_success`, and the response is returned or yielded. -/
def succeed (pool : CredentialPool) (response : α) : CredentialPool × Moved α ε :=
  (pool.markSuccess call.apiKey, if call.progress.streams then
      .ended
        { call.progress with
          yielded := call.progress.yielded ++ [(call.progress.attempt, response)] }
        (.returned none)
    else .ended call.progress (.returned (some response)))

/-- An item of a native stream is yielded. -/
def yieldItem (item : α) : ChainCall α :=
  { call with
    progress :=
      { call.progress with
        yielded := call.progress.yielded ++ [(call.progress.attempt, item)] } }

end ChainCall

end Moves

/-! ## The chain -/

/-- A `FailoverChain`, the calls it has suspended and those that have ended. -/
structure FailoverChain (α ε : Type) where
  pool : CredentialPool
  calls : List (ChainCall α)
  ended : List (Progress α × Ending α ε)

/-- What happens between two awaits. The first number is the position of a call. -/
inductive ChainEvent (α ε : Type) where
  /-- `complete` or `stream` is called. -/
  | called (streams : Bool) (next : Attempt)
  /-- `gateway.complete` ends. The clock is read while the key is marked and while
  the cooldowns are checked. -/
  | answered (call : Nat) (outcome : Outcome α ε) (markedAt checkedAt : Int)
      (next : Attempt)
  /-- A native stream has an item. -/
  | item (call : Nat) (item : α)
  /-- A native stream ends. -/
  | streamEnded (call : Nat) (ending : StreamEnd ε) (markedAt checkedAt : Int)
  /-- The backoff is over. -/
  | woken (call : Nat) (next : Attempt)
  /-- The call is cancelled, or the consumer of a stream closes it. -/
  | abandoned (call : Nat)
  /-- Another user of the pool asks for a credential. -/
  | nextEligible (now : Int)

namespace FailoverChain

variable {α ε : Type} (env : ChainEnv) (chain : FailoverChain α ε)

def new (pool : CredentialPool) : FailoverChain α ε := ⟨pool, [], []⟩

/-- A call goes on, or ends. -/
def move (index : Nat) (moved : CredentialPool × Moved α ε) : FailoverChain α ε :=
  match moved with
  | (pool, .suspended call) => ⟨pool, Roster.advance chain.calls index (some call), chain.ended⟩
  | (pool, .ended progress ending) =>
    ⟨pool, Roster.advance chain.calls index none, chain.ended ++ [(progress, ending)]⟩

def enter (moved : CredentialPool × Moved α ε) : FailoverChain α ε :=
  match moved with
  | (pool, .suspended call) => ⟨pool, chain.calls ++ [call], chain.ended⟩
  | (pool, .ended progress ending) => ⟨pool, chain.calls, chain.ended ++ [(progress, ending)]⟩

def callAt (index : Nat) (point : ChainPoint) : Option (ChainCall α) :=
  chain.calls[index]?.filter fun call => call.point = point

/-- One event. An event for which no call waits changes nothing. -/
def step : ChainEvent α ε → FailoverChain α ε
  | .called streams next =>
    chain.enter ((Progress.new streams).attemptNext env chain.pool next)
  | .answered index outcome markedAt checkedAt next =>
    match chain.callAt index .completing, outcome with
    | none, _ => chain
    | some call, .response response => chain.move index (call.succeed chain.pool response)
    | some call, .failed failure =>
      chain.move index
        (if call.progress.streams then
          call.failFallback env chain.pool failure markedAt checkedAt
        else call.failComplete env chain.pool failure markedAt checkedAt next)
  | .item index item =>
    match chain.callAt index .streaming with
    | none => chain
    | some call => chain.move index (chain.pool, .suspended (call.yieldItem item))
  | .streamEnded index ending markedAt checkedAt =>
    match chain.callAt index .streaming, ending with
    | none, _ => chain
    | some call, .finished =>
      chain.move index
        (chain.pool.markSuccess call.apiKey, .ended call.progress (.returned none))
    | some call, .failed failure =>
      chain.move index (call.failStream env chain.pool failure markedAt checkedAt)
  | .woken index next =>
    match chain.callAt index .sleeping with
    | none => chain
    | some call => chain.move index (call.progress.next.attemptNext env chain.pool next)
  | .abandoned index =>
    match chain.calls[index]? with
    | none => chain
    | some call => chain.move index (chain.pool, .ended call.progress .abandoned)
  | .nextEligible now => { chain with pool := (chain.pool.nextEligible now).2 }

end FailoverChain

end HiAgent.Llm
