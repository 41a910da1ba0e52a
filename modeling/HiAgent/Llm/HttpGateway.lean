/-
  Llm/HttpGateway.lean --- `HTTPGateway` of `hi_agent/llm/http_gateway.py`.

  `_direct_complete` posts a request until an attempt is answered, and translates what `httpx`
  raises into the errors of `hi_agent/llm/errors.py`.
-/
import HiAgent.Foundation.PyValue
import HiAgent.Llm.Failover

namespace HiAgent.Llm

open Foundation

/-- What a gateway raises. -/
inductive GatewayError where
  /-- `LLMProviderError`. -/
  | providerError (message : String) (statusCode : Option Int)
  /-- `LLMTimeoutError`. -/
  | timeoutError (message : String)
  /-- Any other exception that is not one of `httpx`. -/
  | raised

/-- `TokenUsage`. The counts are what the provider has written there. -/
structure TokenUsage where
  promptTokens : PyValue
  completionTokens : PyValue
  totalTokens : PyValue

structure LlmResponse where
  content : PyValue
  model : PyValue
  usage : TokenUsage
  finishReason : PyValue
  raw : PyDict

/-! ## Parsing -/

/-- The fields of an object; `.get` of anything else raises. -/
def fieldsOf : PyValue → Except GatewayError PyDict
  | .dict fields => .ok fields
  | _ => .error .raised

/-- `choices[0]`. -/
def firstOf : PyValue → Except GatewayError PyValue
  | .list (choice :: _) => .ok choice
  | _ => .error .raised

def parseResponse (raw : PyValue) (model : String) : Except GatewayError LlmResponse :=
  (fieldsOf raw).bind fun raw =>
    let choices := raw.get "choices" (.list [])
    if choices.truthy then
      (firstOf choices).bind fun choice =>
        (fieldsOf choice).bind fun choice =>
          (fieldsOf (choice.get "message" (.dict []))).bind fun message =>
            (fieldsOf (raw.get "usage" (.dict []))).map fun usage =>
              { content := message.get "content" (.str "")
                model := raw.get "model" (.str model)
                usage :=
                  { promptTokens := usage.get "prompt_tokens" (.int 0)
                    completionTokens := usage.get "completion_tokens" (.int 0)
                    totalTokens := usage.get "total_tokens" (.int 0) }
                finishReason := choice.get "finish_reason" (.str "stop")
                raw := raw }
    else .error (.providerError "Empty choices in provider response" none)

/-! ## Attempts -/

/-- What a `post` comes to. -/
inductive Posted where
  /-- A response: its status, its text, the header `Retry-After` and its body as JSON,
  when it is. -/
  | answered (statusCode : Int) (text : String) (retryAfter : Option String)
      (body : Except GatewayError PyValue)
  /-- `httpx.TimeoutException`, with its text. -/
  | timeout (text : String)
  /-- Another `httpx.RequestError`, with its text. -/
  | requestError (text : String)
  | raised

/-- `HTTPGateway`, without a failover chain and without a budget. -/
structure HttpGateway where
  maxRetries : Int
  defaultModel : String
  /-- `float()` of a text. -/
  float : String → Option Seconds

namespace HttpGateway

variable (gateway : HttpGateway)

def modelOf (model : String) : String :=
  if model = "default" then gateway.defaultModel else model

/-- `raise_for_status` raises. -/
def isError (statusCode : Int) : Bool := decide (statusCode < 200 ∨ 299 < statusCode)

def httpError (statusCode : Int) (text : String) : GatewayError :=
  .providerError ("HTTP " ++ toString statusCode ++ ": " ++ text) (some statusCode)

/-- The backoff of an attempt may be computed: the header of a 429 is a number, when it
is there and not empty. -/
def backsOff (statusCode : Int) (retryAfter : Option String) : Bool :=
  statusCode != 429 || (retryAfter.filter (· ≠ "")).all fun text => (gateway.float text).isSome

/-- The loop of `_direct_complete`: `left` attempts, and the last error. -/
def attempts (model : String) (posts : Nat → Posted) :
    Nat → Nat → GatewayError → Except GatewayError LlmResponse
  | 0, _, last => .error last
  | left + 1, attempt, _ =>
    match posts attempt with
    | .answered statusCode text retryAfter body =>
      if isError statusCode then
        if statusCode < 500 ∧ statusCode ≠ 429 then .error (httpError statusCode text)
        else if left ≠ 0 ∧ gateway.backsOff statusCode retryAfter = false then
          .error .raised
        else attempts model posts left (attempt + 1) (httpError statusCode text)
      else body.bind fun raw => parseResponse raw model
    | .timeout text => .error (.timeoutError text)
    | .requestError text =>
      attempts model posts left (attempt + 1) (.providerError text none)
    | .raised => .error .raised

/-- `_direct_complete`. Without an attempt there is no error to raise, which is one. -/
def directComplete (model : String) (posts : Nat → Posted) : Except GatewayError LlmResponse :=
  gateway.attempts (gateway.modelOf model) posts (gateway.maxRetries + 1).toNat 0 .raised

/-- `complete`, as a failover chain sees it end. -/
def complete (model : String) (posts : Nat → Posted) : Outcome LlmResponse GatewayError :=
  match gateway.directComplete model posts with
  | .ok response => .response response
  | .error error => .failed (.other error)

end HttpGateway

/-- The gateway that `CognitionBuilder._build_failover_chain` builds for a key. -/
def gatewayFactory (defaultModel : String) (float : String → Option Seconds) : HttpGateway where
  maxRetries := 0
  defaultModel := defaultModel
  float := float

/-! ## The law -/

/-- The provider answers with an error, or the connection times out. -/
def Posted.Fails : Posted → Prop
  | .answered statusCode _ _ _ =>
    statusCode = 401 ∨ statusCode = 402 ∨ statusCode = 403 ∨ statusCode = 429 ∨
      (500 ≤ statusCode ∧ statusCode ≤ 599)
  | .timeout _ => True
  | _ => False

def Ending.IsRaised {α ε : Type} : Ending α ε → Prop
  | .raised _ => True
  | _ => False

def ChainEvent.GoesOn {α ε : Type} : ChainEvent α ε → Prop
  | .answered index _ _ _ _ => index = 0
  | .woken index _ => index = 0
  | _ => False

/-- The first call of a chain, up to the answer to its first request: what is read when
a credential is chosen, what the provider answers and what is read afterwards. -/
structure FirstAttempt where
  begun : Attempt
  model : String
  posts : Nat → Posted
  markedAt : Int
  checkedAt : Int
  next : Attempt

namespace FirstAttempt

variable (env : ChainEnv) (gateway : HttpGateway) (attempt : FirstAttempt) (pool : CredentialPool)

def chosen : Option CredentialEntry := (pool.nextEligible attempt.begun.now).1

def events : List (ChainEvent LlmResponse GatewayError) :=
  [.called false attempt.begun,
    .answered 0 (gateway.complete attempt.model attempt.posts) attempt.markedAt
      attempt.checkedAt attempt.next]

def after : FailoverChain LlmResponse GatewayError :=
  exec (FailoverChain.step env) (.new pool) (attempt.events gateway)

def Cooled (apiKey : String) : Prop :=
  ∀ entry ∈ (attempt.after env gateway pool).pool.entries, entry.apiKey = apiKey →
    entry.cooldownUntil.isBefore attempt.begun.now = false

/-- However the call goes on, it does not raise before it has tried another key. -/
def TriesAnother (apiKey : String) : Prop :=
  ∀ events : List (ChainEvent LlmResponse GatewayError), (∀ event ∈ events, event.GoesOn) →
    ∀ finished ∈ (exec (FailoverChain.step env) (attempt.after env gateway pool) events).ended,
      finished.2.IsRaised → ∃ other ∈ finished.1.tried, other ≠ apiKey

/-- The key that was chosen is put in cooldown, and the request is tried with another
one before the call raises. -/
def FailsOver : Prop :=
  ∀ entry ∈ attempt.chosen pool, attempt.Cooled env gateway pool entry.apiKey ∧
      attempt.TriesAnother env gateway pool entry.apiKey

end FirstAttempt

/-! ## What a gateway answers -/

theorem HttpGateway.complete_of_fails (defaultModel model : String)
    (float : String → Option Seconds) {posts : Nat → Posted} (h : (posts 0).Fails) :
    ∃ error, (gatewayFactory defaultModel float).complete model posts = .failed (.other error) := by
  have hraises : ∃ error,
      (gatewayFactory defaultModel float).directComplete model posts = .error error := by
    rw [directComplete]
    change ∃ error, attempts _ _ posts 1 0 _ = .error error
    rw [attempts]
    cases hpost : posts 0 with
    | answered statusCode text retryAfter body =>
      rw [hpost] at h
      have herror : isError statusCode = true := by
        rw [isError, decide_eq_true_eq]
        rcases h with h | h | h | h | h <;> omega
      simp only [herror, if_true]
      split
      · exact ⟨_, rfl⟩
      · exact ⟨_, rfl⟩
    | _ => exact ⟨_, rfl⟩
  obtain ⟨error, herror⟩ := hraises
  refine ⟨error, ?_⟩
  rw [complete, herror]

namespace FirstAttempt

variable {env : ChainEnv} {gateway : HttpGateway} {attempt : FirstAttempt}
variable {pool : CredentialPool} {entry : CredentialEntry}

def progressOf (entry : CredentialEntry) : Progress LlmResponse :=
  { (Progress.new false : Progress LlmResponse) with
    lastProvider := some entry.provider
    tried := [entry.apiKey] }

theorem step_called (hretries : 0 ≤ env.policy.maxRetries)
    (hchosen : attempt.chosen pool = some entry) :
    (FailoverChain.new pool : FailoverChain LlmResponse GatewayError).step env
        (.called false attempt.begun) = ⟨(pool.nextEligible attempt.begun.now).2,
        [⟨progressOf entry, entry.apiKey, entry.provider, .completing⟩], []⟩ := by
  have hfirst : ((Progress.new false : Progress LlmResponse).attempt : Int) <
      env.policy.maxRetries + 1 := by
    change (0 : Int) < _
    omega
  have hnext : pool.nextEligible attempt.begun.now =
      (some entry, (pool.nextEligible attempt.begun.now).2) := Prod.ext hchosen rfl
  simp only [FailoverChain.step, FailoverChain.new, Progress.attemptNext]
  rw [if_pos hfirst, hnext]
  rfl

theorem after_eq (hretries : 0 ≤ env.policy.maxRetries)
    (hchosen : attempt.chosen pool = some entry) {error : GatewayError}
    (hfailed : gateway.complete attempt.model attempt.posts = .failed (.other error)) :
    attempt.after env gateway pool = ⟨(pool.nextEligible attempt.begun.now).2, [],
        [(progressOf entry, .raised (.propagated (.other error)))]⟩ := by
  rw [after, events, exec_cons, exec_cons, exec_nil, step_called hretries hchosen, hfailed]
  rfl

theorem not_cooled_and_not_triesAnother (hretries : 0 ≤ env.policy.maxRetries)
    (hchosen : attempt.chosen pool = some entry) {error : GatewayError}
    (hfailed : gateway.complete attempt.model attempt.posts = .failed (.other error)) :
    ¬ attempt.Cooled env gateway pool entry.apiKey ∧
      ¬ attempt.TriesAnother env gateway pool entry.apiKey := by
  have hafter := after_eq hretries hchosen hfailed
  refine ⟨fun hcooled => ?_, fun htries => ?_⟩
  · obtain ⟨hmem, heligible⟩ := CredentialPool.of_nextEligible hchosen
    have hkept : entry ∈ (attempt.after env gateway pool).pool.entries := by
      rw [hafter]
      change entry ∈ (pool.nextEligible attempt.begun.now).2.entries
      rw [CredentialPool.entries_nextEligible]
      exact hmem
    have hnot := hcooled entry hkept rfl
    rw [heligible] at hnot
    cases hnot
  · have hended := htries [] (fun event hevent => by cases hevent)
    rw [exec_nil, hafter] at hended
    obtain ⟨other, hother, hne⟩ := hended _ List.mem_cons_self trivial
    exact hne (List.mem_singleton.mp hother)

/-- The chain that the builder makes never fails over. -/
theorem not_failsOver (env : ChainEnv) (attempt : FirstAttempt) (pool : CredentialPool)
    (defaultModel : String) (float : String → Option Seconds)
    (hretries : 0 ≤ env.policy.maxRetries) (hchosen : attempt.chosen pool ≠ none)
    (hfails : (attempt.posts 0).Fails) :
    ¬ attempt.FailsOver env (gatewayFactory defaultModel float) pool := by
  intro hover
  obtain ⟨entry, hentry⟩ := Option.ne_none_iff_exists'.mp hchosen
  obtain ⟨error, hfailed⟩ := HttpGateway.complete_of_fails defaultModel attempt.model float hfails
  obtain ⟨hcooled, -⟩ := not_cooled_and_not_triesAnother hretries hentry hfailed
  exact hcooled (hover entry hentry).1

/-- A call that is limited with the first of two keys. -/
def rateLimited : FirstAttempt where
  begun := ⟨1000, false⟩
  model := "default"
  posts := fun _ => .answered 429 "slow down" none (.error .raised)
  markedAt := 1200
  checkedAt := 1200
  next := ⟨1200, false⟩

def twoKeys : CredentialPool :=
  .new [.new "k-1" "anthropic", .new "k-2" "anthropic"] (List.cons_ne_nil _ _)

theorem not_failsOver_twoKeys :
    (0 ≤ (3 : Int) ∧ rateLimited.chosen twoKeys ≠ none ∧ (rateLimited.posts 0).Fails) ∧
      ¬ rateLimited.FailsOver ⟨⟨3⟩, id, fun _ => none⟩ (gatewayFactory "gpt-4o" fun _ => none)
        twoKeys := by
  have hchosen : rateLimited.chosen twoKeys ≠ none := by decide
  have hfails : (rateLimited.posts 0).Fails := .inr (.inr (.inr (.inl rfl)))
  exact ⟨⟨by decide, hchosen, hfails⟩, not_failsOver ⟨⟨3⟩, id, fun _ => none⟩ rateLimited
    twoKeys "gpt-4o" (fun _ => none) (by decide) hchosen hfails⟩

/-- A rate limit with the first of two keys ends the call. -/
theorem not_forall_failsOver : ¬ ∀ (env : ChainEnv) (attempt : FirstAttempt) (pool : CredentialPool)
        (defaultModel : String) (float : String → Option Seconds),
      1 ≤ env.policy.maxRetries → (attempt.posts 0).Fails →
        (∃ first ∈ pool.entries, ∃ second ∈ pool.entries, first.apiKey ≠ second.apiKey) →
          attempt.FailsOver env (gatewayFactory defaultModel float) pool := by
  intro h
  have hover := h ⟨⟨3⟩, id, fun _ => none⟩ rateLimited twoKeys "gpt-4o" (fun _ => none)
    (by decide) (.inr (.inr (.inr (.inl rfl)))) (by decide) (.new "k-1" "anthropic") (by decide)
  exact absurd (hover.1 (.new "k-1" "anthropic") (by decide) rfl) (by decide)

end FirstAttempt

end HiAgent.Llm
