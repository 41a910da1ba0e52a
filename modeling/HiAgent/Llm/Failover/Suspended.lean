/-
  Llm/Failover/Suspended.lean --- dead credentials, and the items of a stream.

  A key is dead when a mark for a permanent reason has suspended it. It is offered again when a
  call that was in flight marks it once more, and when another entry has the same key.
-/
import HiAgent.Llm.Failover

namespace HiAgent.Llm

open Foundation List

/-! ## Marks -/

/-- What a call marks its key with. -/
inductive Mark where
  | success
  /-- `auth_permanent` or `billing`. -/
  | permanent (now : Int)
  | transient (cooldown : Seconds) (now : Int)

namespace Mark

/-- The entry after the mark. -/
def change : Mark → CredentialEntry → CredentialEntry
  | success, entry =>
    { entry with
      failureCount := 0
      cooldownUntil := .finite 0 }
  | permanent now, entry =>
    { entry with
      failureCount := entry.failureCount + 1
      cooldownUntil := Seconds.infinite.after now }
  | transient cooldown now, entry =>
    { entry with
      failureCount := entry.failureCount + 1
      cooldownUntil := cooldown.after now }

/-- The key is suspended because of `auth_permanent` or `billing`. -/
def isPermanent : Mark → Bool
  | permanent _ => true
  | _ => false

def suspends : Mark → Bool
  | success => false
  | permanent _ => true
  | transient cooldown _ => cooldown.isForever

@[simp] theorem apiKey_change (mark : Mark) (entry : CredentialEntry) :
    (mark.change entry).apiKey = entry.apiKey := by
  cases mark with
  | success => rfl
  | permanent now => rfl
  | transient cooldown now => rfl

theorem isForever_change {mark : Mark} (h : mark.suspends = true) (entry : CredentialEntry) :
    (mark.change entry).cooldownUntil.isForever = true := by
  cases mark with
  | success => cases h
  | permanent now => rfl
  | transient cooldown now =>
    cases cooldown with
    | finite span => cases h
    | infinite => rfl
    | negInfinite => cases h
    | nan => rfl

theorem suspends_of_isPermanent {mark : Mark} (h : mark.isPermanent = true) :
    mark.suspends = true := by
  cases mark with
  | success => cases h
  | permanent now => rfl
  | transient cooldown now => cases h

end Mark

namespace FailoverChain

variable {α ε : Type} (env : ChainEnv) (chain : FailoverChain α ε)

def httpMark (error : HttpStatusError) (transient : Seconds) (now : Int) : Mark :=
  if (env.reasonOf error).isPermanent then .permanent now
  else .transient transient now

/-- The mark of a failure of `complete`. -/
def completeMark (failure : Failure ε) (now : Int) : Option Mark :=
  match failure with
  | .httpStatusError error =>
    some (httpMark env error ((env.parseRetryAfter error).getD transientCooldown) now)
  | .timeoutException => some (.transient transientCooldown now)
  | .requestError _ => some (.transient transientCooldown now)
  | .other _ => none

/-- The mark of a failure in the fallback of `stream`. -/
def fallbackMark (failure : Failure ε) (now : Int) : Option Mark :=
  match failure with
  | .httpStatusError error => some (httpMark env error transientCooldown now)
  | _ => none

/-- The mark of a failure of a native stream. -/
def streamMark (failure : Failure ε) (now : Int) : Option Mark :=
  match failure with
  | .httpStatusError error =>
    some (httpMark env error ((env.parseRetryAfter error).getD transientCooldown) now)
  | .timeoutException => some (.transient transientCooldown now)
  | _ => none

/-- The mark of an event, with its key. -/
def marks : ChainEvent α ε → Option (String × Mark)
  | .answered index outcome markedAt _ _ =>
    (chain.callAt index .completing).bind fun call =>
      match outcome with
      | .response _ => some (call.apiKey, .success)
      | .failed failure =>
        (if call.progress.streams then fallbackMark env failure markedAt
          else completeMark env failure markedAt).map (call.apiKey, ·)
  | .streamEnded index ending markedAt _ =>
    (chain.callAt index .streaming).bind fun call =>
      match ending with
      | .finished => some (call.apiKey, .success)
      | .failed failure => (streamMark env failure markedAt).map (call.apiKey, ·)
  | _ => none

def marked (event : ChainEvent α ε) : List CredentialEntry :=
  match chain.marks env event with
  | none => chain.pool.entries
  | some (apiKey, mark) => updateFirst apiKey mark.change chain.pool.entries

variable {env chain}

theorem entries_attemptNext (progress : Progress α) (pool : CredentialPool) (next : Attempt) :
    ((progress.attemptNext env pool next : CredentialPool × Moved α ε)).1.entries =
      pool.entries := by
  have hpool : (pool.nextEligible next.now).2.entries = pool.entries :=
    CredentialPool.entries_nextEligible next.now
  rw [Progress.attemptNext]
  split
  · split
    · rename_i after heq
      rw [heq] at hpool
      exact hpool
    · rename_i entry after heq
      rw [heq] at hpool
      exact hpool
  · rfl

theorem entries_move (index : Nat) (moved : CredentialPool × Moved α ε) :
    (chain.move index moved).pool.entries = moved.1.entries := by
  obtain ⟨pool, moved⟩ := moved
  cases moved with
  | suspended call => rfl
  | ended progress ending => rfl

theorem entries_enter (moved : CredentialPool × Moved α ε) :
    (chain.enter moved).pool.entries = moved.1.entries := by
  obtain ⟨pool, moved⟩ := moved
  cases moved with
  | suspended call => rfl
  | ended progress ending => rfl

theorem entries_failComplete (call : ChainCall α) (pool : CredentialPool)
    (failure : Failure ε) (markedAt checkedAt : Int) (next : Attempt) :
    ((call.failComplete env pool failure markedAt checkedAt next :
        CredentialPool × Moved α ε)).1.entries = match completeMark env failure markedAt with
      | none => pool.entries
      | some mark => updateFirst call.apiKey mark.change pool.entries := by
  cases failure with
  | httpStatusError error =>
    rw [ChainCall.failComplete, completeMark, httpMark]
    cases hfixed : (env.reasonOf error).isPermanent with
    | true =>
      simp only [if_true]
      split
      · rfl
      · rw [entries_attemptNext]
        rfl
    | false => rfl
  | timeoutException => rfl
  | requestError text => rfl
  | other error => rfl

theorem entries_failFallback (call : ChainCall α) (pool : CredentialPool)
    (failure : Failure ε) (markedAt checkedAt : Int) :
    ((call.failFallback env pool failure markedAt checkedAt :
        CredentialPool × Moved α ε)).1.entries = match fallbackMark env failure markedAt with
      | none => pool.entries
      | some mark => updateFirst call.apiKey mark.change pool.entries := by
  cases failure with
  | httpStatusError error =>
    rw [ChainCall.failFallback, fallbackMark, httpMark]
    cases hfixed : (env.reasonOf error).isPermanent with
    | true =>
      simp only [if_true]
      split
      · rfl
      · rfl
    | false => rfl
  | timeoutException => rfl
  | requestError text => rfl
  | other error => rfl

theorem entries_failStream (call : ChainCall α) (pool : CredentialPool)
    (failure : Failure ε) (markedAt checkedAt : Int) :
    ((call.failStream env pool failure markedAt checkedAt : CredentialPool × Moved α ε)).1.entries =
      match streamMark env failure markedAt with
      | none => pool.entries
      | some mark => updateFirst call.apiKey mark.change pool.entries := by
  cases failure with
  | httpStatusError error =>
    rw [ChainCall.failStream, streamMark, httpMark]
    cases hfixed : (env.reasonOf error).isPermanent with
    | true =>
      simp only [if_true]
      split
      · rfl
      · rfl
    | false => rfl
  | timeoutException => rfl
  | requestError text => rfl
  | other error => rfl

theorem entries_step (event : ChainEvent α ε) :
    (chain.step env event).pool.entries = chain.marked env event := by
  cases event with
  | called streams next =>
    simp only [step, entries_enter, entries_attemptNext]
    rfl
  | answered index outcome markedAt checkedAt next =>
    cases hcall : chain.callAt index .completing with
    | none => simp only [step, marked, marks, hcall, Option.bind_none]
    | some call =>
      cases outcome with
      | response response =>
        simp only [step, marked, marks, hcall, Option.bind_some, entries_move]
        rfl
      | failed failure =>
        simp only [step, marked, marks, hcall, Option.bind_some, entries_move]
        split
        · rw [entries_failFallback]
          cases fallbackMark env failure markedAt <;> rfl
        · rw [entries_failComplete]
          cases completeMark env failure markedAt <;> rfl
  | streamEnded index ending markedAt checkedAt =>
    cases hcall : chain.callAt index .streaming with
    | none => simp only [step, marked, marks, hcall, Option.bind_none]
    | some call =>
      cases ending with
      | finished =>
        simp only [step, marked, marks, hcall, Option.bind_some, entries_move]
        rfl
      | failed failure =>
        simp only [step, marked, marks, hcall, Option.bind_some, entries_move]
        rw [entries_failStream]
        cases streamMark env failure markedAt <;> rfl
  | woken index next =>
    simp only [step]
    split
    · rfl
    · rw [entries_move, entries_attemptNext]
      rfl
  | nextEligible now => exact CredentialPool.entries_nextEligible now
  | _ =>
    simp only [step]
    split
    · rfl
    · rw [entries_move]
      rfl

end FailoverChain

/-! ## The law -/

/-- A chain, and the keys that were suspended for a permanent reason. -/
structure WatchedChain (α ε : Type) where
  chain : FailoverChain α ε
  dead : List String

namespace WatchedChain

variable {α ε : Type} (env : ChainEnv) (watched : WatchedChain α ε)

def start (pool : CredentialPool) : WatchedChain α ε := ⟨.new pool, []⟩

def step (event : ChainEvent α ε) : WatchedChain α ε where
  chain := watched.chain.step env event
  dead := watched.dead ++
    ((watched.chain.marks env event).filter fun marked => marked.2.isPermanent).toList.map
      Prod.fst

def Barred : Prop := ∀ now entry,
  (watched.chain.pool.nextEligible now).1 = some entry → entry.apiKey ∉ watched.dead

/-- A key that is suspended for good is in the pool once, and a key that is dead is
marked only with a suspension for ever. -/
def Meets (event : ChainEvent α ε) : Prop :=
  ∀ marked ∈ watched.chain.marks env event, if marked.1 ∈ watched.dead then marked.2.suspends = true
    else marked.2.isPermanent = true →
      watched.chain.pool.entries.countP (fun entry => entry.apiKey = marked.1) ≤ 1

instance (event : ChainEvent α ε) : Decidable (watched.Meets env event) :=
  inferInstanceAs (Decidable (∀ marked ∈ watched.chain.marks env event, _))

def Inv : Prop := ∀ entry ∈ watched.chain.pool.entries,
  entry.apiKey ∈ watched.dead → entry.cooldownUntil.isForever = true

variable {env watched}

theorem Inv.barred (h : watched.Inv) : watched.Barred := by
  intro now entry heligible hdead
  obtain ⟨hmem, hbefore⟩ := CredentialPool.of_nextEligible heligible
  rw [Seconds.isBefore_of_isForever (h entry hmem hdead)] at hbefore
  cases hbefore

end WatchedChain

theorem mem_updateFirst_of_countP_le {apiKey : String}
    {change : CredentialEntry → CredentialEntry} {entries : List CredentialEntry}
    (honce : entries.countP (fun entry => entry.apiKey = apiKey) ≤ 1) {entry : CredentialEntry}
    (h : entry ∈ updateFirst apiKey change entries) (hentry : entry.apiKey = apiKey) :
    ∃ old, entry = change old := by
  induction entries with
  | nil => cases h
  | cons first rest ih =>
    rw [updateFirst] at h
    rw [countP_cons] at honce
    by_cases hfirst : first.apiKey = apiKey
    · rw [if_pos hfirst] at h
      rcases mem_cons.mp h with rfl | hrest
      · exact ⟨first, rfl⟩
      · have hpos : 0 < rest.countP fun entry => entry.apiKey = apiKey :=
          countP_pos_iff.mpr ⟨entry, hrest, decide_eq_true hentry⟩
        rw [if_pos (decide_eq_true hfirst)] at honce
        omega
    · rw [if_neg hfirst] at h
      rcases mem_cons.mp h with rfl | hrest
      · exact absurd hentry hfirst
      · exact ih (by omega) hrest

namespace WatchedChain

variable {α ε : Type} {env : ChainEnv} {watched : WatchedChain α ε}

theorem Inv.mark (h : watched.Inv) {apiKey : String} {mark : Mark}
    (hmeets : if apiKey ∈ watched.dead then mark.suspends = true else mark.isPermanent = true →
        watched.chain.pool.entries.countP (fun entry => entry.apiKey = apiKey) ≤ 1)
    {entry : CredentialEntry}
    (hentry : entry ∈ updateFirst apiKey mark.change watched.chain.pool.entries)
    (hdead : entry.apiKey ∈ watched.dead ∨ mark.isPermanent = true ∧ entry.apiKey = apiKey) :
    entry.cooldownUntil.isForever = true := by
  by_cases hold : entry.apiKey ∈ watched.dead
  · rcases mem_updateFirst hentry with hmem | ⟨old, hmem, hkey, rfl⟩
    · exact h entry hmem hold
    · rw [Mark.apiKey_change, hkey] at hold
      rw [if_pos hold] at hmeets
      exact Mark.isForever_change hmeets old
  · -- the key dies with this mark, so it is in the pool once
    obtain ⟨hmark, hkey⟩ := hdead.resolve_left hold
    rw [hkey] at hold
    rw [if_neg hold] at hmeets
    obtain ⟨old, rfl⟩ := mem_updateFirst_of_countP_le (hmeets hmark) hentry hkey
    exact Mark.isForever_change (Mark.suspends_of_isPermanent hmark) old

theorem Inv.step (h : watched.Inv) {event : ChainEvent α ε} (hmeets : watched.Meets env event) :
    (watched.step env event).Inv := by
  intro entry hentry hdead
  have hentries : entry ∈ watched.chain.marked env event := by
    rw [← FailoverChain.entries_step]
    exact hentry
  rw [WatchedChain.step] at hdead
  rw [FailoverChain.marked] at hentries
  cases hmarks : watched.chain.marks env event with
  | none =>
    simp only [hmarks, Option.filter_none, Option.toList_none, map_nil,
      append_nil] at hentries hdead
    exact h entry hentries hdead
  | some marked =>
    obtain ⟨apiKey, mark⟩ := marked
    simp only [hmarks] at hentries hdead
    refine h.mark (hmeets (apiKey, mark) hmarks) hentries ?_
    refine (mem_append.mp hdead).imp_right fun hnew => ?_
    cases hfixed : mark.isPermanent with
    | false => simp [Option.filter, hfixed] at hnew
    | true => exact ⟨rfl, by simpa [Option.filter, hfixed] using hnew⟩

theorem inv_start (pool : CredentialPool) : (start pool : WatchedChain α ε).Inv := by
  intro entry _ hdead
  cases hdead

/-- Where a key that is suspended for good is in the pool once, and no call that is in
flight with a dead key marks it anew, no dead key is ever offered again. -/
theorem barred_of_meets (env : ChainEnv) (pool : CredentialPool) (events : List (ChainEvent α ε))
    (hmeets : Along (step env) (Meets env) (start pool) events) :
    Always (step env) Barred (start pool) events :=
  always_of_invariant (fun _ _ hinv hguard => hinv.step hguard) (fun _ hinv => hinv.barred)
    (inv_start pool) hmeets

/-! ## Two calls with one key -/

def plainEnv : ChainEnv where
  policy := ⟨3⟩
  lower := Text.lower
  float := fun _ => none

def invalidKey : HttpStatusError where
  statusCode := 401
  text := "Invalid_API_Key"
  retryAfter := none

def invalidated : List (ChainEvent String String) :=
  [.called false ⟨1000, false⟩, .called false ⟨1000, false⟩,
    .answered 0 (.failed (.httpStatusError invalidKey)) 1500 1500 ⟨1500, false⟩]

/-- The calls have keys of their own, and go on with the one that is left. -/
theorem barred_twoKeys : Along (step plainEnv) (Meets plainEnv)
        (start (.new [.new "k-1" "anthropic", .new "k-2" "anthropic"] (cons_ne_nil _ _)))
        (invalidated ++ [.answered 1 (.response "draft") 2000 2000 ⟨2000, false⟩]) ∧
      Always (step plainEnv) Barred
        (start (.new [.new "k-1" "anthropic", .new "k-2" "anthropic"] (cons_ne_nil _ _)))
        (invalidated ++ [.answered 1 (.response "draft") 2000 2000 ⟨2000, false⟩]) := by
  have hmeets : Along (step plainEnv) (Meets plainEnv)
      (start (.new [.new "k-1" "anthropic", .new "k-2" "anthropic"] (cons_ne_nil _ _)))
      (invalidated ++ [.answered 1 (.response "draft") 2000 2000 ⟨2000, false⟩]) := by decide
  exact ⟨hmeets, barred_of_meets plainEnv _ _ hmeets⟩

/-- The second call succeeds with the key that the first has found to be dead. -/
theorem not_barred_inFlight :
    ¬ ∀ (env : ChainEnv) (pool : CredentialPool) (events : List (ChainEvent String String)),
      Always (step env) Barred (start pool) events := by
  intro h
  have hbarred := (h plainEnv (.new [.new "k-1" "anthropic"] (cons_ne_nil _ _))
    (invalidated ++ [.answered 0 (.response "draft") 2000 2000 ⟨2000, false⟩])).last
  exact absurd (hbarred 3000 (.new "k-1" "anthropic") (by decide)) (by decide)

end WatchedChain

variable {α ε : Type}

/-! ## The law -/

def Progress.Unspliced (progress : Progress α) : Prop :=
  ∀ first ∈ progress.yielded, ∀ second ∈ progress.yielded, first.1 = second.1

/-- The exception is one that `stream` takes up at the next attempt. -/
def Failure.isRetried : Failure ε → Bool
  | .httpStatusError _ => true
  | .timeoutException => true
  | _ => false

/-- The failure suspends a key for good, and no credential of the pool is left. -/
def noneLeft (env : ChainEnv) (pool : CredentialPool) (apiKey : String) (failure : Failure ε)
    (markedAt checkedAt : Int) : Bool :=
  match failure with
  | .httpStatusError error =>
    (env.reasonOf error).isPermanent &&
      (pool.markFailed apiKey .infinite markedAt).allCoolingDown checkedAt
  | _ => false

namespace FailoverChain

variable (env : ChainEnv) (chain : FailoverChain α ε)

/-- The items of every call are those of one attempt. -/
structure Unspliced : Prop where
  suspended : ∀ call ∈ chain.calls, call.progress.Unspliced
  ended : ∀ finished ∈ chain.ended, finished.1.Unspliced

def Fails (index : Nat) (after : FailoverChain α ε) : Prop :=
  after.calls = Roster.advance chain.calls index none ∧
    ∃ progress error, after.ended = chain.ended ++ [(progress, .raised error)]

/-- A native stream that fails behind its first item ends the call with an error. -/
def EndsOnFailure : ChainEvent α ε → Prop
  | .streamEnded index (.failed failure) markedAt checkedAt =>
    ∀ call ∈ chain.callAt index .streaming, call.progress.yielded ≠ [] → chain.Fails index
        (chain.step env (.streamEnded index (.failed failure) markedAt checkedAt))
  | _ => True

/-- A native stream that fails behind its first item does so in the last attempt, with
an exception that is not taken up, or with the last credential. -/
def Meets : ChainEvent α ε → Prop
  | .streamEnded index (.failed failure) markedAt checkedAt =>
    ∀ call ∈ chain.callAt index .streaming, call.progress.yielded ≠ [] →
      failure.isRetried = true → call.hasRetry env = true →
        noneLeft env chain.pool call.apiKey failure markedAt checkedAt = true
  | _ => True

def Law (events : List (ChainEvent α ε)) : Prop :=
  Along (step env) (EndsOnFailure env) chain events ∧ Always (step env) Unspliced chain events

end FailoverChain

/-! ## Where a call goes -/

/-- A call that has yielded items is in the attempt that yields them. -/
structure ChainCall.Sound (call : ChainCall α) : Prop where
  point : call.point = .streaming ∨ call.progress.yielded = []
  attempt : ∀ item ∈ call.progress.yielded, item.1 = call.progress.attempt

def Moved.Sound : Moved α ε → Prop
  | .suspended call => call.Sound
  | .ended progress _ => progress.Unspliced

def Moved.Raises : Moved α ε → Prop
  | .ended _ (.raised _) => True
  | _ => False

section Moves

variable {env : ChainEnv} {progress : Progress α} {call : ChainCall α} {pool : CredentialPool}

theorem ChainCall.Sound.unspliced (h : call.Sound) : call.progress.Unspliced :=
  fun first hfirst second hsecond => (h.attempt first hfirst).trans (h.attempt second hsecond).symm

theorem Progress.unspliced_of_nil (h : progress.yielded = []) : progress.Unspliced := by
  intro first hfirst
  rw [h] at hfirst
  cases hfirst

theorem Progress.sound_attemptNext (h : progress.yielded = []) (next : Attempt) :
    ((progress.attemptNext env pool next : CredentialPool × Moved α ε)).2.Sound := by
  rw [Progress.attemptNext]
  split
  · split
    · exact Progress.unspliced_of_nil h
    · refine ⟨.inr h, fun item hitem => ?_⟩
      have hnone : item ∈ progress.yielded := hitem
      rw [h] at hnone
      cases hnone
  · exact Progress.unspliced_of_nil h

section

variable (hcall : call.Sound)
include hcall

theorem ChainCall.sound_backOff (hyielded : progress.yielded = call.progress.yielded)
    (hempty : call.hasRetry env = true → call.progress.yielded = []) :
    ((call.backOff env progress : Moved α ε)).Sound := by
  rw [ChainCall.backOff]
  split
  · rename_i hretry
    have hnone : progress.yielded = [] := hyielded.trans (hempty hretry)
    refine ⟨.inr hnone, fun item hitem => ?_⟩
    rw [hnone] at hitem
    cases hitem
  · intro first hfirst second hsecond
    rw [hyielded] at hfirst hsecond
    exact hcall.unspliced first hfirst second hsecond

theorem ChainCall.sound_backOffOrRaise (reason : FailoverReason)
    (message : String) (hempty : call.hasRetry env = true → call.progress.yielded = []) :
    ((call.backOffOrRaise env reason message : Moved α ε)).Sound := by
  rw [ChainCall.backOffOrRaise]
  split
  · exact ChainCall.sound_backOff hcall rfl hempty
  · exact hcall.unspliced

theorem ChainCall.sound_failComplete (hempty : call.progress.yielded = [])
    (failure : Failure ε) (markedAt checkedAt : Int) (next : Attempt) :
    ((call.failComplete env pool failure markedAt checkedAt next :
      CredentialPool × Moved α ε)).2.Sound := by
  cases failure with
  | httpStatusError error =>
    simp only [ChainCall.failComplete]
    split
    · split
      · exact hcall.unspliced
      · have hnext : (call.seen env error).next.yielded = [] := hempty
        exact Progress.sound_attemptNext hnext next
    · exact ChainCall.sound_backOff hcall rfl fun _ => hempty
  | other error => exact hcall.unspliced
  | _ => exact ChainCall.sound_backOffOrRaise hcall _ _ fun _ => hempty

theorem ChainCall.sound_failFallback (hempty : call.progress.yielded = [])
    (failure : Failure ε) (markedAt checkedAt : Int) :
    ((call.failFallback env pool failure markedAt checkedAt :
      CredentialPool × Moved α ε)).2.Sound := by
  cases failure with
  | httpStatusError error =>
    simp only [ChainCall.failFallback]
    cases hfixed : (env.reasonOf error).isPermanent with
    | true =>
      simp only [if_true, Bool.true_and]
      split
      · exact hcall.unspliced
      · exact ChainCall.sound_backOff hcall rfl fun _ => hempty
    | false => exact ChainCall.sound_backOff hcall rfl fun _ => hempty
  | _ => exact hcall.unspliced

theorem ChainCall.sound_succeed (hempty : call.progress.yielded = [])
    (response : α) : ((call.succeed pool response : CredentialPool × Moved α ε)).2.Sound := by
  simp only [ChainCall.succeed]
  split
  · intro first hfirst second hsecond
    simp only [hempty, nil_append, mem_singleton] at hfirst hsecond
    rw [hfirst, hsecond]
  · exact hcall.unspliced

theorem ChainCall.Sound.yieldItem (hpoint : call.point = .streaming)
    (item : α) : (call.yieldItem item).Sound := by
  refine ⟨.inl hpoint, fun yielded hyielded => ?_⟩
  rcases mem_append.mp hyielded with hold | hnew
  · exact hcall.attempt yielded hold
  · rw [mem_singleton.mp hnew]
    rfl

theorem ChainCall.sound_failStream (failure : Failure ε)
    (markedAt checkedAt : Int) (hempty : failure.isRetried = true → call.hasRetry env = true →
      noneLeft env pool call.apiKey failure markedAt checkedAt = false →
        call.progress.yielded = []) : ((call.failStream env pool failure markedAt checkedAt :
      CredentialPool × Moved α ε)).2.Sound := by
  cases failure with
  | httpStatusError error =>
    simp only [ChainCall.failStream]
    cases hfixed : (env.reasonOf error).isPermanent with
    | true =>
      simp only [if_true, Bool.true_and]
      split
      · exact hcall.unspliced
      · rename_i hleft
        refine ChainCall.sound_backOff hcall rfl fun hretry => hempty rfl hretry ?_
        rw [noneLeft, hfixed, Bool.true_and]
        exact Bool.eq_false_iff.mpr hleft
    | false =>
      refine ChainCall.sound_backOff hcall rfl fun hretry => hempty rfl hretry ?_
      rw [noneLeft, hfixed, Bool.false_and]
  | timeoutException =>
    exact ChainCall.sound_backOffOrRaise hcall _ _ fun hretry => hempty rfl hretry rfl
  | _ => exact hcall.unspliced

end

theorem ChainCall.raises_backOff :
    ((call.backOff env progress : Moved α ε)).Raises ↔ ¬ call.hasRetry env = true := by
  rw [ChainCall.backOff]
  split
  · rename_i hretry
    exact iff_of_false id (not_not_intro hretry)
  · rename_i hretry
    exact iff_of_true trivial hretry

theorem ChainCall.raises_backOffOrRaise (reason : FailoverReason) (message : String) :
    ((call.backOffOrRaise env reason message : Moved α ε)).Raises ↔ ¬ call.hasRetry env = true := by
  rw [ChainCall.backOffOrRaise]
  split
  · exact ChainCall.raises_backOff
  · rename_i hretry
    exact iff_of_true trivial hretry

theorem ChainCall.raises_failStream (failure : Failure ε) (markedAt checkedAt : Int) :
    ((call.failStream env pool failure markedAt checkedAt : CredentialPool × Moved α ε)).2.Raises ↔
      (failure.isRetried = true → call.hasRetry env = true →
        noneLeft env pool call.apiKey failure markedAt checkedAt = true) := by
  cases failure with
  | httpStatusError error =>
    simp only [ChainCall.failStream, noneLeft, Failure.isRetried, forall_const]
    cases hfixed : (env.reasonOf error).isPermanent with
    | true =>
      simp only [if_true, Bool.true_and]
      split
      · rename_i hleft
        exact iff_of_true trivial fun _ => hleft
      · rename_i hleft
        exact ChainCall.raises_backOff.trans (imp_congr_right fun _ => (iff_false_intro hleft).symm)
    | false =>
      simp only [Bool.false_and, Bool.false_eq_true, if_false]
      exact ChainCall.raises_backOff
  | timeoutException =>
    simp only [noneLeft, Failure.isRetried, forall_const, Bool.false_eq_true]
    exact ChainCall.raises_backOffOrRaise _ _
  | _ => exact iff_of_true trivial fun h => by cases h

end Moves

/-! ## Runs -/

namespace FailoverChain

variable {env : ChainEnv} {chain : FailoverChain α ε}

/-- Every suspended call is in the attempt that yields its items. -/
structure Inv (chain : FailoverChain α ε) : Prop where
  calls : ∀ call ∈ chain.calls, call.Sound
  ended : ∀ finished ∈ chain.ended, finished.1.Unspliced

theorem Inv.unspliced (h : chain.Inv) : chain.Unspliced :=
  ⟨fun call hcall => (h.calls call hcall).unspliced, h.ended⟩

theorem Inv.move (h : chain.Inv) (index : Nat) {moved : CredentialPool × Moved α ε}
    (hmoved : moved.2.Sound) : (chain.move index moved).Inv := by
  obtain ⟨pool, moved⟩ := moved
  cases moved with
  | suspended call =>
    refine ⟨fun other hother => ?_, h.ended⟩
    have hadvance : other ∈ Roster.advance chain.calls index (some call) := hother
    rcases Roster.mem_advance hadvance with hold | hnew
    · exact h.calls other hold
    · cases hnew
      exact hmoved
  | ended progress ending =>
    refine ⟨fun other hother => ?_, fun finished hfinished => ?_⟩
    · have hadvance : other ∈ Roster.advance chain.calls index none := hother
      rcases Roster.mem_advance hadvance with hold | hnew
      · exact h.calls other hold
      · cases hnew
    · rcases mem_append.mp hfinished with hold | hnew
      · exact h.ended finished hold
      · rw [mem_singleton.mp hnew]
        exact hmoved

theorem Inv.enter (h : chain.Inv) {moved : CredentialPool × Moved α ε}
    (hmoved : moved.2.Sound) : (chain.enter moved).Inv := by
  obtain ⟨pool, moved⟩ := moved
  cases moved with
  | suspended call =>
    refine ⟨fun other hother => ?_, h.ended⟩
    rcases mem_append.mp hother with hold | hnew
    · exact h.calls other hold
    · rw [mem_singleton.mp hnew]
      exact hmoved
  | ended progress ending =>
    refine ⟨h.calls, fun finished hfinished => ?_⟩
    rcases mem_append.mp hfinished with hold | hnew
    · exact h.ended finished hold
    · rw [mem_singleton.mp hnew]
      exact hmoved

theorem of_callAt {index : Nat} {point : ChainPoint} {call : ChainCall α}
    (h : chain.callAt index point = some call) : call ∈ chain.calls ∧ call.point = point := by
  obtain ⟨hcall, hpoint⟩ := Option.filter_eq_some_iff.mp h
  exact ⟨mem_of_getElem? hcall, of_decide_eq_true hpoint⟩

theorem Inv.yielded_eq_nil (h : chain.Inv) {index : Nat} {point : ChainPoint}
    (hpoint : point ≠ .streaming) {call : ChainCall α}
    (hcall : chain.callAt index point = some call) : call.progress.yielded = [] := by
  obtain ⟨hmem, hat⟩ := of_callAt hcall
  refine (h.calls call hmem).point.resolve_left fun hstreaming => hpoint ?_
  rw [← hat]
  exact hstreaming

theorem Inv.step (h : chain.Inv) {event : ChainEvent α ε} (hmeets : chain.Meets env event) :
    (chain.step env event).Inv := by
  cases event with
  | called streams next => exact h.enter (Progress.sound_attemptNext rfl next)
  | answered index outcome markedAt checkedAt next =>
    cases hcall : chain.callAt index .completing with
    | none =>
      simp only [FailoverChain.step, hcall]
      exact h
    | some call =>
      have hsound := h.calls call (of_callAt hcall).1
      have hempty := h.yielded_eq_nil (by decide) hcall
      cases outcome with
      | response response =>
        simp only [FailoverChain.step, hcall]
        exact h.move index (ChainCall.sound_succeed hsound hempty response)
      | failed failure =>
        simp only [FailoverChain.step, hcall]
        refine h.move index ?_
        split
        · exact ChainCall.sound_failFallback hsound hempty failure markedAt checkedAt
        · exact ChainCall.sound_failComplete hsound hempty failure markedAt checkedAt next
  | item index item =>
    cases hcall : chain.callAt index .streaming with
    | none =>
      simp only [FailoverChain.step, hcall]
      exact h
    | some call =>
      obtain ⟨hmem, hpoint⟩ := of_callAt hcall
      simp only [FailoverChain.step, hcall]
      exact h.move index ((h.calls call hmem).yieldItem hpoint item)
  | streamEnded index ending markedAt checkedAt =>
    cases hcall : chain.callAt index .streaming with
    | none =>
      simp only [FailoverChain.step, hcall]
      exact h
    | some call =>
      have hsound := h.calls call (of_callAt hcall).1
      cases ending with
      | finished =>
        simp only [FailoverChain.step, hcall]
        exact h.move index hsound.unspliced
      | failed failure =>
        simp only [FailoverChain.step, hcall]
        refine h.move index (ChainCall.sound_failStream hsound failure markedAt checkedAt ?_)
        intro hretried hretry hleft
        by_contra hyielded
        have hnone := hmeets call hcall hyielded hretried hretry
        rw [hleft] at hnone
        cases hnone
  | woken index next =>
    cases hcall : chain.callAt index .sleeping with
    | none =>
      simp only [FailoverChain.step, hcall]
      exact h
    | some call =>
      have hempty : call.progress.next.yielded = [] :=
        h.yielded_eq_nil (by decide) hcall
      simp only [FailoverChain.step, hcall]
      exact h.move index (Progress.sound_attemptNext hempty next)
  | abandoned index =>
    cases hcall : chain.calls[index]? with
    | none =>
      simp only [FailoverChain.step, hcall]
      exact h
    | some call =>
      simp only [FailoverChain.step, hcall]
      exact h.move index (h.calls call (mem_of_getElem? hcall)).unspliced
  | nextEligible now => exact ⟨h.calls, h.ended⟩

theorem fails_move (index : Nat) (moved : CredentialPool × Moved α ε) :
    chain.Fails index (chain.move index moved) ↔ moved.2.Raises := by
  obtain ⟨pool, moved⟩ := moved
  cases moved with
  | suspended call =>
    refine iff_of_false ?_ id
    rintro ⟨_, progress, error, hended⟩
    have hself : chain.ended = chain.ended ++ [(progress, .raised error)] := hended
    simp at hself
  | ended progress ending =>
    cases ending with
    | raised error => exact iff_of_true ⟨rfl, progress, error, rfl⟩ trivial
    | _ =>
      refine iff_of_false ?_ id
      rintro ⟨_, other, error, hended⟩
      have hlast := append_cancel_left hended
      simp at hlast

theorem endsOnFailure_iff_meets (event : ChainEvent α ε) :
    chain.EndsOnFailure env event ↔ chain.Meets env event := by
  cases event with
  | streamEnded index ending markedAt checkedAt =>
    cases ending with
    | finished => exact Iff.rfl
    | failed failure =>
      refine forall₂_congr fun call hcall => imp_congr_right fun _ => ?_
      have hat : chain.callAt index .streaming = some call := hcall
      simp only [FailoverChain.step, hat, fails_move]
      exact ChainCall.raises_failStream failure markedAt checkedAt
  | _ => exact Iff.rfl

/-- The streams of a run are all of one piece, and end with the first failure behind an
item, exactly where no stream is taken up again behind an item. -/
theorem unsplicedLaw_iff_meets (env : ChainEnv) (pool : CredentialPool)
    (events : List (ChainEvent α ε)) :
    Law env (new pool) events ↔ Along (step env) (Meets env) (new pool) events := by
  constructor
  · rintro ⟨hends, _⟩
    exact (along_congr (fun chain event => endsOnFailure_iff_meets event) _ events).mp hends
  · intro hmeets
    refine ⟨(along_congr (fun chain event => endsOnFailure_iff_meets event) _ events).mpr hmeets,
      ?_⟩
    have hstart : (new pool : FailoverChain α ε).Inv := by
      refine ⟨fun call hcall => ?_, fun finished hfinished => ?_⟩
      · cases hcall
      · cases hfinished
    exact always_of_invariant (fun chain event h hmeets => h.step hmeets)
      (fun chain h => h.unspliced) hstart hmeets

/-- The first connection drops behind an item, and the second yields another one. -/
theorem not_unspliced_dropped :
    ¬ ∀ (env : ChainEnv) (pool : CredentialPool) (events : List (ChainEvent String String)),
      Law env (new pool) events := by
  intro h
  have hlaw := h ⟨⟨3⟩, id, fun _ => none⟩
    (.new [.new "k-1" "anthropic", .new "k-2" "anthropic"] (cons_ne_nil _ _))
    [.called true ⟨1000, true⟩, .item 0 "The ",
      .streamEnded 0 (.failed .timeoutException) 1200 1200, .woken 0 ⟨2000, true⟩,
      .item 0 "Once "]
  have hspliced := hlaw.2.last.suspended _ mem_cons_self (0, "The ") (by decide)
    (1, "Once ") (by decide)
  exact absurd hspliced (by decide)

end FailoverChain

end HiAgent.Llm
