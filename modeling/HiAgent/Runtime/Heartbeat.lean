/-
  Runtime/Heartbeat.lean --- the heartbeat monitor and the runs it signals.

  `RunHeartbeatMonitor` of `agent_kernel/runtime/heartbeat.py` and the way of a
  `heartbeat_timeout` signal: a sweep hands the signals of the runs that have timed out to the
  gateway, and the workflow of a run receives its signal some time later. Every report of
  the monitor about a run carries the same token.
-/
import HiAgent.Foundation.Dict
import HiAgent.Kernel.RunActorWorkflow.Signals

namespace HiAgent.Runtime

open Foundation Kernel

/-! ## The monitor -/

/-- `_DEFAULT_STATE_TIMEOUTS`, in seconds; its keys are `_MONITORED_STATES`. -/
def defaultStateTimeouts : List (String × Int) :=
  [("dispatching", 300), ("waiting_result", 600), ("waiting_external", 3600),
    ("waiting_human_input", 86400), ("recovering", 180)]

/-- `timeout_for`, with the overrides of `state_timeout_s`. -/
def timeoutFor (stateTimeoutS : List (String × Int)) (lifecycleState : String) : Option Int :=
  (defaultStateTimeouts.lookup lifecycleState).map fun default =>
    (stateTimeoutS.lookup lifecycleState).getD default

/-- `_RunHeartbeatEntry`, without the count that nothing reads. -/
structure HeartbeatEntry where
  lastSeenMs : Int
  lifecycleState : String

/-- `RunHeartbeatMonitor`. -/
structure HeartbeatMonitor where
  stateTimeoutS : List (String × Int)
  entries : Dict String HeartbeatEntry
  /-- `_timed_out`. -/
  timedOut : List String

namespace HeartbeatMonitor

def fresh (stateTimeoutS : List (String × Int)) : HeartbeatMonitor :=
  ⟨stateTimeoutS, .empty, []⟩

variable (monitor : HeartbeatMonitor)

/-- `_timed_out.discard(run_id)`. -/
def discard (runId : String) : HeartbeatMonitor :=
  { monitor with timedOut := monitor.timedOut.filter (· ≠ runId) }

def touch (runId : String) (lifecycleState : Option String) (timestampMs : Int) :
    HeartbeatMonitor :=
  let entry : HeartbeatEntry :=
    match monitor.entries.get? runId with
    | none => ⟨timestampMs, (lifecycleState.filter (· ≠ "")).getD "ready"⟩
    | some entry => ⟨timestampMs, lifecycleState.getD entry.lifecycleState⟩
  { monitor with entries := monitor.entries.set runId entry }.discard runId

def clear (runId : String) : HeartbeatMonitor :=
  { monitor with entries := monitor.entries.pop runId }.discard runId

def onRunLifecycleTransition (runId toState : String) (timestampMs : Int) : HeartbeatMonitor :=
  let touched := monitor.touch runId (some toState) timestampMs
  if toState = "completed" ∨ toState = "aborted" then touched.clear runId else touched

/-- The other hooks and `record_heartbeat`. -/
def recordActivity (runId : String) (timestampMs : Int) : HeartbeatMonitor :=
  monitor.touch runId none timestampMs

def silent (now : Int) (entry : HeartbeatEntry) : Bool :=
  (timeoutFor monitor.stateTimeoutS entry.lifecycleState).any fun timeoutS =>
    timeoutS * 1000 ≤ now - entry.lastSeenMs

def getTimedOutRuns (now : Int) : List String × HeartbeatMonitor :=
  let timedOut := (monitor.entries.rows.filter fun row =>
    !monitor.timedOut.contains row.1 && monitor.silent now row.2).map Prod.fst
  (timedOut, { monitor with timedOut := monitor.timedOut ++ timedOut })

end HeartbeatMonitor

/-! ## The way of a signal -/

/-- The signal of `watchdog_once`. -/
def heartbeatSignal (runId : String) (silentS : PyFloat) : ActorSignal where
  signalType := "heartbeat_timeout"
  signalPayload := some [("silent_s", .float silentS)]
  causedBy := some ("heartbeat_monitor:" ++ runId)
  fromPeerRunId := none

def isHeartbeat (runId : String) (signal : ActorSignal) : Bool :=
  signal.signalType == "heartbeat_timeout" &&
    signal.causedBy == some ("heartbeat_monitor:" ++ runId)

/-- A signal that the gateway has accepted and the workflow has not received. -/
structure Transit where
  runId : String
  signal : ActorSignal

/-- The monitor, the sweeps and signals on their way, and the runs. -/
structure Watchdog where
  monitor : HeartbeatMonitor
  /-- The runs that each `watchdog_once` has still to signal. -/
  sweeps : List (List String)
  inTransit : List Transit
  runs : String → SignalledRun

/-- What happens. A number is the position of a sweep or of a signal. -/
inductive WatchdogEvent where
  | lifecycleTransition (runId toState : String) (timestampMs : Int)
  | activity (runId : String) (timestampMs : Int)
  | clear (runId : String)
  /-- `watchdog_once` is called. -/
  | sweep (now : Int)
  /-- `signal_workflow` ends for the first run of a sweep; the gateway may have accepted
  the signal also when it raises. -/
  | signalled (sweep : Nat) (silentS : PyFloat) (accepted raised : Bool)
  /-- A sweep is cancelled. -/
  | cancelled (sweep : Nat)
  /-- The workflow receives a signal. -/
  | received (signal : Nat)
  /-- Anything else that happens to a run. -/
  | run (runId : String) (event : SignalEvent)

namespace Watchdog

variable (watchdog : Watchdog)

def moveSweep (index : Nat) (left : List String) : Watchdog :=
  { watchdog with
    sweeps := Roster.advance watchdog.sweeps index (if left = [] then none else some left) }

def stepRun (runId : String) (event : SignalEvent) : Watchdog :=
  { watchdog with
    runs := fun other =>
      if other = runId then (watchdog.runs runId).step event else watchdog.runs other }

/-- One event. An event for which nothing waits changes nothing. -/
def step : WatchdogEvent → Watchdog
  | .lifecycleTransition runId toState timestampMs =>
    { watchdog with
      monitor := watchdog.monitor.onRunLifecycleTransition runId toState timestampMs }
  | .activity runId timestampMs =>
    { watchdog with monitor := watchdog.monitor.recordActivity runId timestampMs }
  | .clear runId => { watchdog with monitor := watchdog.monitor.clear runId }
  | .sweep now =>
    let reported := watchdog.monitor.getTimedOutRuns now
    { watchdog with
      monitor := reported.2
      sweeps := watchdog.sweeps ++ if reported.1 = [] then [] else [reported.1] }
  | .signalled index silentS accepted raised =>
    match watchdog.sweeps[index]? with
    | some (runId :: left) =>
      { watchdog.moveSweep index left with
        monitor := if raised then watchdog.monitor.discard runId else watchdog.monitor
        inTransit := watchdog.inTransit ++
          if accepted then [⟨runId, heartbeatSignal runId silentS⟩] else [] }
    | _ => watchdog
  | .cancelled index => watchdog.moveSweep index []
  | .received index =>
    match watchdog.inTransit[index]? with
    | none => watchdog
    | some transit =>
      { watchdog with inTransit := Roster.advance watchdog.inTransit index none }.stepRun
        transit.runId (.signal transit.signal)
  | .run runId event => watchdog.stepRun runId event

end Watchdog

open List

/-! ## The law -/

def Transit.isFor (runId : String) (transit : Transit) : Bool :=
  transit.runId == runId && isHeartbeat runId transit.signal

/-- The events of a commit that tell of a timeout of the run. -/
def heartbeatEvents (runId : String) (commit : ActionCommit) : Nat :=
  if commit.commitId = "signal:heartbeat_timeout:heartbeat_monitor:" ++ runId then
    commit.events.countP fun event => event.eventType == "signal.heartbeat_timeout"
  else 0

namespace Watchdog

variable (watchdog : Watchdog)

/-- The signals of the monitor for a run that are in transit or under way, and the events in
the log of the run that tell of them. -/
def heard (runId : String) : Nat :=
  watchdog.inTransit.countP (Transit.isFor runId) +
    (watchdog.runs runId).actor.underWay.countP (isHeartbeat runId) +
    ((watchdog.runs runId).log.map fun record => heartbeatEvents runId record.commit).sum

/-- The same, with the signals that the log has taken a commit for. -/
def kept (runId : String) : Nat :=
  watchdog.inTransit.countP (Transit.isFor runId) + (watchdog.runs runId).kept (isHeartbeat runId)

/-- The signals of the monitor for a run that an event sends on their way. -/
def sent (runId : String) : WatchdogEvent → Nat
  | .signalled index _ accepted _ =>
    match watchdog.sweeps[index]? with
    | some (reported :: _) => if accepted = true ∧ reported = runId then 1 else 0
    | _ => 0
  | .run other event =>
    if other = runId then (SignalledRun.handedOver event).countP (isHeartbeat runId) else 0
  | _ => 0

/-- The signals of the monitor for a run that an event gives up. -/
def lost (runId : String) : WatchdogEvent → Nat
  | .received index =>
    match watchdog.inTransit[index]? with
    | some transit =>
      if transit.runId = runId then
        ((watchdog.runs runId).givenUp (.signal transit.signal)).countP (isHeartbeat runId)
      else 0
    | none => 0
  | .run other event =>
    if other = runId then
      ((watchdog.runs runId).givenUp event).countP (isHeartbeat runId)
    else 0
  | _ => 0

/-- No signal of the monitor is given up. -/
def Keeps : WatchdogEvent → Prop
  | .received index => ∀ transit ∈ watchdog.inTransit[index]?,
      ∀ signal ∈ (watchdog.runs transit.runId).givenUp (.signal transit.signal),
        isHeartbeat transit.runId signal = false
  | .run runId event => ∀ signal ∈ (watchdog.runs runId).givenUp event,
      isHeartbeat runId signal = false
  | _ => True

end Watchdog

/-- How the workflow of a run is started. -/
structure Launch where
  inTemporal : Bool
  historyEventThreshold : Int
  input : RunInput

def Launch.run (launch : Launch) : SignalledRun :=
  .start launch.inTemporal launch.historyEventThreshold launch.input

/-- The watchdog, and the number of signals of the monitor that were sent to each run. -/
structure Audited where
  watchdog : Watchdog
  sent : String → Nat

namespace Audited

variable (audited : Audited)

/-- What the inputs of the runs carry has been sent before. -/
def start (monitor : HeartbeatMonitor) (launch : String → Launch) : Audited where
  watchdog := ⟨monitor, [], [], fun runId => (launch runId).run⟩
  sent runId := (launch runId).input.pendingSignals.countP (isHeartbeat runId)

def step (event : WatchdogEvent) : Audited where
  watchdog := audited.watchdog.step event
  sent runId := audited.sent runId + audited.watchdog.sent runId event

/-- Each signal that was sent is in transit, under way in the workflow, or an event
`signal.heartbeat_timeout` in the log. -/
def Heard : Prop := ∀ runId, audited.watchdog.heard runId = audited.sent runId

end Audited

/-! ## The event of a timeout -/

theorem signalEventType_eq_iff (signalType : String) :
    signalEventType signalType = "signal.heartbeat_timeout" ↔ signalType = "heartbeat_timeout" := by
  have hmapped : ∀ row ∈ signalEventTypeMap, row.2 ≠ "signal.heartbeat_timeout" := by decide
  have hplain : "signal.heartbeat_timeout" = "signal." ++ "heartbeat_timeout" := rfl
  rw [signalEventType]
  cases hlookup : signalEventTypeMap.lookup signalType with
  | none => rw [Option.getD_none, hplain, String.append_right_inj]
  | some eventType =>
    obtain ⟨front, rest, hmap, -⟩ := lookup_eq_some_iff.mp hlookup
    refine iff_of_false (hmapped (signalType, eventType) ?_) fun htype => ?_
    · rw [hmap]
      exact mem_append_right _ mem_cons_self
    · rw [htype] at hlookup
      cases hlookup

theorem cause_eq_iff (signal : ActorSignal) (sequence : Nat) (runId : String) :
    signal.cause.getD ("seq-" ++ toString sequence) = "heartbeat_monitor:" ++ runId ↔
      signal.causedBy = some ("heartbeat_monitor:" ++ runId) := by
  have hseq (tail : String) : "seq-" ++ tail ≠ "heartbeat_monitor:" ++ runId := by
    intro heq
    have hhead := congrArg (fun text => text.toList.head?) heq
    simp at hhead
  have hne : "heartbeat_monitor:" ++ runId ≠ "" := by
    intro heq
    have hhead := congrArg (fun text => text.toList.head?) heq
    simp at hhead
  rw [ActorSignal.cause]
  cases signal.causedBy with
  | none => simp [hseq]
  | some cause =>
    by_cases hempty : cause = ""
    · simp [Option.filter, hempty, hseq, hne.symm]
    · simp [Option.filter, hempty]

/-- The commit of a signal has the event of a timeout exactly where the signal tells of one. -/
theorem heartbeatEvents_eq {runId : String} {signal : ActorSignal} {commit : ActionCommit}
    (h : SignalledRun.Writes signal commit) :
    heartbeatEvents runId commit = if isHeartbeat runId signal then 1 else 0 := by
  obtain ⟨hevent, sequence, hid⟩ := h
  obtain ⟨event, hevents, hwritten⟩ := map_eq_singleton_iff.mp hevent
  have hcount : (commit.events.countP fun event => event.eventType == "signal.heartbeat_timeout") =
      if signal.signalType = "heartbeat_timeout" then 1 else 0 := by
    rw [hevents, countP_singleton, (Prod.mk.inj hwritten).1]
    simp only [beq_iff_eq, signalEventType_eq_iff]
  by_cases htype : signal.signalType = "heartbeat_timeout"
  · have hsplit : "signal:heartbeat_timeout:heartbeat_monitor:" ++ runId =
        "signal:" ++ "heartbeat_timeout" ++ ":" ++ ("heartbeat_monitor:" ++ runId) := by
      rw [← String.append_assoc]
      rfl
    have hnamed : commit.commitId = "signal:heartbeat_timeout:heartbeat_monitor:" ++ runId ↔
        signal.causedBy = some ("heartbeat_monitor:" ++ runId) := by
      rw [hid, htype, hsplit, String.append_right_inj]
      exact cause_eq_iff signal sequence runId
    simp [heartbeatEvents, isHeartbeat, hnamed, hcount, htype]
  · simp [heartbeatEvents, isHeartbeat, hcount, htype]

/-! ## One event -/

namespace Watchdog

variable {watchdog : Watchdog}

theorem runs_stepRun (runId other : String) (event : SignalEvent) :
    (watchdog.stepRun runId event).runs other =
      if other = runId then (watchdog.runs runId).step event else watchdog.runs other := rfl

theorem isHeartbeat_heartbeatSignal (runId : String) (silentS : PyFloat) :
    isHeartbeat runId (heartbeatSignal runId silentS) = true := by
  simp [isHeartbeat, heartbeatSignal]

theorem kept_of_frame {runId : String} {event : WatchdogEvent}
    (htransit : (watchdog.step event).inTransit = watchdog.inTransit)
    (hruns : (watchdog.step event).runs = watchdog.runs)
    (hlost : watchdog.lost runId event = 0) (hsent : watchdog.sent runId event = 0) :
    (watchdog.step event).kept runId + watchdog.lost runId event =
      watchdog.kept runId + watchdog.sent runId event := by
  rw [kept, htransit, hruns, hlost, hsent, kept]

theorem kept_signalled (runId : String) (index : Nat) (silentS : PyFloat) (accepted raised : Bool) :
    (watchdog.step (.signalled index silentS accepted raised)).kept runId +
        watchdog.lost runId (.signalled index silentS accepted raised) = watchdog.kept runId +
        watchdog.sent runId (.signalled index silentS accepted raised) := by
  cases hsweep : watchdog.sweeps[index]? with
  | none => simp [step, sent, lost, hsweep]
  | some left =>
    cases left with
    | nil => simp [step, sent, lost, hsweep]
    | cons reported left =>
      simp only [step, sent, lost, hsweep, kept, moveSweep, countP_append, Nat.add_zero]
      cases accepted with
      | false => simp
      | true =>
        by_cases hsame : reported = runId
        · subst hsame
          simp [Transit.isFor, isHeartbeat_heartbeatSignal]
          omega
        · simp [Transit.isFor, hsame]

theorem kept_stepRun (watchdog : Watchdog) (runId other : String) (event : SignalEvent) :
    ((watchdog.stepRun other event).runs runId).kept (isHeartbeat runId) + (if other = runId then
          ((watchdog.runs runId).givenUp event).countP (isHeartbeat runId) else 0) =
      (watchdog.runs runId).kept (isHeartbeat runId) + (if other = runId then
          (SignalledRun.handedOver event).countP (isHeartbeat runId) else 0) := by
  rw [runs_stepRun]
  by_cases hsame : other = runId
  · rw [if_pos hsame.symm, if_pos hsame, if_pos hsame, hsame]
    exact SignalledRun.kept_step event
  · rw [if_neg (Ne.symm hsame), if_neg hsame, if_neg hsame]

theorem kept_received (runId : String) (index : Nat) :
    (watchdog.step (.received index)).kept runId + watchdog.lost runId (.received index) =
      watchdog.kept runId + watchdog.sent runId (.received index) := by
  cases htransit : watchdog.inTransit[index]? with
  | none => simp [step, sent, lost, htransit]
  | some transit =>
    have hmove := Roster.countP_advance htransit (Transit.isFor runId) none
    rw [Option.toList_none, countP_nil, countP_singleton] at hmove
    have hrun := kept_stepRun watchdog runId transit.runId
      (.signal transit.signal)
    -- what leaves the transit is what the run is handed
    have hhanded : (if transit.isFor runId = true then 1 else 0) = if transit.runId = runId then
          (SignalledRun.handedOver (.signal transit.signal)).countP (isHeartbeat runId)
        else 0 := by
      by_cases hsame : transit.runId = runId
      · simp [Transit.isFor, hsame, SignalledRun.handedOver, countP_singleton]
      · simp [Transit.isFor, hsame]
    have hstep : (watchdog.step (.received index)).kept runId =
        (Roster.advance watchdog.inTransit index none).countP (Transit.isFor runId) +
          ((watchdog.stepRun transit.runId (.signal transit.signal)).runs runId).kept
            (isHeartbeat runId) := by
      simp only [step, htransit]
      rfl
    rw [hstep]
    simp only [lost, sent, htransit, kept]
    omega

theorem kept_step (runId : String) (event : WatchdogEvent) :
    (watchdog.step event).kept runId + watchdog.lost runId event =
      watchdog.kept runId + watchdog.sent runId event := by
  cases event with
  | signalled index silentS accepted raised =>
    exact kept_signalled runId index silentS accepted raised
  | received index => exact kept_received runId index
  | run other event =>
    have hrun := kept_stepRun watchdog runId other event
    have hstep : (watchdog.step (.run other event)).kept runId =
        watchdog.inTransit.countP (Transit.isFor runId) +
          ((watchdog.stepRun other event).runs runId).kept (isHeartbeat runId) := rfl
    rw [hstep]
    simp only [lost, sent, kept]
    omega
  | _ => exact kept_of_frame rfl rfl rfl rfl

def Faithful (watchdog : Watchdog) : Prop := ∀ runId, (watchdog.runs runId).Faithful

theorem Faithful.stepRun (h : watchdog.Faithful) (runId : String) (event : SignalEvent) :
    (watchdog.stepRun runId event).Faithful := by
  intro other
  rw [runs_stepRun]
  split
  · exact (h runId).step event
  · exact h other

theorem Faithful.step (h : watchdog.Faithful) (event : WatchdogEvent) :
    (watchdog.step event).Faithful := by
  cases event with
  | signalled index silentS accepted raised =>
    unfold Watchdog.step
    dsimp only
    split
    · exact h
    · exact h
  | received index =>
    unfold Watchdog.step
    dsimp only
    split
    · exact h
    · exact Faithful.stepRun h _ _
  | run runId event => exact h.stepRun runId event
  | _ => exact h

/-- The log has an event for every signal that it has taken, and for no other. -/
theorem Faithful.heard_eq (h : watchdog.Faithful) (runId : String) :
    watchdog.heard runId = watchdog.kept runId := by
  have hlog : ∀ log : List SignalRecord,
      (∀ record ∈ log, SignalledRun.Writes record.signal record.commit) →
        (log.map fun record => heartbeatEvents runId record.commit).sum =
          log.countP fun record => isHeartbeat runId record.signal := by
    intro log hwrites
    induction log with
    | nil => rfl
    | cons record rest ih =>
      rw [map_cons, sum_cons, heartbeatEvents_eq (hwrites record mem_cons_self), countP_cons,
        ih fun other hother => hwrites other (mem_cons_of_mem _ hother), Nat.add_comm]
  rw [heard, kept, SignalledRun.kept, hlog _ (h runId).log, Nat.add_assoc]

theorem keeps_iff (event : WatchdogEvent) :
    watchdog.Keeps event ↔ ∀ runId, watchdog.lost runId event = 0 := by
  cases event with
  | received index =>
    cases htransit : watchdog.inTransit[index]? with
    | _ => simp [Keeps, lost, htransit]
  | run other event => simp [Keeps, lost]
  | _ => exact ⟨fun _ _ => rfl, fun _ => trivial⟩

end Watchdog

namespace Audited

/-- The timeouts that are signalled are heard in every state of a run exactly when no
event of it gives up a signal of the monitor. -/
theorem heard_iff (monitor : HeartbeatMonitor) (launch : String → Launch)
    (events : List WatchdogEvent) : Always step Heard (start monitor launch) events ↔
      Along step (fun audited event => audited.watchdog.Keeps event) (start monitor launch)
        events := by
  have hstep : ∀ (audited : Audited) (event : WatchdogEvent), audited.watchdog.Faithful →
      audited.Heard → ((audited.step event).Heard ↔ audited.watchdog.Keeps event) := by
    intro audited event hfair hheard
    rw [Watchdog.keeps_iff]
    refine forall_congr' fun runId => ?_
    have hbalance : (audited.step event).watchdog.kept runId + audited.watchdog.lost runId event =
          audited.watchdog.kept runId + audited.watchdog.sent runId event :=
      Watchdog.kept_step runId event
    have hnext : (audited.step event).watchdog.heard runId =
        (audited.step event).watchdog.kept runId := (hfair.step event).heard_eq runId
    have hbefore := (hfair.heard_eq runId).symm.trans (hheard runId)
    have hsent : (audited.step event).sent runId =
      audited.sent runId + audited.watchdog.sent runId event := rfl
    omega
  have hfair : (start monitor launch).watchdog.Faithful :=
    fun runId => SignalledRun.faithful_start ..
  have hkeeps : ∀ (audited : Audited) (event : WatchdogEvent),
      audited.watchdog.Faithful ∧ audited.Heard → audited.watchdog.Keeps event →
        (audited.step event).watchdog.Faithful ∧ (audited.step event).Heard :=
    fun audited event h hkeeps => ⟨h.1.step event, (hstep audited event h.1 h.2).mpr hkeeps⟩
  refine always_iff_along hkeeps (fun _ h => h.2)
    (fun audited event h hnext => (hstep audited event h.1 h.2).mp hnext)
    ⟨hfair, fun runId => ?_⟩ events
  rw [hfair.heard_eq]
  simp [Watchdog.kept, SignalledRun.kept, start, Launch.run, SignalledRun.start, RunActor.new,
    RunActor.underWay, RunPoint.carried]

/-! ## A run that gets stuck a second time -/

/-- A run that is about to be started. -/
def oneRun : Launch where
  inTemporal := false
  historyEventThreshold := 10000
  input := ⟨"r-1", none, none, [], false⟩

/-- The run begins and falls silent, and its first timeout is heard. -/
def firstTimeout : List WatchdogEvent :=
  [.lifecycleTransition "r-1" "dispatching" 0, .run "r-1" .run,
    .run "r-1" (.started (some (defaultProjection "r-1"))),
    .sweep 300000,
    .signalled 0 ⟨"300.0", some "300.0", by decide, some 300⟩ true false,
    .received 0,
    .run "r-1" (.projected 0 (some (defaultProjection "r-1")) "2026-05-05T00:05:00Z"),
    .run "r-1" (.logged 0),
    .run "r-1" (.appended 0 false),
    .run "r-1" (.processed 0 false)]

/-- The run shows activity, and falls silent again. -/
def secondTimeout : List WatchdogEvent :=
  [.activity "r-1" 400000, .sweep 700000,
    .signalled 0 ⟨"300.0", some "300.0", by decide, some 300⟩ true false,
    .received 0]

/-- The second timeout is signalled, and the workflow passes over it. -/
theorem not_heard_second : ¬ ∀ (monitor : HeartbeatMonitor) (launch : String → Launch)
        (events : List WatchdogEvent), Always step Heard (start monitor launch) events := by
  intro h
  have hheard := (h (.fresh []) (fun _ => oneRun) (firstTimeout ++ secondTimeout)).last
  exact absurd (hheard "r-1") (by decide)

end Audited

end HiAgent.Runtime
