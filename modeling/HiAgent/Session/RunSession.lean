/-
  Session/RunSession.lean --- the session of a run.

  `hi_agent/session/run_session.py`: `RunSession`, its log of raw records on disk and its
  checkpoints.

  A session round trips exactly when it is of no project and all it carries is plain.
-/
import HiAgent.Foundation.Dict
import HiAgent.Foundation.Machine
import HiAgent.Foundation.PyValue

namespace HiAgent.Session

open Foundation

/-! ## Data -/

/-- `0.0`, and `+` on `float`. -/
structure Floats where
  zero : PyFloat
  add : PyFloat → PyFloat → PyFloat

structure LLMCallRecord where
  callId : String
  purpose : String
  stageId : String
  model : String
  inputTokens : Int
  outputTokens : Int
  cacheReadTokens : Int
  cacheCreationTokens : Int
  costUsd : PyFloat
  contextHash : String
  timestamp : String

structure CompactBoundary where
  stageId : String
  eventOffset : Int
  timestamp : String := ""
  summaryRef : String := ""

/-- A raw record. -/
structure L0Record where
  index : Int
  eventType : String
  payload : PyDict
  stageId : String
  timestamp : String

/-- An event. -/
structure SessionEvent where
  eventType : String
  runId : String
  payload : PyDict
  timestamp : String

/-- What `json.loads` reads from `json.dumps(record, default=str)`. -/
def L0Record.copied (str : Nat → String) (record : L0Record) : Except Raised L0Record :=
  (PyValue.copiedFields str record.payload).map fun payload => { record with payload }

/-- What `json.loads` reads from `json.dumps(event, default=str)`. -/
def SessionEvent.copied (str : Nat → String) (event : SessionEvent) : Except Raised SessionEvent :=
  (PyValue.copiedFields str event.payload).map fun payload => { event with payload }

structure RunSession where
  runId : String
  /-- What `_serialize_contract` makes of the contract. -/
  taskContract : PyDict
  storageDir : Option String
  projectId : String
  l0Records : List L0Record
  l1Summaries : PyDict
  l2Index : PyDict
  events : List SessionEvent
  currentStage : String
  stageStates : Dict String String
  stageAttempt : Dict String Int
  actionSeq : Int
  branchSeq : Int
  llmCalls : List LLMCallRecord
  totalInputTokens : Int
  totalOutputTokens : Int
  totalCostUsd : PyFloat
  compactBoundaries : List CompactBoundary

/-- `get_cost_summary()`. -/
structure CostSummary where
  totalCostUsd : PyFloat
  totalInputTokens : Int
  totalOutputTokens : Int
  totalLlmCalls : Nat
  byStage : Dict String PyFloat
  byPurpose : Dict String PyFloat

/-- The fields of a `ReasoningStep` that are stored. -/
structure ReasoningStep where
  stepId : String
  action : String
  thought : String
  timestamp : String

/-- The fields of a `ReasoningTrace` that are stored. -/
structure ReasoningTrace where
  traceId : String
  stageId : String
  steps : List ReasoningStep

/-- The payload that `write_reasoning_trace` stores. -/
def ReasoningTrace.payload (trace : ReasoningTrace) : PyDict :=
  [("trace_id", .str trace.traceId), ("stage_id", .str trace.stageId),
    ("steps", .list (trace.steps.map fun step =>
      .dict [("step_id", .str step.stepId), ("action", .str step.action),
        ("thought", .str step.thought), ("timestamp", .str step.timestamp)]))]

/-- What `to_checkpoint` returns; its keys are the fields. -/
structure Checkpoint where
  runId : String
  taskContract : PyDict
  currentStage : String
  stageStates : Dict String String
  stageAttempt : Dict String Int
  actionSeq : Int
  branchSeq : Int
  l0Records : List L0Record
  l1Summaries : PyDict
  events : List SessionEvent
  llmCalls : List LLMCallRecord
  totalInputTokens : Int
  totalOutputTokens : Int
  totalCostUsd : PyFloat
  compactBoundaries : List CompactBoundary
  checkpointTimestamp : String

/-- What `json.load` reads from `json.dump(checkpoint, default=str)`. -/
def Checkpoint.copied (str : Nat → String) (checkpoint : Checkpoint) : Except Raised Checkpoint :=
  (PyValue.copiedFields str checkpoint.taskContract).bind fun taskContract =>
    (checkpoint.l0Records.mapM (L0Record.copied str)).bind fun l0Records =>
      (PyValue.copiedFields str checkpoint.l1Summaries).bind fun l1Summaries =>
        (checkpoint.events.mapM (SessionEvent.copied str)).map fun events =>
          { checkpoint with taskContract, l0Records, l1Summaries, events }

namespace RunSession

/-! ## Methods -/

def init (floats : Floats) (runId : String) (taskContract : PyDict)
    (storageDir : Option String) (projectId : String) : RunSession where
  runId
  taskContract
  storageDir
  projectId
  l0Records := []
  l1Summaries := []
  l2Index := []
  events := []
  currentStage := ""
  stageStates := .empty
  stageAttempt := .empty
  actionSeq := 0
  branchSeq := 0
  llmCalls := []
  totalInputTokens := 0
  totalOutputTokens := 0
  totalCostUsd := floats.zero
  compactBoundaries := []

variable (session : RunSession)

/-- The record that `append_record` appends. -/
def nextRecord (eventType : String) (payload : PyDict) (stageId : Option String)
    (timestamp : String) : L0Record where
  index := session.l0Records.length
  eventType
  payload
  stageId := if stageId.getD "" = "" then session.currentStage else stageId.getD ""
  timestamp

/-- `append_record`, in memory. -/
def appendRecord (record : L0Record) : RunSession :=
  { session with l0Records := session.l0Records ++ [record] }

def getRecordsAfterBoundary : List L0Record :=
  match session.compactBoundaries.getLast? with
  | none => session.l0Records
  | some lastBoundary =>
    session.l0Records.filter fun record => decide (lastBoundary.eventOffset < record.index)

def getRecordsForStage (stageId : String) : List L0Record :=
  session.l0Records.filter (·.stageId == stageId)

def setStageSummary (stageId : String) (summary : PyDict) : RunSession :=
  { session with l1Summaries := session.l1Summaries.set stageId (.dict summary) }

def getStageSummary (stageId : String) : Option PyValue := session.l1Summaries.lookup stageId

def markCompactBoundary (stageId timestamp summaryRef : String) : RunSession :=
  { session with
    compactBoundaries := session.compactBoundaries ++
      [⟨stageId, session.l0Records.length - 1, timestamp, summaryRef⟩] }

def lastCompactBoundary : Option CompactBoundary := session.compactBoundaries.getLast?

def recordLlmCall (floats : Floats) (record : LLMCallRecord) : RunSession :=
  { session with
    llmCalls := session.llmCalls ++ [record]
    totalInputTokens := session.totalInputTokens + record.inputTokens
    totalOutputTokens := session.totalOutputTokens + record.outputTokens
    totalCostUsd := floats.add session.totalCostUsd record.costUsd }

def getLlmCallsForStage (stageId : String) : List LLMCallRecord :=
  session.llmCalls.filter (·.stageId == stageId)

def costBy (floats : Floats) (key : LLMCallRecord → String) : Dict String PyFloat :=
  session.llmCalls.foldl (fun costs call =>
    costs.set (key call) (floats.add (costs.getD (key call) floats.zero) call.costUsd)) .empty

def getCostSummary (floats : Floats) : CostSummary where
  totalCostUsd := session.totalCostUsd
  totalInputTokens := session.totalInputTokens
  totalOutputTokens := session.totalOutputTokens
  totalLlmCalls := session.llmCalls.length
  byStage := session.costBy floats LLMCallRecord.stageId
  byPurpose := session.costBy floats LLMCallRecord.purpose

def emitEvent (eventType : String) (payload : PyDict) (timestamp : String) : RunSession :=
  { session with events := session.events ++ [⟨eventType, session.runId, payload, timestamp⟩] }

def toCheckpoint (checkpointTimestamp : String) : Checkpoint where
  runId := session.runId
  taskContract := session.taskContract
  currentStage := session.currentStage
  stageStates := session.stageStates
  stageAttempt := session.stageAttempt
  actionSeq := session.actionSeq
  branchSeq := session.branchSeq
  l0Records := session.l0Records
  l1Summaries := session.l1Summaries
  events := session.events
  llmCalls := session.llmCalls
  totalInputTokens := session.totalInputTokens
  totalOutputTokens := session.totalOutputTokens
  totalCostUsd := session.totalCostUsd
  compactBoundaries := session.compactBoundaries
  checkpointTimestamp

def fromCheckpoint (floats : Floats) (data : Checkpoint) (taskContract : PyDict) : RunSession :=
  { init floats data.runId taskContract none "" with
    currentStage := data.currentStage
    stageStates := data.stageStates
    stageAttempt := data.stageAttempt
    actionSeq := data.actionSeq
    branchSeq := data.branchSeq
    l0Records := data.l0Records
    l1Summaries := data.l1Summaries
    events := data.events
    totalInputTokens := data.totalInputTokens
    totalOutputTokens := data.totalOutputTokens
    totalCostUsd := data.totalCostUsd
    llmCalls := data.llmCalls
    compactBoundaries := data.compactBoundaries }

def stores : Bool := session.storageDir.getD "" != ""

end RunSession

/-! ## Runs -/

/-- The lines that `load_l0_from_disk` takes in: it stops at one that is no record. -/
def readable (str : Nat → String) : List (Option L0Record) → List L0Record
  | some record :: lines =>
    match record.copied str with
    | .ok record => record :: readable str lines
    | .error _ => []
  | _ => []

/-- A session, the lines of the log of every run, and the records appended since the last
boundary. -/
structure SessionRun where
  session : RunSession
  disk : String → List (Option L0Record)
  since : List L0Record

/-- A method, or an assignment of the attributes that the runner assigns. -/
inductive SessionOp where
  | appendRecord (eventType : String) (payload : PyDict) (stageId : Option String)
      (timestamp : String) (diskFails : Bool)
  | writeReasoningTrace (trace : ReasoningTrace) (timestamp : String) (diskFails : Bool)
  | setStageSummary (stageId : String) (summary : PyDict)
  | markCompactBoundary (stageId timestamp summaryRef : String)
  | recordLlmCall (record : LLMCallRecord)
  | emitEvent (eventType : String) (payload : PyDict) (timestamp : String)
  | assign (runId currentStage : String) (stageStates : Dict String String)
      (stageAttempt : Dict String Int) (actionSeq branchSeq : Int)
  | loadL0FromDisk
  /-- `save_checkpoint`, and `load_checkpoint` from that file. -/
  | loadCheckpoint (timestamp : String) (taskContract : PyDict)

namespace SessionRun

variable (str : Nat → String) (floats : Floats)

/-- `append_record`. -/
def append (s : SessionRun) (record : L0Record) (diskFails : Bool) : SessionRun where
  session := s.session.appendRecord record
  disk :=
    -- `_persist_l0_record`, which leaves no line when it raises
    if s.session.stores = true ∧ diskFails = false ∧ Succeeds (record.copied str) then
      fun runId =>
        if runId = s.session.runId then s.disk runId ++ [some record] else s.disk runId
    else s.disk
  since := s.since ++ [record]

/-- One event. -/
def step (s : SessionRun) : SessionOp → SessionRun
  | .appendRecord eventType payload stageId timestamp diskFails =>
    s.append str (s.session.nextRecord eventType payload stageId timestamp) diskFails
  | .writeReasoningTrace trace timestamp diskFails =>
    s.append str (s.session.nextRecord "reasoning_trace" trace.payload none timestamp) diskFails
  | .setStageSummary stageId summary =>
    { s with session := s.session.setStageSummary stageId summary }
  | .markCompactBoundary stageId timestamp summaryRef =>
    { s with session := s.session.markCompactBoundary stageId timestamp summaryRef, since := [] }
  | .recordLlmCall record => { s with session := s.session.recordLlmCall floats record }
  | .emitEvent eventType payload timestamp =>
    { s with session := s.session.emitEvent eventType payload timestamp }
  | .assign runId currentStage stageStates stageAttempt actionSeq branchSeq =>
    { s with
      session :=
        { s.session with runId, currentStage, stageStates, stageAttempt, actionSeq, branchSeq } }
  | .loadL0FromDisk =>
    if s.session.stores = true then
      let loaded := readable str (s.disk s.session.runId)
      { s with
        session := { s.session with l0Records := s.session.l0Records ++ loaded }
        since := s.since ++ loaded }
    else s
  | .loadCheckpoint timestamp taskContract =>
    match (s.session.toCheckpoint timestamp).copied str with
    | .error _ => s
    | .ok data => { s with session := .fromCheckpoint floats data taskContract }

def start (runId : String) (taskContract : PyDict) (storageDir : Option String)
    (projectId : String) (disk : String → List (Option L0Record)) : SessionRun :=
  ⟨.init floats runId taskContract storageDir projectId, disk, []⟩

end SessionRun

/-! ## The law -/

/-- What a session answers. -/
structure Answers where
  runId : String
  projectId : String
  currentStage : String
  stageStates : Dict String String
  stageAttempt : Dict String Int
  actionSeq : Int
  branchSeq : Int
  l0Records : List L0Record
  recordsAfterBoundary : List L0Record
  recordsForStage : String → List L0Record
  l1Summaries : PyDict
  stageSummary : String → Option PyValue
  l2Index : PyDict
  lastCompactBoundary : Option CompactBoundary
  events : List SessionEvent
  llmCalls : List LLMCallRecord
  llmCallsForStage : String → List LLMCallRecord
  costSummary : CostSummary

/-- The answers of a session. -/
def RunSession.answers (floats : Floats) (session : RunSession) : Answers where
  runId := session.runId
  projectId := session.projectId
  currentStage := session.currentStage
  stageStates := session.stageStates
  stageAttempt := session.stageAttempt
  actionSeq := session.actionSeq
  branchSeq := session.branchSeq
  l0Records := session.l0Records
  recordsAfterBoundary := session.getRecordsAfterBoundary
  recordsForStage := session.getRecordsForStage
  l1Summaries := session.l1Summaries
  stageSummary := session.getStageSummary
  l2Index := session.l2Index
  lastCompactBoundary := session.lastCompactBoundary
  events := session.events
  llmCalls := session.llmCalls
  llmCallsForStage := session.getLlmCallsForStage
  costSummary := session.getCostSummary floats

def RunSession.RoundTrips (str : Nat → String) (floats : Floats) (session : RunSession) : Prop :=
  ∀ timestamp taskContract, ∃ data, (session.toCheckpoint timestamp).copied str = .ok data ∧
    (RunSession.fromCheckpoint floats data taskContract).answers floats = session.answers floats

def Indexed (records : List L0Record) : Prop :=
  ∀ (position : Nat) (record : L0Record), records[position]? = some record → record.index = position

/-- What the law asks of a state. -/
structure SessionRun.Kept (str : Nat → String) (floats : Floats) (s : SessionRun) : Prop where
  roundTrips : s.session.RoundTrips str floats
  indexed : Indexed s.session.l0Records
  sinceBoundary : s.session.getRecordsAfterBoundary = s.since

open List

variable {str : Nat → String} {floats : Floats}

/-! ## Checkpoints -/

theorem L0Record.copied_eq_iff (record : L0Record) :
    record.copied str = .ok record ↔ PyValue.PlainFields record.payload := by
  rw [copied, map_eq_ok_iff, ← PyValue.copiedFields_eq_iff str]
  constructor
  · rintro ⟨payload, hpayload, hrecord⟩
    have hsame : payload = record.payload := congrArg L0Record.payload hrecord
    rwa [hsame] at hpayload
  · exact fun hpayload => ⟨record.payload, hpayload, rfl⟩

theorem SessionEvent.copied_eq_iff (event : SessionEvent) :
    event.copied str = .ok event ↔ PyValue.PlainFields event.payload := by
  rw [copied, map_eq_ok_iff, ← PyValue.copiedFields_eq_iff str]
  constructor
  · rintro ⟨payload, hpayload, hevent⟩
    have hsame : payload = event.payload := congrArg SessionEvent.payload hevent
    rwa [hsame] at hpayload
  · exact fun hpayload => ⟨event.payload, hpayload, rfl⟩

namespace RunSession

/-- What the session carries comes back as it was, and its contract can be written. -/
structure Storable (str : Nat → String) (session : RunSession) : Prop where
  contract : Succeeds (PyValue.copiedFields str session.taskContract)
  records : ∀ record ∈ session.l0Records, PyValue.PlainFields record.payload
  summaries : PyValue.PlainFields session.l1Summaries
  events : ∀ event ∈ session.events, PyValue.PlainFields event.payload

variable {session : RunSession}

theorem Storable.same {other : RunSession} (h : session.Storable str)
    (hterms : other.taskContract = session.taskContract)
    (hrecords : other.l0Records = session.l0Records)
    (hsummaries : other.l1Summaries = session.l1Summaries)
    (hevents : other.events = session.events) : other.Storable str where
  contract := hterms ▸ h.contract
  records := hrecords ▸ h.records
  summaries := hsummaries ▸ h.summaries
  events := hevents ▸ h.events

theorem Storable.copied (h : session.Storable str) (timestamp : String) :
    ∃ contract, (session.toCheckpoint timestamp).copied str =
      .ok { session.toCheckpoint timestamp with taskContract := contract } := by
  obtain ⟨contract, hterms⟩ := h.contract
  have hrecords : session.l0Records.mapM (L0Record.copied str) = .ok session.l0Records :=
    mapM_eq_self_iff.mpr fun record hrecord => record.copied_eq_iff.mpr (h.records record hrecord)
  have hevents : session.events.mapM (SessionEvent.copied str) = .ok session.events :=
    mapM_eq_self_iff.mpr fun event hevent => event.copied_eq_iff.mpr (h.events event hevent)
  refine ⟨contract, ?_⟩
  simp only [Checkpoint.copied, toCheckpoint, hterms, hrecords, hevents,
    (PyValue.copiedFields_eq_iff str _).mpr h.summaries, Except.bind, Except.map]

theorem roundTrips_iff_storable (hindex : session.l2Index = []) :
    session.RoundTrips str floats ↔ session.projectId = "" ∧ session.Storable str := by
  constructor
  · intro h
    obtain ⟨data, hdata, hanswers⟩ := h "" []
    simp only [Checkpoint.copied, toCheckpoint, bind_eq_ok_iff, map_eq_ok_iff] at hdata
    obtain ⟨contract, hterms, records, hrecords, summaries, hsummaries, events, hevents,
      rfl⟩ := hdata
    have hsameRecords : records = session.l0Records := congrArg Answers.l0Records hanswers
    have hsameSummaries : summaries = session.l1Summaries := congrArg Answers.l1Summaries hanswers
    have hsameEvents : events = session.events := congrArg Answers.events hanswers
    rw [hsameRecords] at hrecords
    rw [hsameSummaries] at hsummaries
    rw [hsameEvents] at hevents
    refine ⟨(congrArg Answers.projectId hanswers).symm, ⟨contract, hterms⟩, ?_, ?_, ?_⟩
    · exact fun record hrecord =>
        record.copied_eq_iff.mp (mapM_eq_self_iff.mp hrecords record hrecord)
    · exact (PyValue.copiedFields_eq_iff str _).mp hsummaries
    · exact fun event hevent => event.copied_eq_iff.mp (mapM_eq_self_iff.mp hevents event hevent)
  · rintro ⟨hproject, hfits⟩ timestamp taskContract
    obtain ⟨contract, hcopied⟩ := hfits.copied timestamp
    refine ⟨_, hcopied, ?_⟩
    rw [answers, answers, hproject, hindex]
    rfl

end RunSession

/-! ## Positions -/

theorem Indexed.append_iff {records more : List L0Record} (h : Indexed records) :
    Indexed (records ++ more) ↔
      ∀ (position : Nat) (record : L0Record), more[position]? = some record →
        record.index = records.length + position := by
  constructor
  · intro hall position record hrecord
    rw [hall (records.length + position) record (by
      rw [getElem?_append_right (Nat.le_add_right _ _), Nat.add_sub_cancel_left, hrecord])]
    exact Int.natCast_add _ _
  · intro hmore position record hrecord
    rcases Nat.lt_or_ge position records.length with hlt | hge
    · rw [getElem?_append_left hlt] at hrecord
      exact h position record hrecord
    · rw [getElem?_append_right hge] at hrecord
      rw [hmore _ record hrecord]
      omega

theorem filter_behind {before behind : List L0Record} (h : Indexed (before ++ behind)) :
    (before ++ behind).filter (fun record => decide ((before.length : Int) - 1 < record.index)) =
      behind := by
  rw [filter_append]
  have hbefore : before.filter (fun record =>
      decide ((before.length : Int) - 1 < record.index)) = [] := by
    rw [filter_eq_nil_iff]
    intro record hrecord
    obtain ⟨position, hpoint⟩ := mem_iff_getElem?.mp hrecord
    have hlt : position < before.length := (List.getElem?_eq_some_iff.mp hpoint).1
    have hindex := h position record (by rwa [getElem?_append_left hlt])
    rw [decide_eq_true_iff]
    omega
  have hbehind : behind.filter (fun record =>
      decide ((before.length : Int) - 1 < record.index)) = behind := by
    rw [filter_eq_self]
    intro record hrecord
    obtain ⟨position, hpoint⟩ := mem_iff_getElem?.mp hrecord
    have hindex := h (before.length + position) record (by
      rwa [getElem?_append_right (Nat.le_add_right _ _), Nat.add_sub_cancel_left])
    rw [decide_eq_true_iff]
    omega
  rw [hbefore, hbehind, nil_append]

/-! ## What holds between the steps -/

namespace SessionRun

/-- The records are those in front of the last boundary and those appended since. -/
def Split (session : RunSession) (since : List L0Record) : Prop :=
  ∃ before, session.l0Records = before ++ since ∧ match session.compactBoundaries.getLast? with
    | none => before = []
    | some lastBoundary => lastBoundary.eventOffset = before.length - 1

/-- What holds between the steps. -/
structure Inv (str : Nat → String) (s : SessionRun) : Prop where
  project : s.session.projectId = ""
  index : s.session.l2Index = []
  storable : s.session.Storable str
  indexed : Indexed s.session.l0Records
  split : Split s.session s.since

variable {s : SessionRun} {op : SessionOp}

theorem Inv.kept (h : s.Inv str) : s.Kept str floats where
  roundTrips := (RunSession.roundTrips_iff_storable h.index).mpr ⟨h.project, h.storable⟩
  indexed := h.indexed
  sinceBoundary := by
    obtain ⟨before, hrecords, hbefore⟩ := h.split
    have hindexed := h.indexed
    rw [RunSession.getRecordsAfterBoundary]
    cases hlast : s.session.compactBoundaries.getLast? with
    | none =>
      rw [hlast] at hbefore
      rw [hrecords, hbefore]
      rfl
    | some lastBoundary =>
      rw [hlast] at hbefore
      dsimp only at hbefore ⊢
      rw [hrecords] at hindexed
      rw [hrecords, hbefore]
      exact filter_behind hindexed

theorem Inv.start (runId : String) {taskContract : PyDict} (storageDir : Option String)
    (disk : String → List (Option L0Record))
    (hterms : Succeeds (PyValue.copiedFields str taskContract)) :
    (start floats runId taskContract storageDir "" disk).Inv str where
  project := rfl
  index := rfl
  storable := ⟨hterms, fun _ h => absurd h not_mem_nil, trivial, fun _ h => absurd h not_mem_nil⟩
  indexed position record h := by
    rw [SessionRun.start, RunSession.init, getElem?_nil] at h
    cases h
  split := ⟨[], rfl, rfl⟩

/-! ## The condition of a step -/

/-- What a step has to meet: what is stored is plain, a contract can be written, and the
records of a log that is loaded continue the positions of those that are there. -/
def Meets (str : Nat → String) (s : SessionRun) : SessionOp → Prop
  | .appendRecord _ payload _ _ _ => PyValue.PlainFields payload
  | .setStageSummary _ summary => PyValue.PlainFields summary
  | .emitEvent _ payload _ => PyValue.PlainFields payload
  | .loadL0FromDisk =>
    s.session.stores = true → ∀ (position : Nat) (record : L0Record),
      (readable str (s.disk s.session.runId))[position]? = some record →
        record.index = s.session.l0Records.length + position
  | .loadCheckpoint _ taskContract => Succeeds (PyValue.copiedFields str taskContract)
  | _ => True

theorem plainFields_payload (trace : ReasoningTrace) : PyValue.PlainFields trace.payload := by
  refine ⟨trivial, trivial, ?_, trivial⟩
  rw [PyValue.Plain, PyValue.plainItems_iff]
  intro item hitem
  obtain ⟨step, -, rfl⟩ := mem_map.mp hitem
  exact ⟨trivial, trivial, trivial, trivial, trivial⟩

theorem plainFields_of_mem_readable {lines : List (Option L0Record)} {record : L0Record}
    (h : record ∈ readable str lines) : PyValue.PlainFields record.payload := by
  induction lines with
  | nil => cases h
  | cons line lines ih =>
    cases line with
    | none => cases h
    | some written =>
      rw [readable] at h
      split at h
      · rename_i read hread
        rcases mem_cons.mp h with rfl | h
        · rw [L0Record.copied, map_eq_ok_iff] at hread
          obtain ⟨payload, hpayload, rfl⟩ := hread
          exact PyValue.plain_of_copiedFields hpayload
        · exact ih h
      · cases h

theorem Inv.extend (h : s.Inv str) {more : List L0Record}
    (hplain : ∀ record ∈ more, PyValue.PlainFields record.payload)
    (hindexed : Indexed (s.session.l0Records ++ more)) (disk : String → List (Option L0Record)) :
    Inv str ⟨{ s.session with l0Records := s.session.l0Records ++ more }, disk,
      s.since ++ more⟩ where
  project := h.project
  index := h.index
  storable :=
    ⟨h.storable.contract, fun record hrecord => (mem_append.mp hrecord).elim
      (h.storable.records record) (hplain record), h.storable.summaries, h.storable.events⟩
  indexed := hindexed
  split := by
    obtain ⟨before, hrecords, hbefore⟩ := h.split
    exact ⟨before, by rw [hrecords, append_assoc], hbefore⟩

theorem Inv.append (h : s.Inv str) {record : L0Record} (diskFails : Bool)
    (hindex : record.index = s.session.l0Records.length)
    (hplain : PyValue.PlainFields record.payload) : (s.append str record diskFails).Inv str := by
  refine h.extend (fun other hother => mem_singleton.mp hother ▸ hplain) ?_ _
  refine h.indexed.append_iff.mpr fun position other hother => ?_
  cases position with
  | zero =>
    obtain rfl : record = other := Option.some.inj hother
    rw [hindex]
    rfl
  | succ position => cases hother

theorem Inv.step (h : s.Inv str) (hmeets : Meets str s op) : (s.step str floats op).Inv str := by
  cases op with
  | appendRecord eventType payload stageId timestamp diskFails =>
    exact h.append diskFails rfl hmeets
  | writeReasoningTrace trace timestamp diskFails =>
    exact h.append diskFails rfl (plainFields_payload trace)
  | setStageSummary stageId summary =>
    refine ⟨h.project, h.index, ?_, h.indexed, h.split⟩
    exact ⟨h.storable.contract, h.storable.records,
      (PyValue.plainFields_set_iff h.storable.summaries).mpr hmeets, h.storable.events⟩
  | markCompactBoundary stageId timestamp summaryRef =>
    refine ⟨h.project, h.index, h.storable.same rfl rfl rfl rfl, h.indexed,
      s.session.l0Records, ?_, ?_⟩
    · exact (append_nil _).symm
    · rw [SessionRun.step, RunSession.markCompactBoundary, getLast?_concat]
  | emitEvent eventType payload timestamp =>
    refine ⟨h.project, h.index, ?_, h.indexed, h.split⟩
    refine ⟨h.storable.contract, h.storable.records, h.storable.summaries, fun event hevent => ?_⟩
    rcases mem_append.mp hevent with hold | hnew
    · exact h.storable.events event hold
    · rw [mem_singleton.mp hnew]
      exact hmeets
  | loadL0FromDisk =>
    rw [SessionRun.step]
    split
    · rename_i hstores
      exact h.extend (fun record => plainFields_of_mem_readable)
        (h.indexed.append_iff.mpr (hmeets hstores)) s.disk
    · exact h
  | loadCheckpoint timestamp taskContract =>
    obtain ⟨contract, hcopied⟩ := h.storable.copied timestamp
    rw [SessionRun.step, hcopied]
    refine ⟨rfl, rfl, ?_, h.indexed, h.split⟩
    exact ⟨hmeets, h.storable.records, h.storable.summaries, h.storable.events⟩
  | _ =>
    exact ⟨h.project, h.index, h.storable.same rfl rfl rfl rfl, h.indexed, h.split⟩

theorem meets_of_kept (h : s.Inv str) (hkept : (s.step str floats op).Kept str floats) :
    Meets str s op := by
  have hfits : (s.step str floats op).session.l2Index = [] →
      (s.step str floats op).session.Storable str :=
    fun hindex => ((RunSession.roundTrips_iff_storable hindex).mp hkept.roundTrips).2
  cases op with
  | appendRecord eventType payload stageId timestamp diskFails =>
    exact (hfits h.index).records _ (mem_append_right _ (mem_singleton_self _))
  | writeReasoningTrace trace timestamp diskFails => trivial
  | setStageSummary stageId summary =>
    exact (PyValue.plainFields_set_iff h.storable.summaries).mp (hfits h.index).summaries
  | markCompactBoundary stageId timestamp summaryRef => trivial
  | recordLlmCall record => trivial
  | emitEvent eventType payload timestamp =>
    exact (hfits h.index).events _ (mem_append_right _ (mem_singleton_self _))
  | assign runId currentStage stageStates stageAttempt actionSeq branchSeq => trivial
  | loadL0FromDisk =>
    intro hstores
    have hindexed := hkept.indexed
    rw [SessionRun.step, if_pos hstores] at hindexed
    exact h.indexed.append_iff.mp hindexed
  | loadCheckpoint timestamp taskContract =>
    obtain ⟨contract, hcopied⟩ := h.storable.copied timestamp
    rw [SessionRun.step, hcopied] at hfits
    exact (hfits rfl).contract

end SessionRun

/-- Over any logs, a run of a new session keeps the law in every state exactly when the session
is of no project, its contract can be written and every step meets the condition. -/
theorem always_kept_iff (str : Nat → String) (floats : Floats) (runId : String)
    (taskContract : PyDict) (storageDir : Option String) (projectId : String)
    (disk : String → List (Option L0Record)) (ops : List SessionOp) :
    Always (SessionRun.step str floats) (SessionRun.Kept str floats)
        (.start floats runId taskContract storageDir projectId disk) ops ↔
      (projectId = "" ∧ Succeeds (PyValue.copiedFields str taskContract)) ∧
        Along (SessionRun.step str floats) (SessionRun.Meets str)
          (.start floats runId taskContract storageDir projectId disk) ops := by
  have hrun : Succeeds (PyValue.copiedFields str taskContract) →
      (Always (SessionRun.step str floats) (SessionRun.Kept str floats)
          (.start floats runId taskContract storageDir "" disk) ops ↔
        Along (SessionRun.step str floats) (SessionRun.Meets str)
          (.start floats runId taskContract storageDir "" disk) ops) := by
    intro hterms
    have hkeeps : ∀ s op, SessionRun.Inv str s → SessionRun.Meets str s op →
        SessionRun.Inv str (s.step str floats op) := fun _ _ => SessionRun.Inv.step
    have hgives : ∀ s, SessionRun.Inv str s → SessionRun.Kept str floats s :=
      fun _ => SessionRun.Inv.kept
    have hneeds : ∀ s op, SessionRun.Inv str s →
        SessionRun.Kept str floats (s.step str floats op) → SessionRun.Meets str s op :=
      fun _ _ => SessionRun.meets_of_kept
    exact always_iff_along hkeeps hgives hneeds (.start runId storageDir disk hterms) ops
  constructor
  · intro h
    obtain ⟨hproject, hfits⟩ := (RunSession.roundTrips_iff_storable rfl).mp h.first.roundTrips
    obtain rfl : projectId = "" := hproject
    exact ⟨⟨rfl, hfits.contract⟩, (hrun hfits.contract).mp h⟩
  · rintro ⟨⟨rfl, hterms⟩, hmeets⟩
    exact (hrun hterms).mpr hmeets

theorem column_zero_ne : some "0.0" ≠ some "" := by decide

/-- `0.0`. -/
def zeroCost : PyFloat := ⟨"0.0", some "0.0", column_zero_ne, some 0⟩

def noCosts : Floats := ⟨zeroCost, fun cost _ => cost⟩

/-- A session of a project is restored without it. -/
theorem not_always_kept_project :
    ¬ Always (SessionRun.step (fun _ => "") noCosts) (SessionRun.Kept (fun _ => "") noCosts)
      (.start noCosts "run" [] none "project" fun _ => []) [] := by
  intro h
  obtain ⟨data, -, hanswers⟩ := h.roundTrips "" []
  have hproject : "" = "project" := congrArg Answers.projectId hanswers
  exact absurd hproject (by decide)

end HiAgent.Session
