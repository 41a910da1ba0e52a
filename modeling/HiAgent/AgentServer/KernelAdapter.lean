/-
  AgentServer/KernelAdapter.lean --- `iter_events` of
  `agent_server/runtime/kernel_adapter.py`.

  The generator reads the event store, yields what it has read and only then looks at the state
  of the run; the threads of the `RunManager` write to both in between.
-/
import HiAgent.Server.EventSequences
import HiAgent.Server.RunManager.Worker

namespace HiAgent.AgentServer

open Foundation Server

/-! ## Generators -/

def terminalStates : List String :=
  ["completed", "succeeded", "failed", "cancelled", "done", "error"]

/-- `max_total_s`. -/
def maxTotal : Int := 600000

/-- `TenantContext(tenant_id=tenant_id)`, when it may be built. -/
def workspaceOf (posture : Except String Posture) (tenantId : String) : Option TenantContext :=
  match posture with
  | .error _ => none
  | .ok posture => if tenantId = "" && posture.isStrict then none else some ⟨tenantId, "", ""⟩

/-- Where a generator stands. -/
inductive TailPhase where
  | unstarted
  /-- In front of `list_since`, after a `sleep` or before the first. -/
  | polling
  /-- In front of the `yield` of the first of these rows, or of the check of the run. -/
  | yielding (left : List StoredEvent)

/-- A generator of `_live_iter`. -/
structure LiveTail where
  tenantId : String
  runId : String
  started : Int
  lastSeq : Int
  phase : TailPhase
  /-- The rows of the events that were yielded. -/
  received : List StoredEvent

/-- Why a generator ended. -/
inductive TailEnd where
  | terminal
  /-- `list_since` raised. -/
  | storageError
  /-- The tenant context could not be built. -/
  | raised
  | exceeded
  /-- The consumer closed it. -/
  | closed

/-- What a step of a generator reads. -/
structure TailEnv where
  posture : Except String Posture
  /-- How the query of `list_since` fails. -/
  fault : Option Raised
  now : Int

namespace LiveTail

variable (tail : LiveTail)

/-- A new generator. -/
def new (tenantId runId : String) : LiveTail where
  tenantId := tenantId
  runId := runId
  started := 0
  lastSeq := -1
  phase := .unstarted
  received := []

def left : List StoredEvent :=
  match tail.phase with
  | .yielding left => left
  | _ => []

def hasRead : Bool :=
  match tail.phase with
  | .yielding _ => true
  | _ => false

/-- The call of `list_since`. -/
def list (store : EventStore) (env : TailEnv) : Except TailEnd LiveTail :=
  match store.listSince env.posture env.fault tail.runId tail.lastSeq (some tail.tenantId)
      none none with
  | .error _ => .error .storageError
  | .ok stored => .ok { tail with phase := .yielding stored }

/-- The check of the run behind the last `yield`. -/
def check (state : Option RunState) (env : TailEnv) : Except TailEnd LiveTail :=
  if state.any fun state => state.value ∈ terminalStates then .error .terminal
  else if maxTotal < env.now - tail.started then .error .exceeded
  else .ok { tail with phase := .polling }

end LiveTail

/-! ## The backend -/

/-- The event store and the `RunManager` behind a backend, and its generators. -/
structure RealKernelBackend where
  log : EventLog
  manager : RunManager
  tails : List LiveTail
  ended : List (LiveTail × TailEnd)
  /-- The rows that were stored when a run became terminal. -/
  settled : String → Option (List StoredEvent)

/-- What happens next. -/
inductive BackendEvent where
  /-- `_publish_run_event` up to its call of `append`, and that call. -/
  | draw (call : RunEventCall)
  | append (place : Nat) (fault : Option WriteFault)
  /-- `EventBus.publish`. -/
  | publish (env : PublishEnv) (event : RuntimeEvent)
  /-- `create_run` registers a run under a new id. -/
  | registered (run : ManagedRun)
  /-- A write to a run under the lock of the manager. -/
  | written (runId : String) (entry : Int × ManagedRun.Write)
  /-- `iter_events` is called. -/
  | opened (tenantId runId : String) (posture : Except String Posture)
  /-- A generator moves on. -/
  | next (tail : Nat) (env : TailEnv)
  | closed (tail : Nat)

namespace RealKernelBackend

variable (backend : RealKernelBackend)

def isTerminal (runId : String) : Bool :=
  (backend.manager.runs.lookup runId).any fun run => run.state.isTerminal

/-- A backend that serves nobody, over any store and any runs. -/
def start (log : EventLog) (manager : RunManager) : RealKernelBackend where
  log := log
  manager := manager
  tails := []
  ended := []
  settled := fun runId =>
    if (manager.runs.lookup runId).any fun run => run.state.isTerminal then
      some log.eventStore.rows
    else none

/-- The state of a run as `get_run` shows it to a tenant. -/
def stateOf (posture : Except String Posture) (tenantId runId : String) : Option RunState :=
  (workspaceOf posture tenantId).bind fun workspace =>
    (backend.manager.getRun runId (some workspace)).map (·.state)

/-- `create_run`, of which only the registration matters here. -/
def register (run : ManagedRun) : RealKernelBackend :=
  { backend with
    manager :=
      { backend.manager with
        runs := backend.manager.runs.insertOrIgnore { run with state := .created } } }

/-- A write to a run. -/
def write (runId : String) (entry : Int × ManagedRun.Write) : RealKernelBackend :=
  let manager := backend.manager.writeRun runId entry
  { backend with
    manager := manager
    settled :=
      if !backend.isTerminal runId &&
          (manager.runs.lookup runId).any fun run => run.state.isTerminal then
        Function.update backend.settled runId (some backend.log.eventStore.rows)
      else backend.settled }

/-- `iter_events`; a run that the tenant does not see is not found. -/
def iterEvents (tenantId runId : String) (posture : Except String Posture) : RealKernelBackend :=
  match backend.stateOf posture tenantId runId with
  | none => backend
  | some _ => { backend with tails := backend.tails ++ [.new tenantId runId] }

/-- The next step of a generator. -/
def advance (tail : LiveTail) (env : TailEnv) : Except TailEnd LiveTail :=
  match tail.phase with
  | .unstarted =>
    match workspaceOf env.posture tail.tenantId with
    | none => .error .raised
    | some _ => LiveTail.list { tail with started := env.now } backend.log.eventStore env
  | .polling => tail.list backend.log.eventStore env
  | .yielding (row :: left) =>
    .ok
      { tail with
        phase := .yielding left
        received := tail.received ++ [row]
        lastSeq := max tail.lastSeq row.sequence }
  | .yielding [] =>
    -- the context was built by the first step, and is read again
    tail.check (((backend.manager.runs.lookup tail.runId).filter fun run =>
      owns run ⟨tail.tenantId, "", ""⟩).map (·.state)) env

/-- A generator goes on, or ends. -/
def move (index : Nat) (tail : LiveTail) (moved : Except TailEnd LiveTail) : RealKernelBackend :=
  match moved with
  | .ok next => { backend with tails := Roster.advance backend.tails index (some next) }
  | .error why =>
    { backend with
      tails := Roster.advance backend.tails index none
      ended := backend.ended ++ [(tail, why)] }

/-- One event. -/
def step : BackendEvent → RealKernelBackend
  | .draw call => { backend with log := backend.log.draw call }
  | .append place fault => { backend with log := backend.log.append place fault }
  | .publish env event => { backend with log := backend.log.publish env event }
  | .registered run => backend.register run
  | .written runId entry => backend.write runId entry
  | .opened tenantId runId posture => backend.iterEvents tenantId runId posture
  | .next index env =>
    match backend.tails[index]? with
    | none => backend
    | some tail => backend.move index tail (backend.advance tail env)
  | .closed index =>
    match backend.tails[index]? with
    | none => backend
    | some tail => backend.move index tail (.error .closed)

end RealKernelBackend

open List

/-! ## The law -/

namespace LiveTail

variable (tail : LiveTail)

def Follows (row : StoredEvent) : Prop :=
  row.runId = tail.runId ∧ row.tenantId = tail.tenantId

instance (row : StoredEvent) : Decidable (tail.Follows row) :=
  inferInstanceAs (Decidable (_ ∧ _))

def held : List StoredEvent := tail.received ++ tail.left

/-- The event lies behind the cursor, or behind where the cursor will be when what was
read has been yielded. -/
def Passed (row : StoredEvent) : Prop :=
  row.sequence ≤ tail.lastSeq ∨ ∃ other ∈ tail.left, row.sequence ≤ other.sequence

instance (row : StoredEvent) : Decidable (tail.Passed row) :=
  inferInstanceAs (Decidable (_ ∨ _))

end LiveTail

namespace RealKernelBackend

variable (backend : RealKernelBackend)

/-- A consumer has every event that was stored when the run became terminal, once and
in the order of the sequences. -/
structure Complete (tail : LiveTail) : Prop where
  ordered : tail.received.Pairwise EventStore.bySequence
  once : tail.received.Nodup
  all : ∃ rows, backend.settled tail.runId = some rows ∧
    ∀ row ∈ rows, tail.Follows row → row ∈ tail.received

def Law : Prop := ∀ finished ∈ backend.ended, finished.2 = .terminal → backend.Complete finished.1

/-- The row that an event adds to the store. -/
def added : BackendEvent → Option StoredEvent
  | .append place fault =>
    (backend.log.due place).bind fun ticket =>
      if backend.log.eventStore.Adds fault ticket.2 then some ticket.2 else none
  | .publish env event =>
    match EventBus.stored env event with
    | .ok row => if backend.log.eventStore.Adds env.appendFault row then some row else none
    | .error _ => none
  | _ => none

def settles (runId : String) (entry : Int × ManagedRun.Write) : Bool :=
  (backend.manager.runs.lookup runId).any fun run =>
    !run.state.isTerminal && (run.write entry).state.isTerminal

/-- No row is stored behind the cursor of a generator whose run goes on, and when a run
becomes terminal, no generator has missed a row since it has read the store. -/
def Meets (event : BackendEvent) : Prop :=
  (∀ tail ∈ backend.tails, backend.isTerminal tail.runId = false →
    ∀ row ∈ backend.added event, tail.Follows row → ¬ tail.Passed row) ∧
  match event with
  | .written runId entry =>
    backend.settles runId entry = true →
      ∀ tail ∈ backend.tails, tail.runId = runId → tail.hasRead = true →
        ∀ row ∈ backend.log.eventStore.rows, tail.Follows row → row ∈ tail.held
  | .opened tenantId runId _ =>
    ∀ row ∈ backend.log.eventStore.rows, row.runId = runId → row.tenantId = tenantId →
      0 ≤ row.sequence
  | _ => True

instance (event : BackendEvent) : Decidable (backend.Meets event) :=
  match event with
  | .draw _ => inferInstanceAs (Decidable (_ ∧ True))
  | .append _ _ => inferInstanceAs (Decidable (_ ∧ True))
  | .publish _ _ => inferInstanceAs (Decidable (_ ∧ True))
  | .registered _ => inferInstanceAs (Decidable (_ ∧ True))
  | .written runId entry =>
    inferInstanceAs (Decidable (_ ∧ (backend.settles runId entry = true → _)))
  | .opened tenantId runId _ =>
    inferInstanceAs (Decidable (_ ∧ ∀ row ∈ backend.log.eventStore.rows,
      row.runId = runId → row.tenantId = tenantId → 0 ≤ row.sequence))
  | .next _ _ => inferInstanceAs (Decidable (_ ∧ True))
  | .closed _ => inferInstanceAs (Decidable (_ ∧ True))

end RealKernelBackend

/-! ## One generator -/

namespace LiveTail

variable {tail next : LiveTail}

/-- What was yielded lies behind the cursor; with what is left it is in order. -/
structure Ordered (tail : LiveTail) : Prop where
  ordered : tail.held.Pairwise EventStore.bySequence
  once : tail.held.Nodup
  below : ∀ row ∈ tail.received, row.sequence ≤ tail.lastSeq

theorem Ordered.new (tenantId runId : String) : (new tenantId runId).Ordered where
  ordered := List.Pairwise.nil
  once := nodup_nil
  below := fun _ h => by cases h

theorem of_list {store : EventStore} {env : TailEnv} (h : tail.list store env = .ok next) :
    ∃ stored, next = { tail with phase := .yielding stored } ∧
      stored.Pairwise EventStore.bySequence ∧ stored.Nodup ∧ ∀ row, row ∈ stored ↔
        row ∈ store.rows ∧ tail.Follows row ∧ tail.lastSeq < row.sequence := by
  unfold list at h
  cases hread : store.listSince env.posture env.fault tail.runId tail.lastSeq
      (some tail.tenantId) none none with
  | error error =>
    rw [hread] at h
    cases h
  | ok stored =>
    rw [hread] at h
    obtain ⟨hordered, honce⟩ := EventStore.ordered_listSince hread
    refine ⟨stored, (Except.ok.inj h).symm, hordered, honce, fun row => ?_⟩
    rw [EventStore.mem_listSince_iff hread row]
    simp only [EventStore.selectsSince, Option.all_some, Option.all_none, Bool.and_true,
      Bool.and_eq_true, decide_eq_true_eq, beq_iff_eq, Follows]
    tauto

theorem Ordered.list (h : tail.Ordered) {store : EventStore} {env : TailEnv}
    (hlist : tail.list store env = .ok next) : next.Ordered := by
  obtain ⟨stored, rfl, hordered, honce, hmem⟩ := of_list hlist
  have hbeyond : ∀ row ∈ tail.received, ∀ other ∈ stored, row.sequence < other.sequence :=
    fun row hrow other hother =>
      Int.lt_of_le_of_lt (h.below row hrow) ((hmem other).mp hother).2.2
  constructor
  case ordered =>
    refine pairwise_append.mpr ⟨(pairwise_append.mp h.ordered).1, hordered, ?_⟩
    exact fun row hrow other hother => Int.le_of_lt (hbeyond row hrow other hother)
  case once =>
    refine List.nodup_append.mpr ⟨(List.nodup_append.mp h.once).1, honce, ?_⟩
    rintro row hrow other hother rfl
    exact Int.lt_irrefl _ (hbeyond row hrow row hother)
  case below => exact h.below

/-- The generator behind the `yield` of a row. -/
def yielded (tail : LiveTail) (row : StoredEvent) (left : List StoredEvent) : LiveTail :=
  { tail with
    phase := .yielding left
    received := tail.received ++ [row]
    lastSeq := max tail.lastSeq row.sequence }

variable {left : List StoredEvent} {row : StoredEvent}

theorem held_yielded
    (hleft : tail.left = row :: left) : (tail.yielded row left).held = tail.held := by
  rw [held, held, hleft, ← singleton_append, ← append_assoc]
  rfl

theorem Ordered.yielded (h : tail.Ordered)
    (hleft : tail.left = row :: left) : (tail.yielded row left).Ordered where
  ordered := by
    rw [held_yielded hleft]
    exact h.ordered
  once := by
    rw [held_yielded hleft]
    exact h.once
  below := by
    intro other hother
    rcases mem_append.mp hother with hold | hnew
    · exact Int.le_trans (h.below other hold) (Int.le_max_left _ _)
    · rw [mem_singleton.mp hnew]
      exact Int.le_max_right _ _

theorem passed_yielded (hleft : tail.left = row :: left) {other : StoredEvent}
    (h : (tail.yielded row left).Passed other) : tail.Passed other := by
  rcases h with hcursor | ⟨later, hlater, hle⟩
  · have hmax : other.sequence ≤ max tail.lastSeq row.sequence := hcursor
    rcases le_max_iff.mp hmax with hold | hnew
    · exact .inl hold
    · refine .inr ⟨row, ?_, hnew⟩
      rw [hleft]
      exact mem_cons_self
  · refine .inr ⟨later, ?_, hle⟩
    rw [hleft]
    exact mem_cons_of_mem row hlater

theorem of_check {state : Option RunState} {env : TailEnv}
    (h : tail.check state env = .ok next) : next = { tail with phase := .polling } := by
  unfold check at h
  split at h
  · cases h
  · split at h
    · cases h
    · exact (Except.ok.inj h).symm

end LiveTail

namespace RealKernelBackend

variable {backend : RealKernelBackend} {tail next : LiveTail}

/-- The rows that a generator of a run has to deliver if the run is terminal now. -/
def owed (backend : RealKernelBackend) (runId : String) : List StoredEvent :=
  (backend.settled runId).getD backend.log.eventStore.rows

/-- A row that is owed is held or lies ahead; it is held by the generator of a run that
is terminal when the check of the run is next. -/
structure Covers (backend : RealKernelBackend) (tail : LiveTail) : Prop where
  reaches : ∀ row ∈ backend.owed tail.runId, tail.Follows row → row ∈ tail.held ∨ ¬ tail.Passed row
  caught : backend.isTerminal tail.runId = true → tail.hasRead = true →
    ∀ row ∈ backend.owed tail.runId, tail.Follows row → row ∈ tail.held

/-- What holds of a backend as long as its events meet the condition. -/
structure Inv (backend : RealKernelBackend) : Prop where
  known : ∀ runId, (backend.settled runId).isSome = backend.isTerminal runId
  stored : ∀ runId, backend.owed runId ⊆ backend.log.eventStore.rows
  ordered : ∀ tail ∈ backend.tails, tail.Ordered
  covers : ∀ tail ∈ backend.tails, backend.Covers tail
  law : backend.Law

/-! ## What a step of a generator keeps -/

variable {env : TailEnv}

theorem Covers.list (h : backend.Covers tail) (hleft : tail.left = [])
    (hstored : backend.owed tail.runId ⊆ backend.log.eventStore.rows)
    (hlist : tail.list backend.log.eventStore env = .ok next) : backend.Covers next := by
  obtain ⟨stored, rfl, -, -, hmem⟩ := LiveTail.of_list hlist
  have hheld : ∀ row ∈ backend.owed tail.runId, tail.Follows row →
      row ∈ tail.received ++ stored := by
    intro row hrow hfollows
    rcases h.reaches row hrow hfollows with hold | hahead
    · rw [LiveTail.held, hleft, append_nil] at hold
      exact mem_append_left _ hold
    · have hcursor : tail.lastSeq < row.sequence := by
        by_contra hle
        exact hahead (.inl (Int.not_lt.mp hle))
      exact mem_append_right _ ((hmem row).mpr ⟨hstored hrow, hfollows, hcursor⟩)
  exact ⟨fun row hrow hfollows => .inl (hheld row hrow hfollows), fun _ _ => hheld⟩

theorem Covers.yielded (h : backend.Covers tail) {row : StoredEvent}
    {left : List StoredEvent} (hphase : tail.phase = .yielding (row :: left)) :
    backend.Covers (tail.yielded row left) := by
  have hleft : tail.left = row :: left := by rw [LiveTail.left, hphase]
  have hread : tail.hasRead = true := by rw [LiveTail.hasRead, hphase]
  constructor
  case reaches =>
    intro other hother hfollows
    rw [LiveTail.held_yielded hleft]
    refine (h.reaches other hother hfollows).imp_right fun hahead hpassed => ?_
    exact hahead (LiveTail.passed_yielded hleft hpassed)
  case caught =>
    intro hover _ other hother hfollows
    rw [LiveTail.held_yielded hleft]
    exact h.caught hover hread other hother hfollows

theorem isTerminal_of_terminalStates {state : RunState} (h : state.value ∈ terminalStates) :
    state.isTerminal = true := by
  revert h
  cases state <;> decide

theorem list_ne_terminal (tail : LiveTail) (store : EventStore) (env : TailEnv) :
    tail.list store env ≠ .error .terminal := by
  intro h
  unfold LiveTail.list at h
  split at h
  · cases h
  · cases h

theorem isTerminal_of_check
    (h : tail.check (((backend.manager.runs.lookup tail.runId).filter fun run =>
      owns run ⟨tail.tenantId, "", ""⟩).map (·.state)) env = .error .terminal) :
    backend.isTerminal tail.runId = true := by
  unfold LiveTail.check at h
  split at h
  · rename_i hstate
    obtain ⟨state, hshown, hvalue⟩ := (Option.any_eq_true _ _).mp hstate
    obtain ⟨run, hrun, rfl⟩ := Option.map_eq_some_iff.mp hshown
    obtain ⟨hlookup, -⟩ := Option.filter_eq_some_iff.mp hrun
    rw [isTerminal, hlookup]
    exact isTerminal_of_terminalStates (of_decide_eq_true hvalue)
  · split at h
    · cases h
    · cases h

theorem Inv.advance (h : backend.Inv) (htail : tail ∈ backend.tails)
    (hnext : backend.advance tail env = .ok next) : next.Ordered ∧ backend.Covers next := by
  have hordered := h.ordered tail htail
  have hcovers := h.covers tail htail
  unfold RealKernelBackend.advance at hnext
  split at hnext
  · rename_i hphase
    split at hnext
    · cases hnext
    · -- the clock of the generator starts
      have hfresh : ({ tail with started := env.now } : LiveTail).left = [] := by
        rw [LiveTail.left, hphase]
      have hstarted : ({ tail with started := env.now } : LiveTail).Ordered :=
        ⟨hordered.ordered, hordered.once, hordered.below⟩
      have hcovered : backend.Covers { tail with started := env.now } :=
        ⟨hcovers.reaches, hcovers.caught⟩
      exact ⟨hstarted.list hnext, hcovered.list hfresh (h.stored tail.runId) hnext⟩
  · rename_i hphase
    have hleft : tail.left = [] := by rw [LiveTail.left, hphase]
    exact ⟨hordered.list hnext, hcovers.list hleft (h.stored tail.runId) hnext⟩
  · rename_i row left hphase
    have hleft : tail.left = row :: left := by rw [LiveTail.left, hphase]
    rw [← Except.ok.inj hnext]
    exact ⟨hordered.yielded hleft, hcovers.yielded hphase⟩
  · rename_i hphase
    have hheld : tail.held = ({ tail with phase := .polling } : LiveTail).held := by
      rw [LiveTail.held, LiveTail.held, LiveTail.left, hphase]
      rfl
    have hleft : tail.left = [] := by rw [LiveTail.left, hphase]
    rw [LiveTail.of_check hnext]
    refine ⟨⟨hheld ▸ hordered.ordered, hheld ▸ hordered.once, hordered.below⟩, ?_, ?_⟩
    · intro row hrow hfollows
      rw [← hheld]
      refine (hcovers.reaches row hrow hfollows).imp_right fun hahead hpassed => hahead ?_
      refine hpassed.imp_right fun ⟨other, hother, hle⟩ => ?_
      cases hother
    · intro _ hread
      cases hread

theorem Inv.complete (h : backend.Inv) (htail : tail ∈ backend.tails)
    (hend : backend.advance tail env = .error .terminal) : backend.Complete tail := by
  have hordered := h.ordered tail htail
  have hcovers := h.covers tail htail
  unfold RealKernelBackend.advance at hend
  split at hend
  · split at hend
    · cases hend
    · exact absurd hend (list_ne_terminal _ _ _)
  · exact absurd hend (list_ne_terminal _ _ _)
  · cases hend
  · rename_i hphase
    have hheld : tail.held = tail.received := by
      rw [LiveTail.held, LiveTail.left, hphase, append_nil]
    have hread : tail.hasRead = true := by rw [LiveTail.hasRead, hphase]
    have hover := isTerminal_of_check hend
    have hsettled : (backend.settled tail.runId).isSome = true :=
      (h.known tail.runId).trans hover
    obtain ⟨rows, hrows⟩ := Option.isSome_iff_exists.mp hsettled
    refine ⟨hheld ▸ hordered.ordered, hheld ▸ hordered.once, rows, hrows, ?_⟩
    intro row hrow hfollows
    rw [← hheld]
    refine hcovers.caught hover hread row ?_ hfollows
    rw [owed, hrows]
    exact hrow

theorem Inv.move (h : backend.Inv) (index : Nat) {moved : Except TailEnd LiveTail}
    (hnext : ∀ next, moved = .ok next → next.Ordered ∧ backend.Covers next)
    (hend : moved = .error .terminal → backend.Complete tail) :
    (backend.move index tail moved).Inv := by
  cases moved with
  | ok next =>
    obtain ⟨hordered, hcovers⟩ := hnext next rfl
    constructor
    case known => exact h.known
    case stored => exact h.stored
    case ordered =>
      intro other hother
      have hadvance : other ∈ Roster.advance backend.tails index (some next) := hother
      rcases Roster.mem_advance hadvance with hold | hnew
      · exact h.ordered other hold
      · cases hnew
        exact hordered
    case covers =>
      intro other hother
      have hadvance : other ∈ Roster.advance backend.tails index (some next) := hother
      rcases Roster.mem_advance hadvance with hold | hnew
      · exact ⟨(h.covers other hold).reaches, (h.covers other hold).caught⟩
      · cases hnew
        exact ⟨hcovers.reaches, hcovers.caught⟩
    case law =>
      intro finished hended hwhy
      have hfull := h.law finished hended hwhy
      exact ⟨hfull.ordered, hfull.once, hfull.all⟩
  | error why =>
    constructor
    case known => exact h.known
    case stored => exact h.stored
    case ordered =>
      intro other hother
      exact h.ordered other (mem_of_mem_eraseIdx hother)
    case covers =>
      intro other hother
      have hold : other ∈ backend.tails := mem_of_mem_eraseIdx hother
      exact ⟨(h.covers other hold).reaches, (h.covers other hold).caught⟩
    case law =>
      intro finished hended hwhy
      rcases mem_append.mp hended with hold | hnew
      · have hfull := h.law finished hold hwhy
        exact ⟨hfull.ordered, hfull.once, hfull.all⟩
      · rw [mem_singleton.mp hnew] at hwhy ⊢
        have hfull := hend (congrArg Except.error hwhy)
        exact ⟨hfull.ordered, hfull.once, hfull.all⟩

/-! ## What the others keep -/

theorem Inv.grow (h : backend.Inv) {log : EventLog} {rows : List StoredEvent}
    (hrows : log.eventStore.rows = backend.log.eventStore.rows ++ rows)
    (hahead : ∀ tail ∈ backend.tails, backend.isTerminal tail.runId = false →
      ∀ row ∈ rows, tail.Follows row → ¬ tail.Passed row) :
    ({ backend with log := log } : RealKernelBackend).Inv := by
  constructor
  case known => exact h.known
  case stored =>
    intro runId row hrow
    have hstored := h.stored runId
    rw [owed] at hstored
    have howed : row ∈ (backend.settled runId).getD log.eventStore.rows := hrow
    change row ∈ log.eventStore.rows
    cases hsettled : backend.settled runId with
    | none =>
      rw [hsettled] at howed
      exact howed
    | some settled =>
      rw [hsettled] at hstored howed
      rw [hrows]
      exact mem_append_left _ (hstored howed)
  case ordered => exact h.ordered
  case covers =>
    intro tail htail
    have hcovers := h.covers tail htail
    cases hsettled : backend.settled tail.runId with
    | none =>
      have hknown := h.known tail.runId
      rw [hsettled] at hknown
      have hgoes : backend.isTerminal tail.runId = false := hknown.symm
      constructor
      case reaches =>
        intro row hrow hfollows
        have howed : row ∈ (backend.settled tail.runId).getD log.eventStore.rows := hrow
        rw [hsettled, Option.getD_none, hrows] at howed
        rcases mem_append.mp howed with hold | hnew
        · refine hcovers.reaches row ?_ hfollows
          rw [owed, hsettled]
          exact hold
        · exact .inr (hahead tail htail hgoes row hnew hfollows)
      case caught =>
        intro hover
        have hends : backend.isTerminal tail.runId = true := hover
        rw [hgoes] at hends
        cases hends
    | some settled =>
      -- what was stored when the run became terminal does not change
      have hsame : ({ backend with log := log } : RealKernelBackend).owed tail.runId =
          backend.owed tail.runId := by
        rw [owed, owed, hsettled]
        rfl
      constructor
      case reaches =>
        rw [hsame]
        exact hcovers.reaches
      case caught =>
        rw [hsame]
        exact hcovers.caught
  case law =>
    intro finished hended hwhy
    have hfull := h.law finished hended hwhy
    exact ⟨hfull.ordered, hfull.once, hfull.all⟩

theorem rows_append (place : Nat) (fault : Option WriteFault) :
    (backend.log.append place fault).eventStore.rows =
      backend.log.eventStore.rows ++ (backend.added (.append place fault)).toList := by
  rw [EventLog.append, added]
  cases hdue : backend.log.due place with
  | none => exact (append_nil _).symm
  | some ticket =>
    simp only [EventStore.rows_append, Option.bind_some]
    split
    · rfl
    · exact (append_nil _).symm

theorem rows_publish (env : PublishEnv) (event : RuntimeEvent) :
    (backend.log.publish env event).eventStore.rows =
      backend.log.eventStore.rows ++ (backend.added (.publish env event)).toList := by
  rw [EventLog.publish, EventBus.persist, added]
  cases hrow : EventBus.stored env event with
  | error error => exact (append_nil _).symm
  | ok row =>
    simp only [EventStore.rows_append]
    split
    · rfl
    · exact (append_nil _).symm

theorem isTerminal_register (run : ManagedRun) (runId : String) :
    (backend.register run).isTerminal runId = backend.isTerminal runId := by
  simp only [isTerminal, register, Table.lookup_insertOrIgnore]
  split
  · rename_i hrun
    subst hrun
    cases hold : backend.manager.runs.lookup run.runId with
    | none => simp [RunState.isTerminal]
    | some old => simp
  · rfl

theorem Inv.register (h : backend.Inv) (run : ManagedRun) : (backend.register run).Inv where
  known := fun runId => (h.known runId).trans (isTerminal_register run runId).symm
  stored := h.stored
  ordered := h.ordered
  covers := fun tail htail =>
    ⟨(h.covers tail htail).reaches, fun hover =>
      (h.covers tail htail).caught ((isTerminal_register run tail.runId).symm.trans hover)⟩
  law := fun finished hended hwhy =>
    have hfull := h.law finished hended hwhy
    ⟨hfull.ordered, hfull.once, hfull.all⟩

theorem isTerminal_write (runId : String) (entry : Int × ManagedRun.Write) (other : String) :
    (backend.write runId entry).isTerminal other =
      (backend.isTerminal other || other == runId && backend.settles runId entry) := by
  simp only [isTerminal, write, RunManager.writeRun, settles, Table.lookup_updateAt]
  by_cases hrun : other = runId
  · subst hrun
    cases hold : backend.manager.runs.lookup other with
    | none => simp
    | some run =>
      cases hover : run.state.isTerminal with
      | true =>
        have hstays := ManagedRun.state_write_of_isTerminal run entry hover
        simp [hover, hstays]
      | false => simp [hover]
  · simp [hrun]

variable {entry : Int × ManagedRun.Write} {runId : String}

theorem isTerminal_of_settles
    (h : backend.settles runId entry = true) : backend.isTerminal runId = false := by
  rw [settles] at h
  rw [isTerminal]
  cases hold : backend.manager.runs.lookup runId with
  | none => rfl
  | some run =>
    rw [hold, Option.any_some, Bool.and_eq_true, Bool.not_eq_true'] at h
    exact h.1

theorem settled_write (runId : String) (entry : Int × ManagedRun.Write) :
    (backend.write runId entry).settled = if backend.settles runId entry then
        Function.update backend.settled runId (some backend.log.eventStore.rows)
      else backend.settled := by
  have hends : (!backend.isTerminal runId &&
      ((backend.manager.writeRun runId entry).runs.lookup runId).any fun run =>
        run.state.isTerminal) = backend.settles runId entry := by
    rw [isTerminal, RunManager.writeRun, settles, Table.lookup_updateAt, if_pos rfl]
    cases backend.manager.runs.lookup runId with
    | none => rfl
    | some run => rfl
  rw [write, hends]

theorem Inv.write_of_not_settles (h : backend.Inv)
    (hsettles : backend.settles runId entry = false) : (backend.write runId entry).Inv := by
  have hover : ∀ other,
      (backend.write runId entry).isTerminal other = backend.isTerminal other := by
    intro other
    rw [isTerminal_write, hsettles, Bool.and_false, Bool.or_false]
  have hsettled : (backend.write runId entry).settled = backend.settled := by
    rw [settled_write, hsettles, if_neg Bool.false_ne_true]
  have howed : (backend.write runId entry).owed = backend.owed := by
    funext other
    rw [owed, owed, hsettled]
    rfl
  constructor
  case known =>
    intro other
    rw [hsettled, hover]
    exact h.known other
  case stored =>
    rw [howed]
    exact h.stored
  case ordered => exact h.ordered
  case covers =>
    intro tail htail
    have hcovers := h.covers tail htail
    constructor
    case reaches =>
      rw [howed]
      exact hcovers.reaches
    case caught =>
      rw [howed, hover]
      exact hcovers.caught
  case law =>
    intro finished hended hwhy
    have hfull := h.law finished hended hwhy
    refine ⟨hfull.ordered, hfull.once, ?_⟩
    rw [hsettled]
    exact hfull.all

theorem Inv.write_of_settles (h : backend.Inv) (hsettles : backend.settles runId entry = true)
    (hheld : ∀ tail ∈ backend.tails, tail.runId = runId → tail.hasRead = true →
      ∀ row ∈ backend.log.eventStore.rows, tail.Follows row → row ∈ tail.held) :
    (backend.write runId entry).Inv := by
  have hgoes : backend.isTerminal runId = false := isTerminal_of_settles hsettles
  have hnone : backend.settled runId = none := by
    have hknown := h.known runId
    rw [hgoes] at hknown
    exact Option.isNone_iff_eq_none.mp (Option.isSome_eq_false_iff.mp hknown)
  have hsettled : (backend.write runId entry).settled =
      Function.update backend.settled runId (some backend.log.eventStore.rows) := by
    rw [settled_write, hsettles, if_pos rfl]
  -- what a generator of the run owes is what is stored, now as before
  have howed : (backend.write runId entry).owed = backend.owed := by
    funext other
    rw [owed, owed, hsettled, Function.update_apply]
    split
    · rename_i hrun
      rw [hrun, hnone]
      rfl
    · rfl
  constructor
  case known =>
    intro other
    rw [hsettled, isTerminal_write, hsettles, Bool.and_true, Function.update_apply]
    by_cases hrun : other = runId
    · simp [hrun]
    · simp [hrun, h.known other]
  case stored =>
    rw [howed]
    exact h.stored
  case ordered => exact h.ordered
  case covers =>
    intro tail htail
    have hcovers := h.covers tail htail
    constructor
    case reaches =>
      rw [howed]
      exact hcovers.reaches
    case caught =>
      intro hover hread
      rw [howed]
      rw [isTerminal_write, hsettles, Bool.and_true, Bool.or_eq_true] at hover
      rcases hover with hold | hrun
      · exact hcovers.caught hold hread
      · have hmine : tail.runId = runId := beq_iff_eq.mp hrun
        rw [owed, hmine, hnone]
        exact hheld tail htail hmine hread
  case law =>
    intro finished hended hwhy
    have hfull := h.law finished hended hwhy
    obtain ⟨rows, hrows, hall⟩ := hfull.all
    refine ⟨hfull.ordered, hfull.once, rows, ?_, hall⟩
    rw [hsettled, Function.update_apply, if_neg]
    · exact hrows
    · intro hrun
      rw [hrun, hnone] at hrows
      cases hrows

theorem Inv.write (h : backend.Inv)
    (hheld : backend.settles runId entry = true → ∀ tail ∈ backend.tails,
      tail.runId = runId → tail.hasRead = true →
        ∀ row ∈ backend.log.eventStore.rows, tail.Follows row → row ∈ tail.held) :
    (backend.write runId entry).Inv := by
  cases hsettles : backend.settles runId entry with
  | false => exact h.write_of_not_settles hsettles
  | true => exact h.write_of_settles hsettles (hheld hsettles)

theorem Inv.iterEvents (h : backend.Inv) {tenantId runId : String} {posture : Except String Posture}
    (hahead : ∀ row ∈ backend.log.eventStore.rows, row.runId = runId →
      row.tenantId = tenantId → 0 ≤ row.sequence) :
    (backend.iterEvents tenantId runId posture).Inv := by
  unfold RealKernelBackend.iterEvents
  split
  · exact h
  · have hnew : backend.Covers (.new tenantId runId) := by
      constructor
      case reaches =>
        intro row hrow hfollows
        refine .inr fun hpassed => ?_
        have hnonneg := hahead row (h.stored runId hrow) hfollows.1 hfollows.2
        rcases hpassed with hcursor | ⟨other, hother, _⟩
        · have hbehind : row.sequence ≤ -1 := hcursor
          omega
        · cases hother
      case caught =>
        intro _ hread
        cases hread
    constructor
    case known => exact h.known
    case stored => exact h.stored
    case ordered =>
      intro tail htail
      rcases mem_append.mp htail with hold | hmem
      · exact h.ordered tail hold
      · rw [mem_singleton.mp hmem]
        exact LiveTail.Ordered.new tenantId runId
    case covers =>
      intro tail htail
      rcases mem_append.mp htail with hold | hmem
      · exact ⟨(h.covers tail hold).reaches, (h.covers tail hold).caught⟩
      · rw [mem_singleton.mp hmem]
        exact ⟨hnew.reaches, hnew.caught⟩
    case law =>
      intro finished hended hwhy
      have hfull := h.law finished hended hwhy
      exact ⟨hfull.ordered, hfull.once, hfull.all⟩

/-! ## Runs -/

theorem Inv.start (log : EventLog) (manager : RunManager) : (start log manager).Inv where
  known := by
    intro runId
    rw [isTerminal, RealKernelBackend.start]
    dsimp only
    split
    · rename_i hover
      rw [hover]
      rfl
    · rename_i hover
      rw [Bool.eq_false_iff.mpr hover]
      rfl
  stored := by
    intro runId
    rw [owed, RealKernelBackend.start]
    dsimp only
    split
    · exact List.Subset.refl _
    · exact List.Subset.refl _
  ordered := fun tail htail => by cases htail
  covers := fun tail htail => by cases htail
  law := fun finished hended => by cases hended

/-- A step keeps what the open generators owe. -/
theorem Inv.step (h : backend.Inv) {event : BackendEvent} (hmeets : backend.Meets event) :
    (backend.step event).Inv := by
  obtain ⟨hahead, hevent⟩ := hmeets
  cases event with
  | draw call =>
    refine h.grow (append_nil _).symm fun tail htail hgoes row hrow => ?_
    cases hrow
  | append place fault =>
    refine h.grow (rows_append place fault) fun tail htail hgoes row hrow => ?_
    exact hahead tail htail hgoes row (Option.mem_toList.mp hrow)
  | publish env event =>
    refine h.grow (rows_publish env event) fun tail htail hgoes row hrow => ?_
    exact hahead tail htail hgoes row (Option.mem_toList.mp hrow)
  | registered run => exact h.register run
  | written runId entry => exact h.write hevent
  | opened tenantId runId posture => exact h.iterEvents hevent
  | next index env =>
    cases htail : backend.tails[index]? with
    | none =>
      simp only [RealKernelBackend.step, htail]
      exact h
    | some tail =>
      have hmem := mem_of_getElem? htail
      simp only [RealKernelBackend.step, htail]
      exact h.move index (fun next hnext => h.advance hmem hnext) (h.complete hmem)
  | closed index =>
    cases htail : backend.tails[index]? with
    | none =>
      simp only [RealKernelBackend.step, htail]
      exact h
    | some tail =>
      simp only [RealKernelBackend.step, htail]
      refine h.move index (fun next hnext => ?_) fun hend => ?_
      · cases hnext
      · cases hend

/-- In a run whose events meet the condition every generator that ends because its run
is terminal has delivered what was stored by then. -/
theorem tailLaw_of_meets (log : EventLog) (manager : RunManager)
    (events : List BackendEvent) (hmeets : Along step Meets (start log manager) events) :
    Always step Law (start log manager) events :=
  always_of_invariant (fun _ _ h hmeets => h.step hmeets)
    (fun _ h => h.law) (Inv.start log manager) hmeets

/-! ## Two consumers -/

/-- A run of the tenant. -/
def plainRun : ManagedRun where
  runId := "run"
  taskContract := []
  tenantId := "tenant"
  state := .created
  error := .none
  createdAt := 0
  updatedAt := 0
  finishedAt := none
  userId := ""
  sessionId := ""
  projectId := .str "project"
  idempotencyKey := none
  startedAt := none
  parentRunId := ""
  attemptId := "attempt"
  phaseId := ""
  profileId := ""

/-- A lifecycle event of the run. -/
def lifecycleCall (eventType uuid : String) : RunEventCall where
  runId := "run"
  eventType := eventType
  payload := []
  run := plainRun
  uuid := uuid
  createdAt := 0
  posture := .ok .research
  seedFault := some .operationalError

def plainTail : TailEnv := ⟨.ok .research, none, 0⟩

def running : List BackendEvent :=
  [.written "run" (0, .begin), .draw (lifecycleCall "run_started" "event-1"), .append 0 none,
    .written "run" (0, .conclude .none .none)]

def plainManager : RunManager := ⟨Table.empty, none, none, none⟩

/-- A generator that sleeps while the run is concluded reads the event afterwards. -/
def followed : List BackendEvent :=
  [.registered plainRun, .opened "tenant" "run" (.ok .research), .next 0 plainTail,
    .next 0 plainTail] ++ running ++ [.next 0 plainTail, .next 0 plainTail, .next 0 plainTail]

theorem tailLaw_followed : Along step Meets (start EventLog.start plainManager) followed ∧
      Always step Law (start EventLog.start plainManager) followed := by
  have hmeets : Along step Meets (start EventLog.start plainManager) followed := by decide
  exact ⟨hmeets, tailLaw_of_meets EventLog.start plainManager followed hmeets⟩

/-- The run is announced and concluded after a generator has read the store, and before
it looks at the run. -/
theorem not_tailLaw_concluded :
    ¬ ∀ (log : EventLog) (manager : RunManager) (events : List BackendEvent),
      Always step Law (start log manager) events := by
  intro h
  have hlaw := (h EventLog.start plainManager
    ([.registered plainRun, .opened "tenant" "run" (.ok .research), .next 0 plainTail] ++
      running ++ [.next 0 plainTail])).last
  obtain ⟨rows, hrows, hall⟩ := (hlaw _ mem_cons_self rfl).all
  obtain rfl := Option.some.inj hrows
  exact absurd (hall _ mem_cons_self (by decide)) (by decide)

end RealKernelBackend

end HiAgent.AgentServer
