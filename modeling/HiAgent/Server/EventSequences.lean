/-
  Server/EventSequences.lean --- the numbers of the events of a run.

  `RunManager._publish_run_event` (`hi_agent/server/run_manager.py`) numbers the
  lifecycle events of a run with a counter in memory, which it seeds from the event
  store when it does not know the run; `EventBus.publish` writes into the same store
  under the commit offset of its event.
-/
import HiAgent.Server.EventStore
import Mathlib.Logic.Function.Basic

namespace HiAgent.Server

open Foundation List

/-! ## The steps -/

/-- What one call of `_publish_run_event` is given and reads. -/
structure RunEventCall where
  runId : String
  eventType : String
  payload : PyDict
  run : ManagedRun
  uuid : String
  createdAt : Int
  posture : Except String Posture
  /-- How the query of `max_sequence` fails. -/
  seedFault : Option Raised

/-- The `StoredEvent` that the call builds around its number. -/
def RunEventCall.build (call : RunEventCall) (sequence : Int) : Except EventError StoredEvent :=
  ((PyValue.dumps false (.dict call.payload)).mapError .raised).bind fun payload =>
    StoredEvent.construct call.posture
      { eventId := call.uuid
        runId := call.runId
        sequence := sequence
        eventType := call.eventType
        payloadJson := payload
        tenantId := call.run.tenantId
        userId := if call.run.userId = "" then "__legacy__" else call.run.userId
        sessionId := if call.run.sessionId = "" then "__legacy__" else call.run.sessionId
        createdAt := call.createdAt
        parentRunId := call.run.parentRunId
        attemptId := call.run.attemptId
        phaseId := call.run.phaseId }

theorem RunEventCall.eq_of_build {call : RunEventCall} {sequence : Int}
    {event : StoredEvent} (h : call.build sequence = .ok event) :
    event.runId = call.runId ∧ event.sequence = sequence := by
  obtain ⟨payload, _, hevent⟩ := bind_eq_ok_iff.mp h
  rw [StoredEvent.eq_of_construct hevent]
  exact ⟨rfl, rfl⟩

abbrev Ticket := Nat × StoredEvent

/-- The event store, and the manager that writes to it. -/
structure EventLog where
  eventStore : EventStore
  /-- `_event_seqs`. -/
  eventSeqs : String → Option Int
  /-- How many numbers have been drawn. -/
  draws : Nat
  /-- The calls that have drawn their number and not come to `append`. -/
  pending : List Ticket
  /-- The rows the managers have added. -/
  lifecycle : List Ticket
  /-- The rows the bus has added. -/
  fromBus : List StoredEvent

namespace EventLog

/-- A new store, and a manager that knows no run. -/
def start : EventLog where
  eventStore := Table.empty
  eventSeqs := fun _ => none
  draws := 0
  pending := []
  lifecycle := []
  fromBus := []

/-- The answer of `max_sequence` to the manager, which does not name the tenant. -/
def highest (log : EventLog) (call : RunEventCall) : Except EventError Int :=
  log.eventStore.maxSequence call.posture call.seedFault call.runId none

/-- The number of a call: the counter of its run, seeded when the run has none. -/
def number (log : EventLog) (call : RunEventCall) : Int :=
  match log.eventSeqs call.runId with
  | some sequence => sequence
  | none =>
    match log.highest call with
    | .ok sequence => sequence + 1
    | .error _ => 0

/-- `_publish_run_event`, up to its call of `append`. -/
def draw (log : EventLog) (call : RunEventCall) : EventLog where
  eventStore := log.eventStore
  eventSeqs := Function.update log.eventSeqs call.runId (some (log.number call + 1))
  draws := log.draws + 1
  pending :=
    match call.build (log.number call) with
    | .ok event => log.pending ++ [(log.draws, event)]
    | .error _ => log.pending
  lifecycle := log.lifecycle
  fromBus := log.fromBus

def due (log : EventLog) (place : Nat) : Option Ticket :=
  log.pending.find? fun ticket => ticket.1 == place

/-- The call of `append` at the end of `_publish_run_event`, which catches what it
raises. -/
def append (log : EventLog) (place : Nat) (fault : Option WriteFault) : EventLog :=
  match log.due place with
  | none => log
  | some ticket =>
    { log with
      eventStore := (log.eventStore.append fault ticket.2).2
      pending := log.pending.filter fun other => other.1 != place
      lifecycle :=
        if log.eventStore.Adds fault ticket.2 then log.lifecycle ++ [ticket]
        else log.lifecycle }

/-- `EventBus.publish`, as the store sees it. -/
def publish (log : EventLog) (env : PublishEnv) (event : RuntimeEvent) : EventLog :=
  { log with
    eventStore := (EventBus.persist env log.eventStore event).2
    fromBus :=
      match EventBus.stored env event with
      | .ok row =>
        if log.eventStore.Adds env.appendFault row then log.fromBus ++ [row]
        else log.fromBus
      | .error _ => log.fromBus }

/-- The next thing that happens. -/
inductive Event where
  | draw (call : RunEventCall)
  | append (place : Nat) (fault : Option WriteFault)
  | restart
  | publish (env : PublishEnv) (event : RuntimeEvent)

/-- One step. -/
def step (log : EventLog) : Event → EventLog
  | .draw call => log.draw call
  | .append place fault => log.append place fault
  | .restart => { log with eventSeqs := fun _ => none, pending := [] }
  | .publish env event => log.publish env event

/-! ## The law -/

/-- No two events of the run have one number, and the numbers of its lifecycle events
grow in the order of publication. -/
structure Law (run : String) (log : EventLog) : Prop where
  distinct : (log.eventStore.sequences run none).Nodup
  grows : ∀ earlier ∈ log.lifecycle, ∀ later ∈ log.lifecycle,
    earlier.2.runId = run → later.2.runId = run → earlier.1 < later.1 →
      earlier.2.sequence < later.2.sequence

/-- What keeps the law. A manager that does not know the run reads its seed, or no
lifecycle event of the run has reached the number 0 it goes on with; and neither
writer adds a row under a number the other one has used. -/
def Fits (run : String) (log : EventLog) : Event → Prop
  | .draw call =>
    call.runId = run → log.eventSeqs run = none → Succeeds (log.highest call) ∨
        ∀ ticket ∈ log.lifecycle, ticket.2.runId = run → ticket.2.sequence < 0
  | .append place fault =>
    ∀ ticket, log.due place = some ticket → ticket.2.runId = run →
      log.eventStore.Adds fault ticket.2 →
        ∀ row ∈ log.fromBus, row.runId = run → row.sequence ≠ ticket.2.sequence
  | .restart => True
  | .publish env event =>
    event.runId = run → ∀ row, EventBus.stored env event = .ok row →
      log.eventStore.Adds env.appendFault row →
        EventBus.offset event ∉ log.eventStore.sequences run none

/-! ## The invariant -/

def tickets (log : EventLog) : List Ticket := log.lifecycle ++ log.pending

/-- What holds of the rows of a run and of its counter. -/
structure Numbered (run : String) (log : EventLog) : Prop where
  /-- A row is of one of the two writers. -/
  written : ∀ row ∈ log.eventStore.rows,
    row ∈ log.fromBus ∨ ∃ ticket ∈ log.lifecycle, ticket.2 = row
  held : ∀ ticket ∈ log.lifecycle, ticket.2 ∈ log.eventStore.rows
  distinct : (log.eventStore.sequences run none).Nodup
  /-- The counter of the run is above every number drawn. -/
  above : ∀ counter, log.eventSeqs run = some counter →
    ∀ ticket ∈ log.tickets, ticket.2.runId = run → ticket.2.sequence < counter
  /-- A call under way has left a counter behind. -/
  known : ∀ ticket ∈ log.pending, ticket.2.runId = run → log.eventSeqs run ≠ none
  drawn : ∀ ticket ∈ log.tickets, ticket.1 < log.draws
  apart : ∀ ticket ∈ log.pending, ∀ other ∈ log.lifecycle, ticket.1 ≠ other.1
  grows : ∀ earlier ∈ log.tickets, ∀ later ∈ log.tickets,
    earlier.2.runId = run → later.2.runId = run → earlier.1 < later.1 →
      earlier.2.sequence < later.2.sequence

namespace Numbered

variable {run : String} {log : EventLog}

theorem law (h : Numbered run log) : Law run log where
  distinct := h.distinct
  grows := fun earlier hearlier later hlater =>
    h.grows earlier (mem_append_left _ hearlier) later (mem_append_left _ hlater)

theorem start : Numbered run EventLog.start where
  written := fun _ h => by cases h
  held := fun _ h => by cases h
  distinct := nodup_nil
  above := fun _ h => by cases h
  known := fun _ h => by cases h
  drawn := fun _ h => by cases h
  apart := fun _ h => by cases h
  grows := fun _ h => by cases h

theorem restart (h : Numbered run log) : Numbered run (log.step .restart) :=
  { h with
    above := fun _ hcounter => by cases hcounter
    known := fun _ hticket => by cases hticket
    drawn := fun ticket hticket => by
      rw [step, tickets, append_nil] at hticket
      exact h.drawn ticket (mem_append_left _ hticket)
    apart := fun _ hticket => by cases hticket
    grows := fun earlier hearlier later hlater => by
      rw [step, tickets, append_nil] at hearlier hlater
      exact h.law.grows earlier hearlier later hlater }

variable {fault : Option WriteFault} {call : RunEventCall}

theorem lt_number (h : Numbered run log) (hcall : call.runId = run)
    (hfits : Fits run log (.draw call)) :
    ∀ ticket ∈ log.tickets, ticket.2.runId = run → ticket.2.sequence < log.number call := by
  intro ticket hticket hrun
  unfold number
  rw [hcall]
  cases hcounter : log.eventSeqs run with
  | some counter => exact h.above counter hcounter ticket hticket hrun
  | none =>
    dsimp only
    -- no call is under way, so the event is stored
    have hstored : ticket ∈ log.lifecycle := by
      rcases mem_append.mp hticket with hmem | hmem
      · exact hmem
      · exact absurd hcounter (h.known ticket hmem hrun)
    cases hseed : log.highest call with
    | ok sequence =>
      dsimp only
      have hle := EventStore.le_maxSequence hseed (h.held ticket hstored)
        (hrun.trans hcall.symm)
      omega
    | error error =>
      dsimp only
      rcases hfits hcall hcounter with hanswers | hnone
      · rw [hseed] at hanswers
        exact absurd hanswers (not_succeeds_error error)
      · exact hnone ticket hstored hrun

theorem mem_pending_draw {ticket : Ticket}
    (h : ticket ∈ (log.draw call).pending) : ticket ∈ log.pending ∨
      (ticket.1 = log.draws ∧ ticket.2.runId = call.runId ∧
        ticket.2.sequence = log.number call) := by
  unfold EventLog.draw at h
  cases hbuild : call.build (log.number call) with
  | error error =>
    simp only [hbuild] at h
    exact .inl h
  | ok event =>
    simp only [hbuild] at h
    rcases mem_append.mp h with hold | hnew
    · exact .inl hold
    · rw [mem_singleton.mp hnew]
      exact .inr ⟨rfl, RunEventCall.eq_of_build hbuild⟩

theorem mem_tickets_draw {ticket : Ticket}
    (h : ticket ∈ (log.draw call).tickets) : ticket ∈ log.tickets ∨
      (ticket.1 = log.draws ∧ ticket.2.runId = call.runId ∧
        ticket.2.sequence = log.number call) := by
  rcases mem_append.mp h with hmem | hmem
  · exact .inl (mem_append_left _ hmem)
  · exact (mem_pending_draw hmem).imp_left (mem_append_right _)

theorem eventSeqs_draw (call : RunEventCall) (run : String) : (log.draw call).eventSeqs run =
      if run = call.runId then some (log.number call + 1) else log.eventSeqs run :=
  Function.update_apply ..

theorem draw (h : Numbered run log)
    (hfits : Fits run log (.draw call)) : Numbered run (log.draw call) where
  written := h.written
  held := h.held
  distinct := h.distinct
  above := by
    intro counter hcounter ticket hticket hrun
    rw [eventSeqs_draw] at hcounter
    split at hcounter
    · rename_i hcall
      have hnext : log.number call + 1 = counter := Option.some.inj hcounter
      rcases mem_tickets_draw hticket with hold | ⟨_, _, hseq⟩
      · have hlt := h.lt_number hcall.symm hfits ticket hold hrun
        omega
      · omega
    · rename_i hother
      rcases mem_tickets_draw hticket with hold | ⟨_, hof, _⟩
      · exact h.above counter hcounter ticket hold hrun
      · exact absurd (hrun.symm.trans hof) hother
  known := by
    intro ticket hticket hrun
    rw [eventSeqs_draw]
    split
    · exact Option.some_ne_none _
    · rename_i hother
      rcases mem_pending_draw hticket with hold | ⟨_, hof, _⟩
      · exact h.known ticket hold hrun
      · exact absurd (hrun.symm.trans hof) hother
  drawn := by
    intro ticket hticket
    change ticket.1 < log.draws + 1
    rcases mem_tickets_draw hticket with hold | ⟨hplace, _, _⟩
    · have hlt := h.drawn ticket hold
      omega
    · omega
  apart := by
    intro ticket hticket other hother
    rcases mem_pending_draw hticket with hold | ⟨hplace, _, _⟩
    · exact h.apart ticket hold other hother
    · have hlt := h.drawn other (mem_append_left _ hother)
      omega
  grows := by
    intro earlier hearlier later hlater hrun hrun' hlt
    rcases mem_tickets_draw hlater with hlater | ⟨hplace, hof, hseq⟩
    · rcases mem_tickets_draw hearlier with hearlier | ⟨hplace, _, _⟩
      · exact h.grows earlier hearlier later hlater hrun hrun' hlt
      · have hdrawn := h.drawn later hlater
        omega
    · rcases mem_tickets_draw hearlier with hearlier | ⟨hplace', _, _⟩
      · rw [hseq]
        exact h.lt_number (hof.symm.trans hrun') hfits earlier hearlier hrun
      · omega

theorem nodup_append {store : EventStore}
    {event : StoredEvent} (h : (store.sequences run none).Nodup)
    (hnew : store.Adds fault event → event.runId = run →
      event.sequence ∉ store.sequences run none) :
    ((store.append fault event).2.sequences run none).Nodup := by
  rw [EventStore.sequences_append]
  split
  · rename_i hadds
    refine List.nodup_append.mpr ⟨h, nodup_singleton _, ?_⟩
    intro old hold new hmem heq
    rw [mem_singleton.mp hmem] at heq
    exact hnew hadds.1 hadds.2 (heq ▸ hold)
  · exact h

theorem due_fresh (h : Numbered run log) {place : Nat}
    {ticket : Ticket} (hdue : log.due place = some ticket)
    (hfits : Fits run log (.append place fault)) (hrun : ticket.2.runId = run)
    (hadds : log.eventStore.Adds fault ticket.2) :
    ticket.2.sequence ∉ log.eventStore.sequences run none := by
  intro hmem
  obtain ⟨row, hrow, hof, hseq⟩ := EventStore.mem_sequences_iff.mp hmem
  have hpending : ticket ∈ log.pending := mem_of_find?_eq_some hdue
  rcases h.written row hrow with hbus | ⟨other, hother, rfl⟩
  · exact hfits ticket hdue hrun hadds row hbus hof hseq
  · have hapart := h.apart ticket hpending other hother
    have hmine : ticket ∈ log.tickets := mem_append_right _ hpending
    have hits : other ∈ log.tickets := mem_append_left _ hother
    rcases Nat.lt_or_gt_of_ne hapart with hlt | hlt
    · have hless := h.grows ticket hmine other hits hrun hof hlt
      omega
    · have hless := h.grows other hits ticket hmine hof hrun hlt
      omega

theorem mem_lifecycle_append {place : Nat}
    {ticket other : Ticket} (hdue : log.due place = some ticket) :
    other ∈ (log.append place fault).lifecycle ↔
      other ∈ log.lifecycle ∨ (log.eventStore.Adds fault ticket.2 ∧ other = ticket) := by
  simp only [EventLog.append, hdue]
  split
  · rename_i hadds
    rw [mem_append, mem_singleton, and_iff_right hadds]
  · rename_i hadds
    rw [or_iff_left fun h => hadds h.1]

theorem append (h : Numbered run log) {place : Nat}
    (hfits : Fits run log (.append place fault)) : Numbered run (log.append place fault) := by
  cases hdue : log.due place with
  | none =>
    simp only [EventLog.append, hdue]
    exact h
  | some ticket =>
    have hpending : ticket ∈ log.pending := mem_of_find?_eq_some hdue
    have hplace : ticket.1 = place := by simpa using find?_some hdue
    have hstore : (log.append place fault).eventStore =
        (log.eventStore.append fault ticket.2).2 := by
      simp only [EventLog.append, hdue]
    have hleft : (log.append place fault).pending =
        log.pending.filter fun other => other.1 != place := by
      simp only [EventLog.append, hdue]
    have hcounters : (log.append place fault).eventSeqs = log.eventSeqs := by
      simp only [EventLog.append, hdue]
    have hdraws : (log.append place fault).draws = log.draws := by
      simp only [EventLog.append, hdue]
    have hbus : (log.append place fault).fromBus = log.fromBus := by
      simp only [EventLog.append, hdue]
    have htickets : ∀ other ∈ (log.append place fault).tickets, other ∈ log.tickets := by
      intro other hother
      rcases mem_append.mp hother with hmem | hmem
      · rcases (mem_lifecycle_append hdue).mp hmem with hold | ⟨_, rfl⟩
        · exact mem_append_left _ hold
        · exact mem_append_right _ hpending
      · rw [hleft] at hmem
        exact mem_append_right _ (mem_of_mem_filter hmem)
    constructor
    case written =>
      intro row hrow
      rw [hstore, EventStore.mem_rows_append] at hrow
      rw [hbus]
      rcases hrow with hold | ⟨hadds, rfl⟩
      · rcases h.written row hold with hmem | ⟨other, hother, heq⟩
        · exact .inl hmem
        · exact .inr ⟨other, (mem_lifecycle_append hdue).mpr (.inl hother), heq⟩
      · exact .inr ⟨ticket, (mem_lifecycle_append hdue).mpr (.inr ⟨hadds, rfl⟩), rfl⟩
    case held =>
      intro other hother
      rw [hstore, EventStore.mem_rows_append]
      rcases (mem_lifecycle_append hdue).mp hother with hold | ⟨hadds, rfl⟩
      · exact .inl (h.held other hold)
      · exact .inr ⟨hadds, rfl⟩
    case distinct =>
      rw [hstore]
      exact nodup_append h.distinct fun hadds hrun => h.due_fresh hdue hfits hrun hadds
    case above =>
      intro counter hcounter other hother
      rw [hcounters] at hcounter
      exact h.above counter hcounter other (htickets other hother)
    case known =>
      intro other hother
      rw [hleft] at hother
      rw [hcounters]
      exact h.known other (mem_of_mem_filter hother)
    case drawn =>
      intro other hother
      rw [hdraws]
      exact h.drawn other (htickets other hother)
    case apart =>
      intro other hother stored hstored
      rw [hleft] at hother
      obtain ⟨hother, hplace'⟩ := mem_filter.mp hother
      rcases (mem_lifecycle_append hdue).mp hstored with hold | ⟨_, rfl⟩
      · exact h.apart other hother stored hold
      · rw [hplace]
        simpa using hplace'
    case grows =>
      intro earlier hearlier later hlater
      exact h.grows earlier (htickets earlier hearlier) later (htickets later hlater)

theorem publish (h : Numbered run log) {env : PublishEnv} {event : RuntimeEvent}
    (hfits : Fits run log (.publish env event)) : Numbered run (log.publish env event) := by
  cases hrow : EventBus.stored env event with
  | error error =>
    have hsame : log.publish env event = log := by
      simp only [EventLog.publish, EventBus.persist, hrow]
    rw [hsame]
    exact h
  | ok row =>
    obtain ⟨hof, hseq⟩ := EventBus.eq_of_stored hrow
    have hstore : (log.publish env event).eventStore =
        (log.eventStore.append env.appendFault row).2 := by
      simp only [EventLog.publish, EventBus.persist, hrow]
    constructor
    case written =>
      intro other hother
      rw [hstore, EventStore.mem_rows_append] at hother
      simp only [EventLog.publish, hrow]
      rcases hother with hold | ⟨hadds, rfl⟩
      · refine (h.written other hold).imp_left fun hmem => ?_
        split
        · exact mem_append_left _ hmem
        · exact hmem
      · rw [if_pos hadds]
        exact .inl (mem_append_right _ mem_cons_self)
    case held =>
      intro ticket hticket
      rw [hstore, EventStore.mem_rows_append]
      exact .inl (h.held ticket hticket)
    case distinct =>
      rw [hstore]
      refine nodup_append h.distinct fun hadds hrun => ?_
      rw [hseq]
      exact hfits (hof.symm.trans hrun) row hrow hadds
    case above => exact h.above
    case known => exact h.known
    case drawn => exact h.drawn
    case apart => exact h.apart
    case grows => exact h.grows

theorem step {event : Event} (h : Numbered run log) (hfits : Fits run log event) :
    Numbered run (log.step event) := by
  cases event with
  | draw call => exact h.draw hfits
  | append place fault => exact h.append hfits
  | restart => exact h.restart
  | publish env event => exact h.publish hfits

end Numbered

/-! ## The numbers of a run -/

/-- The law holds in every state of a history whose steps all fit. -/
theorem law_of_fits (run : String) (events : List Event)
    (hfits : Along step (Fits run) start events) : Always step (Law run) start events :=
  always_of_invariant (fun _ _ h hfits => h.step hfits) (fun _ h => h.law)
    Numbered.start hfits

/-- The first event of a run under the strict posture, as two processes publish it. -/
def queuedCall (uuid : String) : RunEventCall where
  runId := "run"
  eventType := "run_queued"
  payload := [("state", .str "queued")]
  run :=
    { runId := "run", taskContract := [], tenantId := "tenant", state := .created
      error := .none, createdAt := 0, updatedAt := 0, finishedAt := none
      userId := "user", sessionId := "session", projectId := .str "project"
      idempotencyKey := none, startedAt := none, parentRunId := "", attemptId := "attempt"
      phaseId := "", profileId := "" }
  uuid := uuid
  createdAt := 0
  posture := .ok .research
  seedFault := none

theorem law_of_fits_queued : Always step (Law "run") start
      [.draw (queuedCall "first"), .append 0 none, .draw (queuedCall "second"),
        .append 1 none] := by
  refine law_of_fits "run" _ ⟨fun _ _ => .inr fun _ h => ?_, ?_, fun _ h => ?_, ?_, trivial⟩
  · cases h
  · intro ticket _ _ _ row hrow
    cases hrow
  · exact absurd h (by decide)
  · intro ticket _ _ _ row hrow
    cases hrow

/-- After a restart under the strict posture the numbers of a run begin again. -/
theorem not_law_restart :
    ¬ ∀ (run : String) (events : List Event), Always step (Law run) start events := by
  intro h
  have hlast := (h "run" [.draw (queuedCall "first"), .append 0 none, .restart,
    .draw (queuedCall "second"), .append 1 none]).last.distinct
  revert hlast
  decide

end EventLog

end HiAgent.Server
