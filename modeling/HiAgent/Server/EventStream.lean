/-
  Server/EventStream.lean --- `GET /runs/{run_id}/events` as a client follows it.

  `handle_run_events_sse` (`hi_agent/server/routes_events.py`) and the calls of
  `EventBus.publish` that go on beside it.
-/
import HiAgent.Server.EventStore

namespace HiAgent.Server

open Foundation List

/-! ## Events -/

/-- What tells one event of a run from another. -/
structure EventRef where
  eventId : String
  sequence : Int
  deriving DecidableEq

def StoredEvent.ref (row : StoredEvent) : EventRef := ⟨row.eventId, row.sequence⟩

/-- An event, under the id it is stored with. -/
structure Publication where
  event : RuntimeEvent
  eventId : String

def Publication.ref (publication : Publication) : EventRef :=
  ⟨publication.eventId, EventBus.offset publication.event⟩

/-- What the stream sends: the event, and the text on the wire. -/
structure Frame where
  ref : EventRef
  text : String

/-- `f"id: {id}\ndata: {data}\n\n"`. -/
def frameText (number data : String) : String :=
  "id: " ++ number ++ "\ndata: " ++ data ++ "\n\n"

def replayFrame (row : StoredEvent) : Except Raised Frame :=
  (PyValue.printInt row.sequence).map fun number =>
    ⟨row.ref, frameText number row.payloadJson⟩

/-- The frame of a live event. -/
def liveFrame (publication : Publication) : Except Raised Frame :=
  let event := publication.event
  (PyValue.dumps false (.dict
      [("run_id", .str event.runId), ("event_type", .str event.eventType),
        ("commit_offset", event.commitOffset.elim .none .int),
        ("payload", event.payloadJson)])).bind fun data =>
    (event.commitOffset.elim (.ok "None") PyValue.printInt).map fun number =>
      ⟨publication.ref, frameText number data⟩

/-! ## The steps -/

/-- What a request for the stream brings, and the size of a queue. -/
structure StreamRequest where
  runId : String
  /-- `Last-Event-ID`, empty when it is missing. -/
  lastEventId : String
  context : TenantContext
  maxQueueSize : Int

/-- Where the generator stands. -/
inductive StreamPhase where
  | opening
  /-- The replay, and what is left of it; a client is subscribed after it. -/
  | replaying (left : List StoredEvent)
  | live
  /-- An exception has ended the stream. -/
  | closed

namespace StreamPhase

def subscribed : StreamPhase → Bool
  | live => true
  | _ => false

def subscribes : StreamPhase → Bool
  | replaying [] => true
  | _ => false

end StreamPhase

/-- The store, the calls of `publish` under way, and the stream. -/
structure StreamState where
  eventStore : Option EventStore
  /-- Stored, and not handed to any queue. -/
  started : List Publication
  /-- On their way into the queue of the stream. -/
  scheduled : List Publication
  phase : StreamPhase
  queue : List Publication
  received : List Frame
  dropped : Nat
  /-- The events of the run that were stored at the start or have been handed to the
  queues since. -/
  published : List EventRef
  /-- The rows of the store when the generator came to it. -/
  listed : List StoredEvent

namespace StreamRequest

variable (request : StreamRequest)

def sinceSequence : Int :=
  match PyValue.intOfText request.lastEventId with
  | .ok value => value
  | .error _ => 0

def rowsOf (eventStore : Option EventStore) : List StoredEvent :=
  eventStore.elim [] (·.rows)

/-- Before the request. -/
def start (eventStore : Option EventStore) : StreamState where
  eventStore := eventStore
  started := []
  scheduled := []
  phase := .opening
  queue := []
  received := []
  dropped := 0
  published :=
    ((rowsOf eventStore).filter fun row => row.runId == request.runId).map (·.ref)
  listed := []

/-- The first half of `publish`. -/
def persist (s : StreamState) (env : PublishEnv) (event : RuntimeEvent) : StreamState :=
  let publication : Publication := ⟨event, EventBus.eventId env event⟩
  match s.eventStore with
  | none => { s with started := s.started ++ [publication] }
  | some store =>
    match EventBus.persist env store event with
    | (.error _, store) => { s with eventStore := some store }
    | (.ok _, store) =>
      { s with eventStore := some store, started := s.started ++ [publication] }

/-- `publish` looks up the queues of the run. -/
def fanOut (s : StreamState) (index : Nat) : StreamState :=
  match s.started[index]? with
  | none => s
  | some publication =>
    if publication.event.runId = request.runId then
      { s with
        started := s.started.eraseIdx index
        published := s.published ++ [publication.ref]
        scheduled :=
          if s.phase.subscribed then s.scheduled ++ [publication] else s.scheduled }
    else { s with started := s.started.eraseIdx index }

/-- `_put_nowait_in_loop`. -/
def deliver (s : StreamState) (index : Nat) : StreamState :=
  match s.scheduled[index]? with
  | none => s
  | some publication =>
    let (dropped, queue) := EventBus.putNowait request.maxQueueSize s.queue publication
    { s with
      scheduled := s.scheduled.eraseIdx index
      queue := queue
      dropped := s.dropped + dropped }

/-- The first step of the generator: `list_since`, for a positive cursor. -/
def openStream (s : StreamState) (posture : Except String Posture)
    (fault : Option Raised) : StreamState :=
  let s := { s with listed := rowsOf s.eventStore }
  match s.eventStore with
  | none => { s with phase := .replaying [] }
  | some store =>
    if 0 < request.sinceSequence then
      match store.listSince posture fault request.runId request.sinceSequence
          (some request.context.tenantId) (some request.context.userId)
          (some request.context.sessionId) with
      | .ok missed => { s with phase := .replaying missed }
      | .error _ => { s with phase := .closed }
    else { s with phase := .replaying [] }

def send (s : StreamState) (frame : Except Raised Frame) : StreamState :=
  match frame with
  | .ok frame => { s with received := s.received ++ [frame] }
  | .error _ => { s with phase := .closed }

/-- The generator goes on to its next `yield`, its subscription or its next `get`. -/
def next (s : StreamState) (posture : Except String Posture) (fault : Option Raised) :
    StreamState :=
  match s.phase with
  | .opening => request.openStream s posture fault
  | .replaying [] => { s with phase := .live }
  | .replaying (row :: left) => send { s with phase := .replaying left } (replayFrame row)
  | .live =>
    match s.queue with
    | [] => s
    | publication :: queue => send { s with queue := queue } (liveFrame publication)
  | .closed => s

/-- The next thing that happens. -/
inductive Event where
  | persist (env : PublishEnv) (event : RuntimeEvent)
  | fanOut (index : Nat)
  | deliver (index : Nat)
  | next (posture : Except String Posture) (fault : Option Raised)

/-- One step. -/
def step (s : StreamState) : Event → StreamState
  | .persist env event => persist s env event
  | .fanOut index => request.fanOut s index
  | .deliver index => request.deliver s index
  | .next posture fault => request.next s posture fault

/-! ## The law -/

/-- The client has the event, or the event is in its queue or on its way into it. -/
def Reaches (s : StreamState) (ref : EventRef) : Prop :=
  (∃ frame ∈ s.received, frame.ref = ref) ∨ (∃ publication ∈ s.queue, publication.ref = ref) ∨
      ∃ publication ∈ s.scheduled, publication.ref = ref

def Beyond (ref : EventRef) : Prop :=
  Succeeds (PyValue.intOfText request.lastEventId) ∧ request.sinceSequence < ref.sequence

instance (ref : EventRef) : Decidable (request.Beyond ref) :=
  inferInstanceAs (Decidable (_ ∧ _))

/-- A client that is connected, and whose queue has not overflown, is not cut off from
any event of the run beyond its cursor. -/
def LosesNothing (s : StreamState) : Prop :=
  s.phase.subscribed = true → s.dropped = 0 →
    ∀ ref ∈ s.published, request.Beyond ref → Reaches s ref

/-- The cursor is positive, and the store had the event for the client when the
generator came to it. -/
def Replayed (listed : List StoredEvent) (ref : EventRef) : Prop :=
  0 < request.sinceSequence ∧ ∃ row ∈ listed, row.ref = ref ∧ row.runId = request.runId ∧
      row.tenantId = request.context.tenantId ∧ row.userId = request.context.userId ∧
        row.sessionId = request.context.sessionId

/-- What keeps the law: every event beyond the cursor that was published before the
stream subscribes has been in the store for the replay. -/
def Fits (s : StreamState) : Event → Prop
  | .next _ _ =>
    s.phase.subscribes = true →
      ∀ ref ∈ s.published, request.Beyond ref → request.Replayed s.listed ref
  | _ => True

/-! ## The invariant -/

/-- Before the subscription nothing is in the queue, and the frames sent and those
still to be sent are the replay; after it nothing is lost. -/
structure Tracked (s : StreamState) : Prop where
  quiet : s.phase.subscribed = false → s.phase ≠ .closed →
    s.queue = [] ∧ s.scheduled = [] ∧ s.dropped = 0
  unsent : s.phase = .opening → s.received = []
  replay : ∀ left, s.phase = .replaying left → ∀ ref,
    ((∃ frame ∈ s.received, frame.ref = ref) ∨ ∃ row ∈ left, row.ref = ref) ↔
      request.sinceSequence < ref.sequence ∧ request.Replayed s.listed ref
  keeps : request.LosesNothing s

namespace Tracked

variable {request : StreamRequest} {s : StreamState}

theorem start (request : StreamRequest) (eventStore : Option EventStore) :
    request.Tracked (request.start eventStore) where
  quiet := fun _ _ => ⟨rfl, rfl, rfl⟩
  unsent := fun _ => rfl
  replay := fun _ h => by cases h
  keeps := fun h => by cases h

theorem of_closed (h : s.phase = .closed) : request.Tracked s where
  quiet := fun _ hopen => absurd h hopen
  unsent := fun hphase => by
    rw [h] at hphase
    cases hphase
  replay := fun left hphase => by
    rw [h] at hphase
    cases hphase
  keeps := fun hlive => by
    rw [h] at hlive
    cases hlive

theorem persist (h : request.Tracked s) (env : PublishEnv) (event : RuntimeEvent) :
    request.Tracked (StreamRequest.persist s env event) := by
  have hframe : ∃ eventStore started, StreamRequest.persist s env event =
      { s with eventStore := eventStore, started := started } := by
    unfold StreamRequest.persist
    cases hstore : s.eventStore with
    | none => exact ⟨s.eventStore, _, by rw [hstore]⟩
    | some store =>
      dsimp only
      cases hanswer : EventBus.persist env store event with
      | mk answer written =>
        cases answer with
        | error error => exact ⟨some written, s.started, rfl⟩
        | ok done => exact ⟨some written, _, rfl⟩
  obtain ⟨eventStore, started, hframe⟩ := hframe
  rw [hframe]
  exact ⟨h.quiet, h.unsent, h.replay, h.keeps⟩

theorem fanOut (h : request.Tracked s) (index : Nat) :
    request.Tracked (request.fanOut s index) := by
  unfold StreamRequest.fanOut
  cases hcall : s.started[index]? with
  | none => exact h
  | some publication =>
    dsimp only
    by_cases hrun : publication.event.runId = request.runId
    · rw [if_pos hrun]
      cases hlive : s.phase.subscribed with
      | true =>
        rw [if_pos rfl]
        constructor
        case quiet =>
          intro hclosed
          rw [hlive] at hclosed
          cases hclosed
        case unsent => exact h.unsent
        case replay => exact h.replay
        case keeps =>
          intro _ hfull ref href hbeyond
          rcases mem_append.mp href with hold | hnew
          · rcases h.keeps hlive hfull ref hold hbeyond with hsent | hqueued | ⟨other, hother, heq⟩
            · exact .inl hsent
            · exact .inr (.inl hqueued)
            · exact .inr (.inr ⟨other, mem_append_left _ hother, heq⟩)
          · rw [mem_singleton.mp hnew]
            exact .inr (.inr ⟨publication, mem_append_right _ mem_cons_self, rfl⟩)
      | false =>
        rw [if_neg Bool.false_ne_true]
        constructor
        case quiet => exact h.quiet
        case unsent => exact h.unsent
        case replay => exact h.replay
        case keeps =>
          intro hopen
          rw [hlive] at hopen
          cases hopen
    · rw [if_neg hrun]
      exact ⟨h.quiet, h.unsent, h.replay, h.keeps⟩

theorem deliver (h : request.Tracked s) (index : Nat) :
    request.Tracked (request.deliver s index) := by
  unfold StreamRequest.deliver
  cases hput : s.scheduled[index]? with
  | none => exact h
  | some publication =>
    have hmem : publication ∈ s.scheduled := mem_of_getElem? hput
    dsimp only
    constructor
    case quiet =>
      intro hlive hopen
      rw [(h.quiet hlive hopen).2.1] at hmem
      cases hmem
    case unsent => exact h.unsent
    case replay => exact h.replay
    case keeps =>
      intro hlive hfull ref href hbeyond
      dsimp only at hfull
      have hfits : (EventBus.putNowait request.maxQueueSize s.queue publication).1 = 0 := by
        omega
      have hqueue := EventBus.mem_putNowait_iff hfits
      rcases h.keeps hlive (by omega) ref href hbeyond with
        hsent | ⟨other, hother, heq⟩ | ⟨other, hother, heq⟩
      · exact .inl hsent
      · exact .inr (.inl ⟨other, (hqueue other).mpr (.inl hother), heq⟩)
      · obtain ⟨place, hplace⟩ := mem_iff_getElem?.mp hother
        by_cases hsame : place = index
        · have hit : other = publication := by
            rw [hsame, hput] at hplace
            exact (Option.some.inj hplace).symm
          exact .inr (.inl ⟨other, (hqueue other).mpr (.inr hit), heq⟩)
        · exact .inr (.inr ⟨other, mem_eraseIdx_iff_getElem?.mpr ⟨place, hsame, hplace⟩, heq⟩)

theorem mem_missed_iff {store : EventStore} {posture : Except String Posture}
    {fault : Option Raised} {missed : List StoredEvent}
    (h : store.listSince posture fault request.runId request.sinceSequence
      (some request.context.tenantId) (some request.context.userId)
      (some request.context.sessionId) = .ok missed) (row : StoredEvent) :
    row ∈ missed ↔ row ∈ store.rows ∧ request.sinceSequence < row.sequence ∧
      row.runId = request.runId ∧ row.tenantId = request.context.tenantId ∧
        row.userId = request.context.userId ∧ row.sessionId = request.context.sessionId := by
  rw [EventStore.mem_listSince_iff h row]
  simp only [EventStore.selectsSince, Option.all_some, Bool.and_eq_true, decide_eq_true_eq,
    beq_iff_eq]
  constructor
  · rintro ⟨hmem, ⟨⟨⟨hrun, hbeyond⟩, htenant⟩, huser⟩, hsession⟩
    exact ⟨hmem, hbeyond, hrun, htenant, huser, hsession⟩
  · rintro ⟨hmem, hbeyond, hrun, htenant, huser, hsession⟩
    exact ⟨hmem, ⟨⟨⟨hrun, hbeyond⟩, htenant⟩, huser⟩, hsession⟩

theorem openStream (h : request.Tracked s) (hphase : s.phase = .opening)
    (posture : Except String Posture) (fault : Option Raised) :
    request.Tracked (request.openStream s posture fault) := by
  have hquiet := h.quiet (by rw [hphase]; rfl) (by rw [hphase]; exact StreamPhase.noConfusion)
  have hunsent := h.unsent hphase
  -- what there is to replay decides what the stream owes until it subscribes
  have hreplaying : ∀ missed : List StoredEvent,
      (∀ ref : EventRef, (∃ row ∈ missed, row.ref = ref) ↔ request.sinceSequence < ref.sequence ∧
          request.Replayed (rowsOf s.eventStore) ref) →
      request.Tracked
        { s with listed := rowsOf s.eventStore, phase := .replaying missed } := by
    intro missed hmissed
    constructor
    case quiet => exact fun _ _ => hquiet
    case unsent => exact fun hopening => StreamPhase.noConfusion hopening
    case replay =>
      intro left hleft ref
      obtain rfl := StreamPhase.replaying.inj hleft
      rw [hunsent]
      exact (or_iff_right fun ⟨_, hmem, _⟩ => by cases hmem).trans (hmissed ref)
    case keeps => exact fun hlive => by cases hlive
  unfold StreamRequest.openStream
  cases hstore : s.eventStore with
  | none =>
    rw [hstore] at hreplaying
    refine hreplaying [] fun ref => iff_of_false ?_ ?_
    · rintro ⟨_, hmem, _⟩
      cases hmem
    · rintro ⟨_, _, _, hmem, _⟩
      cases hmem
  | some store =>
    rw [hstore] at hreplaying
    dsimp only
    by_cases hcursor : 0 < request.sinceSequence
    · rw [if_pos hcursor]
      cases hanswer : store.listSince posture fault request.runId request.sinceSequence
          (some request.context.tenantId) (some request.context.userId)
          (some request.context.sessionId) with
      | error error => exact of_closed rfl
      | ok missed =>
        refine hreplaying missed fun ref => ⟨?_, ?_⟩
        · rintro ⟨row, hmem, rfl⟩
          obtain ⟨hrow, hbeyond, hspine⟩ := (mem_missed_iff hanswer row).mp hmem
          exact ⟨hbeyond, hcursor, row, hrow, rfl, hspine⟩
        · rintro ⟨hbeyond, _, row, hrow, rfl, hspine⟩
          exact ⟨row, (mem_missed_iff hanswer row).mpr ⟨hrow, hbeyond, hspine⟩, rfl⟩
    · rw [if_neg hcursor]
      refine hreplaying [] fun ref => iff_of_false ?_ ?_
      · rintro ⟨_, hmem, _⟩
        cases hmem
      · rintro ⟨_, hpos, _⟩
        exact hcursor hpos

theorem ref_replayFrame {row : StoredEvent} {frame : Frame}
    (h : replayFrame row = .ok frame) : frame.ref = row.ref := by
  obtain ⟨_, _, rfl⟩ := map_eq_ok_iff.mp h
  rfl

theorem ref_liveFrame {publication : Publication} {frame : Frame}
    (h : liveFrame publication = .ok frame) : frame.ref = publication.ref := by
  obtain ⟨_, _, hdata⟩ := bind_eq_ok_iff.mp h
  obtain ⟨_, _, rfl⟩ := map_eq_ok_iff.mp hdata
  rfl

section

variable (h : request.Tracked s)
include h

theorem sendReplay {row : StoredEvent} {left : List StoredEvent}
    (hphase : s.phase = .replaying (row :: left)) :
    request.Tracked (send { s with phase := .replaying left } (replayFrame row)) := by
  have hquiet := h.quiet (by rw [hphase]; rfl) (by rw [hphase]; exact StreamPhase.noConfusion)
  cases hframe : replayFrame row with
  | error error => exact of_closed rfl
  | ok frame =>
    have href := ref_replayFrame hframe
    constructor
    case quiet => exact fun _ _ => hquiet
    case unsent => exact fun hopening => StreamPhase.noConfusion hopening
    case replay =>
      intro rest hrest ref
      obtain rfl := StreamPhase.replaying.inj hrest
      refine Iff.trans ?_ (h.replay _ hphase ref)
      simp only [send, mem_append, mem_cons, not_mem_nil, or_false,
        or_and_right, exists_or, exists_eq_left, href, or_assoc]
    case keeps => exact fun hlive => by cases hlive

theorem sendLive {publication : Publication} {queue : List Publication} (hphase : s.phase = .live)
    (hqueue : s.queue = publication :: queue) :
    request.Tracked (send { s with queue := queue } (liveFrame publication)) := by
  cases hframe : liveFrame publication with
  | error error => exact of_closed rfl
  | ok frame =>
    have href := ref_liveFrame hframe
    constructor
    case quiet =>
      intro hclosed
      rw [send, hphase] at hclosed
      cases hclosed
    case unsent =>
      intro hopening
      rw [send, hphase] at hopening
      cases hopening
    case replay =>
      intro left hleft
      rw [send, hphase] at hleft
      cases hleft
    case keeps =>
      intro hlive hfull ref hmem hbeyond
      rcases h.keeps hlive hfull ref hmem hbeyond with
        ⟨sent, hsent, heq⟩ | ⟨other, hother, heq⟩ | hdue
      · exact .inl ⟨sent, mem_append_left _ hsent, heq⟩
      · rw [hqueue] at hother
        rcases mem_cons.mp hother with rfl | hrest
        · exact .inl ⟨frame, mem_append_right _ mem_cons_self, href.trans heq⟩
        · exact .inr (.inl ⟨other, hrest, heq⟩)
      · exact .inr (.inr hdue)

theorem subscribe (hphase : s.phase = .replaying [])
    (hfits : ∀ ref ∈ s.published, request.Beyond ref → request.Replayed s.listed ref) :
    request.Tracked { s with phase := .live } where
  quiet := fun hclosed => by cases hclosed
  unsent := fun hopening => by cases hopening
  replay := fun _ hleft => by cases hleft
  keeps := by
    intro _ _ ref hmem hbeyond
    have hagain := hfits ref hmem hbeyond
    rcases (h.replay [] hphase ref).mpr ⟨hbeyond.2, hagain⟩ with hsent | ⟨_, hleft, _⟩
    · exact .inl hsent
    · cases hleft

theorem step {event : Event} (hfits : request.Fits s event) :
    request.Tracked (request.step s event) := by
  cases event with
  | persist env event => exact h.persist env event
  | fanOut index => exact h.fanOut index
  | deliver index => exact h.deliver index
  | next posture fault =>
    rw [StreamRequest.step, StreamRequest.next]
    cases hphase : s.phase with
    | opening => exact h.openStream hphase posture fault
    | replaying left =>
      cases left with
      | nil => exact h.subscribe hphase (hfits (by rw [hphase]; rfl))
      | cons row left => exact h.sendReplay hphase
    | live =>
      dsimp only
      rw [← hphase]
      cases hqueue : s.queue with
      | nil => exact h
      | cons publication queue => exact h.sendLive hphase hqueue
    | closed => exact h

theorem fits_of_keeps {event : Event}
    (hkeeps : request.LosesNothing (request.step s event)) : request.Fits s event := by
  cases event with
  | persist env event => trivial
  | fanOut index => trivial
  | deliver index => trivial
  | next posture fault =>
    intro hsubscribes ref hmem hbeyond
    have hphase : s.phase = .replaying [] := by
      cases hphase : s.phase with
      | replaying left =>
        cases left with
        | nil => rfl
        | cons row left => simp [hphase, StreamPhase.subscribes] at hsubscribes
      | _ => simp [hphase, StreamPhase.subscribes] at hsubscribes
    obtain ⟨hqueue, hdue, hdropped⟩ :=
      h.quiet (by rw [hphase]; rfl) (by rw [hphase]; exact StreamPhase.noConfusion)
    rw [StreamRequest.step, StreamRequest.next, hphase] at hkeeps
    rcases hkeeps rfl hdropped ref hmem hbeyond with
      hsent | ⟨other, hother, _⟩ | ⟨other, hother, _⟩
    · exact ((h.replay [] hphase ref).mp (.inl hsent)).2
    · rw [hqueue] at hother
      cases hother
    · rw [hdue] at hother
      cases hother

end

end Tracked

/-! ## What a reconnect loses -/

/-- A client that stays connected, and whose queue does not overflow, is cut off from
no event of the run exactly in the histories in which all that was published before
the subscription was there for the replay. -/
theorem losesNothing_iff (request : StreamRequest) (eventStore : Option EventStore)
    (events : List Event) :
    Always request.step request.LosesNothing (request.start eventStore) events ↔
      Along request.step request.Fits (request.start eventStore) events :=
  always_iff_along (fun _ _ h hfits => h.step hfits) (fun _ h => h.keeps)
    (fun _ _ h hkeeps => h.fits_of_keeps hkeeps) (Tracked.start request eventStore) events

theorem received_of_settled {request : StreamRequest} {s : StreamState}
    (h : request.LosesNothing s) (hlive : s.phase.subscribed = true) (hfull : s.dropped = 0)
    (hqueue : s.queue = []) (hdue : s.scheduled = []) :
    ∀ ref ∈ s.published, request.Beyond ref → ∃ frame ∈ s.received, frame.ref = ref := by
  intro ref hmem hbeyond
  rcases h hlive hfull ref hmem hbeyond with hsent | ⟨_, hother, _⟩ | ⟨_, hother, _⟩
  · exact hsent
  · rw [hqueue] at hother
    cases hother
  · rw [hdue] at hother
    cases hother

/-- The request of a client that holds the number of the first event of its run, 0. -/
def resumeAtZero : StreamRequest where
  runId := "run"
  lastEventId := "0"
  context := ⟨"tenant", "user", "session"⟩
  maxQueueSize := 1000

def secondThenResume : List Event :=
  [.persist ⟨.ok .research, some resumeAtZero.context, "", 0, none⟩
      ⟨"run", "second", some 1, "stage_completed", .none⟩,
    .fanOut 0, .next (.ok .research) none, .next (.ok .research) none]

/-- The client is subscribed, and has no way left to the second event. -/
theorem not_losesNothing_zero :
    ¬ ∀ (request : StreamRequest) (eventStore : Option EventStore) (events : List Event),
      Always request.step request.LosesNothing (request.start eventStore) events := by
  intro h
  have hlast := (h resumeAtZero (some Table.empty) secondThenResume).last
  have hbeyond : resumeAtZero.Beyond ⟨"second", 1⟩ := by decide
  have hreceived : (exec resumeAtZero.step (resumeAtZero.start (some Table.empty))
    secondThenResume).received = [] := by decide
  have hqueue : (exec resumeAtZero.step (resumeAtZero.start (some Table.empty))
    secondThenResume).queue = [] := List.isEmpty_iff.mp (by decide)
  have hdue : (exec resumeAtZero.step (resumeAtZero.start (some Table.empty))
    secondThenResume).scheduled = [] := List.isEmpty_iff.mp (by decide)
  obtain ⟨_, hmem, _⟩ := received_of_settled hlast (by decide) (by decide) hqueue hdue
    ⟨"second", 1⟩ (by decide) hbeyond
  rw [hreceived] at hmem
  cases hmem

end StreamRequest

end HiAgent.Server
