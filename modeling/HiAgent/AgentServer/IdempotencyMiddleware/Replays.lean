/-
  AgentServer/IdempotencyMiddleware/Replays.lean --- which answers are replayed.

  The completed requests, and the request whose reservation a slot holds, are kept beside the
  store.
-/
import HiAgent.AgentServer.IdempotencyMiddleware.SlotsClosed
import Mathlib

namespace HiAgent.AgentServer

open Foundation Server List

/-! ## The two halves of `dispatch` -/

/-- A request that has got as far as its reservation. -/
structure Party where
  request : Request
  tenantId : String
  key : String
  /-- The decoded body. -/
  body : Fields

def Party.slot (party : Party) : String × String := (party.tenantId, party.key)

def Party.digest (env : MiddlewareEnv) (party : Party) : String :=
  canonicalBodyHash env.facade party.body

/-- The request at its reservation, if it gets there. -/
def asking (env : MiddlewareEnv) (request : Request) : Option Party :=
  match admission env request with
  | .guarded tenantId key =>
    (request.body.bind (safeDecodeBody env)).map fun body => ⟨request, tenantId, key, body⟩
  | _ => none

/-- What the reservation leads to. -/
inductive Entry where
  | raised
  | replayed (cached : Decoded)
  | conflict
  | created

/-- `dispatch`, on the answer of the facade. -/
def Entry.of : Except FacadeError Reserved → Entry
  | .error _ => .raised
  | .ok (.replayed cached) => .replayed cached
  | .ok .conflict => .conflict
  | .ok .created => .created

/-- The reservation of a request. -/
def reserve (env : MiddlewareEnv) (posture : Except String Posture) (party : Party) (now : Int)
    (store : IdempotencyStore) : Entry × IdempotencyStore :=
  let reserved := IdempotencyFacade.reserveOrReplay env.facade posture store now party.tenantId
    party.key party.body
  (.of reserved.1, reserved.2)

/-- The rest of `dispatch`. -/
def proceed (env : MiddlewareEnv) (posture : Except String Posture) (party : Party)
    (handling : Handling) : Entry × IdempotencyStore → Answer × IdempotencyStore
  | (.raised, store) => (.raised, store)
  | (.replayed cached, store) => (.response cached.statusCode cached.body, store)
  | (.conflict, store) => (.response 409 (keyConflict party.tenantId party.key), store)
  | (.created, store) => handle env posture party.tenantId party.key handling store

theorem dispatch_of_asking {env : MiddlewareEnv} {request : Request} {party : Party}
    (h : asking env request = some party) (posture : Except String Posture)
    (handling : Handling) (store : IdempotencyStore) : dispatch env posture request handling store =
      proceed env posture party handling (reserve env posture party handling.reservedAt store) := by
  unfold asking at h
  unfold dispatch reserve
  cases hlet : admission env request with
  | guarded tenantId key =>
    rw [hlet] at h
    obtain ⟨body, hbody, rfl⟩ := Option.map_eq_some_iff.mp h
    simp only [hbody]
    cases hreserved : (IdempotencyFacade.reserveOrReplay env.facade posture store
        handling.reservedAt tenantId key body).1 with
    | error err => rfl
    | ok reserved =>
      cases reserved with
      | created => rfl
      | replayed cached => rfl
      | conflict => rfl
  | _ => rw [hlet] at h; cases h

theorem dispatch_of_not_asking {env : MiddlewareEnv} {request : Request}
    (h : asking env request = none) (posture : Except String Posture) (handling : Handling)
    (store : IdempotencyStore) : (dispatch env posture request handling store).2 = store := by
  unfold asking at h
  unfold dispatch
  cases hlet : admission env request with
  | forward => rfl
  | refuse statusCode content => rfl
  | guarded tenantId key =>
    rw [hlet] at h
    have hbody := Option.map_eq_none_iff.mp h
    simp only [hbody]

/-! ## Histories -/

/-- How a request ends that was answered `created`. -/
inductive Ending where
  | responded (statusCode : Int) (drained : Drained)
  | raised
  | interrupted

def Ending.outcome : Ending → RouteOutcome
  | .responded statusCode drained => .responded statusCode [] drained
  | .raised => .raised
  | .interrupted => .interrupted

/-- A request that was completed, with the response its client has got. -/
structure Completed where
  party : Party
  statusCode : Int
  payload : List UInt8

/-- The completion of a request, if its ending is one. -/
def completedBy (env : MiddlewareEnv) (party : Party) (ending : Ending) : Option Completed :=
  match ending with
  | .responded statusCode (.payload payload) =>
    if (completion env ending.outcome).isSome then some ⟨party, statusCode, payload⟩ else none
  | _ => none

/-- The store and the requests whose handlers run. -/
structure ReplayDesk where
  store : IdempotencyStore
  running : List Party
  completed : List Completed
  /-- The request whose reservation a slot has got last. -/
  holder : String × String → Option Party

inductive ReplayEvent where
  | arrived (now : Int) (request : Request)
  | ended (index : Nat) (now : Int) (ending : Ending)
  | purged (now : Int) (cutoff : Option Int)

namespace ReplayDesk

variable (env : MiddlewareEnv) (posture : Except String Posture) (desk : ReplayDesk)

def start : ReplayDesk := ⟨Table.empty, [], [], fun _ => none⟩

def free (slot : String × String) (now : Int) : Bool :=
  (desk.store.lookup slot).all (IdempotencyStore.expiredBy now)

/-- A request reserves its slot. -/
def arrive (party : Party) (now : Int) : ReplayDesk :=
  let entered := reserve env posture party now desk.store
  { desk with
    store := entered.2
    running := match entered.1 with
      | .created => desk.running ++ [party]
      | _ => desk.running
    holder := fun slot =>
      if slot = party.slot ∧ desk.free slot now then some party else desk.holder slot }

/-- A request ends. -/
def finish (party : Party) (now : Int) (ending : Ending) : ReplayDesk :=
  { desk with
    store := (handle env posture party.tenantId party.key
      { reservedAt := now
        during := []
        outcome := ending.outcome
        endedAt := now } desk.store).2
    completed := desk.completed ++ (completedBy env party ending).toList }

/-- One event. -/
def step : ReplayEvent → ReplayDesk
  | .arrived now request =>
    match asking env request with
    | some party => desk.arrive env posture party now
    | none => desk
  | .ended index now ending =>
    match desk.running[index]? with
    | some party =>
      { desk.finish env posture party now ending with
        running := desk.running.eraseIdx index }
    | none => desk
  | .purged now cutoff => { desk with store := (desk.store.purgeExpired now cutoff).2 }

/-! ## The laws -/

def Restores (done : Completed) (cached : Decoded) : Prop :=
  ∃ response, responseJson env done.payload = some (.object response) ∧
    cached = .response (stripIdentity response) done.statusCode

/-- A request is answered from the cache with the response of a completed request that is
the same one, or is told that one is in flight; where another request holds the slot, it
is refused. -/
structure Replays (Same : Party → Party → Prop) (party : Party) (now : Int) : Prop where
  replayed : ∀ cached, (reserve env posture party now desk.store).1 = .replayed cached →
    cached = .inFlight ∨ ∃ done ∈ desk.completed,
      done.party.slot = party.slot ∧ Same done.party party ∧ Restores env done cached
  refused : (∃ readable, posture = .ok readable) → desk.free party.slot now = false →
    ∀ holder ∈ desk.holder party.slot, ¬ Same holder party →
      (reserve env posture party now desk.store).1 = .conflict

def SameRequest (first second : Party) : Prop :=
  Text.upper first.request.method = Text.upper second.request.method ∧
    first.request.path = second.request.path ∧ first.body = second.body

def SameDigest (first second : Party) : Prop := first.digest env = second.digest env

/-- The bodies are equal, their texts in NFC. -/
def SameBody (first second : Party) : Prop :=
  canonicalBody env.facade first.body = canonicalBody env.facade second.body

/-- A request that is completed finds no reservation of another body in its slot. -/
def Meets : ReplayEvent → Prop
  | .ended index _ ending => ∀ party ∈ desk.running[index]?,
      (completion env ending.outcome).isSome → ∀ record ∈ desk.store.lookup party.slot,
        record.requestHash = party.digest env
  | _ => True

end ReplayDesk

section Reserve

variable {env : MiddlewareEnv} {posture : Except String Posture} {party : Party}
variable {store : IdempotencyStore} {now : Int}

/-! ## Snapshots -/

theorem decodeSnapshot_envelope (facade : FacadeEnv) (response : Fields) (statusCode : Int) :
    decodeSnapshot facade (envelope response statusCode) =
      .ok (.response (stripIdentity response) statusCode) := by
  have hcode : intOfJson facade (.number (toString statusCode)) = .ok statusCode := by
    have hread : (toString statusCode).toInt? = some statusCode := Int.toInt?_repr statusCode
    unfold intOfJson
    simp only [hread]
  have hbody : [("body", Json.object (stripIdentity response)),
      ("status_code", Json.number (toString statusCode))].lookup "body" =
        some (.object (stripIdentity response)) := rfl
  have hstatus : [("body", Json.object (stripIdentity response)),
      ("status_code", Json.number (toString statusCode))].lookup "status_code" =
        some (.number (toString statusCode)) := rfl
  unfold envelope decodeSnapshot
  simp only [hbody, hstatus, Option.getD_some, hcode]
  rfl

theorem of_completion {ending : Ending} {response : Fields} {statusCode : Int}
    (h : completion env ending.outcome = some (response, statusCode)) (party : Party) :
    ∃ payload, completedBy env party ending = some ⟨party, statusCode, payload⟩ ∧
      responseJson env payload = some (.object response) := by
  cases ending with
  | raised => cases h
  | interrupted => cases h
  | responded code drained =>
    cases drained with
    | raised => cases h
    | interrupted => cases h
    | payload payload =>
      have hsome : (completion env (Ending.responded code (.payload payload)).outcome).isSome :=
        Option.isSome_of_eq_some h
      simp only [Ending.outcome, completion] at h
      split at h
      · split at h
        · rename_i found hfound
          obtain ⟨rfl, rfl⟩ := Prod.mk.inj (Option.some.inj h)
          exact ⟨payload, if_pos hsome, hfound⟩
        · cases h
      · cases h

/-! ## Reservations -/

theorem of_asking {request : Request} (h : asking env request = some party) :
    party.tenantId ≠ "" ∧ party.key ≠ "" := by
  unfold asking at h
  cases hlet : admission env request with
  | guarded tenantId key =>
    rw [hlet] at h
    obtain ⟨body, -, rfl⟩ := Option.map_eq_some_iff.mp h
    unfold admission at hlet
    simp only at hlet
    split at hlet
    · cases hlet
    · split at hlet
      · cases hlet
      · rename_i htenant
        split at hlet
        · cases hlet
        · split at hlet
          · split at hlet <;> cases hlet
          · rename_i hkey
            obtain ⟨rfl, rfl⟩ := Admission.guarded.inj hlet
            exact ⟨htenant, hkey⟩
  | _ => rw [hlet] at h; cases h

theorem reserve_of_fresh (hparty : party.tenantId ≠ "" ∧ party.key ≠ "")
    {existing : IdempotencyRecord} (hlookup : store.lookup party.slot = some existing)
    (hfresh : now ≤ existing.expiresAt) : reserve env posture party now store =
      (.of ((((existing.validate posture).map fun record =>
        (if record.requestHash = party.digest env then Outcome.replayed else .conflict,
          record)).mapError FacadeError.store).bind (IdempotencyFacade.reservedOf env.facade)),
        store) := by
  have hargs : store.lookup (IdempotencyFacade.reservation env.facade party.tenantId party.key
      party.body).slot = some existing := hlookup
  unfold reserve IdempotencyFacade.reserveOrReplay
  rw [if_neg hparty.1, if_neg hparty.2, IdempotencyStore.reserveOrReplay_of_fresh hargs hfresh]
  rfl

theorem reserve_of_free (hparty : party.tenantId ≠ "" ∧ party.key ≠ "")
    (hfree : ∀ existing, store.lookup party.slot = some existing → existing.expiresAt < now) :
    ((reserve env posture party now store).1 = .created ∨
        (reserve env posture party now store).1 = .raised) ∧
      ∀ slot, (reserve env posture party now store).2.lookup slot =
        if slot = party.slot then some ((IdempotencyFacade.reservation env.facade
          party.tenantId party.key party.body).record now) else store.lookup slot := by
  have hargs : ∀ existing, store.lookup (IdempotencyFacade.reservation env.facade
      party.tenantId party.key party.body).slot = some existing → existing.expiresAt < now := hfree
  unfold reserve IdempotencyFacade.reserveOrReplay
  rw [if_neg hparty.1, if_neg hparty.2, IdempotencyStore.reserveOrReplay_of_free hargs]
  constructor
  · dsimp only
    cases ((IdempotencyFacade.reservation env.facade party.tenantId party.key
        party.body).record now).validate posture with
    | error err => exact .inr rfl
    | ok record => exact .inl rfl
  · intro slot
    dsimp only
    rw [Table.lookup_insertOrIgnore, Reservation.slot_record]
    by_cases hslot : slot = party.slot
    · have hpurged := IdempotencyStore.lookup_purged hargs
      subst hslot
      refine (if_pos rfl).trans (Eq.trans ?_ (if_pos rfl).symm)
      exact congrArg (fun found => some (Option.getD found _)) hpurged
    · refine (if_neg hslot).trans (Eq.trans ?_ (if_neg hslot).symm)
      rw [Table.lookup_deleteAt]
      exact if_neg hslot

end Reserve

/-! ## What the records say -/

namespace ReplayDesk

variable {env : MiddlewareEnv} {posture : Except String Posture} {desk : ReplayDesk}
variable {party : Party} {now : Int}

/-- What a record says about the requests before it. -/
structure Held (env : MiddlewareEnv) (desk : ReplayDesk) (slot : String × String)
    (record : IdempotencyRecord) : Prop where
  runId : record.runId ≠ ""
  holder : ∃ party, desk.holder slot = some party ∧ record.requestHash = party.digest env
  snapshot : record.responseSnapshot = .empty ∨ ∃ done ∈ desk.completed,
    done.party.slot = slot ∧ done.party.digest env = record.requestHash ∧
      ∃ response, responseJson env done.payload = some (.object response) ∧
        record.responseSnapshot = envelope response done.statusCode

structure Kept (env : MiddlewareEnv) (desk : ReplayDesk) : Prop where
  held : ∀ slot record, desk.store.lookup slot = some record → desk.Held env slot record
  named : ∀ party ∈ desk.running, party.tenantId ≠ "" ∧ party.key ≠ ""

variable {slot : String × String} {record : IdempotencyRecord}

theorem Held.later {after : ReplayDesk}
    (h : desk.Held env slot record) (hholder : after.holder slot = desk.holder slot)
    (hcompleted : ∀ done ∈ desk.completed, done ∈ after.completed) :
    after.Held env slot record where
  runId := h.runId
  holder := hholder ▸ h.holder
  snapshot := h.snapshot.imp_right fun ⟨done, hmem, hdone⟩ => ⟨done, hcompleted done hmem, hdone⟩

theorem free_of_expired
    (h : ∀ existing, desk.store.lookup slot = some existing → existing.expiresAt < now) :
    desk.free slot now = true := by
  unfold free
  cases hlookup : desk.store.lookup slot with
  | none => rfl
  | some existing => exact decide_eq_true (h existing hlookup)

theorem not_free_of_fresh {existing : IdempotencyRecord}
    (hlookup : desk.store.lookup slot = some existing) (hfresh : now ≤ existing.expiresAt) :
    desk.free slot now = false := by
  unfold free
  rw [hlookup]
  exact decide_eq_false (Int.not_lt.mpr hfresh)

/-! ## One event -/

theorem Kept.arrive (h : desk.Kept env) (hparty : party.tenantId ≠ "" ∧ party.key ≠ "")
    (posture : Except String Posture) (now : Int) :
    (desk.arrive env posture party now).Kept env := by
  constructor
  · intro slot record hrecord
    change (reserve env posture party now desk.store).2.lookup slot = some record at hrecord
    rcases IdempotencyStore.fresh_or_free desk.store party.slot now with
      ⟨existing, hlookup, hfresh⟩ | hfree
    · rw [reserve_of_fresh hparty hlookup hfresh] at hrecord
      refine (h.held slot record hrecord).later (if_neg fun hslot => ?_) fun _ hdone => hdone
      rw [not_free_of_fresh (hslot.1 ▸ hlookup) hfresh] at hslot
      exact Bool.noConfusion hslot.2
    · rw [(reserve_of_free hparty hfree).2 slot] at hrecord
      split at hrecord
      · -- the record of the reservation
        rename_i hslot
        subst hslot
        obtain rfl := Option.some.inj hrecord
        refine ⟨?_, ⟨party, if_pos ⟨rfl, free_of_expired hfree⟩, rfl⟩, .inl rfl⟩
        change "reserved::" ++ party.key ≠ ""
        rw [Ne, String.append_eq_empty_iff]
        exact fun hempty => absurd hempty.1 (by decide)
      · rename_i hslot
        exact (h.held slot record hrecord).later (if_neg fun hsame => hslot hsame.1)
          fun _ hdone => hdone
  · intro other hmem
    unfold ReplayDesk.arrive at hmem
    dsimp only at hmem
    split at hmem
    · rcases mem_append.mp hmem with hold | hnew
      · exact h.named other hold
      · exact mem_singleton.mp hnew ▸ hparty
    · exact h.named other hmem

theorem Kept.finish (h : desk.Kept env) (hparty : party.tenantId ≠ "" ∧ party.key ≠ "")
    (posture : Except String Posture) (now : Int) {ending : Ending}
    (hown : (completion env ending.outcome).isSome →
      ∀ record ∈ desk.store.lookup party.slot, record.requestHash = party.digest env) :
    ∀ slot record, (desk.finish env posture party now ending).store.lookup slot = some record →
      (desk.finish env posture party now ending).Held env slot record := by
  intro slot record hrecord
  have hgrown : ∀ done ∈ desk.completed,
      done ∈ (desk.finish env posture party now ending).completed :=
    fun done hdone => mem_append_left _ hdone
  have hstore : resumed env posture
      { reservedAt := now
        during := []
        outcome := ending.outcome
        endedAt := now } desk.store = desk.store := by
    cases ending with
    | responded statusCode drained =>
      unfold resumed
      simp only [Ending.outcome]
      split <;> rfl
    | raised => rfl
    | interrupted => rfl
  unfold ReplayDesk.finish at hrecord
  dsimp only at hrecord
  rw [handle_eq, hstore] at hrecord
  simp only at hrecord
  cases hend : completion env ending.outcome with
  | none =>
    rw [hend] at hrecord
    dsimp only at hrecord
    have hold : desk.store.lookup slot = some record := by
      split at hrecord
      · exact IdempotencyFacade.lookup_release hrecord
      · exact hrecord
    exact (h.held slot record hold).later rfl hgrown
  | some completed =>
    obtain ⟨response, statusCode⟩ := completed
    rw [hend] at hrecord
    dsimp only at hrecord
    rw [IdempotencyFacade.markComplete, if_neg (not_or.mpr hparty),
      IdempotencyStore.markComplete, Table.lookup_updateAt] at hrecord
    split at hrecord
    · -- the record that is completed is one for the same body
      rename_i hslot
      obtain ⟨old, hold, rfl⟩ := Option.map_eq_some_iff.mp hrecord
      obtain ⟨payload, hdone, hpayload⟩ := of_completion hend party
      have hheld : desk.Held env slot old := h.held slot old (hslot ▸ hold)
      refine ⟨hheld.runId, hheld.holder, .inr ⟨⟨party, statusCode, payload⟩, ?_, hslot.symm, ?_,
        response, hpayload, rfl⟩⟩
      · exact mem_append_right _ (Option.mem_toList.mpr hdone)
      · exact (hown (Option.isSome_of_eq_some hend) old hold).symm
    · exact (h.held slot record hrecord).later rfl hgrown

theorem Kept.step (h : desk.Kept env) {event : ReplayEvent} (hmeets : desk.Meets env event) :
    (desk.step env posture event).Kept env := by
  cases event with
  | arrived now request =>
    unfold ReplayDesk.step
    dsimp only
    split
    · rename_i party hasking
      exact h.arrive (of_asking hasking) posture now
    · exact h
  | ended index now ending =>
    unfold ReplayDesk.step
    dsimp only
    split
    · rename_i party hparty
      have hnamed := h.named party (mem_of_getElem? hparty)
      have hheld := h.finish hnamed posture now (hmeets party hparty)
      exact ⟨fun slot record hrecord => (hheld slot record hrecord).later rfl fun _ => id,
        fun other hmem => h.named other (mem_of_mem_eraseIdx hmem)⟩
    · exact h
  | purged now cutoff =>
    refine ⟨fun slot record hrecord => ?_, h.named⟩
    have hold : desk.store.lookup slot = some record := by
      change (desk.store.purgeExpired now cutoff).2.lookup slot = some record at hrecord
      rw [IdempotencyStore.purgeExpired, Table.lookup_delete] at hrecord
      exact (Option.filter_eq_some_iff.mp hrecord).1
    exact (h.held slot record hold).later rfl fun _ hdone => hdone

/-! ## Answers -/

theorem validate_of_named
    (hlookup : desk.store.lookup slot = some record) (hslot : slot.1 ≠ "" ∧ slot.2 ≠ "")
    (hrun : record.runId ≠ "") (readable : Posture) :
    record.validate (.ok readable) = .ok record := by
  have hkey : record.slot = slot := Table.key_of_lookup hlookup
  have htenant : record.tenantId ≠ "" := fun h => hslot.1 (hkey ▸ h)
  have hname : record.idempotencyKey ≠ "" := fun h => hslot.2 (hkey ▸ h)
  have hmissing : record.missing = [] := by
    rw [IdempotencyRecord.missing, if_neg htenant, if_neg hname, if_neg hrun]
    rfl
  exact if_neg fun h => h.1 hmissing

theorem Held.replayed {cached : Decoded} (h : desk.Held env slot record)
    (hcached : decodeSnapshot env.facade record.responseSnapshot = .ok cached) :
    cached = .inFlight ∨ ∃ done ∈ desk.completed, done.party.slot = slot ∧
      done.party.digest env = record.requestHash ∧ Restores env done cached := by
  rcases h.snapshot with hempty | ⟨done, hdone, hslot, hdigest, response, hpayload, hshot⟩
  · rw [hempty] at hcached
    exact .inl (Except.ok.inj hcached).symm
  · rw [hshot, decodeSnapshot_envelope] at hcached
    exact .inr ⟨done, hdone, hslot, hdigest, response, hpayload, (Except.ok.inj hcached).symm⟩

theorem of_replayed (hparty : party.tenantId ≠ "" ∧ party.key ≠ "") {cached : Decoded}
    (h : (reserve env posture party now desk.store).1 = .replayed cached) :
    ∃ record, desk.store.lookup party.slot = some record ∧ record.requestHash = party.digest env ∧
        decodeSnapshot env.facade record.responseSnapshot = .ok cached := by
  rcases IdempotencyStore.fresh_or_free desk.store party.slot now with
    ⟨existing, hlookup, hfresh⟩ | hfree
  · rw [reserve_of_fresh hparty hlookup hfresh] at h
    refine ⟨existing, hlookup, ?_⟩
    cases hvalid : existing.validate posture with
    | error err => rw [hvalid] at h; cases h
    | ok record =>
      obtain rfl := IdempotencyStore.eq_of_validate hvalid
      rw [hvalid] at h
      by_cases hdigest : record.requestHash = party.digest env
      · refine ⟨hdigest, ?_⟩
        simp only [Except.map, Except.mapError, Except.bind, if_pos hdigest,
          IdempotencyFacade.reservedOf] at h
        cases hdecode : decodeSnapshot env.facade record.responseSnapshot with
        | error err => rw [hdecode] at h; cases h
        | ok decoded =>
          rw [hdecode] at h
          rw [Entry.replayed.inj h]
      · simp only [Except.map, Except.mapError, Except.bind, if_neg hdigest,
          IdempotencyFacade.reservedOf] at h
        cases h
  · have hentry : (reserve env posture party now desk.store).1 = .created ∨
        (reserve env posture party now desk.store).1 = .raised := (reserve_of_free hparty hfree).1
    rcases hentry with hcreated | hraised
    · rw [hcreated] at h
      cases h
    · rw [hraised] at h
      cases h

theorem Kept.refused (h : desk.Kept env) (hparty : party.tenantId ≠ "" ∧ party.key ≠ "")
    (readable : Posture) (hfree : desk.free party.slot now = false) {holder : Party}
    (hholder : desk.holder party.slot = some holder) (hdiffers : ¬ SameDigest env holder party) :
    (reserve env (.ok readable) party now desk.store).1 = .conflict := by
  rcases IdempotencyStore.fresh_or_free desk.store party.slot now with
    ⟨existing, hlookup, hfresh⟩ | hexpired
  · have hheld := h.held party.slot existing hlookup
    obtain ⟨other, hother, hdigest⟩ := hheld.holder
    obtain rfl := Option.some.inj (hother.symm.trans hholder)
    have hvalid := validate_of_named hlookup hparty hheld.runId readable
    have hne : ¬ existing.requestHash = party.digest env := fun hsame =>
      hdiffers (hdigest.symm.trans hsame)
    rw [reserve_of_fresh hparty hlookup hfresh, hvalid]
    simp only [Except.map, Except.mapError, Except.bind, if_neg hne, IdempotencyFacade.reservedOf]
    rfl
  · rw [free_of_expired hexpired] at hfree
    exact Bool.noConfusion hfree

section

variable (hsha : Function.Injective env.facade.sha256) (hfloats : env.facade.FloatsPrinted)
include hsha hfloats

theorem sameDigest_iff {first second : Party} :
    SameDigest env first second ↔ SameBody env first second :=
  canonicalBodyHash_eq_iff hsha hfloats

theorem Kept.replays (h : desk.Kept env) (hparty : party.tenantId ≠ "" ∧ party.key ≠ "")
    (posture : Except String Posture) (now : Int) :
    desk.Replays env posture (SameBody env) party now where
  replayed := by
    intro cached hcached
    obtain ⟨record, hlookup, hdigest, hdecode⟩ := of_replayed hparty hcached
    refine ((h.held party.slot record hlookup).replayed hdecode).imp_right ?_
    rintro ⟨done, hdone, hslot, hsame, hback⟩
    have hbody := (sameDigest_iff hsha hfloats).mp (hsame.trans hdigest)
    exact ⟨done, hdone, hslot, hbody, hback⟩
  refused := by
    rintro ⟨readable, rfl⟩ hfree holder hholder hdiffers
    refine h.refused hparty readable hfree hholder fun hdigest => ?_
    exact hdiffers ((sameDigest_iff hsha hfloats).mp hdigest)

end

/-! ## Runs -/

theorem kept_start (env : MiddlewareEnv) : start.Kept env where
  held := fun _ _ hrecord => by cases hrecord
  named := fun _ hmem => by cases hmem

/-- What is replayed is the response of a completed request with the same tenant, key and
body, as long as no request completes the reservation of another body. -/
theorem replays_of_meets (env : MiddlewareEnv) (hsha : Function.Injective env.facade.sha256)
    (hfloats : env.facade.FloatsPrinted) (posture : Except String Posture)
    (events : List ReplayEvent) (hmeets : Along (step env posture) (Meets env) start events) :
    Along (step env posture) (fun desk event => ∀ now request party, event = .arrived now request →
        asking env request = some party → desk.Replays env posture (SameBody env) party now)
      start events := by
  have hkeeps : ∀ (desk : ReplayDesk) event, desk.Kept env → desk.Meets env event →
      (desk.step env posture event).Kept env := fun _ _ h hmeets => h.step hmeets
  refine along_of_invariant hkeeps ?_ (kept_start env) hmeets
  intro desk event h _ now request party _ hasking
  exact h.replays hsha hfloats (of_asking hasking) posture now

/-! ## Two clients that spell a name differently -/

/-- The digests of three texts; any other text has one here that is no hexadecimal number. -/
def skillSha256 (text : String) : String :=
  if text = "{}" then "44136fa355b3678a1146ad16f7e8649e94fb4fc21fe77e8310c060f61caaff8a"
  else if text = "\x7b\"name\": \"caf\\u00e9\"\x7d" then
    "fc762637e58a63799ba09ce10017b1c30160ac0f44a9519997b3abb26c7e8707"
  else if text = "\x7b\"name\": \"tea\"\x7d" then
    "c470fa4678dc497718408f5d43caa5a8973598c3ed95759f8c3459856f10b3e6"
  else "sha256:" ++ text

theorem skillSha256_injective : Function.Injective skillSha256 := by
  have hmark : ∀ {text digest : String}, "sha256:" ++ text = digest →
      digest.toList.head? = some 's' := by
    rintro text _ rfl
    rw [String.toList_append]
    rfl
  intro text other h
  unfold skillSha256 at h
  split_ifs at h with hfirst hsecond
  all_goals first
    | (subst text; exact Eq.symm ‹other = _›)
    | exact absurd h (by decide +kernel)
    | exact absurd (hmark h) (by decide +kernel)
    | exact absurd (hmark h.symm) (by decide +kernel)
    | exact (String.append_right_inj _).mp h

def bytesOf (text : String) : List UInt8 := text.toList.map fun c => .ofNat c.toNat

/-- The bodies are names of skills, one of them with a combining accent; the payload of the
response has two fields. -/
def skillEnv : MiddlewareEnv :=
  { plainEnv with
    facade :=
      { plainEnv.facade with
        sha256 := skillSha256
        nfc := fun text => if text = "cafe\u0301" then "caf\u00e9" else text }
    loads := fun bytes =>
      if bytes = bytesOf "nfd" then .value (.object [("name", .string "cafe\u0301")])
      else if bytes = bytesOf "nfc" then .value (.object [("name", .string "caf\u00e9")])
      else if bytes = bytesOf "tea" then .value (.object [("name", .string "tea")])
      else if bytes = bytesOf "ok" then
        .value (.object [("skill_id", .string "s-1"), ("request_id", .string "r-1")])
      else .notJson }

def registerNamed (key body : String) : Request :=
  { registerSkill with
    idempotencyKey := some key
    body := some (bytesOf body) }

def skillCreated : Ending := .responded 201 (.payload (bytesOf "ok"))

theorem skillEnv_floatsPrinted : skillEnv.facade.FloatsPrinted := by
  intro literal
  have hprint : PyValue.dumpsFloat (skillEnv.facade.float literal) = "0.0" := rfl
  have htext : "0.0".toList = ['0', '.', '0'] := by decide
  rw [hprint, htext]
  simp [Json.IsLiteral, Json.leads, Json.ends]

/-- The registration is retried with the accent composed, after another client has taken
a second key; a third one takes the first key for another body. -/
def retried : List ReplayEvent :=
  [.arrived 0 (registerNamed "k-1" "nfd"), .arrived 1 (registerNamed "k-2" "tea"),
    .ended 0 2 skillCreated, .arrived 3 (registerNamed "k-1" "nfc"),
    .arrived 4 (registerNamed "k-1" "tea")]

/-- The retry gets the response without its request id, and the third client is refused. -/
theorem replays_retried : Along (step skillEnv (.ok .prod))
      (fun desk event => ∀ now request party, event = .arrived now request →
        asking skillEnv request = some party →
          desk.Replays skillEnv (.ok .prod) (SameBody skillEnv) party now)
      start retried := by
  refine replays_of_meets skillEnv skillSha256_injective skillEnv_floatsPrinted _ _ ?_
  refine ⟨trivial, trivial, ?_, trivial, trivial, trivial⟩
  intro party hparty _ record hrecord
  cases hparty
  cases hrecord
  rfl

/-- A memory is written under the key of the registration, with the same body. -/
def writeMemory : Request := { registerSkill with path := "/v1/memory/write" }

/-- A memory that is written under the key of another request gets its answer. -/
theorem not_forall_replays_sameRequest :
    ¬ ∀ (env : MiddlewareEnv) (posture : Except String Posture) (events : List ReplayEvent),
      Function.Injective env.facade.sha256 → env.facade.FloatsPrinted →
      Along (step env posture)
        (fun desk event => ∀ now request party, event = .arrived now request →
          asking env request = some party → desk.Replays env posture SameRequest party now)
        start events := by
  intro h
  have hreplays := (h skillEnv (.ok .prod)
    [.arrived 0 registerSkill, .ended 0 1 (.responded 201 (.payload [])), .arrived 2 writeMemory]
    skillSha256_injective skillEnv_floatsPrinted).2.2.1
    2 writeMemory ⟨writeMemory, "t-1", "k-1", []⟩ rfl rfl
  have hcached : Entry.of ((decodeSnapshot skillEnv.facade (envelope [] 201)).map
      Reserved.replayed) = .replayed (.response [] 201) := by
    rw [decodeSnapshot_envelope]
    rfl
  rcases hreplays.replayed (.response [] 201) hcached with
    hflight | ⟨done, hdone, -, hsame, -⟩
  · cases hflight
  · cases hdone with
    | head => exact absurd hsame.2.1 (by decide)
    | tail _ hnone => cases hnone

end ReplayDesk

end HiAgent.AgentServer
