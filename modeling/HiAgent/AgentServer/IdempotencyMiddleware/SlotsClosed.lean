/-
  AgentServer/IdempotencyMiddleware/SlotsClosed.lean --- what a request leaves behind.

  Of the exits of `dispatch` behind a reservation some complete the slot, some
  release it and some do neither. Whether the slot is closed afterwards is decided
  by the exit alone, unless another request has closed the slot meanwhile.
-/
import HiAgent.AgentServer.IdempotencyMiddleware

namespace HiAgent.AgentServer

open Foundation Server

/-! ## The law -/

/-- The reservation of the request is answered `created`, for this slot. -/
def Created (env : MiddlewareEnv) (posture : Except String Posture)
    (request : Request) (reservedAt : Int) (store : IdempotencyStore)
    (tenantId key : String) : Prop :=
  admission env request = .guarded tenantId key ∧
    ∃ body, request.body.bind (safeDecodeBody env) = some body ∧
      (IdempotencyFacade.reserveOrReplay env.facade posture store reservedAt tenantId
        key body).1 = .ok .created

def Settled (slot : String × String) (store : IdempotencyStore) : Prop :=
  ∀ record, store.lookup slot = some record → record.status ≠ .pending

/-- The slot is closed: it has been completed or released, and no retry is told
that the request is still in flight. -/
structure SlotClosed (env : FacadeEnv) (posture : Except String Posture)
    (tenantId key : String) (store : IdempotencyStore) : Prop where
  settled : Settled (tenantId, key) store
  answered : ∀ now body,
    (IdempotencyFacade.reserveOrReplay env posture store now tenantId key body).1 ≠
      .ok (.replayed .inFlight)

/-- The response that an exit hands to `mark_complete`. -/
def completion (env : MiddlewareEnv) : RouteOutcome → Option (Fields × Int)
  | .responded statusCode _ (.payload payload) =>
    if isSuccess statusCode then
      match responseJson env payload with
      | some (.object response) => some (response, statusCode)
      | _ => none
    else none
  | _ => none

/-- The exit calls `release`: the handler raised or did not answer 2xx. -/
def releases : RouteOutcome → Bool
  | .raised => true
  | .interrupted => false
  | .responded statusCode _ _ => !isSuccess statusCode

/-- The store when `dispatch` was resumed for the last time. -/
def resumed (env : MiddlewareEnv) (posture : Except String Posture)
    (handling : Handling) (store : IdempotencyStore) : IdempotencyStore :=
  let store := others env posture store handling.during
  match handling.outcome with
  | .responded statusCode duringDrain _ =>
    if isSuccess statusCode then others env posture store duringDrain else store
  | _ => store

/-- The store that the reservation leaves. -/
def reservedStore (env : MiddlewareEnv) (posture : Except String Posture)
    (request : Request) (reservedAt : Int) (store : IdempotencyStore)
    (tenantId key : String) : IdempotencyStore :=
  match request.body.bind (safeDecodeBody env) with
  | none => store
  | some body =>
    (IdempotencyFacade.reserveOrReplay env.facade posture store reservedAt tenantId
      key body).2

section Steps

variable {env : MiddlewareEnv} {posture : Except String Posture}
variable {store : IdempotencyStore} {tenantId key : String}

/-! ## Sound slots -/

theorem sound_others {slot : String × String} (calls : List IdempotencyFacade.Call)
    (h : IdempotencyFacade.Sound slot store) :
    IdempotencyFacade.Sound slot (others env posture store calls) := by
  unfold others
  induction calls generalizing store with
  | nil => exact h
  | cons call calls ih => exact ih (IdempotencyFacade.sound_perform call h)

theorem sound_resumed {slot : String × String} (handling : Handling)
    (h : IdempotencyFacade.Sound slot store) :
    IdempotencyFacade.Sound slot (resumed env posture handling store) := by
  have hduring : IdempotencyFacade.Sound slot
      (others env posture store handling.during) := sound_others handling.during h
  unfold resumed
  cases handling.outcome with
  | responded statusCode duringDrain drained =>
    simp only
    split
    · exact sound_others duringDrain hduring
    · exact hduring
  | _ => exact hduring

theorem decodeSnapshot_inFlight {facade : FacadeEnv} {snapshot : JsonText}
    (h : decodeSnapshot facade snapshot = .ok .inFlight) : snapshot = .empty := by
  cases snapshot with
  | empty => rfl
  | other text => cases h
  | document value =>
    cases value with
    | object fields =>
      simp only [decodeSnapshot] at h
      split at h
      · obtain ⟨statusCode, -, hresponse⟩ := map_eq_ok_iff.mp h
        cases hresponse
      · cases h
    | _ => cases h

theorem slotClosed_iff (hsound : IdempotencyFacade.Sound (tenantId, key) store) :
    SlotClosed env.facade posture tenantId key store ↔ Settled (tenantId, key) store := by
  refine ⟨SlotClosed.settled, fun hsettled => ⟨hsettled, ?_⟩⟩
  intro now body h
  unfold IdempotencyFacade.reserveOrReplay at h
  split at h
  · cases h
  · split at h
    · cases h
    · obtain ⟨⟨outcome, record⟩, hanswer, hdecoded⟩ := bind_eq_ok_iff.mp h
      rw [mapError_eq_ok_iff] at hanswer
      rcases IdempotencyStore.fresh_or_free store (tenantId, key) now with
        ⟨existing, hlookup, hfresh⟩ | hfree
      · -- the answer is read from the stored record
        have hargs : store.lookup (IdempotencyFacade.reservation env.facade tenantId key
            body).slot = some existing := hlookup
        rw [IdempotencyStore.reserveOrReplay_of_fresh hargs hfresh] at hanswer
        obtain ⟨found, hvalid, hpair⟩ := map_eq_ok_iff.mp hanswer
        obtain rfl := IdempotencyStore.eq_of_validate hvalid
        obtain ⟨rfl, rfl⟩ := Prod.mk.inj hpair
        split at hdecoded
        · obtain ⟨decoded, hshot, hcached⟩ := map_eq_ok_iff.mp hdecoded
          cases hcached
          have hempty := decodeSnapshot_inFlight hshot
          exact hsettled _ hlookup ((hsound _ hlookup).mpr hempty)
        · cases hdecoded
      · have hnone : ∀ existing, store.lookup (IdempotencyFacade.reservation env.facade
            tenantId key body).slot = some existing → existing.expiresAt < now := hfree
        rw [IdempotencyStore.reserveOrReplay_of_free hnone] at hanswer
        obtain ⟨found, hvalid, hpair⟩ := map_eq_ok_iff.mp hanswer
        obtain ⟨rfl, rfl⟩ := Prod.mk.inj hpair
        cases hdecoded

/-! ## The exits -/

theorem settled_release (htenant : tenantId ≠ "") (hkey : key ≠ "") :
    Settled (tenantId, key) (IdempotencyFacade.release store tenantId key) := by
  intro record h
  rw [IdempotencyFacade.release, if_neg (not_or.mpr ⟨htenant, hkey⟩),
    IdempotencyStore.release, Table.lookup_deleteAt, if_pos rfl] at h
  have hkept := (Option.filter_eq_some_iff.mp h).2
  intro hpending
  rw [hpending] at hkept
  exact absurd hkept (by decide)

theorem lookup_markComplete {record : IdempotencyRecord} {now : Int}
    {response : Fields} {statusCode : Int} (htenant : tenantId ≠ "") (hkey : key ≠ "")
    (h : (IdempotencyFacade.markComplete store now tenantId key response
      statusCode).lookup (tenantId, key) = some record) : record.status = .succeeded ∧
      record.responseSnapshot = envelope response statusCode := by
  rw [IdempotencyFacade.markComplete, if_neg (not_or.mpr ⟨htenant, hkey⟩),
    IdempotencyStore.markComplete, Table.lookup_updateAt, if_pos rfl] at h
  obtain ⟨old, hold, rfl⟩ := Option.map_eq_some_iff.mp h
  exact ⟨rfl, rfl⟩

theorem handle_eq (handling : Handling) : (handle env posture tenantId key handling store).2 =
      let store := resumed env posture handling store
      match completion env handling.outcome with
      | some (response, statusCode) =>
        IdempotencyFacade.markComplete store handling.endedAt tenantId key response
          statusCode
      | none =>
        if releases handling.outcome then
          IdempotencyFacade.release store tenantId key
        else store := by
  unfold handle resumed
  cases handling.outcome with
  | raised => rfl
  | interrupted => rfl
  | responded statusCode duringDrain drained =>
    cases hsuccess : isSuccess statusCode with
    | false => cases drained <;> simp [completion, releases, hsuccess]
    | true =>
      cases drained with
      | payload payload =>
        simp only [completion, releases, hsuccess, if_true, keep]
        cases responseJson env payload with
        | none => rfl
        | some value => cases value <;> rfl
      | _ => simp [completion, releases, hsuccess]

theorem of_reserved {now : Int} {body : Fields}
    (h : (IdempotencyFacade.reserveOrReplay env.facade posture store now tenantId key
      body).1 = .ok .created) : tenantId ≠ "" ∧ key ≠ "" ∧
      (IdempotencyFacade.reserveOrReplay env.facade posture store now tenantId key
        body).2.lookup (tenantId, key) =
          some ((IdempotencyFacade.reservation env.facade tenantId key body).record now) := by
  unfold IdempotencyFacade.reserveOrReplay at h ⊢
  split at h
  · cases h
  · rename_i htenant
    split at h
    · cases h
    · rename_i hkey
      rw [if_neg htenant, if_neg hkey]
      refine ⟨htenant, hkey, ?_⟩
      obtain ⟨⟨outcome, record⟩, hanswer, hheld⟩ := bind_eq_ok_iff.mp h
      rw [mapError_eq_ok_iff] at hanswer
      rcases IdempotencyStore.fresh_or_free store (tenantId, key) now with
        ⟨existing, hlookup, hfresh⟩ | hfree
      · have hargs : store.lookup (IdempotencyFacade.reservation env.facade tenantId key
            body).slot = some existing := hlookup
        cases outcome with
        | created =>
          exact absurd hanswer (IdempotencyStore.reserveOrReplay_ne_created hargs hfresh record)
        | replayed =>
          obtain ⟨cached, -, hcached⟩ := map_eq_ok_iff.mp hheld
          cases hcached
        | conflict => cases hheld
      · have hargs : ∀ existing, store.lookup (IdempotencyFacade.reservation env.facade
            tenantId key body).slot = some existing → existing.expiresAt < now := hfree
        rw [IdempotencyStore.reserveOrReplay_of_free hargs, Table.lookup_insertOrIgnore,
          Reservation.slot_record, IdempotencyFacade.slot_reservation, if_pos rfl,
          IdempotencyStore.lookup_purged hfree]
        rfl

theorem dispatch_of_created {request : Request} {handling : Handling}
    (h : Created env posture request handling.reservedAt store tenantId key) :
    dispatch env posture request handling store = handle env posture tenantId key handling
        (reservedStore env posture request handling.reservedAt store tenantId key) := by
  obtain ⟨hlet, body, hbody, hheld⟩ := h
  unfold dispatch reservedStore
  simp only [hlet, hbody, hheld]

theorem sound_reservedStore {request : Request} {now : Int}
    (h : Created env posture request now store tenantId key) :
    tenantId ≠ "" ∧ key ≠ "" ∧ IdempotencyFacade.Sound (tenantId, key)
      (reservedStore env posture request now store tenantId key) := by
  obtain ⟨-, body, hbody, hheld⟩ := h
  obtain ⟨htenant, hkey, hlookup⟩ := of_reserved hheld
  refine ⟨htenant, hkey, ?_⟩
  intro record hrecord
  simp only [reservedStore, hbody, hlookup, Option.some.injEq] at hrecord
  subst hrecord
  exact Iff.intro (fun _ => rfl) (fun _ => rfl)

end Steps

/-! ## The law and its exits -/

/-- What the request leaves behind. The slot is closed exactly when the exit
completes it, releases it, or finds it without a pending record already; and where
the exit completes it, what a retry is given is the response. -/
theorem slotClosed_dispatch_iff (env : MiddlewareEnv) (posture : Except String Posture)
    (request : Request) (handling : Handling) (store : IdempotencyStore) (tenantId key : String)
    (hcreated : Created env posture request handling.reservedAt store tenantId key) :
    (SlotClosed env.facade posture tenantId key (dispatch env posture request handling store).2 ↔
      (completion env handling.outcome).isSome ∨ releases handling.outcome = true ∨
        Settled (tenantId, key) (resumed env posture handling
          (reservedStore env posture request handling.reservedAt store tenantId key))) ∧
    ∀ response statusCode, completion env handling.outcome = some (response, statusCode) → ∀ record,
        (dispatch env posture request handling store).2.lookup (tenantId, key) = some record →
        record.status = .succeeded ∧ record.responseSnapshot = envelope response statusCode := by
  obtain ⟨htenant, hkey, hheld⟩ := sound_reservedStore hcreated
  have hresumed : IdempotencyFacade.Sound (tenantId, key) (resumed env posture handling
      (reservedStore env posture request handling.reservedAt store tenantId key)) :=
    sound_resumed handling hheld
  rw [dispatch_of_created hcreated, handle_eq]
  simp only
  generalize resumed env posture handling (reservedStore env posture request
    handling.reservedAt store tenantId key) = last at hresumed ⊢
  cases hend : completion env handling.outcome with
  | some answer =>
    obtain ⟨response, statusCode⟩ := answer
    have hlaw : SlotClosed env.facade posture tenantId key
        (IdempotencyFacade.markComplete last handling.endedAt tenantId key response
          statusCode) := by
      rw [slotClosed_iff (IdempotencyFacade.sound_markComplete _ _ _ _ _ hresumed)]
      intro record hrecord hpending
      rw [(lookup_markComplete htenant hkey hrecord).1] at hpending
      cases hpending
    refine ⟨⟨fun _ => .inl rfl, fun _ => hlaw⟩, ?_⟩
    intro other otherCode hsame record hrecord
    obtain ⟨rfl, rfl⟩ := Prod.mk.inj (Option.some.inj hsame)
    exact lookup_markComplete htenant hkey hrecord
  | none =>
    refine ⟨?_, fun response statusCode h => by cases h⟩
    cases hreleases : releases handling.outcome with
    | true =>
      have hlaw : SlotClosed env.facade posture tenantId key
          (IdempotencyFacade.release last tenantId key) := by
        rw [slotClosed_iff (IdempotencyFacade.sound_of_subset hresumed
          fun record => IdempotencyFacade.lookup_release)]
        exact settled_release htenant hkey
      exact ⟨fun _ => .inr (.inl rfl), fun _ => hlaw⟩
    | false =>
      have hlaw : SlotClosed env.facade posture tenantId key last ↔
          Settled (tenantId, key) last := slotClosed_iff hresumed
      simpa using hlaw

/-! ## A cancelled request -/

/-- Every digest is the same, no bytes are JSON. -/
def plainEnv : MiddlewareEnv where
  facade :=
    { sha256 := fun _ => "44136fa3"
      nfc := id
      float := fun _ => ⟨"0.0", some "0.0", by decide, some 0⟩
      ttl := 86400 }
  strict := false
  predicates := defaultPredicates
  loads := fun _ => .notJson
  decodeReplace := fun _ => ""

/-- A skill is registered without a body. -/
def registerSkill : Request where
  method := "post"
  path := "/v1/skills"
  idempotencyKey := some " k-1 "
  tenantId := some "t-1"
  body := some []

/-- The task of the request is cancelled while the handler runs. -/
def cancelled : Handling where
  reservedAt := 0
  during := []
  outcome := .interrupted
  endedAt := 1

theorem created_registerSkill :
    Created plainEnv (.ok .prod) registerSkill cancelled.reservedAt Table.empty "t-1"
      "k-1" := ⟨rfl, [], rfl, rfl⟩

theorem slotClosed_dispatch_iff_cancelled :
    Created plainEnv (.ok .prod) registerSkill cancelled.reservedAt Table.empty "t-1" "k-1" ∧
      (SlotClosed plainEnv.facade (.ok .prod) "t-1" "k-1"
          (dispatch plainEnv (.ok .prod) registerSkill cancelled Table.empty).2 ↔
        (completion plainEnv cancelled.outcome).isSome ∨ releases cancelled.outcome = true ∨
          Settled ("t-1", "k-1") (resumed plainEnv (.ok .prod) cancelled
            (reservedStore plainEnv (.ok .prod) registerSkill cancelled.reservedAt
              Table.empty "t-1" "k-1"))) :=
  ⟨created_registerSkill,
    (slotClosed_dispatch_iff plainEnv (.ok .prod) registerSkill cancelled Table.empty
      "t-1" "k-1" created_registerSkill).1⟩

/-- A cancelled request leaves its slot pending. -/
theorem not_slotClosed_cancelled :
    ¬ ∀ (env : MiddlewareEnv) (posture : Except String Posture) (request : Request)
        (handling : Handling) (store : IdempotencyStore) (tenantId key : String),
      Created env posture request handling.reservedAt store tenantId key →
      SlotClosed env.facade posture tenantId key
        (dispatch env posture request handling store).2 := by
  intro h
  have hclosed := h plainEnv (.ok .prod) registerSkill cancelled Table.empty "t-1" "k-1"
    created_registerSkill
  have hpending : (dispatch plainEnv (.ok .prod) registerSkill cancelled
      Table.empty).2.lookup ("t-1", "k-1") =
        some ((IdempotencyFacade.reservation plainEnv.facade "t-1" "k-1" []).record
          0) := rfl
  exact hclosed.settled _ hpending rfl

end HiAgent.AgentServer
