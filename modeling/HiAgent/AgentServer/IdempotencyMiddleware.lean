/-
  AgentServer/IdempotencyMiddleware.lean --- idempotent requests.

  `agent_server/facade/idempotency_facade.py`: `IdempotencyFacade`.
  `agent_server/api/middleware/idempotency.py`: `dispatch`.

  SHA-256, the normal form NFC of a text and the reading of a JSON literal with a fraction or an
  exponent are parameters. `dispatch` is suspended twice after the reservation, while the handler
  runs and while the body of a 2xx response is drained. A handler answers, raises an `Exception`,
  or is interrupted by a `BaseException` that is none, such as `CancelledError`.
-/
import HiAgent.Foundation.PyValue.Dumps
import HiAgent.Server.Idempotency

namespace HiAgent.AgentServer

open Foundation Server

abbrev Fields := List (String × Json)

def identityKeysToStrip : List String :=
  ["request_id", "trace_id", "_response_timestamp"]

def stripIdentity (payload : Fields) : Fields :=
  payload.filter fun field => !identityKeysToStrip.contains field.1

/-- What the facade is built over. -/
structure FacadeEnv where
  /-- `hashlib.sha256(...).hexdigest()` of a text. -/
  sha256 : String → String
  /-- `unicodedata.normalize("NFC", ...)`. -/
  nfc : String → String
  /-- The number that a JSON literal with a fraction or an exponent stands for. -/
  float : String → PyFloat
  /-- `ttl_seconds` of a reservation, in ticks of the clock. -/
  ttl : Int

/-! ## Digests -/

section Digest

variable (env : FacadeEnv)

mutual

/-- `_nfc_normalize`: the keys of an object are left as they are. -/
def nfcNormalize : Json → Json
  | .string value => .string (env.nfc value)
  | .object fields => .object (nfcNormalizeFields fields)
  | .array items => .array (nfcNormalizeItems items)
  | .null => .null
  | .bool value => .bool value
  | .number literal => .number literal

def nfcNormalizeFields : Fields → Fields
  | [] => []
  | (key, value) :: fields => (key, nfcNormalize value) :: nfcNormalizeFields fields

def nfcNormalizeItems : List Json → List Json
  | [] => []
  | item :: items => nfcNormalize item :: nfcNormalizeItems items

end

/-- The number a literal is read as, printed by `json.dumps`. -/
def printNumber (literal : String) : String :=
  match literal.toInt? with
  | some value => toString value
  | none => PyValue.dumpsFloat (env.float literal)

mutual

/-- The document that `json.dumps(..., sort_keys=True)` writes of what was read. -/
def sortedDocument : Json → Json
  | .number literal => .number (printNumber env literal)
  | .object fields =>
    .object ((sortedFields fields).insertionSort fun left right => left.1 ≤ right.1)
  | .array items => .array (sortedItems items)
  | .null => .null
  | .bool value => .bool value
  | .string value => .string value

/-- The fields, in the order they are given. -/
def sortedFields : Fields → Fields
  | [] => []
  | (key, value) :: fields => (key, sortedDocument value) :: sortedFields fields

def sortedItems : List Json → List Json
  | [] => []
  | item :: items => sortedDocument item :: sortedItems items

end

/-- What is digested of a body: its texts in NFC, its keys in order. -/
def canonicalBody (body : Fields) : Json := sortedDocument env (nfcNormalize env (.object body))

def canonicalBodyHash (body : Fields) : String :=
  env.sha256 (String.ofList (Json.print PyValue.defaultLayout (canonicalBody env body)))

end Digest

/-- `repr()` of a `float` is a JSON number, or one of the three literals that are none. -/
def FacadeEnv.FloatsPrinted (env : FacadeEnv) : Prop :=
  ∀ literal, Json.IsLiteral (PyValue.dumpsFloat (env.float literal)).toList

section Digest

variable {env : FacadeEnv}

theorem isLiteral_printNumber (h : env.FloatsPrinted) (literal : String) :
    Json.IsLiteral (printNumber env literal).toList := by
  unfold printNumber
  split
  · exact PyValue.isLiteral_toString _
  · exact h literal

mutual

theorem numeric_sortedDocument (h : env.FloatsPrinted) (value : Json) :
    Json.Numeric (sortedDocument env value) := by
  cases value with
  | number literal => exact isLiteral_printNumber h literal
  | array items => exact numeric_sortedItems h items
  | object fields =>
    have hnumeric := numeric_sortedFields h fields
    rw [sortedDocument, Json.Numeric, Json.numericFields_iff]
    intro field hfield
    exact Json.numericFields_iff.mp hnumeric field
      ((List.perm_insertionSort _ _).mem_iff.mp hfield)
  | _ => trivial
termination_by structural value

theorem numeric_sortedItems (h : env.FloatsPrinted) (items : List Json) :
    Json.NumericItems (sortedItems env items) := by
  cases items with
  | nil => trivial
  | cons item items => exact ⟨numeric_sortedDocument h item, numeric_sortedItems h items⟩
termination_by structural items

theorem numeric_sortedFields (h : env.FloatsPrinted) (fields : Fields) :
    Json.NumericFields (sortedFields env fields) := by
  cases fields with
  | nil => trivial
  | cons field fields => exact ⟨numeric_sortedDocument h field.2, numeric_sortedFields h fields⟩
termination_by structural fields

end

/-- The digest tells apart what is digested. -/
theorem canonicalBodyHash_eq_iff (hsha : Function.Injective env.sha256)
    (hfloats : env.FloatsPrinted) {body other : Fields} :
    canonicalBodyHash env body = canonicalBodyHash env other ↔
      canonicalBody env body = canonicalBody env other := by
  constructor
  · intro h
    have hprint := String.ofList_injective (hsha h)
    exact Json.eq_of_print_eq (numeric_sortedDocument hfloats _)
      (numeric_sortedDocument hfloats _) hprint
  · intro h
    rw [canonicalBodyHash, canonicalBodyHash, h]

end Digest

/-- The exceptions of `reserve_or_replay`. -/
inductive FacadeError where
  | valueError (message : String)
  /-- `body.get` of a snapshot that is no object. -/
  | attributeError
  /-- `int()` of the stored status code. -/
  | statusCode (raised : Raised)
  | store (error : IdempotencyError)

/-! ## Snapshots -/

/-- What `_decode_snapshot` makes of a snapshot. -/
inductive Decoded where
  /-- The snapshot is empty: its request has not finished. -/
  | inFlight
  | corrupt
  | malformed
  | response (body : Fields) (statusCode : Int)

namespace Decoded

/-- The body that is sent for a replay. -/
def body : Decoded → Fields
  | inFlight => [("error", .string "ConflictError"), ("message", .string "request still in flight")]
  | corrupt => [("error", .string "InternalError"), ("message", .string "snapshot corrupt")]
  | malformed => [("error", .string "InternalError"), ("message", .string "snapshot malformed")]
  | response body _ => body

/-- The status code that is sent for a replay. -/
def statusCode : Decoded → Int
  | inFlight => 409
  | corrupt => 500
  | malformed => 500
  | response _ statusCode => statusCode

end Decoded

/-- `int()` of a decoded JSON value. -/
def intOfJson (env : FacadeEnv) : Json → Except Raised Int
  | .bool value => PyValue.toInt (.bool value)
  | .number literal =>
    match literal.toInt? with
    | some value => .ok value
    | none => PyValue.toInt (.float (env.float literal))
  | .string value => PyValue.intOfText value
  | _ => .error .typeError

def decodeSnapshot (env : FacadeEnv) : JsonText → Except FacadeError Decoded
  | .empty => .ok .inFlight
  | .other _ => .ok .corrupt
  | .document (.object fields) =>
    match fields.lookup "body" with
    | some (.object body) =>
      ((intOfJson env ((fields.lookup "status_code").getD (.number "200"))).mapError
        FacadeError.statusCode).map (Decoded.response body)
    | _ => .ok .malformed
  | .document _ => .error .attributeError

/-- The text that `mark_complete` hands to the store. -/
def envelope (response : Fields) (statusCode : Int) : JsonText :=
  .document (.object [("body", .object (stripIdentity response)),
    ("status_code", .number (toString statusCode))])

/-! ## Methods -/

/-- What `reserve_or_replay` returns. -/
inductive Reserved where
  | created
  | replayed (cached : Decoded)
  | conflict

namespace IdempotencyFacade

/-- The arguments that `reserve_or_replay` gives to the store. -/
def reservation (env : FacadeEnv) (tenantId key : String) (body : Fields) : Reservation where
  tenantId := tenantId
  idempotencyKey := key
  requestHash := canonicalBodyHash env body
  runId := "reserved::" ++ key
  ttlSeconds := env.ttl
  projectId := ""
  userId := ""
  sessionId := ""
  execCtx := none

@[simp] theorem slot_reservation (env : FacadeEnv) (tenantId key : String)
    (body : Fields) : (reservation env tenantId key body).slot = (tenantId, key) := rfl

/-- What the facade makes of the answer of the store. -/
def reservedOf (env : FacadeEnv) : Outcome × IdempotencyRecord → Except FacadeError Reserved
  | (.created, _) => .ok .created
  | (.replayed, record) =>
    (decodeSnapshot env record.responseSnapshot).map Reserved.replayed
  | (.conflict, _) => .ok .conflict

def reserveOrReplay (env : FacadeEnv) (posture : Except String Posture)
    (store : IdempotencyStore) (now : Int) (tenantId key : String) (body : Fields) :
    Except FacadeError Reserved × IdempotencyStore :=
  if tenantId = "" then
    (.error (.valueError "tenant_id is required for idempotency lookup"), store)
  else if key = "" then
    (.error (.valueError "idempotency key must be non-empty"), store)
  else
    let answer := store.reserveOrReplay posture now (reservation env tenantId key body)
    ((answer.1.mapError FacadeError.store).bind (reservedOf env), answer.2)

def markComplete (store : IdempotencyStore) (now : Int) (tenantId key : String)
    (responseJson : Fields) (statusCode : Int) : IdempotencyStore :=
  if tenantId = "" ∨ key = "" then store
  else
    store.markComplete now tenantId key (envelope responseJson statusCode) "succeeded"
      none

def release (store : IdempotencyStore) (tenantId key : String) : IdempotencyStore :=
  if tenantId = "" ∨ key = "" then store else store.release tenantId key

/-! ## Other requests -/

/-- What happens to the store on behalf of other requests, and the purge of
expired records. -/
inductive Call where
  | reserveOrReplay (now : Int) (tenantId key : String) (body : Fields)
  | markComplete (now : Int) (tenantId key : String) (responseJson : Fields)
      (statusCode : Int)
  | release (tenantId key : String)
  | purgeExpired (now : Int) (cutoff : Option Int)

/-- The store after one call. -/
def perform (env : FacadeEnv) (posture : Except String Posture)
    (store : IdempotencyStore) : Call → IdempotencyStore
  | .reserveOrReplay now tenantId key body =>
    (reserveOrReplay env posture store now tenantId key body).2
  | .markComplete now tenantId key responseJson statusCode =>
    markComplete store now tenantId key responseJson statusCode
  | .release tenantId key => release store tenantId key
  | .purgeExpired now cutoff => (store.purgeExpired now cutoff).2

/-! ## What the facade keeps of a slot -/

def Sound (slot : String × String) (store : IdempotencyStore) : Prop :=
  ∀ record, store.lookup slot = some record →
    (record.status = .pending ↔ record.responseSnapshot = .empty)

section Sound

variable {env : FacadeEnv} {posture : Except String Posture}
variable {store : IdempotencyStore} {slot : String × String}

theorem lookup_reserveOrReplay {now : Int} {args : Reservation} {record : IdempotencyRecord}
    (h : (store.reserveOrReplay posture now args).2.lookup slot = some record) :
    store.lookup slot = some record ∨ record = args.record now := by
  unfold IdempotencyStore.reserveOrReplay at h
  have hpurged : ∀ {found : IdempotencyRecord},
      (store.deleteAt args.slot (IdempotencyStore.expiredBy now)).lookup slot =
        some found → store.lookup slot = some found := by
    intro found hfound
    rw [Table.lookup_deleteAt] at hfound
    split at hfound
    · rename_i hslot
      rw [hslot]
      exact (Option.filter_eq_some_iff.mp hfound).1
    · exact hfound
  simp only at h
  split at h
  · rename_i hfree
    rw [Table.lookup_insertOrIgnore] at h
    split at h
    · rename_i hslot
      rw [hslot, Reservation.slot_record, hfree] at h
      exact .inr (Option.some.inj h).symm
    · exact .inl (hpurged h)
  · exact .inl (hpurged h)

theorem sound_of_subset {after : IdempotencyStore} (h : Sound slot store)
    (hsubset : ∀ record, after.lookup slot = some record →
      store.lookup slot = some record) : Sound slot after :=
  fun record hrecord => h record (hsubset record hrecord)

theorem sound_reserveOrReplay (now : Int) (tenantId key : String) (body : Fields)
    (h : Sound slot store) :
    Sound slot (reserveOrReplay env posture store now tenantId key body).2 := by
  unfold reserveOrReplay
  split
  · exact h
  · split
    · exact h
    · intro record hrecord
      rcases lookup_reserveOrReplay hrecord with hold | rfl
      · exact h record hold
      · exact Iff.intro (fun _ => rfl) (fun _ => rfl)

theorem completed_ne_empty (record : IdempotencyRecord) (now : Int)
    (response : Fields) (statusCode : Int) :
    ((IdempotencyRecord.toCompleted now (envelope response statusCode) "succeeded"
        none).set record).status ≠ .pending ∧
      ((IdempotencyRecord.toCompleted now (envelope response statusCode) "succeeded"
        none).set record).responseSnapshot ≠ .empty := by
  constructor
  · intro h
    cases h
  · intro h
    cases h

theorem sound_markComplete (now : Int) (tenantId key : String) (response : Fields)
    (statusCode : Int) (h : Sound slot store) :
    Sound slot (markComplete store now tenantId key response statusCode) := by
  unfold markComplete
  split
  · exact h
  · intro record hrecord
    rw [IdempotencyStore.markComplete, Table.lookup_updateAt] at hrecord
    split at hrecord
    · obtain ⟨old, hold, rfl⟩ := Option.map_eq_some_iff.mp hrecord
      obtain ⟨hstatus, hshot⟩ := completed_ne_empty old now response statusCode
      exact Iff.intro (fun hpending => absurd hpending hstatus)
        (fun hempty => absurd hempty hshot)
    · exact h record hrecord

theorem lookup_release {tenantId key : String} {record : IdempotencyRecord}
    (h : (release store tenantId key).lookup slot = some record) :
    store.lookup slot = some record := by
  unfold release at h
  split at h
  · exact h
  · rw [IdempotencyStore.release, Table.lookup_deleteAt] at h
    split at h
    · rename_i hslot
      rw [hslot]
      exact (Option.filter_eq_some_iff.mp h).1
    · exact h

theorem sound_perform (call : Call) (h : Sound slot store) :
    Sound slot (perform env posture store call) := by
  cases call with
  | reserveOrReplay now tenantId key body =>
    exact sound_reserveOrReplay now tenantId key body h
  | markComplete now tenantId key response statusCode =>
    exact sound_markComplete now tenantId key response statusCode h
  | release tenantId key =>
    exact sound_of_subset h fun record => lookup_release
  | purgeExpired now cutoff =>
    apply sound_of_subset h
    intro record hrecord
    rw [perform, IdempotencyStore.purgeExpired, Table.lookup_delete] at hrecord
    exact (Option.filter_eq_some_iff.mp hrecord).1

end Sound

end IdempotencyFacade

/-! ## Which requests are guarded -/

def idempotencyHeader : String := "Idempotency-Key"

def idempotencyKeyMaxLen : Nat := 256

def mutatingMethods : List String := ["POST", "PUT", "DELETE", "PATCH"]

def isRunsMutation (method path : String) : Bool :=
  mutatingMethods.contains method &&
    if path = "/v1/runs" then method == "POST" else Text.startsWith "/v1/runs/" path

def isSkillsMutation (method path : String) : Bool :=
  mutatingMethods.contains method && (path == "/v1/skills" || Text.startsWith "/v1/skills/" path)

def isMemoryWriteMutation (method path : String) : Bool :=
  mutatingMethods.contains method && path == "/v1/memory/write"

def isGatesDecideMutation (method path : String) : Bool :=
  mutatingMethods.contains method && Text.startsWith "/v1/gates/" path

def defaultPredicates : List (String → String → Bool) :=
  [isRunsMutation, isSkillsMutation, isMemoryWriteMutation, isGatesDecideMutation]

/-- What `dispatch` reads of a request. -/
structure Request where
  method : String
  path : String
  /-- The header `Idempotency-Key`. -/
  idempotencyKey : Option String
  /-- The header `X-Tenant-Id`. -/
  tenantId : Option String
  /-- The body: nothing when the client went away while it was read. -/
  body : Option (List UInt8)

/-- What `json.loads` does with a sequence of bytes. -/
inductive Loaded where
  | value (value : Json)
  /-- `JSONDecodeError`. -/
  | notJson
  /-- Another exception: the bytes are no text, or an integer has too many digits. -/
  | raised

/-- What the middleware is built over. -/
structure MiddlewareEnv where
  facade : FacadeEnv
  strict : Bool
  predicates : List (String → String → Bool)
  /-- `json.loads`. -/
  loads : List UInt8 → Loaded
  /-- `bytes.decode("utf-8", errors="replace")`. -/
  decodeReplace : List UInt8 → String

/-- What the checks before the reservation lead to. -/
inductive Admission where
  | forward
  | refuse (statusCode : Int) (content : Fields)
  | guarded (tenantId key : String)

/-- The content of the answer to a key that is too long. -/
def keyTooLong (tenantId key : String) : Fields :=
  [("error", .string "ContractError"), ("error_category", .string "contract_violation"),
    ("message", .string (idempotencyHeader ++ " length " ++ toString key.length ++
      " exceeds max " ++ toString idempotencyKeyMaxLen)),
    ("retryable", .bool false),
    ("next_action", .string ("Use an Idempotency-Key ≤ " ++ toString idempotencyKeyMaxLen ++
      " characters (UUID4 / ULID / nanoid recommended).")),
    ("tenant_id", .string tenantId),
    ("detail", .string "")]

/-- The content of the answer to a request without a key. -/
def keyMissing (tenantId : String) : Fields :=
  [("error", .string "ContractError"),
    ("message", .string ("missing required " ++ idempotencyHeader ++ " header")),
    ("tenant_id", .string tenantId),
    ("detail", .string "research/prod posture demands idempotency keys")]

/-- The content of the answer to a key that has another body. -/
def keyConflict (tenantId key : String) : Fields :=
  [("error", .string "ConflictError"), ("message", .string (idempotencyHeader ++ "=" ++ key ++
      " already used with a different body")),
    ("tenant_id", .string tenantId),
    ("detail", .string "idempotency key reuse with body mismatch")]

/-- `dispatch`, up to the reading of the body. -/
def admission (env : MiddlewareEnv) (request : Request) : Admission :=
  let method := Text.upper request.method
  let key := Text.strip (request.idempotencyKey.getD "")
  let tenantId := Text.strip (request.tenantId.getD "")
  if ¬ env.predicates.any fun predicate => predicate method request.path then .forward
  else if tenantId = "" then .forward
  else if key ≠ "" ∧ idempotencyKeyMaxLen < key.length then
    .refuse 400 (keyTooLong tenantId key)
  else if key = "" then
    if env.strict then .refuse 400 (keyMissing tenantId) else .forward
  else .guarded tenantId key

/-- `_safe_decode_body`: nothing when it raises. -/
def safeDecodeBody (env : MiddlewareEnv) (body : List UInt8) : Option Fields :=
  if body = [] then some []
  else
    match env.loads body with
    | .notJson => some [("__raw_body__", .string (env.decodeReplace body))]
    | .value (.object fields) => some fields
    | .value decoded => some [("__non_dict_body__", decoded)]
    | .raised => none

/-! ## What the handler does -/

/-- How the draining of a response body ends. -/
inductive Drained where
  | payload (bytes : List UInt8)
  | raised
  | interrupted

/-- How `await call_next(request)` ends, and for an answer the drain of its body
with what the other requests do during the drain. -/
inductive RouteOutcome where
  | responded (statusCode : Int) (duringDrain : List IdempotencyFacade.Call)
      (drained : Drained)
  | raised
  | interrupted

/-- One passage through the handler. -/
structure Handling where
  /-- The clock at the reservation. -/
  reservedAt : Int
  /-- What other requests do while the handler runs. -/
  during : List IdempotencyFacade.Call
  outcome : RouteOutcome
  /-- The clock at the end. -/
  endedAt : Int

/-- How `dispatch` ends. -/
inductive Answer where
  /-- The response of the handler, with nothing reserved. -/
  | forwarded
  | response (statusCode : Int) (content : Fields)
  /-- The response of the handler. -/
  | handled (statusCode : Int)
  | raised
  | interrupted

/-! ## `dispatch` -/

/-- `200 <= status_code < 300`. -/
def isSuccess (statusCode : Int) : Bool := 200 ≤ statusCode && statusCode < 300

/-- What `dispatch` takes a drained payload for: nothing when `json.loads` raises
anything but a `JSONDecodeError`. -/
def responseJson (env : MiddlewareEnv) (payload : List UInt8) : Option Json :=
  if payload = [] then some (.object [])
  else
    match env.loads payload with
    | .value value => some value
    | .notJson => some (.object [])
    | .raised => none

section Dispatch

variable (env : MiddlewareEnv) (posture : Except String Posture)

def others (store : IdempotencyStore) (calls : List IdempotencyFacade.Call) : IdempotencyStore :=
  exec (IdempotencyFacade.perform env.facade posture) store calls

/-- The end of `dispatch` for a drained payload. -/
def keep (tenantId key : String) (statusCode endedAt : Int) (payload : List UInt8)
    (store : IdempotencyStore) : Answer × IdempotencyStore :=
  match responseJson env payload with
  | none => (.raised, store)
  | some (.object response) =>
    (.handled statusCode,
      IdempotencyFacade.markComplete store endedAt tenantId key response statusCode)
  -- `isinstance(response_json, dict)` has no other branch
  | some _ => (.handled statusCode, store)

/-- `dispatch`, from an answer `created` to its end. -/
def handle (tenantId key : String) (handling : Handling) (store : IdempotencyStore) :
    Answer × IdempotencyStore :=
  let store := others env posture store handling.during
  match handling.outcome with
  | .raised => (.raised, IdempotencyFacade.release store tenantId key)
  | .interrupted => (.interrupted, store)
  | .responded statusCode duringDrain drained =>
    if isSuccess statusCode then
      let store := others env posture store duringDrain
      match drained with
      | .raised => (.raised, store)
      | .interrupted => (.interrupted, store)
      | .payload payload =>
        keep env tenantId key statusCode handling.endedAt payload store
    else (.handled statusCode, IdempotencyFacade.release store tenantId key)

def dispatch (request : Request) (handling : Handling) (store : IdempotencyStore) :
    Answer × IdempotencyStore :=
  match admission env request with
  | .forward => (.forwarded, store)
  | .refuse statusCode content => (.response statusCode content, store)
  | .guarded tenantId key =>
    match request.body.bind (safeDecodeBody env) with
    | none => (.raised, store)
    | some body =>
      let reserved := IdempotencyFacade.reserveOrReplay env.facade posture store
        handling.reservedAt tenantId key body
      match reserved.1 with
      | .error _ => (.raised, reserved.2)
      | .ok (.replayed cached) =>
        (.response cached.statusCode cached.body, reserved.2)
      | .ok .conflict => (.response 409 (keyConflict tenantId key), reserved.2)
      | .ok .created => handle env posture tenantId key handling reserved.2

end Dispatch

end HiAgent.AgentServer
