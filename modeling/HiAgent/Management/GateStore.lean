/-
  Management/GateStore.lean --- `SQLiteGateStore` of `hi_agent/management/gate_store.py`.

  A row holds the record as JSON beside the columns the queries ask for. `resolve` and
  `apply_timeouts` read what is stored, judge it on an `InMemoryGateAPI` of their own and write
  the outcome back.
-/
import HiAgent.Foundation.Machine
import HiAgent.Management.GateApi

namespace HiAgent.Management

open Foundation Server List

/-- A row of `gates`. The payload is what `json.loads` reads from it. -/
structure GateRow (μ : Type) where
  gateRef : String
  projectId : String
  status : GateStatus
  payload : GateRecord μ
  tenantId : String
  userId : String
  sessionId : String

abbrev SqliteGateStore (μ : Type) := Table (GateRow.gateRef (μ := μ))

/-- `_record_to_payload`, read back: the project of the record is not part of it. -/
def recordToPayload {μ : Type} (env : GateEnv μ) (record : GateRecord μ) :
    Except GateError (GateRecord μ) :=
  ((env.json record.context.metadata).mapError .raised).map fun metadata =>
    { record with
      context := { record.context with metadata := metadata }
      projectId := "" }

namespace GateRow

variable {μ : Type} (row : GateRow μ)

/-- `_row_to_record`. -/
def toRecord : GateRecord μ :=
  let context := row.payload.context
  { row.payload with
    context :=
      { context with
        tenantId := orElse row.tenantId context.tenantId
        userId := orElse row.userId context.userId
        sessionId := orElse row.sessionId context.sessionId
        projectId := orElse row.projectId context.projectId }
    projectId := "" }

/-- `SET status = ?, payload = ?`. -/
def decided (payload : GateRecord μ) : Assignment (GateRow.gateRef (μ := μ)) where
  set row :=
    { row with
      status := payload.status
      payload := payload }
  keeps _ := rfl

/-- A row holds the record of its own gate, under its own status. -/
structure Sound : Prop where
  gateRef : row.payload.context.gateRef = row.gateRef
  status : row.payload.status = row.status

@[simp] theorem status_toRecord : row.toRecord.status = row.payload.status := rfl

end GateRow

namespace SqliteGateStore

variable {μ : Type} (env : GateEnv μ) (store : SqliteGateStore μ)

/-- `create_gate`. The payload is made before the statement is executed. -/
def createGate (request : GateRequest μ) : Except GateError (GateRecord μ) × SqliteGateStore μ :=
  if request.timeoutSeconds ≤ 0 then (.error (.valueError "timeout_seconds must be > 0"), store)
  else
    let record := request.record ""
    match recordToPayload env record with
    | .error error => (.error error, store)
    | .ok payload =>
      if (store.lookup request.ctx.gateRef).isSome then
        (.error (.raised .integrityError), store)
      else
        (.ok record, store.insertOrReplace
          { gateRef := request.ctx.gateRef
            projectId := request.ctx.projectId
            status := record.status
            payload := payload
            tenantId := request.ctx.tenantId
            userId := request.ctx.userId
            sessionId := request.ctx.sessionId })

def pendingRows (tenantId : Option String) : List (GateRow μ) :=
  store.select fun row => row.status == .pending && tenantId.all (row.tenantId == ·)

def pending (tenantId : Option String) : List (GateRecord μ) :=
  (store.pendingRows tenantId).map GateRow.toRecord

def listPending (posture : Except String Posture) (tenantId : Option String)
    (internalUnscoped : Bool) : Except GateError (List (GateRecord μ)) :=
  match tenantId with
  | none =>
    (checkUnscopedRead posture env.repr "list_pending" none internalUnscoped).map fun _ =>
      store.pending none
  | some tenantId => .ok (store.pending (some tenantId))

def getGate (posture : Except String Posture) (gateRef : String) (tenantId : Option String)
    (internalUnscoped : Bool) : Except GateError (GateRecord μ) :=
  let normalized := Text.strip gateRef
  if normalized = "" then .error (.valueError "gate_ref must be a non-empty string")
  else
    (if tenantId.isNone then
      checkUnscopedRead posture env.repr "get_gate" (some normalized) internalUnscoped
    else .ok ()).bind fun _ =>
      match store.lookup normalized with
      | none => .error (.valueError ("gate " ++ normalized ++ " not found"))
      | some row =>
        if tenantId.all (row.tenantId == ·) then .ok row.toRecord
        else .error (.valueError ("gate " ++ normalized ++ " not found"))

abbrev GateWrite (μ : Type) := String × GateRecord μ

/-- `UPDATE gates SET status = ?, payload = ? WHERE gate_ref = ?`. -/
def write (entry : GateWrite μ) : Except GateError Unit × SqliteGateStore μ :=
  match recordToPayload env entry.2 with
  | .error error => (.error error, store)
  | .ok payload => (.ok (), store.updateAt entry.1 (fun _ => true) (GateRow.decided payload))

/-- `resolve`, up to its statement: the copy holds the record under the text of the
request, and separation of concerns is not enforced. -/
def judgeResolution (resolution : GateResolution) (now : Int) : Except GateError (GateRecord μ) :=
  (getGate env store (.ok .dev) resolution.gateRef none true).bind fun record =>
    (((InMemoryGateApi.new false).put resolution.gateRef record).resolve env resolution now).1

def resolve (resolution : GateResolution) (now : Int) :
    Except GateError (GateRecord μ) × SqliteGateStore μ :=
  match judgeResolution env store resolution now with
  | .error error => (.error error, store)
  | .ok resolved =>
    match write env store (resolution.gateRef, resolved) with
    | (.error error, store) => (.error error, store)
    | (.ok _, store) => (.ok resolved, store)

/-- The copy that `apply_timeouts` judges. -/
def copyOf (records : List (GateRecord μ)) : InMemoryGateApi μ :=
  records.foldl (fun api record => api.put record.context.gateRef record) (.new false)

/-- `apply_timeouts`, up to its first statement. -/
def judgeTimeouts (clock : Nat → Int) : Except GateError (List (GateRecord μ)) :=
  let records := store.pending none
  if records.isEmpty then .ok []
  else ((copyOf records).applyTimeouts clock).1

/-- The statements of `apply_timeouts`. -/
def writeAll : List (GateRecord μ) → SqliteGateStore μ → Except GateError Unit × SqliteGateStore μ
  | [], store => (.ok (), store)
  | record :: rest, store =>
    match write env store (record.context.gateRef, record) with
    | (.error error, store) => (.error error, store)
    | (.ok _, store) => writeAll rest store

def applyTimeouts (clock : Nat → Int) :
    Except GateError (List (GateRecord μ)) × SqliteGateStore μ :=
  match judgeTimeouts store clock with
  | .error error => (.error error, store)
  | .ok changed =>
    match writeAll env changed store with
    | (.error error, store) => (.error error, store)
    | (.ok _, store) => (.ok changed, store)

/-! ## What the operations do -/

variable {env store}

def Sound (store : SqliteGateStore μ) : Prop := ∀ row ∈ store.rows, row.Sound

theorem Sound.of_lookup (h : Sound store) {gateRef : String} {row : GateRow μ}
    (hrow : store.lookup gateRef = some row) : row.Sound :=
  h row (Table.lookup_eq_some_iff.mp hrow).1

/-- What a payload keeps of its record. -/
structure Saved (payload record : GateRecord μ) : Prop where
  gateRef : payload.context.gateRef = record.context.gateRef
  status : payload.status = record.status
  resolutionBy : payload.resolutionBy = record.resolutionBy
  resolutionReason : payload.resolutionReason = record.resolutionReason

theorem saved_recordToPayload {record payload : GateRecord μ}
    (h : recordToPayload env record = .ok payload) : Saved payload record := by
  obtain ⟨metadata, -, rfl⟩ := map_eq_ok_iff.mp h
  exact ⟨rfl, rfl, rfl, rfl⟩

theorem of_createGate (request : GateRequest μ) : (createGate env store request).2 = store ∨
      ∃ row, store.lookup row.gateRef = none ∧ row.status = .pending ∧ row.Sound ∧
        (createGate env store request).2 = store.insertOrReplace row := by
  rw [createGate]
  split
  · exact .inl rfl
  · dsimp only
    split
    · exact .inl rfl
    · rename_i payload hpayload
      split
      · exact .inl rfl
      · rename_i hnone
        have hsaved := saved_recordToPayload hpayload
        exact .inr ⟨_, Option.not_isSome_iff_eq_none.mp hnone, rfl,
          ⟨hsaved.gateRef, hsaved.status⟩, rfl⟩

theorem of_getGate {posture : Except String Posture} {gateRef : String}
    {tenantId : Option String} {internalUnscoped : Bool} {record : GateRecord μ}
    (h : getGate env store posture gateRef tenantId internalUnscoped = .ok record) :
    ∃ row, store.lookup (Text.strip gateRef) = some row ∧ record = row.toRecord := by
  unfold getGate at h
  dsimp only at h
  split at h
  · cases h
  · obtain ⟨-, -, hfound⟩ := bind_eq_ok_iff.mp h
    split at hfound
    · cases hfound
    · rename_i row hlookup
      split at hfound
      · exact ⟨row, hlookup, (Except.ok.inj hfound).symm⟩
      · cases hfound

theorem of_judgeResolution {resolution : GateResolution} {now : Int} {record : GateRecord μ}
    (h : judgeResolution env store resolution now = .ok record) : ∃ approver action row,
      InMemoryGateApi.checkResolution env resolution = .ok (approver, action) ∧
        Text.strip resolution.gateRef = resolution.gateRef ∧ resolution.gateRef ≠ "" ∧
          store.lookup resolution.gateRef = some row ∧ row.payload.status = .pending ∧
            record = InMemoryGateApi.resolved row.toRecord resolution approver action now := by
  obtain ⟨found, hfound, hresolved⟩ := bind_eq_ok_iff.mp h
  obtain ⟨row, hrow, rfl⟩ := of_getGate hfound
  obtain ⟨approver, action, old, hcheck, hne, hold, hpending, rfl⟩ :=
    InMemoryGateApi.of_resolve hresolved
  -- the copy holds nothing else than the record under the text of the request
  rw [InMemoryGateApi.put, Dict.get?_set] at hold
  split at hold
  · rename_i hstrip
    obtain rfl := Option.some.inj hold
    rw [hstrip] at hrow
    rw [hstrip] at hne
    exact ⟨approver, action, row, hcheck, hstrip, hne, hrow, hpending, rfl⟩
  · cases hold

theorem rows_foldl_put {records : List (GateRecord μ)} {api : InMemoryGateApi μ}
    (hnodup : (records.map fun record => record.context.gateRef).Nodup)
    (hfresh : ∀ record ∈ records, api.records.get? record.context.gateRef = none) :
    (records.foldl (fun api record => api.put record.context.gateRef record) api).records.rows =
      api.records.rows ++ records.map fun record => (record.context.gateRef, record) := by
  induction records generalizing api with
  | nil => exact (append_nil _).symm
  | cons first rest ih =>
    rw [map_cons, nodup_cons] at hnodup
    have hput := Dict.rows_set_of_none (hfresh first mem_cons_self) first
    rw [foldl_cons, ih hnodup.2]
    · rw [InMemoryGateApi.put, hput, append_assoc]
      rfl
    · intro record hrecord
      have hne : record.context.gateRef ≠ first.context.gateRef := by
        intro heq
        exact hnodup.1 (heq ▸ mem_map_of_mem hrecord)
      rw [InMemoryGateApi.put, Dict.get?_set, if_neg hne]
      exact hfresh record (mem_cons_of_mem first hrecord)

theorem values_copyOf {records : List (GateRecord μ)}
    (hnodup : (records.map fun record => record.context.gateRef).Nodup) :
    (copyOf records).values = records := by
  have hfresh : ∀ record ∈ records,
      (InMemoryGateApi.new false : InMemoryGateApi μ).records.get? record.context.gateRef = none :=
    fun _ _ => rfl
  have hrows := rows_foldl_put hnodup hfresh
  rw [copyOf, InMemoryGateApi.values, hrows]
  change (records.map fun record => (record.context.gateRef, record)).map Prod.snd = records
  rw [map_map]
  exact map_id records

theorem Sound.nodup_pending (h : Sound store) (tenantId : Option String) :
    ((store.pending tenantId).map fun record => record.context.gateRef).Nodup := by
  have hrefs : (store.pending tenantId).map (fun record => record.context.gateRef) =
      (store.pendingRows tenantId).map GateRow.gateRef := by
    rw [pending, map_map]
    refine map_congr_left fun row hrow => ?_
    exact (h row (mem_of_mem_filter hrow)).gateRef
  rw [hrefs]
  exact store.keysNodup.sublist (filter_sublist.map GateRow.gateRef)

theorem of_judgeTimeouts (hsound : Sound store) {clock : Nat → Int}
    {changed : List (GateRecord μ)} (h : judgeTimeouts store clock = .ok changed) :
    ∀ record ∈ changed, ∃ row outcome, store.lookup row.gateRef = some row ∧
      row.status = .pending ∧ record = row.toRecord.timedOut outcome := by
  intro record hrecord
  rw [judgeTimeouts] at h
  split at h
  · rw [← Except.ok.inj h] at hrecord
    cases hrecord
  · rw [InMemoryGateApi.applyTimeouts, InMemoryGateApi.sweep_fst] at h
    obtain ⟨updates, hupdates, rfl⟩ := map_eq_ok_iff.mp h
    obtain ⟨old, hold, outcome, rfl⟩ := GateRecord.of_expireAll hupdates record hrecord
    rw [InMemoryGateApi.pending, InMemoryGateApi.waiting,
      values_copyOf (hsound.nodup_pending none)] at hold
    have hlisted := mem_of_mem_filter ((mem_insertionSort _).mp hold)
    obtain ⟨row, hrow, rfl⟩ := mem_map.mp hlisted
    obtain ⟨hrow, hstatus⟩ := mem_filter.mp hrow
    have hpending : row.status = .pending := by simpa using hstatus
    exact ⟨row, outcome, Table.mem_rows_iff.mp hrow, hpending, rfl⟩

end SqliteGateStore

open SqliteGateStore

variable {μ : Type}

/-! ## Calls -/

/-- A store, what the calls under way have still to write, and the decisions made. -/
structure GateDesk (μ : Type) where
  store : SqliteGateStore μ
  calls : List (List (GateWrite μ))
  decisions : List (GateWrite μ)

/-- What happens next. -/
inductive GateEvent (μ : Type) where
  | created (request : GateRequest μ)
  /-- `resolve` reads the gate and judges it. -/
  | resolving (resolution : GateResolution) (now : Int)
  /-- `apply_timeouts` reads the pending gates and judges them. -/
  | sweeping (clock : Nat → Int)
  /-- The next statement of a call. -/
  | written (call : Nat)

namespace GateDesk

variable (env : GateEnv μ) (desk : GateDesk μ)

def start : GateDesk μ := ⟨Table.empty, [], []⟩

def enter (writes : List (GateWrite μ)) : GateDesk μ :=
  if writes.isEmpty then desk else { desk with calls := desk.calls ++ [writes] }

def next (rest : List (GateWrite μ)) : Option (List (GateWrite μ)) :=
  if rest.isEmpty then none else some rest

/-- The next statement of a call, which then counts as a decision; a record that has no
payload ends the call. -/
def write (index : Nat) : GateDesk μ :=
  match desk.calls[index]? with
  | some (entry :: rest) =>
    match SqliteGateStore.write env desk.store entry with
    | (.ok _, store) =>
      { store := store
        calls := Roster.advance desk.calls index (next rest)
        decisions := desk.decisions ++ [entry] }
    | (.error _, store) =>
      { desk with
        store := store
        calls := Roster.advance desk.calls index none }
  | _ => desk

/-- One event. -/
def step : GateEvent μ → GateDesk μ
  | .created request => { desk with store := (createGate env desk.store request).2 }
  | .resolving resolution now =>
    match judgeResolution env desk.store resolution now with
    | .error _ => desk
    | .ok resolved => desk.enter [(resolution.gateRef, resolved)]
  | .sweeping clock =>
    match judgeTimeouts desk.store clock with
    | .error _ => desk
    | .ok changed => desk.enter (changed.map fun record => (record.context.gateRef, record))
  | .written index => desk.write env index

/-! ## The law -/

def decisionsOn (gateRef : String) : List (GateWrite μ) :=
  desk.decisions.filter fun entry => entry.1 == gateRef

def Says (row : GateRow μ) (record : GateRecord μ) : Prop :=
  row.status = record.status ∧ row.payload.status = record.status ∧
    row.payload.resolutionBy = record.resolutionBy ∧
      row.payload.resolutionReason = record.resolutionReason

/-- No call has decided a gate that is pending, and one has decided a gate that is not;
what is stored is its decision. -/
def DecidedOnce : Prop := ∀ gateRef row, desk.store.lookup gateRef = some row →
  if row.status = .pending then desk.decisionsOn gateRef = []
  else ∃ record, desk.decisionsOn gateRef = [(gateRef, record)] ∧ Says row record

/-- A statement that is executed finds its gate pending. -/
def Meets : GateEvent μ → Prop
  | .written index =>
    ∀ writes ∈ desk.calls[index]?, ∀ entry ∈ writes.head?, Succeeds (recordToPayload env entry.2) →
        ∀ row ∈ desk.store.lookup entry.1, row.status = .pending
  | _ => True

/-! ## The invariant -/

/-- What a call has still to write is a decision on a gate that is stored. -/
structure Judged (store : SqliteGateStore μ) (entry : GateWrite μ) : Prop where
  stored : (store.lookup entry.1).isSome
  gateRef : entry.2.context.gateRef = entry.1
  status : entry.2.status ≠ .pending

/-- Beside the law: the rows are sound, and decisions, made or to be made, are on gates
that are stored. -/
structure Consistent : Prop where
  sound : Sound desk.store
  once : desk.DecidedOnce
  decided : ∀ entry ∈ desk.decisions, (desk.store.lookup entry.1).isSome
  judged : ∀ writes ∈ desk.calls, ∀ entry ∈ writes, Judged desk.store entry

theorem decisionsOn_append (gateRef : String) (entry : GateWrite μ) :
    ({ desk with decisions := desk.decisions ++ [entry] } : GateDesk μ).decisionsOn gateRef =
      desk.decisionsOn gateRef ++ if entry.1 = gateRef then [entry] else [] := by
  rw [decisionsOn, filter_append, filter_cons, filter_nil]
  by_cases hsame : entry.1 = gateRef
  · simp [decisionsOn, hsame]
  · simp [decisionsOn, hsame]

variable {env desk}

theorem Consistent.create (h : desk.Consistent) (request : GateRequest μ) :
    (desk.step env (.created request)).Consistent := by
  have hcreate : (createGate env desk.store request).2 = desk.store ∨ _ := of_createGate request
  rcases hcreate with hsame | ⟨row, hfresh, hpending, hsound, hstore⟩
  · rw [step, hsame]
    exact h
  · have hstays : ∀ gateRef, (desk.store.lookup gateRef).isSome →
        ((desk.store.insertOrReplace row).lookup gateRef).isSome := by
      intro gateRef hsome
      rw [Table.lookup_insertOrReplace]
      split
      · rfl
      · exact hsome
    rw [step, hstore]
    constructor
    case sound =>
      intro other hother
      have hother : other ∈ (desk.store.insertOrReplace row).rows := hother
      rw [Table.rows_insertOrReplace hfresh] at hother
      rcases mem_append.mp hother with hold | hnew
      · exact h.sound other hold
      · rw [mem_singleton.mp hnew]
        exact hsound
    case once =>
      intro gateRef other hlookup
      have hlookup : (desk.store.insertOrReplace row).lookup gateRef = some other := hlookup
      rw [Table.lookup_insertOrReplace] at hlookup
      split at hlookup
      · rename_i hnew
        obtain rfl := Option.some.inj hlookup
        rw [if_pos hpending]
        refine filter_eq_nil_iff.mpr fun entry hentry hkey => ?_
        -- a decision would have found a row
        have hstored := h.decided entry hentry
        rw [beq_iff_eq.mp hkey, hnew, hfresh] at hstored
        cases hstored
      · exact h.once gateRef other hlookup
    case decided => exact fun entry hentry => hstays entry.1 (h.decided entry hentry)
    case judged =>
      intro writes hwrites entry hentry
      have hjudged := h.judged writes hwrites entry hentry
      exact ⟨hstays entry.1 hjudged.stored, hjudged.gateRef, hjudged.status⟩

theorem Consistent.enter (h : desk.Consistent) {writes : List (GateWrite μ)}
    (hwrites : ∀ entry ∈ writes, Judged desk.store entry) : (desk.enter writes).Consistent := by
  rw [GateDesk.enter]
  split
  · exact h
  · refine ⟨h.sound, h.once, h.decided, fun other hother => ?_⟩
    rcases mem_append.mp hother with hold | hnew
    · exact h.judged other hold
    · rw [mem_singleton.mp hnew]
      exact hwrites

theorem Consistent.resolve (h : desk.Consistent) (resolution : GateResolution) (now : Int) :
    (desk.step env (.resolving resolution now)).Consistent := by
  rw [step]
  split
  · exact h
  · rename_i resolved hjudge
    obtain ⟨approver, action, row, -, -, -, hrow, -, rfl⟩ := of_judgeResolution hjudge
    refine h.enter fun entry hentry => ?_
    rw [mem_singleton.mp hentry]
    exact ⟨Option.isSome_iff_exists.mpr ⟨row, hrow⟩,
      (h.sound.of_lookup hrow).gateRef.trans (Table.key_of_lookup hrow),
      action.targetStatus_ne⟩

theorem Consistent.sweep (h : desk.Consistent) (clock : Nat → Int) :
    (desk.step env (.sweeping clock)).Consistent := by
  rw [step]
  split
  · exact h
  · rename_i changed hjudge
    refine h.enter fun entry hentry => ?_
    obtain ⟨record, hrecord, rfl⟩ := mem_map.mp hentry
    obtain ⟨row, outcome, hrow, -, rfl⟩ := of_judgeTimeouts h.sound hjudge record hrecord
    have hgateRef : (row.toRecord.timedOut outcome).context.gateRef = row.gateRef := by
      rw [GateRecord.context_timedOut]
      exact (h.sound.of_lookup hrow).gateRef
    refine ⟨?_, rfl, GateRecord.status_timedOut_ne _ _⟩
    dsimp only
    rw [hgateRef, hrow]
    rfl

/-! ## A statement -/

section Statement

variable {index : Nat} {entry : GateWrite μ} {rest : List (GateWrite μ)}

section

variable (hcall : desk.calls[index]? = some (entry :: rest))
include hcall

theorem write_of_ok
    {payload : GateRecord μ} (hpayload : recordToPayload env entry.2 = .ok payload) :
    desk.write env index =
      { store := desk.store.updateAt entry.1 (fun _ => true) (GateRow.decided payload)
        calls := Roster.advance desk.calls index (next rest)
        decisions := desk.decisions ++ [entry] } := by
  simp only [GateDesk.write, hcall, SqliteGateStore.write, hpayload]

theorem write_of_error {error : GateError}
    (hpayload : recordToPayload env entry.2 = .error error) : desk.write env index =
      { desk with calls := Roster.advance desk.calls index none } := by
  simp only [GateDesk.write, hcall, SqliteGateStore.write, hpayload]

theorem mem_of_advance_next {writes : List (GateWrite μ)}
    (hwrites : writes ∈ Roster.advance desk.calls index (next rest)) {other : GateWrite μ}
    (hother : other ∈ writes) : ∃ before ∈ desk.calls, other ∈ before := by
  rcases Roster.mem_advance hwrites with hold | hnew
  · exact ⟨writes, hold, hother⟩
  · rw [next] at hnew
    split at hnew
    · cases hnew
    · obtain rfl := Option.some.inj hnew
      exact ⟨entry :: rest, mem_of_getElem? hcall, mem_cons_of_mem entry hother⟩

end

theorem Consistent.write_ok (h : desk.Consistent)
    (hcall : desk.calls[index]? = some (entry :: rest)) {payload : GateRecord μ}
    (hpayload : recordToPayload env entry.2 = .ok payload)
    (hpending : ∀ row ∈ desk.store.lookup entry.1, row.status = .pending) :
    (desk.write env index).Consistent := by
  have hentry := h.judged _ (mem_of_getElem? hcall) entry mem_cons_self
  have hlookup : ∀ gateRef, (desk.store.updateAt entry.1 (fun _ => true)
      (GateRow.decided payload)).lookup gateRef =
        if gateRef = entry.1 then (desk.store.lookup entry.1).map (GateRow.decided payload).set
        else desk.store.lookup gateRef :=
    fun gateRef => Table.lookup_updateAt desk.store entry.1 (fun _ => true) _ gateRef
  have hstays : ∀ gateRef, (desk.store.lookup gateRef).isSome →
      ((desk.store.updateAt entry.1 (fun _ => true)
        (GateRow.decided payload)).lookup gateRef).isSome := by
    intro gateRef hsome
    rw [hlookup]
    split
    · rename_i hsame
      rw [Option.isSome_map, ← hsame]
      exact hsome
    · exact hsome
  have hsaved := saved_recordToPayload hpayload
  rw [write_of_ok hcall hpayload]
  constructor
  case sound =>
    intro row hrow
    have hfound := (hlookup row.gateRef).symm.trans (Table.mem_rows_iff.mp hrow)
    split at hfound
    · rename_i hsame
      obtain ⟨old, -, hset⟩ := Option.map_eq_some_iff.mp hfound
      rw [← hset] at hsame ⊢
      exact ⟨hsaved.gateRef.trans (hentry.gateRef.trans hsame.symm), rfl⟩
    · exact h.sound.of_lookup hfound
  case once =>
    intro gateRef row hrow
    have hfound := (hlookup gateRef).symm.trans hrow
    have hdecisions := decisionsOn_append desk gateRef entry
    split at hfound
    · rename_i hsame
      obtain ⟨old, hold, rfl⟩ := Option.map_eq_some_iff.mp hfound
      have hbefore := h.once entry.1 old hold
      rw [if_pos (hpending old hold), ← hsame] at hbefore
      rw [if_pos hsame.symm, hbefore] at hdecisions
      have hdecided : ((GateRow.decided payload).set old).status ≠ .pending :=
        fun hstatus => hentry.status (hsaved.status.symm.trans hstatus)
      rw [if_neg hdecided]
      refine ⟨entry.2, ?_, hsaved.status, hsaved.status, hsaved.resolutionBy,
        hsaved.resolutionReason⟩
      rw [hsame] at hdecisions ⊢
      exact hdecisions
    · rename_i hother
      rw [if_neg fun heq => hother heq.symm, append_nil] at hdecisions
      have hbefore := h.once gateRef row hfound
      rw [← hdecisions] at hbefore
      exact hbefore
  case decided =>
    intro other hother
    rcases mem_append.mp hother with hold | hnew
    · exact hstays other.1 (h.decided other hold)
    · rw [mem_singleton.mp hnew]
      exact hstays entry.1 hentry.stored
  case judged =>
    intro writes hwrites other hother
    obtain ⟨before, hbefore, hmem⟩ := mem_of_advance_next hcall hwrites hother
    have hjudged := h.judged before hbefore other hmem
    exact ⟨hstays other.1 hjudged.stored, hjudged.gateRef, hjudged.status⟩

theorem Consistent.write_error (h : desk.Consistent)
    (hcall : desk.calls[index]? = some (entry :: rest)) {error : GateError}
    (hpayload : recordToPayload env entry.2 = .error error) :
    (desk.write env index).Consistent := by
  rw [write_of_error hcall hpayload]
  exact ⟨h.sound, h.once, h.decided, fun writes hwrites =>
    h.judged writes (mem_of_mem_eraseIdx hwrites)⟩

theorem Consistent.pending_of_write (h : desk.Consistent)
    (hcall : desk.calls[index]? = some (entry :: rest)) {payload : GateRecord μ}
    (hpayload : recordToPayload env entry.2 = .ok payload)
    (hafter : (desk.write env index).DecidedOnce) :
    ∀ row ∈ desk.store.lookup entry.1, row.status = .pending := by
  intro row hrow
  by_contra hdecided
  have hentry := h.judged _ (mem_of_getElem? hcall) entry mem_cons_self
  have hbefore := h.once entry.1 row hrow
  rw [if_neg hdecided] at hbefore
  obtain ⟨first, hfirst, -⟩ := hbefore
  rw [write_of_ok hcall hpayload] at hafter
  have hstored : (desk.store.updateAt entry.1 (fun _ => true)
      (GateRow.decided payload)).lookup entry.1 = some ((GateRow.decided payload).set row) := by
    rw [Table.lookup_updateAt, if_pos rfl, Option.mem_def.mp hrow]
    rfl
  have hnow := hafter entry.1 _ hstored
  have hruled : ((GateRow.decided payload).set row).status ≠ .pending := fun hstatus =>
    hentry.status ((saved_recordToPayload hpayload).status.symm.trans hstatus)
  rw [if_neg hruled] at hnow
  obtain ⟨second, hsecond, -⟩ := hnow
  have hboth := decisionsOn_append desk entry.1 entry
  rw [if_pos rfl, hfirst] at hboth
  have hlength := congrArg List.length (hboth.symm.trans hsecond)
  exact absurd hlength (by simp)

end Statement

/-! ## Runs -/

theorem Consistent.step (h : desk.Consistent) {event : GateEvent μ}
    (hmeets : desk.Meets env event) : (desk.step env event).Consistent := by
  cases event with
  | created request => exact h.create request
  | resolving resolution now => exact h.resolve resolution now
  | sweeping clock => exact h.sweep clock
  | written index =>
    rw [GateDesk.step]
    cases hcall : desk.calls[index]? with
    | none =>
      simp only [GateDesk.write, hcall]
      exact h
    | some writes =>
      cases writes with
      | nil =>
        simp only [GateDesk.write, hcall]
        exact h
      | cons entry rest =>
        cases hpayload : recordToPayload env entry.2 with
        | error error => exact h.write_error hcall hpayload
        | ok payload =>
          exact h.write_ok hcall hpayload
            (hmeets (entry :: rest) hcall entry rfl ⟨payload, hpayload⟩)

theorem Consistent.meets (h : desk.Consistent) {event : GateEvent μ}
    (hafter : (desk.step env event).DecidedOnce) : desk.Meets env event := by
  cases event with
  | created request => trivial
  | resolving resolution now => trivial
  | sweeping clock => trivial
  | written index =>
    intro writes hwrites entry hentry hpayload
    obtain ⟨payload, hpayload⟩ := hpayload
    cases writes with
    | nil => cases hentry
    | cons first rest =>
      obtain rfl := Option.some.inj hentry
      exact h.pending_of_write hwrites hpayload hafter

theorem Consistent.start : (start : GateDesk μ).Consistent where
  sound := fun _ hrow => by cases hrow
  once := fun _ _ hrow => by cases hrow
  decided := fun _ hentry => by cases hentry
  judged := fun _ hwrites => by cases hwrites

/-- Every gate has been decided once at most in every state of a run exactly when every
statement that is executed finds its gate pending. -/
theorem always_decidedOnce_iff_meets (env : GateEnv μ) (events : List (GateEvent μ)) :
    Always (step env) DecidedOnce start events ↔ Along (step env) (Meets env) start events :=
  always_iff_along (fun _ _ h hmeets => h.step hmeets) (fun _ h => h.once)
    (fun _ _ h hafter => h.meets hafter) Consistent.start events

/-- Two resolvers read the gate while it is pending. -/
def raced : List (GateEvent Unit) :=
  let context : GateContext Unit :=
    { gateRef := "g1"
      runId := "r1"
      stageId := "s1"
      branchId := "b1"
      submitter := "sub"
      decisionRef := none
      rationale := none
      openedAt := 0
      metadata := ()
      tenantId := "t1"
      userId := ""
      sessionId := ""
      projectId := "" }
  [.created ⟨context, 300, .reject, none, none, ⟨"", "", "", ""⟩⟩,
    .resolving ⟨"g1", "approve", "ann", none, none⟩ 1,
    .resolving ⟨"g1", "reject", "bob", none, none⟩ 2,
    .written 0, .written 0]

/-- The approval turns into a rejection. -/
theorem not_always_decidedOnce_raced : ¬ ∀ (env : GateEnv Unit) (events : List (GateEvent Unit)),
      Always (step env) DecidedOnce start events := by
  intro h
  let env : GateEnv Unit := ⟨id, id, .ok⟩
  have hlast := (h env raced).last
  have hdecisions : ((exec (step env) start raced).decisionsOn "g1").length = 2 := by decide
  have hstored : ((exec (step env) start raced).store.lookup "g1").isSome = true := by decide
  obtain ⟨row, hrow⟩ := Option.isSome_iff_exists.mp hstored
  have hgate := hlast "g1" row hrow
  split at hgate
  · rw [hgate] at hdecisions
    cases hdecisions
  · obtain ⟨record, honce, -⟩ := hgate
    rw [honce] at hdecisions
    cases hdecisions

end GateDesk

end HiAgent.Management
