/-
  Operations/OpStore.lean --- long-running operations.

  `hi_agent/operations/op_store.py`: `OpHandle`, `LongRunningOpStore`.
  `hi_agent/operations/coordinator.py`: `LongRunningOpCoordinator.submit`, `cancel`.
  `hi_agent/operations/poller.py`: `OpPoller.poll_once`.
-/
import HiAgent.Server.Idempotency

namespace HiAgent.Operations

open Foundation Server

inductive OpStatus where
  | pending | running | succeeded | failed | cancelled
  deriving DecidableEq

def OpStatus.finished : OpStatus → Bool
  | .succeeded | .failed | .cancelled => true
  | _ => false

/-- `OpHandle`, and a row of `ops`. -/
structure OpHandle where
  opId : String
  backend : String
  externalId : String
  submittedAt : Int
  tenantId : String
  runId : String
  projectId : String
  status : OpStatus := .pending
  artifactsUri : String := ""
  heartbeatAt : Int := 0
  completedAt : Int := 0
  error : String := ""

/-- What is raised. -/
inductive OpError where
  | valueError (text : String)
  /-- `self._backends[backend_name]`. -/
  | keyError (backendName : String)
  | spineCompletenessError (text : String)
  /-- `sqlite3.IntegrityError`. -/
  | integrityError
  /-- What a backend raises. -/
  | backendError (text : String)

def OpHandle.missing (handle : OpHandle) : List String :=
  (if handle.tenantId = "" then ["tenant_id"] else []) ++
    (if handle.runId = "" then ["run_id"] else []) ++
    if handle.projectId = "" then ["project_id"] else []

/-- `OpHandle.__post_init__`. -/
def OpHandle.construct (posture : Posture) (handle : OpHandle) : Except OpError OpHandle :=
  if handle.missing = [] then .ok handle
  else if posture.isStrict = true then
    .error (.spineCompletenessError
      ("OpHandle constructed without required spine fields under posture=" ++ posture.value ++
        ": missing=" ++ printNames handle.missing ++
        ". Populate at the construction site (Rule 12)."))
  else .ok handle

/-- The rows of `ops`. -/
abbrev OpTable := Table OpHandle.opId

/-- What a poll learns of an operation. -/
inductive Report where
  | running
  | succeeded (artifacts : List String)
  | failed
  | cancelled

/-- The status that is stored for a report. -/
def Report.status : Report → OpStatus
  | .running => .running
  | .succeeded _ => .succeeded
  | .failed => .failed
  | .cancelled => .cancelled

/-- The columns that the poller sets for a report. -/
def Report.assign (now : Int) (report : Report) : Assignment OpHandle.opId where
  set row :=
    match report with
    | .running => { row with status := .running, heartbeatAt := now }
    | .succeeded artifacts =>
      { row with
        status := .succeeded
        completedAt := now
        artifactsUri := Text.join ',' artifacts }
    | .failed => { row with status := .failed, completedAt := now }
    | .cancelled => { row with status := .cancelled, completedAt := now }
  keeps _ := by cases report <;> rfl

namespace OpTable

variable (ops : OpTable)

/-- `list_active`, before the handles are constructed. -/
def active : List OpHandle :=
  ops.select fun row => decide (row.status = .pending ∨ row.status = .running)

/-- `update_status`, with the columns that are set beside it. -/
def updateStatus (opId : String) (set : Assignment OpHandle.opId) : OpTable :=
  ops.updateAt opId (fun _ => true) set

end OpTable

/-- The arguments of `submit` that are read. -/
structure SubmitArgs where
  backendName : String
  tenantId : String
  projectId : String

/-- Where a call is, by what it does next. -/
inductive OpCall where
  /-- `submit`: `require_tenant` and the look-up of the backend. -/
  | submit (args : SubmitArgs)
  /-- `backend.submit(op_spec)`. -/
  | submitBackend (args : SubmitArgs)
  /-- `create`, up to its `INSERT`. -/
  | submitCreate (args : SubmitArgs) (externalId : String)
  /-- `create`: the handle of the row. -/
  | submitHandle (row : OpHandle)
  /-- `cancel`: `self._store.get(op_id)`. -/
  | cancel (opId : String)
  /-- `backend.cancel(handle.external_id)`. -/
  | cancelBackend (handle : OpHandle)
  /-- `update_status(op_id, CANCELLED)`. -/
  | cancelWrite (opId : String)
  /-- `poll_once`: `self._store.list_active()`. -/
  | pollList
  /-- `backend.status(handle.external_id)` of the next handle, after the visited ones. -/
  | poll (listed visited : List String) (todo : List OpHandle)
  /-- `backend.fetch_artifacts(handle.external_id)`. -/
  | pollFetch (listed visited : List String) (handle : OpHandle) (todo : List OpHandle)
  /-- `update_status` of a handle. -/
  | pollWrite (listed visited : List String) (handle : OpHandle) (todo : List OpHandle)
      (report : Report)

/-- How a call goes on. -/
inductive OpOutcome where
  | goesOn (call : OpCall)
  | returns
  | raises (error : OpError)

def OpOutcome.after {α : Type} (goOn : α → OpOutcome) : Except OpError α → OpOutcome
  | .error error => .raises error
  | .ok result => goOn result

/-- What a step finds around it: the posture, the clock, a new identifier, the backends that
are registered and what a backend answers or raises. -/
structure Surroundings where
  posture : Posture
  now : Int
  uuid : String
  backends : List String
  reply : Except String String
  artifacts : Except String (List String)

def requireTenant (posture : Posture) (tenantId : String) : Except OpError String :=
  if tenantId ≠ "" then .ok tenantId
  else if posture.isStrict = true then
    .error (.valueError
      ("empty tenant_id at 'LongRunningOpCoordinator.submit' is forbidden under " ++
        posture.value ++ " posture"))
  else .ok ""

/-- The row that `create` inserts for `submit`, which passes no `run_id`. -/
def newRow (around : Surroundings) (args : SubmitArgs) (externalId : String) : OpHandle where
  opId := around.uuid
  backend := args.backendName
  externalId := externalId
  submittedAt := around.now
  tenantId := args.tenantId
  runId := ""
  projectId := args.projectId

/-- `update_status(op_id, CANCELLED, completed_at=...)`. -/
def cancelAssign (now : Int) : Assignment OpHandle.opId where
  set row := { row with status := .cancelled, completedAt := now }
  keeps _ := rfl

/-- How a poll goes on when it has asked for the status of an operation. -/
def afterStatus (reply : Except String String) (listed visited : List String)
    (handle : OpHandle) (todo : List OpHandle) : OpCall :=
  match reply with
  | .ok "running" => .pollWrite listed visited handle todo .running
  | .ok "succeeded" => .pollFetch listed visited handle todo
  | .ok "failed" => .pollWrite listed visited handle todo .failed
  | .ok "cancelled" => .pollWrite listed visited handle todo .cancelled
  | _ => .poll listed (visited ++ [handle.opId]) todo

/-- One step of a call. -/
def OpTable.move (around : Surroundings) (ops : OpTable) : OpCall → OpTable × OpOutcome
  | .submit args =>
    (ops, .after (fun tenantId =>
      if args.backendName ∈ around.backends then
        .goesOn (.submitBackend { args with tenantId })
      else .raises (.keyError args.backendName)) (requireTenant around.posture args.tenantId))
  | .submitBackend args =>
    (ops, match around.reply with
      | .error text => .raises (.backendError text)
      | .ok externalId => .goesOn (.submitCreate args externalId))
  | .submitCreate args externalId =>
    if around.posture.isStrict = true ∧ args.tenantId = "" then
      (ops, .raises (.valueError
        ("LongRunningOpStore.create: empty tenant_id under research/prod posture; " ++
          "pass tenant_id= or exec_ctx= with a non-empty tenant_id")))
    else if (ops.lookup around.uuid).isSome = true then (ops, .raises .integrityError)
    else
      (ops.insertOrReplace (newRow around args externalId),
        .goesOn (.submitHandle (newRow around args externalId)))
  | .submitHandle row =>
    (ops, .after (fun _ => .returns) (row.construct around.posture))
  | .cancel opId =>
    (ops, match ops.lookup opId with
      | none => .returns
      | some row =>
        .after (fun handle => .goesOn (.cancelBackend handle)) (row.construct around.posture))
  | .cancelBackend handle =>
    -- A backend that is gone is passed over, and what it raises is caught.
    (ops, .goesOn (.cancelWrite handle.opId))
  | .cancelWrite opId => (ops.updateStatus opId (cancelAssign around.now), .returns)
  | .pollList =>
    (ops, .after (fun handles => .goesOn (.poll (ops.active.map OpHandle.opId) [] handles))
      (ops.active.mapM (OpHandle.construct around.posture)))
  | .poll _ _ [] => (ops, .returns)
  | .poll listed visited (handle :: todo) =>
    (ops, .goesOn (if handle.backend ∈ around.backends then
        afterStatus around.reply listed visited handle todo
      else .poll listed (visited ++ [handle.opId]) todo))
  | .pollFetch listed visited handle todo =>
    (ops, .goesOn (match around.artifacts with
      | .ok artifacts => .pollWrite listed visited handle todo (.succeeded artifacts)
      | .error _ => .poll listed (visited ++ [handle.opId]) todo))
  | .pollWrite listed visited handle todo report =>
    (ops.updateStatus handle.opId (report.assign around.now),
      .goesOn (.poll listed (visited ++ [handle.opId]) todo))

/-! ## Runs -/

/-- The rows, the calls under way, and of every operation the artifacts that were fetched last. -/
structure LongRunningOps where
  ops : OpTable
  calls : List OpCall
  fetched : String → Option (List String)

/-- A method. -/
inductive OpMethod where
  | submit (args : SubmitArgs)
  | cancel (opId : String)
  | pollOnce

def OpMethod.entry : OpMethod → OpCall
  | .submit args => .submit args
  | .cancel opId => .cancel opId
  | .pollOnce => .pollList

/-- What may happen next. -/
inductive OpEvent where
  | call (method : OpMethod)
  | move (index : Nat) (around : Surroundings)

namespace LongRunningOps

def artifacts (row : OpHandle) : List String :=
  if row.artifactsUri = "" then [] else Text.split ',' row.artifactsUri

/-- No call is under way on the rows that are stored; of an operation that has succeeded
before, the artifacts are what its row names. -/
def startOn (ops : OpTable) : LongRunningOps where
  ops
  calls := []
  fetched opId := (ops.lookup opId).map artifacts

def fetchedBy (s : LongRunningOps) : OpCall → String → Option (List String)
  | .pollWrite _ _ handle _ (.succeeded artifacts), opId =>
    if opId = handle.opId then some artifacts else s.fetched opId
  | _, opId => s.fetched opId

def next : OpOutcome → Option OpCall
  | .goesOn call => some call
  | _ => none

/-- A step of the call at a position. -/
def moveCall (s : LongRunningOps) (index : Nat) (around : Surroundings) (call : OpCall) :
    LongRunningOps where
  ops := (s.ops.move around call).1
  calls := Roster.advance s.calls index (next (s.ops.move around call).2)
  fetched := s.fetchedBy call

/-- One event. -/
def step (s : LongRunningOps) : OpEvent → LongRunningOps
  | .call method => { s with calls := s.calls ++ [method.entry] }
  | .move index around =>
    match s.calls[index]? with
    | none => s
    | some call => s.moveCall index around call

/-! ## The law -/

/-- A submission that the backend has accepted does not raise; a poll lists every active row,
does not raise, and returns when it has visited every operation it has listed. -/
def Handled (ops : OpTable) (around : Surroundings) (call : OpCall) : Prop :=
  match call with
  | .submitCreate .. | .submitHandle .. | .pollFetch .. | .pollWrite .. =>
    ∀ error, (ops.move around call).2 ≠ .raises error
  | .pollList =>
    ∃ todo, (ops.move around call).2 = .goesOn (.poll (ops.active.map OpHandle.opId) [] todo)
  | .poll listed visited todo =>
    (∀ error, (ops.move around call).2 ≠ .raises error) ∧
      (todo = [] → ∀ opId ∈ listed, opId ∈ visited)
  | _ => True

def Keeps (ops ops' : OpTable) : Prop :=
  ∀ opId row, ops.lookup opId = some row → row.status.finished = true →
    (ops'.lookup opId).map (·.status) = some row.status

/-- The artifacts of every operation that has succeeded can be read from its row. -/
def Recoverable (s : LongRunningOps) : Prop :=
  ∀ opId row, s.ops.lookup opId = some row → row.status = .succeeded →
    s.fetched opId = some (artifacts row)

/-- What the law asks of an event. -/
def Lawful (s : LongRunningOps) (event : OpEvent) : Prop :=
  (match event with
    | .call _ => True
    | .move index around =>
      match s.calls[index]? with
      | none => True
      | some call => Handled s.ops around call) ∧
  Keeps s.ops (s.step event).ops ∧ (s.step event).Recoverable

end LongRunningOps

open List

/-! ## Handles -/

/-- The row passes `OpHandle.__post_init__`. -/
def OpHandle.Passes (posture : Posture) (handle : OpHandle) : Prop :=
  handle.missing = [] ∨ posture.isStrict = false

variable {posture : Posture}

theorem OpHandle.construct_of_passes {handle : OpHandle}
    (h : handle.Passes posture) : handle.construct posture = .ok handle := by
  unfold OpHandle.construct
  rcases h with hmissing | hposture
  · rw [if_pos hmissing]
  · rw [hposture, if_neg Bool.false_ne_true, ite_self]

theorem OpHandle.construct_of_not_passes {handle : OpHandle}
    (h : ¬ handle.Passes posture) : ∃ error, handle.construct posture = .error error := by
  rw [OpHandle.Passes, not_or, Bool.not_eq_false] at h
  rw [OpHandle.construct, if_neg h.1, if_pos h.2]
  exact ⟨_, rfl⟩

theorem mapM_construct {rows : List OpHandle}
    (h : ∀ row ∈ rows, row.Passes posture) : rows.mapM (OpHandle.construct posture) = .ok rows := by
  induction rows with
  | nil => rfl
  | cons row rows ih =>
    rw [mapM_cons, OpHandle.construct_of_passes (h row mem_cons_self),
      ih fun other hother => h other (mem_cons_of_mem row hother)]
    rfl

theorem mapM_construct_error {rows : List OpHandle} (h : ¬ ∀ row ∈ rows, row.Passes posture) :
    ∃ error, rows.mapM (OpHandle.construct posture) = .error error := by
  induction rows with
  | nil => exact absurd (fun row hrow => absurd hrow not_mem_nil) h
  | cons row rows ih =>
    rw [mapM_cons]
    by_cases hrow : row.Passes posture
    · obtain ⟨error, herror⟩ := ih fun hrows => h (forall_mem_cons.mpr ⟨hrow, hrows⟩)
      rw [OpHandle.construct_of_passes hrow, herror]
      exact ⟨error, rfl⟩
    · obtain ⟨error, herror⟩ := OpHandle.construct_of_not_passes hrow
      rw [herror]
      exact ⟨error, rfl⟩

theorem eq_of_mapM_construct {rows handles : List OpHandle}
    (h : rows.mapM (OpHandle.construct posture) = .ok handles) : handles = rows := by
  by_cases hrows : ∀ row ∈ rows, row.Passes posture
  · rw [mapM_construct hrows] at h
    exact (Except.ok.inj h).symm
  · obtain ⟨error, herror⟩ := mapM_construct_error hrows
    rw [herror] at h
    cases h

theorem after_eq_goesOn {α : Type} {goOn : α → OpOutcome} {result : Except OpError α}
    {call : OpCall} (h : OpOutcome.after goOn result = .goesOn call) :
    ∃ value, result = .ok value ∧ goOn value = .goesOn call := by
  cases result with
  | error error => cases h
  | ok value => exact ⟨value, rfl, h⟩

/-! ## Artifacts -/

def Report.Readable : Report → Prop
  | .succeeded artifacts => artifacts ≠ [""] ∧ ∀ uri ∈ artifacts, ',' ∉ uri.toList
  | _ => True

theorem artifacts_assign_iff (now : Int) (artifacts : List String) (row : OpHandle) :
    LongRunningOps.artifacts (((Report.succeeded artifacts).assign now).set row) = artifacts ↔
      (Report.succeeded artifacts).Readable := by
  change (if Text.join ',' artifacts = "" then [] else Text.split ',' (Text.join ',' artifacts)) =
    artifacts ↔ artifacts ≠ [""] ∧ ∀ uri ∈ artifacts, ',' ∉ uri.toList
  simp only [Text.join_eq_empty_iff]
  by_cases hnil : artifacts = []
  · subst hnil
    simp
  constructor
  · intro hread
    have hsome : artifacts ≠ [""] := by
      intro hempty
      rw [if_pos (.inr hempty)] at hread
      exact hnil hread.symm
    rw [if_neg (not_or.mpr ⟨hnil, hsome⟩)] at hread
    refine ⟨hsome, fun uri huri => ?_⟩
    rw [← hread] at huri
    exact Text.not_mem_of_mem_split huri
  · rintro ⟨hsome, hcommas⟩
    rw [if_neg (not_or.mpr ⟨hnil, hsome⟩)]
    exact Text.split_join hnil hcommas

/-! ## Rows -/

namespace LongRunningOps

variable {s : LongRunningOps} {ops : OpTable}

theorem keeps_refl (ops : OpTable) : Keeps ops ops := by
  intro opId row hrow _
  rw [hrow]
  rfl

theorem keeps_updateStatus_iff {opId : String} {set : Assignment OpHandle.opId} :
    Keeps ops (ops.updateStatus opId set) ↔
      ∀ row, ops.lookup opId = some row → row.status.finished = true →
        (set.set row).status = row.status := by
  constructor
  · intro h row hrow hended
    have hstatus := h opId row hrow hended
    rw [OpTable.updateStatus, Table.lookup_updateAt, if_pos rfl, hrow] at hstatus
    exact Option.some.inj hstatus
  · intro h other row hrow hended
    rw [OpTable.updateStatus, Table.lookup_updateAt]
    by_cases hother : other = opId
    · rw [hother] at hrow
      rw [if_pos hother, hrow]
      exact congrArg some (h row hrow hended)
    · rw [if_neg hother, hrow]
      rfl

theorem keeps_insert {row : OpHandle} (hnew : ops.lookup row.opId = none) :
    Keeps ops (ops.insertOrReplace row) := by
  intro opId old hold _
  rw [Table.lookup_insertOrReplace]
  by_cases hsame : opId = row.opId
  · rw [hsame, hnew] at hold
    cases hold
  · rw [if_neg hsame, hold]
    rfl

/-! ## What holds between the steps -/

/-- A poll has the operations it has listed behind it or before it; a row that `submit` has
inserted is without a `run_id`. -/
def Sound : OpCall → Prop
  | .submitHandle row => row.runId = ""
  | .poll listed visited todo => listed = visited ++ todo.map OpHandle.opId
  | .pollFetch listed visited handle todo | .pollWrite listed visited handle todo _ =>
    listed = visited ++ handle.opId :: todo.map OpHandle.opId
  | _ => True

/-- What holds between the steps. -/
structure Inv (s : LongRunningOps) : Prop where
  recoverable : s.Recoverable
  sound : ∀ call ∈ s.calls, Sound call

theorem inv_startOn (ops : OpTable) : Inv (startOn ops) where
  recoverable _ _ hrow _ := congrArg (Option.map artifacts) hrow
  sound _ hcall := absurd hcall not_mem_nil

variable {handle : OpHandle}

theorem Sound.visited {listed visited : List String} {todo : List OpHandle}
    (h : listed = visited ++ handle.opId :: todo.map OpHandle.opId) :
    Sound (.poll listed (visited ++ [handle.opId]) todo) := by
  rw [Sound, append_assoc]
  exact h

theorem Sound.afterStatus {listed visited : List String}
    {todo : List OpHandle} (h : listed = visited ++ handle.opId :: todo.map OpHandle.opId)
    (reply : Except String String) : Sound (afterStatus reply listed visited handle todo) := by
  unfold Operations.afterStatus
  split <;> first | exact h | exact Sound.visited h

theorem Sound.move {around : Surroundings} {call call' : OpCall} (h : Sound call)
    (hmove : (ops.move around call).2 = .goesOn call') : Sound call' := by
  cases call with
  | submit args =>
    obtain ⟨tenantId, -, hnext⟩ := after_eq_goesOn hmove
    split at hnext <;> cases hnext
    trivial
  | submitBackend args =>
    simp only [OpTable.move] at hmove
    split at hmove <;> cases hmove
    trivial
  | submitCreate args externalId =>
    simp only [OpTable.move] at hmove
    split at hmove
    · cases hmove
    · split at hmove <;> cases hmove
      rfl
  | submitHandle row =>
    obtain ⟨handle, -, hnext⟩ := after_eq_goesOn hmove
    cases hnext
  | cancel opId =>
    simp only [OpTable.move] at hmove
    split at hmove
    · cases hmove
    · obtain ⟨handle, -, hnext⟩ := after_eq_goesOn hmove
      cases hnext
      trivial
  | cancelBackend handle =>
    cases hmove
    trivial
  | cancelWrite opId => cases hmove
  | pollList =>
    obtain ⟨handles, hhandles, hnext⟩ := after_eq_goesOn hmove
    obtain rfl := OpOutcome.goesOn.inj hnext
    rw [eq_of_mapM_construct hhandles]
    rfl
  | poll listed visited todo =>
    cases todo with
    | nil => cases hmove
    | cons handle todo =>
      obtain rfl := OpOutcome.goesOn.inj hmove
      split
      · exact Sound.afterStatus h around.reply
      · exact Sound.visited h
  | pollFetch listed visited handle todo =>
    obtain rfl := OpOutcome.goesOn.inj hmove
    split
    · exact h
    · exact Sound.visited h
  | pollWrite listed visited handle todo report =>
    obtain rfl := OpOutcome.goesOn.inj hmove
    exact Sound.visited h

/-! ## The condition of a step -/

/-- What a step of a call has to meet: a row is inserted under a new identifier and with what
the posture asks of it, no posture is strict where a submission constructs its handle, every
active row passes where the rows are listed, a row that has come to its end is written with
the status it has, and the artifacts of an operation can be read again. -/
def MeetsMove (ops : OpTable) (around : Surroundings) : OpCall → Prop
  | .submitCreate args _ =>
    ¬ (around.posture.isStrict = true ∧ args.tenantId = "") ∧ ops.lookup around.uuid = none
  | .submitHandle _ => around.posture.isStrict = false
  | .pollList => ∀ row ∈ ops.active, row.Passes around.posture
  | .cancelWrite opId =>
    ∀ row, ops.lookup opId = some row → row.status.finished = true → row.status = .cancelled
  | .pollWrite _ _ handle _ report =>
    ∀ row, ops.lookup handle.opId = some row →
      (row.status.finished = true → row.status = report.status) ∧ report.Readable
  | _ => True

def Meets (s : LongRunningOps) : OpEvent → Prop
  | .call _ => True
  | .move index around => ∀ call, s.calls[index]? = some call → MeetsMove s.ops around call

variable {around : Surroundings} {index : Nat}

theorem Inv.unwritten {call : OpCall} (h : s.Inv)
    (hops : (s.ops.move around call).1 = s.ops) (hfetched : s.fetchedBy call = s.fetched) :
    Keeps s.ops (s.moveCall index around call).ops ∧
      (s.moveCall index around call).Recoverable := by
  constructor
  · rw [moveCall, hops]
    exact keeps_refl s.ops
  · intro opId row hrow hgood
    rw [moveCall, hops] at hrow
    rw [moveCall, hfetched]
    exact h.recoverable opId row hrow hgood

theorem Inv.inserted {row : OpHandle} (h : s.Inv) (hpending : row.status = .pending) :
    ∀ opId other, Table.lookup (s.ops.insertOrReplace row) opId = some other →
      other.status = .succeeded → s.fetched opId = some (artifacts other) := by
  intro opId other hother hgood
  rw [Table.lookup_insertOrReplace] at hother
  split at hother
  · obtain rfl := Option.some.inj hother
    rw [hpending] at hgood
    cases hgood
  · exact h.recoverable opId other hother hgood

theorem Inv.updated {set : Assignment OpHandle.opId} (h : s.Inv)
    (hset : ∀ row, (set.set row).status ≠ .succeeded) (opId : String) :
    ∀ other row, Table.lookup (s.ops.updateStatus opId set) other = some row →
      row.status = .succeeded → s.fetched other = some (artifacts row) := by
  intro other row hrow hgood
  rw [OpTable.updateStatus, Table.lookup_updateAt] at hrow
  split at hrow
  · obtain ⟨old, -, rfl⟩ := Option.map_eq_some_iff.mp hrow
    exact absurd hgood (hset old)
  · exact h.recoverable other row hrow hgood

theorem move_submitCreate {args : SubmitArgs} {externalId : String}
    (h : MeetsMove ops around (.submitCreate args externalId)) :
    ops.move around (.submitCreate args externalId) =
      (ops.insertOrReplace (newRow around args externalId),
        .goesOn (.submitHandle (newRow around args externalId))) := by
  simp only [OpTable.move]
  rw [if_neg h.1, h.2, Option.isSome_none, if_neg Bool.false_ne_true]

theorem submitCreate_raises {args : SubmitArgs} {externalId : String}
    (h : ¬ MeetsMove ops around (.submitCreate args externalId)) :
    ∃ error, (ops.move around (.submitCreate args externalId)).2 = .raises error := by
  simp only [OpTable.move]
  split
  · exact ⟨_, rfl⟩
  · rename_i htenant
    split
    · exact ⟨_, rfl⟩
    · rename_i hold
      exact absurd ⟨htenant, Option.not_isSome_iff_eq_none.mp hold⟩ h

theorem handled_submitHandle_iff {row : OpHandle} (hrun : row.runId = "") :
    Handled ops around (.submitHandle row) ↔ around.posture.isStrict = false := by
  have hpasses : row.Passes around.posture ↔ around.posture.isStrict = false := by
    refine or_iff_right fun hmissing => ?_
    rw [OpHandle.missing, hrun, if_pos rfl] at hmissing
    simp at hmissing
  rw [← hpasses]
  change (∀ error, OpOutcome.after (fun _ => .returns) (row.construct around.posture) ≠
    .raises error) ↔ _
  by_cases h : row.Passes around.posture
  · rw [OpHandle.construct_of_passes h]
    exact iff_of_true (fun error => OpOutcome.noConfusion) h
  · obtain ⟨error, herror⟩ := OpHandle.construct_of_not_passes h
    rw [herror]
    exact iff_of_false (fun hnone => hnone error rfl) h

theorem handled_pollList_iff :
    Handled ops around .pollList ↔ ∀ row ∈ ops.active, row.Passes around.posture := by
  change (∃ todo, OpOutcome.after
    (fun handles => .goesOn (.poll (ops.active.map OpHandle.opId) [] handles))
    (ops.active.mapM (OpHandle.construct around.posture)) = _) ↔ _
  by_cases h : ∀ row ∈ ops.active, row.Passes around.posture
  · rw [mapM_construct h]
    exact iff_of_true ⟨_, rfl⟩ h
  · obtain ⟨error, herror⟩ := mapM_construct_error h
    rw [herror]
    refine iff_of_false ?_ h
    rintro ⟨todo, hlist⟩
    cases hlist

theorem Inv.fetched_iff {artifacts : List String} (h : s.Inv) (now : Int) :
    (∀ opId row, Table.lookup (s.ops.updateStatus handle.opId
          ((Report.succeeded artifacts).assign now)) opId = some row → row.status = .succeeded →
          (if opId = handle.opId then some artifacts else s.fetched opId) =
            some (LongRunningOps.artifacts row)) ↔
      ∀ row, s.ops.lookup handle.opId = some row → (Report.succeeded artifacts).Readable := by
  constructor
  · intro hread row hrow
    have hnow := hread handle.opId (((Report.succeeded artifacts).assign now).set row)
      (by rw [OpTable.updateStatus, Table.lookup_updateAt, if_pos rfl, hrow]; rfl) rfl
    rw [if_pos rfl] at hnow
    exact (artifacts_assign_iff now artifacts row).mp (Option.some.inj hnow).symm
  · intro hreadable opId row hrow hgood
    rw [OpTable.updateStatus, Table.lookup_updateAt] at hrow
    split at hrow
    · rename_i hsame
      obtain ⟨old, hold, rfl⟩ := Option.map_eq_some_iff.mp hrow
      rw [if_pos hsame]
      exact congrArg some ((artifacts_assign_iff now artifacts old).mpr (hreadable old hold)).symm
    · rename_i hother
      rw [if_neg hother]
      exact h.recoverable opId row hrow hgood

theorem lawful_move_iff {call : OpCall} (h : s.Inv) (hcall : Sound call) :
    (Handled s.ops around call ∧ Keeps s.ops (s.moveCall index around call).ops ∧
      (s.moveCall index around call).Recoverable) ↔ MeetsMove s.ops around call := by
  cases call with
  | submitCreate args externalId =>
    by_cases hmeets : MeetsMove s.ops around (.submitCreate args externalId)
    · have hmove := move_submitCreate hmeets
      refine iff_of_true ⟨fun error => ?_, ?_, ?_⟩ hmeets
      · rw [hmove]
        exact OpOutcome.noConfusion
      · rw [moveCall, hmove]
        exact keeps_insert hmeets.2
      · rw [moveCall, hmove]
        exact h.inserted rfl
    · obtain ⟨error, herror⟩ := submitCreate_raises hmeets
      exact iff_of_false (fun hlawful => hlawful.1 error herror) hmeets
  | submitHandle row =>
    rw [handled_submitHandle_iff hcall]
    exact and_iff_left (h.unwritten rfl rfl)
  | cancelWrite opId =>
    have hrecoverable : (s.moveCall index around (.cancelWrite opId)).Recoverable :=
      h.updated (fun row => OpStatus.noConfusion) opId
    refine ⟨fun hlawful row hrow hended => ?_, fun hmeets => ⟨trivial, ?_, hrecoverable⟩⟩
    · exact (keeps_updateStatus_iff.mp hlawful.2.1 row hrow hended).symm
    · exact keeps_updateStatus_iff.mpr fun row hrow hended => (hmeets row hrow hended).symm
  | pollList =>
    rw [handled_pollList_iff]
    exact and_iff_left (h.unwritten rfl rfl)
  | poll listed visited todo =>
    have hops : (s.ops.move around (.poll listed visited todo)).1 = s.ops := by cases todo <;> rfl
    refine iff_of_true ⟨⟨fun error => ?_, ?_⟩, h.unwritten hops rfl⟩ trivial
    · cases todo <;> exact OpOutcome.noConfusion
    · rintro rfl opId hlisted
      have hlist : listed = visited ++ [] := hcall
      rwa [hlist, append_nil] at hlisted
  | pollFetch listed visited handle todo =>
    exact iff_of_true ⟨fun error => OpOutcome.noConfusion, h.unwritten rfl rfl⟩ trivial
  | pollWrite listed visited handle todo report =>
    have hkeeps : Keeps s.ops
          (s.moveCall index around (.pollWrite listed visited handle todo report)).ops ↔
        ∀ row, s.ops.lookup handle.opId = some row → row.status.finished = true →
          row.status = report.status := by
      refine keeps_updateStatus_iff.trans ?_
      have hstatus : ∀ row, ((report.assign around.now).set row).status = report.status :=
        fun row => by cases report <;> rfl
      simp only [hstatus, eq_comm]
    have hrecoverable :
        (s.moveCall index around (.pollWrite listed visited handle todo report)).Recoverable ↔
          ∀ row, s.ops.lookup handle.opId = some row → report.Readable := by
      cases report with
      | succeeded artifacts => exact h.fetched_iff around.now
      | _ =>
        exact iff_of_true (h.updated (fun row => OpStatus.noConfusion) _) fun _ _ => trivial
    rw [hkeeps, hrecoverable]
    exact ⟨fun hlawful row hrow => ⟨hlawful.2.1 row hrow, hlawful.2.2 row hrow⟩,
      fun hmeets => ⟨fun error => OpOutcome.noConfusion, fun row hrow => (hmeets row hrow).1,
        fun row hrow => (hmeets row hrow).2⟩⟩
  | _ => exact iff_of_true ⟨trivial, h.unwritten rfl rfl⟩ trivial

/-! ## Runs -/

theorem eq_goesOn_of_next {outcome : OpOutcome} {call : OpCall} (h : next outcome = some call) :
    outcome = .goesOn call := by
  cases outcome with
  | goesOn other => exact congrArg OpOutcome.goesOn (Option.some.inj h)
  | returns => cases h
  | raises error => cases h

/-- A step that meets the condition keeps every operation recoverable. -/
theorem Inv.step {event : OpEvent} (h : s.Inv) (hmeets : s.Meets event) : (s.step event).Inv := by
  cases event with
  | call method =>
    refine ⟨h.recoverable, fun call hcall => ?_⟩
    rcases mem_append.mp hcall with hold | hnew
    · exact h.sound call hold
    · rw [mem_singleton.mp hnew]
      cases method <;> trivial
  | move index around =>
    rw [LongRunningOps.step]
    cases hcall : s.calls[index]? with
    | none => exact h
    | some call =>
      have hsound := h.sound call (mem_of_getElem? hcall)
      refine ⟨((lawful_move_iff h hsound).mpr (hmeets call hcall)).2.2, fun other hother => ?_⟩
      rcases Roster.mem_advance hother with hold | hnext
      · exact h.sound other hold
      · exact hsound.move (eq_goesOn_of_next hnext)

theorem lawful_iff_meets {event : OpEvent} (h : s.Inv) : s.Lawful event ↔ s.Meets event := by
  cases event with
  | call method => exact iff_of_true ⟨trivial, keeps_refl s.ops, h.recoverable⟩ trivial
  | move index around =>
    rw [Lawful, Meets, LongRunningOps.step]
    cases hcall : s.calls[index]? with
    | none =>
      exact iff_of_true ⟨trivial, keeps_refl s.ops, h.recoverable⟩
        fun call hsome => (Option.some_ne_none call hsome.symm).elim
    | some call =>
      refine (lawful_move_iff h (h.sound call (mem_of_getElem? hcall))).trans ?_
      exact ⟨fun hmeets other hother => Option.some.inj hother ▸ hmeets,
        fun hmeets => hmeets call rfl⟩

/-- Over any rows, the law holds along exactly those runs whose steps all meet the condition. -/
theorem along_tracked_iff (ops : OpTable) (events : List OpEvent) :
    Along LongRunningOps.step Lawful (startOn ops) events ↔
      Along LongRunningOps.step Meets (startOn ops) events := by
  have hkeeps : ∀ s event, Inv s → Meets s event → Inv (s.step event) := fun _ _ => Inv.step
  have hsame : ∀ s event, Inv s → (Lawful s event ↔ Meets s event) := fun _ _ => lawful_iff_meets
  exact along_iff_along hkeeps hsame (inv_startOn ops) events

/-- What a submission under the posture `research` finds. -/
def research : Surroundings where
  posture := .research
  now := 1
  uuid := "op"
  backends := ["local"]
  reply := .ok "external"
  artifacts := .ok []

/-- The backend accepts the operation, and `submit` raises over the `run_id` it does not pass. -/
theorem not_along_tracked_submit : ¬ Along LongRunningOps.step Lawful (startOn .empty)
      [.call (.submit ⟨"local", "tenant", "project"⟩), .move 0 research, .move 0 research,
        .move 0 research, .move 0 research] := by
  rintro ⟨-, -, -, -, hhandle, -⟩
  exact hhandle.1 _ rfl

end LongRunningOps

end HiAgent.Operations
