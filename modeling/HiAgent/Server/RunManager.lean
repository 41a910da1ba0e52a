/-
  Server/RunManager.lean --- `create_run` of `hi_agent/server/run_manager.py`.

  One call is a function of the stores behind the manager and of what the call
  reads from its surroundings, the failures of the stores included. Its steps
  are the ones of the source, in their order.
-/
import HiAgent.Server.Idempotency
import HiAgent.Server.RunStateTransitions

namespace HiAgent.Server

open Foundation

/-! ## Data -/

/-- The fields of `TenantContext` that the manager reads. -/
structure TenantContext where
  tenantId : String
  userId : String
  sessionId : String

/-- `ManagedRun`. The ISO time stamps are clock readings. -/
structure ManagedRun where
  runId : String
  taskContract : PyDict
  tenantId : String
  state : RunState
  error : PyValue
  createdAt : Int
  updatedAt : Int
  finishedAt : Option Int
  userId : String
  sessionId : String
  projectId : PyValue
  idempotencyKey : Option PyValue
  startedAt : Option Int
  parentRunId : String
  attemptId : String
  phaseId : String
  profileId : String

/-- The fields a replay fills in the `ManagedRun` it returns. -/
structure ReplayStub where
  runId : String
  taskContract : PyDict
  tenantId : PyValue
  idempotencyKey : PyValue
  responseSnapshot : JsonText
  responseStatusCode : Int

/-- What `create_run` returns, by its `outcome`. -/
inductive CreateResult where
  | created (run : ManagedRun)
  | replayed (stub : ReplayStub)

/-- The exceptions of `create_run`. -/
inductive CreateRunError where
  | valueError (message : String)
  | runtimeError (message : String)
  /-- `TenantScopeError`. -/
  | tenantScope (message : String)
  | idempotency (error : IdempotencyError)
  /-- Raised by a conversion or by `sqlite3`. -/
  | raised (error : Raised)

/-- The stores behind a `RunManager`. -/
structure RunManager where
  runs : Table ManagedRun.runId
  idempotencyStore : Option IdempotencyStore
  runStore : Option RunStore
  runQueue : Option RunQueue

/-- Where `reserve_or_replay` may fail: at the first read, after the lazy purge
has been committed, or at the commit of the insert, when the row is already part
of the open transaction of the connection. -/
inductive ReserveFault where
  | select
  | insert
  | commit
  deriving DecidableEq

/-- Where a method that writes one statement may fail: at the statement, or at
its commit. -/
inductive WriteFault where
  | execute
  | commit
  deriving DecidableEq

/-- What a call of `create_run` reads from its surroundings. -/
structure CreateEnv where
  posture : Except String Posture
  /-- `repr()`. -/
  repr : PyValue → Except Raised String
  /-- The hexadecimal SHA-256 digest of a text. -/
  sha256 : String → String
  /-- The two `uuid4()` of the call. -/
  runId : String
  attemptId : String
  ticksPerSecond : Nat
  reservedAt : Int
  createdAt : Int
  persistedAt : Int
  queueCall : Call
  reserveFault : Option ReserveFault
  releaseFault : Option WriteFault
  upsertFault : Option WriteFault
  enqueueFault : Option WriteFault

/-- A statement and its commit: the answer, and what is there afterwards. -/
def attempt {α : Type} (fault : Option WriteFault) (before after : α) : Except Raised Unit × α :=
  match fault with
  | none => (.ok (), after)
  | some .execute => (.error .operationalError, before)
  | some .commit => (.error .operationalError, after)

/-! ## Tenant -/

/-- The `TenantScopeError` of a body tenant that differs from the workspace's. -/
def forgedTenant (env : CreateEnv) (body middleware : PyValue) : CreateRunError :=
  match env.repr body, env.repr middleware with
  | .ok body, .ok middleware =>
    .tenantScope ("RunManager.create_run: body tenant_id=" ++ body ++
      " differs from authenticated middleware tenant_id=" ++ middleware ++
      "; refusing under research/prod posture (W35-T3).")
  | .error error, _ => .raised error
  | .ok _, .error error => .raised error

/-- The tenant under which the stores are written: the workspace's, else the
body's, else `default` outside the strict postures. -/
def resolveTenant (env : CreateEnv) (contract : PyDict)
    (workspace : Option TenantContext) : Except CreateRunError PyValue :=
  match env.posture with
  | .error message => .error (.valueError message)
  | .ok posture =>
    if posture.isStrict && workspace.isNone then
      .error (.valueError ("authenticated workspace required under " ++
        "research/prod posture; pass a TenantContext via workspace="))
    else
      let middleware : PyValue := .str ((workspace.map (·.tenantId)).getD "")
      let body := contract.get "tenant_id" (.str "")
      if middleware.truthy && body.truthy && !body.eq middleware && posture.isStrict then
        .error (forgedTenant env body middleware)
      else if middleware.truthy then .ok middleware
      else if body.truthy then .ok body
      else if posture.isStrict then
        .error (.tenantScope ("RunManager.create_run: tenant_id is required " ++
          "under research/prod posture but neither task_contract.tenant_id nor " ++
          "workspace.tenant_id is set (T-12'/W35-T3)."))
      else .ok (.str "default")

/-! ## Idempotency slot -/

/-- `task_contract_dict.get("idempotency_key")`. -/
def idempotencyKey (contract : PyDict) : PyValue :=
  contract.get "idempotency_key" .none

/-- `task_contract_dict.get("project_id", "")`. -/
def projectId (contract : PyDict) : PyValue := contract.get "project_id" (.str "")

/-- `_hash_payload` of the contract without its key. -/
def requestHash (env : CreateEnv) (contract : PyDict) : Except Raised String :=
  (PyValue.dumps true (.dict (contract.without "idempotency_key"))).map env.sha256

/-- The slot that a tenant and a key are bound to: a `NULL` is no slot. -/
def boundSlot (tenant key : PyValue) : Except Raised (Option (String × String)) :=
  (PyValue.textColumn tenant).bind fun tenant =>
    (PyValue.textColumn key).map fun key =>
      tenant.bind fun tenant => key.map fun key => (tenant, key)

/-- The call of `reserve_or_replay` that `create_run` makes for a slot. -/
def reservation (env : CreateEnv) (workspace : Option TenantContext)
    (slot : String × String) (hash project : String) : Reservation where
  tenantId := slot.1
  idempotencyKey := slot.2
  requestHash := hash
  runId := env.runId
  ttlSeconds := 86400 * env.ticksPerSecond
  projectId := project
  userId := (workspace.map (·.userId)).getD ""
  sessionId := (workspace.map (·.sessionId)).getD ""
  execCtx := none

/-- The `RuntimeError` of an insert that failed although no row holds the slot. -/
def vanished (env : CreateEnv) (key : PyValue) : CreateRunError :=
  match env.repr key with
  | .ok key => .runtimeError
      ("idempotency record vanished after UNIQUE conflict for key=" ++ key)
  | .error error => .raised error

/-- `reserve_or_replay`, from the values of the request to the answer. -/
def reserve (env : CreateEnv) (store : IdempotencyStore) (contract : PyDict)
    (workspace : Option TenantContext) (tenant : PyValue) (hash : String) :
    Except CreateRunError (Outcome × IdempotencyRecord) × IdempotencyStore :=
  match boundSlot tenant (idempotencyKey contract) with
  | .error error => (.error (.raised error), store)
  | .ok none => (.error (vanished env (idempotencyKey contract)), store)
  | .ok (some slot) =>
    let purged := store.deleteAt slot (IdempotencyStore.expiredBy env.reservedAt)
    match env.reserveFault, PyValue.textColumn (projectId contract) with
    | some .select, _ => (.error (.raised .operationalError), store)
    | some .insert, _ => (.error (.raised .operationalError), purged)
    | _, .error error => (.error (.raised error), purged)
    | fault, .ok project =>
      if project.isNone && (purged.lookup slot).isNone then
        -- the constraint that failed is not the `UNIQUE` one
        (.error (vanished env (idempotencyKey contract)), purged)
      else
        let answer := store.reserveOrReplay env.posture env.reservedAt
          (reservation env workspace slot hash (project.getD ""))
        if fault = some .commit then
          (.error (.raised .operationalError), answer.2)
        else (answer.1.mapError .idempotency, answer.2)

/-! ## The run -/

/-- The spine fields of `ManagedRun.__post_init__` that are empty. -/
def ManagedRun.missing (runId : String) (tenantId : PyValue) : List String :=
  (if runId = "" then ["run_id"] else []) ++ (if tenantId.truthy then [] else ["tenant_id"])

/-- The message of the `ValueError` of a record without its spine. -/
def spineMessage (posture : Posture) (record : String) (missing : List String)
    (remedy : String) : String :=
  record ++ " constructed without required spine fields under posture=" ++
    posture.value ++ ": missing=" ++ printNames missing ++ ". " ++ remedy

/-- `ManagedRun.__post_init__`. -/
def ManagedRun.validate (env : CreateEnv) (runId : String) (tenantId : PyValue) :
    Except CreateRunError Unit :=
  match env.posture with
  | .error message => .error (.valueError message)
  | .ok posture =>
    if ManagedRun.missing runId tenantId ≠ [] ∧ posture.isStrict then
      .error (.valueError (spineMessage posture "ManagedRun"
        (ManagedRun.missing runId tenantId)
        "Populate tenant_id from the authenticated workspace (Rule 12)."))
    else .ok ()

/-- `run.tenant_id`: the workspace's tenant, and nothing without a workspace. -/
def runTenant (workspace : Option TenantContext) : String :=
  (workspace.map (·.tenantId)).getD ""

/-- The run that `create_run` builds. -/
def newRun (env : CreateEnv) (contract : PyDict) (workspace : Option TenantContext)
    (key : Option PyValue) : Except CreateRunError ManagedRun :=
  match PyValue.print env.repr (contract.get "phase_id" (.str "")),
      PyValue.print env.repr (contract.get "profile_id" (.str "")) with
  | .error error, _ => .error (.raised error)
  | .ok _, .error error => .error (.raised error)
  | .ok phaseId, .ok profileId =>
    (ManagedRun.validate env env.runId (.str (runTenant workspace))).map fun _ =>
      { phaseId, profileId
        runId := env.runId
        taskContract := contract
        tenantId := runTenant workspace
        state := .created
        error := .none
        createdAt := env.createdAt
        updatedAt := env.createdAt
        finishedAt := none
        userId := (workspace.map (·.userId)).getD ""
        sessionId := (workspace.map (·.sessionId)).getD ""
        projectId := projectId contract
        idempotencyKey := key
        startedAt := none
        parentRunId := ""
        attemptId := env.attemptId }

/-- The stub that a replay returns. -/
def replayStub (env : CreateEnv) (contract : PyDict) (tenant : PyValue)
    (record : IdempotencyRecord) : Except CreateRunError CreateResult :=
  (ManagedRun.validate env record.runId tenant).map fun _ =>
    .replayed
      { tenantId := tenant
        runId := record.runId
        taskContract := contract
        idempotencyKey := idempotencyKey contract
        responseSnapshot := record.responseSnapshot
        responseStatusCode := record.statusCode }

def owns (run : ManagedRun) (ctx : TenantContext) : Bool :=
  if run.tenantId != ctx.tenantId || run.userId != ctx.userId then false
  else if ctx.sessionId != "" then run.sessionId == ctx.sessionId
  else true

namespace RunManager

/-- `_task_id_exists_unlocked`. -/
def taskIdExists (manager : RunManager) (taskId : PyValue)
    (workspace : Option TenantContext) : Bool :=
  manager.runs.rows.any fun run =>
    (run.taskContract.get "task_id" .none).eq taskId && (workspace.all fun ctx => owns run ctx)

/-- The duplicate check of `create_run`. -/
def duplicate (manager : RunManager) (contract : PyDict)
    (workspace : Option TenantContext) : Bool :=
  let taskId := contract.get "task_id" (.str "")
  taskId.truthy && manager.taskIdExists taskId workspace

/-! ## Persistence -/

/-- The `RunRecord` of a new run. -/
def runRecord (env : CreateEnv) (contract : PyDict)
    (workspace : Option TenantContext) (tenant : PyValue) (run : ManagedRun) :
    Except CreateRunError RunRecord :=
  match PyValue.dumps false (.dict contract), (contract.get "priority" (.int 5)).toInt with
  | .error error, _ => .error (.raised error)
  | .ok _, .error error => .error (.raised error)
  | .ok taskContractJson, .ok priority =>
    let record : RunRecord :=
      { taskContractJson, priority
        runId := run.runId
        tenantId := tenant
        userId := (workspace.map (·.userId)).getD "__legacy__"
        sessionId := (workspace.map (·.sessionId)).getD "__legacy__"
        status := .queued
        attemptCount := 0
        cancellationFlag := false
        resultSummary := ""
        errorSummary := ""
        createdAt := env.persistedAt
        updatedAt := env.persistedAt
        projectId := projectId contract
        finishedAt := 0
        parentRunId := ""
        attemptId := run.attemptId
        phaseId := run.phaseId }
    match env.posture with
    | .error message => .error (.valueError message)
    | .ok posture =>
      if record.missing ≠ [] ∧ posture.isStrict then
        .error (.valueError (spineMessage posture "RunRecord" record.missing
          "Populate the fields at the construction site (Rule 12)."))
      else .ok record

/-- The context that goes with the record. -/
def runStoreContext (env : CreateEnv) (contract : PyDict)
    (workspace : Option TenantContext) (tenant : PyValue) : RunStoreContext where
  tenantId := tenant
  userId := (workspace.map (·.userId)).getD ""
  sessionId := (workspace.map (·.sessionId)).getD ""
  projectId := projectId contract
  runId := env.runId

/-- `run_queue.enqueue`, from the values of the request: a value that may not be
`NULL` makes `INSERT OR IGNORE` skip the row. -/
def enqueueRun (env : CreateEnv) (queue : RunQueue) (contract : PyDict)
    (workspace : Option TenantContext) (tenant : PyValue) (runId : String) :
    Except Raised RunQueue :=
  (contract.get "priority" (.int 5)).toInt.bind fun priority =>
    (PyValue.dumps false (.dict contract)).bind fun payloadJson =>
      (PyValue.integerColumn priority).bind fun priority =>
        (PyValue.textColumn tenant).bind fun tenant =>
          (PyValue.textColumn (projectId contract)).map fun project =>
            match tenant, project with
            | some tenant, some project =>
              queue.enqueue env.queueCall runId priority payloadJson tenant
                ((workspace.map (·.userId)).getD "")
                ((workspace.map (·.sessionId)).getD "") project
            | _, _ => queue

/-- The last step of `create_run`. -/
def putInQueue (manager : RunManager) (env : CreateEnv) (contract : PyDict)
    (workspace : Option TenantContext) (tenant : PyValue) (run : ManagedRun) :
    Except CreateRunError CreateResult × RunManager :=
  match manager.runQueue with
  | none => (.ok (.created run), manager)
  | some queue =>
    match enqueueRun env queue contract workspace tenant run.runId with
    | .error error => (.error (.raised error), manager)
    | .ok enqueued =>
      let (answer, written) := attempt env.enqueueFault queue enqueued
      ((answer.mapError .raised).map fun _ => .created run,
        { manager with runQueue := some written })

/-- The steps of `create_run` after the run has been registered. -/
def persist (manager : RunManager) (env : CreateEnv) (contract : PyDict)
    (workspace : Option TenantContext) (tenant : PyValue) (run : ManagedRun) :
    Except CreateRunError CreateResult × RunManager :=
  match manager.runStore with
  | none => manager.putInQueue env contract workspace tenant run
  | some store =>
    match runRecord env contract workspace tenant run with
    | .error error => (.error error, manager)
    | .ok record =>
      match (record.resolved
          (some (runStoreContext env contract workspace tenant))).row with
      | .error error => (.error (.raised error), manager)
      | .ok row =>
        match attempt env.upsertFault store (store.insertOrReplace row) with
        | (.error error, written) =>
          (.error (.raised error), { manager with runStore := some written })
        | (.ok _, written) =>
          { manager with runStore := some written }.putInQueue env contract
            workspace tenant run

/-! ## `create_run` -/

/-- The `ValueError` of a task id that is taken. -/
def duplicateTask (env : CreateEnv) (contract : PyDict) : CreateRunError :=
  match PyValue.print env.repr (contract.get "task_id" (.str "")) with
  | .ok taskId => .valueError
      ("run with task_id '" ++ taskId ++ "' already exists in workspace")
  | .error error => .raised error

/-- The rejection of a duplicate task id, which gives a reserved slot back. -/
def rejectDuplicate (manager : RunManager) (env : CreateEnv) (contract : PyDict)
    (tenant : PyValue) (key : Option PyValue) :
    Except CreateRunError CreateResult × RunManager :=
  match manager.idempotencyStore, key with
  | some store, some key =>
    match boundSlot tenant key with
    | .error error => (.error (.raised error), manager)
    | .ok none => (.error (duplicateTask env contract), manager)
    | .ok (some slot) =>
      match attempt env.releaseFault store (store.release slot.1 slot.2) with
      | (.error error, written) =>
        (.error (.raised error), { manager with idempotencyStore := some written })
      | (.ok _, written) =>
        (.error (duplicateTask env contract), { manager with idempotencyStore := some written })
  | _, _ => (.error (duplicateTask env contract), manager)

/-- The steps of `create_run` after the idempotency check. -/
def register (manager : RunManager) (env : CreateEnv) (contract : PyDict)
    (workspace : Option TenantContext) (tenant : PyValue) (key : Option PyValue) :
    Except CreateRunError CreateResult × RunManager :=
  match newRun env contract workspace key with
  | .error error => (.error error, manager)
  | .ok run =>
    if manager.duplicate contract workspace then
      manager.rejectDuplicate env contract tenant key
    else
      { manager with runs := manager.runs.insertOrReplace run }.persist env contract
        workspace tenant run

def slotStore (manager : RunManager) (contract : PyDict) : Option IdempotencyStore :=
  manager.idempotencyStore.filter fun _ => (idempotencyKey contract).truthy

def createRun (manager : RunManager) (env : CreateEnv) (contract : PyDict)
    (workspace : Option TenantContext) :
    Except CreateRunError CreateResult × RunManager :=
  match resolveTenant env contract workspace with
  | .error error => (.error error, manager)
  | .ok tenant =>
    match manager.slotStore contract with
    | none => manager.register env contract workspace tenant none
    | some store =>
      match requestHash env contract with
      | .error error => (.error (.raised error), manager)
      | .ok hash =>
        let answer := reserve env store contract workspace tenant hash
        let manager := { manager with idempotencyStore := some answer.2 }
        match answer.1 with
        | .error error => (.error error, manager)
        | .ok (.conflict, _) =>
          (.error (.valueError "idempotency_conflict"), manager)
        | .ok (.replayed, record) =>
          (replayStub env contract tenant record, manager)
        | .ok (.created, _) =>
          manager.register env contract workspace tenant
            (some (idempotencyKey contract))

end RunManager

/-! ## The slot -/

def IdempotencyStore.Within (after before : IdempotencyStore) : Prop :=
  ∀ slot record, after.lookup slot = some record → before.lookup slot = some record

theorem IdempotencyStore.Within.refl (store : IdempotencyStore) :
    store.Within store := fun _ _ h => h

theorem IdempotencyStore.within_deleteAt (store : IdempotencyStore)
    (slot : String × String) (p : IdempotencyRecord → Bool) :
    IdempotencyStore.Within (store.deleteAt slot p) store := by
  intro k record h
  rw [Table.lookup_deleteAt] at h
  split at h
  · subst k
    exact (Option.filter_eq_some_iff.mp h).1
  · exact h

/-- The call finds its slot free and has the values that the new row needs. -/
structure Reserves (env : CreateEnv) (store : IdempotencyStore) (contract : PyDict)
    (tenant : PyValue) (slot : String × String) (project : String) : Prop where
  bound : boundSlot tenant (idempotencyKey contract) = .ok (some slot)
  column : PyValue.textColumn (projectId contract) = .ok (some project)
  free : ∀ existing, store.lookup slot = some existing → existing.expiresAt < env.reservedAt

section Reserve

variable {env : CreateEnv} {store : IdempotencyStore} {contract : PyDict}
variable {workspace : Option TenantContext} {tenant : PyValue} {hash : String}
variable {slot : String × String} {project : String}

def insertedRecord (env : CreateEnv) (workspace : Option TenantContext)
    (slot : String × String) (hash project : String) : IdempotencyRecord :=
  (reservation env workspace slot hash project).record env.reservedAt

/-- The store with that record. -/
def insertedStore (env : CreateEnv) (store : IdempotencyStore)
    (workspace : Option TenantContext) (slot : String × String)
    (hash project : String) : IdempotencyStore :=
  Table.insertOrIgnore
    (store.deleteAt slot (IdempotencyStore.expiredBy env.reservedAt))
    (insertedRecord env workspace slot hash project)

theorem reserve_of_reserves (h : Reserves env store contract tenant slot project)
    (hselect : env.reserveFault ≠ some .select) (hinsert : env.reserveFault ≠ some .insert) :
    reserve env store contract workspace tenant hash = (if env.reserveFault = some .commit then
          .error (.raised .operationalError)
        else (((insertedRecord env workspace slot hash project).validate
          env.posture).map (Outcome.created, ·)).mapError .idempotency,
        insertedStore env store workspace slot hash project) := by
  have hanswer : store.reserveOrReplay env.posture env.reservedAt
      (reservation env workspace slot hash project) = _ :=
    IdempotencyStore.reserveOrReplay_of_free h.free
  unfold reserve
  simp only [h.bound, h.column, Option.isNone_some, Bool.false_and,
    Bool.false_eq_true, if_false, Option.getD_some, hanswer]
  split
  · rfl
  · rfl

theorem reserve_of_not_reserves
    (h : (∀ slot project, ¬ Reserves env store contract tenant slot project) ∨
      env.reserveFault = some .select ∨ env.reserveFault = some .insert) :
    (reserve env store contract workspace tenant hash).2.Within store ∧
      ∀ record, (reserve env store contract workspace tenant hash).1 ≠ .ok (.created, record) := by
  unfold reserve
  split
  · exact ⟨.refl store, fun _ h => by cases h⟩
  · exact ⟨.refl store, fun _ h => by cases h⟩
  · rename_i slot hslot
    have hpurged := store.within_deleteAt slot
      (IdempotencyStore.expiredBy env.reservedAt)
    simp only
    split
    · exact ⟨.refl store, fun _ h => by cases h⟩
    · exact ⟨hpurged, fun _ h => by cases h⟩
    · exact ⟨hpurged, fun _ h => by cases h⟩
    · rename_i project hproject hselect hinsert
      split
      · exact ⟨hpurged, fun _ h => by cases h⟩
      · rename_i hnot
        rcases IdempotencyStore.fresh_or_free store slot env.reservedAt with
          ⟨existing, hlookup, hfresh⟩ | hfree
        · -- the slot is taken, and the call is answered from its record
          have hanswer : store.reserveOrReplay env.posture env.reservedAt
              (reservation env workspace slot hash (project.getD "")) = _ :=
            IdempotencyStore.reserveOrReplay_of_fresh hlookup hfresh
          have hne : ∀ record, (store.reserveOrReplay env.posture env.reservedAt
              (reservation env workspace slot hash (project.getD ""))).1 ≠ .ok (.created, record) :=
            IdempotencyStore.reserveOrReplay_ne_created hlookup hfresh
          split
          · refine ⟨?_, fun _ h => by cases h⟩
            rw [hanswer]
            exact .refl store
          · refine ⟨?_, fun record hcreated => hne record ?_⟩
            · rw [hanswer]
              exact .refl store
            · exact mapError_eq_ok_iff.mp hcreated
        · -- the slot is free, so the call would reserve it
          cases project with
          | none =>
            rw [IdempotencyStore.lookup_purged hfree] at hnot
            exact absurd rfl hnot
          | some project =>
            rcases h with htakes | hfault | hfault
            · exact absurd ⟨hslot, hproject, hfree⟩ (htakes slot project)
            · exact absurd hfault hselect
            · exact absurd hfault hinsert

section

variable (h : Reserves env store contract tenant slot project)
include h

theorem lookup_insertedStore (k : String × String) :
    (insertedStore env store workspace slot hash project).lookup k =
      if k = slot then some (insertedRecord env workspace slot hash project)
      else store.lookup k := by
  have hslot : (insertedRecord env workspace slot hash project).slot = slot := rfl
  unfold insertedStore
  rw [Table.lookup_insertOrIgnore, hslot]
  split
  · subst k
    rw [IdempotencyStore.lookup_purged h.free, Option.getD_none]
  · rw [Table.lookup_deleteAt, if_neg ‹_›]

theorem not_within_insertedStore :
    ¬ (insertedStore env store workspace slot hash project).Within store := by
  intro hwithin
  have hnew : (insertedStore env store workspace slot hash project).lookup slot =
      some (insertedRecord env workspace slot hash project) := by
    rw [lookup_insertedStore h, if_pos rfl]
  have hexpired := h.free _ (hwithin slot _ hnew)
  have hexpires : (insertedRecord env workspace slot hash project).expiresAt =
      env.reservedAt + 86400 * env.ticksPerSecond := rfl
  omega

theorem within_release :
    ((insertedStore env store workspace slot hash project).release slot.1 slot.2).Within store := by
  intro k record hrecord
  unfold IdempotencyStore.release at hrecord
  rw [Table.lookup_deleteAt] at hrecord
  split at hrecord
  · rw [lookup_insertedStore h, if_pos rfl] at hrecord
    cases hrecord
  · rename_i hne
    rwa [lookup_insertedStore h, if_neg hne] at hrecord

end

end Reserve

/-! ## The run -/

/-- The run can be built: the two texts print, and a strict posture is given a
workspace that names its tenant. -/
structure Built (env : CreateEnv) (contract : PyDict)
    (workspace : Option TenantContext) : Prop where
  phase : Succeeds (PyValue.print env.repr (contract.get "phase_id" (.str "")))
  profile : Succeeds (PyValue.print env.repr (contract.get "profile_id" (.str "")))
  spine : ∀ posture, env.posture = .ok posture → posture.isStrict = true → runTenant workspace ≠ ""

section Run

variable {env : CreateEnv} {contract : PyDict} {workspace : Option TenantContext}
variable {key : Option PyValue} {posture : Posture}

theorem validate_succeeds_iff (hposture : env.posture = .ok posture) {runId : String}
    (hrun : runId ≠ "") (tenant : PyValue) : Succeeds (ManagedRun.validate env runId tenant) ↔
      (posture.isStrict = true → tenant.truthy = true) := by
  unfold ManagedRun.validate ManagedRun.missing
  rw [hposture]
  simp only [if_neg hrun, List.nil_append]
  cases htenant : tenant.truthy <;> cases hstrict : posture.isStrict <;> simp

theorem newRun_succeeds_iff (hposture : env.posture = .ok posture) (hrun : env.runId ≠ "") :
    Succeeds (newRun env contract workspace key) ↔ Built env contract workspace := by
  have hspine : Succeeds (ManagedRun.validate env env.runId
      (.str (runTenant workspace))) ↔
        ∀ posture, env.posture = .ok posture → posture.isStrict = true →
          runTenant workspace ≠ "" := by
    rw [validate_succeeds_iff hposture hrun, hposture]
    simp [PyValue.truthy]
  unfold newRun
  constructor
  · intro h
    split at h
    · exact absurd h (not_succeeds_error _)
    · exact absurd h (not_succeeds_error _)
    · rename_i hphase hprofile
      exact ⟨⟨_, hphase⟩, ⟨_, hprofile⟩, hspine.mp (succeeds_map_iff.mp h)⟩
  · rintro ⟨⟨phase, hphase⟩, ⟨profile, hprofile⟩, h⟩
    simp only [hphase, hprofile]
    exact succeeds_map_iff.mpr (hspine.mpr h)

theorem runId_of_newRun {run : ManagedRun}
    (h : newRun env contract workspace key = .ok run) : run.runId = env.runId := by
  unfold newRun at h
  split at h
  · cases h
  · cases h
  · obtain ⟨_, _, rfl⟩ := map_eq_ok_iff.mp h
    rfl

end Run

/-! ## Persistence -/

/-- The conversions on the way to a row go through. -/
structure Convertible (contract : PyDict) (tenant : PyValue) : Prop where
  json : Succeeds (PyValue.dumps false (.dict contract))
  priority : Succeeds
    ((contract.get "priority" (.int 5)).toInt.bind PyValue.integerColumn)
  tenant : Succeeds (PyValue.textColumn tenant)
  project : Succeeds (PyValue.textColumn (projectId contract))

namespace RunManager

/-- The stores that are there take the run. -/
structure Accepts (manager : RunManager) (env : CreateEnv) (contract : PyDict)
    (tenant : PyValue) : Prop where
  runStore : manager.runStore.isSome = true → Convertible contract tenant ∧
    PyValue.textColumn tenant ≠ .ok none ∧
    PyValue.textColumn (projectId contract) ≠ .ok none ∧ env.upsertFault = none
  runQueue : manager.runQueue.isSome = true → Convertible contract tenant ∧ env.enqueueFault = none

section Persist

variable {manager : RunManager} {env : CreateEnv} {contract : PyDict}
variable {workspace : Option TenantContext} {tenant : PyValue} {run : ManagedRun}
variable {posture : Posture}

theorem attempt_succeeds_iff {α : Type} {fault : Option WriteFault} {before after : α} :
    Succeeds (attempt fault before after).1 ↔ fault = none := by
  unfold attempt
  split
  · simp
  · simp
  · simp

theorem attempt_snd {α : Type} (fault : Option WriteFault) (before after : α) :
    (attempt fault before after).2 = if fault = some .execute then before else after := by
  unfold attempt
  split
  · rfl
  · rfl
  · rfl

theorem enqueueRun_succeeds_iff {queue : RunQueue} {runId : String} :
    Succeeds (enqueueRun env queue contract workspace tenant runId) ↔
      Convertible contract tenant := by
  unfold enqueueRun
  simp only [succeeds_bind_iff, succeeds_map_iff]
  constructor
  · rintro ⟨priority, hrank, json, hjson, number, hnumber, column, htenant, hproject⟩
    exact ⟨⟨json, hjson⟩, succeeds_bind_iff.mpr ⟨priority, hrank, number, hnumber⟩,
      ⟨column, htenant⟩, hproject⟩
  · rintro ⟨⟨json, hjson⟩, hnumber, ⟨column, htenant⟩, hproject⟩
    obtain ⟨priority, hrank, number, hnumber⟩ := succeeds_bind_iff.mp hnumber
    exact ⟨priority, hrank, json, hjson, number, hnumber, column, htenant, hproject⟩

theorem putInQueue_succeeds_iff :
    Succeeds (manager.putInQueue env contract workspace tenant run).1 ↔
      (manager.runQueue.isSome = true → Convertible contract tenant ∧ env.enqueueFault = none) := by
  unfold putInQueue
  split
  · rename_i hqueue
    simp [hqueue]
  · rename_i queue hqueue
    simp only [hqueue, Option.isSome_some, forall_const]
    split
    · rename_i error hfailed
      have hnot : ¬ Convertible contract tenant := by
        rw [← enqueueRun_succeeds_iff, hfailed]
        exact not_succeeds_error error
      exact iff_of_false (not_succeeds_error _) fun h => hnot h.1
    · rename_i enqueued henqueued
      have hconvertible := enqueueRun_succeeds_iff.mp ⟨enqueued, henqueued⟩
      change Succeeds (((attempt env.enqueueFault queue enqueued).1.mapError _).map _) ↔ _
      rw [succeeds_map_iff, succeeds_mapError_iff, attempt_succeeds_iff]
      simp [hconvertible]

theorem of_runRecord {record : RunRecord}
    (h : runRecord env contract workspace tenant run = .ok record) :
    Succeeds (PyValue.dumps false (.dict contract)) ∧
      (contract.get "priority" (.int 5)).toInt = .ok record.priority ∧
      record.tenantId = tenant ∧ record.projectId = projectId contract := by
  unfold runRecord at h
  split at h
  · cases h
  · cases h
  · rename_i json priority hjson hrank
    simp only at h
    split at h
    · cases h
    · split at h
      · cases h
      · obtain rfl := Except.ok.inj h
        exact ⟨⟨json, hjson⟩, hrank, rfl, rfl⟩

theorem runRecord_succeeds (hposture : env.posture = .ok posture)
    (hrun : run.runId ≠ "") (htenant : tenant.truthy = true)
    (hjson : Succeeds (PyValue.dumps false (.dict contract)))
    (hrank : Succeeds (contract.get "priority" (.int 5)).toInt) :
    Succeeds (runRecord env contract workspace tenant run) := by
  obtain ⟨json, hjson⟩ := hjson
  obtain ⟨priority, hrank⟩ := hrank
  unfold runRecord
  simp [hjson, hrank, hposture, RunRecord.missing, hrun, htenant]

theorem row_succeeds_iff {record : RunRecord} (htenant : record.tenantId = tenant)
    (hproject : record.projectId = projectId contract) : Succeeds (record.resolved
        (some (runStoreContext env contract workspace tenant))).row ↔
      Succeeds (PyValue.integerColumn record.priority) ∧
        (∃ text, PyValue.textColumn tenant = .ok (some text)) ∧
        ∃ text, PyValue.textColumn (projectId contract) = .ok (some text) := by
  have hnull : ∀ column, Succeeds (PyValue.notNull column) ↔ ∃ text, column = some text := by
    intro column
    cases column with
    | _ => simp [PyValue.notNull]
  unfold RunRecord.row RunRecord.resolved runStoreContext
  simp only [htenant, hproject, ite_self, succeeds_bind_iff, succeeds_map_iff]
  constructor
  · rintro ⟨column, hcolumn, number, hnumber, column', hcolumn', text, htext, htext'⟩
    obtain ⟨text, rfl⟩ := (hnull column).mp ⟨text, htext⟩
    obtain ⟨text', rfl⟩ := (hnull column').mp htext'
    exact ⟨⟨number, hnumber⟩, ⟨text, hcolumn⟩, text', hcolumn'⟩
  · rintro ⟨⟨number, hnumber⟩, ⟨text, hcolumn⟩, text', hcolumn'⟩
    exact ⟨_, hcolumn, number, hnumber, _, hcolumn', text, rfl, (hnull _).mpr ⟨_, rfl⟩⟩

theorem exists_text_iff {value : PyValue} : (∃ text, PyValue.textColumn value = .ok (some text)) ↔
      Succeeds (PyValue.textColumn value) ∧ PyValue.textColumn value ≠ .ok none := by
  constructor
  · rintro ⟨text, h⟩
    exact ⟨⟨_, h⟩, by simp [h]⟩
  · rintro ⟨⟨column, h⟩, hne⟩
    cases column with
    | none => exact absurd h hne
    | some text => exact ⟨text, h⟩

theorem exists_row_iff (hposture : env.posture = .ok posture)
    (hrun : run.runId ≠ "") (htenant : tenant.truthy = true) :
    (∃ record, runRecord env contract workspace tenant run = .ok record ∧ Succeeds (record.resolved
          (some (runStoreContext env contract workspace tenant))).row) ↔
      Convertible contract tenant ∧ PyValue.textColumn tenant ≠ .ok none ∧
        PyValue.textColumn (projectId contract) ≠ .ok none := by
  constructor
  · rintro ⟨record, hrecord, hrow⟩
    obtain ⟨hjson, hrank, hrecordTenant, hrecordProject⟩ := of_runRecord hrecord
    rw [row_succeeds_iff hrecordTenant hrecordProject, exists_text_iff, exists_text_iff] at hrow
    obtain ⟨hfits, ⟨hbound, htext⟩, hprojectBound, hproject⟩ := hrow
    exact ⟨⟨hjson, succeeds_bind_iff.mpr ⟨_, hrank, hfits⟩, hbound,
      hprojectBound⟩, htext, hproject⟩
  · rintro ⟨⟨hjson, hrank, hbound, hprojectBound⟩, htext, hproject⟩
    obtain ⟨priority, hrank, hfits⟩ := succeeds_bind_iff.mp hrank
    have hsucceeds : Succeeds (runRecord env contract workspace tenant run) :=
      runRecord_succeeds hposture hrun htenant hjson ⟨priority, hrank⟩
    obtain ⟨record, hrecord⟩ := hsucceeds
    obtain ⟨_, hpriority', hrecordTenant, hrecordProject⟩ := of_runRecord hrecord
    obtain rfl := Except.ok.inj (hrank.symm.trans hpriority')
    refine ⟨record, hrecord, ?_⟩
    rw [row_succeeds_iff hrecordTenant hrecordProject, exists_text_iff, exists_text_iff]
    exact ⟨hfits, ⟨hbound, htext⟩, hprojectBound, hproject⟩

theorem persist_succeeds_iff (hposture : env.posture = .ok posture)
    (hrun : run.runId ≠ "") (htenant : tenant.truthy = true) :
    Succeeds (manager.persist env contract workspace tenant run).1 ↔
      manager.Accepts env contract tenant := by
  have hexists : (∃ record, runRecord env contract workspace tenant run = .ok record ∧
      Succeeds (record.resolved
        (some (runStoreContext env contract workspace tenant))).row) ↔ _ :=
    exists_row_iff hposture hrun htenant
  unfold persist
  split
  · rename_i hstore
    rw [putInQueue_succeeds_iff]
    exact ⟨fun h => ⟨by simp [hstore], h⟩, fun h => h.runQueue⟩
  · rename_i store hstore
    have hsome : manager.runStore.isSome = true := by simp [hstore]
    have hneeds : manager.Accepts env contract tenant → _ := fun h =>
      have hstored := h.runStore hsome
      hexists.mpr ⟨hstored.1, hstored.2.1, hstored.2.2.1⟩
    split
    · rename_i error hfailed
      refine iff_of_false (not_succeeds_error error) fun h => ?_
      obtain ⟨record, hrecord, _⟩ := hneeds h
      cases hfailed.symm.trans hrecord
    · rename_i record hrecord
      split
      · rename_i error hfailed
        refine iff_of_false (not_succeeds_error _) fun h => ?_
        obtain ⟨_, hsame, hrow⟩ := hneeds h
        obtain rfl := Except.ok.inj (hrecord.symm.trans hsame)
        rw [hfailed] at hrow
        exact not_succeeds_error error hrow
      · rename_i row hrow
        obtain ⟨hconvertible, htext, hproject⟩ :=
          hexists.mp ⟨record, hrecord, row, hrow⟩
        have hwrite : Succeeds (attempt env.upsertFault store
            (Table.insertOrReplace store row)).1 ↔ env.upsertFault = none :=
          attempt_succeeds_iff
        split
        · rename_i error written hfailed
          rw [hfailed] at hwrite
          exact iff_of_false (not_succeeds_error _) fun h =>
            not_succeeds_error error (hwrite.mpr (h.runStore hsome).2.2.2)
        · rename_i done written hwritten
          rw [hwritten] at hwrite
          have hfault := hwrite.mp (succeeds_ok done)
          rw [putInQueue_succeeds_iff]
          exact ⟨fun h => ⟨fun _ => ⟨hconvertible, htext, hproject, hfault⟩, h⟩,
            fun h => h.runQueue⟩

theorem persist_frame : (manager.persist env contract workspace tenant run).2.runs = manager.runs ∧
      (manager.persist env contract workspace tenant run).2.idempotencyStore =
        manager.idempotencyStore := by
  have hput : ∀ m : RunManager, (m.putInQueue env contract workspace tenant run).2.runs = m.runs ∧
        (m.putInQueue env contract workspace tenant run).2.idempotencyStore =
          m.idempotencyStore := by
    intro m
    unfold putInQueue
    split
    · exact ⟨rfl, rfl⟩
    · split
      · exact ⟨rfl, rfl⟩
      · exact ⟨rfl, rfl⟩
  unfold persist
  split
  · exact hput manager
  · split
    · exact ⟨rfl, rfl⟩
    · split
      · exact ⟨rfl, rfl⟩
      · split
        · exact ⟨rfl, rfl⟩
        · exact hput _

theorem eq_of_persist {result : CreateResult}
    (h : (manager.persist env contract workspace tenant run).1 = .ok result) :
    result = .created run := by
  have hput : ∀ m : RunManager, (m.putInQueue env contract workspace tenant run).1 = .ok result →
        result = .created run := by
    intro m hm
    unfold putInQueue at hm
    split at hm
    · exact (Except.ok.inj hm).symm
    · split at hm
      · cases hm
      · obtain ⟨_, _, hcreated⟩ := map_eq_ok_iff.mp hm
        exact hcreated.symm
  unfold persist at h
  split at h
  · exact hput manager h
  · split at h
    · cases h
    · split at h
      · cases h
      · split at h
        · cases h
        · exact hput _ h

end Persist

end RunManager

end HiAgent.Server
