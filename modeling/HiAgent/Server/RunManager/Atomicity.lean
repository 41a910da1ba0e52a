/-
  Server/RunManager/Atomicity.lean --- what a failed `create_run` leaves behind.

  A call that raises leaves nothing behind exactly when it raises before its slot is reserved, or
  at the duplicate check, whose rejection gives the slot back.
-/
import HiAgent.Server.RunManager

namespace HiAgent.Server.RunManager

open Foundation

/-! ## What a call leaves behind -/

def withIdempotencyStore (manager : RunManager) (store : IdempotencyStore) :
    RunManager := { manager with idempotencyStore := some store }

def held (manager : RunManager) (slot : String × String) :
    Option IdempotencyRecord := manager.idempotencyStore.bind (·.lookup slot)

def runRow (manager : RunManager) (runId : String) : Option RunRow :=
  manager.runStore.bind (·.lookup runId)

def queueRow (manager : RunManager) (runId : String) : Option QueueRow :=
  manager.runQueue.bind (·.runQueue.lookup runId)

/-- A run id nothing is stored under yet. -/
structure FreshId (manager : RunManager) (runId : String) : Prop where
  ne : runId ≠ ""
  run : manager.runs.lookup runId = none
  runRow : manager.runRow runId = none
  queueRow : manager.queueRow runId = none

/-- Nothing of a run is there: no idempotency record that was not there before,
no registered run, no run record and no queue row. -/
structure LeavesNothing (runId : String) (before after : RunManager) : Prop where
  records : ∀ slot record, after.held slot = some record → before.held slot = some record
  run : after.runs.lookup runId = none
  runRow : after.runRow runId = none
  queueRow : after.queueRow runId = none

def Clean (env : CreateEnv) (before : RunManager)
    (result : Except CreateRunError CreateResult × RunManager) : Prop :=
  ∀ error, result.1 = .error error → LeavesNothing env.runId before result.2

/-- Past the reservation of a slot nothing raises but the duplicate check, which
gives the slot back; without a slot nothing raises past the registration. -/
structure FailsClean (manager : RunManager) (env : CreateEnv) (contract : PyDict)
    (workspace : Option TenantContext) (tenant : PyValue) : Prop where
  reserved : ∀ store slot project, manager.slotStore contract = some store →
    Succeeds (requestHash env contract) →
    Reserves env store contract tenant slot project → env.reserveFault ≠ some .commit ∧
        (env.reserveFault = none → Built env contract workspace ∧
          (manager.duplicate contract workspace = true → env.releaseFault ≠ some .execute) ∧
          (manager.duplicate contract workspace = false → manager.Accepts env contract tenant))
  unreserved : manager.slotStore contract = none → Built env contract workspace →
    manager.duplicate contract workspace = false → manager.Accepts env contract tenant

section Register

variable {manager before : RunManager} {env : CreateEnv} {contract : PyDict}
variable {workspace : Option TenantContext} {tenant : PyValue}
variable {key : Option PyValue} {store : IdempotencyStore}

theorem leavesNothing_of_within (hfresh : before.FreshId env.runId)
    (hheld : ∀ slot record, manager.held slot = some record → before.held slot = some record)
    (hruns : manager.runs = before.runs) (hstore : manager.runStore = before.runStore)
    (hqueue : manager.runQueue = before.runQueue) : LeavesNothing env.runId before manager where
  records := hheld
  run := hruns ▸ hfresh.run
  runRow := by
    have h := hfresh.runRow
    rwa [RunManager.runRow, ← hstore] at h
  queueRow := by
    have h := hfresh.queueRow
    rwa [RunManager.queueRow, ← hqueue] at h

theorem register_of_not_built (h : ¬ Succeeds (newRun env contract workspace key)) :
    ∃ error, manager.register env contract workspace tenant key = (.error error, manager) := by
  obtain ⟨error, herror⟩ := not_succeeds_iff.mp h
  exact ⟨error, by rw [register, herror]⟩

theorem exists_rejectDuplicate_error (manager : RunManager) (env : CreateEnv)
    (contract : PyDict) (tenant : PyValue) (key : Option PyValue) :
    ∃ error, (manager.rejectDuplicate env contract tenant key).1 = .error error := by
  unfold rejectDuplicate
  split
  · split
    · exact ⟨_, rfl⟩
    · exact ⟨_, rfl⟩
    · split
      · exact ⟨_, rfl⟩
      · exact ⟨_, rfl⟩
  · exact ⟨_, rfl⟩

variable {run : ManagedRun}

theorem register_of_duplicate (hrun : newRun env contract workspace none = .ok run)
    (htwin : manager.duplicate contract workspace = true) :
    ∃ error, manager.register env contract workspace tenant none = (.error error, manager) := by
  unfold register rejectDuplicate
  simp only [hrun, htwin, if_true]
  split
  · rename_i hkey
    cases hkey
  · exact ⟨_, rfl⟩

theorem register_of_duplicate_reserved {value : PyValue} {slot : String × String}
    (hrun : newRun env contract workspace (some value) = .ok run)
    (htwin : manager.duplicate contract workspace = true)
    (hstore : manager.idempotencyStore = some store)
    (hbound : boundSlot tenant value = .ok (some slot)) :
    ∃ error, manager.register env contract workspace tenant (some value) =
      (.error error, manager.withIdempotencyStore
        (attempt env.releaseFault store (store.release slot.1 slot.2)).2) := by
  unfold register rejectDuplicate withIdempotencyStore
  simp only [hrun, htwin, if_true, hstore, hbound]
  split
  · rename_i error written hattempt
    exact ⟨_, by rw [hattempt]⟩
  · rename_i done written hattempt
    exact ⟨_, by rw [hattempt]⟩

theorem register_of_new (hrun : newRun env contract workspace key = .ok run)
    (htwin : manager.duplicate contract workspace = false) :
    manager.register env contract workspace tenant key =
      { manager with runs := manager.runs.insertOrReplace run }.persist env contract
        workspace tenant run := by
  unfold register
  simp [hrun, htwin]

theorem clean_register_of_new {posture : Posture}
    (hposture : env.posture = .ok posture) (hfresh : before.FreshId env.runId)
    (htenant : tenant.truthy = true) (hrun : newRun env contract workspace key = .ok run)
    (htwin : manager.duplicate contract workspace = false)
    (hstores : manager.runStore = before.runStore ∧ manager.runQueue = before.runQueue) :
    Clean env before (manager.register env contract workspace tenant key) ↔
      before.Accepts env contract tenant := by
  have hid := runId_of_newRun hrun
  have hne : run.runId ≠ "" := hid ▸ hfresh.ne
  rw [register_of_new hrun htwin]
  have hsucceeds : Succeeds ({ manager with
      runs := manager.runs.insertOrReplace run }.persist env contract workspace tenant
        run).1 ↔ before.Accepts env contract tenant := by
    rw [persist_succeeds_iff hposture hne htenant]
    constructor
    · rintro ⟨hstore, hqueue⟩
      exact ⟨hstores.1 ▸ hstore, hstores.2 ▸ hqueue⟩
    · rintro ⟨hstore, hqueue⟩
      exact ⟨hstores.1 ▸ hstore, hstores.2 ▸ hqueue⟩
  rw [← hsucceeds]
  constructor
  · intro hclean
    by_contra hnot
    obtain ⟨error, herror⟩ := not_succeeds_iff.mp hnot
    have hleft := (hclean error herror).run
    rw [persist_frame.1, Table.lookup_insertOrReplace, if_pos hid.symm] at hleft
    cases hleft
  · rintro ⟨result, hok⟩ error herror
    cases hok.symm.trans herror

end Register

/-! ## The call -/

section Call

variable {manager : RunManager} {env : CreateEnv} {contract : PyDict}
variable {workspace : Option TenantContext} {tenant : PyValue} {posture : Posture}
variable {store : IdempotencyStore} {hash : String} {slot : String × String} {project : String}

theorem of_resolveTenant (h : resolveTenant env contract workspace = .ok tenant) :
    (∃ posture, env.posture = .ok posture) ∧ tenant.truthy = true := by
  unfold resolveTenant at h
  split at h
  · cases h
  · rename_i posture hposture
    refine ⟨⟨posture, hposture⟩, ?_⟩
    split at h
    · cases h
    · simp only at h
      split at h
      · cases h
      · split at h
        · rename_i hmiddleware
          exact Except.ok.inj h ▸ hmiddleware
        · split at h
          · rename_i hbody
            exact Except.ok.inj h ▸ hbody
          · split at h
            · cases h
            · exact Except.ok.inj h ▸ rfl

theorem of_boundSlot {key : PyValue} (h : boundSlot tenant key = .ok (some slot)) :
    PyValue.textColumn tenant = .ok (some slot.1) ∧ PyValue.textColumn key = .ok (some slot.2) := by
  obtain ⟨left, hleft, hmap⟩ := bind_eq_ok_iff.mp h
  obtain ⟨right, hright, hslot⟩ := map_eq_ok_iff.mp hmap
  cases left with
  | none => cases hslot
  | some left =>
    cases right with
    | none => cases hslot
    | some right =>
      obtain rfl := Option.some.inj hslot
      exact ⟨hleft, hright⟩

theorem ne_of_textColumn {value : PyValue} {text : String}
    (htruthy : value.truthy = true) (h : PyValue.textColumn value = .ok (some text)) :
    text ≠ "" := by
  rintro rfl
  exact PyValue.textColumn_ne_empty htruthy h

theorem validate_insertedRecord (hposture : env.posture = .ok posture)
    (hrun : env.runId ≠ "") (hslot : slot.1 ≠ "" ∧ slot.2 ≠ "") :
    (insertedRecord env workspace slot hash project).validate env.posture =
      .ok (insertedRecord env workspace slot hash project) := by
  have hmissing : (insertedRecord env workspace slot hash project).missing = [] := by
    have htenant : (insertedRecord env workspace slot hash project).tenantId = slot.1 :=
      rfl
    have hkey : (insertedRecord env workspace slot hash project).idempotencyKey = slot.2 := rfl
    have hid : (insertedRecord env workspace slot hash project).runId = env.runId := rfl
    simp [IdempotencyRecord.missing, htenant, hkey, hid, hslot, hrun]
  unfold IdempotencyRecord.validate
  simp [hposture, hmissing]

theorem truthy_of_slotStore (h : manager.slotStore contract = some store) :
    manager.idempotencyStore = some store ∧ (idempotencyKey contract).truthy = true :=
  Option.filter_eq_some_iff.mp h

theorem createRun_of_reserves (htenant : resolveTenant env contract workspace = .ok tenant)
    (hstore : manager.slotStore contract = some store)
    (hhash : requestHash env contract = .ok hash) (hrun : env.runId ≠ "")
    (htakes : Reserves env store contract tenant slot project)
    (hfault : env.reserveFault = none) : manager.createRun env contract workspace =
      (manager.withIdempotencyStore
        (insertedStore env store workspace slot hash project)).register env contract
          workspace tenant (some (idempotencyKey contract)) := by
  obtain ⟨⟨posture, hposture⟩, htruthy⟩ := of_resolveTenant htenant
  obtain ⟨hfst, hsnd⟩ := of_boundSlot htakes.bound
  have hslot := And.intro (ne_of_textColumn htruthy hfst)
    (ne_of_textColumn (truthy_of_slotStore hstore).2 hsnd)
  have hanswer : reserve env store contract workspace tenant hash = _ :=
    reserve_of_reserves htakes (by simp [hfault]) (by simp [hfault])
  rw [validate_insertedRecord hposture hrun hslot] at hanswer
  unfold createRun
  simp [htenant, hstore, hhash, hanswer, hfault, Except.map, mapError_ok, withIdempotencyStore]

theorem createRun_of_commit (htenant : resolveTenant env contract workspace = .ok tenant)
    (hstore : manager.slotStore contract = some store) (hhash : requestHash env contract = .ok hash)
    (htakes : Reserves env store contract tenant slot project)
    (hfault : env.reserveFault = some .commit) : manager.createRun env contract workspace =
      (.error (.raised .operationalError), manager.withIdempotencyStore
        (insertedStore env store workspace slot hash project)) := by
  have hanswer : reserve env store contract workspace tenant hash = _ :=
    reserve_of_reserves htakes (by simp [hfault]) (by simp [hfault])
  unfold createRun
  simp [htenant, hstore, hhash, hanswer, hfault, withIdempotencyStore]

theorem clean_createRun_of_answered (hfresh : manager.FreshId env.runId)
    (htenant : resolveTenant env contract workspace = .ok tenant)
    (hstore : manager.slotStore contract = some store)
    (hsaid : (∀ slot project, ¬ Reserves env store contract tenant slot project) ∨
      env.reserveFault = some .select ∨ env.reserveFault = some .insert) :
    Clean env manager (manager.createRun env contract workspace) := by
  have hheld := (truthy_of_slotStore hstore).1
  unfold createRun
  simp only [htenant, hstore]
  split
  · intro _ _
    exact leavesNothing_of_within hfresh (fun _ _ h => h) rfl rfl rfl
  · rename_i hash _
    have hanswer : _ ∧ ∀ record, (reserve env store contract workspace tenant hash).1 ≠ _ :=
      reserve_of_not_reserves hsaid
    have hclean : LeavesNothing env.runId manager (manager.withIdempotencyStore
        (reserve env store contract workspace tenant hash).2) := by
      refine leavesNothing_of_within hfresh ?_ rfl rfl rfl
      intro slot record hrecord
      rw [held, hheld]
      exact hanswer.1 slot record hrecord
    split
    · exact fun _ _ => hclean
    · exact fun _ _ => hclean
    · exact fun _ _ => hclean
    · rename_i record hcreated
      exact absurd hcreated (hanswer.2 record)

theorem not_leavesNothing_of_inserted (hstore : manager.slotStore contract = some store)
    (htakes : Reserves env store contract tenant slot project) :
    ¬ LeavesNothing env.runId manager (manager.withIdempotencyStore
        (insertedStore env store workspace slot hash project)) := by
  intro hleft
  have hwithin : (insertedStore env store workspace slot hash project).Within store := by
    intro k record hrecord
    have h := hleft.records k record hrecord
    rwa [held, (truthy_of_slotStore hstore).1] at h
  exact not_within_insertedStore htakes hwithin

theorem clean_createRun_of_reserves (hfresh : manager.FreshId env.runId)
    (htenant : resolveTenant env contract workspace = .ok tenant)
    (hstore : manager.slotStore contract = some store) (hhash : requestHash env contract = .ok hash)
    (htakes : Reserves env store contract tenant slot project) (hfault : env.reserveFault = none) :
    Clean env manager (manager.createRun env contract workspace) ↔ Built env contract workspace ∧
        (manager.duplicate contract workspace = true → env.releaseFault ≠ some .execute) ∧
        (manager.duplicate contract workspace = false → manager.Accepts env contract tenant) := by
  obtain ⟨⟨posture, hposture⟩, htruthy⟩ := of_resolveTenant htenant
  have hnotLeft : ¬ LeavesNothing env.runId manager (manager.withIdempotencyStore
      (insertedStore env store workspace slot hash project)) :=
    not_leavesNothing_of_inserted hstore htakes
  rw [createRun_of_reserves htenant hstore hhash hfresh.ne htakes hfault]
  by_cases hbuilt : Built env contract workspace
  · obtain ⟨run, hrun⟩ : Succeeds (newRun env contract workspace
        (some (idempotencyKey contract))) :=
      (newRun_succeeds_iff hposture hfresh.ne).mpr hbuilt
    cases htwin : manager.duplicate contract workspace with
    | true =>
      obtain ⟨error, herror⟩ := register_of_duplicate_reserved hrun
        (show (manager.withIdempotencyStore (insertedStore env store workspace slot
          hash project)).duplicate contract workspace = true from htwin) rfl
        htakes.bound
      rw [herror, attempt_snd]
      simp only [hbuilt, true_and, forall_const, Bool.true_eq_false, IsEmpty.forall_iff, and_true]
      split
      · rename_i hexecute
        exact iff_of_false (fun hclean => hnotLeft (hclean error rfl))
          fun h => h hexecute
      · rename_i hfreed
        refine iff_of_true (fun _ _ => ?_) hfreed
        refine leavesNothing_of_within hfresh ?_ rfl rfl rfl
        intro k record hrecord
        rw [held, (truthy_of_slotStore hstore).1]
        exact within_release htakes k record hrecord
    | false =>
      have hnew := clean_register_of_new hposture hfresh htruthy hrun
        (show (manager.withIdempotencyStore (insertedStore env store workspace slot
          hash project)).duplicate contract workspace = false from htwin)
        ⟨rfl, rfl⟩
      simp [hnew, hbuilt]
  · have hnot : ¬ Succeeds (newRun env contract workspace
        (some (idempotencyKey contract))) :=
      fun h => hbuilt ((newRun_succeeds_iff hposture hfresh.ne).mp h)
    obtain ⟨error, herror⟩ := register_of_not_built hnot
    rw [herror]
    exact iff_of_false (fun hclean => hnotLeft (hclean error rfl)) fun h => hbuilt h.1

theorem clean_createRun_of_unreserved (hfresh : manager.FreshId env.runId)
    (htenant : resolveTenant env contract workspace = .ok tenant)
    (hstore : manager.slotStore contract = none) :
    Clean env manager (manager.createRun env contract workspace) ↔
      (Built env contract workspace → manager.duplicate contract workspace = false →
        manager.Accepts env contract tenant) := by
  obtain ⟨⟨posture, hposture⟩, htruthy⟩ := of_resolveTenant htenant
  have hunchanged : LeavesNothing env.runId manager manager :=
    leavesNothing_of_within hfresh (fun _ _ h => h) rfl rfl rfl
  have hbuilt : Succeeds (newRun env contract workspace none) ↔ _ :=
    newRun_succeeds_iff hposture hfresh.ne
  have hcall : manager.createRun env contract workspace =
      manager.register env contract workspace tenant none := by
    unfold createRun
    simp [htenant, hstore]
  rw [hcall, ← hbuilt]
  by_cases hrun : Succeeds (newRun env contract workspace none)
  · obtain ⟨run, hrun⟩ := hrun
    cases htwin : manager.duplicate contract workspace with
    | true =>
      obtain ⟨error, herror⟩ := register_of_duplicate hrun htwin
      rw [herror]
      exact iff_of_true (fun _ _ => hunchanged) fun _ h => by cases h
    | false =>
      have hnew := clean_register_of_new hposture hfresh htruthy hrun htwin
        ⟨rfl, rfl⟩
      rw [hnew]
      exact ⟨fun h _ _ => h, fun h => h ⟨run, hrun⟩ rfl⟩
  · obtain ⟨error, herror⟩ := register_of_not_built hrun
    rw [herror]
    exact iff_of_true (fun _ _ => hunchanged) fun h => absurd h hrun

theorem clean_createRun_of_asked (hfresh : manager.FreshId env.runId)
    (htenant : resolveTenant env contract workspace = .ok tenant)
    (hstore : manager.slotStore contract = some store) :
    Clean env manager (manager.createRun env contract workspace) ↔
      ∀ slot project, Succeeds (requestHash env contract) →
        Reserves env store contract tenant slot project → env.reserveFault ≠ some .commit ∧
            (env.reserveFault = none → Built env contract workspace ∧
              (manager.duplicate contract workspace = true → env.releaseFault ≠ some .execute) ∧
              (manager.duplicate contract workspace = false →
                manager.Accepts env contract tenant)) := by
  constructor
  · rintro hclean slot project ⟨hash, hhash⟩ htakes
    refine ⟨fun hcommit => ?_, fun hfault => ?_⟩
    · rw [createRun_of_commit htenant hstore hhash htakes hcommit] at hclean
      exact not_leavesNothing_of_inserted hstore htakes (hclean _ rfl)
    · exact (clean_createRun_of_reserves hfresh htenant hstore hhash htakes
        hfault).mp hclean
  · intro h
    cases hhash : requestHash env contract with
    | error error =>
      intro _ _
      rw [createRun, htenant, hstore, hhash]
      exact leavesNothing_of_within hfresh (fun _ _ h => h) rfl rfl rfl
    | ok hash =>
      by_cases htakes : ∃ slot project, Reserves env store contract tenant slot project
      · obtain ⟨slot, project, htakes⟩ := htakes
        obtain ⟨hcommit, hrest⟩ := h slot project ⟨hash, hhash⟩ htakes
        cases hfault : env.reserveFault with
        | none =>
          exact (clean_createRun_of_reserves hfresh htenant hstore hhash htakes
            hfault).mpr (hrest hfault)
        | some fault =>
          refine clean_createRun_of_answered hfresh htenant hstore (.inr ?_)
          cases fault with
          | select => exact .inl hfault
          | insert => exact .inr hfault
          | commit => exact absurd hfault hcommit
      · refine clean_createRun_of_answered hfresh htenant hstore (.inl ?_)
        exact fun slot project h => htakes ⟨slot, project, h⟩

/-- A call that raises leaves nothing behind exactly when it fails clean. -/
theorem createRun_clean_iff (manager : RunManager) (env : CreateEnv)
    (contract : PyDict) (workspace : Option TenantContext) (hfresh : manager.FreshId env.runId) :
    Clean env manager (manager.createRun env contract workspace) ↔
      ∀ tenant, resolveTenant env contract workspace = .ok tenant →
        manager.FailsClean env contract workspace tenant := by
  cases htenant : resolveTenant env contract workspace with
  | error error =>
    refine iff_of_true (fun _ _ => ?_) fun _ h => by cases h
    rw [createRun, htenant]
    exact leavesNothing_of_within hfresh (fun _ _ h => h) rfl rfl rfl
  | ok tenant =>
    simp only [Except.ok.injEq, forall_eq']
    cases hstore : manager.slotStore contract with
    | none =>
      rw [clean_createRun_of_unreserved hfresh htenant hstore]
      refine ⟨fun h => ⟨fun _ _ _ hsome => ?_, fun _ => h⟩, fun h => ?_⟩
      · cases hstore.symm.trans hsome
      · exact h.unreserved hstore
    | some store =>
      rw [clean_createRun_of_asked hfresh htenant hstore]
      refine ⟨fun h => ⟨?_, fun hnone => ?_⟩, fun h slot project => ?_⟩
      · intro other slot project hother
        obtain rfl := Option.some.inj (hstore.symm.trans hother)
        exact h slot project
      · cases hstore.symm.trans hnone
      · exact h.reserved store slot project hstore

end Call

/-! ## The retry -/

section Retry

variable {manager before after : RunManager} {env : CreateEnv} {contract : PyDict}
variable {workspace : Option TenantContext} {tenant : PyValue} {runId : String}
variable {store : IdempotencyStore} {stub : ReplayStub}

theorem register_ne_replayed {key : Option PyValue} :
    (manager.register env contract workspace tenant key).1 ≠ .ok (.replayed stub) := by
  intro h
  unfold register at h
  split at h
  · cases h
  · split at h
    · obtain ⟨error, herror⟩ := exists_rejectDuplicate_error manager env contract tenant
        key
      cases herror.symm.trans h
    · cases eq_of_persist h

theorem exists_lookup_of_replayed {hash : String} {record : IdempotencyRecord}
    (h : (reserve env store contract workspace tenant hash).1 =
      .ok (.replayed, record)) : ∃ slot, store.lookup slot = some record := by
  unfold reserve at h
  split at h
  · cases h
  · cases h
  · rename_i slot _
    simp only at h
    split at h
    · cases h
    · cases h
    · cases h
    · split at h
      · cases h
      · split at h
        · cases h
        · have hanswer := mapError_eq_ok_iff.mp h
          rcases IdempotencyStore.fresh_or_free store slot env.reservedAt with
            ⟨existing, hlookup, hfresh⟩ | hfree
          · rw [IdempotencyStore.reserveOrReplay_of_fresh hlookup hfresh] at hanswer
            obtain ⟨found, hfound, hpair⟩ := map_eq_ok_iff.mp hanswer
            obtain rfl := IdempotencyStore.eq_of_validate hfound
            exact ⟨slot, hlookup.trans (congrArg some (Prod.mk.inj hpair).2)⟩
          · rw [IdempotencyStore.reserveOrReplay_of_free hfree] at hanswer
            obtain ⟨_, _, hpair⟩ := map_eq_ok_iff.mp hanswer
            cases hpair

theorem exists_held_of_replayed
    (h : (manager.createRun env contract workspace).1 = .ok (.replayed stub)) :
    ∃ slot record, manager.held slot = some record ∧ record.runId = stub.runId ∧
      record.responseSnapshot = stub.responseSnapshot := by
  unfold createRun at h
  split at h
  · cases h
  · split at h
    · exact absurd h register_ne_replayed
    · rename_i store hstore
      split at h
      · cases h
      · simp only at h
        split at h
        · cases h
        · cases h
        · rename_i record hanswer
          obtain ⟨slot, hlookup⟩ := exists_lookup_of_replayed hanswer
          obtain ⟨_, _, hstub⟩ := map_eq_ok_iff.mp h
          cases hstub
          refine ⟨slot, record, ?_, rfl, rfl⟩
          rw [held, (truthy_of_slotStore hstore).1]
          exact hlookup
        · exact absurd h register_ne_replayed

end Retry

/-! ## A priority that is no number -/

/-- A request under development posture, and the digest of its payload. -/
def submission : CreateEnv where
  posture := .ok .dev
  repr
    | .str text => .ok (RunState.quoted text)
    | _ => .error .typeError
  sha256 _ := "8c4890b009f3f4c9a783f9cbf88dc3be6a3e83ca707d7e0e7d51dec29a32e27d"
  runId := "run-1"
  attemptId := "attempt-1"
  ticksPerSecond := 1
  reservedAt := 100
  createdAt := 100
  persistedAt := 100
  queueCall := { now := 100, posture := .ok .dev, leaseTimeout := 300 }
  reserveFault := none
  releaseFault := none
  upsertFault := none
  enqueueFault := none

def owner : TenantContext := ⟨"tenant-1", "user-1", ""⟩

def wordPriority : PyDict :=
  [("goal", .str "summarise"), ("priority", .str "high"), ("idempotency_key", .str "key-1")]

def idle : RunManager := ⟨.empty, some .empty, some .empty, some .empty⟩

theorem freshId_idle : idle.FreshId submission.runId :=
  ⟨by decide, rfl, rfl, rfl⟩

/-- `int(priority)` raises after the slot has been reserved and the run has been
registered. -/
theorem createRun_wordPriority_not_clean : idle.FreshId submission.runId ∧ ¬ Clean submission idle
        (idle.createRun submission wordPriority (some owner)) := by
  refine ⟨freshId_idle, fun hclean => ?_⟩
  have hentry := (hclean (.raised .valueError) rfl).run
  cases hentry

theorem createRun_clean_iff_wordPriority : Clean submission idle
        (idle.createRun submission wordPriority (some owner)) ↔
      ∀ tenant, resolveTenant submission wordPriority (some owner) = .ok tenant →
        idle.FailsClean submission wordPriority (some owner) tenant :=
  createRun_clean_iff idle submission wordPriority (some owner) freshId_idle

end HiAgent.Server.RunManager
