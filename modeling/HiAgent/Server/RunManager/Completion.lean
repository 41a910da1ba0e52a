/-
  Server/RunManager/Completion.lean --- the record of a finished run.

  `create_run` reserves the slot under the tenant it resolves for the stores; the end of the
  thread closes the record under the tenant of the run.
-/
import HiAgent.Server.RunManager.Atomicity
import HiAgent.Server.RunManager.Execution

namespace HiAgent.Server.RunManager

open Foundation

/-! ## The run that was created -/

section Created

variable {manager after : RunManager} {env : CreateEnv} {contract : PyDict}
variable {workspace : Option TenantContext} {tenant : PyValue} {run : ManagedRun}
variable {key : Option PyValue}

theorem of_register (h : manager.register env contract workspace tenant key =
      (.ok (.created run), after)) : newRun env contract workspace key = .ok run ∧
      after.idempotencyStore = manager.idempotencyStore := by
  unfold register at h
  split at h
  · cases h
  · rename_i built hbuilt
    split at h
    · obtain ⟨error, herror⟩ :=
        exists_rejectDuplicate_error manager env contract tenant key
      rw [h] at herror
      cases herror
    · have hframe : ({ manager with runs := manager.runs.insertOrReplace built }.persist
          env contract workspace tenant built).2.runs = _ ∧ _ := persist_frame
      rw [h] at hframe
      cases eq_of_persist (congrArg Prod.fst h)
      exact ⟨hbuilt, hframe.2⟩

theorem of_newRun (h : newRun env contract workspace key = .ok run) :
    run.runId = env.runId ∧ run.tenantId = runTenant workspace ∧
      run.idempotencyKey = key ∧ run.state = .created := by
  unfold newRun at h
  split at h
  · cases h
  · cases h
  · obtain ⟨_, _, rfl⟩ := map_eq_ok_iff.mp h
    exact ⟨rfl, rfl, rfl, rfl⟩

def AsksFor (env : CreateEnv) (contract : PyDict) (workspace : Option TenantContext)
    (slot : String × String) : Prop :=
  ∃ tenant, resolveTenant env contract workspace = .ok tenant ∧
    boundSlot tenant (idempotencyKey contract) = .ok (some slot)

/-- The call gets as far as the insert of its record. -/
structure Inserts (manager : RunManager) (env : CreateEnv) (contract : PyDict)
    (workspace : Option TenantContext) (tenant : PyValue) (store : IdempotencyStore)
    (hash : String) (slot : String × String) (project : String) : Prop where
  resolved : resolveTenant env contract workspace = .ok tenant
  asked : manager.slotStore contract = some store
  hashed : requestHash env contract = .ok hash
  reserves : Reserves env store contract tenant slot project
  select : env.reserveFault ≠ some .select
  insert : env.reserveFault ≠ some .insert

theorem of_createRun (h : manager.createRun env contract workspace =
      (.ok (.created run), after)) {value : PyValue} (hkey : run.idempotencyKey = some value) :
    value = idempotencyKey contract ∧ run.tenantId = runTenant workspace ∧
      run.runId = env.runId ∧ ∃ tenant store hash slot project,
        Inserts manager env contract workspace tenant store hash slot project ∧
          after.held slot = some (insertedRecord env workspace slot hash project) := by
  unfold createRun at h
  split at h
  · cases h
  · rename_i tenant htenant
    split at h
    · obtain ⟨hbuilt, _⟩ := of_register h
      rw [(of_newRun hbuilt).2.2.1] at hkey
      cases hkey
    · rename_i store hstore
      split at h
      · cases h
      · rename_i hash hhash
        simp only at h
        split at h
        · cases h
        · cases h
        · have hreplay := congrArg Prod.fst h
          obtain ⟨_, _, hcreated⟩ := map_eq_ok_iff.mp hreplay
          cases hcreated
        · rename_i answered hanswer
          obtain ⟨hbuilt, hslots⟩ := of_register h
          obtain ⟨hid, hrunTenant, hrunKey, _⟩ := of_newRun hbuilt
          refine ⟨Option.some.inj (hkey.symm.trans hrunKey), hrunTenant, hid, tenant,
            store, hash, ?_⟩
          -- the answer `created` is given to calls that reserve only
          have htakes : ∃ slot project, Reserves env store contract tenant slot project := by
            by_contra hnone
            exact (reserve_of_not_reserves (.inl fun slot project htakes =>
              hnone ⟨slot, project, htakes⟩)).2 answered hanswer
          have hselect : env.reserveFault ≠ some .select := fun hfault =>
            (reserve_of_not_reserves (.inr (.inl hfault))).2 answered hanswer
          have hinsert : env.reserveFault ≠ some .insert := fun hfault =>
            (reserve_of_not_reserves (.inr (.inr hfault))).2 answered hanswer
          obtain ⟨slot, project, htakes⟩ := htakes
          have hreserved : reserve env store contract workspace tenant hash = _ :=
            reserve_of_reserves htakes hselect hinsert
          refine ⟨slot, project, ⟨htenant, hstore, hhash, htakes, hselect, hinsert⟩, ?_⟩
          rw [held, hslots]
          simp only [hreserved, Option.bind_some, lookup_insertedStore htakes, if_true]

end Created

/-! ## The record at the end -/

/-- The slot holds the record of the run, closed with the images of its state. -/
def Closed (manager : RunManager) (slot : String × String) (run : ManagedRun) : Prop :=
  ∃ record, manager.held slot = some record ∧ record.runId = run.runId ∧ record.status ≠ .pending ∧
    record.status = statusOfTerminalState (runStateToTerminal run.state.value) ∧
    record.statusCode = runStateToStatusCode run.state.value

/-- A run store, where there is one, takes the final state of the run. -/
def Syncs (manager : RunManager) (fin : FinishEnv) (run : ManagedRun) : Prop :=
  manager.runStore.isSome = true →
    (∃ posture, fin.posture = .ok posture ∧ posture.isStrict = false) ∧ Succeeds fin.resultSummary ∧
      (run.state ≠ .completed → run.state ≠ .cancelled →
        Succeeds ((PyValue.textColumn run.errorText).bind PyValue.notNull)) ∧
      fin.syncFault = none

/-- The end of the thread gets to the idempotency record, and writes it. -/
structure Completes (manager : RunManager) (fin : FinishEnv) (run : ManagedRun) : Prop where
  sync : manager.Syncs fin run
  events : fin.eventStore = true → Succeeds (PyValue.dumps false run.errorText) ∧
    ∃ posture, fin.posture = .ok posture ∧
      (posture.isStrict = true → run.runId ≠ "" ∧ run.tenantId ≠ "")
  response : Succeeds fin.response
  statement : fin.completeFault ≠ some .execute

theorem statusOfTerminalState_ne_pending (terminalState : String) :
    statusOfTerminalState terminalState ≠ .pending := by
  unfold statusOfTerminalState
  split
  · simp
  · split
    · simp
    · split
      · simp
      · simp

section Finish

variable {manager : RunManager} {fin : FinishEnv} {run : ManagedRun}
variable {store : IdempotencyStore} {slot : String × String} {key : PyValue}
variable {record : IdempotencyRecord}

theorem not_closed_of_pending (hrecord : manager.held slot = some record)
    (hpending : record.status = .pending) : ¬ manager.Closed slot run := by
  rintro ⟨other, hother, _, hne, _⟩
  obtain rfl := Option.some.inj (hrecord.symm.trans hother)
  exact hne hpending

theorem closed_closeRecord_iff (hstore : manager.idempotencyStore = some store)
    (hkey : run.idempotencyKey = some key) (hbound : PyValue.textColumn key = .ok (some slot.2))
    (hrecord : store.lookup slot = some record) (hown : record.runId = run.runId)
    (hpending : record.status = .pending) : (manager.closeRecord fin run).2.Closed slot run ↔
      run.tenantId = slot.1 ∧ Succeeds fin.response ∧ fin.completeFault ≠ some .execute := by
  have hheld : manager.held slot = some record := by
    rw [held, hstore]
    exact hrecord
  cases hresponse : fin.response with
  | error error =>
    refine iff_of_false ?_ fun h => not_succeeds_error error h.2.1
    simp only [closeRecord, hstore, hkey, hresponse]
    exact not_closed_of_pending hheld hpending
  | ok response =>
    set written := store.markComplete fin.completedAt run.tenantId slot.2 response
      (runStateToTerminal run.state.value)
      (some (runStateToStatusCode run.state.value)) with hwritten
    have hafter : (manager.closeRecord fin run).2.held slot =
        if fin.completeFault = some .execute then some record
        else written.lookup slot := by
      simp only [closeRecord, hstore, hkey, hresponse, hbound, held, attempt_snd,
        ← hwritten, Option.bind_some]
      split
      · exact hrecord
      · rfl
    have hlookup : written.lookup slot =
        if run.tenantId = slot.1 then some ((IdempotencyRecord.toCompleted
          fin.completedAt response (runStateToTerminal run.state.value)
          (some (runStateToStatusCode run.state.value))).set record)
        else some record := by
      rw [hwritten, IdempotencyStore.markComplete, Table.lookup_updateAt]
      by_cases htenant : run.tenantId = slot.1
      · have hslot : slot = (run.tenantId, slot.2) := by rw [htenant]
        rw [if_pos hslot, if_pos htenant, ← hslot, hrecord]
        rfl
      · rw [if_neg fun h => htenant (congrArg Prod.fst h).symm, if_neg htenant, hrecord]
    simp only [succeeds_ok, true_and]
    constructor
    · rintro ⟨other, hother, _, hne, _⟩
      rw [hafter] at hother
      split at hother
      · obtain rfl := Option.some.inj hother
        exact absurd hpending hne
      · rename_i hfault
        rw [hlookup] at hother
        split at hother
        · rename_i htenant
          exact ⟨htenant, hfault⟩
        · obtain rfl := Option.some.inj hother
          exact absurd hpending hne
    · rintro ⟨htenant, hfault⟩
      rw [if_neg hfault, hlookup, if_pos htenant] at hafter
      exact ⟨_, hafter, hown, statusOfTerminalState_ne_pending _, rfl, rfl⟩

theorem markTerminal_succeeds_iff {runs : RunStore} : Succeeds (markTerminal fin runs run) ↔
      (∃ posture, fin.posture = .ok posture ∧ posture.isStrict = false) ∧
        Succeeds fin.resultSummary ∧ (run.state ≠ .completed → run.state ≠ .cancelled →
          Succeeds ((PyValue.textColumn run.errorText).bind PyValue.notNull)) := by
  have hmark : ∀ (method : String) (f : Assignment RunRow.runId),
      Succeeds (runs.mark fin.posture none method run.runId f) ↔
        ∃ posture, fin.posture = .ok posture ∧ posture.isStrict = false :=
    fun method f => runs.mark_none fin.posture method run.runId f
  unfold markTerminal
  split
  · rename_i hcompleted
    simp only [succeeds_bind_iff, mapError_eq_ok_iff, succeeds_mapError_iff,
      RunStore.markComplete, hmark]
    constructor
    · rintro ⟨summary, hsummary, hposture⟩
      exact ⟨hposture, ⟨summary, hsummary⟩, fun h => absurd hcompleted h⟩
    · rintro ⟨hposture, ⟨summary, hsummary⟩, _⟩
      exact ⟨summary, hsummary, hposture⟩
  · rename_i hcompleted
    split
    · rename_i hgone
      simp only [succeeds_bind_iff, mapError_eq_ok_iff, succeeds_mapError_iff,
        RunStore.markCancelled, hmark]
      constructor
      · rintro ⟨summary, hsummary, hposture⟩
        exact ⟨hposture, ⟨summary, hsummary⟩, fun _ h => absurd hgone h⟩
      · rintro ⟨hposture, ⟨summary, hsummary⟩, _⟩
        exact ⟨summary, hsummary, hposture⟩
    · rename_i hgone
      generalize (PyValue.textColumn run.errorText).bind PyValue.notNull = column
      simp only [succeeds_bind_iff, mapError_eq_ok_iff, succeeds_mapError_iff,
        RunStore.markFailed, hmark]
      constructor
      · rintro ⟨summary, hsummary, marked, hmarked, text, htext, hposture⟩
        exact ⟨hposture, ⟨summary, hsummary⟩, fun _ _ => ⟨text, htext⟩⟩
      · rintro ⟨hposture, ⟨summary, hsummary⟩, htext⟩
        obtain ⟨marked, hmarked⟩ := (hmark "mark_failed" _).mpr hposture
        obtain ⟨text, htext⟩ := htext hcompleted hgone
        exact ⟨summary, hsummary, marked, hmarked, text, htext, hposture⟩

theorem syncRunStore_succeeds_iff :
    Succeeds (manager.syncRunStore fin run).1 ↔ manager.Syncs fin run := by
  unfold syncRunStore Syncs
  split
  · rename_i hstore
    simp [hstore]
  · rename_i runs hstore
    have hmark : Succeeds (markTerminal fin runs run) ↔ _ := markTerminal_succeeds_iff
    simp only [hstore, Option.isSome_some, forall_const]
    split
    · rename_i error hfailed
      rw [hfailed] at hmark
      exact iff_of_false (not_succeeds_error error) fun h =>
        not_succeeds_error error (hmark.mpr ⟨h.1, h.2.1, h.2.2.1⟩)
    · rename_i marked hmarked
      obtain ⟨hposture, hsummary, htext⟩ := hmark.mp ⟨marked, hmarked⟩
      change Succeeds ((attempt fin.syncFault runs marked).1.mapError _) ↔ _
      rw [succeeds_mapError_iff, attempt_succeeds_iff]
      exact ⟨fun h => ⟨hposture, hsummary, htext, h⟩, fun h => h.2.2.2⟩

theorem syncRunStore_idempotencyStore :
    (manager.syncRunStore fin run).2.idempotencyStore = manager.idempotencyStore := by
  unfold syncRunStore
  split
  · rfl
  · split
    · rfl
    · rfl

theorem publishRunEvent_succeeds_iff {payload : PyDict} :
    Succeeds (publishRunEvent fin run payload) ↔
      (fin.eventStore = true → Succeeds (PyValue.dumps false (.dict payload)) ∧
        ∃ posture, fin.posture = .ok posture ∧
          (posture.isStrict = true → run.runId ≠ "" ∧ run.tenantId ≠ "")) := by
  unfold publishRunEvent
  split
  · rename_i hwired
    simp only [hwired, forall_const]
    split
    · rename_i error herror
      rw [herror]
      exact iff_of_false (not_succeeds_error _) fun h => not_succeeds_error error h.1
    · rename_i text message _ hposture
      simp [hposture]
    · rename_i text posture htext hposture
      have hspine : ManagedRun.missing run.runId (.str run.tenantId) = [] ↔
          run.runId ≠ "" ∧ run.tenantId ≠ "" := by
        unfold ManagedRun.missing
        by_cases hid : run.runId = ""
        · simp [hid]
        · by_cases htenant : run.tenantId = ""
          · simp [hid, htenant, PyValue.truthy]
          · simp [hid, htenant, PyValue.truthy]
      rw [htext, hposture]
      simp only [ne_eq, hspine, Except.ok.injEq, exists_eq_left', succeeds_ok, true_and]
      split
      · rename_i hmissing
        exact iff_of_false (not_succeeds_error _) fun h => hmissing.1 (h hmissing.2)
      · rename_i hfull
        refine iff_of_true (succeeds_ok ()) fun hstrict => ?_
        by_contra hmissing
        exact hfull ⟨hmissing, hstrict⟩
  · rename_i hwired
    simp [hwired]

theorem publish_succeeds_iff :
    Succeeds ((publishRunEvent fin run (finalizedPayload fin run)).bind fun _ =>
        publishRunEvent fin run (terminalPayload fin run)) ↔
      (fin.eventStore = true → Succeeds (PyValue.dumps false run.errorText) ∧
        ∃ posture, fin.posture = .ok posture ∧
          (posture.isStrict = true → run.runId ≠ "" ∧ run.tenantId ≠ "")) := by
  have hmoment : Succeeds (PyValue.dumps false
      (run.finishedAt.elim .none fun moment => .str (fin.isoformat moment))) := by
    cases run.finishedAt with
    | _ => exact ⟨_, rfl⟩
  have hstate : Succeeds (PyValue.dumps false (.str run.state.value)) := ⟨_, rfl⟩
  have hfinalized : Succeeds (PyValue.dumps false (.dict (finalizedPayload fin run))) := by
    simp [PyValue.succeeds_dumps_dict_iff, finalizedPayload, hmoment, hstate]
  have hover : Succeeds (PyValue.dumps false (.dict (terminalPayload fin run))) ↔
      Succeeds (PyValue.dumps false run.errorText) := by
    simp [PyValue.succeeds_dumps_dict_iff, terminalPayload, hmoment, hstate]
  rw [succeeds_bind_iff]
  constructor
  · rintro ⟨_, _, hlast⟩
    rw [publishRunEvent_succeeds_iff, hover] at hlast
    exact hlast
  · intro h
    have hfirst : Succeeds (publishRunEvent fin run (finalizedPayload fin run)) :=
      publishRunEvent_succeeds_iff.mpr fun hwired => ⟨hfinalized, (h hwired).2⟩
    obtain ⟨done, hdone⟩ := hfirst
    refine ⟨done, hdone, publishRunEvent_succeeds_iff.mpr fun hwired => ?_⟩
    exact ⟨hover.mpr (h hwired).1, (h hwired).2⟩

end Finish

/-! ## The two tenants -/

section Tenants

variable {env : CreateEnv} {contract : PyDict} {workspace : Option TenantContext}
variable {tenant : PyValue} {slot : String × String}

theorem eq_of_resolveTenant (h : resolveTenant env contract workspace = .ok tenant)
    (hne : runTenant workspace ≠ "") : tenant = .str (runTenant workspace) := by
  have htruthy : PyValue.truthy (.str ((workspace.map (·.tenantId)).getD "")) = true := by
    simpa [PyValue.truthy, runTenant] using hne
  unfold resolveTenant at h
  split at h
  · cases h
  · split at h
    · cases h
    · simp only [htruthy, Bool.true_and, if_true] at h
      split at h
      · cases h
      · exact (Except.ok.inj h).symm

theorem runTenant_eq_fst_iff (h : AsksFor env contract workspace slot) :
    runTenant workspace = slot.1 ↔ runTenant workspace ≠ "" := by
  obtain ⟨tenant, htenant, hbound⟩ := h
  have hfst := (of_boundSlot hbound).1
  constructor
  · intro heq hempty
    have hne := ne_of_textColumn (of_resolveTenant htenant).2 hfst
    exact hne (heq.symm.trans hempty)
  · intro hne
    obtain rfl := eq_of_resolveTenant htenant hne
    exact Option.some.inj (Except.ok.inj hfst)

end Tenants

/-! ## The end of the run -/

/-- Whatever has been written to a run since it was created, the end of its thread
closes the record it was created with exactly when the workspace names its tenant
and the end gets to the record. -/
theorem closed_finalize_iff {manager after later : RunManager} {env : CreateEnv}
    {contract : PyDict} {workspace : Option TenantContext} {run : ManagedRun}
    {key : PyValue} {slot : String × String} {record : IdempotencyRecord}
    (hcreated : manager.createRun env contract workspace = (.ok (.created run), after))
    (hkey : run.idempotencyKey = some key) (hslot : AsksFor env contract workspace slot)
    (hrecord : later.held slot = some record) (hown : record.runId = run.runId)
    (hpending : record.status = .pending)
    (writes : List (Int × ManagedRun.Write)) (fin : FinishEnv) :
    (later.finalize fin (exec ManagedRun.write run writes)).2.Closed slot
        (exec ManagedRun.write run writes) ↔ runTenant workspace ≠ "" ∧
        later.Completes fin (exec ManagedRun.write run writes) := by
  obtain ⟨rfl, htenant, _, _⟩ := of_createRun hcreated hkey
  have hsame := ManagedRun.sameRun_exec run writes
  set ended := exec ManagedRun.write run writes
  have hbound : PyValue.textColumn (idempotencyKey contract) = .ok (some slot.2) := by
    obtain ⟨_, _, hbound⟩ := hslot
    exact (of_boundSlot hbound).2
  have hsync : Succeeds (later.syncRunStore fin ended).1 ↔ _ := syncRunStore_succeeds_iff
  have hstays : (later.syncRunStore fin ended).2.idempotencyStore = _ :=
    syncRunStore_idempotencyStore
  have hpublish : Succeeds ((publishRunEvent fin ended
      (finalizedPayload fin ended)).bind fun _ =>
        publishRunEvent fin ended (terminalPayload fin ended)) ↔ _ :=
    publish_succeeds_iff
  unfold finalize
  split
  · rename_i error unsynced hfailed
    rw [hfailed] at hsync hstays
    have hheld : unsynced.held slot = some record := by
      rw [held, hstays]
      exact hrecord
    exact iff_of_false (not_closed_of_pending hheld hpending) fun h =>
      not_succeeds_error error (hsync.mpr h.2.sync)
  · rename_i done synced hsynced
    rw [hsynced] at hsync hstays
    have hheld : synced.held slot = some record := by
      rw [held, hstays]
      exact hrecord
    unfold closeRun
    split
    · rename_i error hfailed
      rw [hfailed] at hpublish
      exact iff_of_false (not_closed_of_pending hheld hpending) fun h =>
        not_succeeds_error error (hpublish.mpr h.2.events)
    · rename_i published hpublished
      rw [hpublished] at hpublish
      obtain ⟨store, hstore, hlookup⟩ := Option.bind_eq_some_iff.mp hheld
      rw [closed_closeRecord_iff hstore (hsame.idempotencyKey.trans hkey) hbound hlookup
        (hown.trans hsame.runId.symm) hpending, hsame.tenantId, htenant,
        runTenant_eq_fst_iff hslot]
      exact and_congr_right fun _ =>
        ⟨fun h => ⟨hsync.mp (succeeds_ok done), hpublish.mp (succeeds_ok published),
          h.1, h.2⟩, fun h => ⟨h.response, h.statement⟩⟩

/-! ## A run without a workspace -/

def keyed : PyDict := [("goal", .str "summarise"), ("idempotency_key", .str "key-1")]

def keyedSubmission : CreateEnv :=
  { submission with
    sha256 := fun _ =>
      "d8b05a2f52ef22284c719e3d1e6300132ddf6076e2b6421db98ccb0d5ee649fe" }

def lifetime : List (Int × ManagedRun.Write) :=
  [(101, .begin), (102, .conclude .none .none), (103, .finish)]

/-- An end at which nothing fails. -/
def ending : FinishEnv where
  posture := .ok .dev
  syncedAt := 103
  completedAt := 104
  isoformat _ := "1970-01-01T00:01:43+00:00"
  resultSummary := .ok ""
  response := .ok (.document (.object [("state", .string "completed")]))
  eventStore := true
  syncFault := none
  completeFault := none

/-- The slot of a run without a workspace is reserved under `default`, and its
record is looked for under the empty tenant. -/
theorem finalize_not_closed_without_workspace : ∃ run after record,
      idle.createRun keyedSubmission keyed none = (.ok (.created run), after) ∧
        after.held ("default", "key-1") = some record ∧ record.runId = run.runId ∧
        (exec ManagedRun.write run lifetime).state = .completed ∧
        (after.finalize ending (exec ManagedRun.write run lifetime)).1 = .ok () ∧
        ¬ (after.finalize ending (exec ManagedRun.write run lifetime)).2.Closed
          ("default", "key-1") (exec ManagedRun.write run lifetime) :=
  ⟨_, _, _, rfl, rfl, rfl, rfl, rfl, not_closed_of_pending rfl rfl⟩

theorem closed_finalize_iff_keyed : ∃ run after, idle.createRun keyedSubmission keyed (some owner) =
          (.ok (.created run), after) ∧
        ((after.finalize ending (exec ManagedRun.write run lifetime)).2.Closed
            ("tenant-1", "key-1") (exec ManagedRun.write run lifetime) ↔
          runTenant (some owner) ≠ "" ∧
            after.Completes ending (exec ManagedRun.write run lifetime)) := by
  have hslot : AsksFor keyedSubmission keyed (some owner)
      ("tenant-1", "key-1") := ⟨.str "tenant-1", rfl, rfl⟩
  obtain ⟨run, after, hcreated, hkey, record, hrecord, hown, hpending⟩ : ∃ run after,
        idle.createRun keyedSubmission keyed (some owner) = (.ok (.created run), after) ∧
          run.idempotencyKey = some (.str "key-1") ∧
          ∃ record, after.held ("tenant-1", "key-1") = some record ∧
            record.runId = run.runId ∧ record.status = .pending :=
    ⟨_, _, rfl, rfl, _, rfl, rfl, rfl⟩
  exact ⟨run, after, hcreated, closed_finalize_iff hcreated hkey hslot hrecord hown
    hpending lifetime ending⟩

end HiAgent.Server.RunManager
