/-
  Server/RunManager/Ownership.lean --- whose record the end of a run writes.

  Requests, ends of runs and calls of other clients of the idempotency store, in
  any order. The end of a run writes to the slot of its tenant and key, whoever
  holds that slot by then.
-/
import HiAgent.Server.RunManager.Completion

namespace HiAgent.Server

open Foundation List

/-! ## The service -/

/-- A manager, the created runs that have not ended, and the authors. -/
structure Service where
  manager : RunManager
  live : List ManagedRun
  author : String × String → Option String

def ManagedRun.completionSlot (run : ManagedRun) : Option (String × String) :=
  match run.idempotencyKey.map PyValue.textColumn with
  | some (.ok (some key)) => some (run.tenantId, key)
  | _ => none

namespace RunManager

/-- The slot into which a call of `create_run` inserts its record. -/
def insertedSlot (manager : RunManager) (env : CreateEnv) (contract : PyDict)
    (workspace : Option TenantContext) : Option (String × String) :=
  match resolveTenant env contract workspace with
  | .error _ => none
  | .ok tenant =>
    match manager.slotStore contract, requestHash env contract,
        boundSlot tenant (idempotencyKey contract),
        PyValue.textColumn (projectId contract) with
    | some store, .ok _, .ok (some slot), .ok (some _) =>
      if (store.lookup slot).all (IdempotencyStore.expiredBy env.reservedAt) &&
          (env.reserveFault.isNone || env.reserveFault == some .commit) then
        some slot
      else none
    | _, _, _, _ => none

end RunManager

/-- The slot into which a call of the store inserts a record. -/
def IdempotencyStore.insertedSlot (store : IdempotencyStore)
    (call : IdempotencyStore.Call) : Option (String × String) :=
  match call.op with
  | .reserve args =>
    if (store.lookup args.slot).all (expiredBy call.now) then some args.slot else none
  | _ => none

/-- The slot of the record that a call of the store may write to. -/
def IdempotencyStore.Call.written (call : IdempotencyStore.Call) : Option (String × String) :=
  match call.op with
  | .markComplete tenantId idempotencyKey _ _ _ => some (tenantId, idempotencyKey)
  | .markFailed tenantId idempotencyKey _ => some (tenantId, idempotencyKey)
  | _ => none

namespace Service

/-- An event of the service. -/
inductive Event where
  /-- `create_run`. -/
  | create (env : CreateEnv) (contract : PyDict) (workspace : Option TenantContext)
  /-- The end of a live run, after the writes that were made to it. -/
  | finish (index : Nat) (writes : List (Int × ManagedRun.Write)) (fin : FinishEnv)
  /-- A live run that never gets to its end. -/
  | abandon (index : Nat)
  /-- Another client of the idempotency store, or the purge of expired records. -/
  | other (posture : Except String Posture) (call : IdempotencyStore.Call)

def setAuthor (author : String × String → Option String)
    (slot : Option (String × String)) (runId : Option String) :
    String × String → Option String :=
  fun k => if slot = some k then runId else author k

/-- The service after an event. -/
def step (service : Service) : Event → Service
  | .create env contract workspace =>
    let result := service.manager.createRun env contract workspace
    { manager := result.2
      live := match result.1 with
        | .ok (.created run) => run :: service.live
        | _ => service.live
      author := setAuthor service.author
        (service.manager.insertedSlot env contract workspace) none }
  | .finish index writes fin =>
    match service.live[index]? with
    | none => service
    | some run =>
      let ended := exec ManagedRun.write run writes
      { manager := (service.manager.finalize fin ended).2
        live := service.live.eraseIdx index
        author := setAuthor service.author run.completionSlot (some run.runId) }
  | .abandon index => { service with live := service.live.eraseIdx index }
  | .other posture call =>
    match service.manager.idempotencyStore with
    | none => service
    | some store =>
      { service with
        manager := service.manager.withIdempotencyStore (store.perform posture call)
        author := setAuthor
          (setAuthor service.author (store.insertedSlot call) none) call.written
          none }

def Starts (service : Service) : Prop :=
  service.live = [] ∧ ∀ slot, service.author slot = none

/-! ## Records and their runs -/

/-- The end of a run changes a record of that run only. -/
def OwnCompletion (service : Service) (event : Event) : Prop :=
  ∀ index writes fin run, event = .finish index writes fin →
    service.live[index]? = some run → ∀ slot,
      (service.step event).manager.held slot ≠ service.manager.held slot →
        ∃ record, service.manager.held slot = some record ∧ record.runId = run.runId

/-- A record that the end of a run has written to was written by its own run. -/
def OwnResponses (service : Service) : Prop :=
  ∀ slot record, service.manager.held slot = some record →
    ∀ runId, service.author slot = some runId → record.runId = runId

/-- A replay returns a response that no other run has written. -/
def OwnReplay (service : Service) (event : Event) : Prop :=
  ∀ env contract workspace stub, event = .create env contract workspace →
    (service.manager.createRun env contract workspace).1 = .ok (.replayed stub) →
      ∃ slot record, service.manager.held slot = some record ∧
        record.responseSnapshot = stub.responseSnapshot ∧ record.runId = stub.runId ∧
          ∀ runId, service.author slot = some runId → runId = stub.runId

def Unclaimed (service : Service) (slot : String × String) : Prop :=
  ∀ run ∈ service.live, run.completionSlot ≠ some slot

/-- A slot is taken over only when no live run completes into it, and a request
that takes one names the tenant its run will complete under, or nothing is stored
where it will complete. -/
def TakesOver (service : Service) : Event → Prop
  | .create env contract workspace =>
    ∀ slot, service.manager.insertedSlot env contract workspace = some slot →
      service.Unclaimed slot ∧ (runTenant workspace = slot.1 ∨
        service.manager.held (runTenant workspace, slot.2) = none)
  | .other _ call =>
    ∀ store slot, service.manager.idempotencyStore = some store →
      store.insertedSlot call = some slot → service.Unclaimed slot
  | _ => True

/-- Whatever a live run will complete into is its own record. -/
structure Owned (service : Service) : Prop where
  live : ∀ run ∈ service.live, ∀ slot, run.completionSlot = some slot →
    ∀ record, service.manager.held slot = some record → record.runId = run.runId
  responses : service.OwnResponses

end Service

/-! ## What the calls do to the records -/

theorem all_expiredBy_iff {store : IdempotencyStore} {slot : String × String} {now : Int} :
    (store.lookup slot).all (IdempotencyStore.expiredBy now) = true ↔
      ∀ existing, store.lookup slot = some existing → existing.expiresAt < now := by
  cases store.lookup slot with
  | none => simp
  | some existing => simp [IdempotencyStore.expiredBy]

namespace RunManager

section Calls

variable {manager : RunManager} {env : CreateEnv} {contract : PyDict}
variable {workspace : Option TenantContext} {slot : String × String}
variable {record : IdempotencyRecord}

theorem insertedSlot_eq_some_iff : manager.insertedSlot env contract workspace = some slot ↔
      ∃ tenant store hash project,
        Inserts manager env contract workspace tenant store hash slot project := by
  constructor
  · intro h
    unfold insertedSlot at h
    split at h
    · cases h
    · rename_i tenant htenant
      split at h
      · rename_i store hash found project hstore hhash hbound hproject
        split at h
        · rename_i hguard
          obtain rfl := Option.some.inj h
          obtain ⟨hfree, hfault⟩ := Bool.and_eq_true_iff.mp hguard
          have hreserves : Reserves env store contract tenant found project :=
            ⟨hbound, hproject, all_expiredBy_iff.mp hfree⟩
          refine ⟨tenant, store, hash, project, htenant, hstore, hhash, hreserves, ?_, ?_⟩
          · intro hselect
            simp [hselect] at hfault
          · intro hinsert
            simp [hinsert] at hfault
        · cases h
      · cases h
  · rintro ⟨tenant, store, hash, project, h⟩
    have hfault : (env.reserveFault.isNone || env.reserveFault == some .commit) = true := by
      have hselect := h.select
      have hinsert := h.insert
      cases hfault : env.reserveFault with
      | none => rfl
      | some fault =>
        rw [hfault] at hselect hinsert
        cases fault with
        | select => exact absurd rfl hselect
        | insert => exact absurd rfl hinsert
        | commit => rfl
    unfold insertedSlot
    simp [h.resolved, h.asked, h.hashed, h.reserves.bound, h.reserves.column,
      all_expiredBy_iff.mpr h.reserves.free, hfault]

theorem held_register {tenant : PyValue} {key : Option PyValue}
    (h : (manager.register env contract workspace tenant key).2.held slot =
      some record) : manager.held slot = some record := by
  unfold register at h
  split at h
  · exact h
  · rename_i run _
    split at h
    · unfold rejectDuplicate at h
      split at h
      · rename_i store value hstore _
        split at h
        · exact h
        · exact h
        · rename_i found _
          have hfreed : (attempt env.releaseFault store
              (store.release found.1 found.2)).2.Within store := by
            rw [attempt_snd]
            split
            · exact .refl store
            · exact store.within_deleteAt _ _
          rw [held, hstore]
          split at h
          · rename_i hattempt
            rw [hattempt] at hfreed
            exact hfreed slot record h
          · rename_i hattempt
            rw [hattempt] at hfreed
            exact hfreed slot record h
      · exact h
    · have hframe : ({ manager with runs := manager.runs.insertOrReplace run }.persist
          env contract workspace tenant run).2.runs = _ ∧ _ := persist_frame
      rw [held, hframe.2] at h
      exact h

theorem held_createRun (h : (manager.createRun env contract workspace).2.held slot = some record) :
    manager.held slot = some record ∨ (manager.insertedSlot env contract workspace = some slot ∧
        record.runId = env.runId) := by
  unfold createRun at h
  split at h
  · exact .inl h
  · rename_i tenant htenant
    split at h
    · exact .inl (held_register h)
    · rename_i store hstore
      split at h
      · exact .inl h
      · rename_i hash hhash
        have hsaid : (reserve env store contract workspace tenant hash).2.lookup slot =
            some record := by
          simp only at h
          split at h
          · exact h
          · exact h
          · exact h
          · exact held_register h
        have hasked := (truthy_of_slotStore hstore).1
        by_cases hinserts : ∃ found project, Inserts manager env contract workspace
            tenant store hash found project
        · obtain ⟨found, project, hinserts⟩ := hinserts
          have hreserved : reserve env store contract workspace tenant hash = _ :=
            reserve_of_reserves hinserts.reserves hinserts.select hinserts.insert
          rw [hreserved] at hsaid
          simp only [lookup_insertedStore hinserts.reserves] at hsaid
          split at hsaid
          · subst slot
            obtain rfl := Option.some.inj hsaid
            exact .inr ⟨insertedSlot_eq_some_iff.mpr ⟨tenant, store, hash, project, hinserts⟩, rfl⟩
          · refine .inl ?_
            rw [held, hasked]
            exact hsaid
        · have hnot : (∀ found project, ¬ Reserves env store contract tenant found
              project) ∨ env.reserveFault = some .select ∨ env.reserveFault = some .insert := by
            by_contra hno
            push Not at hno
            obtain ⟨⟨found, project, hreserves⟩, hselect, hinsert⟩ := hno
            exact hinserts ⟨found, project, ⟨htenant, hstore, hhash, hreserves, hselect, hinsert⟩⟩
          refine .inl ?_
          rw [held, hasked]
          exact (reserve_of_not_reserves hnot).1 slot record hsaid

theorem held_finalize {fin : FinishEnv} {run : ManagedRun} (slot : String × String) :
    (manager.finalize fin run).2.held slot = manager.held slot ∨
      (run.completionSlot = some slot ∧ ∃ record closed, manager.held slot = some record ∧
          (manager.finalize fin run).2.held slot = some closed ∧ closed.runId = record.runId) := by
  have hstays : (manager.syncRunStore fin run).2.idempotencyStore = _ :=
    syncRunStore_idempotencyStore
  unfold finalize
  split
  · rename_i synced hsynced
    rw [hsynced] at hstays
    exact .inl (by rw [held, hstays]; rfl)
  · rename_i synced hsynced
    rw [hsynced] at hstays
    have hheld : ∀ k, synced.held k = manager.held k := by
      intro k
      rw [held, hstays]
      rfl
    unfold closeRun
    split
    · exact .inl (hheld slot)
    · simp only [← hheld]
      unfold closeRecord
      split
      · rename_i store key hstore hkey
        split
        · exact .inl rfl
        · exact .inl rfl
        · exact .inl rfl
        · rename_i response text _ htext
          have hslot : run.completionSlot = some (run.tenantId, text) := by
            unfold ManagedRun.completionSlot
            simp [hkey, htext]
          simp only [held, hstore, Option.bind_some, attempt_snd, hslot, Option.some.injEq]
          split
          · exact .inl rfl
          · rw [IdempotencyStore.markComplete, Table.lookup_updateAt]
            split
            · rename_i heq
              cases hlookup : store.lookup (run.tenantId, text) with
              | none => exact .inl (by rw [heq, hlookup]; rfl)
              | some record =>
                exact .inr ⟨heq.symm, record, _, heq ▸ hlookup, rfl, rfl⟩
            · exact .inl rfl
      · exact .inl rfl

end Calls

end RunManager

namespace IdempotencyStore

variable {store : IdempotencyStore} {posture : Except String Posture} {call : Call}
variable {slot : String × String} {record : IdempotencyRecord}

theorem lookup_of_updateAt {k : String × String} {p : IdempotencyRecord → Bool}
    {f : Assignment IdempotencyRecord.slot} (hkeeps : ∀ row, (f.set row).runId = row.runId)
    (h : Table.lookup (store.updateAt k p f) slot = some record) :
    ∃ old, store.lookup slot = some old ∧ record.runId = old.runId := by
  rw [Table.lookup_updateAt] at h
  split at h
  · subst slot
    obtain ⟨old, hold, rfl⟩ := Option.map_eq_some_iff.mp h
    refine ⟨old, hold, ?_⟩
    split
    · exact hkeeps old
    · rfl
  · exact ⟨record, h, rfl⟩

theorem lookup_perform (h : (store.perform posture call).lookup slot = some record) :
    store.insertedSlot call = some slot ∨
      ∃ old, store.lookup slot = some old ∧ record.runId = old.runId := by
  cases hop : call.op with
  | reserve args =>
    simp only [perform, hop] at h
    by_cases hslot : slot = args.slot
    · subst hslot
      rcases fresh_or_free store args.slot call.now with
        ⟨existing, hlookup, hfresh⟩ | hfree
      · rw [reserveOrReplay_of_fresh hlookup hfresh] at h
        exact .inr ⟨record, h, rfl⟩
      · refine .inl ?_
        simp only [insertedSlot, hop]
        rw [if_pos (all_expiredBy_iff.mpr hfree)]
    · rw [lookup_reserveOrReplay_of_ne hslot] at h
      exact .inr ⟨record, h, rfl⟩
  | release tenantId idempotencyKey =>
    simp only [perform, hop] at h
    exact .inr ⟨record, store.within_deleteAt _ _ slot record h, rfl⟩
  | purge cutoff =>
    simp only [perform, hop, purgeExpired] at h
    rw [Table.lookup_delete] at h
    exact .inr ⟨record, (Option.filter_eq_some_iff.mp h).1, rfl⟩
  | _ =>
    simp only [perform, hop] at h
    exact .inr (lookup_of_updateAt (fun _ => rfl) h)

end IdempotencyStore

/-! ## Runs of the service -/

namespace Service

variable {service : Service}

theorem owned_of_starts (h : service.Starts) : service.Owned where
  live run hrun := by
    rw [h.1] at hrun
    cases hrun
  responses slot record _ runId hauthor := by
    rw [h.2] at hauthor
    cases hauthor

theorem eq_some_of_setAuthor {author : String × String → Option String}
    {slot : Option (String × String)} {k : String × String} {runId : String}
    (h : setAuthor author slot none k = some runId) : slot ≠ some k ∧ author k = some runId := by
  unfold setAuthor at h
  split at h
  · cases h
  · exact ⟨‹_›, h⟩

theorem owned_create (h : service.Owned) {env : CreateEnv} {contract : PyDict}
    {workspace : Option TenantContext}
    (htakes : service.TakesOver (.create env contract workspace)) :
    (service.step (.create env contract workspace)).Owned := by
  have holds : ∀ run ∈ service.live, ∀ slot, run.completionSlot = some slot →
      ∀ record, (service.manager.createRun env contract workspace).2.held slot =
        some record → record.runId = run.runId := by
    intro run hrun slot hslot record hrecord
    rcases RunManager.held_createRun hrecord with hbefore | ⟨hput, _⟩
    · exact h.live run hrun slot hslot record hbefore
    · exact absurd hslot ((htakes slot hput).1 run hrun)
  constructor
  · intro run hrun slot hslot record hrecord
    simp only [step] at hrun hrecord
    split at hrun
    · rename_i created hcreated
      rcases mem_cons.mp hrun with rfl | hrun
      · -- the run that has just been created
        unfold ManagedRun.completionSlot at hslot
        split at hslot
        · rename_i text hkey
          obtain rfl := Option.some.inj hslot
          obtain ⟨key, hkey, htext⟩ := Option.map_eq_some_iff.mp hkey
          obtain ⟨rfl, htenant, hid, tenant, store, hash, slot, project, hinserts,
            hheld⟩ := RunManager.of_createRun (Prod.ext hcreated rfl) hkey
          have hput := RunManager.insertedSlot_eq_some_iff.mpr
            ⟨tenant, store, hash, project, hinserts⟩
          have hsnd : slot.2 = text := Option.some.inj (Except.ok.inj
            ((RunManager.of_boundSlot hinserts.reserves.bound).2.symm.trans htext))
          rw [hid]
          rcases (htakes slot hput).2 with hfst | hnone
          · have hsame : slot = (run.tenantId, text) :=
              Prod.ext (hfst.symm.trans htenant.symm) hsnd
            rw [← hsame] at hrecord
            obtain rfl := Option.some.inj (hheld.symm.trans hrecord)
            rfl
          · rcases RunManager.held_createRun hrecord with hbefore | ⟨_, hrun⟩
            · rw [htenant, ← hsnd, hnone] at hbefore
              cases hbefore
            · exact hrun
        · cases hslot
      · exact holds run hrun slot hslot record hrecord
    · exact holds run hrun slot hslot record hrecord
  · intro slot record hrecord runId hauthor
    obtain ⟨hne, hauthor⟩ := eq_some_of_setAuthor hauthor
    rcases RunManager.held_createRun hrecord with hbefore | ⟨hput, _⟩
    · exact h.responses slot record hbefore runId hauthor
    · exact absurd hput hne

theorem owned_finish (h : service.Owned) (index : Nat)
    (writes : List (Int × ManagedRun.Write)) (fin : FinishEnv) :
    (service.step (.finish index writes fin)).Owned := by
  simp only [step]
  split
  · exact h
  · rename_i run hrun
    have hmem := mem_of_getElem? hrun
    set ended := exec ManagedRun.write run writes
    -- every record stays with its run
    have hstays : ∀ slot record, (service.manager.finalize fin ended).2.held slot =
        some record → ∃ old, service.manager.held slot = some old ∧ record.runId = old.runId := by
      intro slot record hrecord
      rcases RunManager.held_finalize slot with hsame | ⟨_, old, closed, hold, hclosed, hid⟩
      · exact ⟨record, hsame.symm.trans hrecord, rfl⟩
      · obtain rfl := Option.some.inj (hclosed.symm.trans hrecord)
        exact ⟨old, hold, hid⟩
    constructor
    · intro other hother slot hslot record hrecord
      obtain ⟨old, hold, hid⟩ := hstays slot record hrecord
      exact hid.trans (h.live other (mem_of_mem_eraseIdx hother) slot hslot old hold)
    · intro slot record hrecord runId hauthor
      obtain ⟨old, hold, hid⟩ := hstays slot record hrecord
      rw [hid]
      simp only [setAuthor] at hauthor
      split at hauthor
      · rename_i hslot
        obtain rfl := Option.some.inj hauthor
        exact h.live run hmem slot hslot old hold
      · exact h.responses slot old hold runId hauthor

theorem owned_other (h : service.Owned) {posture : Except String Posture}
    {call : IdempotencyStore.Call} (htakes : service.TakesOver (.other posture call)) :
    (service.step (.other posture call)).Owned := by
  simp only [step]
  split
  · exact h
  · rename_i store hstore
    have hheld : ∀ slot, service.manager.held slot = store.lookup slot := by
      intro slot
      rw [RunManager.held, hstore]
      rfl
    constructor
    · intro run hrun slot hslot record hrecord
      rcases IdempotencyStore.lookup_perform hrecord with hput | ⟨old, hold, hid⟩
      · exact absurd hslot (htakes store slot hstore hput run hrun)
      · exact hid.trans (h.live run hrun slot hslot old ((hheld slot).trans hold))
    · intro slot record hrecord runId hauthor
      obtain ⟨_, hauthor⟩ := eq_some_of_setAuthor hauthor
      obtain ⟨hne, hauthor⟩ := eq_some_of_setAuthor hauthor
      rcases IdempotencyStore.lookup_perform hrecord with hput | ⟨old, hold, hid⟩
      · exact absurd hput hne
      · exact hid.trans (h.responses slot old ((hheld slot).trans hold) runId hauthor)

theorem owned_step (event : Event) (h : service.Owned)
    (htakes : service.TakesOver event) : (service.step event).Owned := by
  cases event with
  | create env contract workspace => exact owned_create h htakes
  | finish index writes fin => exact owned_finish h index writes fin
  | abandon index =>
    exact ⟨fun run hrun => h.live run (mem_of_mem_eraseIdx hrun), h.responses⟩
  | other posture call => exact owned_other h htakes

theorem ownCompletion_of_owned (event : Event) (h : service.Owned) :
    service.OwnCompletion event := by
  rintro index writes fin run rfl hrun slot hchanged
  simp only [step, hrun] at hchanged
  have hsame := ManagedRun.sameRun_exec run writes
  rcases RunManager.held_finalize slot with hkept | ⟨hslot, record, _, hrecord, _⟩
  · exact absurd hkept hchanged
  · have hown : run.completionSlot = some slot := by
      unfold ManagedRun.completionSlot at hslot ⊢
      rw [hsame.idempotencyKey, hsame.tenantId] at hslot
      exact hslot
    exact ⟨record, hrecord, h.live run (mem_of_getElem? hrun) slot hown record hrecord⟩

theorem ownReplay_of_owned (event : Event) (h : service.Owned) : service.OwnReplay event := by
  rintro env contract workspace stub rfl hreplay
  obtain ⟨slot, record, hheld, hrun, hresponse⟩ :=
    RunManager.exists_held_of_replayed hreplay
  refine ⟨slot, record, hheld, hresponse, hrun, fun runId hauthor => ?_⟩
  exact (h.responses slot record hheld runId hauthor).symm.trans hrun

/-- In a run in which no slot is taken over from a live run, every end of a run
changes only the record of that run, and every replay returns a response that no
other run has written. -/
theorem along_ownCompletion {start : Service} (hstarts : start.Starts)
    (events : List Event) (htakes : Along step TakesOver start events) :
    Along step (fun service event =>
      service.OwnCompletion event ∧ service.OwnReplay event) start events :=
  along_of_invariant (fun _ event h htakes => owned_step event h htakes)
    (fun _ event h _ => ⟨ownCompletion_of_owned event h, ownReplay_of_owned event h⟩)
    (owned_of_starts hstarts) htakes

/-! ## A run that outlives its record -/

/-- The same request, made again after the record of the first has expired. -/
def resubmission : CreateEnv :=
  { RunManager.keyedSubmission with
    runId := "run-2"
    attemptId := "attempt-2"
    reservedAt := 86501
    createdAt := 86501
    persistedAt := 86501 }

def opened : Service := ⟨RunManager.idle, [], fun _ => none⟩

theorem starts_opened : opened.Starts := ⟨rfl, fun _ => rfl⟩

def overtaken : List Event :=
  [.create RunManager.keyedSubmission RunManager.keyed (some RunManager.owner),
    .create resubmission RunManager.keyed (some RunManager.owner),
    .finish 1 RunManager.lifetime RunManager.ending]

/-- The first run ends before the second takes its slot. -/
def succeeded : List Event :=
  [.create RunManager.keyedSubmission RunManager.keyed (some RunManager.owner),
    .finish 0 RunManager.lifetime RunManager.ending,
    .create resubmission RunManager.keyed (some RunManager.owner),
    .finish 0 RunManager.lifetime RunManager.ending]

/-- The end of the first run closes the record of the second. -/
theorem not_along_ownCompletion_overtaken : opened.Starts ∧ ¬ Along step (fun service event =>
        service.OwnCompletion event ∧ service.OwnReplay event) opened overtaken := by
  refine ⟨starts_opened, fun halong => ?_⟩
  obtain ⟨_, _, hfinish, _⟩ := halong
  obtain ⟨record, hrecord, hrun⟩ := hfinish.1 1 RunManager.lifetime RunManager.ending _
    rfl rfl ("tenant-1", "key-1") (fun hkept => by
      have hstatus := congrArg (Option.map IdempotencyRecord.status) hkept
      revert hstatus
      decide)
  have hsecond := congrArg (Option.map IdempotencyRecord.runId) hrecord
  rw [Option.map_some, hrun] at hsecond
  revert hsecond
  decide

theorem along_ownCompletion_succeeded : Along step (fun service event =>
      service.OwnCompletion event ∧ service.OwnReplay event) opened succeeded := by
  have hown : ∀ (service : Service) (env : CreateEnv), service.live = [] →
      service.manager.insertedSlot env RunManager.keyed (some RunManager.owner) =
        some ("tenant-1", "key-1") →
      service.TakesOver (.create env RunManager.keyed (some RunManager.owner)) := by
    intro service env hlive hput slot hslot
    obtain rfl := Option.some.inj (hput.symm.trans hslot)
    refine ⟨fun run hrun => ?_, .inl rfl⟩
    rw [hlive] at hrun
    cases hrun
  exact along_ownCompletion starts_opened succeeded
    ⟨hown _ _ rfl rfl, trivial, hown _ _ rfl rfl, trivial, trivial⟩

end Service

end HiAgent.Server
