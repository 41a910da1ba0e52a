/-
  Management/GateStore/Interchange.lean --- one set of gates, two backends.

  An `InMemoryGateAPI` with its defaults and a `SQLiteGateStore` take the same calls one after
  the other, under the same readings of the clock.
-/
import HiAgent.Management.GateStore

namespace HiAgent.Management

open Foundation Server List

variable {μ : Type}

/-! ## Calls -/

/-- A call of a gate backend, with what it reads from its surroundings. -/
inductive GateCall (μ : Type) where
  | create (request : GateRequest μ)
  | get (posture : Except String Posture) (gateRef : String) (tenantId : Option String)
      (internalUnscoped : Bool)
  | list (posture : Except String Posture) (tenantId : Option String) (internalUnscoped : Bool)
  | resolve (resolution : GateResolution) (now : Int)
  | applyTimeouts (clock : Nat → Int)

abbrev GateAnswer (μ : Type) := Except GateError (List (GateRecord μ))

namespace InMemoryGateApi

variable (env : GateEnv μ) (api : InMemoryGateApi μ)

def perform : GateCall μ → GateAnswer μ × InMemoryGateApi μ
  | .create request => (api.createGate request).map (Except.map fun record => [record]) id
  | .get posture gateRef tenantId internalUnscoped =>
    ((api.getGate env posture gateRef tenantId internalUnscoped).map fun record => [record], api)
  | .list posture tenantId internalUnscoped =>
    (api.listPending env posture tenantId internalUnscoped, api)
  | .resolve resolution now =>
    (api.resolve env resolution now).map (Except.map fun record => [record]) id
  | .applyTimeouts clock => api.applyTimeouts clock

end InMemoryGateApi

namespace SqliteGateStore

variable (env : GateEnv μ) (store : SqliteGateStore μ)

def perform : GateCall μ → GateAnswer μ × SqliteGateStore μ
  | .create request => (createGate env store request).map (Except.map fun record => [record]) id
  | .get posture gateRef tenantId internalUnscoped =>
    ((getGate env store posture gateRef tenantId internalUnscoped).map fun record => [record],
      store)
  | .list posture tenantId internalUnscoped =>
    (listPending env store posture tenantId internalUnscoped, store)
  | .resolve resolution now =>
    (resolve env store resolution now).map (Except.map fun record => [record]) id
  | .applyTimeouts clock => applyTimeouts env store clock

end SqliteGateStore

/-! ## The law -/

abbrev GateBackends (μ : Type) := InMemoryGateApi μ × SqliteGateStore μ

namespace GateBackends

def start : GateBackends μ := (.new true, Table.empty)

def step (env : GateEnv μ) : GateBackends μ → GateCall μ → GateBackends μ :=
  lockstep (fun api call => (api.perform env call).2)
    fun store call => (SqliteGateStore.perform env store call).2

def SelfApproved (resolution : GateResolution) (record : GateRecord μ) : Prop :=
  record.status = .approved ∧ (resolution.approver = record.context.submitter ∨
    Text.strip resolution.approver = record.context.submitter)

def Separated : GateCall μ → GateAnswer μ → Prop
  | .resolve resolution _, .ok records => ∀ record ∈ records, ¬ SelfApproved resolution record
  | _, _ => True

/-- Equal records or errors of one type, and no submitter approves its gate. -/
structure Agree (env : GateEnv μ) (backends : GateBackends μ) (call : GateCall μ) : Prop where
  same : (backends.1.perform env call).1.mapError GateError.typeName =
    (SqliteGateStore.perform env backends.2 call).1.mapError GateError.typeName
  separated : Separated call (backends.1.perform env call).1 ∧
    Separated call (SqliteGateStore.perform env backends.2 call).1

end GateBackends

/-- What a call is to avoid. -/
def InMemoryGateApi.Meets (env : GateEnv μ) (api : InMemoryGateApi μ) : GateCall μ → Prop
  | .create request => 0 < request.timeoutSeconds →
      env.json request.context.metadata = .ok request.context.metadata ∧
        api.records.get? request.context.gateRef = none ∧ request.ctx.projectId = ""
  | .get _ _ _ _ => True
  | .list posture tenantId internalUnscoped =>
    (tenantId = none →
      Succeeds (checkUnscopedRead posture env.repr "list_pending" none internalUnscoped)) →
        (api.waiting tenantId).Pairwise GateRecord.ListedBefore
  | .resolve resolution _ => ∀ approver action,
      InMemoryGateApi.checkResolution env resolution = .ok (approver, action) →
        Text.strip resolution.gateRef ≠ "" →
          ∀ record ∈ api.records.get? (Text.strip resolution.gateRef), record.status = .pending →
            Text.strip resolution.gateRef = resolution.gateRef ∧
              (action = .approve → resolution.approver ≠ record.context.submitter ∧
                approver ≠ record.context.submitter)
  | .applyTimeouts clock => GateRecord.Unbroken clock 0 (api.pending none)

/-! ## The rows hold the records -/

/-- A row that is read back as the record it was written from. -/
structure GateRow.Faithful (env : GateEnv μ) (row : GateRow μ) : Prop where
  sound : row.Sound
  tenantId : row.tenantId = row.payload.context.tenantId
  userId : row.userId = row.payload.context.userId
  sessionId : row.sessionId = row.payload.context.sessionId
  projectId : row.projectId = row.payload.context.projectId
  record : row.payload.projectId = ""
  json : env.json row.payload.context.metadata = .ok row.payload.context.metadata

theorem orElse_self (text : String) : orElse text text = text := by
  rw [orElse, ite_self]

theorem GateRow.Faithful.toRecord_eq {env : GateEnv μ} {row : GateRow μ}
    (h : row.Faithful env) : row.toRecord = row.payload := by
  obtain ⟨gateRef, projectId, status, payload, tenantId, userId, sessionId⟩ := row
  obtain ⟨-, htenant, huser, hsession, hproject, hrecord, -⟩ := h
  dsimp only at htenant huser hsession hproject hrecord
  subst htenant huser hsession hproject
  simp only [GateRow.toRecord, orElse_self, ← hrecord]

/-- Both hold the same records in the same order. -/
structure Mirrors (env : GateEnv μ) (api : InMemoryGateApi μ) (store : SqliteGateStore μ) :
    Prop where
  rows : api.records.rows = store.rows.map fun row => (row.gateRef, row.payload)
  faithful : ∀ row ∈ store.rows, row.Faithful env
  enforced : api.enforceSoc = true

namespace Mirrors

variable {env : GateEnv μ} {api : InMemoryGateApi μ} {store : SqliteGateStore μ}

section

variable (h : Mirrors env api store)
include h

theorem of_lookup {gateRef : String} {row : GateRow μ}
    (hrow : store.lookup gateRef = some row) : row.Faithful env :=
  h.faithful row (Table.lookup_eq_some_iff.mp hrow).1

theorem get? (gateRef : String) :
    api.records.get? gateRef = (store.lookup gateRef).map GateRow.payload := by
  rw [Dict.get?, Table.lookup, h.rows, find?_map, Option.map_map]
  rfl

theorem waiting (tenantId : Option String) : api.waiting tenantId = store.pending tenantId := by
  have hvalues : api.values = store.rows.map GateRow.payload := by
    rw [InMemoryGateApi.values, h.rows, map_map]
    rfl
  rw [InMemoryGateApi.waiting, hvalues, filter_map, SqliteGateStore.pending,
    SqliteGateStore.pendingRows, Table.select]
  have hfilter : store.rows.filter ((fun record : GateRecord μ => record.status == .pending &&
      tenantId.all (record.context.tenantId == ·)) ∘ GateRow.payload) =
        store.rows.filter fun row =>
          row.status == .pending && tenantId.all (row.tenantId == ·) := by
    refine filter_congr fun row hrow => ?_
    have hrow := h.faithful row hrow
    rw [Function.comp_apply, hrow.sound.status, hrow.tenantId]
  rw [hfilter]
  exact map_congr_left fun row hrow =>
    ((h.faithful row (mem_of_mem_filter hrow)).toRecord_eq).symm

theorem sound : SqliteGateStore.Sound store :=
  fun row hrow => (h.faithful row hrow).sound

theorem create {row : GateRow μ} (hrow : row.Faithful env)
    (hfresh : store.lookup row.gateRef = none) :
    Mirrors env (api.put row.gateRef row.payload) (store.insertOrReplace row) := by
  have hnew : api.records.get? row.gateRef = none := by rw [h.get?, hfresh]; rfl
  constructor
  case rows =>
    rw [InMemoryGateApi.put, Dict.rows_set_of_none hnew, Table.rows_insertOrReplace hfresh,
      map_append, h.rows]
    rfl
  case faithful =>
    intro other hother
    rw [Table.rows_insertOrReplace hfresh] at hother
    rcases mem_append.mp hother with hold | hnew
    · exact h.faithful other hold
    · rw [mem_singleton.mp hnew]
      exact hrow
  case enforced => exact h.enforced

theorem write {gateRef : String} {row : GateRow μ}
    (hrow : store.lookup gateRef = some row) {record : GateRecord μ}
    (hcontext : record.context = row.payload.context) (hproject : record.projectId = "") :
    SqliteGateStore.write env store (gateRef, record) =
        (.ok (), store.updateAt gateRef (fun _ => true) (GateRow.decided record)) ∧
      Mirrors env (api.put gateRef record)
        (store.updateAt gateRef (fun _ => true) (GateRow.decided record)) := by
  have hfair := h.of_lookup hrow
  have hpayload : recordToPayload env record = .ok record := by
    rw [recordToPayload, hcontext, hfair.json, ← hproject, ← hcontext]
    rfl
  have hsome : (api.records.get? gateRef).isSome := by rw [h.get?, hrow]; rfl
  refine ⟨by rw [SqliteGateStore.write, hpayload], ?_, ?_, h.enforced⟩
  · rw [InMemoryGateApi.put, Dict.rows_set_of_some hsome, h.rows, map_map,
      Table.updateAt, Table.update, map_map]
    refine map_congr_left fun other _ => ?_
    by_cases hsame : other.gateRef = gateRef
    · simp [hsame, GateRow.decided]
    · simp [hsame]
  · intro other hother
    have hother := Table.mem_rows_iff.mp hother
    rw [Table.lookup_updateAt] at hother
    split at hother
    · rename_i hsame
      rw [hrow] at hother
      obtain rfl := Option.some.inj hother
      have hkey : row.gateRef = gateRef := Table.key_of_lookup hrow
      exact
        { sound := ⟨(congrArg GateContext.gateRef hcontext).trans hfair.sound.gateRef, rfl⟩
          tenantId := hfair.tenantId.trans (congrArg GateContext.tenantId hcontext).symm
          userId := hfair.userId.trans (congrArg GateContext.userId hcontext).symm
          sessionId := hfair.sessionId.trans (congrArg GateContext.sessionId hcontext).symm
          projectId := hfair.projectId.trans (congrArg GateContext.projectId hcontext).symm
          record := hproject
          json := by
            change env.json record.context.metadata = .ok record.context.metadata
            rw [hcontext]
            exact hfair.json }
    · exact h.of_lookup hother

theorem writeAll {updates : List (GateRecord μ)}
    (hupdates : ∀ record ∈ updates, record.projectId = "" ∧ ∃ row,
      store.lookup record.context.gateRef = some row ∧ record.context = row.payload.context) :
    (SqliteGateStore.writeAll env updates store).1 = .ok () ∧
      Mirrors env (updates.foldl (fun api record => api.put record.context.gateRef record) api)
        (SqliteGateStore.writeAll env updates store).2 := by
  induction updates generalizing api store with
  | nil => exact ⟨rfl, h⟩
  | cons first rest ih =>
    obtain ⟨hproject, row, hrow, hfirst⟩ := hupdates first mem_cons_self
    obtain ⟨hwrite, hmirrors⟩ := h.write hrow hfirst hproject
    rw [SqliteGateStore.writeAll, hwrite, foldl_cons]
    refine ih hmirrors fun record hrecord => ?_
    obtain ⟨hproject, other, hother, hcontext⟩ :=
      hupdates record (mem_cons_of_mem first hrecord)
    refine ⟨hproject, ?_⟩
    rw [Table.lookup_updateAt]
    split
    · rename_i hsame
      rw [hsame, hrow] at hother
      obtain rfl := Option.some.inj hother
      exact ⟨(GateRow.decided first).set row, by rw [hrow]; rfl, hcontext.trans hfirst.symm⟩
    · exact ⟨other, hother, hcontext⟩

theorem getGate (posture : Except String Posture) (gateRef : String)
    (tenantId : Option String) (internalUnscoped : Bool) :
    api.getGate env posture gateRef tenantId internalUnscoped =
      SqliteGateStore.getGate env store posture gateRef tenantId internalUnscoped := by
  unfold InMemoryGateApi.getGate SqliteGateStore.getGate
  dsimp only
  rw [h.get?]
  cases hrow : store.lookup (Text.strip gateRef) with
  | none => rfl
  | some row =>
    have hfair := h.of_lookup hrow
    rw [Option.map_some, ← hfair.toRecord_eq]
    dsimp only
    rw [hfair.tenantId, hfair.toRecord_eq]

end

/-! ## Resolutions -/

theorem judgeResolution_of_pending (h : Mirrors env api store) {resolution : GateResolution}
    {approver : String} {action : GateAction}
    (hcheck : InMemoryGateApi.checkResolution env resolution = .ok (approver, action))
    (hstrip : Text.strip resolution.gateRef = resolution.gateRef) (hne : resolution.gateRef ≠ "")
    {row : GateRow μ} (hrow : store.lookup resolution.gateRef = some row)
    (hpending : row.payload.status = .pending) (now : Int) :
    SqliteGateStore.judgeResolution env store resolution now =
      .ok (InMemoryGateApi.resolved row.payload resolution approver action now) := by
  have hget : api.records.get? (Text.strip resolution.gateRef) = some row.payload := by
    rw [hstrip, h.get?, hrow]
    rfl
  have hfound : api.getGate env (.ok .dev) resolution.gateRef none true = .ok row.payload :=
    InMemoryGateApi.getGate_of_stored (hstrip.symm ▸ hne) hget
  rw [SqliteGateStore.judgeResolution, ← h.getGate, hfound]
  have hcopy : ((InMemoryGateApi.new false).put resolution.gateRef row.payload).records.get?
      (Text.strip resolution.gateRef) = some row.payload := by
    rw [InMemoryGateApi.put, Dict.get?_set, if_pos hstrip]
  have hresolve := InMemoryGateApi.resolve_of_pending hcheck (hstrip.symm ▸ hne) hcopy hpending
    (fun hfalse => by cases hfalse) now
  exact congrArg Prod.fst hresolve

theorem raises_judgeResolution (h : Mirrors env api store) (resolution : GateResolution)
    (now : Int) : RaisesValueError (SqliteGateStore.judgeResolution env store resolution now) := by
  intro error hjudge
  rw [SqliteGateStore.judgeResolution, ← h.getGate] at hjudge
  cases hget : api.getGate env (.ok .dev) resolution.gateRef none true with
  | error raised =>
    rw [hget] at hjudge
    obtain rfl := Except.error.inj hjudge
    exact InMemoryGateApi.raises_getGate resolution.gateRef raised hget
  | ok record =>
    rw [hget] at hjudge
    exact InMemoryGateApi.raises_resolve (fun _ _ _ _ _ _ _ hfalse => by cases hfalse)
      error hjudge

end Mirrors

/-! ## One call -/

/-- Both answer a call alike, and hold the same records behind it. -/
structure AnswersAlike (env : GateEnv μ) (call : GateCall μ)
    (inMemory : GateAnswer μ × InMemoryGateApi μ) (sqlite : GateAnswer μ × SqliteGateStore μ) :
    Prop where
  same : inMemory.1.mapError GateError.typeName = sqlite.1.mapError GateError.typeName
  separated : GateBackends.Separated call inMemory.1 ∧ GateBackends.Separated call sqlite.1
  mirrors : Mirrors env inMemory.2 sqlite.2

section OneCall

variable {env : GateEnv μ} {api : InMemoryGateApi μ} {store : SqliteGateStore μ}

section

variable (h : Mirrors env api store)
include h

variable {call : GateCall μ}

theorem AnswersAlike.of_errors {left right : GateError} (htype : left.typeName = right.typeName) :
    AnswersAlike env call (.error left, api) (.error right, store) := by
  refine ⟨congrArg Except.error htype, ⟨?_, ?_⟩, h⟩
  · cases call <;> trivial
  · cases call <;> trivial

theorem AnswersAlike.of_eq {answer : GateAnswer μ}
    (hseparated : GateBackends.Separated call answer) :
    AnswersAlike env call (answer, api) (answer, store) :=
  ⟨rfl, ⟨hseparated, hseparated⟩, h⟩

theorem alike_create {request : GateRequest μ} (hmeets : api.Meets env (.create request)) :
    AnswersAlike env (.create request) (api.perform env (.create request))
      (SqliteGateStore.perform env store (.create request)) := by
  simp only [InMemoryGateApi.perform, SqliteGateStore.perform]
  rw [InMemoryGateApi.createGate, SqliteGateStore.createGate]
  split
  · exact AnswersAlike.of_eq h trivial
  · rename_i hpos
    obtain ⟨hjson, hfresh, hproject⟩ := hmeets (not_le.mp hpos)
    have hlookup : store.lookup request.ctx.gateRef = none := by
      rw [h.get?] at hfresh
      exact Option.map_eq_none_iff.mp hfresh
    have hpayload : recordToPayload env (request.record "") = .ok (request.record "") := by
      have hjson : env.json (request.record "").context.metadata =
          .ok (request.record "").context.metadata := hjson
      rw [recordToPayload, hjson]
      rfl
    rw [if_neg (by rw [hfresh]; exact Bool.false_ne_true)]
    simp only [hpayload, hlookup, hproject]
    have hrow : GateRow.Faithful env
        { gateRef := request.ctx.gateRef
          projectId := ""
          status := .pending
          payload := request.record ""
          tenantId := request.ctx.tenantId
          userId := request.ctx.userId
          sessionId := request.ctx.sessionId } :=
      { sound := ⟨rfl, rfl⟩
        tenantId := rfl
        userId := rfl
        sessionId := rfl
        projectId := hproject.symm
        record := rfl
        json := hjson }
    exact AnswersAlike.of_eq (h.create hrow hlookup) trivial

theorem alike_list {posture : Except String Posture}
    {tenantId : Option String} {internalUnscoped : Bool}
    (hmeets : api.Meets env (.list posture tenantId internalUnscoped)) :
    AnswersAlike env (.list posture tenantId internalUnscoped)
      (api.perform env (.list posture tenantId internalUnscoped))
      (SqliteGateStore.perform env store (.list posture tenantId internalUnscoped)) := by
  have hsorted : ∀ tenantId, (api.waiting tenantId).Pairwise GateRecord.ListedBefore →
      api.pending tenantId = store.pending tenantId := by
    intro tenantId hordered
    rw [InMemoryGateApi.pending, hordered.insertionSort_eq, h.waiting]
  simp only [InMemoryGateApi.perform, SqliteGateStore.perform]
  cases tenantId with
  | some tenantId =>
    have hordered := hsorted (some tenantId) (hmeets fun hnone => by cases hnone)
    rw [InMemoryGateApi.listPending, SqliteGateStore.listPending, hordered]
    exact AnswersAlike.of_eq h trivial
  | none =>
    rw [InMemoryGateApi.listPending, SqliteGateStore.listPending]
    cases hcheck : checkUnscopedRead posture env.repr "list_pending" none internalUnscoped with
    | error error => exact AnswersAlike.of_eq h trivial
    | ok checked =>
      have hordered := hsorted none (hmeets fun _ => ⟨checked, hcheck⟩)
      rw [hordered]
      exact AnswersAlike.of_eq h trivial

theorem alike_resolve {resolution : GateResolution} {now : Int}
    (hmeets : api.Meets env (.resolve resolution now)) :
    AnswersAlike env (.resolve resolution now) (api.perform env (.resolve resolution now))
      (SqliteGateStore.perform env store (.resolve resolution now)) := by
  simp only [InMemoryGateApi.perform, SqliteGateStore.perform]
  cases hjudge : SqliteGateStore.judgeResolution env store resolution now with
  | ok record =>
    obtain ⟨approver, action, row, hcheck, hstrip, hne, hrow, hpending, rfl⟩ :=
      SqliteGateStore.of_judgeResolution hjudge
    have hfair := h.of_lookup hrow
    rw [hfair.toRecord_eq] at hjudge
    have hget : api.records.get? (Text.strip resolution.gateRef) = some row.payload := by
      rw [hstrip, h.get?, hrow]
      rfl
    obtain ⟨-, hsubmitter⟩ :=
      hmeets approver action hcheck (hstrip.symm ▸ hne) row.payload hget hpending
    have hresolve := InMemoryGateApi.resolve_of_pending hcheck (hstrip.symm ▸ hne) hget hpending
      (fun _ happrove => (hsubmitter happrove).2) now
    have hkey : row.payload.context.gateRef = resolution.gateRef :=
      hfair.sound.gateRef.trans (Table.key_of_lookup hrow)
    have hcontext : (InMemoryGateApi.resolved row.payload resolution approver action
        now).context = row.payload.context := rfl
    obtain ⟨hwrite, hmirrors⟩ := h.write hrow hcontext hfair.record
    rw [hresolve, SqliteGateStore.resolve, hkey]
    simp only [hjudge, hwrite]
    refine AnswersAlike.of_eq hmirrors fun record hrecord => ?_
    rw [mem_singleton.mp hrecord]
    rintro ⟨hpass, hself⟩
    cases action with
    | approve =>
      have hchecked : approver = Text.strip resolution.approver :=
        InMemoryGateApi.approver_of_check hcheck
      rcases hself with hraw | hstripped
      · exact (hsubmitter rfl).1 hraw
      · exact (hsubmitter rfl).2 (hchecked.trans hstripped)
    | _ => cases hpass
  | error error =>
    have hmem : RaisesValueError (api.resolve env resolution now).1 := by
      refine InMemoryGateApi.raises_resolve ?_
      intro approver action old hcheck hne hget hpending _ happrove
      exact ((hmeets approver action hcheck hne old hget hpending).2 happrove).2
    have hfails : ¬ Succeeds (api.resolve env resolution now).1 := by
      rintro ⟨record, hrecord⟩
      obtain ⟨approver, action, old, hcheck, hne, hget, hpending, -⟩ :=
        InMemoryGateApi.of_resolve hrecord
      obtain ⟨hstrip, -⟩ := hmeets approver action hcheck hne old hget hpending
      rw [hstrip] at hget hne
      rw [h.get?] at hget
      obtain ⟨row, hrow, rfl⟩ := Option.map_eq_some_iff.mp hget
      have hresolved :=
        h.judgeResolution_of_pending hcheck hstrip hne hrow hpending now
      rw [hjudge] at hresolved
      cases hresolved
    obtain ⟨raised, hraised⟩ := not_succeeds_iff.mp hfails
    have hmemory : api.resolve env resolution now = (.error raised, api) :=
      Prod.ext hraised (InMemoryGateApi.resolve_snd_of_error hraised)
    have hsqlite : SqliteGateStore.resolve env store resolution now = (.error error, store) := by
      rw [SqliteGateStore.resolve, hjudge]
    rw [hmemory, hsqlite]
    exact AnswersAlike.of_errors h ((hmem raised hraised).trans
      (h.raises_judgeResolution resolution now error hjudge).symm)

theorem judgeTimeouts_eq (clock : Nat → Int) :
    SqliteGateStore.judgeTimeouts store clock =
      GateRecord.expireAll clock 0 (api.pending none) := by
  have hsorted : api.pending none = (store.pending none).insertionSort GateRecord.ListedBefore := by
    rw [InMemoryGateApi.pending, h.waiting]
  have hall : (SqliteGateStore.copyOf (store.pending none)).waiting none = store.pending none := by
    rw [InMemoryGateApi.waiting, SqliteGateStore.values_copyOf (h.sound.nodup_pending none),
      filter_eq_self]
    intro record hrecord
    obtain ⟨row, hrow, rfl⟩ := mem_map.mp hrecord
    obtain ⟨hrow, hstatus⟩ := mem_filter.mp hrow
    rw [GateRow.status_toRecord, (h.sound row hrow).status]
    exact hstatus
  rw [SqliteGateStore.judgeTimeouts, InMemoryGateApi.applyTimeouts, InMemoryGateApi.sweep_fst,
    InMemoryGateApi.pending, hall, ← hsorted]
  split
  · rename_i hempty
    rw [hsorted, List.isEmpty_iff.mp hempty]
    rfl
  · cases GateRecord.expireAll clock 0 (api.pending none) <;> rfl

theorem alike_applyTimeouts {clock : Nat → Int} (hmeets : api.Meets env (.applyTimeouts clock)) :
    AnswersAlike env (.applyTimeouts clock) (api.perform env (.applyTimeouts clock))
      (SqliteGateStore.perform env store (.applyTimeouts clock)) := by
  have hmemory := InMemoryGateApi.sweep_fst clock 0 (api.pending none) [] api
  simp only [InMemoryGateApi.perform, SqliteGateStore.perform]
  rw [InMemoryGateApi.applyTimeouts, SqliteGateStore.applyTimeouts, judgeTimeouts_eq h]
  cases hexpire : GateRecord.expireAll clock 0 (api.pending none) with
  | error error =>
    rw [hexpire] at hmemory
    have hsweep : InMemoryGateApi.sweep clock 0 (api.pending none) api [] = (.error error, api) :=
      Prod.ext hmemory (InMemoryGateApi.sweep_snd_of_error hmeets hexpire api [])
    rw [hsweep]
    exact AnswersAlike.of_errors h rfl
  | ok updates =>
    rw [hexpire] at hmemory
    have hupdates : ∀ record ∈ updates, record.projectId = "" ∧ ∃ row,
        store.lookup record.context.gateRef = some row ∧ record.context = row.payload.context := by
      intro record hrecord
      obtain ⟨old, hold, outcome, rfl⟩ := GateRecord.of_expireAll hexpire record hrecord
      rw [InMemoryGateApi.pending, mem_insertionSort, h.waiting] at hold
      obtain ⟨row, hrow, rfl⟩ := mem_map.mp hold
      have hrow := mem_of_mem_filter hrow
      have hfair := h.faithful row hrow
      rw [hfair.toRecord_eq, GateRecord.projectId_timedOut, GateRecord.context_timedOut,
        hfair.sound.gateRef]
      exact ⟨hfair.record, row, Table.mem_rows_iff.mp hrow, rfl⟩
    obtain ⟨hdone, hmirrors⟩ := h.writeAll hupdates
    have hsweep : InMemoryGateApi.sweep clock 0 (api.pending none) api [] =
        (.ok updates, updates.foldl (fun api record => api.put record.context.gateRef record)
          api) :=
      Prod.ext hmemory (InMemoryGateApi.sweep_snd hexpire api [])
    rw [hsweep]
    cases hwrite : SqliteGateStore.writeAll env updates store with
    | mk result written =>
      rw [hwrite] at hdone hmirrors
      have hok : result = .ok () := hdone
      subst hok
      have hseparated : GateBackends.Separated (.applyTimeouts clock) (.ok updates) := trivial
      simp only [hwrite]
      exact AnswersAlike.of_eq hmirrors hseparated

theorem answersAlike (hmeets : api.Meets env call) :
    AnswersAlike env call (api.perform env call) (SqliteGateStore.perform env store call) := by
  cases call with
  | create request => exact alike_create h hmeets
  | get posture gateRef tenantId internalUnscoped =>
    simp only [InMemoryGateApi.perform, SqliteGateStore.perform]
    rw [h.getGate]
    exact AnswersAlike.of_eq h trivial
  | list posture tenantId internalUnscoped => exact alike_list h hmeets
  | resolve resolution now => exact alike_resolve h hmeets
  | applyTimeouts clock => exact alike_applyTimeouts h hmeets

end

end OneCall

/-! ## Runs -/

namespace GateBackends

theorem mirrors_start (env : GateEnv μ) : Mirrors env (start : GateBackends μ).1 start.2 where
  rows := rfl
  faithful := fun _ hrow => by cases hrow
  enforced := rfl

/-- The backends answer every call of a run alike, if each call avoids what they do
differently. -/
theorem agree_of_meets (env : GateEnv μ) (calls : List (GateCall μ))
    (hmeets : Along (step env) (fun backends call => backends.1.Meets env call) start calls) :
    Along (step env) (Agree env) start calls := by
  have hkeeps : ∀ (backends : GateBackends μ) call, Mirrors env backends.1 backends.2 →
      backends.1.Meets env call →
        Mirrors env (step env backends call).1 (step env backends call).2 :=
    fun backends call h hmeets => (answersAlike h hmeets).mirrors
  have hagree : ∀ (backends : GateBackends μ) call, Mirrors env backends.1 backends.2 →
      backends.1.Meets env call → Agree env backends call := by
    intro backends call h hmeets
    have halike := answersAlike h hmeets
    exact ⟨halike.same, halike.separated⟩
  exact along_of_invariant hkeeps hagree (mirrors_start env) hmeets

/-- The request for a gate of `sub`. -/
def requested : GateRequest Unit where
  context :=
    { gateRef := "g1"
      runId := "r1"
      stageId := "s1"
      branchId := "b1"
      submitter := "sub"
      decisionRef := none
      rationale := none
      openedAt := 0
      metadata := ()
      tenantId := "t1"
      userId := ""
      sessionId := ""
      projectId := "" }
  timeoutSeconds := 300
  timeoutPolicy := .reject
  escalationTarget := none
  execCtx := none
  spine := ⟨"", "", "", ""⟩

/-- A gate is created, listed and approved by somebody else. -/
theorem agree_reviewed : Along (step ⟨id, id, .ok⟩) (Agree ⟨id, id, .ok⟩) start
      [.create requested, .list (.ok .dev) none false,
        .resolve ⟨"g1", "approve", "ann", none, none⟩ 1] := by
  apply agree_of_meets
  refine ⟨fun _ => ⟨rfl, rfl, rfl⟩, fun _ => by decide, ?_, trivial⟩
  intro approver action hcheck _ record hrecord _
  have hsubmitter : record = requested.record "" := by
    have hstored : some record = some (requested.record "") := hrecord.symm.trans (by decide)
    exact Option.some.inj hstored
  have happrover : approver = "ann" :=
    (InMemoryGateApi.approver_of_check hcheck).trans (by decide)
  rw [hsubmitter, happrover]
  exact ⟨by decide, fun _ => ⟨by decide, by decide⟩⟩

/-- The submitter approves its own gate in the store. -/
theorem not_forall_agree : ¬ ∀ (env : GateEnv Unit) (calls : List (GateCall Unit)),
    Along (step env) (Agree env) start calls := by
  intro h
  have hsame := (h ⟨id, id, .ok⟩
    [.create requested, .resolve ⟨"g1", "approve", "sub", none, none⟩ 1]).2.1.same
  exact absurd hsame (by decide)

end GateBackends

end HiAgent.Management
