/-
  Server/TeamRunRegistry.lean --- the registry of `hi_agent/server/team_run_registry.py`.

  One table, whose primary key is the team id alone. A `TeamRun` of
  `hi_agent/contracts/team_runtime.py` is checked wherever one is constructed. Reads, deletes
  and updates ask for the tenant; the replacing insert does not.
-/
import HiAgent.Server.Idempotency
import Mathlib.Data.List.Induction

namespace HiAgent.Server

open Foundation

/-! ## Team runs -/

/-- What the calls on a registry raise. -/
inductive TeamRunError where
  | value (message : String)
  | spineCompleteness (message : String)

/-- The fields of a `TeamRun`. -/
structure TeamRunFields where
  teamId : String
  projectId : String
  tenantId : String
  memberRuns : List (String × String)
  createdAt : String
  userId : String
  sessionId : String
  piRunId : String
  leadRunId : String

def TeamRunFields.missing (fields : TeamRunFields) : List String :=
  (if fields.tenantId = "" then ["tenant_id"] else []) ++
    (if fields.projectId = "" then ["project_id"] else [])

/-- `TeamRun`: under a strict posture the spine is complete. -/
structure TeamRun (posture : Posture) where
  fields : TeamRunFields
  spine : posture.isStrict = true → fields.missing = []

/-- `TeamRun.__post_init__`. -/
def TeamRun.construct (posture : Posture) (fields : TeamRunFields) :
    Except TeamRunError (TeamRun posture) :=
  if hmissing : fields.missing = [] then .ok ⟨fields, fun _ => hmissing⟩
  else if hstrict : posture.isStrict = true then
    .error (.spineCompleteness
      ("TeamRun constructed without required spine fields " ++
        "under posture=" ++ posture.value ++ ": missing=" ++
        printNames fields.missing ++ ". " ++
        "Populate at the construction site (Rule 12)."))
  else .ok ⟨fields, fun h => absurd h hstrict⟩

/-- A row of `team_runs`. -/
structure TeamRow where
  teamId : String
  piRunId : String
  projectId : String
  memberRuns : List (String × String)
  createdAt : String
  status : String
  finishedAt : Int
  tenantId : String
  userId : String
  sessionId : String
  leadRunId : String

/-- `SET status = ?, finished_at = ?`. -/
def TeamRow.toStatus (status : String) (finishedAt : Int) : Assignment TeamRow.teamId where
  set row := { row with status, finishedAt }
  keeps _ := rfl

/-- `AND tenant_id = ?`, a clause that is there when the tenant id is not empty. -/
def TeamRow.inScope (tenantId : String) (row : TeamRow) : Bool :=
  tenantId == "" || row.tenantId == tenantId

/-- `TeamRunRegistry`: its table. -/
abbrev TeamRunRegistry := Table TeamRow.teamId

namespace TeamRunRegistry

variable {posture : Posture} (registry : TeamRunRegistry)

def toRow (run : TeamRun posture) : TeamRow :=
  let lead := overriding run.fields.leadRunId run.fields.piRunId
  { teamId := run.fields.teamId
    piRunId := lead
    projectId := run.fields.projectId
    memberRuns := run.fields.memberRuns
    createdAt := run.fields.createdAt
    status := "created"
    finishedAt := 0
    tenantId := run.fields.tenantId
    userId := run.fields.userId
    sessionId := run.fields.sessionId
    leadRunId := lead }

def fromRow (posture : Posture) (row : TeamRow) : Except TeamRunError (TeamRun posture) :=
  TeamRun.construct posture
    { teamId := row.teamId
      projectId := row.projectId
      tenantId := row.tenantId
      memberRuns := row.memberRuns
      createdAt := row.createdAt
      userId := row.userId
      sessionId := row.sessionId
      piRunId := ""
      leadRunId := overriding row.leadRunId row.piRunId }

/-- The fields of a run after `exec_ctx` has been applied: a project is taken over only
where the run has none. -/
def withContext (fields : TeamRunFields) : Option RunExecutionContext → TeamRunFields
  | none => fields
  | some ctx => { fields with
      tenantId := overriding ctx.tenantId fields.tenantId
      userId := overriding ctx.userId fields.userId
      sessionId := overriding ctx.sessionId fields.sessionId
      projectId := overriding fields.projectId ctx.projectId }

def register (run : TeamRun posture) (execCtx : Option RunExecutionContext) :
    Except TeamRunError TeamRunRegistry :=
  if run.fields.tenantId = "" ∧ posture.isStrict = true then
    .error (.value "tenant_id is required under research/prod posture (Rule 12)")
  else
    (TeamRun.construct posture (withContext run.fields execCtx)).map fun run =>
      registry.insertOrReplace (toRow run)

def requireTenantId (posture : Posture) (tenantId : Option String) (op : String) :
    Except TeamRunError String :=
  let given := tenantId.getD ""
  if Text.strip given ≠ "" then .ok given
  else if posture.isStrict = true then
    .error (.value ("tenant_id is required under research/prod posture for " ++ op ++
      "() (Rule 12; W32 Track B Gap 3)"))
  else .ok given

/-- The row that `get` fetches. -/
def fetch (teamId tenantId : String) : Option TeamRow :=
  (registry.lookup teamId).filter (TeamRow.inScope tenantId)

def get (posture : Posture) (teamId : String) (tenantId : Option String) :
    Except TeamRunError (Option (TeamRun posture)) :=
  (requireTenantId posture tenantId "get").bind fun tenantId =>
    match registry.fetch teamId tenantId with
    | none => .ok none
    | some row => (fromRow posture row).map some

def listMembers (posture : Posture) (teamId : String) (tenantId : Option String) :
    Except TeamRunError (List (String × String)) :=
  (registry.get posture teamId tenantId).map fun run =>
    (run.map fun run => run.fields.memberRuns).getD []

def unregister (posture : Posture) (teamId : String) (tenantId : Option String) :
    Except TeamRunError TeamRunRegistry :=
  (requireTenantId posture tenantId "unregister").map fun tenantId =>
    registry.deleteAt teamId (TeamRow.inScope tenantId)

/-- `set_status`, at a reading of the clock. -/
def setStatus (posture : Posture) (now : Int) (teamId status : String) (finishedAt : Option Int)
    (tenantId : Option String) : Except TeamRunError TeamRunRegistry :=
  (requireTenantId posture tenantId "set_status").map fun tenantId =>
    let finished :=
      finishedAt.getD (if status ∈ ["completed", "failed", "cancelled"] then now else 0)
    registry.updateAt teamId (TeamRow.inScope tenantId) (TeamRow.toStatus status finished)

/-! ## Calls -/

/-- A call on the registry. -/
inductive TeamCall (posture : Posture) where
  | register (run : TeamRun posture) (execCtx : Option RunExecutionContext)
  | get (teamId : String) (tenantId : Option String)
  | listMembers (teamId : String) (tenantId : Option String)
  | unregister (teamId : String) (tenantId : Option String)
  | setStatus (now : Int) (teamId status : String) (finishedAt : Option Int)
      (tenantId : Option String)

/-- What a call returns. -/
inductive TeamAnswer (posture : Posture) where
  | run (result : Except TeamRunError (Option (TeamRun posture)))
  | members (result : Except TeamRunError (List (String × String)))
  | written (result : Except TeamRunError Unit)

/-- The tenant in whose name a call is made: `register` takes the one of the execution
context, when there is one, for the one of the run. -/
def TeamCall.tenantId : TeamCall posture → String
  | .register run execCtx => (withContext run.fields execCtx).tenantId
  | .get _ tenantId => tenantId.getD ""
  | .listMembers _ tenantId => tenantId.getD ""
  | .unregister _ tenantId => tenantId.getD ""
  | .setStatus _ _ _ _ tenantId => tenantId.getD ""

/-- `get` and `list_members`. -/
def TeamCall.Reads : TeamCall posture → Prop
  | .get _ _ => True
  | .listMembers _ _ => True
  | _ => False

def after : Except TeamRunError TeamRunRegistry → TeamRunRegistry
  | .ok written => written
  | .error _ => registry

/-- One call. -/
def perform (call : TeamCall posture) : TeamAnswer posture × TeamRunRegistry :=
  let written (result : Except TeamRunError TeamRunRegistry) :
      TeamAnswer posture × TeamRunRegistry :=
    (.written (result.map fun _ => ()), registry.after result)
  match call with
  | .register run execCtx => written (registry.register run execCtx)
  | .get teamId tenantId => (.run (registry.get posture teamId tenantId), registry)
  | .listMembers teamId tenantId =>
    (.members (registry.listMembers posture teamId tenantId), registry)
  | .unregister teamId tenantId => written (registry.unregister posture teamId tenantId)
  | .setStatus now teamId status finishedAt tenantId =>
    written (registry.setStatus posture now teamId status finishedAt tenantId)

def step (call : TeamCall posture) : TeamRunRegistry := (registry.perform call).2

open List

variable {posture : Posture} {registry other : TeamRunRegistry} {call : TeamCall posture}
variable {tenantId teamId : String}

def held (registry : TeamRunRegistry) (tenantId teamId : String) : Option TeamRow :=
  (registry.lookup teamId).filter fun row => row.tenantId == tenantId

/-- `_require_tenant_id` lets the tenant pass. -/
def Admitted (posture : Posture) (tenantId : String) : Prop :=
  Text.strip tenantId ≠ "" ∨ posture.isStrict = false

/-- The call does not register a team id under which another tenant holds a row that it
may read. -/
def Unheld (registry : TeamRunRegistry) : TeamCall posture → Prop
  | .register run execCtx =>
    ∀ row ∈ registry.lookup run.fields.teamId, Admitted posture row.tenantId →
      row.tenantId = (TeamCall.register run execCtx).tenantId
  | _ => True

/-! ## Statements -/

theorem held_eq_some_iff {row : TeamRow} : registry.held tenantId teamId = some row ↔
      registry.lookup teamId = some row ∧ row.tenantId = tenantId := by
  rw [held, Option.filter_eq_some_iff, beq_iff_eq]

theorem held_eq_none_iff : registry.held tenantId teamId = none ↔
      ∀ row, registry.lookup teamId = some row → row.tenantId ≠ tenantId := by
  simp [held, Option.filter_eq_none_iff]

theorem inScope_eq (hnamed : tenantId ≠ "") (row : TeamRow) :
    TeamRow.inScope tenantId row = (row.tenantId == tenantId) := by
  simp [TeamRow.inScope, hnamed]

theorem fetch_eq (hnamed : tenantId ≠ "") :
    registry.fetch teamId tenantId = registry.held tenantId teamId := by
  rw [fetch, held, funext (inScope_eq hnamed)]

theorem held_insertOrReplace (row : TeamRow) : held (registry.insertOrReplace row) tenantId teamId =
      if teamId = row.teamId then (if row.tenantId = tenantId then some row else none)
      else registry.held tenantId teamId := by
  rw [held, Table.lookup_insertOrReplace]
  split
  · simp [Option.filter]
  · rfl

theorem held_deleteAt {scope : String} (hnamed : scope ≠ "") (target : String) :
    held (registry.deleteAt target (TeamRow.inScope scope)) tenantId teamId =
      if teamId = target ∧ scope = tenantId then none else registry.held tenantId teamId := by
  rw [held, Table.lookup_deleteAt, funext (inScope_eq hnamed)]
  by_cases htarget : teamId = target
  · subst htarget
    cases hrow : registry.lookup teamId with
    | none => simp [held, hrow]
    | some row =>
      by_cases hmine : row.tenantId = tenantId
      · subst hmine
        by_cases hscope : row.tenantId = scope
        · simp [Option.filter, hscope]
        · simp [held, hrow, Option.filter, hscope, Ne.symm hscope]
      · by_cases hscope : row.tenantId = scope
        · have hkept : scope ≠ tenantId := fun h => hmine (hscope.trans h)
          simp [held, hrow, Option.filter, hscope, hkept]
        · simp [held, hrow, Option.filter, hmine, hscope]
  · simp [htarget, held]

theorem held_updateAt {scope : String} (hnamed : scope ≠ "") (target status : String)
    (finishedAt : Int) :
    held (registry.updateAt target (TeamRow.inScope scope) (TeamRow.toStatus status finishedAt))
        tenantId teamId = if teamId = target ∧ scope = tenantId then
        (registry.held tenantId teamId).map (TeamRow.toStatus status finishedAt).set
      else registry.held tenantId teamId := by
  rw [held, Table.lookup_updateAt, funext (inScope_eq hnamed)]
  by_cases htarget : teamId = target
  · subst htarget
    cases hrow : registry.lookup teamId with
    | none => simp [held, hrow]
    | some row =>
      by_cases hscope : scope = tenantId
      · subst hscope
        by_cases hmine : row.tenantId = scope <;>
          simp [held, hrow, Option.filter, hmine, TeamRow.toStatus]
      · by_cases hmine : row.tenantId = scope
        · simp [held, hrow, Option.filter, hmine, hscope, TeamRow.toStatus]
        · simp [held, hrow, Option.filter, hmine, hscope]
  · simp [htarget, held]

/-! ## One call -/

theorem requireTenantId_cases (posture : Posture) (given : Option String) (op : String) :
    requireTenantId posture given op = .ok (given.getD "") ∧ Admitted posture (given.getD "") ∨
      (∃ error, requireTenantId posture given op = .error error) ∧
        ¬ Admitted posture (given.getD "") := by
  rw [requireTenantId, Admitted]
  by_cases hblank : Text.strip (given.getD "") = ""
  · cases hstrict : posture.isStrict <;> simp [hblank]
  · simp [hblank]

theorem exists_construct {fields : TeamRunFields}
    (hspine : posture.isStrict = true → fields.missing = []) :
    ∃ run : TeamRun posture, TeamRun.construct posture fields = .ok run ∧ run.fields = fields := by
  rw [TeamRun.construct]
  split
  · exact ⟨_, rfl, rfl⟩
  · rename_i hmissing
    have hstrict : ¬ posture.isStrict = true := fun hstrict => hmissing (hspine hstrict)
    rw [dif_neg hstrict]
    exact ⟨_, rfl, rfl⟩

theorem missing_eq_nil_iff {fields : TeamRunFields} :
    fields.missing = [] ↔ fields.tenantId ≠ "" ∧ fields.projectId ≠ "" := by
  simp [TeamRunFields.missing]

theorem overriding_ne {first second : String} (h : first ≠ "" ∨ second ≠ "") :
    overriding first second ≠ "" := by
  rw [overriding]
  split
  · assumption
  · rename_i hfirst
    exact h.resolve_left hfirst

theorem register_spec (run : TeamRun posture) (execCtx : Option RunExecutionContext) :
    ∃ row : TeamRow, row.teamId = run.fields.teamId ∧
      row.tenantId = (TeamCall.register run execCtx).tenantId ∧ ∀ registry : TeamRunRegistry,
          registry.register run execCtx = .ok (registry.insertOrReplace row) := by
  have hspine : posture.isStrict = true → run.fields.tenantId ≠ "" ∧ run.fields.projectId ≠ "" :=
    fun hstrict => missing_eq_nil_iff.mp (run.spine hstrict)
  obtain ⟨checked, hchecked, hfields⟩ : ∃ checked : TeamRun posture,
      TeamRun.construct posture (withContext run.fields execCtx) = .ok checked ∧
        checked.fields = withContext run.fields execCtx := by
    refine exists_construct fun hstrict => missing_eq_nil_iff.mpr ?_
    obtain ⟨htenant, hproject⟩ := hspine hstrict
    cases execCtx with
    | none => exact ⟨htenant, hproject⟩
    | some ctx => exact ⟨overriding_ne (.inr htenant), overriding_ne (.inl hproject)⟩
  refine ⟨toRow checked, ?_, ?_, fun registry => ?_⟩
  · rw [toRow, hfields]
    cases execCtx <;> rfl
  · rw [toRow, hfields]
    rfl
  · rw [register, if_neg fun h => (hspine h.2).1 h.1, hchecked]
    rfl

section

variable (hnamed : call.tenantId ≠ "")
include hnamed

theorem step_cases :
    (∃ run execCtx, call = .register run execCtx ∧ ∃ row : TeamRow,
      row.teamId = run.fields.teamId ∧ row.tenantId = call.tenantId ∧
        ∀ registry : TeamRunRegistry, registry.step call = registry.insertOrReplace row) ∨
      ∃ target, ∃ change : Option TeamRow → Option TeamRow, change none = none ∧
        ∀ (registry : TeamRunRegistry) (tenantId teamId : String),
          (registry.step call).held tenantId teamId =
            if teamId = target ∧ call.tenantId = tenantId then
              change (registry.held tenantId teamId)
            else registry.held tenantId teamId := by
  cases call with
  | register run execCtx =>
    obtain ⟨row, hteam, htenant, hregister⟩ := register_spec run execCtx
    refine .inl ⟨run, execCtx, rfl, row, hteam, htenant, fun registry => ?_⟩
    simp only [step, perform, hregister, after]
  | unregister target given =>
    rcases requireTenantId_cases posture given "unregister" with ⟨hok, -⟩ | ⟨⟨error, herror⟩, -⟩
    · refine .inr ⟨target, fun _ => none, rfl, fun registry tenantId teamId => ?_⟩
      simp only [step, perform, unregister, hok, Except.map, after]
      exact held_deleteAt hnamed target
    · refine .inr ⟨"", id, rfl, fun _ _ _ => ?_⟩
      simp only [step, perform, unregister, herror, Except.map, after, id, ite_self]
  | setStatus now target status finishedAt given =>
    rcases requireTenantId_cases posture given "set_status" with ⟨hok, -⟩ | ⟨⟨error, herror⟩, -⟩
    · refine .inr ⟨target, Option.map (TeamRow.toStatus status (finishedAt.getD
        (if status ∈ ["completed", "failed", "cancelled"] then now else 0))).set, rfl,
        fun registry tenantId teamId => ?_⟩
      simp only [step, perform, setStatus, hok, Except.map, after]
      exact held_updateAt hnamed target status _
    · refine .inr ⟨"", id, rfl, fun _ _ _ => ?_⟩
      simp only [step, perform, setStatus, herror, Except.map, after, id, ite_self]
  | _ => exact .inr ⟨"", id, rfl, fun _ _ _ => (ite_self _).symm⟩

theorem held_step_own
    (hsame : ∀ teamId, registry.held call.tenantId teamId = other.held call.tenantId teamId)
    (teamId : String) : (registry.step call).held call.tenantId teamId =
      (other.step call).held call.tenantId teamId := by
  obtain ⟨run, execCtx, -, row, -, -, hstep⟩ | ⟨target, change, -, hstep⟩ := step_cases hnamed
  · rw [hstep, hstep, held_insertOrReplace, held_insertOrReplace, hsame]
  · rw [hstep, hstep, hsame]

theorem held_step_other (hother : call.tenantId ≠ tenantId)
    (hlet : Admitted posture tenantId) (hunheld : registry.Unheld call) (teamId : String) :
    (registry.step call).held tenantId teamId = registry.held tenantId teamId := by
  obtain ⟨run, execCtx, rfl, row, hteam, htenant, hstep⟩ | ⟨target, change, -, hstep⟩ :=
    step_cases hnamed
  · rw [hstep, held_insertOrReplace, htenant, if_neg hother]
    split
    · rename_i hsame
      rw [eq_comm, held_eq_none_iff]
      intro old hold hmine
      rw [hsame, hteam] at hold
      exact hother ((hunheld old hold (hmine ▸ hlet)).symm.trans hmine)
    · rfl
  · rw [hstep, if_neg fun h => hother h.2]

theorem held_empty_step (hrows : ∀ teamId, registry.held "" teamId = none) (teamId : String) :
    (registry.step call).held "" teamId = none := by
  obtain ⟨run, execCtx, -, row, -, htenant, hstep⟩ | ⟨target, change, hchange, hstep⟩ :=
    step_cases hnamed
  · rw [hstep, held_insertOrReplace, htenant, if_neg hnamed, hrows, ite_self]
  · rw [hstep, hrows, hchange, ite_self]

end

theorem answer_eq (hread : call.Reads) (hnamed : call.tenantId ≠ "")
    (hsame : Admitted posture call.tenantId →
      ∀ teamId, registry.held call.tenantId teamId = other.held call.tenantId teamId) :
    (registry.perform call).1 = (other.perform call).1 := by
  have hget : ∀ {teamId : String} {given : Option String}, given.getD "" = call.tenantId →
      registry.get posture teamId given = other.get posture teamId given := by
    intro teamId given hgiven
    rw [get, get]
    rcases requireTenantId_cases posture given "get" with ⟨hok, hlet⟩ | ⟨⟨error, herror⟩, -⟩
    · rw [hgiven] at hok hlet
      rw [hok]
      simp only [Except.bind, fetch_eq hnamed, hsame hlet]
    · rw [herror]
      rfl
  cases call with
  | get teamId given => exact congrArg TeamAnswer.run (hget rfl)
  | listMembers teamId given =>
    exact congrArg TeamAnswer.members (congrArg (Except.map _) (hget rfl))
  | _ => exact hread.elim

/-! ## Whole histories -/

def callsOf (tenantId : String) (calls : List (TeamCall posture)) : List (TeamCall posture) :=
  calls.filter fun call => call.tenantId == tenantId

theorem callsOf_append (tenantId : String) (first second : List (TeamCall posture)) :
    callsOf tenantId (first ++ second) = callsOf tenantId first ++ callsOf tenantId second :=
  filter_append ..

theorem callsOf_own {rest : List (TeamCall posture)} (hown : call.tenantId = tenantId) :
    callsOf tenantId (call :: rest) = call :: callsOf tenantId rest := by
  simp [callsOf, hown]

theorem callsOf_other {rest : List (TeamCall posture)} (hother : call.tenantId ≠ tenantId) :
    callsOf tenantId (call :: rest) = callsOf tenantId rest := by
  simp [callsOf, hother]

theorem held_exec {calls : List (TeamCall posture)} (hnamed : ∀ call ∈ calls, call.tenantId ≠ "")
    (hlet : Admitted posture tenantId) (hunheld : Along step Unheld registry calls)
    (hsame : ∀ teamId, registry.held tenantId teamId = other.held tenantId teamId)
    (teamId : String) : (exec step registry calls).held tenantId teamId =
      (exec step other (callsOf tenantId calls)).held tenantId teamId := by
  induction calls generalizing registry other with
  | nil => exact hsame teamId
  | cons call rest ih =>
    obtain ⟨hfirst, hrest⟩ := hunheld
    have hcall := hnamed call mem_cons_self
    have hlater : ∀ call ∈ rest, call.tenantId ≠ "" :=
      fun call h => hnamed call (mem_cons_of_mem _ h)
    by_cases hown : call.tenantId = tenantId
    · rw [callsOf_own hown, exec_cons, exec_cons]
      subst hown
      exact ih hlater hrest fun teamId => held_step_own hcall hsame teamId
    · rw [callsOf_other hown, exec_cons]
      exact ih hlater hrest fun teamId =>
        (held_step_other hcall hown hlet hfirst teamId).trans (hsame teamId)

theorem held_empty_exec {calls : List (TeamCall posture)}
    (hnamed : ∀ call ∈ calls, call.tenantId ≠ "") (teamId : String) :
    (exec step (Table.empty : TeamRunRegistry) calls).held "" teamId = none := by
  suffices h : ∀ registry : TeamRunRegistry, (∀ teamId, registry.held "" teamId = none) →
      ∀ teamId, (exec step registry calls).held "" teamId = none from h .empty (fun _ => rfl) teamId
  induction calls with
  | nil => exact fun _ hrows => hrows
  | cons call rest ih =>
    intro registry hrows
    rw [exec_cons]
    exact ih (fun call h => hnamed call (mem_cons_of_mem _ h)) (registry.step call)
      (held_empty_step (hnamed call mem_cons_self) hrows)

theorem get_eq_none_iff (hnamed : tenantId ≠ "") (hlet : Admitted posture tenantId) :
    registry.get posture teamId (some tenantId) = .ok none ↔
      registry.held tenantId teamId = none := by
  rcases requireTenantId_cases posture (some tenantId) "get" with ⟨hok, -⟩ | ⟨-, hnot⟩
  · rw [get, hok]
    simp only [Except.bind, Option.getD_some, fetch_eq hnamed]
    cases registry.held tenantId teamId with
    | none => simp
    | some row =>
      refine iff_of_false ?_ (Option.some_ne_none row)
      dsimp only
      cases fromRow posture row with
      | _ => exact fun h => nomatch h
  · exact absurd hlet hnot

theorem unheld_of_answers {past : List (TeamCall posture)}
    (hnamed : ∀ one ∈ past ++ [call], one.tenantId ≠ "") (hpast : Along step Unheld .empty past)
    (hanswers : ∀ read : TeamCall posture, read.Reads → read.tenantId ≠ "" →
      (perform (exec step .empty (past ++ [call])) read).1 =
        (perform (exec step .empty (callsOf read.tenantId (past ++ [call]))) read).1) :
    (exec step .empty past).Unheld call := by
  have hearlier : ∀ one ∈ past, one.tenantId ≠ "" :=
    fun one h => hnamed one (mem_append_left _ h)
  cases call with
  | register run execCtx =>
    intro row hrow hlet
    by_contra hother
    have hne : row.tenantId ≠ "" :=
      fun h => held_eq_none_iff.mp (held_empty_exec hearlier _) row hrow h
    -- alone, the tenant reads its row; with the others, nothing
    have halone : (exec step .empty (callsOf row.tenantId
        (past ++ [.register run execCtx]))).held row.tenantId run.fields.teamId = some row := by
      rw [callsOf_append, callsOf_other (Ne.symm hother)]
      simp only [callsOf, filter_nil, append_nil]
      rw [← callsOf, ← held_exec hearlier hlet hpast fun _ => rfl, held_eq_some_iff]
      exact ⟨hrow, rfl⟩
    have hshared : (exec step .empty (past ++ [.register run execCtx])).held row.tenantId
        run.fields.teamId = none := by
      obtain ⟨new, hteam, htenant, hregister⟩ := register_spec run execCtx
      rw [exec, foldl_append, foldl_cons, foldl_nil]
      simp only [step, perform, hregister, after, held_insertOrReplace, hteam, htenant, if_true]
      exact if_neg (Ne.symm hother)
    have hread := hanswers (.get run.fields.teamId (some row.tenantId)) trivial hne
    have hget := TeamAnswer.run.inj hread
    rw [(get_eq_none_iff hne hlet).mpr hshared, eq_comm, get_eq_none_iff hne hlet] at hget
    exact Option.some_ne_none row (halone.symm.trans hget)
  | get _ _ => trivial
  | listMembers _ _ => trivial
  | unregister _ _ => trivial
  | setStatus _ _ _ _ _ => trivial

/-- The histories of calls with tenant ids at every point of which every tenant is answered as
if it alone had called are those in which nobody registers a team id under which another
tenant holds a row that it may read. -/
theorem answersOwnCalls_iff (calls : List (TeamCall posture))
    (hnamed : ∀ call ∈ calls, call.tenantId ≠ "") :
    (∀ past, past <+: calls → ∀ read : TeamCall posture, read.Reads → read.tenantId ≠ "" →
      (perform (exec step .empty past) read).1 =
        (perform (exec step .empty (callsOf read.tenantId past)) read).1) ↔
      Along step Unheld .empty calls := by
  constructor
  · intro hall
    induction calls using List.reverseRecOn with
    | nil => trivial
    | append_singleton past call ih =>
      have hpast := ih (fun call h => hnamed call (mem_append_left _ h))
        fun earlier hearlier => hall earlier (hearlier.trans (prefix_append past [call]))
      rw [along_append]
      exact ⟨hpast, unheld_of_answers hnamed hpast (hall _ (prefix_refl _)), trivial⟩
  · intro halong past hpast read hread hne
    obtain ⟨later, rfl⟩ := hpast
    exact answer_eq hread hne fun hlet =>
      held_exec (fun call h => hnamed call (mem_append_left _ h)) hlet
        ((along_append _ _ _).mp halong).1 fun _ => rfl

theorem project_ne : "p" ≠ "" := by decide

/-- A run of one member, for a tenant. -/
def ofTenant (teamId tenantId : String) (hne : tenantId ≠ "") : TeamRun .prod where
  fields :=
    { teamId, tenantId
      projectId := "p"
      memberRuns := [("lead", "run-1")]
      createdAt := "2026-01-01T00:00:00+00:00"
      userId := ""
      sessionId := ""
      piRunId := ""
      leadRunId := "run-1" }
  spine _ := missing_eq_nil_iff.mpr ⟨hne, project_ne⟩

theorem north_ne : "north" ≠ "" := by decide

theorem south_ne : "south" ≠ "" := by decide

/-- Two tenants register a team of their own, under two names. -/
theorem answersOwnCalls_apart : (∀ call ∈ [TeamCall.register (ofTenant "a" "north" north_ne) none,
        .register (ofTenant "b" "south" south_ne) none], call.tenantId ≠ "") ∧
      ((∀ past, past <+: [TeamCall.register (ofTenant "a" "north" north_ne) none,
          .register (ofTenant "b" "south" south_ne) none] →
        ∀ read : TeamCall .prod, read.Reads → read.tenantId ≠ "" →
          (perform (exec step .empty past) read).1 =
            (perform (exec step .empty (callsOf read.tenantId past)) read).1) ↔
        Along step Unheld .empty [TeamCall.register (ofTenant "a" "north" north_ne) none,
          .register (ofTenant "b" "south" south_ne) none]) :=
  have hnamed : ∀ call ∈ [TeamCall.register (ofTenant "a" "north" north_ne) none,
      .register (ofTenant "b" "south" south_ne) none], call.tenantId ≠ "" := by
    simp [TeamCall.tenantId, withContext, ofTenant]
  ⟨hnamed, answersOwnCalls_iff _ hnamed⟩

/-- Two tenants register a team of one name: the first no longer reads its own. -/
theorem not_answersOwnCalls_shared :
    ¬ ∀ past, past <+: [TeamCall.register (ofTenant "a" "north" north_ne) none,
          .register (ofTenant "a" "south" south_ne) none] →
        ∀ read : TeamCall .prod, read.Reads → read.tenantId ≠ "" →
          (perform (exec step .empty past) read).1 =
            (perform (exec step .empty (callsOf read.tenantId past)) read).1 := by
  intro hall
  have hread := TeamAnswer.members.inj
    (hall _ (prefix_refl _) (.listMembers "a" (some "north")) trivial north_ne)
  have hshared : (exec step .empty [TeamCall.register (ofTenant "a" "north" north_ne) none,
      .register (ofTenant "a" "south" south_ne) none]).listMembers .prod "a" (some "north") =
        .ok [] := by
    rfl
  have halone : (exec step .empty (callsOf "north"
      [TeamCall.register (ofTenant "a" "north" north_ne) none,
        .register (ofTenant "a" "south" south_ne) none])).listMembers .prod "a" (some "north") =
        .ok [("lead", "run-1")] := by
    rfl
  have hnone := (hshared.symm.trans hread).trans halone
  cases hnone

end TeamRunRegistry

end HiAgent.Server
