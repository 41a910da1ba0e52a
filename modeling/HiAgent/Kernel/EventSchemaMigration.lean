/-
  Kernel/EventSchemaMigration.lean --- events of one schema version as those of another.

  `EventSchemaMigrator` of `agent_kernel/kernel/persistence/event_schema_migration.py`. A
  function is registered for an edge between two versions; an event goes along a path of edges,
  and the version it came with is put down in its payload.
-/
import HiAgent.Foundation.Search.Tree
import HiAgent.Kernel.EventLog

namespace HiAgent.Kernel

open Foundation List

/-! ## The migrator -/

/-- `EventSchemaMigrator`, with the functions by their edges. -/
structure EventSchemaMigrator where
  migrations : Dict (String × String) (RuntimeEvent → RuntimeEvent)

/-- How a call of the migrator fails. -/
inductive MigrationFailure where
  | sameVersion
  | schemaMigrationError (fromVersion targetVersion : String)
  | keyError (edge : String × String)

namespace EventSchemaMigrator

def new : EventSchemaMigrator := ⟨Dict.empty⟩

def register (migrator : EventSchemaMigrator) (fromVersion toVersion : String)
    (fn : RuntimeEvent → RuntimeEvent) : Except MigrationFailure EventSchemaMigrator :=
  if fromVersion = toVersion then .error .sameVersion
  else .ok ⟨migrator.migrations.set (fromVersion, toVersion) fn⟩

def edges (migrator : EventSchemaMigrator) : List (String × String) := migrator.migrations.keys

def resolvePath (migrator : EventSchemaMigrator) (fromVersion targetVersion : String) :
    Option (List (String × String)) :=
  Search.shortestPath migrator.edges fromVersion targetVersion

/-- `payload.setdefault("original_schema_version", ...)`. -/
def setOriginal (payload : PyDict) (version : String) : PyDict :=
  if payload.any fun field => field.1 == "original_schema_version" then payload
  else payload ++ [("original_schema_version", .str version)]

def attachOriginalSchemaVersion (original migrated : RuntimeEvent) : RuntimeEvent :=
  if original.schemaVersion = migrated.schemaVersion then migrated
  else { migrated with
    payloadJson := some (setOriginal (migrated.payloadJson.getD []) original.schemaVersion) }

/-- The functions of a path, each followed by the version its edge leads to. -/
def follow (migrator : EventSchemaMigrator) :
    List (String × String) → RuntimeEvent → Except MigrationFailure RuntimeEvent
  | [], event => .ok event
  | edge :: rest, event =>
    match migrator.migrations.get? edge with
    | none => .error (.keyError edge)
    | some migrateFn =>
      let migrated := migrateFn event
      if migrated.schemaVersion ≠ edge.2 then
        migrator.follow rest { migrated with schemaVersion := edge.2 }
      else migrator.follow rest migrated

def migrate (migrator : EventSchemaMigrator) (event : RuntimeEvent) (targetVersion : String) :
    Option (Except MigrationFailure RuntimeEvent) :=
  if event.schemaVersion = targetVersion then some (.ok event)
  else
    (migrator.resolvePath event.schemaVersion targetVersion).map fun path =>
      if path = [] then
        .error (.schemaMigrationError event.schemaVersion targetVersion)
      else
        (migrator.follow path event).map fun migrated =>
          attachOriginalSchemaVersion event migrated

/-! ## Steps along a path -/

/-- The event after the functions of some edges, each of which leaves the event at the
version it leads to. -/
inductive Stepped (migrator : EventSchemaMigrator) (event : RuntimeEvent) :
    List (String × String) → RuntimeEvent → Prop
  | none : Stepped migrator event [] event
  | step {path : List (String × String)} {migrated : RuntimeEvent}
      {fromVersion toVersion : String} {fn : RuntimeEvent → RuntimeEvent}
      (hpath : Stepped migrator event path migrated)
      (hfn : migrator.migrations.get? (fromVersion, toVersion) = some fn) :
      Stepped migrator event (path ++ [(fromVersion, toVersion)])
        { fn migrated with schemaVersion := toVersion }

variable {migrator : EventSchemaMigrator}

theorem follow_eq (edge : String × String) (rest : List (String × String))
    (event : RuntimeEvent) {fn : RuntimeEvent → RuntimeEvent}
    (hfn : migrator.migrations.get? edge = some fn) : migrator.follow (edge :: rest) event =
      migrator.follow rest { fn event with schemaVersion := edge.2 } := by
  rw [follow, hfn]
  dsimp only
  split
  next => rfl
  next hsame =>
    rw [not_not] at hsame
    rw [← hsame]

theorem exists_follow {start target : String} {path : List (String × String)}
    (hpath : Search.IsPath migrator.edges start target path) {event middle : RuntimeEvent}
    {earlier : List (String × String)} (hearlier : Stepped migrator event earlier middle)
    (hversion : middle.schemaVersion = start) :
    ∃ migrated, migrator.follow path middle = .ok migrated ∧
      Stepped migrator event (earlier ++ path) migrated ∧ migrated.schemaVersion = target := by
  induction path generalizing start middle earlier with
  | nil =>
    refine ⟨middle, rfl, ?_, hversion.trans hpath⟩
    rwa [append_nil]
  | cons edge rest ih =>
    obtain ⟨hedge, -, hrest⟩ := hpath
    obtain ⟨fn, hfn⟩ := Option.isSome_iff_exists.mp (Dict.mem_keys_iff.mp hedge)
    rw [follow_eq edge rest middle hfn, append_cons]
    exact ih hrest (hearlier.step hfn) rfl

theorem lookup_setOriginal (payload : PyDict) (version key : String) :
    (setOriginal payload version).lookup key = if key = "original_schema_version" then
        some ((payload.lookup key).getD (.str version)) else payload.lookup key := by
  have hany : (payload.any fun field => field.1 == "original_schema_version") =
      (payload.lookup "original_schema_version").isSome := by
    induction payload with
    | nil => rfl
    | cons field rest ih =>
      rw [any_cons, ih, List.lookup_cons, BEq.comm]
      cases "original_schema_version" == field.1 <;> simp
  rw [setOriginal, hany]
  split
  next hsome =>
    obtain ⟨value, hvalue⟩ := Option.isSome_iff_exists.mp hsome
    split
    next hkey => rw [hkey, hvalue, Option.getD_some]
    next => rfl
  next hnone =>
    rw [Option.not_isSome_iff_eq_none] at hnone
    rw [lookup_append]
    split
    next hkey =>
      rw [hkey, hnone]
      rfl
    next hkey =>
      have hfresh : (key == "original_schema_version") = false := beq_false_of_ne hkey
      simp [List.lookup_cons, hfresh]

/-! ## Migrations -/

/-- Between two versions the search ends with a shortest path, or with the empty one if there
is none. A migration fails exactly then; else the functions of the path are applied, and the
event has the version that was asked for and the version it came with, unless its payload
holds another one after the functions. -/
theorem migrate_shortestPath (migrator : EventSchemaMigrator) {fromVersion toVersion : String}
    (hne : fromVersion ≠ toVersion) :
    ∃ path, migrator.resolvePath fromVersion toVersion = some path ∧ (path ≠ [] ↔
        Relation.ReflTransGen (Search.Linked migrator.edges) fromVersion toVersion) ∧
      (path ≠ [] → Search.IsPath migrator.edges fromVersion toVersion path ∧
        ∀ other, Search.IsPath migrator.edges fromVersion toVersion other →
          path.length ≤ other.length) ∧ ∀ event : RuntimeEvent, event.schemaVersion = fromVersion →
        (migrator.migrate event toVersion =
            some (.error (.schemaMigrationError fromVersion toVersion)) ↔
          ¬ Relation.ReflTransGen (Search.Linked migrator.edges) fromVersion toVersion) ∧
        (path ≠ [] → ∃ stepped payload, Stepped migrator event path stepped ∧
          stepped.schemaVersion = toVersion ∧ migrator.migrate event toVersion =
            some (.ok { stepped with payloadJson := some payload }) ∧ ∀ key, payload.lookup key =
            if key = "original_schema_version" then
              some (((stepped.payloadJson.getD []).lookup key).getD (.str fromVersion))
            else (stepped.payloadJson.getD []).lookup key) := by
  obtain ⟨path, hresolve, hreach, hshortest⟩ :=
    Search.exists_shortestPath migrator.edges hne
  refine ⟨path, hresolve, hreach, hshortest, fun event hversion => ?_⟩
  have hother : event.schemaVersion ≠ toVersion := by rwa [hversion]
  have hmigrate : migrator.migrate event toVersion =
      some (if path = [] then .error (.schemaMigrationError fromVersion toVersion)
        else (migrator.follow path event).map (attachOriginalSchemaVersion event)) := by
    rw [migrate, if_neg hother, hversion, resolvePath, hresolve, Option.map_some]
  by_cases hpath : path = []
  · rw [hmigrate, if_pos hpath, ← hreach]
    exact ⟨by simp [hpath], fun habsurd => absurd hpath habsurd⟩
  · obtain ⟨stepped, hfollow, hstepped, htarget⟩ :=
      exists_follow (hshortest hpath).1 (.none : Stepped migrator event [] event) hversion
    have hattach : attachOriginalSchemaVersion event stepped = { stepped with
        payloadJson := some (setOriginal (stepped.payloadJson.getD []) fromVersion) } := by
      rw [attachOriginalSchemaVersion, if_neg (by rwa [htarget]), hversion]
    rw [hmigrate, if_neg hpath, hfollow, Except.map, hattach, ← hreach]
    refine ⟨by simp [hpath], fun _ => ⟨stepped, _, hstepped, htarget, rfl, ?_⟩⟩
    exact lookup_setOriginal _ fromVersion

def roundTrip : EventSchemaMigrator :=
  ⟨(new.migrations.set ("1", "2") id).set ("2", "1") id⟩

example : (new.register "1" "2" id).bind (·.register "2" "1" id) = .ok roundTrip := rfl

theorem migrate_shortestPath_roundTrip :
    ∃ path, roundTrip.resolvePath "1" "2" = some path ∧ path ≠ [] := by
  obtain ⟨path, hresolve, hreach, -⟩ :=
    migrate_shortestPath roundTrip (show "1" ≠ "2" by decide)
  refine ⟨path, hresolve, hreach.mpr (.single ?_)⟩
  rw [Search.Linked]
  decide

/-- No function touches the payload, and yet the version the event came with is not put down:
an earlier one stands there. -/
theorem migrate_keeps_earlier : (∀ edge fn, roundTrip.migrations.get? edge = some fn →
      ∀ event : RuntimeEvent, (fn event).payloadJson = event.payloadJson) ∧
    ∃ migrated, roundTrip.migrate { RuntimeEvent.plain "run.created" .authoritativeFact with
          payloadJson := some [("original_schema_version", .str "0")] } "2" = some (.ok migrated) ∧
      (migrated.payloadJson.getD []).lookup "original_schema_version" = some (.str "0") := by
  refine ⟨?_, _, rfl, rfl⟩
  intro edge fn hfn event
  rw [roundTrip, Dict.get?_set, Dict.get?_set] at hfn
  split at hfn
  next =>
    cases hfn
    rfl
  next =>
    split at hfn
    next =>
      cases hfn
      rfl
    next => cases hfn

end EventSchemaMigrator

end HiAgent.Kernel
