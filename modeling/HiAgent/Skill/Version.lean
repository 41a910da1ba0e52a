/-
  Skill/Version.lean --- `SkillVersionManager`.

  The versions of a skill are numbered in the order in which they are created, and the roles
  of champion and challenger are flags on them. Which version was champion before is not
  kept: a rollback takes the one that was created before the champion.
-/
import HiAgent.Foundation.Dict
import HiAgent.Foundation.Machine
import HiAgent.Foundation.PyValue.Dumps
import HiAgent.Server.Environment
import Mathlib.Algebra.Order.Ring.Rat

namespace HiAgent.Skill

open Foundation Server List

/-! ## Versions -/

/-- `SkillVersionRecord`: of the metrics the success rate, of the parameters whether they can
be written as JSON. -/
structure SkillVersionRecord (ρ : Type) where
  version : String
  writable : Bool
  metrics : Option ρ
  isChampion : Bool
  isChallenger : Bool
  tenantId : String

/-- The versions of a skill, oldest first. -/
abbrev Versions (ρ : Type) := List (SkillVersionRecord ρ)

/-- The file of a manager: the versions, or what is left of them where writing has raised. -/
inductive VersionFile (ρ : Type) where
  | whole (versions : Dict String (Versions ρ))
  | cut

structure SkillVersionManager (ρ : Type) where
  versions : Dict String (Versions ρ)
  file : Option (VersionFile ρ)

inductive VersionError where
  | keyError
  | valueError
  | typeError
  | decodeError

namespace SkillVersionManager

variable {ρ : Type}

def new : SkillVersionManager ρ := ⟨.empty, none⟩

variable (posture : Posture) (manager : SkillVersionManager ρ) (skillId : String)

def listVersions : Versions ρ := manager.versions.getD skillId []

def getChampion : Option (SkillVersionRecord ρ) :=
  (manager.listVersions skillId).find? SkillVersionRecord.isChampion

def getChallenger : Option (SkillVersionRecord ρ) :=
  (manager.listVersions skillId).find? SkillVersionRecord.isChallenger

/-- The versions of a skill are changed in place. -/
def edit (f : Versions ρ → Versions ρ) : SkillVersionManager ρ :=
  match manager.versions.get? skillId with
  | none => manager
  | some records => { manager with versions := manager.versions.set skillId (f records) }

/-- The name of a version. -/
def versionName (number : Nat) : String := "v" ++ toString (number : Int)

def createVersion (writable : Bool) : SkillVersionManager ρ × Except VersionError Bool :=
  if posture.isStrict then (manager, .error .valueError)
  else
    let existing := manager.listVersions skillId
    let record : SkillVersionRecord ρ :=
      ⟨versionName (existing.length + 1), writable, none, existing.length == 0, false, ""⟩
    ({ manager with versions := manager.versions.set skillId (existing ++ [record]) }, .ok true)

/-- The loop of `set_champion` and of `set_challenger`. -/
def assign (flag : Bool → SkillVersionRecord ρ → SkillVersionRecord ρ) (version : String) :
    SkillVersionManager ρ × Except VersionError Bool :=
  (manager.edit skillId (map fun record => flag (record.version == version) record),
    if (manager.listVersions skillId).any fun record => record.version == version then .ok true
    else .error .keyError)

def setChampion (version : String) : SkillVersionManager ρ × Except VersionError Bool :=
  manager.assign skillId (fun set record => { record with isChampion := set }) version

def setChallenger (version : String) : SkillVersionManager ρ × Except VersionError Bool :=
  manager.assign skillId (fun set record => { record with isChallenger := set }) version

/-- A version is made champion, and no longer challenger. -/
def crown (record : SkillVersionRecord ρ) : SkillVersionRecord ρ :=
  { record with isChampion := true, isChallenger := false }

def rollback : SkillVersionManager ρ × Except VersionError Bool :=
  match (manager.listVersions skillId).findIdx? SkillVersionRecord.isChampion with
  | none => (manager, .ok false)
  | some 0 => (manager, .ok false)
  | some (index + 1) =>
    (manager.edit skillId fun records =>
      (records.modify (index + 1) fun record =>
        { record with isChampion := false, isChallenger := false }).modify index crown, .ok true)

/-- `save`; the file is opened, and with it emptied, before the first value is written. -/
def save : SkillVersionManager ρ × Except VersionError Bool :=
  if manager.versions.rows.all fun row => row.2.all SkillVersionRecord.writable then
    ({ manager with file := some (.whole manager.versions) }, .ok true)
  else ({ manager with file := some .cut }, .error .typeError)

/-- A record that `__post_init__` accepts. -/
def accepts (record : SkillVersionRecord ρ) : Bool := !(posture.isStrict && record.tenantId == "")

/-- What `load` has read when it comes to a record that is not accepted. -/
def readUntil (saved : Dict String (Versions ρ)) : Dict String (Versions ρ) :=
  let read := (saved.rows.takeWhile fun row => row.2.all (accepts posture)).foldl
    (fun versions row => versions.set row.1 row.2) .empty
  match saved.rows.find? fun row => !row.2.all (accepts posture) with
  | none => read
  | some row => read.set row.1 (row.2.takeWhile (accepts posture))

def load : SkillVersionManager ρ × Except VersionError Bool :=
  match manager.file with
  | none => (manager, .ok true)
  | some .cut => (manager, .error .decodeError)
  | some (.whole saved) =>
    if saved.rows.all fun row => row.2.all (accepts posture) then
      ({ manager with versions := saved }, .ok true)
    else ({ manager with versions := readUntil posture saved }, .error .valueError)

variable [LE ρ] [DecidableLE ρ] [Zero ρ]

/-- The success rate, 0.0 without metrics. -/
def rate (record : SkillVersionRecord ρ) : ρ := record.metrics.getD 0

def promoteChallenger : SkillVersionManager ρ × Except VersionError Bool :=
  match manager.getChampion skillId, manager.getChallenger skillId with
  | _, none => (manager, .ok false)
  | none, some challenger =>
    (manager.edit skillId (map fun record =>
      if record.version = challenger.version then crown record else record), .ok true)
  | some champion, some challenger =>
    if rate champion ≤ rate challenger then
      (manager.edit skillId (map fun record =>
        if record.version = challenger.version then crown record
        else if record.version = champion.version then { record with isChampion := false }
        else record), .ok true)
    else (manager, .ok false)

end SkillVersionManager

/-! ## Roles -/

open SkillVersionManager

section Roles

variable {ρ : Type}

/-- One champion, one challenger at most, and they are different versions. -/
structure Roles (records : Versions ρ) : Prop where
  champion : ∃ place < records.length, ∀ (index : Nat) record, records[index]? = some record →
    (record.isChampion = true ↔ index = place)
  challenger : ∀ (index other : Nat) (first second : SkillVersionRecord ρ),
    records[index]? = some first →
    records[other]? = some second → first.isChallenger = true → second.isChallenger = true →
      index = other
  apart : ∀ (index : Nat) record, records[index]? = some record → record.isChampion = true →
    record.isChallenger = false

/-- The versions of a skill: numbered, and with their roles. -/
structure Good (records : Versions ρ) : Prop extends Roles records where
  named : ∀ (index : Nat) record, records[index]? = some record →
    record.version = versionName (index + 1)

def AllGood (versions : Dict String (Versions ρ)) : Prop :=
  ∀ skillId records, versions.get? skillId = some records → Good records

variable {records : Versions ρ}

theorem versionName_inj {number other : Nat} (h : versionName number = versionName other) :
    number = other := by
  have hdigits : toString (number : Int) = toString (other : Int) := by
    simpa [versionName, String.append_right_inj] using h
  exact Int.ofNat.inj (toString_inj hdigits)

/-- A version is told by its name. -/
theorem Good.version_iff (h : Good records) {place : Nat} {target : SkillVersionRecord ρ}
    (htarget : records[place]? = some target) : ∀ (index : Nat) record,
      records[index]? = some record → (record.version = target.version ↔ index = place) := by
  intro index record hrecord
  constructor
  · intro hsame
    rw [h.named _ _ hrecord, h.named _ _ htarget] at hsame
    exact Nat.succ.inj (versionName_inj hsame)
  · rintro rfl
    rw [Option.some.inj (hrecord.symm.trans htarget)]

/-- The version that is found is the one at the place of the champion. -/
theorem Good.find_champion (h : Good records) {index : Nat} {record : SkillVersionRecord ρ}
    (hrecord : records[index]? = some record) (hbest : record.isChampion = true) :
    records.find? SkillVersionRecord.isChampion = some record := by
  obtain ⟨place, hlt, hplace⟩ := h.champion
  have hsome : (records.find? SkillVersionRecord.isChampion).isSome :=
    find?_isSome.mpr ⟨record, mem_of_getElem? hrecord, hbest⟩
  obtain ⟨found, hfound⟩ := Option.isSome_iff_exists.mp hsome
  obtain ⟨other, hother⟩ := mem_iff_getElem?.mp (mem_of_find?_eq_some hfound)
  have hsame := (hplace other found hother).mp (find?_some hfound)
  rw [← (hplace index record hrecord).mp hbest] at hsame
  rw [hfound, ← hother, hsame, hrecord]

theorem good_create (h : records = [] ∨ Good records) (writable : Bool) :
    Good (records ++ [⟨versionName (records.length + 1), writable, none, records.length == 0,
      false, ""⟩]) := by
  rcases h with rfl | hgood
  · refine ⟨⟨⟨0, by simp, ?_⟩, ?_, ?_⟩, ?_⟩ <;> grind
  · obtain ⟨⟨⟨place, hlt, hplace⟩, hrival, hapart⟩, hnamed⟩ := hgood
    refine ⟨⟨⟨place, ?_, ?_⟩, ?_, ?_⟩, ?_⟩ <;> grind

section

variable (h : Good records)
include h

theorem Good.setChampion {version : String}
    (hfound : ∃ record ∈ records, record.version = version ∧ record.isChallenger = false) :
    Good (records.map fun record => { record with isChampion := record.version == version }) := by
  obtain ⟨target, htarget, rfl, hfree⟩ := hfound
  obtain ⟨place, hplace⟩ := mem_iff_getElem?.mp htarget
  have hnames := h.version_iff hplace
  obtain ⟨⟨-, hrival, hapart⟩, hnamed⟩ := h
  refine ⟨⟨⟨place, ?_, ?_⟩, ?_, ?_⟩, ?_⟩ <;> grind

theorem Good.setChallenger {version : String}
    (hfound : (∃ record ∈ records, record.version = version ∧ record.isChampion = false) ∨
      ∀ record ∈ records, record.version ≠ version ∧ record.isChallenger = false) :
    Good (records.map fun record => { record with isChallenger := record.version == version }) := by
  rcases hfound with ⟨target, htarget, rfl, hfree⟩ | hnone
  · obtain ⟨other, hother⟩ := mem_iff_getElem?.mp htarget
    have hnames := h.version_iff hother
    obtain ⟨⟨⟨place, hlt, hplace⟩, hrival, hapart⟩, hnamed⟩ := h
    refine ⟨⟨⟨place, ?_, ?_⟩, ?_, ?_⟩, ?_⟩ <;> grind
  · obtain ⟨⟨⟨place, hlt, hplace⟩, hrival, hapart⟩, hnamed⟩ := h
    refine ⟨⟨⟨place, ?_, ?_⟩, ?_, ?_⟩, ?_⟩ <;> grind

theorem Good.exists_champion : ∃ (index : Nat) (record : SkillVersionRecord ρ),
    records[index]? = some record ∧
    record.isChampion = true ∧ records.find? SkillVersionRecord.isChampion = some record := by
  obtain ⟨place, hlt, hplace⟩ := h.champion
  have hrecord := getElem?_eq_getElem hlt
  have hbest := (hplace place _ hrecord).mpr rfl
  exact ⟨place, _, hrecord, hbest, h.find_champion hrecord hbest⟩

theorem Good.promote {old new : SkillVersionRecord ρ}
    (hold : records.find? SkillVersionRecord.isChampion = some old)
    (hnew : records.find? SkillVersionRecord.isChallenger = some new) :
    Good (records.map fun record =>
      if record.version = new.version then crown record
      else if record.version = old.version then { record with isChampion := false }
      else record) := by
  obtain ⟨first, hfirst⟩ := mem_iff_getElem?.mp (mem_of_find?_eq_some hold)
  obtain ⟨second, hsecond⟩ := mem_iff_getElem?.mp (mem_of_find?_eq_some hnew)
  have hnamedOld := h.version_iff hfirst
  have hnamedNew := h.version_iff hsecond
  have hbest := find?_some hold
  have hchallenges := find?_some hnew
  obtain ⟨⟨⟨place, hlt, hplace⟩, hrival, hapart⟩, hnamed⟩ := h
  refine ⟨⟨⟨second, ?_, ?_⟩, ?_, ?_⟩, ?_⟩ <;> grind [crown]

theorem Good.rollback {index : Nat} {champion : SkillVersionRecord ρ}
    (hbest : records[index + 1]? = some champion) (hcrowned : champion.isChampion = true) :
    Good ((records.modify (index + 1) fun record =>
      { record with isChampion := false, isChallenger := false }).modify index crown) := by
  obtain ⟨⟨⟨place, hlt, hplace⟩, hrival, hapart⟩, hnamed⟩ := h
  refine ⟨⟨⟨index, ?_, ?_⟩, ?_, ?_⟩, ?_⟩ <;> grind [crown]

theorem Good.observe (version : String) (metrics : ρ) :
    Good (records.map fun record =>
      if record.version = version then { record with metrics := some metrics } else record) := by
  obtain ⟨⟨⟨place, hlt, hplace⟩, hrival, hapart⟩, hnamed⟩ := h
  refine ⟨⟨⟨place, ?_, ?_⟩, ?_, ?_⟩, ?_⟩ <;> grind

end

variable {manager : SkillVersionManager ρ} {skillId : String}

/-- All versions are good, in the manager and in its file. -/
structure Inv (manager : SkillVersionManager ρ) : Prop where
  versions : AllGood manager.versions
  file : ∀ saved, manager.file = some (.whole saved) → AllGood saved

variable {f : Versions ρ → Versions ρ}

theorem Inv.edit (h : Inv manager)
    (hgood : ∀ records, manager.versions.get? skillId = some records → Good records →
      Good (f records)) : Inv (manager.edit skillId f) := by
  rw [SkillVersionManager.edit]
  split
  · exact h
  · rename_i records hrecords
    refine ⟨fun other found hfound => ?_, h.file⟩
    rw [Dict.get?_set] at hfound
    split at hfound
    · rw [← Option.some.inj hfound]
      exact hgood records hrecords (h.versions _ _ hrecords)
    · exact h.versions _ _ hfound

theorem listVersions_of_get? (h : manager.versions.get? skillId = some records) :
    manager.listVersions skillId = records := by
  rw [SkillVersionManager.listVersions, Dict.getD, h, Option.getD_some]

theorem exists_records (h : manager.listVersions skillId ≠ []) :
    ∃ records, manager.versions.get? skillId = some records := by
  cases hnone : manager.versions.get? skillId with
  | none => simp [listVersions, Dict.getD, hnone] at h
  | some records => exact ⟨records, rfl⟩

theorem edit_eq_self
    (h : ∀ records, manager.versions.get? skillId = some records → f records = records) :
    manager.edit skillId f = manager := by
  rw [SkillVersionManager.edit]
  split
  · rfl
  · rename_i records hrecords
    rw [h records hrecords, Dict.set_eq_self hrecords]

/-- The champion after a call that changes the versions of its skill. -/
theorem champion_edit (hrecords : manager.versions.get? skillId = some records)
    (hgood : Good (f records))
    (index : Nat) (record : SkillVersionRecord ρ) (hrecord : (f records)[index]? = some record)
    (hbest : record.isChampion = true) :
    (manager.edit skillId f).getChampion skillId = some record := by
  have hedit : (manager.edit skillId f).listVersions skillId = f records := by
    simp [SkillVersionManager.edit, hrecords, listVersions, Dict.getD_set]
  rw [getChampion, hedit]
  exact hgood.find_champion hrecord hbest

end Roles

/-! ## Histories -/

/-- A call, or the metrics that a version is given. -/
inductive VersionCall (ρ : Type) where
  | createVersion (skillId : String) (writable : Bool)
  | setChampion (skillId version : String)
  | setChallenger (skillId version : String)
  | promoteChallenger (skillId : String)
  | rollback (skillId : String)
  | save
  | load
  | observe (skillId version : String) (metrics : ρ)

/-- A manager, and the version that was champion of a skill before the current one. -/
structure VersionHistory (ρ : Type) where
  manager : SkillVersionManager ρ
  before : String → Option String

namespace VersionHistory

variable {ρ : Type} [LE ρ] [DecidableLE ρ] [Zero ρ]

/-- A call, made in a posture. -/
def perform (manager : SkillVersionManager ρ) (posture : Posture) :
    VersionCall ρ → SkillVersionManager ρ × Except VersionError Bool
  | .createVersion skillId writable => manager.createVersion posture skillId writable
  | .setChampion skillId version => manager.setChampion skillId version
  | .setChallenger skillId version => manager.setChallenger skillId version
  | .promoteChallenger skillId => manager.promoteChallenger skillId
  | .rollback skillId => manager.rollback skillId
  | .save => manager.save
  | .load => manager.load posture
  | .observe skillId version metrics =>
    (manager.edit skillId (map fun record =>
      if record.version = version then { record with metrics := some metrics } else record),
      .ok true)

def champion (manager : SkillVersionManager ρ) (skillId : String) : Option String :=
  (manager.getChampion skillId).map SkillVersionRecord.version

def step (history : VersionHistory ρ) (event : Posture × VersionCall ρ) : VersionHistory ρ :=
  let manager := (perform history.manager event.1 event.2).1
  { manager := manager
    before := fun skillId =>
      if champion manager skillId = champion history.manager skillId then history.before skillId
      else champion history.manager skillId }

/-! ## The law -/

/-- What is asked of a call. -/
def Lawful (history : VersionHistory ρ) (event : Posture × VersionCall ρ) : Prop :=
  (∀ skillId records, (history.step event).manager.versions.get? skillId = some records →
    Roles records) ∧
  (∀ error, (perform history.manager event.1 event.2).2 = .error error →
    (history.step event).manager = history.manager) ∧
  match event.2 with
  | .promoteChallenger skillId => ∀ old new, history.manager.getChampion skillId = some old →
      (history.step event).manager.getChampion skillId = some new → new.version ≠ old.version →
        ∃ low high, old.metrics = some low ∧ new.metrics = some high ∧ low ≤ high
  | .rollback skillId => ∀ previous, history.before skillId = some previous →
      champion (history.step event).manager skillId = some previous
  | _ => True

/-- The version that is given a role exists and does not have the other one, or there is
nothing that the call could take away; two versions without metrics are not compared; the
version before the champion in the list is the one that was champion before; what is saved can
be written, and what is loaded is accepted. -/
def Meets (history : VersionHistory ρ) : Posture × VersionCall ρ → Prop
  | (_, .setChampion skillId version) =>
    (∃ record ∈ history.manager.listVersions skillId,
      record.version = version ∧ record.isChallenger = false) ∨
    history.manager.listVersions skillId = []
  | (_, .setChallenger skillId version) =>
    (∃ record ∈ history.manager.listVersions skillId,
      record.version = version ∧ record.isChampion = false) ∨
    ∀ record ∈ history.manager.listVersions skillId,
      record.version ≠ version ∧ record.isChallenger = false
  | (_, .promoteChallenger skillId) => ∀ old new, history.manager.getChampion skillId = some old →
      history.manager.getChallenger skillId = some new → rate old ≤ rate new →
        old.metrics.isSome ∧ new.metrics.isSome
  | (_, .rollback skillId) => ∀ previous, history.before skillId = some previous →
    ∃ index first second, (history.manager.listVersions skillId)[index]? = some first ∧
      (history.manager.listVersions skillId)[index + 1]? = some second ∧
        second.isChampion = true ∧ first.version = previous
  | (_, .save) => ∀ row ∈ history.manager.versions.rows, ∀ record ∈ row.2, record.writable = true
  | (posture, .load) => ∀ saved, history.manager.file = some (.whole saved) →
    ∀ row ∈ saved.rows, ∀ record ∈ row.2, accepts posture record = true
  | _ => True

/-! ## The invariant -/

variable {history : VersionHistory ρ} {skillId : String}

theorem inv_step (h : Inv history.manager) {event : Posture × VersionCall ρ}
    (hmeets : Meets history event) : Inv (history.step event).manager := by
  obtain ⟨posture, call⟩ := event
  change Inv (perform history.manager posture call).1
  cases call with
  | createVersion skillId writable =>
    rw [perform, createVersion]
    split
    · exact h
    · refine ⟨fun other found hfound => ?_, h.file⟩
      rw [Dict.get?_set] at hfound
      split at hfound
      · rw [← Option.some.inj hfound]
        refine good_create ?_ writable
        cases hold : history.manager.versions.get? skillId with
        | none => exact .inl (by simp [listVersions, Dict.getD, hold])
        | some records =>
          rw [listVersions_of_get? hold]
          exact .inr (h.versions _ _ hold)
      · exact h.versions _ _ hfound
  | setChampion skillId version =>
    refine h.edit fun records hrecords hgood => ?_
    rw [Meets, listVersions_of_get? hrecords] at hmeets
    refine hgood.setChampion (hmeets.resolve_right fun hnone => ?_)
    obtain ⟨_, hlt, -⟩ := hgood.champion
    simp [hnone] at hlt
  | setChallenger skillId version =>
    refine h.edit fun records hrecords hgood => ?_
    rw [Meets, listVersions_of_get? hrecords] at hmeets
    exact hgood.setChallenger hmeets
  | promoteChallenger skillId =>
    rw [perform, promoteChallenger]
    split
    · exact h
    · rename_i hnone hnew
      refine h.edit fun records hrecords hgood => ?_
      obtain ⟨_, _, -, -, hfound⟩ := hgood.exists_champion
      rw [getChampion, listVersions_of_get? hrecords, hfound] at hnone
      cases hnone
    · rename_i hold hnew
      split
      · refine h.edit fun records hrecords hgood => ?_
        rw [getChampion, listVersions_of_get? hrecords] at hold
        rw [getChallenger, listVersions_of_get? hrecords] at hnew
        exact hgood.promote hold hnew
      · exact h
  | rollback skillId =>
    rw [perform, SkillVersionManager.rollback]
    split
    · exact h
    · exact h
    · rename_i index hindex
      refine h.edit fun records hrecords hgood => ?_
      rw [listVersions_of_get? hrecords, findIdx?_eq_some_iff_getElem] at hindex
      obtain ⟨hlt, hbest, -⟩ := hindex
      exact hgood.rollback (getElem?_eq_getElem hlt) hbest
  | save =>
    rw [perform, save]
    split
    · exact ⟨h.versions, fun saved hsaved => by cases hsaved; exact h.versions⟩
    · exact ⟨h.versions, fun saved hsaved => by cases hsaved⟩
  | load =>
    rw [perform, load]
    split
    · exact h
    · exact h
    · rename_i saved hsaved
      have haccepts : saved.rows.all (fun row => row.2.all (accepts posture)) = true := by
        simpa using hmeets saved hsaved
      rw [if_pos haccepts]
      exact ⟨h.file saved hsaved, h.file⟩
  | observe skillId version metrics =>
    exact h.edit fun records _ hgood => hgood.observe version metrics

theorem unchanged_of_raises {event : Posture × VersionCall ρ}
    (hmeets : Meets history event) {error : VersionError}
    (hraises : (perform history.manager event.1 event.2).2 = .error error) :
    (history.step event).manager = history.manager := by
  obtain ⟨posture, call⟩ := event
  change (perform history.manager posture call).1 = _
  cases call with
  | createVersion skillId writable => grind [perform, createVersion]
  | setChampion skillId version =>
    refine edit_eq_self fun records hrecords => ?_
    rw [Meets, listVersions_of_get? hrecords] at hmeets
    rw [perform, SkillVersionManager.setChampion, assign, listVersions_of_get? hrecords] at hraises
    grind
  | setChallenger skillId version =>
    refine edit_eq_self fun records hrecords => ?_
    rw [Meets, listVersions_of_get? hrecords] at hmeets
    rw [perform, SkillVersionManager.setChallenger, assign,
      listVersions_of_get? hrecords] at hraises
    have hnone : ∀ record ∈ records, record.version ≠ version ∧ record.isChallenger = false := by
      grind
    refine (map_congr_left ?_).trans (map_id records)
    intro record hmem
    obtain ⟨hname, hfree⟩ := hnone record hmem
    cases record
    simp_all
  | promoteChallenger skillId => grind [perform, promoteChallenger]
  | rollback skillId => grind [perform, SkillVersionManager.rollback]
  | save =>
    have hwritable : history.manager.versions.rows.all
        (fun row => row.2.all SkillVersionRecord.writable) = true := by
      simpa [Meets] using hmeets
    rw [perform, save, if_pos hwritable] at hraises
    cases hraises
  | load =>
    rw [perform, load] at hraises ⊢
    split at hraises
    · cases hraises
    · rfl
    · rename_i saved hsaved
      have haccepts : saved.rows.all (fun row => row.2.all (accepts posture)) = true := by
        simpa using hmeets saved hsaved
      rw [if_pos haccepts] at hraises
      cases hraises
  | observe skillId version metrics => cases hraises

theorem promoted_of_meets (h : Inv history.manager) {posture : Posture}
    (hmeets : Meets history (posture, .promoteChallenger skillId)) :
    ∀ old new, history.manager.getChampion skillId = some old →
      (history.step (posture, .promoteChallenger skillId)).manager.getChampion skillId = some new →
        new.version ≠ old.version →
          ∃ low high, old.metrics = some low ∧ new.metrics = some high ∧ low ≤ high := by
  intro old new hold hnew hother
  change (history.manager.promoteChallenger skillId).1.getChampion skillId = some new at hnew
  have hsame : history.manager.getChampion skillId ≠ some new := by grind
  rw [promoteChallenger, hold] at hnew
  cases hrival : history.manager.getChallenger skillId with
  | none =>
    rw [hrival] at hnew
    exact absurd hnew hsame
  | some challenger =>
    simp only [hrival] at hnew
    split at hnew
    · rename_i hrates
      obtain ⟨hlow, hhigh⟩ := hmeets old challenger hold hrival hrates
      have hheld : history.manager.listVersions skillId ≠ [] :=
        fun hnone => by simp [getChampion, hnone] at hold
      obtain ⟨records, hrecords⟩ := exists_records hheld
      rw [getChampion, listVersions_of_get? hrecords] at hold
      rw [getChallenger, listVersions_of_get? hrecords] at hrival
      obtain ⟨place, hplace⟩ := mem_iff_getElem?.mp (mem_of_find?_eq_some hrival)
      have hfound := champion_edit hrecords ((h.versions _ _ hrecords).promote hold hrival)
        place (crown challenger) (by simp [hplace]) rfl
      obtain rfl := Option.some.inj (hfound.symm.trans hnew)
      obtain ⟨low, hlow⟩ := Option.isSome_iff_exists.mp hlow
      obtain ⟨high, hhigh⟩ := Option.isSome_iff_exists.mp hhigh
      rw [rate, rate, hlow, hhigh] at hrates
      exact ⟨low, high, hlow, hhigh, hrates⟩
    · exact absurd hnew hsame

theorem restored_of_meets (h : Inv history.manager) {posture : Posture}
    (hmeets : Meets history (posture, .rollback skillId)) :
    ∀ previous, history.before skillId = some previous →
      champion (history.step (posture, .rollback skillId)).manager skillId = some previous := by
  intro previous hbefore
  obtain ⟨index, first, second, hfirst, hsecond, hbest, rfl⟩ := hmeets previous hbefore
  have hheld : history.manager.listVersions skillId ≠ [] := fun hnone => by simp [hnone] at hfirst
  obtain ⟨records, hrecords⟩ := exists_records hheld
  rw [listVersions_of_get? hrecords] at hfirst hsecond
  have hgood := h.versions _ _ hrecords
  have hindex : records.findIdx? SkillVersionRecord.isChampion = some (index + 1) := by
    obtain ⟨place, hlt, hplace⟩ := hgood.champion
    have hcrowned := (hplace _ _ hsecond).mp hbest
    obtain ⟨hbound, hget⟩ := List.getElem?_eq_some_iff.mp hsecond
    refine findIdx?_eq_some_iff_getElem.mpr
      ⟨hbound, hget ▸ hbest, fun other hother hagain => ?_⟩
    have := (hplace other _ (getElem?_eq_getElem _)).mp hagain
    omega
  change champion (history.manager.rollback skillId).1 skillId = _
  rw [SkillVersionManager.rollback, listVersions_of_get? hrecords, hindex]
  rw [champion, champion_edit hrecords (hgood.rollback hsecond hbest) index
    (crown first) (by grind) rfl]
  rfl

/-- In every history whose calls meet the conditions, every call is lawful. -/
theorem along_lawful {events : List (Posture × VersionCall ρ)}
    (hmeets : Along step Meets (⟨.new, fun _ => none⟩ : VersionHistory ρ) events) :
    Along step Lawful (⟨.new, fun _ => none⟩ : VersionHistory ρ) events := by
  have hinit : Inv (⟨.new, fun _ => none⟩ : VersionHistory ρ).manager :=
    ⟨fun _ _ hrecords => (nomatch hrecords), fun _ hfile => nomatch hfile⟩
  refine along_of_invariant
    (fun (history : VersionHistory ρ) _ (hinv : Inv history.manager) hguard => inv_step hinv hguard)
    ?_ hinit hmeets
  intro history event hinv hguard
  refine ⟨fun skillId records hrecords => ((inv_step hinv hguard).versions _ _ hrecords).toRoles,
    fun _ hraises => unchanged_of_raises hguard hraises, ?_⟩
  obtain ⟨posture, call⟩ := event
  cases call with
  | promoteChallenger skillId => exact promoted_of_meets hinv hguard
  | rollback skillId => exact restored_of_meets hinv hguard
  | _ => trivial

/-- Two versions, and a rollback to the first. -/
def backAgain : List (Posture × VersionCall Rat) :=
  [(.dev, .createVersion "plan" true), (.dev, .createVersion "plan" true),
    (.dev, .setChampion "plan" "v2"), (.dev, .rollback "plan")]

theorem along_lawful_backAgain :
    Along step Lawful (⟨.new, fun _ => none⟩ : VersionHistory Rat) backAgain :=
  along_lawful ⟨trivial, trivial, .inl (by decide +kernel),
    fun _ hbefore => ⟨0, _, _, rfl, rfl, rfl, Option.some.inj hbefore⟩, trivial⟩

/-- A version that does not exist is made champion. -/
def unknownVersion : List (Posture × VersionCall Rat) :=
  [(.dev, .createVersion "plan" true), (.dev, .setChampion "plan" "v2")]

/-- The call raises, and leaves the skill without a champion. -/
theorem not_along_lawful_unknownVersion :
    ¬ Along step Lawful (⟨.new, fun _ => none⟩ : VersionHistory Rat) unknownVersion := by
  rintro ⟨-, ⟨hroles, -⟩, -⟩
  obtain ⟨place, hlt, hplace⟩ := (hroles "plan" _ rfl).champion
  obtain rfl : place = 0 := Nat.lt_one_iff.mp hlt
  exact absurd ((hplace 0 _ rfl).mpr rfl) (by decide +kernel)

end VersionHistory

end HiAgent.Skill
