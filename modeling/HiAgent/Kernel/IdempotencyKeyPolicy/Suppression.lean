/-
  Kernel/IdempotencyKeyPolicy/Suppression.lean --- dispatches that get in each other's way.

  One turn keeps another from calling its executor if and only if they have a key in common.
-/
import HiAgent.Kernel.Consistency.Frame
import HiAgent.Kernel.IdempotencyKeyPolicy

namespace HiAgent.Kernel

open Foundation List

namespace Turn

variable {turn : Turn}

/-! ## When one turn suppresses another -/

/-- Somewhere the second turn would call its executor, and behind the first it does not. -/
def Suppresses (first second : Turn) : Prop :=
  ∃ store calls calls', (second.run calls' store).1.invoked = true ∧
    (second.run calls' (first.run calls store).2).1.invoked = false

theorem suppresses_iff (first second : Turn) :
    first.Suppresses second ↔ ∃ key, first.Uses key ∧ second.Uses key := by
  constructor
  · rintro ⟨store, calls, calls', hfree, hblocked⟩
    by_contra hnone
    have hagree : DedupeStore.AgreeOn second.Uses (first.run calls store).2 store := by
      intro key hkey
      exact first.lookup_drive calls 6 _ fun huses => hnone ⟨key, huses, hkey⟩
    have hsame := second.drive_respects calls' 6 second.start hagree
    rw [run, hsame] at hblocked
    rw [run, hblocked] at hfree
    cases hfree
  · rintro ⟨key, hfirst, hsecond⟩
    have hempty : ∀ other, ¬ DedupeStore.Taken .empty other := by
      intro other
      rw [DedupeStore.not_taken_iff]
      rfl
    refine ⟨.empty, .steady .cancelled, .steady .cancelled,
      (leaves_run (hempty _) (hempty _)).1, not_invoked_run ?_⟩
    have hleaves : first.Leaves (Execution.effect .cancelled)
        (first.run (.steady .cancelled) .empty) := leaves_run (hempty _) (hempty _)
    have htaken : (first.run (.steady .cancelled) .empty).2.Taken key := by
      by_contra hfree
      rw [← DedupeStore.state_eq_none_iff] at hfree
      rcases hfirst with rfl | rfl
      · rw [hleaves.2.1] at hfree
        cases hfree
      · rw [hleaves.2.2] at hfree
        cases hfree
    rcases hsecond with rfl | rfl
    · exact .inr htaken
    · exact .inl htaken

def Generated (sha256 : String → String) (repr : Nat → Bool → String) (turn : Turn) : Prop :=
  IdempotencyKeyPolicy.generate sha256 repr turn.input.runId turn.action turn.snapshotHash =
    .ok turn.key

/-- The run id and the action id of the one turn are those of the other, cut at another
colon. -/
def CutElsewhere (first second : Turn) : Prop :=
  Joined.ColonRecut first.input.runId first.action.actionId second.input.runId
      second.action.actionId ∨
    Joined.ColonRecut second.input.runId second.action.actionId first.input.runId
      first.action.actionId

/-- The legacy key of the first turn is written like a dispatch key of the second: its run
id begins with the namespace, and its offset is written like a hash. -/
def PassesFor (first second : Turn) : Prop :=
  first.input.runId ++ ":" ++ first.action.actionId =
      "dispatch:" ++ second.input.runId ++ ":" ++ second.action.actionId ∧
    toString first.input.basedOnOffset = second.contentHash

/-- The two turns are told apart. -/
structure Apart (repr : Nat → Bool → String) (first second : Turn) : Prop where
  content : first.CutElsewhere second →
    ¬ IdempotencyKeyPolicy.SameContent repr first.action second.action first.snapshotHash
      second.snapshotHash
  offset : first.CutElsewhere second → first.input.basedOnOffset ≠ second.input.basedOnOffset
  dispatch : first.input.runId ≠ second.input.runId →
    ¬ first.PassesFor second ∧ ¬ second.PassesFor first

/-- The keys of two turns identify them, and turns of different runs do not suppress each
other. -/
structure Identified (repr : Nat → Bool → String) (first second : Turn) : Prop where
  dispatch : first.key = second.key → first.input.runId = second.input.runId ∧
    first.action.actionId = second.action.actionId ∧
    IdempotencyKeyPolicy.SameContent repr first.action second.action first.snapshotHash
      second.snapshotHash
  legacy : first.legacyKey = second.legacyKey → first.input.runId = second.input.runId ∧
    first.action.actionId = second.action.actionId ∧
    first.input.basedOnOffset = second.input.basedOnOffset
  independent : first.input.runId ≠ second.input.runId →
    ¬ first.Suppresses second ∧ ¬ second.Suppresses first

section Pairs

variable {sha256 : String → String} {repr : Nat → Bool → String} {first second : Turn}

open IdempotencyKeyPolicy

theorem Generated.contentHash_eq (h : turn.Generated sha256 repr) :
    IdempotencyKeyPolicy.contentHash sha256 repr turn.action turn.snapshotHash =
      .ok turn.contentHash := by
  obtain ⟨hash, hhash, hkey⟩ := map_eq_ok_iff.mp h
  have hsame : hash = turn.contentHash := by
    simpa only [key, identity, buildTurnIdentity, dispatchKey, String.append_right_inj]
      using hkey
  rwa [hsame] at hhash

theorem Generated.solid (h : turn.Generated sha256 repr)
    (hsolid : ∀ text, Joined.Solid (sha256 text)) : Joined.Solid turn.contentHash := by
  obtain ⟨text, -, htext⟩ := map_eq_ok_iff.mp h.contentHash_eq
  rw [← htext]
  exact hsolid text

theorem joined_iff (first second : Turn) : first.input.runId ++ ":" ++ first.action.actionId =
        second.input.runId ++ ":" ++ second.action.actionId ↔
      (first.input.runId = second.input.runId ∧
        first.action.actionId = second.action.actionId) ∨ first.CutElsewhere second :=
  Joined.colon_eq_iff

theorem key_eq_iff (hinj : Function.Injective sha256)
    (hsolid : ∀ text, Joined.Solid (sha256 text)) (hfirst : first.Generated sha256 repr)
    (hsecond : second.Generated sha256 repr) (hprinted : NumbersPrinted first.action)
    (hprinted' : NumbersPrinted second.action) : first.key = second.key ↔
      ((first.input.runId = second.input.runId ∧
        first.action.actionId = second.action.actionId) ∨ first.CutElsewhere second) ∧
      SameContent repr first.action second.action first.snapshotHash second.snapshotHash := by
  rw [← joined_iff, ← contentHash_eq_iff hinj hprinted hprinted' hfirst.contentHash_eq
    hsecond.contentHash_eq]
  exact dispatchKey_eq_iff (hfirst.solid hsolid) (hsecond.solid hsolid)

theorem legacyKey_eq_iff (first second : Turn) : first.legacyKey = second.legacyKey ↔
      ((first.input.runId = second.input.runId ∧
        first.action.actionId = second.action.actionId) ∨ first.CutElsewhere second) ∧
      first.input.basedOnOffset = second.input.basedOnOffset := by
  rw [← joined_iff]
  exact legacyDispatchDedupeKey_eq_iff

theorem legacyKey_eq_key_iff (hsolid : ∀ text, Joined.Solid (sha256 text))
    (hsecond : second.Generated sha256 repr) :
    first.legacyKey = second.key ↔ first.PassesFor second :=
  legacyDispatchDedupeKey_eq_dispatchKey_iff (hsecond.solid hsolid)

theorem CutElsewhere.ne (h : first.CutElsewhere second) :
    first.input.runId ≠ second.input.runId := by
  intro heq
  rcases h with hrecut | hrecut
  · exact (Joined.colonRecut_iff.mp hrecut).ne (congrArg String.toList heq)
  · exact (Joined.colonRecut_iff.mp hrecut).ne (congrArg String.toList heq.symm)

theorem exists_uses_iff (hinj : Function.Injective sha256)
    (hsolid : ∀ text, Joined.Solid (sha256 text)) (hfirst : first.Generated sha256 repr)
    (hsecond : second.Generated sha256 repr) (hprinted : NumbersPrinted first.action)
    (hprinted' : NumbersPrinted second.action) (hne : first.input.runId ≠ second.input.runId) :
    (∃ key, first.Uses key ∧ second.Uses key) ↔
      (first.CutElsewhere second ∧ SameContent repr first.action second.action
        first.snapshotHash second.snapshotHash) ∨
      (first.CutElsewhere second ∧ first.input.basedOnOffset = second.input.basedOnOffset) ∨
      first.PassesFor second ∨ second.PassesFor first := by
  have hkeys := key_eq_iff hinj hsolid hfirst hsecond hprinted hprinted'
  have hlegacy := legacyKey_eq_iff first second
  rw [or_iff_right fun h => hne h.1] at hkeys hlegacy
  rw [← hkeys, ← hlegacy, ← legacyKey_eq_key_iff hsolid hsecond,
    ← legacyKey_eq_key_iff hsolid hfirst]
  constructor
  · rintro ⟨key, rfl | rfl, hkey | hkey⟩
    · exact .inl hkey
    · exact .inr (.inr (.inr hkey.symm))
    · exact .inr (.inr (.inl hkey))
    · exact .inr (.inl hkey)
  · rintro (hkey | hkey | hkey | hkey)
    · exact ⟨_, .inl rfl, .inl hkey⟩
    · exact ⟨_, .inr rfl, .inr hkey⟩
    · exact ⟨_, .inr rfl, .inl hkey⟩
    · exact ⟨_, .inl rfl, .inr hkey.symm⟩

theorem identified_iff_apart (hinj : Function.Injective sha256)
    (hsolid : ∀ text, Joined.Solid (sha256 text)) (hfirst : first.Generated sha256 repr)
    (hsecond : second.Generated sha256 repr) (hprinted : NumbersPrinted first.action)
    (hprinted' : NumbersPrinted second.action) :
    first.Identified repr second ↔ first.Apart repr second := by
  have hkeys := key_eq_iff hinj hsolid hfirst hsecond hprinted hprinted'
  have hlegacy := legacyKey_eq_iff first second
  have huses := exists_uses_iff hinj hsolid hfirst hsecond hprinted hprinted'
  constructor
  · intro h
    refine ⟨fun hcut hsame => ?_, fun hcut hoffset => ?_, fun hne => ?_⟩
    · exact hcut.ne (h.dispatch (hkeys.mpr ⟨.inr hcut, hsame⟩)).1
    · exact hcut.ne (h.legacy (hlegacy.mpr ⟨.inr hcut, hoffset⟩)).1
    · have hnone := (h.independent hne).1
      rw [suppresses_iff, huses hne, not_or, not_or, not_or] at hnone
      exact hnone.2.2
  · intro h
    refine ⟨fun hkey => ?_, fun hkey => ?_, fun hne => ?_⟩
    · obtain ⟨⟨hrun, haction⟩ | hcut, hsame⟩ := hkeys.mp hkey
      · exact ⟨hrun, haction, hsame⟩
      · exact absurd hsame (h.content hcut)
    · obtain ⟨⟨hrun, haction⟩ | hcut, hoffset⟩ := hlegacy.mp hkey
      · exact ⟨hrun, haction, hoffset⟩
      · exact absurd hoffset (h.offset hcut)
    · have hnone : ¬ ∃ key, first.Uses key ∧ second.Uses key := by
        rw [huses hne, not_or, not_or, not_or]
        exact ⟨fun hand => h.content hand.1 hand.2, fun hand => h.offset hand.1 hand.2,
          h.dispatch hne⟩
      refine ⟨fun hone => hnone ((suppresses_iff _ _).mp hone), fun hone => hnone ?_⟩
      obtain ⟨key, hsecondUses, hfirstUses⟩ := (suppresses_iff _ _).mp hone
      exact ⟨key, hfirstUses, hsecondUses⟩

end Pairs

end Turn

/-! ## Turns after turns -/

namespace AttributedStore

def BlockedByOwn (ledger : AttributedStore) (dispatch : Turn × TurnCalls) : Prop :=
  ∀ key, dispatch.1.Uses key → ledger.store.Taken key →
    ledger.creator key = some dispatch.1.input.runId

def Ascribed (turns : List (Turn × TurnCalls)) (ledger : AttributedStore) : Prop :=
  ∀ key, ledger.store.Taken key → ∃ dispatch ∈ turns, dispatch.1.Uses key ∧
    ledger.creator key = some dispatch.1.input.runId

variable {turns : List (Turn × TurnCalls)}

theorem ascribed_turn {ledger : AttributedStore} {dispatch : Turn × TurnCalls}
    (h : Ascribed turns ledger) (hmem : dispatch ∈ turns) :
    Ascribed turns (ledger.turn dispatch) := by
  intro key htaken
  have hafter : (dispatch.1.run dispatch.2 ledger.store).2.Taken key := htaken
  by_cases hbefore : ledger.store.Taken key
  · obtain ⟨creating, hcreating, huses, hcreator⟩ := h key hbefore
    refine ⟨creating, hcreating, huses, ?_⟩
    rw [AttributedStore.turn]
    dsimp only
    rw [if_neg fun hnew => hnew.2 hbefore]
    exact hcreator
  · refine ⟨dispatch, hmem, ?_, if_pos ⟨hafter, hbefore⟩⟩
    by_contra hother
    apply hbefore
    have hsame := dispatch.1.lookup_drive dispatch.2 6 (dispatch.1.start, ledger.store) hother
    rwa [DedupeStore.Taken, Turn.run, hsame] at hafter

theorem along_blockedByOwn (hpairs : ∀ a ∈ turns, ∀ b ∈ turns, a.1.input.runId ≠ b.1.input.runId →
      ¬ ∃ key, a.1.Uses key ∧ b.1.Uses key)
    {ledger : AttributedStore} (hledger : Ascribed turns ledger)
    {later : List (Turn × TurnCalls)} (hlater : later ⊆ turns) :
    Along AttributedStore.turn BlockedByOwn ledger later := by
  induction later generalizing ledger with
  | nil => trivial
  | cons dispatch later ih =>
    obtain ⟨hmem, hrest⟩ := cons_subset.mp hlater
    refine ⟨fun key huses htaken => ?_, ih (ascribed_turn hledger hmem) hrest⟩
    obtain ⟨creating, hcreating, hother, hcreator⟩ := hledger key htaken
    have hsame : creating.1.input.runId = dispatch.1.input.runId := by
      by_contra hne
      exact hpairs creating hcreating dispatch hmem hne ⟨key, hother, huses⟩
    rw [hcreator, hsame]

theorem ascribed_empty (turns : List (Turn × TurnCalls)) : Ascribed turns .empty := by
  intro key htaken
  rw [AttributedStore.empty, DedupeStore.Taken] at htaken
  cases htaken

end AttributedStore

/-- Two turns are identified by their keys if and only if they are told apart, and in a
sequence of turns that are, none is blocked by a record of another run. -/
theorem dispatchKeys_identify_iff {sha256 : String → String} {repr : Nat → Bool → String}
    (hinj : Function.Injective sha256) (hsolid : ∀ text, Joined.Solid (sha256 text)) :
    (∀ first second : Turn, first.Generated sha256 repr → second.Generated sha256 repr →
      IdempotencyKeyPolicy.NumbersPrinted first.action →
      IdempotencyKeyPolicy.NumbersPrinted second.action →
      (first.Identified repr second ↔ first.Apart repr second)) ∧ ∀ turns : List (Turn × TurnCalls),
      (∀ dispatch ∈ turns, dispatch.1.Generated sha256 repr ∧
        IdempotencyKeyPolicy.NumbersPrinted dispatch.1.action) →
      (∀ a ∈ turns, ∀ b ∈ turns, a.1.Apart repr b.1) →
      Along AttributedStore.turn AttributedStore.BlockedByOwn .empty turns := by
  constructor
  · intro first second hfirst hsecond hprinted hprinted'
    exact Turn.identified_iff_apart hinj hsolid hfirst hsecond hprinted hprinted'
  · intro turns hturns hapart
    refine AttributedStore.along_blockedByOwn ?_ (AttributedStore.ascribed_empty turns)
      (List.Subset.refl turns)
    intro a ha b hb hne
    obtain ⟨hfirst, hprinted⟩ := hturns a ha
    obtain ⟨hsecond, hprinted'⟩ := hturns b hb
    have hidentified := (Turn.identified_iff_apart hinj hsolid hfirst hsecond hprinted
      hprinted').mpr (hapart a ha b hb)
    rw [← Turn.suppresses_iff]
    exact (hidentified.independent hne).1

/-! ## Runs with a colon and without -/

/-- A turn of a run about an action without input. -/
def submitTurn (runId actionId : String) : Turn where
  input := ⟨runId, 1, 1, "signal"⟩
  action := { Ledger.submit with actionId := actionId }
  contentHash := "a9c2412e802958862b6466efa63950b171e9e6846884c1f22bac4300bb50e064"
  snapshotHash := Ledger.firstSnapshot
  hostKind := .localCli
  admitted := none

def submitText : Except Raised String :=
  PyValue.dumpsAs (PyValue.layout PyValue.ascii []) true
    (.dict (IdempotencyKeyPolicy.payload (fun _ _ => "")
      (contentPayload Ledger.submit Ledger.firstSnapshot)))

def tally (text : List Char) : List Char :=
  text.flatMap fun c => List.replicate c.toNat 'x' ++ ['.']

/-- The digest of the text; any other text has one here that is no hexadecimal number. -/
def submitSha256 (text : String) : String :=
  if submitText = .ok text then (submitTurn "" "").contentHash
  else String.ofList (tally text.toList)

theorem mem_tally {text : List Char} {c : Char} (h : c ∈ tally text) : c = 'x' ∨ c = '.' := by
  obtain ⟨d, -, hc⟩ := mem_flatMap.mp h
  rcases mem_append.mp hc with hcount | hdot
  · exact .inl (mem_replicate.mp hcount).2
  · exact .inr (mem_singleton.mp hdot)

theorem tally_injective : Function.Injective tally := by
  intro text other h
  induction text generalizing other with
  | nil =>
    cases other with
    | nil => rfl
    | cons d other => simp [tally] at h
  | cons c text ih =>
    cases other with
    | nil => simp [tally] at h
    | cons d other =>
      have hdot : ∀ n, '.' ∉ List.replicate n 'x' := by
        intro n hmem
        exact absurd (mem_replicate.mp hmem).2 (by decide)
      have hparts : List.replicate c.toNat 'x' ++ '.' :: tally text =
          List.replicate d.toNat 'x' ++ '.' :: tally other := by
        simpa [tally] using h
      rw [Joined.joined_first_eq_iff (hdot _) (hdot _)] at hparts
      obtain ⟨hcount, hrest⟩ := hparts
      have hsame : c = d := Char.toNat_inj.mp (replicate_inj.mp hcount).1
      rw [hsame, ih hrest]

theorem submitSha256_injective : Function.Injective submitSha256 := by
  have hmark : ∀ text : String, (submitTurn "" "").contentHash ≠
      String.ofList (tally text.toList) := by
    intro text h
    have hmem : '9' ∈ tally text.toList := by
      rw [← String.toList_ofList (l := tally text.toList), ← h]
      decide +kernel
    rcases mem_tally hmem with habsurd | habsurd
    · exact absurd habsurd (by decide)
    · exact absurd habsurd (by decide)
  intro text other h
  unfold submitSha256 at h
  split at h
  next htext =>
    split at h
    next hother => exact Except.ok.inj (htext.symm.trans hother)
    next => exact absurd h (hmark other)
  next =>
    split at h
    next => exact absurd h.symm (hmark text)
    next => exact String.toList_inj.mp (tally_injective (String.ofList_injective h))

theorem submitSha256_solid (text : String) : Joined.Solid (submitSha256 text) := by
  unfold submitSha256
  split
  · decide +kernel
  · intro hmem
    rw [String.toList_ofList] at hmem
    rcases mem_tally hmem with habsurd | habsurd
    · exact absurd habsurd (by decide)
    · exact absurd habsurd (by decide)

theorem succeeds_submitText : Succeeds submitText := by
  rw [submitText, PyValue.succeeds_dumpsAs_dict_iff]
  intro field hfield
  simp only [IdempotencyKeyPolicy.payload, mem_cons, not_mem_nil, or_false] at hfield
  rcases hfield with rfl | rfl | rfl | rfl | rfl <;> exact ⟨_, rfl⟩

theorem generated_submitTurn (runId actionId : String) :
    (submitTurn runId actionId).Generated submitSha256 (fun _ _ => "") := by
  obtain ⟨text, htext⟩ := succeeds_submitText
  have hhash : IdempotencyKeyPolicy.contentHash submitSha256 (fun _ _ => "")
      (submitTurn runId actionId).action (submitTurn runId actionId).snapshotHash =
      .ok (submitTurn runId actionId).contentHash := by
    apply map_eq_ok_iff.mpr
    refine ⟨text, htext, ?_⟩
    rw [submitSha256, if_pos htext]
    rfl
  exact map_eq_ok_iff.mpr ⟨_, hhash, rfl⟩

theorem apart_submitTurn (first second actionId : String) :
    (submitTurn first actionId).Apart (fun _ _ => "") (submitTurn second actionId) := by
  have hwhole : ¬ (submitTurn first actionId).CutElsewhere (submitTurn second actionId) := by
    intro hcut
    have hjoined : first ++ ":" ++ actionId = second ++ ":" ++ actionId :=
      (Turn.joined_iff _ _).mpr (.inr hcut)
    rw [String.append_left_inj, String.append_left_inj] at hjoined
    exact hcut.ne hjoined
  have hnumber : ∀ a b : String, ¬ (submitTurn a actionId).PassesFor (submitTurn b actionId) := by
    intro a b hpasses
    have hdigits : toString (1 : Int) = (submitTurn "" "").contentHash := hpasses.2
    exact absurd hdigits (by decide)
  exact ⟨fun hcut => absurd hcut hwhole, fun hcut => absurd hcut hwhole,
    fun _ => ⟨hnumber _ _, hnumber _ _⟩⟩

/-- Turns of two runs about one action. -/
theorem dispatchKeys_identify_iff_runs :
    (submitTurn "run-1" "action-1").Identified (fun _ _ => "") (submitTurn "run-2" "action-1") ∧
      Along AttributedStore.turn AttributedStore.BlockedByOwn .empty
        [(submitTurn "run-1" "action-1", .steady .cancelled),
          (submitTurn "run-2" "action-1", .steady .cancelled)] := by
  have happly := @dispatchKeys_identify_iff submitSha256 (fun _ _ => "") submitSha256_injective
    submitSha256_solid
  constructor
  · exact (happly.1 _ _ (generated_submitTurn _ _) (generated_submitTurn _ _) trivial
      trivial).mpr (apart_submitTurn _ _ _)
  · have hturns : ∀ dispatch ∈ [(submitTurn "run-1" "action-1", TurnCalls.steady .cancelled),
        (submitTurn "run-2" "action-1", .steady .cancelled)],
        ∃ runId, dispatch.1 = submitTurn runId "action-1" := by
      intro dispatch hdispatch
      simp only [mem_cons, not_mem_nil, or_false] at hdispatch
      rcases hdispatch with rfl | rfl
      · exact ⟨_, rfl⟩
      · exact ⟨_, rfl⟩
    apply happly.2
    · intro dispatch hdispatch
      obtain ⟨runId, hrun⟩ := hturns dispatch hdispatch
      rw [hrun]
      exact ⟨generated_submitTurn _ _, trivial⟩
    · intro first hfirst second hsecond
      obtain ⟨runId, hrun⟩ := hturns first hfirst
      obtain ⟨otherRun, hother⟩ := hturns second hsecond
      rw [hrun, hother]
      exact apart_submitTurn _ _ _

/-- A run dispatches an action whose id begins with the kind of a child run, and the child
run one whose id goes on like that: the policy generates one key for both, for any hash, and
the legacy key of the one suppresses the other. -/
theorem not_dispatchKeys_identify :
    (∀ (sha256 : String → String) (repr : Nat → Bool → String) (snapshotHash : String),
      IdempotencyKeyPolicy.generate sha256 repr "run-1"
          (submitTurn "run-1" "audit:action-1").action snapshotHash =
        IdempotencyKeyPolicy.generate sha256 repr "run-1:audit"
          (submitTurn "run-1:audit" "action-1").action snapshotHash) ∧
    (submitTurn "run-1" "audit:action-1").legacyKey =
      (submitTurn "run-1:audit" "action-1").legacyKey ∧
    (submitTurn "run-1" "audit:action-1").Suppresses (submitTurn "run-1:audit" "action-1") := by
  have hlegacy : (submitTurn "run-1" "audit:action-1").legacyKey =
      (submitTurn "run-1:audit" "action-1").legacyKey := by decide
  refine ⟨fun sha256 repr snapshotHash => ?_, hlegacy, ?_⟩
  · have hkey : dispatchKey "run-1" "audit:action-1" = dispatchKey "run-1:audit" "action-1" := by
      funext hash
      have hjoined : "dispatch:" ++ "run-1" ++ ":" ++ "audit:action-1" =
          "dispatch:" ++ "run-1:audit" ++ ":" ++ "action-1" := by decide
      rw [dispatchKey, hjoined]
      rfl
    unfold IdempotencyKeyPolicy.generate
    change Except.map (dispatchKey "run-1" "audit:action-1") _ = _
    rw [hkey]
    rfl
  · exact (Turn.suppresses_iff _ _).mpr ⟨_, .inr rfl, .inr hlegacy⟩

end HiAgent.Kernel
