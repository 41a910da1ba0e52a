/-
  Kernel/Workers.lean --- several engines over one dedupe store.

  Worker processes that run a turn for one action of one run at one offset share
  nothing but the store, and each call of the store is a transaction of its own.
  An event moves one worker by one call.
-/
import HiAgent.Kernel.AtMostOnce

namespace HiAgent.Kernel

open Foundation List

/-- A worker in the middle of its turn. -/
structure Worker where
  turn : Turn
  position : Position

/-- A store and the workers over it. -/
structure Cluster where
  store : DedupeStore
  workers : List Worker

namespace Worker

/-- The worker has found the legacy key free and has not tried to take it yet. -/
def isOpen (worker : Worker) : Prop :=
  (worker.position = .reserve ∧ worker.turn.legacyKey ≠ worker.turn.key) ∨ worker.position = .mirror

instance : DecidablePred isOpen := fun _ => inferInstanceAs (Decidable (_ ∨ _))

def checksLegacy (worker : Worker) : Prop :=
  worker.position = .lookup ∨ (worker.position = .reserve ∧ worker.turn.legacyKey = worker.turn.key)

instance : DecidablePred checksLegacy := fun _ => inferInstanceAs (Decidable (_ ∨ _))

end Worker

namespace Cluster

/-- A move of one worker. -/
structure Event where
  worker : Nat
  call : StoreCall
  execution : Execution

/-- The cluster after one call of one worker. -/
def step (cluster : Cluster) (event : Event) : Cluster :=
  match cluster.workers[event.worker]? with
  | none => cluster
  | some worker =>
    let point := worker.turn.step event.call event.execution worker.position
      cluster.store
    { store := point.2
      workers := cluster.workers.set event.worker
        { worker with position := point.1 } }

/-- A worker for each request that gets as far as the store. -/
def launch (engine : Engine) (store : DedupeStore) (requests : List TurnRequest) : Cluster where
  store := store
  workers := requests.filterMap fun request =>
    match prepare engine request with
    | .ready turn => some ⟨turn, turn.start⟩
    | _ => none

def OneDispatch (cluster : Cluster) : Prop :=
  cluster.workers.countP (fun worker => worker.position.invoked) ≤ 1

/-- The call that comes next neither opens a gap between two workers with different
dispatch keys nor loses what a later worker relies on: the legacy key is not checked
while a worker with another dispatch key is about to take it, and the calls that may
raise without ending the turn return. -/
def Undisturbed (cluster : Cluster) (event : Event) : Prop :=
  ∀ worker ∈ cluster.workers[event.worker]?,
    (worker.checksLegacy → cluster.store.Taken worker.turn.legacyKey ∨
      ∀ other ∈ cluster.workers, other.isOpen → other.turn.key = worker.turn.key) ∧
    (worker.position = .lookup → event.call = .returns) ∧
    (worker.position = .mirror → event.call = .returns) ∧
    (worker.position = .reserve →
      worker.turn.action.effectClass = .idempotentWrite → event.call = .returns)

instance (cluster : Cluster) (event : Event) : Decidable (cluster.Undisturbed event) :=
  inferInstanceAs (Decidable (∀ worker ∈ cluster.workers[event.worker]?, _))

/-! ## The invariant -/

/-- What the workers with one legacy key keep between them. -/
structure Exclusive (legacyKey : String) (cluster : Cluster) : Prop where
  legacy : ∀ worker ∈ cluster.workers, worker.turn.legacyKey = legacyKey
  /-- Open workers meet at their dispatch key. -/
  alike : ∀ worker ∈ cluster.workers, worker.isOpen →
    ∀ other ∈ cluster.workers, other.isOpen → other.turn.key = worker.turn.key
  /-- So does an open worker with one that is going to call its executor. -/
  behind : ∀ worker ∈ cluster.workers, worker.position.committed = true →
    ∀ other ∈ cluster.workers, other.isOpen → other.turn.key = worker.turn.key
  taken : ∀ worker ∈ cluster.workers, worker.position.committed = true →
    cluster.store.Taken worker.turn.key
  mirrored : ∀ worker ∈ cluster.workers, worker.position.committed = true →
    worker.position ≠ .mirror → cluster.store.Taken legacyKey
  once : cluster.workers.countP (fun worker => worker.position.committed) ≤ 1

variable {legacyKey : String} {cluster : Cluster}

theorem oneDispatch_of_exclusive (h : cluster.Exclusive legacyKey) : cluster.OneDispatch :=
  Nat.le_trans
    (countP_mono_left fun _ _ hinvoked =>
      Position.committed_of_invoked hinvoked)
    h.once

/-- What a worker must bring along to keep the invariant at its new position. -/
structure Fits (legacyKey : String) (cluster : Cluster) (worker : Worker)
    (position : Position) (store : DedupeStore) : Prop where
  keeps : ∀ key, cluster.store.Taken key → store.Taken key
  opens : Worker.isOpen ⟨worker.turn, position⟩ → (∀ other ∈ cluster.workers, other.isOpen →
      other.turn.key = worker.turn.key) ∧
    ∀ other ∈ cluster.workers, other.position.committed = true → worker.turn.key = other.turn.key
  commits : position.committed = true → (∀ other ∈ cluster.workers, other.isOpen →
      other.turn.key = worker.turn.key) ∧
    store.Taken worker.turn.key ∧
    (position ≠ .mirror → store.Taken legacyKey) ∧
    (worker.position.committed = true ∨ ∀ other ∈ cluster.workers, other.position.committed = false)

variable {store : DedupeStore}

theorem exclusive_set {index : Nat}
    {worker : Worker} {position : Position} (h : cluster.Exclusive legacyKey)
    (hworker : cluster.workers[index]? = some worker)
    (hfits : cluster.Fits legacyKey worker position store) : Exclusive legacyKey
      ⟨store, cluster.workers.set index { worker with position := position }⟩ := by
  have hmem : worker ∈ cluster.workers := mem_of_getElem? hworker
  have hcases : ∀ other ∈ cluster.workers.set index
      { worker with position := position },
      other ∈ cluster.workers ∨ other = { worker with position := position } :=
    fun other hother => mem_or_eq_of_mem_set hother
  refine ⟨?_, ?_, ?_, ?_, ?_, ?_⟩
  · intro other hother
    rcases hcases other hother with hother | rfl
    · exact h.legacy other hother
    · exact h.legacy worker hmem
  · intro left hleft hopenl right hright hopenr
    rcases hcases left hleft with hleft | rfl
    · rcases hcases right hright with hright | rfl
      · exact h.alike left hleft hopenl right hright hopenr
      · exact ((hfits.opens hopenr).1 left hleft hopenl).symm
    · rcases hcases right hright with hright | rfl
      · exact (hfits.opens hopenl).1 right hright hopenr
      · rfl
  · intro left hleft hcommitted right hright hopen
    rcases hcases left hleft with hleft | rfl
    · rcases hcases right hright with hright | rfl
      · exact h.behind left hleft hcommitted right hright hopen
      · exact (hfits.opens hopen).2 left hleft hcommitted
    · rcases hcases right hright with hright | rfl
      · exact (hfits.commits hcommitted).1 right hright hopen
      · rfl
  · intro other hother hcommitted
    rcases hcases other hother with hother | rfl
    · exact hfits.keeps _ (h.taken other hother hcommitted)
    · exact (hfits.commits hcommitted).2.1
  · intro other hother hcommitted hpast
    rcases hcases other hother with hother | rfl
    · exact hfits.keeps _ (h.mirrored other hother hcommitted hpast)
    · exact (hfits.commits hcommitted).2.2.1 hpast
  · change (cluster.workers.set index { worker with position := position }).countP
      (fun worker => worker.position.committed) ≤ 1
    have hcount := Roster.countP_advance hworker
      (fun worker => worker.position.committed)
      (some { worker with position := position })
    simp only [Roster.advance, Option.toList, countP_singleton] at hcount
    have honce := h.once
    cases hnew : position.committed with
    | false =>
      rw [hnew] at hcount
      simp only [Bool.false_eq_true, if_false] at hcount
      omega
    | true =>
      rw [hnew] at hcount
      simp only [if_true] at hcount
      rcases (hfits.commits hnew).2.2.2 with hold | hnone
      · rw [if_pos hold] at hcount
        omega
      · have hzero : cluster.workers.countP
            (fun worker => worker.position.committed) = 0 :=
          countP_eq_zero.mpr fun other hother => by
            rw [hnone other hother]
            exact Bool.false_ne_true
        omega

/-! ## One step -/

section Step

variable {legacyKey : String} {cluster : Cluster} {worker : Worker}
  {call : StoreCall} {execution : Execution}

theorem past_step {turn : Turn} {position : Position} {store : DedupeStore}
    (hcommitted : position.committed = true) (hpast : position ≠ .mirror) :
    (turn.step call execution position store).1.committed = true ∧
      (turn.step call execution position store).1 ≠ .mirror := by
  cases position with
  | mirror => exact absurd rfl hpast
  | execute dedupeAvailable aliased =>
    exact Turn.conclude_past dedupeAvailable aliased execution
  | settle ending aliased => exact Turn.settled_past aliased ending _
  | settleAlias ending => exact ⟨rfl, nofun⟩
  | finished invoked result => exact ⟨hcommitted, nofun⟩
  | _ => cases hcommitted

section

variable (h : cluster.Exclusive legacyKey)
include h

theorem fits_past (hmem : worker ∈ cluster.workers)
    (hcommitted : worker.position.committed = true) (hpast : worker.position ≠ .mirror) :
    cluster.Fits legacyKey worker (worker.turn.step call execution worker.position cluster.store).1
      (worker.turn.step call execution worker.position cluster.store).2 := by
  have hnext : (worker.turn.step call execution worker.position
        cluster.store).1.committed = true ∧
      (worker.turn.step call execution worker.position cluster.store).1 ≠ .mirror :=
    past_step hcommitted hpast
  obtain ⟨hafter, hmirror⟩ := hnext
  refine ⟨fun key => Turn.taken_step, ?_, fun _ => ?_⟩
  · rintro (⟨hreserve, _⟩ | hat)
    · dsimp only at hreserve
      rw [hreserve] at hafter
      cases hafter
    · exact absurd hat hmirror
  · exact ⟨h.behind worker hmem hcommitted, Turn.taken_step (h.taken worker hmem hcommitted),
      fun _ => Turn.taken_step (h.mirrored worker hmem hcommitted hpast),
      Or.inl hcommitted⟩

theorem fits_mirror (hmem : worker ∈ cluster.workers) (hat : worker.position = .mirror) :
    cluster.Fits legacyKey worker (worker.turn.step .returns execution .mirror cluster.store).1
      (worker.turn.step .returns execution .mirror cluster.store).2 := by
  have hcommitted : worker.position.committed = true := by rw [hat]; rfl
  have hleads : ∃ aliased, (worker.turn.step .returns execution .mirror
      cluster.store).1 = .execute true aliased := by
    change ∃ aliased, Turn.mirrored _ = _
    unfold Turn.mirrored
    split
    · exact ⟨true, rfl⟩
    · exact ⟨false, rfl⟩
  obtain ⟨aliased, hleads⟩ := hleads
  rw [hleads]
  refine ⟨fun key => Turn.taken_step, ?_, fun _ => ?_⟩
  · rintro (⟨hreserve, _⟩ | hmirror)
    · cases hreserve
    · cases hmirror
  · refine ⟨h.behind worker hmem hcommitted,
      Turn.taken_step (h.taken worker hmem hcommitted), fun _ => ?_, Or.inl hcommitted⟩
    rw [← h.legacy worker hmem]
    exact DedupeStore.taken_reserveAndDispatch_iff.mpr (Or.inr (Turn.legacyEnvelope_key _).symm)

theorem none_committed (hfree : ¬ cluster.store.Taken legacyKey)
    (halike : ∀ other ∈ cluster.workers, other.isOpen → other.turn.key = worker.turn.key)
    {other : Worker} (hother : other ∈ cluster.workers)
    (hcommitted : other.position.committed = true) : other.turn.key = worker.turn.key := by
  rcases Classical.em (other.position = .mirror) with hmirror | hpast
  · exact halike other hother (Or.inr hmirror)
  · exact absurd (h.mirrored other hother hcommitted hpast) hfree

theorem fits_lookup (hmem : worker ∈ cluster.workers)
    (hclear : cluster.store.Taken worker.turn.legacyKey ∨ ∀ other ∈ cluster.workers, other.isOpen →
        other.turn.key = worker.turn.key) : cluster.Fits legacyKey worker
      (worker.turn.step .returns execution .lookup cluster.store).1
      (worker.turn.step .returns execution .lookup cluster.store).2 := by
  have hlegacy := h.legacy worker hmem
  rw [hlegacy] at hclear
  have hleads : (worker.turn.step .returns execution .lookup cluster.store).1 =
      Turn.looked (.ok (cluster.store.lookup legacyKey)) := by
    rw [← hlegacy]
    rfl
  rw [hleads]
  cases hrecord : cluster.store.lookup legacyKey with
  | some record =>
    refine ⟨fun key => Turn.taken_step, ?_, fun hcommitted => nomatch hcommitted⟩
    rintro (⟨hreserve, _⟩ | hmirror)
    · cases hreserve
    · cases hmirror
  | none =>
    have hfree : ¬ cluster.store.Taken legacyKey :=
      DedupeStore.not_taken_iff.mpr hrecord
    have halike := hclear.resolve_left hfree
    refine ⟨fun key => Turn.taken_step, fun _ => ⟨halike, ?_⟩, fun hcommitted => nomatch hcommitted⟩
    intro other hother hcommitted
    exact (none_committed h hfree halike hother hcommitted).symm

theorem fits_reserve (hmem : worker ∈ cluster.workers) (hat : worker.position = .reserve)
    (hclear : worker.turn.legacyKey = worker.turn.key → cluster.store.Taken worker.turn.legacyKey ∨
      ∀ other ∈ cluster.workers, other.isOpen → other.turn.key = worker.turn.key)
    (hfirm : worker.turn.action.effectClass = .idempotentWrite → call = .returns) :
    cluster.Fits legacyKey worker (worker.turn.step call execution .reserve cluster.store).1
      (worker.turn.step call execution .reserve cluster.store).2 := by
  have hlegacy := h.legacy worker hmem
  have hkey : (worker.turn.step call execution .reserve
      cluster.store).1.committed = true →
      ¬ cluster.store.Taken worker.turn.key ∧ (worker.turn.step call execution
        .reserve cluster.store).2.Taken worker.turn.key :=
    Turn.key_of_commits (fun _ => hfirm) rfl
  -- whoever else is open or committed would have taken the key before
  have hothers : (worker.turn.step call execution .reserve
      cluster.store).1.committed = true →
      (∀ other ∈ cluster.workers, other.isOpen → other.turn.key = worker.turn.key) ∧
      ∀ other ∈ cluster.workers, other.position.committed = false := by
    intro hcommitted
    have hfree := (hkey hcommitted).1
    have hnot : ∀ other ∈ cluster.workers, other.position.committed = true →
        other.turn.key ≠ worker.turn.key := by
      intro other hother hrunning heq
      exact hfree (heq ▸ h.taken other hother hrunning)
    rcases Classical.em (worker.turn.legacyKey = worker.turn.key) with heq | hne
    · have hfree' : ¬ cluster.store.Taken legacyKey := by
        rw [← hlegacy, heq]
        exact hfree
      have halike := (hclear heq).resolve_left (by rw [heq]; exact hfree)
      refine ⟨halike, fun other hother => ?_⟩
      rw [← Bool.not_eq_true]
      intro hrunning
      exact hnot other hother hrunning (none_committed h hfree' halike hother hrunning)
    · have hopen : worker.isOpen := Or.inl ⟨hat, hne⟩
      refine ⟨h.alike worker hmem hopen, fun other hother => ?_⟩
      rw [← Bool.not_eq_true]
      intro hrunning
      exact hnot other hother hrunning (h.behind other hother hrunning worker hmem hopen).symm
  have hleads : (worker.turn.step call execution .reserve cluster.store).1 =
        (if worker.turn.legacyKey = worker.turn.key then .execute true false
          else .mirror) ∨
      ∃ result, (worker.turn.step call execution .reserve cluster.store).1 =
        .finished false result :=
    Turn.reserve_leads hfirm
  refine ⟨fun key => Turn.taken_step, fun hopen => ?_, fun hcommitted => ?_⟩
  · -- an open worker has come out at the mirror, and is committed
    have hcommitted : (worker.turn.step call execution .reserve
        cluster.store).1.committed = true := by
      rcases hleads with hnext | ⟨result, hended⟩
      · rw [hnext]
        split <;> rfl
      · rw [hended] at hopen
        rcases hopen with ⟨hreserve, _⟩ | hmirror
        · cases hreserve
        · cases hmirror
    obtain ⟨halike, hnone⟩ := hothers hcommitted
    refine ⟨halike, fun other hother hrunning => ?_⟩
    exact absurd ((hnone other hother).symm.trans hrunning) nofun
  · obtain ⟨halike, hnone⟩ := hothers hcommitted
    refine ⟨halike, (hkey hcommitted).2, fun hpast => ?_, Or.inr hnone⟩
    rcases hleads with hnext | ⟨result, hended⟩
    · rcases Classical.em (worker.turn.legacyKey = worker.turn.key) with heq | hne
      · rw [← hlegacy, heq]
        exact (hkey hcommitted).2
      · rw [if_neg hne] at hnext
        exact absurd hnext hpast
    · rw [hended] at hcommitted
      cases hcommitted

end

end Step

/-! ## Runs -/

theorem exclusive_step {event : Event}
    (h : cluster.Exclusive legacyKey) (hguard : cluster.Undisturbed event) :
    (cluster.step event).Exclusive legacyKey := by
  unfold step
  cases hworker : cluster.workers[event.worker]? with
  | none => exact h
  | some worker =>
    have hmem : worker ∈ cluster.workers := mem_of_getElem? hworker
    obtain ⟨hclear, hlookup, hmirror, hfirm⟩ := hguard worker hworker
    apply exclusive_set h hworker
    cases hat : worker.position with
    | lookup =>
      rw [hlookup hat]
      exact fits_lookup h hmem (hclear (Or.inl hat))
    | reserve =>
      exact fits_reserve h hmem hat (fun heq => hclear (Or.inr ⟨hat, heq⟩)) (hfirm hat)
    | mirror =>
      rw [hmirror hat]
      exact fits_mirror h hmem hat
    | finished invoked result =>
      cases invoked with
      | true =>
        rw [← hat]
        exact fits_past h hmem (by rw [hat]; rfl) (by rw [hat]; nofun)
      | false =>
        refine ⟨fun key => id, ?_, fun hcommitted => nomatch hcommitted⟩
        rintro (⟨hreserve, _⟩ | hat_mirror)
        · cases hreserve
        · cases hat_mirror
    | _ =>
      rw [← hat]
      exact fits_past h hmem (by rw [hat]; rfl) (by rw [hat]; nofun)

theorem exclusive_launch {engine : Engine}
    {requests : List TurnRequest} {runId actionId : String} {basedOnOffset : Int}
    (hsame : ∀ request ∈ requests, ∀ turn, prepare engine request = .ready turn →
      turn.isFor runId actionId basedOnOffset = true) : (launch engine store requests).Exclusive
      (legacyDispatchDedupeKey runId actionId basedOnOffset) := by
  have hfresh : ∀ worker ∈ (launch engine store requests).workers,
      worker.turn.isFor runId actionId basedOnOffset = true ∧
        worker.position = worker.turn.start := by
    intro worker hworker
    obtain ⟨request, hrequest, hready⟩ := mem_filterMap.mp hworker
    split at hready
    · rename_i turn hprepare
      cases hready
      exact ⟨hsame request hrequest turn hprepare, rfl⟩
    · cases hready
  have hidle : ∀ worker ∈ (launch engine store requests).workers,
      worker.position.committed = false := by
    intro worker hworker
    rw [(hfresh worker hworker).2]
    exact worker.turn.start_committed
  have hclosed : ∀ worker ∈ (launch engine store requests).workers, ¬ worker.isOpen := by
    intro worker hworker hopen
    have hstart := (hfresh worker hworker).2
    unfold Turn.start at hstart
    rcases hopen with ⟨hreserve, hkeys⟩ | hmirror
    · rw [if_neg hkeys, hreserve] at hstart
      cases hstart
    · rw [hmirror] at hstart
      split at hstart <;> cases hstart
  refine ⟨?_, ?_, ?_, ?_, ?_, ?_⟩
  · intro worker hworker
    exact Turn.legacyKey_of_isFor (hfresh worker hworker).1
  · intro worker hworker hopen
    exact absurd hopen (hclosed worker hworker)
  · intro worker hworker hcommitted
    exact absurd ((hidle worker hworker).symm.trans hcommitted) nofun
  · intro worker hworker hcommitted
    exact absurd ((hidle worker hworker).symm.trans hcommitted) nofun
  · intro worker hworker hcommitted
    exact absurd ((hidle worker hworker).symm.trans hcommitted) nofun
  · have hzero : (launch engine store requests).workers.countP
        (fun worker => worker.position.committed) = 0 :=
      countP_eq_zero.mpr fun worker hworker => by
        rw [hidle worker hworker]
        exact Bool.false_ne_true
    rw [hzero]
    exact Nat.zero_le 1

/-- In every run of undisturbed calls at most one worker calls its executor. -/
theorem oneDispatch_of_undisturbed {engine : Engine}
    {requests : List TurnRequest} {runId actionId : String} {basedOnOffset : Int}
    (hsame : ∀ request ∈ requests, ∀ turn, prepare engine request = .ready turn →
      turn.isFor runId actionId basedOnOffset = true) {events : List Event}
    (hguard : Along step Undisturbed (launch engine store requests) events) :
    Always step OneDispatch (launch engine store requests) events :=
  always_of_invariant (fun _ _ hinv hcall => exclusive_step hinv hcall)
    (fun _ hinv => oneDispatch_of_exclusive hinv) (exclusive_launch hsame) hguard

/-! ## Two workers -/

open Ledger in
def pair : List TurnRequest := [request firstSnapshot, request secondSnapshot]

def Event.returning (worker : Nat) : Event where
  worker := worker
  call := .returns
  execution := .returns (.dict [("acknowledged", .bool true)])

theorem pair_same : ∀ request ∈ pair, ∀ turn, prepare Ledger.digests request = .ready turn →
      turn.isFor "run-1" "action-1" 0 = true := by
  intro request hrequest turn hturn
  simp only [pair, mem_cons, not_mem_nil, or_false] at hrequest
  rcases hrequest with rfl | rfl
  · cases hturn
    rfl
  · cases hturn
    rfl

/-- Both look, both reserve, both mirror, and both call their executor. -/
theorem not_oneDispatch_of_overlap :
    ¬ ∀ (engine : Engine) (store : DedupeStore) (requests : List TurnRequest)
        (runId actionId : String) (basedOnOffset : Int),
      (∀ request ∈ requests, ∀ turn, prepare engine request = .ready turn →
        turn.isFor runId actionId basedOnOffset = true) →
      ∀ events : List Event, (∀ event ∈ events, event.call = .returns) →
        (exec step (launch engine store requests) events).OneDispatch := by
  intro h
  have honce := h Ledger.digests .empty pair "run-1" "action-1" 0 pair_same
    ([0, 1, 0, 1, 0, 1, 0, 1].map .returning) (by simp [Event.returning])
  revert honce
  unfold OneDispatch
  decide

/-- One after the other: the second worker finds the legacy key taken. -/
theorem oneDispatch_in_turn : Always step OneDispatch (launch Ledger.digests .empty pair)
      ([0, 0, 0, 0, 1].map .returning) := by
  apply oneDispatch_of_undisturbed pair_same
  decide

end Cluster

end HiAgent.Kernel
