/-
  RuntimeAdapter/ResilientKernelAdapter/Repaired.lean --- how failed writes reach the kernel.

  A write that has failed for good waits in the buffer, while later ones go straight to the
  kernel.
-/
import HiAgent.RuntimeAdapter.ResilientKernelAdapter

namespace HiAgent.RuntimeAdapter

open Foundation List

/-- A call the inner adapter has accepted, with the number of the write it belongs to. -/
structure AcceptedWrite where
  number : Nat
  call : KernelCall

/-- An adapter, and what has become of its writes. -/
structure RepairDesk where
  adapter : ResilientKernelAdapter
  /-- The write calls so far; the position of a call is its number. -/
  issued : List KernelCall
  /-- What the inner adapter has accepted, oldest first. -/
  accepted : List AcceptedWrite
  /-- The writes that raised after their retries, in the order of the journal. -/
  exhausted : List Nat
  /-- Those of them that were there when a replay went through. -/
  replayed : List Nat
  reports : List ConsistencyReconcileReport

/-- A call of the adapter or of the reconciler, with the answers it gets. -/
inductive RepairEvent where
  | call (call : KernelCall) (checkedAt : Int) (answers : Nat → AttemptAnswer)
  | replayBuffered (accepts : Nat → Bool)
  | reconcile (hooks : Nat → HookAnswer)

def BufferedWrite.accepted (item : BufferedWrite) : AcceptedWrite :=
  ⟨item.number, (ResilientKernelAdapter.dispatched item).getD ⟨item.method, [], []⟩⟩

namespace RepairDesk

variable (desk : RepairDesk)

def start (adapter : ResilientKernelAdapter) : RepairDesk := ⟨adapter, [], [], [], [], []⟩

def repairs (numbers : List Nat) (calls : List (Option KernelCall)) : List AcceptedWrite :=
  (numbers.zip calls).filterMap fun entry => entry.2.map fun call => ⟨entry.1, call⟩

/-- One call. -/
def step (desk : RepairDesk) : RepairEvent → RepairDesk
  | .call call checkedAt answers =>
    let number := desk.issued.length
    let result := desk.adapter.call number call checkedAt answers
    if call.method ∈ writeMethods then
      let desk := { desk with adapter := result.2, issued := desk.issued ++ [call] }
      match result.1 with
      | .returned => { desk with accepted := desk.accepted ++ [⟨number, call⟩] }
      | .circuitOpen => desk
      | .exhausted _ => { desk with exhausted := desk.exhausted ++ [number] }
    else { desk with adapter := result.2 }
  | .replayBuffered accepts =>
    let result := desk.adapter.replayBuffered accepts
    { desk with
      adapter := result.2
      accepted := desk.accepted ++ result.1.map BufferedWrite.accepted
      replayed := if result.2.buffer.events.isEmpty then desk.exhausted else desk.replayed }
  | .reconcile hooks =>
    let result := RuntimeAdapter.reconcile desk.adapter.journal hooks
    { desk with
      accepted := desk.accepted ++ repairs desk.exhausted result.2
      reports := desk.reports ++ [result.1] }

/-- The numbers of the accepted writes, in the order in which they were accepted. -/
def acceptedNumbers : List Nat := desk.accepted.map AcceptedWrite.number

def repairable : List String := ["open_stage", "mark_stage_state", "record_task_view"]

def saysMalformed (status : ConsistencyIssueStatus) : Prop :=
  ∃ text, status.detail = some (.malformed text)

/-- Failed writes are repaired once and in order, and the reconciler can read the issues. -/
structure Law : Prop where
  atMostOnce : ∀ number ∈ desk.exhausted, desk.acceptedNumbers.count number ≤ 1
  onceReplayed : ∀ number ∈ desk.replayed, desk.acceptedNumbers.count number = 1
  ascending : desk.acceptedNumbers.Pairwise (· < ·)
  issued : ∀ write ∈ desk.accepted, desk.issued[write.number]? = some write.call
  wellFormed : ∀ report ∈ desk.reports, ∀ status ∈ report.issueStatuses,
    status.operation ∈ repairable → ¬ saysMalformed status

def HasRoom : RepairEvent → Prop
  | .call _ _ _ => desk.adapter.buffer.events.length < desk.adapter.buffer.buffer.maxlen
  | _ => True

/-- No replay gets through to the kernel behind a newer write, and nothing is reconciled
while the journal holds an issue of an operation the reconciler knows. -/
def Meets : RepairEvent → Prop
  | .call _ _ _ => True
  | .replayBuffered accepts =>
    ∀ oldest ∈ desk.adapter.buffer.events.head?, accepts 0 = true →
      ∀ number ∈ desk.acceptedNumbers, number < oldest.number
  | .reconcile _ => ∀ issue ∈ desk.adapter.journal, issue.operation ∉ repairable

/-! ## The invariant -/

def waiting : List Nat := desk.adapter.buffer.events.map BufferedWrite.number

def Holds (item : BufferedWrite) : Prop :=
  ∃ call, desk.issued[item.number]? = some call ∧ ResilientKernelAdapter.dispatched item = some call

/-- Every exhausted write has been accepted once or waits in the buffer once. -/
structure Placed : Prop where
  nodup : (desk.acceptedNumbers ++ desk.waiting).Nodup
  waitingAscending : desk.waiting.Pairwise (· < ·)
  placed : ∀ number ∈ desk.exhausted, number ∈ desk.acceptedNumbers ++ desk.waiting
  replayed : ∀ number ∈ desk.replayed, number ∈ desk.acceptedNumbers
  issued : ∀ write ∈ desk.accepted, desk.issued[write.number]? = some write.call
  holds : ∀ item ∈ desk.adapter.buffer.events, desk.Holds item
  journaled : ∀ issue ∈ desk.adapter.journal,
    ∃ args kwargs, issue.context = [("args", args), ("kwargs", kwargs)]

variable {desk} {adapter : ResilientKernelAdapter}

theorem placed_start (hbuffer : adapter.buffer.events = [])
    (hjournal : adapter.journal = []) : (start adapter).Placed := by
  have hwaiting : (start adapter).waiting = [] := by
    change adapter.buffer.events.map BufferedWrite.number = []
    rw [hbuffer]
    rfl
  constructor
  · rw [hwaiting]
    exact nodup_nil
  · rw [hwaiting]
    exact List.Pairwise.nil
  · exact fun _ h => absurd h not_mem_nil
  · exact fun _ h => absurd h not_mem_nil
  · exact fun _ h => absurd h not_mem_nil
  · intro item h
    change item ∈ adapter.buffer.events at h
    rw [hbuffer] at h
    cases h
  · intro issue h
    change issue ∈ adapter.journal at h
    rw [hjournal] at h
    cases h

theorem Placed.lt_issued (h : desk.Placed) {number : Nat}
    (hnumber : number ∈ desk.acceptedNumbers ++ desk.waiting) : number < desk.issued.length := by
  rcases mem_append.mp hnumber with htook | hwaiting
  · obtain ⟨write, hwrite, rfl⟩ := mem_map.mp htook
    exact (List.getElem?_eq_some_iff.mp (h.issued write hwrite)).1
  · obtain ⟨item, hitem, rfl⟩ := mem_map.mp hwaiting
    obtain ⟨call, hcall, -⟩ := h.holds item hitem
    exact (List.getElem?_eq_some_iff.mp hcall).1

/-! ## A call of the adapter -/

theorem call_spec (adapter : ResilientKernelAdapter) (number : Nat) (call : KernelCall)
    (checkedAt : Int) (answers : Nat → AttemptAnswer) :
    let result := adapter.call number call checkedAt answers
    result.2.buffer = adapter.buffer ∧ result.2.journal = adapter.journal ∧
        (call.method ∈ writeMethods → ∀ error, result.1 ≠ .exhausted error) ∨
      ∃ error, result.1 = .exhausted error ∧ call.method ∈ writeMethods ∧
        result.2.buffer = adapter.buffer.append
          ⟨number, call.method, ResilientKernelAdapter.payloadOf call⟩ ∧
        result.2.journal = adapter.journal ++
          [⟨call.method, ResilientKernelAdapter.payloadOf call, error⟩] := by
  dsimp only
  rw [ResilientKernelAdapter.call]
  split
  · exact .inl ⟨rfl, rfl, fun _ _ h => nomatch h⟩
  · split
    · exact .inl ⟨rfl, rfl, fun _ _ h => nomatch h⟩
    · rename_i error health _
      split
      · rename_i hwrite
        exact .inr ⟨error, rfl, hwrite, rfl, rfl⟩
      · rename_i hread
        exact .inl ⟨rfl, rfl, fun h => absurd h hread⟩

variable {next : RepairDesk}

theorem Holds.later {item : BufferedWrite} (h : desk.Holds item)
    {added : List KernelCall} (hissued : next.issued = desk.issued ++ added) : next.Holds item := by
  obtain ⟨call, hcall, hsent⟩ := h
  refine ⟨call, ?_, hsent⟩
  rw [hissued, getElem?_append_left (List.getElem?_eq_some_iff.mp hcall).1]
  exact hcall

theorem Placed.idle (h : desk.Placed) {added : List KernelCall}
    (hissued : next.issued = desk.issued ++ added) (htook : next.accepted = desk.accepted)
    (hspent : next.exhausted = desk.exhausted) (hagain : next.replayed = desk.replayed)
    (hbuffer : next.adapter.buffer = desk.adapter.buffer)
    (hjournal : next.adapter.journal = desk.adapter.journal) : next.Placed := by
  have hnumbers : next.acceptedNumbers = desk.acceptedNumbers := by
    rw [acceptedNumbers, htook]
    rfl
  have hwaiting : next.waiting = desk.waiting := by
    rw [waiting, hbuffer]
    rfl
  constructor
  · rw [hnumbers, hwaiting]
    exact h.nodup
  · rw [hwaiting]
    exact h.waitingAscending
  · rw [hnumbers, hwaiting, hspent]
    exact h.placed
  · rw [hnumbers, hagain]
    exact h.replayed
  · intro write hwrite
    rw [htook] at hwrite
    have hold := h.issued write hwrite
    rw [hissued, getElem?_append_left (List.getElem?_eq_some_iff.mp hold).1]
    exact hold
  · rw [hbuffer]
    exact fun item hitem => (h.holds item hitem).later hissued
  · rw [hjournal]
    exact h.journaled

theorem Placed.returned (h : desk.Placed) {call : KernelCall}
    (hissued : next.issued = desk.issued ++ [call])
    (htook : next.accepted = desk.accepted ++ [⟨desk.issued.length, call⟩])
    (hspent : next.exhausted = desk.exhausted) (hagain : next.replayed = desk.replayed)
    (hbuffer : next.adapter.buffer = desk.adapter.buffer)
    (hjournal : next.adapter.journal = desk.adapter.journal) : next.Placed := by
  have hnumbers : next.acceptedNumbers = desk.acceptedNumbers ++ [desk.issued.length] := by
    rw [acceptedNumbers, htook, map_append]
    rfl
  have hwaiting : next.waiting = desk.waiting := by
    rw [waiting, hbuffer]
    rfl
  have hnew : desk.issued.length ∉ desk.acceptedNumbers ++ desk.waiting := fun hmem =>
    Nat.lt_irrefl _ (h.lt_issued hmem)
  constructor
  · rw [hnumbers, hwaiting, append_assoc, singleton_append, perm_middle.nodup_iff, nodup_cons]
    exact ⟨hnew, h.nodup⟩
  · rw [hwaiting]
    exact h.waitingAscending
  · intro number hnumber
    rw [hspent] at hnumber
    rw [hnumbers, hwaiting]
    have hold := h.placed number hnumber
    simp only [mem_append, mem_singleton] at hold ⊢
    exact hold.imp .inl id
  · intro number hnumber
    rw [hagain] at hnumber
    rw [hnumbers]
    exact mem_append_left _ (h.replayed number hnumber)
  · intro write hwrite
    rw [htook] at hwrite
    rw [hissued]
    rcases mem_append.mp hwrite with hold | hadded
    · have hcall := h.issued write hold
      rw [getElem?_append_left (List.getElem?_eq_some_iff.mp hcall).1]
      exact hcall
    · obtain rfl := mem_singleton.mp hadded
      exact getElem?_concat_length
  · rw [hbuffer]
    exact fun item hitem => (h.holds item hitem).later hissued
  · rw [hjournal]
    exact h.journaled

theorem Placed.buffered (h : desk.Placed) {call : KernelCall} {error : String}
    (hroom : desk.adapter.buffer.events.length < desk.adapter.buffer.buffer.maxlen)
    (hissued : next.issued = desk.issued ++ [call]) (htook : next.accepted = desk.accepted)
    (hspent : next.exhausted = desk.exhausted ++ [desk.issued.length])
    (hagain : next.replayed = desk.replayed)
    (hbuffer : next.adapter.buffer = desk.adapter.buffer.append
      ⟨desk.issued.length, call.method, ResilientKernelAdapter.payloadOf call⟩)
    (hjournal : next.adapter.journal = desk.adapter.journal ++
      [⟨call.method, ResilientKernelAdapter.payloadOf call, error⟩]) : next.Placed := by
  obtain ⟨hevents, -⟩ := EventBuffer.events_append_of_lt hroom
    ⟨desk.issued.length, call.method, ResilientKernelAdapter.payloadOf call⟩
  rw [← hbuffer] at hevents
  have hnumbers : next.acceptedNumbers = desk.acceptedNumbers := by
    rw [acceptedNumbers, htook]
    rfl
  have hwaiting : next.waiting = desk.waiting ++ [desk.issued.length] := by
    rw [waiting, hevents, map_append]
    rfl
  have hnew : desk.issued.length ∉ desk.acceptedNumbers ++ desk.waiting := fun hmem =>
    Nat.lt_irrefl _ (h.lt_issued hmem)
  constructor
  · rw [hnumbers, hwaiting, ← append_assoc]
    exact List.Nodup.append h.nodup (nodup_singleton _) (disjoint_singleton.mpr hnew)
  · rw [hwaiting, pairwise_append]
    refine ⟨h.waitingAscending, pairwise_singleton _ _, fun number hnumber last hlast => ?_⟩
    rw [mem_singleton.mp hlast]
    exact h.lt_issued (mem_append_right _ hnumber)
  · intro number hnumber
    rw [hspent] at hnumber
    rw [hnumbers, hwaiting, ← append_assoc]
    rcases mem_append.mp hnumber with hold | hadded
    · exact mem_append_left _ (h.placed number hold)
    · exact mem_append_right _ hadded
  · rw [hnumbers, hagain]
    exact h.replayed
  · intro write hwrite
    rw [htook] at hwrite
    have hold := h.issued write hwrite
    rw [hissued, getElem?_append_left (List.getElem?_eq_some_iff.mp hold).1]
    exact hold
  · intro item hitem
    rw [hevents] at hitem
    rcases mem_append.mp hitem with hold | hadded
    · exact (h.holds item hold).later hissued
    · obtain rfl := mem_singleton.mp hadded
      refine ⟨call, ?_, ResilientKernelAdapter.dispatched_payloadOf _ call⟩
      rw [hissued]
      exact getElem?_concat_length
  · intro issue hissue
    rw [hjournal] at hissue
    rcases mem_append.mp hissue with hold | hadded
    · exact h.journaled issue hold
    · obtain rfl := mem_singleton.mp hadded
      exact ⟨_, _, rfl⟩

theorem step_call_cases (desk : RepairDesk) (call : KernelCall) (checkedAt : Int)
    (answers : Nat → AttemptAnswer) : let next := desk.step (.call call checkedAt answers)
    next.replayed = desk.replayed ∧ next.reports = desk.reports ∧
      ((∃ added, next.issued = desk.issued ++ added ∧ next.accepted = desk.accepted ∧
          next.exhausted = desk.exhausted ∧ next.adapter.buffer = desk.adapter.buffer ∧
            next.adapter.journal = desk.adapter.journal) ∨
        (next.issued = desk.issued ++ [call] ∧
          next.accepted = desk.accepted ++ [⟨desk.issued.length, call⟩] ∧
          next.exhausted = desk.exhausted ∧ next.adapter.buffer = desk.adapter.buffer ∧
            next.adapter.journal = desk.adapter.journal) ∨
        ∃ error, next.issued = desk.issued ++ [call] ∧ next.accepted = desk.accepted ∧
          next.exhausted = desk.exhausted ++ [desk.issued.length] ∧
          next.adapter.buffer = desk.adapter.buffer.append
            ⟨desk.issued.length, call.method, ResilientKernelAdapter.payloadOf call⟩ ∧
          next.adapter.journal = desk.adapter.journal ++
            [⟨call.method, ResilientKernelAdapter.payloadOf call, error⟩]) := by
  have hspec := call_spec desk.adapter desk.issued.length call checkedAt answers
  dsimp only at hspec ⊢
  simp only [step]
  split
  · rename_i hwrite
    rcases hspec with ⟨hbuffer, hjournal, hnot⟩ | ⟨error, houtcome, -, hbuffer, hjournal⟩
    · cases houtcome : (desk.adapter.call desk.issued.length call checkedAt answers).1 with
      | returned => exact ⟨rfl, rfl, .inr (.inl ⟨rfl, rfl, rfl, hbuffer, hjournal⟩)⟩
      | circuitOpen => exact ⟨rfl, rfl, .inl ⟨[call], rfl, rfl, rfl, hbuffer, hjournal⟩⟩
      | exhausted error => exact absurd houtcome (hnot hwrite error)
    · rw [houtcome]
      exact ⟨rfl, rfl, .inr (.inr ⟨error, rfl, rfl, rfl, hbuffer, hjournal⟩)⟩
  · rename_i hread
    rcases hspec with ⟨hbuffer, hjournal, -⟩ | ⟨-, -, hwrite, -⟩
    · exact ⟨rfl, rfl, .inl ⟨[], (append_nil _).symm, rfl, rfl, hbuffer, hjournal⟩⟩
    · exact absurd hwrite hread

theorem Placed.call (h : desk.Placed) {call : KernelCall} {checkedAt : Int}
    {answers : Nat → AttemptAnswer} (hroom : desk.HasRoom (.call call checkedAt answers)) :
    (desk.step (.call call checkedAt answers)).Placed := by
  obtain ⟨hagain, -, hcases⟩ := desk.step_call_cases call checkedAt answers
  rcases hcases with ⟨added, hissued, htook, hspent, hbuffer, hjournal⟩ |
    ⟨hissued, htook, hspent, hbuffer, hjournal⟩ |
    ⟨error, hissued, htook, hspent, hbuffer, hjournal⟩
  · exact h.idle hissued htook hspent hagain hbuffer hjournal
  · exact h.returned hissued htook hspent hagain hbuffer hjournal
  · exact h.buffered hroom hissued htook hspent hagain hbuffer hjournal

/-! ## Replay and reconciliation -/

theorem replay_split (desk : RepairDesk) (accepts : Nat → Bool) :
    ∃ written rest, desk.adapter.buffer.events = written ++ rest ∧
      (written ≠ [] ↔ desk.adapter.buffer.events ≠ [] ∧ accepts 0 = true) ∧
      (desk.step (.replayBuffered accepts)).adapter.buffer.events = rest ∧
      (desk.step (.replayBuffered accepts)).accepted =
        desk.accepted ++ written.map BufferedWrite.accepted ∧
      (desk.step (.replayBuffered accepts)).replayed =
        if rest.isEmpty then desk.exhausted else desk.replayed :=
  ⟨_, _, desk.adapter.buffer.flush_split accepts, EventBuffer.flush_ne_nil_iff, rfl, rfl, rfl⟩

theorem Placed.replayBuffered (h : desk.Placed) (accepts : Nat → Bool) :
    (desk.step (.replayBuffered accepts)).Placed := by
  obtain ⟨written, rest, hsplit, -, hrest, htook, hagain⟩ := desk.replay_split accepts
  set next := desk.step (.replayBuffered accepts) with hnext
  have hmoved : next.acceptedNumbers = desk.acceptedNumbers ++
      written.map BufferedWrite.number := by
    rw [acceptedNumbers, htook, map_append, map_map]
    rfl
  have hold : desk.waiting = written.map BufferedWrite.number ++ next.waiting := by
    rw [waiting, hsplit, map_append, waiting, hrest]
  have hsame : next.acceptedNumbers ++ next.waiting = desk.acceptedNumbers ++ desk.waiting := by
    rw [hmoved, hold, append_assoc]
  constructor
  · rw [hsame]
    exact h.nodup
  · have hpairs := h.waitingAscending
    rw [hold, pairwise_append] at hpairs
    exact hpairs.2.1
  · rw [hsame]
    exact h.placed
  · intro number hnumber
    rw [hagain] at hnumber
    split at hnumber
    · -- nothing waits any more
      rename_i hempty
      have hwaiting : next.waiting = [] := by
        rw [waiting, hrest, List.isEmpty_iff.mp hempty]
        rfl
      have hplaced := h.placed number hnumber
      rwa [← hsame, hwaiting, append_nil] at hplaced
    · rw [hmoved]
      exact mem_append_left _ (h.replayed number hnumber)
  · intro write hwrite
    rw [htook] at hwrite
    rcases mem_append.mp hwrite with hbefore | hnow
    · exact h.issued write hbefore
    · obtain ⟨item, hitem, rfl⟩ := mem_map.mp hnow
      obtain ⟨call, hcall, hsent⟩ := h.holds item (hsplit ▸ mem_append_left _ hitem)
      change desk.issued[item.number]? = some (item.accepted).call
      rw [hcall, BufferedWrite.accepted, hsent]
      rfl
  · intro item hitem
    rw [hrest] at hitem
    exact h.holds item (hsplit ▸ mem_append_right _ hitem)
  · exact h.journaled

theorem reconcileIssue_spec {issue : ConsistencyIssue} {args kwargs : PyValue}
    (hcontext : issue.context = [("args", args), ("kwargs", kwargs)]) (hook : HookAnswer) :
    (reconcileIssue issue hook).2 = none ∧
      (reconcileIssue issue hook).1.operation = issue.operation ∧
      (saysMalformed (reconcileIssue issue hook).1 ↔ issue.operation ∈ repairable) := by
  obtain ⟨operation, context, error⟩ := issue
  obtain rfl : context = _ := hcontext
  have hfails {text : String} (hknown : operation ∈ repairable)
      (hresult : reconcileIssue ⟨operation, [("args", args), ("kwargs", kwargs)], error⟩ hook =
        (⟨operation, .failed, some (.malformed text)⟩, none)) :
      (reconcileIssue ⟨operation, [("args", args), ("kwargs", kwargs)], error⟩ hook).2 = none ∧
        (reconcileIssue ⟨operation, [("args", args), ("kwargs", kwargs)], error⟩
          hook).1.operation = operation ∧
        (saysMalformed (reconcileIssue ⟨operation, [("args", args), ("kwargs", kwargs)], error⟩
          hook).1 ↔ operation ∈ repairable) := by
    rw [hresult]
    exact ⟨rfl, rfl, iff_of_true ⟨text, rfl⟩ hknown⟩
  by_cases hopen : operation = "open_stage"
  · subst hopen
    exact hfails (by decide) rfl
  · by_cases hmark : operation = "mark_stage_state"
    · subst hmark
      exact hfails (by decide) rfl
    · by_cases hrecord : operation = "record_task_view"
      · subst hrecord
        exact hfails (by decide) rfl
      · simp [reconcileIssue, hopen, hmark, hrecord, saysMalformed, repairable]

theorem mem_issueStatuses {issues : List ConsistencyIssue} {hooks : Nat → HookAnswer}
    {status : ConsistencyIssueStatus}
    (h : status ∈ (RuntimeAdapter.reconcile issues hooks).1.issueStatuses) :
    ∃ issue ∈ issues, ∃ hook, status = (reconcileIssue issue hook).1 := by
  obtain ⟨result, hresult, rfl⟩ := mem_map.mp h
  obtain ⟨⟨issue, index⟩, hissue, rfl⟩ := mem_map.mp hresult
  exact ⟨issue, (mem_zipIdx' hissue).2 ▸ getElem_mem _, hooks index, rfl⟩

theorem exists_status {issues : List ConsistencyIssue} {issue : ConsistencyIssue}
    (h : issue ∈ issues) (hooks : Nat → HookAnswer) : ∃ hook, (reconcileIssue issue hook).1 ∈
      (RuntimeAdapter.reconcile issues hooks).1.issueStatuses := by
  obtain ⟨index, hbound, rfl⟩ := getElem_of_mem h
  refine ⟨hooks index, mem_map.mpr ⟨_, mem_map.mpr ⟨(issues[index], index), ?_, rfl⟩, rfl⟩⟩
  rw [mk_mem_zipIdx_iff_getElem?]
  exact getElem?_eq_getElem hbound

theorem Placed.repairs_eq_nil (h : desk.Placed) (hooks : Nat → HookAnswer) :
    repairs desk.exhausted (RuntimeAdapter.reconcile desk.adapter.journal hooks).2 = [] := by
  rw [repairs, filterMap_eq_nil_iff]
  rintro ⟨number, call⟩ hentry
  obtain ⟨result, hresult, hcall⟩ := mem_map.mp (of_mem_zip hentry).2
  obtain ⟨⟨issue, index⟩, hissue, rfl⟩ := mem_map.mp hresult
  obtain ⟨args, kwargs, hcontext⟩ :=
    h.journaled issue ((mem_zipIdx' hissue).2 ▸ getElem_mem _)
  dsimp only at hcall ⊢
  rw [← hcall, (reconcileIssue_spec hcontext _).1]
  rfl

theorem Placed.reconcile (h : desk.Placed) (hooks : Nat → HookAnswer) :
    (desk.step (.reconcile hooks)).Placed := by
  have htook : (desk.step (.reconcile hooks)).accepted = desk.accepted := by
    change desk.accepted ++ repairs _ _ = desk.accepted
    rw [h.repairs_eq_nil hooks, append_nil]
  have hissued : (desk.step (.reconcile hooks)).issued = desk.issued ++ [] :=
    (append_nil _).symm
  exact h.idle hissued htook rfl rfl rfl rfl

variable {event : RepairEvent}

theorem Placed.step (h : desk.Placed) (hroom : desk.HasRoom event) : (desk.step event).Placed := by
  cases event with
  | call call checkedAt answers => exact h.call hroom
  | replayBuffered accepts => exact h.replayBuffered accepts
  | reconcile hooks => exact h.reconcile hooks

/-! ## Order and format -/

/-- Failed writes are placed, the accepted ones are in order, and no report says that an
issue is malformed. -/
structure Inv (desk : RepairDesk) : Prop extends Placed desk where
  ascending : desk.acceptedNumbers.Pairwise (· < ·)
  wellFormed : ∀ report ∈ desk.reports, ∀ status ∈ report.issueStatuses,
    status.operation ∈ repairable → ¬ saysMalformed status

theorem Inv.law (h : desk.Inv) : desk.Law :=
  { h with
    atMostOnce number _ := by
      have hnodup : desk.acceptedNumbers.Nodup := (List.nodup_append.mp h.nodup).1
      exact nodup_iff_count_le_one.mp hnodup number
    onceReplayed number hnumber := by
      have hnodup : desk.acceptedNumbers.Nodup := (List.nodup_append.mp h.nodup).1
      exact count_eq_one_of_mem hnodup (h.replayed number hnumber) }

theorem Inv.step (h : desk.Inv) (hroom : desk.HasRoom event)
    (hmeets : desk.Meets event) : (desk.step event).Inv := by
  refine ⟨h.toPlaced.step hroom, ?_, ?_⟩
  · cases event with
    | call call checkedAt answers =>
      obtain ⟨-, -, hcases⟩ := desk.step_call_cases call checkedAt answers
      rcases hcases with ⟨added, -, htook, -⟩ | ⟨-, htook, -⟩ | ⟨error, -, htook, -⟩
      · rw [acceptedNumbers, htook]
        exact h.ascending
      · rw [acceptedNumbers, htook, map_append, pairwise_append]
        refine ⟨h.ascending, pairwise_singleton _ _, fun number hnumber last hlast => ?_⟩
        rw [mem_singleton.mp hlast]
        exact h.lt_issued (mem_append_left _ hnumber)
      · rw [acceptedNumbers, htook]
        exact h.ascending
    | replayBuffered accepts =>
      obtain ⟨written, rest, hsplit, hne, -, htook, -⟩ := desk.replay_split accepts
      have hwaiting : desk.waiting =
          written.map BufferedWrite.number ++ rest.map BufferedWrite.number := by
        rw [waiting, hsplit, map_append]
      have hpairs := h.waitingAscending
      rw [hwaiting, pairwise_append] at hpairs
      rw [acceptedNumbers, htook, map_append, map_map, pairwise_append]
      refine ⟨h.ascending, hpairs.1, fun number hnumber other hother => ?_⟩
      cases written with
      | nil => cases hother
      | cons oldest others =>
        -- what is written begins with the oldest item, which is newer than what is accepted
        have hfirst := hne.mp (cons_ne_nil _ _)
        have holdest : desk.adapter.buffer.events.head? = some oldest := by
          rw [hsplit]
          rfl
        have hlt := hmeets oldest holdest hfirst.2 number hnumber
        rcases mem_cons.mp hother with rfl | hlater
        · exact hlt
        · exact Nat.lt_trans hlt (rel_of_pairwise_cons hpairs.1 hlater)
    | reconcile hooks =>
      change ((desk.accepted ++ repairs _ _).map AcceptedWrite.number).Pairwise (· < ·)
      rw [h.repairs_eq_nil hooks, append_nil]
      exact h.ascending
  · cases event with
    | call call checkedAt answers =>
      rw [(desk.step_call_cases call checkedAt answers).2.1]
      exact h.wellFormed
    | replayBuffered accepts => exact h.wellFormed
    | reconcile hooks =>
      intro report hreport status hstatus hop
      rcases mem_append.mp hreport with hold | hnew
      · exact h.wellFormed report hold status hstatus hop
      · obtain rfl := mem_singleton.mp hnew
        obtain ⟨issue, hissue, hook, rfl⟩ := mem_issueStatuses hstatus
        obtain ⟨args, kwargs, hcontext⟩ := h.journaled issue hissue
        obtain ⟨-, hsame, hmalformed⟩ := reconcileIssue_spec hcontext hook
        rw [hmalformed]
        exact hmeets issue hissue

theorem Inv.meets (h : desk.Inv) (hlaw : (desk.step event).Law) : desk.Meets event := by
  cases event with
  | call call checkedAt answers => trivial
  | replayBuffered accepts =>
    intro oldest holdest hfirst number hnumber
    obtain ⟨written, rest, hsplit, hne, -, htook, -⟩ := desk.replay_split accepts
    have hevents : desk.adapter.buffer.events ≠ [] := by
      intro hnil
      rw [hnil] at holdest
      cases holdest
    obtain ⟨first, others, rfl⟩ := exists_cons_of_ne_nil (hne.mpr ⟨hevents, hfirst⟩)
    rw [hsplit] at holdest
    obtain rfl := Option.some.inj holdest
    have hpairs := hlaw.ascending
    rw [acceptedNumbers, htook, map_append, pairwise_append] at hpairs
    exact hpairs.2.2 number hnumber first.number mem_cons_self
  | reconcile hooks =>
    intro issue hissue hop
    obtain ⟨hook, hstatus⟩ := exists_status hissue hooks
    obtain ⟨args, kwargs, hcontext⟩ := h.journaled issue hissue
    obtain ⟨-, hsame, hmalformed⟩ := reconcileIssue_spec hcontext hook
    exact hlaw.wellFormed _ (mem_append_right _ (mem_singleton_self _)) _ hstatus
      (hsame ▸ hop) (hmalformed.mpr hop)

/-! ## Whole runs -/

theorem inv_start (hbuffer : adapter.buffer.events = [])
    (hjournal : adapter.journal = []) : (start adapter).Inv where
  toPlaced := placed_start hbuffer hjournal
  ascending := List.Pairwise.nil
  wellFormed _ h := absurd h not_mem_nil

/-- While the buffer has room, the runs in which failed writes are repaired once, in order
and in the format of the reconciler are those whose steps all meet the condition. -/
theorem always_repaired_iff_meets
    (hbuffer : adapter.buffer.events = []) (hjournal : adapter.journal = [])
    {events : List RepairEvent} (hroom : Along step HasRoom (start adapter) events) :
    Always step Law (start adapter) events ↔ Along step Meets (start adapter) events :=
  always_iff_along_within (fun _ _ hinv hroom hmeets => hinv.step hroom hmeets)
    (fun _ hinv => hinv.law) (fun _ _ hinv _ hlaw => hinv.meets hlaw)
    (inv_start hbuffer hjournal) hroom

/-- An adapter without retries that counts half of the calls as too many errors. -/
def withoutRetries : ResilientKernelAdapter where
  maxRetries := 0
  buffer := ⟨.empty 1000, by decide, 0⟩
  health :=
    { windowSeconds := 300
      tooManyErrors := fun successes total => decide (total ≤ 2 * (total - successes))
      records := [] }
  journal := []

def openStage (stageId : String) (error : Option String) (now : Int) : RepairEvent :=
  .call ⟨"open_stage", [.str stageId], []⟩ now fun _ => ⟨error, now⟩

instance (desk : RepairDesk) (event : RepairEvent) : Decidable (desk.HasRoom event) :=
  match event with
  | .call _ _ _ => inferInstanceAs (Decidable (_ < _))
  | .replayBuffered _ => isTrue trivial
  | .reconcile _ => isTrue trivial

def replayedInTime : List RepairEvent :=
  [openStage "S1" (some "unreachable") 0, .replayBuffered fun _ => true, openStage "S2" none 1000]

theorem always_repaired_replayedInTime : Always step Law (start withoutRetries) replayedInTime := by
  have hroom : Along step HasRoom (start withoutRetries) replayedInTime :=
    by decide +kernel
  have hnone : ((start withoutRetries).step
      (openStage "S1" (some "unreachable") 0)).acceptedNumbers = [] := by decide +kernel
  refine (always_repaired_iff_meets rfl rfl hroom).mpr ⟨trivial, ?_, trivial, trivial⟩
  intro oldest _ _ number hnumber
  rw [hnone] at hnumber
  cases hnumber

def overtaken : List RepairEvent :=
  [openStage "S1" (some "unreachable") 0, openStage "S2" none 1000,
    .replayBuffered fun _ => true, .reconcile fun _ => .returned]

/-- The first write reaches the kernel behind the second one, and the reconciler calls its
issue malformed. -/
theorem not_always_repaired_overtaken : Along step HasRoom (start withoutRetries) overtaken ∧
      (exec step (start withoutRetries) overtaken).acceptedNumbers = [1, 0] ∧
        ¬ Always step Law (start withoutRetries) overtaken := by
  have hnumbers : (exec step (start withoutRetries) overtaken).acceptedNumbers = [1, 0] := by
    decide +kernel
  refine ⟨by decide +kernel, hnumbers, fun h => ?_⟩
  have hasc := h.last.ascending
  rw [hnumbers] at hasc
  exact absurd hasc (by decide)

/-- Whatever is replayed and reconciled, and when: while the buffer has room, every write that was
given up waits in it or has reached the kernel, and none does so twice or both. -/
theorem placed_of_room (hbuffer : adapter.buffer.events = [])
    (hjournal : adapter.journal = []) {events : List RepairEvent}
    (hroom : Along step HasRoom (start adapter) events) :
    (exec step (start adapter) events).Placed :=
  exec_invariant (fun _ _ h hroom => h.step hroom) (placed_start hbuffer hjournal) hroom

theorem placed_overtaken : (exec step (start withoutRetries) overtaken).Placed :=
  placed_of_room rfl rfl (by decide +kernel)

end RepairDesk

end HiAgent.RuntimeAdapter
