/-
  Server/RunManager/Slots.lean --- what becomes of the concurrency slots.

  The worker takes a slot, and the thread it dispatches gives it back in its `finally` block.
  Between the two a thread can end without getting there.
-/
import HiAgent.Server.RunManager.Completion
import HiAgent.Server.RunManager.Worker

namespace HiAgent.Server

open Foundation List

/-! ## The start of a thread -/

namespace RunManager

def MarksRunning (manager : RunManager) (fin : FinishEnv) : Prop :=
  manager.runStore.isSome = true →
    (∃ posture, fin.posture = .ok posture ∧ posture.isStrict = false) ∧ fin.syncFault = none

def FindsSpine (fin : FinishEnv) (run : ManagedRun) : Prop :=
  fin.eventStore = true → ∃ posture, fin.posture = .ok posture ∧
    (posture.isStrict = true → run.runId ≠ "" ∧ run.tenantId ≠ "")

section Announce

variable {manager : RunManager} {fin : FinishEnv} {run : ManagedRun}

theorem markRunning_succeeds_iff :
    Succeeds (manager.markRunning fin run).1 ↔ manager.MarksRunning fin := by
  unfold markRunning MarksRunning
  split
  · rename_i hstore
    simp [hstore]
  · rename_i store hstore
    have hmark : Succeeds (store.markRunning fin.posture fin.syncedAt run.runId none) ↔
        _ := RunStore.mark_none store fin.posture "mark_running" run.runId _
    simp only [hstore, Option.isSome_some, forall_const]
    split
    · rename_i error herror
      rw [herror] at hmark
      exact iff_of_false (not_succeeds_error _) fun h =>
        not_succeeds_error error (hmark.mpr h.1)
    · rename_i marked hmarked
      change Succeeds ((attempt fin.syncFault store marked).1.mapError _) ↔ _
      rw [succeeds_mapError_iff, attempt_succeeds_iff, and_iff_right (hmark.mp ⟨marked, hmarked⟩)]

theorem publish_texts_succeeds_iff {payload : PyDict}
    (htexts : ∀ field ∈ payload, ∃ text, field.2 = .str text) :
    Succeeds (publishRunEvent fin run payload) ↔ FindsSpine fin run := by
  have hjson : Succeeds (PyValue.dumps false (.dict payload)) := by
    rw [PyValue.succeeds_dumps_dict_iff]
    intro field hfield
    obtain ⟨text, htext⟩ := htexts field hfield
    rw [htext]
    exact ⟨_, rfl⟩
  rw [publishRunEvent_succeeds_iff]
  exact forall_congr' fun _ => and_iff_right hjson

theorem startedPayload_texts : ∀ field ∈ startedPayload fin run, ∃ text, field.2 = .str text := by
  intro field hfield
  rcases mem_cons.mp hfield with rfl | hfield
  · exact ⟨_, rfl⟩
  · obtain rfl := mem_singleton.mp hfield
    exact ⟨_, rfl⟩

theorem announce_succeeds_iff : Succeeds (manager.announce fin run).1 ↔
      manager.MarksRunning fin ∧ FindsSpine fin run := by
  have hmark : Succeeds (manager.markRunning fin run).1 ↔ _ := markRunning_succeeds_iff
  unfold announce
  split
  · rename_i error marked hfailed
    rw [hfailed] at hmark
    exact iff_of_false (not_succeeds_error error) fun h =>
      not_succeeds_error error (hmark.mpr h.1)
  · rename_i done marked hmarked
    rw [hmarked] at hmark
    rw [publish_texts_succeeds_iff startedPayload_texts,
      and_iff_right (hmark.mp (succeeds_ok done))]

end Announce

end RunManager

/-! ## Threads and slots -/

def Phase.holdsPermit (phase : Phase) : Bool := phase != .released

/-- A thread in this phase is in the counters of the manager. -/
def Phase.active : Phase → Bool
  | .begun => true
  | .executing => true
  | .caught _ => true
  | .finishing => true
  | _ => false

/-- What a thread may do to the slots: it enters the counters once and leaves them
once, then gives its slot back and ends. -/
inductive SlotStep (runId : String) (slots : Slots) : Phase → Option Phase → Slots → Prop where
  | enter : SlotStep runId slots .dispatched (some .begun) (slots.enter runId)
  | stay {phase next : Phase} (hpermit : next.holdsPermit = phase.holdsPermit)
      (hactive : next.active = phase.active) :
      SlotStep runId slots phase (some next) slots
  | leave : SlotStep runId slots .finishing (some .retired) (slots.leave runId)
  | release : SlotStep runId slots .synced (some .released)
      { slots with permits := slots.permits + 1 }
  | close : SlotStep runId slots .released none slots

namespace Thread

/-- The step raises nothing that ends the thread with its slot in hand: a run
that is begun has not been taken to another state since `start_run`, and what the
thread writes outside the `try` goes through. -/
def Proceeds (thread : Thread) (manager : RunManager) : ThreadMove → Prop
  | .begin _ => thread.phase = .dispatched → ∀ run, manager.runs.lookup thread.runId = some run →
        run.state = .created ∨ run.state = .running
  | .announce fin => thread.phase = .begun → ∀ run, manager.runs.lookup thread.runId = some run →
        manager.MarksRunning fin ∧ RunManager.FindsSpine fin run
  | .sync fin => thread.phase = .retired → ∀ run,
      manager.runs.lookup thread.runId = some run → manager.Syncs fin run
  | _ => True

section Move

variable {thread : Thread} {manager : RunManager} {next : ThreadMove}

theorem slotStep_move (slots : Slots) (h : thread.Proceeds manager next) :
    SlotStep thread.runId slots thread.phase (thread.move manager slots next).1
      (thread.move manager slots next).2.2 := by
  obtain ⟨runId, phase⟩ := thread
  unfold move
  split
  · exact .stay rfl rfl
  · rename_i run hrun
    simp only
    split
    · rename_i now
      have hbegin := h rfl run hrun
      rw [ManagedRun.begin, RunState.transition_running hbegin]
      exact .enter
    · rename_i fin
      have htell := RunManager.announce_succeeds_iff.mpr (h rfl run hrun)
      split
      · rename_i hfailed
        rw [hfailed] at htell
        exact absurd htell (not_succeeds_error _)
      · exact .stay rfl rfl
    · split
      · exact .stay rfl rfl
      · exact .stay rfl rfl
    · exact .stay rfl rfl
    · exact .stay rfl rfl
    · exact .stay rfl rfl
    · exact .stay rfl rfl
    · exact .leave
    · rename_i fin
      have hsync := RunManager.syncRunStore_succeeds_iff.mpr (h rfl run hrun)
      split
      · rename_i hfailed
        rw [hfailed] at hsync
        exact absurd hsync (not_succeeds_error _)
      · exact .stay rfl rfl
    · exact .release
    · exact .close
    · exact .stay rfl rfl

theorem lost_move (slots : Slots) (h : ¬ thread.Proceeds manager next) :
    thread.phase.holdsPermit = true ∧ (thread.move manager slots next).1 = none ∧
      (thread.move manager slots next).2.2.permits = slots.permits := by
  obtain ⟨runId, phase⟩ := thread
  cases next with
  | begin now =>
    simp only [Proceeds] at h
    push Not at h
    obtain ⟨rfl, run, hrun, hcreated, hrunning⟩ := h
    have hbegin : ∃ message, run.begin now = .error message := by
      cases hbegin : run.begin now with
      | error message => exact ⟨message, rfl⟩
      | ok begun =>
        obtain ⟨state, hstate, _⟩ := map_eq_ok_iff.mp hbegin
        rcases (RunState.of_transition_running hstate).1 with hstate | hstate
        · exact absurd hstate hcreated
        · exact absurd hstate hrunning
    obtain ⟨message, hbegin⟩ := hbegin
    simp only [move, hrun, hbegin]
    exact ⟨rfl, trivial, rfl⟩
  | announce fin =>
    simp only [Proceeds] at h
    push Not at h
    obtain ⟨rfl, run, hrun, hfails⟩ := h
    have htell := mt RunManager.announce_succeeds_iff.mp fun h => hfails h.1 h.2
    simp only [move, hrun]
    split
    · exact ⟨rfl, rfl, rfl⟩
    · rename_i done _ hdone
      rw [hdone] at htell
      exact absurd (succeeds_ok done) htell
  | sync fin =>
    simp only [Proceeds] at h
    push Not at h
    obtain ⟨rfl, run, hrun, hfails⟩ := h
    have hsync := mt RunManager.syncRunStore_succeeds_iff.mp hfails
    simp only [move, hrun]
    split
    · exact ⟨rfl, rfl, rfl⟩
    · rename_i done _ hdone
      rw [hdone] at hsync
      exact absurd (succeeds_ok done) hsync
  | _ => exact absurd trivial h

end Move

end Thread

variable {slots after : Slots} {next : Option Phase}

theorem SlotStep.balance {runId : String} {phase : Phase}
    (h : SlotStep runId slots phase next after) :
    after.permits + next.toList.countP Phase.holdsPermit =
      slots.permits + [phase].countP Phase.holdsPermit := by
  cases h with
  | enter => rfl
  | stay hpermit hactive => simp [hpermit]
  | leave => rfl
  | release => rfl
  | close => rfl

theorem SlotStep.count {runId : String} {phase : Phase}
    (h : SlotStep runId slots phase next after) :
    after.activeCount + [phase].countP Phase.active =
      slots.activeCount + next.toList.countP Phase.active := by
  cases h with
  | enter => simp [Slots.enter, Phase.active]
  | stay hpermit hactive => simp [hactive]
  | leave => simp [Slots.leave, Phase.active]
  | release => rfl
  | close => rfl

theorem SlotStep.ids {runId : String} {phase : Phase}
    (h : SlotStep runId slots phase next after) {id : String}
    (hid : id ∈ after.activeRunIds) : (id ∈ slots.activeRunIds ∧ (id = runId → phase.active = true →
      next.any Phase.active = true)) ∨ (id = runId ∧ next.any Phase.active = true) := by
  cases h with
  | enter =>
    rcases Finset.mem_insert.mp hid with hnew | hold
    · exact .inr ⟨hnew, rfl⟩
    · exact .inl ⟨hold, fun _ _ => rfl⟩
  | stay hpermit hactive =>
    exact .inl ⟨hid, fun _ hwas => hactive.trans hwas⟩
  | leave =>
    obtain ⟨hne, hold⟩ := Finset.mem_erase.mp hid
    exact .inl ⟨hold, fun heq => absurd heq hne⟩
  | _ => exact .inl ⟨hid, fun _ hwas => absurd hwas (by decide)⟩

/-! ## The pool -/

def Worker.holdsPermit : Worker → Bool
  | .acquired _ => true
  | _ => false

namespace Pool

/-- A pool of `maxConcurrent` slots in which nothing has been started yet. -/
structure Starts (maxConcurrent : Nat) (pool : Pool) : Prop where
  slots : pool.slots = ⟨maxConcurrent, 0, ∅⟩
  queue : pool.queue = []
  worker : pool.worker = .idle
  threads : pool.threads = []

/-- Every thread has ended, and nothing is queued or in the hands of the worker. -/
structure Quiescent (pool : Pool) : Prop where
  threads : pool.threads = []
  queue : pool.queue = []
  worker : pool.worker = .idle

/-- Every slot is free and no run counts as active. -/
structure Conserved (maxConcurrent : Nat) (pool : Pool) : Prop where
  permits : pool.slots.permits = maxConcurrent
  activeCount : pool.slots.activeCount = 0
  activeRunIds : pool.slots.activeRunIds = ∅

/-- The step loses no slot: a thread that moves proceeds, and a thread that the
worker dispatches is started. -/
def KeepsSlots (pool : Pool) : Event → Prop
  | .worker (.dispatch started) =>
    ∀ item, pool.worker = .acquired item → started = true
  | .thread index next => ∀ thread, pool.threads[index]? = some thread →
      thread.Proceeds pool.manager next
  | _ => True

def held (pool : Pool) : Nat :=
  pool.threads.countP (fun thread => thread.phase.holdsPermit) +
    if pool.worker.holdsPermit then 1 else 0

def accounted (pool : Pool) : Nat := pool.slots.permits + pool.held

/-- A step after which that many slots less are accounted for. -/
structure Balance (lost : Nat) (pool after : Pool) : Prop where
  balance : after.accounted + lost = pool.accounted

section Step

variable {pool : Pool}

theorem balance_of_frame {after : Pool} (hslots : after.slots = pool.slots)
    (hworker : after.worker.holdsPermit = pool.worker.holdsPermit)
    (hthreads : after.threads = pool.threads) : Balance 0 pool after := by
  constructor
  unfold accounted held
  rw [hslots, hworker, hthreads]
  omega

theorem submit_frame (index : Nat) (next : SubmitMove) :
    (pool.submit index next).slots = pool.slots ∧ (pool.submit index next).worker = pool.worker ∧
      (pool.submit index next).threads = pool.threads := by
  unfold submit
  split
  · split
    · exact ⟨rfl, rfl, rfl⟩
    · exact ⟨rfl, rfl, rfl⟩
  · split
    · exact ⟨rfl, rfl, rfl⟩
    · exact ⟨rfl, rfl, rfl⟩
  · exact ⟨rfl, rfl, rfl⟩
  · exact ⟨rfl, rfl, rfl⟩

theorem balance_work {next : WorkerMove} (h : pool.KeepsSlots (.worker next)) :
    Balance 0 pool (pool.work next) := by
  unfold work
  split
  · rename_i hidle
    split
    · exact balance_of_frame rfl rfl rfl
    · exact balance_of_frame rfl (by rw [hidle]; rfl) rfl
  · rename_i item hholding
    split
    · exact balance_of_frame rfl rfl rfl
    · rename_i permits hpermits
      constructor
      simp only [accounted, held, hholding, Worker.holdsPermit, if_true, hpermits]
      simp
      omega
  · rename_i item hholding
    split
    · exact balance_of_frame rfl (by rw [hholding]; rfl) rfl
    · exact balance_of_frame rfl rfl rfl
  · rename_i item now htimedOut
    exact balance_of_frame rfl (by rw [htimedOut]; rfl) rfl
  · rename_i item started hacquired
    obtain rfl := h item hacquired
    constructor
    simp only [accounted, held, hacquired, if_true, countP_append]
    simp [Worker.holdsPermit, Phase.holdsPermit]
  · exact balance_of_frame rfl rfl rfl

theorem lost_work {next : WorkerMove} (h : ¬ pool.KeepsSlots (.worker next)) :
    Balance 1 pool (pool.work next) := by
  cases next with
  | dispatch started =>
    simp only [KeepsSlots] at h
    push Not at h
    obtain ⟨item, hacquired, hstarted⟩ := h
    obtain rfl := Bool.eq_false_iff.mpr hstarted
    constructor
    simp [work, accounted, held, hacquired, Worker.holdsPermit]
    omega
  | _ => exact absurd trivial h

theorem countP_moved (thread : Thread) (p : Phase → Bool) (next : Option Phase) :
    (next.map fun phase => { thread with phase }).toList.countP
      (fun thread => p thread.phase) = next.toList.countP p := by
  cases next with
  | none => rfl
  | some next => rfl

variable {next : ThreadMove}

theorem balance_run {index : Nat} (h : pool.KeepsSlots (.thread index next)) :
    Balance 0 pool (pool.run index next) := by
  unfold run
  split
  · exact balance_of_frame rfl rfl rfl
  · rename_i thread hthread
    have hstep := (thread.slotStep_move pool.slots (h thread hthread)).balance
    have hcount := Roster.countP_advance hthread
      (fun thread => thread.phase.holdsPermit)
      ((thread.move pool.manager pool.slots next).1.map fun phase =>
        { thread with phase })
    have hthis : [thread].countP (fun thread => thread.phase.holdsPermit) =
        [thread.phase].countP Phase.holdsPermit := rfl
    rw [countP_moved, hthis] at hcount
    constructor
    simp only [accounted, held]
    omega

theorem lost_run {index : Nat} (h : ¬ pool.KeepsSlots (.thread index next)) :
    Balance 1 pool (pool.run index next) := by
  simp only [KeepsSlots] at h
  push Not at h
  obtain ⟨thread, hthread, hfails⟩ := h
  obtain ⟨hholds, hended, hpermits⟩ := thread.lost_move pool.slots hfails
  have hcount := Roster.countP_advance hthread
    (fun thread => thread.phase.holdsPermit) none
  have hthis : [thread].countP (fun thread => thread.phase.holdsPermit) = 1 := by
    rw [countP_singleton, if_pos hholds]
  rw [hthis] at hcount
  constructor
  simp only [run, hthread, accounted, held, hended, hpermits, Option.map_none]
  simp only [Option.toList_none, countP_nil] at hcount
  omega

theorem balance_step {event : Event} (h : pool.KeepsSlots event) :
    Balance 0 pool (pool.step event) := by
  cases event with
  | submit index next =>
    obtain ⟨hslots, hworker, hthreads⟩ := pool.submit_frame index next
    exact balance_of_frame hslots (by rw [step, hworker]) hthreads
  | cancel _ _ _ | cancelInStore _ _ _ _ => exact balance_of_frame rfl rfl rfl
  | worker next => exact balance_work h
  | thread index next => exact balance_run h
  | _ =>
    simp only [step]
    split
    · exact balance_of_frame rfl rfl rfl
    · exact balance_of_frame rfl rfl rfl

theorem lost_step {event : Event} (h : ¬ pool.KeepsSlots event) :
    Balance 1 pool (pool.step event) := by
  cases event with
  | worker next => exact lost_work h
  | thread index next => exact lost_run h
  | _ => exact absurd trivial h

theorem countP_moved_id (thread : Thread) (id : String) (next : Option Phase) :
    (next.map fun phase => { thread with phase }).toList.countP
        (fun thread => thread.phase.active && thread.runId == id) =
      if id = thread.runId ∧ next.any Phase.active = true then 1 else 0 := by
  cases next with
  | none => simp
  | some next => simp [and_comm, eq_comm (b := id)]

/-- The counters follow the threads that are active. -/
structure Tracked (pool : Pool) : Prop where
  activeCount : pool.slots.activeCount = pool.threads.countP (fun thread => thread.phase.active)
  activeRunIds : ∀ id ∈ pool.slots.activeRunIds,
    0 < pool.threads.countP fun thread => thread.phase.active && thread.runId == id

theorem tracked_of_frame {after : Pool} (h : pool.Tracked)
    (hcount : after.slots.activeCount = pool.slots.activeCount)
    (hids : after.slots.activeRunIds = pool.slots.activeRunIds)
    (hthreads : after.threads = pool.threads) : after.Tracked := by
  constructor
  · rw [hcount, hthreads]
    exact h.activeCount
  · rw [hids, hthreads]
    exact h.activeRunIds

theorem tracked_work (h : pool.Tracked) (next : WorkerMove) : (pool.work next).Tracked := by
  unfold work
  split
  · split
    · exact h
    · exact tracked_of_frame h rfl rfl rfl
  · split
    · exact h
    · exact tracked_of_frame h rfl rfl rfl
  · split
    · exact tracked_of_frame h rfl rfl rfl
    · exact h
  · exact tracked_of_frame h rfl rfl rfl
  · -- a thread that has only been dispatched is not active
    constructor
    · simp only
      split
      · simpa [countP_append, Phase.active] using h.activeCount
      · exact h.activeCount
    · intro id hid
      have hbefore := h.activeRunIds id hid
      simp only
      split
      · rw [countP_append]
        omega
      · exact hbefore
  · exact h

theorem tracked_run (h : pool.Tracked) {index : Nat}
    (hkeeps : pool.KeepsSlots (.thread index next)) : (pool.run index next).Tracked := by
  unfold run
  split
  · exact h
  · rename_i thread hthread
    have hstep := thread.slotStep_move pool.slots (hkeeps thread hthread)
    set moved := thread.move pool.manager pool.slots next
    constructor
    · have hcount := Roster.countP_advance hthread (fun thread => thread.phase.active)
        (moved.1.map fun phase => { thread with phase })
      have hthis : [thread].countP (fun thread => thread.phase.active) =
          [thread.phase].countP Phase.active := rfl
      rw [countP_moved, hthis] at hcount
      have hslots := hstep.count
      have hbefore := h.activeCount
      simp only
      omega
    · intro id hid
      have hcount := Roster.countP_advance hthread
        (fun thread => thread.phase.active && thread.runId == id)
        (moved.1.map fun phase => { thread with phase })
      have hthis : [thread].countP _ = _ :=
        countP_moved_id thread id (some thread.phase)
      have hthere := (singleton_sublist.mpr
        (mem_of_getElem? hthread)).countP_le
          (p := fun thread => thread.phase.active && thread.runId == id)
      rw [countP_moved_id, hthis] at hcount
      rw [hthis] at hthere
      simp only
      rcases hstep.ids hid with ⟨hold, hnext⟩ | ⟨hsame, hnext⟩
      · have hbefore := h.activeRunIds id hold
        split at hcount
        · rename_i hactive
          rw [if_pos ⟨hactive.1, hnext hactive.1 hactive.2⟩] at hcount
          omega
        · omega
      · have hnow : (if id = thread.runId ∧ moved.1.any Phase.active = true
            then 1 else 0) = 1 := if_pos ⟨hsame, hnext⟩
        rw [hnow] at hcount
        omega

theorem tracked_step (event : Event) (h : pool.Tracked)
    (hkeeps : pool.KeepsSlots event) : (pool.step event).Tracked := by
  cases event with
  | create env contract workspace =>
    simp only [step]
    split
    · exact h
    · exact tracked_of_frame h rfl rfl rfl
  | start runId =>
    simp only [step]
    split
    · exact tracked_of_frame h rfl rfl rfl
    · exact h
  | submit index next =>
    obtain ⟨hslots, _, hthreads⟩ := pool.submit_frame index next
    exact tracked_of_frame h (by rw [step, hslots]) (by rw [step, hslots]) hthreads
  | worker next => exact tracked_work h next
  | thread index next => exact tracked_run h hkeeps
  | _ => exact tracked_of_frame h rfl rfl rfl

end Step

/-! ## Runs of the pool -/

section Run

variable {start : Pool} {maxConcurrent : Nat}

theorem tracked_of_starts (h : start.Starts maxConcurrent) : start.Tracked := by
  constructor
  · rw [h.slots, h.threads]
    rfl
  · intro id hid
    rw [h.slots] at hid
    exact absurd hid (Finset.notMem_empty id)

theorem accounted_iff (h : start.Starts maxConcurrent) (events : List Event) :
    (exec step start events).accounted = maxConcurrent ↔ Along step KeepsSlots start events := by
  have hstart : start.accounted = maxConcurrent := by
    rw [accounted, held, h.slots, h.worker, h.threads]
    rfl
  rw [← hstart]
  exact exec_eq_iff_along accounted (fun pool event hkeeps => (balance_step hkeeps).balance)
    (fun pool event hloses => by
      have hlost := (lost_step hloses).balance
      omega) start events

/-- When every thread has ended and the queue is empty, all slots are free and no
run counts as active exactly when no step of the run has lost a slot. -/
theorem conserved_iff (h : start.Starts maxConcurrent) (events : List Event)
    (hquiescent : (exec step start events).Quiescent) :
    (exec step start events).Conserved maxConcurrent ↔ Along step KeepsSlots start events := by
  have hheld : (exec step start events).held = 0 := by
    rw [held, hquiescent.threads, hquiescent.worker]
    rfl
  have hsums := accounted_iff h events
  rw [accounted, hheld, Nat.add_zero] at hsums
  constructor
  · intro hconserved
    exact hsums.mp hconserved.permits
  · intro halong
    have htracked := exec_invariant (fun _ event => tracked_step event)
      (tracked_of_starts h) halong
    refine ⟨hsums.mpr halong, ?_, ?_⟩
    · rw [htracked.activeCount, hquiescent.threads]
      rfl
    · refine Finset.eq_empty_of_forall_notMem fun id hid => ?_
      have hactive := htracked.activeRunIds id hid
      rw [hquiescent.threads] at hactive
      exact absurd hactive (Nat.lt_irrefl 0)

end Run

/-! ## A run that is cancelled before its thread begins -/

/-- A manager without a durable queue, with one slot. -/
def single : Pool where
  manager := ⟨.empty, some .empty, some .empty, none⟩
  slots := ⟨1, 0, ∅⟩
  queueSize := 16
  queue := []
  queueSeq := 0
  submissions := []
  worker := .idle
  threads := []

theorem starts_single : single.Starts 1 := ⟨rfl, rfl, rfl, rfl⟩

def submitted : List Event :=
  [.create RunManager.submission [("goal", .str "summarise")] (some RunManager.owner),
    .start "run-1", .submit 0 .number, .submit 0 .put]

def dispatched : List Event :=
  [.worker .get, .worker .acquire, .worker (.dispatch true)]

/-- It is executed and closed. -/
def executed : List Event :=
  [.thread 0 (.begin 101), .thread 0 (.announce RunManager.ending),
    .thread 0 (.returns 102 .none .none), .thread 0 (.retire 103),
    .thread 0 (.sync RunManager.ending), .thread 0 .release,
    .thread 0 (.close RunManager.ending)]

/-- The cancelled run takes the only slot with it. -/
theorem not_conserved_of_cancelled : ∃ events, (exec step single events).Quiescent ∧
      ¬ (exec step single events).Conserved 1 := by
  refine ⟨submitted ++ [.cancel 100 "run-1" (some RunManager.owner)] ++ dispatched ++
    [.thread 0 (.begin 101)], ⟨rfl, rfl, rfl⟩, fun hconserved => ?_⟩
  have hpermits := hconserved.permits
  revert hpermits
  decide

theorem conserved_iff_executed :
    (exec step single (submitted ++ dispatched ++ executed)).Conserved 1 ↔
      Along step KeepsSlots single (submitted ++ dispatched ++ executed) :=
  conserved_iff starts_single _ ⟨rfl, rfl, rfl⟩

end Pool

end HiAgent.Server
