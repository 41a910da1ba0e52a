/-
  Server/DreamScheduler.lean --- `MemoryLifecycleManager`, as far as it dreams.

  Runs are counted. After every so many of them the sessions of the day are consolidated into its
  summary; a dream of any date can be asked for besides.
-/
import HiAgent.Foundation.Machine
import HiAgent.Memory.MidTerm

namespace HiAgent.Server

open Foundation Memory

/-- What a clock shows: the time, the date, and the date before which summaries are not kept. -/
structure DreamClock where
  now : String
  today : String
  cutoff : String

/-- What is around the manager: the posture, the order of directory scans, where names of files
lead, `str.lower` and the addition of floats. -/
structure DreamEnv where
  posture : Posture
  scan : IterationOrder
  places : Places
  lower : String → String
  add : PyFloat → PyFloat → PyFloat

/-- `MemoryLifecycleManager`, with both stores. -/
structure MemoryLifecycleManager where
  short : ShortTermMemoryStore
  mid : MidTermMemoryStore
  autoDreamInterval : Int
  runCount : Nat
  lastDreamAtRunCount : Int

namespace MemoryLifecycleManager

variable (env : DreamEnv) (manager : MemoryLifecycleManager)

def new (maxSessions maxDays autoDreamInterval : Int) : MemoryLifecycleManager :=
  ⟨.new maxSessions, .new maxDays, autoDreamInterval, 0, -1⟩

def shouldTriggerDream : MemoryLifecycleManager × Bool :=
  let count : Int := manager.runCount
  if 0 < manager.autoDreamInterval ∧ 0 < count ∧ count % manager.autoDreamInterval = 0 ∧
      count ≠ manager.lastDreamAtRunCount then
    ({ manager with lastDreamAtRunCount := count }, true)
  else (manager, false)

/-- `trigger_dream`, and what it catches. -/
def triggerDream (date : Option String) (clock : DreamClock) :
    MemoryLifecycleManager × Option StoreError :=
  match DreamConsolidator.consolidate env.posture env.scan env.places env.lower env.add
      manager.short manager.mid (date.getD clock.today) clock.now clock.cutoff with
  | .ok mid => ({ manager with mid := mid }, none)
  | .error error => (manager, some error)

def dreamIfDue (clock : DreamClock) : MemoryLifecycleManager :=
  match manager.shouldTriggerDream with
  | (manager, true) => (manager.triggerDream env (some clock.today) clock).1
  | (manager, false) => manager

/-- `_maybe_run_dream`, a turn of the scheduler. -/
def maybeRunDream (clock : DreamClock) : MemoryLifecycleManager :=
  if manager.autoDreamInterval ≤ 0 then manager else manager.dreamIfDue env clock

/-- `on_run_completed`, but for what goes on to the graph. -/
def onRunCompleted (clock : DreamClock) : MemoryLifecycleManager :=
  { manager with runCount := manager.runCount + 1 }.dreamIfDue env clock

end MemoryLifecycleManager

open ShortTermMemoryStore MidTermMemoryStore List

/-- What happens: a session is saved, a run is reported, a dream is asked for, or the
scheduler looks. -/
inductive MemoryEvent where
  | save (memory : ShortTermMemory) (now : String)
  | runCompleted (clock : DreamClock)
  | triggerDream (date : Option String) (clock : DreamClock)
  | schedulerTick (clock : DreamClock)

namespace MemoryLifecycleManager

variable (env : DreamEnv) (manager : MemoryLifecycleManager)

/-- One event. -/
def step (manager : MemoryLifecycleManager) : MemoryEvent → MemoryLifecycleManager
  | .save memory now =>
    match manager.short.save env.scan env.places memory now with
    | .ok short => { manager with short := short }
    | .error _ => manager
  | .runCompleted clock => manager.onRunCompleted env clock
  | .triggerDream date clock => (manager.triggerDream env date clock).1
  | .schedulerTick clock => manager.maybeRunDream env clock

/-- The date of the dream that an event starts, and the clock. -/
def dream? : MemoryEvent → Option (String × DreamClock)
  | .save _ _ => none
  | .runCompleted clock =>
    if { manager with runCount := manager.runCount + 1 }.shouldTriggerDream.2 then
      some (clock.today, clock)
    else none
  | .triggerDream date clock => some (date.getD clock.today, clock)
  | .schedulerTick clock =>
    if manager.shouldTriggerDream.2 then some (clock.today, clock) else none

end MemoryLifecycleManager

/-- A manager, the sessions that were saved, and those that were when it last dreamt. -/
structure MemoryHistory where
  manager : MemoryLifecycleManager
  saved : List ShortTermMemory
  dreamt : List ShortTermMemory

namespace MemoryHistory

variable (env : DreamEnv) (history : MemoryHistory)

def start (maxSessions maxDays autoDreamInterval : Int) : MemoryHistory :=
  ⟨.new maxSessions maxDays autoDreamInterval, [], []⟩

def savedAfter : MemoryEvent → List ShortTermMemory
  | .save memory now =>
    match history.manager.short.save env.scan env.places memory now with
    | .ok _ => history.saved ++ [memory.stamped now]
    | .error _ => history.saved
  | _ => history.saved

def step (history : MemoryHistory) (event : MemoryEvent) : MemoryHistory where
  manager := history.manager.step env event
  saved := history.savedAfter env event
  dreamt := if (history.manager.dream? event).isSome then history.saved else history.dreamt

def dateOf (memory : ShortTermMemory) : String := String.ofList (memory.createdAt.toList.take 10)

def Dated (memory : ShortTermMemory) : Prop :=
  10 ≤ memory.createdAt.toList.length ∧ '/' ∉ (dateOf memory).toList ∧
    '\x00' ∉ (dateOf memory).toList

def summaryOf (date : String) : Except StoreError (Option DailySummary) :=
  history.manager.mid.load env.posture env.places date

/-- A summary records exactly the sessions of a date that the last dream could see. -/
def RecordsDate (summary : DailySummary) (date : String) : Prop :=
  ∃ sessions : List ShortTermMemory, sessions.Nodup ∧
    (∀ memory, memory ∈ sessions ↔ memory ∈ history.dreamt ∧ dateOf memory = date) ∧
    summary.Records env.lower sessions

def Accounted : Prop :=
  ∀ memory ∈ history.dreamt, ∃ summary, history.summaryOf env (dateOf memory) = .ok (some summary) ∧
      history.RecordsDate env summary (dateOf memory)

/-- An event takes nothing out of the summaries of these dates. -/
def Keeps (event : MemoryEvent) : Prop :=
  ∀ memory ∈ history.dreamt, ∀ before, history.summaryOf env (dateOf memory) = .ok (some before) →
      ∃ after, (history.step env event).summaryOf env (dateOf memory) = .ok (some after) ∧
        after.Extends env.lower before

def Stored (memory : ShortTermMemory) : Prop :=
  memoryPath memory.sessionId ≠ manifestName ∧
    history.manager.short.dir.get? (memoryPath memory.sessionId) = some (.record memory)

/-- A dream of a plain date is due, where no tenant is asked for: the sessions since the last one
are of its date, those of its date have their files, and no summary of a session's date is
outdated. -/
def Ready (date : String) (clock : DreamClock) : Prop :=
  ∀ memory ∈ history.saved, env.posture.isStrict = false ∧ '/' ∉ date.toList ∧
    (memory ∈ history.dreamt ∨ dateOf memory = date) ∧
    (dateOf memory = date → history.Stored memory) ∧
    (0 < history.manager.mid.maxDays →
      outdated clock.cutoff (summaryPath (dateOf memory)) = false)

/-- A session is saved with a date; a dream starts where the sessions are ready for it. -/
def Meets (event : MemoryEvent) : Prop :=
  (∀ memory now, event = .save memory now → Dated (memory.stamped now)) ∧
    ∀ date clock, history.manager.dream? event = some (date, clock) → history.Ready env date clock

/-! ## Events and dreams -/

variable {env history}

/-- What a dream does to a manager. -/
structure Dreams (env : DreamEnv) (before after : MemoryLifecycleManager) (date : String)
    (clock : DreamClock) : Prop where
  short : after.short = before.short
  mid : ∀ mid, DreamConsolidator.consolidate env.posture env.scan env.places env.lower env.add
    before.short before.mid date clock.now clock.cutoff = .ok mid → after.mid = mid
  kept : ∀ error, DreamConsolidator.consolidate env.posture env.scan env.places env.lower env.add
    before.short before.mid date clock.now clock.cutoff = .error error → after.mid = before.mid

theorem dreams_triggerDream (env : DreamEnv) (manager : MemoryLifecycleManager)
    (date : Option String) (clock : DreamClock) :
    Dreams env manager (manager.triggerDream env date clock).1 (date.getD clock.today) clock := by
  rw [MemoryLifecycleManager.triggerDream]
  split
  · rename_i mid hmid
    exact ⟨rfl, fun other hother => Except.ok.inj (hmid.symm.trans hother),
      fun error herror => nomatch hmid.symm.trans herror⟩
  · rename_i error herror
    exact ⟨rfl, fun other hother => (nomatch herror.symm.trans hother), fun _ _ => rfl⟩

theorem stores_shouldTriggerDream (manager : MemoryLifecycleManager) :
    manager.shouldTriggerDream.1.short = manager.short ∧
      manager.shouldTriggerDream.1.mid = manager.mid := by
  rw [MemoryLifecycleManager.shouldTriggerDream]
  split
  · exact ⟨rfl, rfl⟩
  · exact ⟨rfl, rfl⟩

theorem dreamIfDue_cases (env : DreamEnv) (manager : MemoryLifecycleManager) (clock : DreamClock) :
    (manager.shouldTriggerDream.2 = false ∧ (manager.dreamIfDue env clock).short = manager.short ∧
      (manager.dreamIfDue env clock).mid = manager.mid) ∨ (manager.shouldTriggerDream.2 = true ∧
      Dreams env manager (manager.dreamIfDue env clock) clock.today clock) := by
  obtain ⟨hshort, hmid⟩ := stores_shouldTriggerDream manager
  rw [MemoryLifecycleManager.dreamIfDue]
  rcases hdue : manager.shouldTriggerDream with ⟨next, due⟩
  rw [hdue] at hshort hmid
  cases due with
  | false => exact .inl ⟨rfl, hshort, hmid⟩
  | true =>
    have hdreams := dreams_triggerDream env next (some clock.today) clock
    dsimp only at hshort hmid
    have hsame := hdreams
    rw [show (some clock.today).getD clock.today = clock.today from rfl] at hsame
    refine .inr ⟨rfl, hsame.short.trans hshort, fun mid hconsolidate => hsame.mid mid ?_,
      fun error herror => (hsame.kept error ?_).trans hmid⟩
    · rw [hshort, hmid]
      exact hconsolidate
    · rw [hshort, hmid]
      exact herror

theorem step_cases (env : DreamEnv) (history : MemoryHistory) (event : MemoryEvent) :
    (∃ memory now, event = .save memory now) ∨ (history.savedAfter env event = history.saved ∧
      ((history.manager.dream? event = none ∧
        (history.manager.step env event).short = history.manager.short ∧
        (history.manager.step env event).mid = history.manager.mid) ∨
      ∃ date clock, history.manager.dream? event = some (date, clock) ∧
        Dreams env history.manager (history.manager.step env event) date clock)) := by
  cases event with
  | save memory now => exact .inl ⟨memory, now, rfl⟩
  | triggerDream date clock =>
    exact .inr ⟨rfl, .inr ⟨_, clock, rfl, dreams_triggerDream env _ date clock⟩⟩
  | runCompleted clock =>
    refine .inr ⟨rfl, ?_⟩
    rcases dreamIfDue_cases env
      { history.manager with runCount := history.manager.runCount + 1 } clock with
      ⟨hdue, hshort, hmid⟩ | ⟨hdue, hdreams⟩
    · exact .inl ⟨if_neg (by simp [hdue]), hshort, hmid⟩
    · exact .inr ⟨_, clock, if_pos hdue, hdreams.short, hdreams.mid, hdreams.kept⟩
  | schedulerTick clock =>
    refine .inr ⟨rfl, ?_⟩
    rcases dreamIfDue_cases env history.manager clock with
      ⟨hdue, hshort, hmid⟩ | ⟨hdue, hdreams⟩
    · refine .inl ⟨if_neg (by simp [hdue]), ?_⟩
      rw [MemoryLifecycleManager.step, MemoryLifecycleManager.maybeRunDream]
      split
      · exact ⟨rfl, rfl⟩
      · exact ⟨hshort, hmid⟩
    · refine .inr ⟨_, clock, if_pos hdue, ?_⟩
      have hpos : ¬ history.manager.autoDreamInterval ≤ 0 := by
        intro hle
        rw [MemoryLifecycleManager.shouldTriggerDream, if_neg (by omega)] at hdue
        cases hdue
      rw [MemoryLifecycleManager.step, MemoryLifecycleManager.maybeRunDream, if_neg hpos]
      exact hdreams

/-! ## Dates -/

variable {memory : ShortTermMemory} {summary : DailySummary} {date : String}

theorem Dated.length_dateOf (h : Dated memory) : (dateOf memory).toList.length = 10 := by
  rw [dateOf, String.toList_ofList, length_take, Nat.min_eq_left h.1]

theorem Dated.path_ne (h : Dated memory) : summaryPath (dateOf memory) ≠ manifestName := by
  intro hpath
  have hlength := congrArg (fun name : String => name.toList.length) hpath
  rw [summaryPath] at hlength
  simp only [String.toList_append, length_append, h.length_dateOf] at hlength
  revert hlength
  decide

theorem Dated.locate_eq (h : Dated memory) (places : Places) :
    places.locate (summaryPath (dateOf memory)) = some (summaryPath (dateOf memory)) :=
  locate_summaryPath places h.2.1 h.2.2 (by rw [h.length_dateOf]; decide)

theorem startsWith_iff (hdate : date.toList.length = 10) :
    Text.startsWith date memory.createdAt = true ↔ dateOf memory = date := by
  rw [Text.startsWith, isPrefixOf_iff_prefix, prefix_iff_eq_take, hdate, dateOf,
    ← String.toList_inj, String.toList_ofList]
  exact eq_comm

/-! ## The invariant -/

/-- What every event keeps. -/
structure Inv (env : DreamEnv) (history : MemoryHistory) : Prop where
  dated : ∀ memory ∈ history.saved, Dated memory
  seen : ∀ memory ∈ history.dreamt, memory ∈ history.saved
  filed : Filed history.manager.short.dir history.saved
  recorded : ∀ memory ∈ history.dreamt, env.posture.isStrict = false ∧ ∃ summary,
    history.manager.mid.dir.get? (summaryPath (dateOf memory)) = some (.record summary) ∧
      history.RecordsDate env summary (dateOf memory)

theorem inv_start (env : DreamEnv) (maxSessions maxDays autoDreamInterval : Int) :
    (start maxSessions maxDays autoDreamInterval).Inv env where
  dated _ hmem := absurd hmem not_mem_nil
  seen _ hmem := absurd hmem not_mem_nil
  filed _ _ _ hfile := nomatch hfile
  recorded _ hmem := absurd hmem not_mem_nil

section

variable (h : history.Inv env)
include h

theorem Inv.of_frame {next : MemoryHistory}
    (hsaved : next.saved = history.saved) (hdreamt : next.dreamt = history.dreamt)
    (hshort : next.manager.short = history.manager.short)
    (hmid : next.manager.mid = history.manager.mid) : next.Inv env where
  dated := hsaved ▸ h.dated
  seen := by
    rw [hsaved, hdreamt]
    exact h.seen
  filed := by
    rw [hsaved, hshort]
    exact h.filed
  recorded := by
    simp only [RecordsDate, hdreamt, hmid]
    exact h.recorded

theorem Inv.save (memory : ShortTermMemory) (now : String)
    (hdated : Dated (memory.stamped now)) : (history.step env (.save memory now)).Inv env := by
  cases hplace : env.places.locate (memoryPath memory.sessionId) with
  | none =>
    have hsave : history.manager.short.save env.scan env.places memory now =
        .error (Places.refusal (memoryPath memory.sessionId)) := by
      rw [ShortTermMemoryStore.save, hplace]
    have hmanager : (history.step env (.save memory now)).manager = history.manager := by
      simp only [MemoryHistory.step, MemoryLifecycleManager.step, hsave]
    refine h.of_frame ?_ rfl (by rw [hmanager]) (by rw [hmanager])
    simp only [MemoryHistory.step, savedAfter, hsave]
  | some place =>
    have hsave : history.manager.short.save env.scan env.places memory now =
        .ok (history.manager.short.written env.scan memory now) := by
      rw [ShortTermMemoryStore.save, hplace]
    have hsaved : (history.step env (.save memory now)).saved =
        history.saved ++ [memory.stamped now] := by
      simp only [MemoryHistory.step, savedAfter, hsave]
    have hshort : (history.step env (.save memory now)).manager =
        { history.manager with short := history.manager.short.written env.scan memory now } := by
      simp only [MemoryHistory.step, MemoryLifecycleManager.step, hsave]
    refine ⟨fun other hother => ?_, fun other hother => ?_, ?_, ?_⟩
    · rw [hsaved] at hother
      rcases mem_append.mp hother with hold | hnew
      · exact h.dated other hold
      · rw [mem_singleton.mp hnew]
        exact hdated
    · rw [hsaved]
      exact mem_append_left _ (h.seen other hother)
    · rw [hsaved, hshort]
      exact h.filed.written memory now
    · rw [hshort]
      exact h.recorded

theorem Inv.consolidate (hdev : env.posture.isStrict = false) (clock : DreamClock)
    (hplace : env.places.locate (summaryPath date) = some (summaryPath date)) :
    ∃ summary mid, DreamConsolidator.consolidate env.posture env.scan env.places env.lower env.add
        history.manager.short history.manager.mid date clock.now clock.cutoff = .ok mid ∧
      (∀ name, name ≠ manifestName →
        (0 < history.manager.mid.maxDays → outdated clock.cutoff name = false) → mid.dir.get? name =
          if name = summaryPath date then some (.record summary)
          else history.manager.mid.dir.get? name) ∧
      ∃ sessions : List ShortTermMemory, sessions.Nodup ∧ (∀ memory, memory ∈ sessions ↔
          history.Stored memory ∧ Text.startsWith date memory.createdAt = true) ∧
        summary.Records env.lower sessions := by
  obtain ⟨listed, sessions, hlist, hperm, hnodup, hmem⟩ := h.filed.listByDate hdev env.scan date
  have hrecords := (DreamConsolidator.records_summarise env.scan env.lower env.add date listed).perm
    hperm
  have hchecked : (DreamConsolidator.summarise env.scan env.lower env.add date listed).checked
      env.posture = .ok (DreamConsolidator.summarise env.scan env.lower env.add date listed) := by
    rw [DailySummary.checked, if_neg (by simp [hdev])]
  obtain ⟨mid, hsave, hget⟩ := get?_save env.places history.manager.mid
    (DreamConsolidator.summarise env.scan env.lower env.add date listed) clock.now
      clock.cutoff hplace
  refine ⟨_, mid, ?_, hget, sessions, hnodup, hmem, ?_⟩
  · rw [DreamConsolidator.consolidate, hlist]
    dsimp only
    rw [hchecked]
    exact hsave
  · have hsessions := hrecords.of_reread
    exact ⟨hsessions.completed, hsessions.failed, hsessions.learnt, hsessions.covered,
      hsessions.tools, hsessions.tokens⟩

omit h in
theorem consolidate_error (history : MemoryHistory) (clock : DreamClock)
    (hplace : env.places.locate (summaryPath date) = none) :
    ∃ error, DreamConsolidator.consolidate env.posture env.scan env.places env.lower env.add
      history.manager.short history.manager.mid date clock.now clock.cutoff = .error error := by
  rw [DreamConsolidator.consolidate]
  split
  · exact ⟨_, rfl⟩
  · rw [DailySummary.checked]
    split_ifs
    · exact ⟨_, rfl⟩
    · dsimp only
      rw [MidTermMemoryStore.save]
      dsimp only [DailySummary.stamped, DreamConsolidator.summarise]
      rw [hplace]
      exact ⟨_, rfl⟩

theorem Inv.mem_saved (hstored : history.Stored memory) : memory ∈ history.saved := by
  obtain ⟨other, hother, hrecord, -⟩ := h.filed _ _ hstored.1 hstored.2
  injection hrecord with hrecord
  exact hrecord ▸ hother

theorem Inv.dream {event : MemoryEvent} {clock : DreamClock}
    (hmeets : history.Meets env event) (hdream : history.manager.dream? event = some (date, clock))
    (hsaved : history.savedAfter env event = history.saved)
    (hdreams : Dreams env history.manager (history.manager.step env event) date clock) :
    (history.step env event).Inv env := by
  have hdreamt : (history.step env event).dreamt = history.saved := by
    rw [step, hdream]
    rfl
  have hsame : (history.step env event).saved = history.saved := hsaved
  refine ⟨hsame ▸ h.dated, ?_, ?_, fun memory hmemory => ?_⟩
  · rw [hdreamt, hsame]
    exact fun _ hmem => hmem
  · rw [hsame]
    change Filed (history.manager.step env event).short.dir history.saved
    rw [hdreams.short]
    exact h.filed
  · rw [hdreamt] at hmemory
    obtain ⟨hdev, hplain, hseen, -, hrecent⟩ := hmeets.2 date clock hdream memory hmemory
    refine ⟨hdev, ?_⟩
    have hdated := h.dated memory hmemory
    by_cases hdate : dateOf memory = date
    · -- the summary of the dream
      have hplace := hdated.locate_eq env.places
      rw [hdate] at hplace
      obtain ⟨summary, mid, hconsolidate, hget, sessions, hnodup, hmem, hrecords⟩ :=
        h.consolidate hdev clock hplace
      have hmid : (history.step env event).manager.mid = mid := hdreams.mid mid hconsolidate
      have hfile := hget (summaryPath (dateOf memory)) hdated.path_ne hrecent
      refine ⟨summary, ?_, sessions, hnodup, fun other => ?_, hrecords⟩
      · rw [hmid, hfile, if_pos (by rw [hdate])]
      · rw [hmem, hdreamt]
        have hlength : date.toList.length = 10 := hdate ▸ hdated.length_dateOf
        rw [startsWith_iff hlength, hdate]
        constructor
        · rintro ⟨hstored, hother⟩
          exact ⟨h.mem_saved hstored, hother⟩
        · rintro ⟨hother, hsame⟩
          exact ⟨(hmeets.2 date clock hdream other hother).2.2.2.1 hsame, hsame⟩
    · -- the summary of another date
      have hold := hseen.resolve_right hdate
      obtain ⟨-, before, hbefore, old, holdNodup, holdMem, holdRecords⟩ := h.recorded memory hold
      refine ⟨before, ?_, old, holdNodup, fun other => ?_, holdRecords⟩
      · rw [← hbefore]
        cases hplace : env.places.locate (summaryPath date) with
        | none =>
          obtain ⟨error, herror⟩ := consolidate_error history clock hplace
          have hmid : (history.step env event).manager.mid = history.manager.mid :=
            hdreams.kept error herror
          rw [hmid]
        | some place =>
          obtain rfl := env.places.locate_plain _ _ (not_mem_summaryPath hplain (by decide)) hplace
          obtain ⟨summary, mid, hconsolidate, hget, -⟩ := h.consolidate hdev clock hplace
          have hmid : (history.step env event).manager.mid = mid := hdreams.mid mid hconsolidate
          rw [hmid, hget _ hdated.path_ne hrecent,
            if_neg fun hpath => hdate (summaryPath_injective hpath)]
      · rw [holdMem, hdreamt]
        refine and_congr_left fun hother => ⟨h.seen other, fun hsaved => ?_⟩
        refine (hmeets.2 date clock hdream other hsaved).2.2.1.resolve_right fun hsame => ?_
        exact hdate (hother.symm.trans hsame)

theorem Inv.step {event : MemoryEvent} (hmeets : history.Meets env event) :
    (history.step env event).Inv env := by
  rcases step_cases env history event with
    ⟨memory, now, rfl⟩ | ⟨hsaved, ⟨hnone, hshort, hmid⟩ | ⟨date, clock, hdream, hdreams⟩⟩
  · exact h.save memory now (hmeets.1 memory now rfl)
  · refine h.of_frame hsaved ?_ hshort hmid
    rw [MemoryHistory.step, hnone]
    rfl
  · exact h.dream hmeets hdream hsaved hdreams

end

/-! ## What is recorded -/

theorem Inv.accounted (h : history.Inv env) : history.Accounted env := by
  intro memory hmemory
  obtain ⟨hdev, summary, hfile, sessions, hnodup, hmem, hrecords⟩ := h.recorded memory hmemory
  have hdated := h.dated memory (h.seen memory hmemory)
  refine ⟨summary.reread, ?_, sessions, hnodup, hmem, ⟨hrecords.completed, hrecords.failed,
    hrecords.learnt, hrecords.covered, hrecords.tools, hrecords.tokens⟩⟩
  rw [summaryOf, MidTermMemoryStore.load, hdated.locate_eq env.places, Option.bind_some, hfile]
  dsimp only
  rw [dictToDailySummary, DailySummary.checked, if_neg (by simp [hdev])]
  rfl

theorem Inv.mem_dreamt (h : history.Inv env) (event : MemoryEvent)
    (hmemory : memory ∈ history.dreamt) : memory ∈ (history.step env event).dreamt := by
  rw [MemoryHistory.step]
  dsimp only
  split
  · exact h.seen memory hmemory
  · exact hmemory

theorem Inv.keeps (h : history.Inv env) {event : MemoryEvent} (hmeets : history.Meets env event) :
    history.Keeps env event := by
  intro memory hmemory before hbefore
  obtain ⟨known, hknown, old, hnodup, hold, hrecords⟩ := h.accounted memory hmemory
  obtain rfl : known = before := Option.some.inj (Except.ok.inj (hknown.symm.trans hbefore))
  obtain ⟨after, hafter, later, -, hlater, hnext⟩ :=
    (h.step hmeets).accounted memory (h.mem_dreamt event hmemory)
  refine ⟨after, hafter, hnext.extends hrecords hnodup fun session hsession => ?_⟩
  obtain ⟨hseen, hdate⟩ := (hold session).mp hsession
  exact (hlater session).mpr ⟨h.mem_dreamt event hseen, hdate⟩

/-! ## Whole runs -/

/-- In every run whose events all meet the condition, whatever the interval and the bounds,
every session that a dream could see stays in the summary of its date, with all that the
summary says of it and of the others. -/
theorem along_accounted_of_meets (env : DreamEnv) (maxSessions maxDays autoDreamInterval : Int)
    {events : List MemoryEvent} (hmeets : Along (step env) (fun history => history.Meets env)
      (start maxSessions maxDays autoDreamInterval) events) : Along (step env)
      (fun history event => (history.step env event).Accounted env ∧ history.Keeps env event)
      (start maxSessions maxDays autoDreamInterval) events :=
  along_of_invariant (fun _ _ hinv hmeets => hinv.step hmeets)
    (fun _ _ hinv hmeets => ⟨(hinv.step hmeets).accounted, hinv.keeps hmeets⟩)
    (inv_start env maxSessions maxDays autoDreamInterval) hmeets

/-- A server of one directory, for texts in lower case and sessions that cost nothing. -/
def plainEnv : DreamEnv where
  posture := .dev
  scan := .byInsertion
  places := .flat
  lower := id
  add first _ := first

def newYear : DreamClock := ⟨"2026-01-01T23:59:00", "2026-01-01", "2025-10-03"⟩

def dayAfter : DreamClock := ⟨"2026-01-02T00:10:00", "2026-01-02", "2025-10-04"⟩

instance Dated.decide (memory : ShortTermMemory) : Decidable (Dated memory) :=
  inferInstanceAs (Decidable (_ ∧ _ ∧ _))

instance Stored.decide (history : MemoryHistory) (memory : ShortTermMemory) :
    Decidable (history.Stored memory) :=
  inferInstanceAs (Decidable (_ ∧ _))

instance Ready.decide (env : DreamEnv) (history : MemoryHistory) (date : String)
    (clock : DreamClock) : Decidable (history.Ready env date clock) :=
  inferInstanceAs (Decidable (∀ memory ∈ history.saved, _ ∧ _ ∧ _ ∧ _ ∧ _))

instance Meets.decide (env : DreamEnv) (history : MemoryHistory) (event : MemoryEvent) :
    Decidable (history.Meets env event) :=
  haveI : Decidable (∀ memory now, event = .save memory now → Dated (memory.stamped now)) :=
    match event with
    | .save memory now => decidable_of_iff (Dated (memory.stamped now)) (by simp)
    | .runCompleted _ | .triggerDream _ _ | .schedulerTick _ => isTrue (by simp)
  haveI : Decidable (∀ date clock, history.manager.dream? event = some (date, clock) →
      history.Ready env date clock) :=
    match history.manager.dream? event with
    | none => isTrue (by simp)
    | some (date, clock) => decidable_of_iff (history.Ready env date clock) (by simp)
  inferInstanceAs (Decidable (_ ∧ _))

/-- A session with findings and tools. -/
def worked (sessionId outcome createdAt : String) : ShortTermMemory :=
  { ShortTermMemory.note sessionId "plan" "" with
    keyFindings := ["disk full", "disk full on node 3"]
    toolsUsed := ["search"]
    outcome := outcome
    totalTokensUsed := 120
    createdAt := createdAt }

/-- Four sessions of two days in a store of three: the fourth displaces the first, of which the
dream at the second report has told. -/
def twoDays : List MemoryEvent :=
  [.save (worked "run-1" "completed" "2026-01-01T10:00:00") "",
    .save (worked "run-2" "failed" "2026-01-01T11:00:00") "", .runCompleted newYear,
    .runCompleted newYear, .save (worked "run-3" "completed" "2026-01-02T00:05:00") "",
    .triggerDream (some "2026-01-02") dayAfter,
    .save (worked "run-4" "completed" "2026-01-02T00:07:00") "", .schedulerTick dayAfter,
    .runCompleted dayAfter, .runCompleted dayAfter]

theorem along_accounted_twoDays : Along (step plainEnv)
      (fun history event => (history.step plainEnv event).Accounted plainEnv ∧
        history.Keeps plainEnv event) (start 3 30 2) twoDays :=
  along_accounted_of_meets plainEnv 3 30 2 (by decide +kernel)

/-- A session at the end of a day, and one on the next, before the second run is reported. -/
def overMidnight : List MemoryEvent :=
  [.save (.note "run-1" "plan" "") "", .runCompleted newYear,
    .save { ShortTermMemory.note "run-2" "review" "" with createdAt := "2026-01-02T00:05:00" } "",
    .runCompleted dayAfter]

/-- The day that is over gets no summary. -/
theorem not_along_accounted_overMidnight : ¬ Along (step plainEnv)
      (fun history event => (history.step plainEnv event).Accounted plainEnv ∧
        history.Keeps plainEnv event) (start 0 0 2) overMidnight := by
  rintro ⟨-, -, -, ⟨hsums, -⟩, -⟩
  obtain ⟨summary, hsummary, -⟩ :=
    hsums (ShortTermMemory.note "run-1" "plan" "") mem_cons_self
  cases hsummary

end MemoryHistory

open List MemoryHistory

/-! ## Calls under way -/

/-- What both tests ask under the lock: the count is a multiple of the interval, and not the
one that was marked last. -/
def Due (interval last : Int) (count : Nat) : Prop :=
  0 < interval ∧ 0 < (count : Int) ∧ (count : Int) % interval = 0 ∧ (count : Int) ≠ last

instance Due.decide (interval last : Int) (count : Nat) : Decidable (Due interval last count) :=
  inferInstanceAs (Decidable (_ ∧ _ ∧ _ ∧ _))

theorem MemoryLifecycleManager.shouldTriggerDream_eq (manager : MemoryLifecycleManager) :
    manager.shouldTriggerDream =
      if Due manager.autoDreamInterval manager.lastDreamAtRunCount manager.runCount then
        ({ manager with lastDreamAtRunCount := manager.runCount }, true)
      else (manager, false) := rfl

/-- What a call does next. -/
inductive LifecyclePhase where
  | testDream
  | dream
  | testConsolidate
  | consolidate
  deriving DecidableEq

/-- A call of `on_run_completed` behind its count, or a check of the scheduler. -/
structure LifecycleCall where
  completion : Bool
  phase : LifecyclePhase

/-- A manager, what it keeps for the graph, the calls under way, and how many completions have
ended, dreams and consolidations been triggered. -/
structure Lifecycle where
  manager : MemoryLifecycleManager
  autoConsolidateInterval : Int
  lastConsolidateAtRunCount : Int
  calls : List LifecycleCall
  ended : Nat
  dreams : Nat
  consolidations : Nat

/-- A step of some call. -/
inductive LifecycleEvent where
  | complete
  | check
  | move (index : Nat) (clock : DreamClock)

namespace Lifecycle

variable (env : DreamEnv) (life : Lifecycle)

def new (maxSessions maxDays autoDreamInterval autoConsolidateInterval : Int) : Lifecycle :=
  ⟨.new maxSessions maxDays autoDreamInterval, autoConsolidateInterval, -1, [], 0, 0, 0⟩

def shouldTriggerConsolidate : Lifecycle × Bool :=
  if Due life.autoConsolidateInterval life.lastConsolidateAtRunCount life.manager.runCount then
    ({ life with lastConsolidateAtRunCount := life.manager.runCount }, true)
  else (life, false)

def goOn (index : Nat) (call : LifecycleCall) (phase : LifecyclePhase) : Lifecycle :=
  { life with calls := Roster.advance life.calls index (some { call with phase := phase }) }

def leave (index : Nat) (call : LifecycleCall) : Lifecycle :=
  { life with
    calls := Roster.advance life.calls index none
    ended := if call.completion then life.ended + 1 else life.ended }

/-- The next step of a call. -/
def move (index : Nat) (call : LifecycleCall) (clock : DreamClock) : Lifecycle :=
  match call.phase with
  | .testDream =>
    match life.manager.shouldTriggerDream with
    | (manager, true) => { life with manager := manager }.goOn index call .dream
    | (manager, false) => { life with manager := manager }.goOn index call .testConsolidate
  | .dream =>
    { life with
      manager := (life.manager.triggerDream env (some clock.today) clock).1
      dreams := life.dreams + 1 }.goOn index call .testConsolidate
  | .testConsolidate =>
    match life.shouldTriggerConsolidate with
    | (life, true) => life.goOn index call .consolidate
    | (life, false) => life.leave index call
  | .consolidate => { life with consolidations := life.consolidations + 1 }.leave index call

/-- One step. -/
def step (life : Lifecycle) : LifecycleEvent → Lifecycle
  | .complete =>
    { life with
      manager := { life.manager with runCount := life.manager.runCount + 1 }
      calls := life.calls ++ [⟨true, .testDream⟩] }
  | .check => { life with calls := life.calls ++ [⟨false, .testDream⟩] }
  | .move index clock =>
    match life.calls[index]? with
    | none => life
    | some call => life.move env index call clock

/-! ## The law -/

/-- Where no call is under way, one dream and one consolidation for each of the intervals that
the completions fill. -/
def OncePerInterval : Prop :=
  life.calls = [] → (life.dreams : Int) = life.ended / life.manager.autoDreamInterval ∧
      (life.consolidations : Int) = life.ended / life.autoConsolidateInterval

/-- No completion is counted while the count is due and not yet tested. -/
def TestedFirst : LifecycleEvent → Prop
  | .complete =>
    ¬ Due life.manager.autoDreamInterval life.manager.lastDreamAtRunCount life.manager.runCount ∧
      ¬ Due life.autoConsolidateInterval life.lastConsolidateAtRunCount life.manager.runCount
  | _ => True

/-- The account of an interval: what is done, what is marked and not yet done, and the calls
that have still to test it. -/
structure Accounts (interval last : Int) (runs done marked testing : Nat) : Prop where
  positive : 0 < interval
  last_le : last ≤ runs
  sum : (done : Int) + marked + (if Due interval last runs then 1 else 0) = runs / interval
  tested : Due interval last runs → 0 < testing

variable {interval last : Int} {runs done marked testing : Nat}

section

variable (h : Accounts interval last runs done marked testing)
include h

theorem Accounts.count (hdue : ¬ Due interval last runs) :
    Accounts interval last (runs + 1) done marked (testing + 1) where
  positive := h.positive
  last_le := by have := h.last_le; omega
  sum := by
    obtain ⟨k, rfl⟩ := Int.eq_ofNat_of_zero_le h.positive.le
    have hsum := h.sum
    have hle := h.last_le
    have hpositive := h.positive
    rw [if_neg hdue] at hsum
    have hdiv := Nat.succ_div (a := runs) (b := k)
    have hnext : Due k last (runs + 1) ↔ k ∣ runs + 1 := by
      rw [Due, Nat.dvd_iff_mod_eq_zero]
      omega
    simp only [hnext]
    norm_cast at hsum ⊢
    split_ifs at hdiv ⊢ <;> omega
  tested _ := Nat.succ_pos testing

theorem Accounts.mark (hdue : Due interval last runs) (later : Nat) :
    Accounts interval runs runs done (marked + 1) later := by
  have hsum := h.sum
  rw [if_pos hdue] at hsum
  have hmarked : ¬ Due interval runs runs := fun hagain => hagain.2.2.2 rfl
  refine ⟨h.positive, le_refl _, ?_, fun hagain => absurd hagain hmarked⟩
  rw [if_neg hmarked]
  omega

theorem Accounts.keep {finished claimed later : Nat} (hsum : finished + claimed = done + marked)
    (hlater : Due interval last runs → testing ≤ later) :
    Accounts interval last runs finished claimed later :=
  { h with
    sum := by have := h.sum; omega
    tested hdue := (h.tested hdue).trans_le (hlater hdue) }

end

/-- The calls in some phase. -/
def inPhase (calls : List LifecycleCall) (phase : LifecyclePhase) : Nat :=
  calls.countP fun call => call.phase = phase

/-- Every completion is under way or has ended, and both accounts are right. -/
structure Inv : Prop where
  counted : life.ended + life.calls.countP LifecycleCall.completion = life.manager.runCount
  dreams : Accounts life.manager.autoDreamInterval life.manager.lastDreamAtRunCount
    life.manager.runCount life.dreams (inPhase life.calls .dream) (inPhase life.calls .testDream)
  consolidations : Accounts life.autoConsolidateInterval life.lastConsolidateAtRunCount
    life.manager.runCount life.consolidations (inPhase life.calls .consolidate)
    (inPhase life.calls .testDream + inPhase life.calls .dream +
      inPhase life.calls .testConsolidate)

variable {env life}

theorem Inv.oncePerInterval (h : life.Inv) : life.OncePerInterval := by
  intro hcalls
  obtain ⟨hcounted, hdreams, hmerged⟩ := h
  simp only [inPhase, hcalls, countP_nil, Nat.add_zero] at hcounted hdreams hmerged
  have hdream := hdreams.sum
  have hconsolidate := hmerged.sum
  rw [if_neg fun hdue => absurd (hdreams.tested hdue) (lt_irrefl 0)] at hdream
  rw [if_neg fun hdue => absurd (hmerged.tested hdue) (lt_irrefl 0)] at hconsolidate
  rw [hcounted]
  omega

variable {index : Nat} {call : LifecycleCall}

theorem inPhase_advance (h : life.calls[index]? = some call) (next : Option LifecycleCall)
    (phase : LifecyclePhase) :
    inPhase (Roster.advance life.calls index next) phase + (if call.phase = phase then 1 else 0) =
      inPhase life.calls phase + if ∃ later ∈ next, later.phase = phase then 1 else 0 := by
  have hcount := Roster.countP_advance h (fun call => decide (call.phase = phase)) next
  cases next <;> simpa [countP_singleton, inPhase] using hcount

theorem completions_advance (h : life.calls[index]? = some call) (next : Option LifecycleCall) :
    (Roster.advance life.calls index next).countP LifecycleCall.completion +
        (if call.completion then 1 else 0) =
      life.calls.countP LifecycleCall.completion +
        if ∃ later ∈ next, later.completion then 1 else 0 := by
  have hcount := Roster.countP_advance h LifecycleCall.completion next
  cases next <;> simpa [countP_singleton] using hcount

theorem triggerDream_frame (manager : MemoryLifecycleManager) (date : Option String)
    (clock : DreamClock) : ∃ mid, (manager.triggerDream env date clock).1 =
      { manager with mid := mid } := by
  rw [MemoryLifecycleManager.triggerDream]
  split
  · exact ⟨_, rfl⟩
  · exact ⟨manager.mid, rfl⟩

theorem Inv.move (h : life.Inv) (hcall : life.calls[index]? = some call) (clock : DreamClock) :
    (life.move env index call clock).Inv := by
  obtain ⟨hcounted, hdreams, hmerged⟩ := h
  have hgoes := fun phase => inPhase_advance hcall (some { call with phase := phase })
  have hstays := fun phase => completions_advance hcall (some { call with phase := phase })
  have hleaves := inPhase_advance hcall none
  have hends := completions_advance hcall none
  simp only [Option.mem_def, Option.some.injEq, exists_eq_left', reduceCtorEq, false_and,
    exists_false, if_false, Nat.add_zero] at hgoes hstays hleaves hends
  rw [Lifecycle.move]
  cases hphase : call.phase with
  | testDream =>
    rw [MemoryLifecycleManager.shouldTriggerDream_eq]
    rw [hphase] at hgoes
    have hdream := hgoes .dream
    have hconsolidate := hgoes .testConsolidate
    split_ifs with hdue
    · constructor <;> dsimp only [goOn]
      · grind
      · exact (hdreams.mark hdue _).keep (by grind) fun _ => le_refl _
      · exact hmerged.keep (by grind) (by grind)
    · constructor <;> dsimp only [goOn]
      · grind
      · exact hdreams.keep (by grind) (by grind)
      · exact hmerged.keep (by grind) (by grind)
  | dream =>
    obtain ⟨mid, hmid⟩ := @triggerDream_frame env life.manager (some clock.today) clock
    rw [hphase] at hgoes
    have hconsolidate := hgoes .testConsolidate
    constructor <;> dsimp only [goOn] <;> rw [hmid]
    · grind
    · exact hdreams.keep (by grind) (by grind)
    · exact hmerged.keep (by grind) (by grind)
  | testConsolidate =>
    rw [hphase] at hgoes hleaves
    have hconsolidate := hgoes .consolidate
    rw [shouldTriggerConsolidate]
    split_ifs with hdue
    · constructor <;> dsimp only [goOn]
      · grind
      · exact hdreams.keep (by grind) (by grind)
      · exact (hmerged.mark hdue _).keep (by grind) fun _ => le_refl _
    · constructor <;> dsimp only [leave]
      · grind
      · exact hdreams.keep (by grind) (by grind)
      · exact hmerged.keep (by grind) fun hagain => absurd hagain hdue
  | consolidate =>
    rw [hphase] at hleaves
    constructor <;> dsimp only [leave]
    · grind
    · exact hdreams.keep (by grind) (by grind)
    · exact hmerged.keep (by grind) (by grind)

theorem Inv.step (h : life.Inv) {event : LifecycleEvent} (htested : life.TestedFirst event) :
    (life.step env event).Inv := by
  cases event with
  | complete =>
    obtain ⟨hdream, hconsolidate⟩ := htested
    have hdreams := h.dreams.count hdream
    have hmerged := h.consolidations.count hconsolidate
    constructor <;> simp only [Lifecycle.step, inPhase, countP_append, countP_singleton]
    · have := h.counted
      simp
      omega
    · exact hdreams.keep (by simp [inPhase]) (by simp [inPhase])
    · exact hmerged.keep (by simp [inPhase]) (by grind [inPhase])
  | check =>
    constructor <;> simp only [Lifecycle.step, inPhase, countP_append, countP_singleton]
    · simpa using h.counted
    · exact h.dreams.keep (by simp [inPhase]) (by simp [inPhase])
    · exact h.consolidations.keep (by simp [inPhase]) (by simp [inPhase])
  | move index clock =>
    rw [Lifecycle.step]
    split
    · exact h
    · rename_i call hcall
      exact h.move hcall clock

/-- In every interleaving in which no completion is counted over one that is due, there is one
dream and one consolidation for each interval. -/
theorem always_oncePerInterval (env : DreamEnv) (maxSessions maxDays : Int)
    {autoDreamInterval autoConsolidateInterval : Int} (hdream : 1 ≤ autoDreamInterval)
    (hconsolidate : 1 ≤ autoConsolidateInterval) {events : List LifecycleEvent}
    (htested : Along (step env) TestedFirst
      (new maxSessions maxDays autoDreamInterval autoConsolidateInterval) events) :
    Always (step env) OncePerInterval
      (new maxSessions maxDays autoDreamInterval autoConsolidateInterval) events := by
  have hinit : (new maxSessions maxDays autoDreamInterval autoConsolidateInterval).Inv := by
    have hstart : ∀ {interval : Int}, 1 ≤ interval → Accounts interval (-1) 0 0 0 0 :=
      fun hinterval => ⟨hinterval, by decide, by simp [Due], by simp [Due]⟩
    exact ⟨rfl, hstart hdream, hstart hconsolidate⟩
  exact always_of_invariant (fun _ _ hinv hguard => hinv.step hguard)
    (fun _ hinv => hinv.oncePerInterval) hinit htested

/-- Two completions are counted before either is tested, and a third and a check of the scheduler
come while the dream goes on; the check finds the consolidation due. -/
def overlapping : List LifecycleEvent :=
  [.complete, .complete, .move 0 newYear, .complete, .check, .move 3 newYear, .move 0 newYear,
    .move 3 newYear, .move 0 newYear, .move 2 newYear, .move 1 newYear, .move 1 newYear,
    .move 0 newYear, .move 0 newYear]

theorem always_oncePerInterval_overlapping :
    Always (step plainEnv) OncePerInterval (new 100 30 2 3) overlapping := by
  refine always_oncePerInterval plainEnv 100 30 (by decide) (by decide) ?_
  exact ⟨And.intro (by decide) (by decide), And.intro (by decide) (by decide), trivial,
    And.intro (by decide +kernel) (by decide +kernel), trivial, trivial, trivial, trivial, trivial,
    trivial, trivial, trivial, trivial, trivial, trivial⟩

/-- A third completion is counted between the count of the second and its test. -/
def countedOver : List LifecycleEvent :=
  [.complete, .move 0 newYear, .move 0 newYear, .complete, .complete, .move 0 newYear,
    .move 0 newYear, .move 0 newYear, .move 0 newYear]

/-- Of the three completions none finds a dream due. -/
theorem not_always_oncePerInterval_countedOver :
    ¬ Always (step plainEnv) OncePerInterval (new 100 30 2 20) countedOver := by
  intro h
  have hdreams := (h.last rfl).1
  revert hdreams
  decide +kernel

end Lifecycle

end HiAgent.Server
