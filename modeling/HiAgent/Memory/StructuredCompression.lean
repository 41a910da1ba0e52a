/-
  Memory/StructuredCompression.lean --- `StructuredCompressor` and its summaries.

  The messages of a conversation are cut into a head, which is protected, a tail that fits a
  budget of characters, and the middle between them, which is replaced by a summary in front of
  the head. A cycle gets the output of the one before it, further messages, and the summary
  returned last; one that finds nothing to compress merges a placeholder.
-/
import HiAgent.Foundation.Machine
import HiAgent.Foundation.PyValue
import HiAgent.Server.Environment
import Mathlib.Data.List.Nodup
import Mathlib.Data.List.Range

namespace HiAgent.Memory

open Foundation Server List

/-! ## Messages -/

/-- A block of a message: with the text under its key `text`, a text, or something else
with its `str()`. -/
inductive Block where
  | dict (text : Option String)
  | str (text : String)
  | other (printed : String)
  deriving DecidableEq

/-- The content of a message; a missing one is the empty text. -/
inductive Content where
  | text (text : String)
  | blocks (blocks : List Block)
  | other (printed : String)
  deriving DecidableEq

/-- A message. -/
structure Message where
  role : Option String
  content : Content
  deriving DecidableEq

namespace Block

/-- The characters `estimate_chars` counts in a block. -/
def chars : Block → Nat
  | dict text => (text.getD "").length
  | str text => text.length
  | other _ => 0

def shown : Block → String
  | dict text => text.getD ""
  | str text => text
  | other printed => printed

end Block

def estimateChars (message : Message) : Nat :=
  match message.content with
  | .text text => text.length
  | .blocks blocks => (blocks.map Block.chars).sum
  | .other printed => printed.length

/-- `content_str` of `_minimal_summary`. -/
def contentStr (message : Message) : String :=
  let text :=
    match message.content with
    | .text text => text
    | .blocks blocks => String.intercalate " " (blocks.map Block.shown)
    | .other printed => printed
  Text.slice text 500

/-! ## Summaries -/

structure StructuredSummary where
  goal : String
  progress : String
  decisions : String
  modifiedFiles : List String
  nextSteps : String
  compressedAt : String
  sourceMessageCount : Nat
  tenantId : String

namespace StructuredSummary

/-- `__post_init__`. -/
def checked (posture : Posture) (summary : StructuredSummary) : Except String StructuredSummary :=
  if posture.isStrict ∧ summary.tenantId = "" then
    .error "StructuredSummary.tenant_id required under research/prod posture"
  else .ok summary

def toContextBlock (summary : StructuredSummary) : String :=
  let files :=
    if summary.modifiedFiles.isEmpty then "  (none)"
    else String.intercalate "\n" (summary.modifiedFiles.map fun file => s!"  {file}")
  s!"[CONTEXT COMPACTION - {summary.compressedAt}]\n" ++ s!"Goal: {summary.goal}\n" ++
    s!"Progress: {summary.progress}\n" ++
    s!"Decisions: {summary.decisions}\n" ++
    s!"Modified files:\n{files}\n" ++
    s!"Next steps: {summary.nextSteps}\n" ++
    s!"[END COMPACTION - compressed from {summary.sourceMessageCount} messages]"

def mergedFiles : List String → List String → List String
  | files, [] => files
  | files, file :: rest => mergedFiles (if file ∈ files then files else files ++ [file]) rest

/-- `merge`; the result has no tenant. -/
def merge (posture : Posture) (older newer : StructuredSummary) : Except String StructuredSummary :=
  checked posture
    { goal := older.goal
      progress := s!"Previous: {older.progress}\nNew: {newer.progress}"
      decisions :=
        if newer.decisions = "" then older.decisions else s!"{older.decisions}\n{newer.decisions}"
      modifiedFiles := mergedFiles older.modifiedFiles newer.modifiedFiles
      nextSteps := newer.nextSteps
      compressedAt := newer.compressedAt
      sourceMessageCount := older.sourceMessageCount + newer.sourceMessageCount
      tenantId := "" }

theorem mem_mergedFiles {files newer : List String} {file : String} :
    file ∈ mergedFiles files newer ↔ file ∈ files ∨ file ∈ newer := by
  induction newer generalizing files with
  | nil => simp [mergedFiles]
  | cons other rest ih =>
    rw [mergedFiles, ih, mem_cons]
    split
    · rename_i hmem
      constructor
      · rintro (hfile | hfile)
        · exact .inl hfile
        · exact .inr (.inr hfile)
      · rintro (hfile | rfl | hfile)
        · exact .inl hfile
        · exact .inl hmem
        · exact .inr hfile
    · rw [mem_append, mem_singleton, or_assoc]

theorem nodup_mergedFiles {files : List String} (h : files.Nodup) (newer : List String) :
    (mergedFiles files newer).Nodup := by
  induction newer generalizing files with
  | nil => exact h
  | cons other rest ih =>
    rw [mergedFiles]
    refine ih ?_
    split
    · exact h
    · rename_i hnew
      refine List.nodup_append.mpr ⟨h, nodup_singleton other, ?_⟩
      rintro file hfile _ hother rfl
      exact hnew (mem_singleton.mp hother ▸ hfile)

end StructuredSummary

/-! ## The cut -/

structure CompressionSection (α : Type) where
  head : List α
  middle : List α
  tail : List α

/-- The part of `StructuredCompressorConfig` that decides the cut. -/
structure CompressorConfig where
  headCount : Nat
  tailTokenBudget : Int

section Cut

variable {α : Type} (config : CompressorConfig) (read : α → Message)

/-- The tail that is built from the end, message after message, while it fits. -/
def tailFrom (tail : List α) (chars : Nat) : List α → List α
  | [] => tail
  | entry :: before =>
    let needed := chars + estimateChars (read entry)
    if config.tailTokenBudget < needed then tail
    else tailFrom (entry :: tail) needed before

def partition (messages : List α) : CompressionSection α :=
  if messages.length ≤ config.headCount then ⟨messages, [], []⟩
  else
    let remaining := messages.drop config.headCount
    let tail := tailFrom config read [] 0 remaining.reverse
    ⟨messages.take config.headCount, remaining.take (remaining.length - tail.length), tail⟩

theorem tailFrom_eq (before tail : List α) (chars : Nat) : ∃ count ≤ before.length,
      tailFrom config read tail chars before = (before.take count).reverse ++ tail := by
  induction before generalizing tail chars with
  | nil => exact ⟨0, Nat.le_refl 0, rfl⟩
  | cons entry before ih =>
    rw [tailFrom]
    split
    · exact ⟨0, Nat.zero_le _, rfl⟩
    · obtain ⟨count, hcount, htail⟩ := ih (entry :: tail) (chars + estimateChars (read entry))
      refine ⟨count + 1, Nat.succ_le_succ hcount, ?_⟩
      rw [htail, take_succ_cons, reverse_cons, append_assoc]
      rfl

theorem partition_eq (messages : List α) : ∃ cut ≤ messages.length - config.headCount,
    partition config read messages = ⟨messages.take config.headCount,
      (messages.drop config.headCount).take cut, (messages.drop config.headCount).drop cut⟩ := by
  rw [partition]
  split
  · rename_i hshort
    refine ⟨0, Nat.zero_le _, ?_⟩
    rw [take_of_length_le hshort, drop_of_length_le hshort]
    rfl
  · obtain ⟨count, hcount, htail⟩ :=
      tailFrom_eq config read (messages.drop config.headCount).reverse [] 0
    rw [length_reverse, length_drop] at hcount
    rw [append_nil, take_reverse, reverse_reverse, length_drop] at htail
    dsimp only
    refine ⟨messages.length - config.headCount - count, Nat.sub_le _ _, ?_⟩
    rw [htail, length_drop, length_drop, length_drop, Nat.sub_sub_self (Nat.sub_le _ count)]

end Cut

/-! ## The compressor -/

/-- Why `json.loads` raises. -/
inductive LoadFault where
  | decode
  | other

/-- What Python makes of the texts of a reply: `json.loads`, and `repr` of a value. -/
structure ReplyText where
  loads : String → Except LoadFault PyValue
  repr : PyValue → Except Raised String

def minimalSummary (posture : Posture) (now : String) (messages : List Message) :
    Except String StructuredSummary :=
  let goal := messages.foldl
    (fun goal message =>
      if message.role = some "user" ∧ goal = "" then contentStr message else goal) ""
  let parts := (messages.filter fun message => message.role == some "assistant").map contentStr
  let progress := String.intercalate "; " (parts.take 3)
  StructuredSummary.checked posture
    { goal := if goal = "" then "(goal_unknown)" else goal
      progress := if progress = "" then "(no_progress_recorded)" else progress
      decisions := "(no_decisions_recorded)"
      modifiedFiles := []
      nextSteps := "(pending_confirmation)"
      compressedAt := now
      sourceMessageCount := messages.length
      tenantId := "" }

/-- The lines inside the first pair of fences. -/
def fenced : List String → List String
  | [] => []
  | line :: rest =>
    if Text.startsWith "```" line then
      rest.takeWhile fun line => !Text.startsWith "```" line
    else fenced rest

def replyText (content : String) : String :=
  let text := Text.strip content
  if Text.startsWith "```" text then Text.joinLines (fenced (Text.splitlines text)) else text

/-- The document in a reply, if one is found. -/
def replyData (python : ReplyText) (content : String) : Option PyValue :=
  let text := replyText content
  match python.loads text with
  | .ok data => some data
  | .error .other => none
  | .error .decode =>
    match Text.between '{' '}' text with
    | none => none
    | some object => (python.loads object).toOption

def filesOf (python : ReplyText) : PyValue → Except Raised (List String)
  | .list files => files.mapM fun file => file.print python.repr
  | _ => .ok []

/-- The summary a document describes; it raises where the document is no dict. -/
def summaryOfData (python : ReplyText) (now : String) (count : Nat) :
    PyValue → Except Raised StructuredSummary
  | .dict fields => do
      let print (value : PyValue) : Except Raised String := value.print python.repr
      let goal ← print (PyDict.get fields "goal" (.str ""))
      let progress ← print (PyDict.get fields "progress" (.str ""))
      let decisions ← print (PyDict.get fields "decisions" (.str ""))
      let files ← filesOf python (PyDict.get fields "modified_files" (.list []))
      let nextSteps ← print (PyDict.get fields "next_steps" (.str ""))
      pure ⟨goal, progress, decisions, files, nextSteps, now, count, ""⟩
  | _ => .error .typeError

/-- `_call_llm_for_summary`: the summary in the reply of the model, or the one without it
where the call raises or the reply cannot be read. -/
def callLlmForSummary (python : ReplyText) (posture : Posture) (reply : Option String)
    (now : String) (middle : List Message) : Except String StructuredSummary :=
  match reply.bind (replyData python) with
  | none => minimalSummary posture now middle
  | some data =>
    match summaryOfData python now middle.length data with
    | .error _ => minimalSummary posture now middle
    | .ok summary =>
      match summary.checked posture with
      | .error _ => minimalSummary posture now middle
      | .ok summary => .ok summary

section Compress

variable {α : Type} (python : ReplyText) (posture : Posture) (config : CompressorConfig)
  (read : α → Message) (wrap : Message → α)

/-- The summary of one cycle, before it is merged. -/
def cycleSummary (messages : List α) (reply : Option String) (now : String) :
    Except String StructuredSummary :=
  let cut := partition config read messages
  if cut.middle.isEmpty then minimalSummary posture now (messages.map read)
  else callLlmForSummary python posture reply now (cut.middle.map read)

/-- The summary of a cycle merged into the one before it. -/
def mergeInto (existing : Option StructuredSummary) (summary : StructuredSummary) :
    Except String StructuredSummary :=
  match existing with
  | none => .ok summary
  | some existing => existing.merge posture summary

def injectionMessage (summary : StructuredSummary) : Message :=
  ⟨some "system", .text summary.toContextBlock⟩

def compress (messages : List α) (existing : Option StructuredSummary) (reply : Option String)
    (now : String) : Except String (List α × StructuredSummary) := do
  let summary ← cycleSummary python posture config read messages reply now
  let summary ← mergeInto posture existing summary
  let cut := partition config read messages
  if cut.middle.isEmpty then pure (messages, summary)
  else pure (wrap (injectionMessage summary) :: cut.head ++ cut.tail, summary)

end Compress

/-- A message of the conversation with its number, or one that was injected. -/
inductive Entry where
  | original (number : Nat) (message : Message)
  | injected (message : Message)

namespace Entry

def message : Entry → Message
  | original _ message => message
  | injected message => message

def number : Entry → Option Nat
  | original number _ => some number
  | injected _ => none

end Entry

/-- A conversation, its compressed form and the summary returned last. Beside them: the
entries handed to a summarisation, the entries in the list of a cycle that had nothing to
compress, the goal of the first summary, the files of all cycles, and the next steps of the
last cycle that summarised something. -/
structure CompressionDesk where
  originals : List Message
  messages : List Entry
  summary : Option StructuredSummary
  handed : List (Option Nat)
  idle : List (Option Nat)
  firstGoal : Option String
  files : List String
  lastNextSteps : Option String

/-- A cycle: the messages added before it, the reply of the model, the time. -/
structure CompressionCycle where
  added : List Message
  reply : Option String
  now : String

namespace CompressionDesk

variable (python : ReplyText) (posture : Posture) (config : CompressorConfig)
  (desk : CompressionDesk)

def start : CompressionDesk := ⟨[], [], none, [], [], none, [], none⟩

/-- Messages with their numbers, from `first` on. -/
def numbered : Nat → List Message → List Entry
  | _, [] => []
  | first, message :: rest => .original first message :: numbered (first + 1) rest

def given (cycle : CompressionCycle) : List Entry :=
  desk.messages ++ numbered desk.originals.length cycle.added

def cut (cycle : CompressionCycle) : CompressionSection Entry :=
  partition config Entry.message (desk.given cycle)

def fresh (cycle : CompressionCycle) : Except String StructuredSummary :=
  cycleSummary python posture config Entry.message (desk.given cycle) cycle.reply cycle.now

/-- One cycle; where `compress` raises, the caller keeps its list and its summary. -/
def step (desk : CompressionDesk) (cycle : CompressionCycle) : CompressionDesk :=
  let originals := desk.originals ++ cycle.added
  match compress python posture config Entry.message Entry.injected (desk.given cycle)
      desk.summary cycle.reply cycle.now, desk.fresh python posture config cycle with
  | .ok (messages, summary), .ok own =>
    let middle := (desk.cut config cycle).middle.map Entry.number
    { originals := originals
      messages := messages
      summary := some summary
      handed := desk.handed ++ middle
      idle := if middle.isEmpty then desk.idle ++ (desk.given cycle).map Entry.number else desk.idle
      firstGoal := some (desk.firstGoal.getD own.goal)
      files := desk.files ++ own.modifiedFiles
      lastNextSteps := if middle.isEmpty then desk.lastNextSteps else some own.nextSteps }
  | _, _ => { desk with originals := originals, messages := desk.given cycle }

/-- The entries counted in `source_message_count`. -/
def counted : List (Option Nat) := desk.handed ++ desk.idle

/-- What repeated compression is to keep. -/
structure Law : Prop where
  head : ∀ number message, number < config.headCount → desk.originals[number]? = some message →
    .original number message ∈ desk.messages
  placed : ∀ number message, config.headCount ≤ number → desk.originals[number]? = some message →
    .original number message ∈ desk.messages ∨
      desk.handed.count (some number) = 1 ∧ desk.counted.count (some number) = 1
  count : ∀ summary ∈ desk.summary, summary.sourceMessageCount = desk.counted.length
  goal : ∀ summary ∈ desk.summary, some summary.goal = desk.firstGoal
  files : ∀ summary ∈ desk.summary, summary.modifiedFiles.Nodup ∧
    ∀ file, file ∈ summary.modifiedFiles ↔ file ∈ desk.files
  nextSteps : ∀ summary ∈ desk.summary, ∀ steps ∈ desk.lastNextSteps, summary.nextSteps = steps

/-- Where there is nothing to compress, no cycle has summarised anything, or its next steps
are those of the placeholder. Where there is, no cycle has summarised anything or no head
is protected; no message to be summarised was in the list of a cycle that had nothing to
compress; and the first summary names no file twice. -/
def Meets (cycle : CompressionCycle) : Prop :=
  ∀ own, desk.fresh python posture config cycle = .ok own →
    if (desk.cut config cycle).middle = [] then
      ∀ steps ∈ desk.lastNextSteps, steps = "(pending_confirmation)"
    else
      (desk.lastNextSteps = none ∨ config.headCount = 0) ∧
        (∀ entry ∈ (desk.cut config cycle).middle, ∀ number ∈ entry.number,
          some number ∉ desk.idle) ∧
        (desk.summary = none → own.modifiedFiles.Nodup)

/-! ## Numbered messages -/

@[simp] theorem length_numbered (first : Nat) (messages : List Message) :
    (numbered first messages).length = messages.length := by
  induction messages generalizing first with
  | nil => rfl
  | cons message rest ih => rw [numbered, length_cons, length_cons, ih]

theorem numbered_append (first : Nat) (front behind : List Message) :
    numbered first (front ++ behind) =
      numbered first front ++ numbered (first + front.length) behind := by
  induction front generalizing first with
  | nil => rfl
  | cons message rest ih =>
    rw [cons_append, numbered, numbered, ih, cons_append, length_cons,
      Nat.add_assoc, Nat.add_comm 1]

theorem take_numbered (count first : Nat) (messages : List Message) :
    (numbered first messages).take count = numbered first (messages.take count) := by
  induction messages generalizing count first with
  | nil => rw [numbered, take_nil, take_nil, numbered]
  | cons message rest ih =>
    cases count with
    | zero => rfl
    | succ count => rw [numbered, take_succ_cons, take_succ_cons, numbered, ih]

theorem drop_numbered (count first : Nat) (messages : List Message) :
    (numbered first messages).drop count = numbered (first + count) (messages.drop count) := by
  induction messages generalizing count first with
  | nil => rw [numbered, drop_nil, drop_nil, numbered]
  | cons message rest ih =>
    cases count with
    | zero => rfl
    | succ count =>
      rw [numbered, drop_succ_cons, drop_succ_cons, ih, Nat.add_assoc, Nat.add_comm 1]

theorem mem_numbered {first number : Nat} {message : Message} {messages : List Message} :
    .original number message ∈ numbered first messages ↔
      first ≤ number ∧ messages[number - first]? = some message := by
  induction messages generalizing first with
  | nil => simp [numbered]
  | cons other rest ih =>
    rw [numbered, mem_cons, ih]
    rcases Nat.lt_trichotomy number first with hlt | rfl | hgt
    · have hno : ¬ first ≤ number := by omega
      have hno' : ¬ first + 1 ≤ number := by omega
      simp [hno, hno', Nat.ne_of_lt hlt]
    · simp [eq_comm]
    · have hsub : number - first = number - (first + 1) + 1 := by omega
      have hle : first ≤ number := by omega
      have hle' : first + 1 ≤ number := by omega
      simp [hsub, hle, hle', Nat.ne_of_gt hgt]

theorem count_numbered (first number : Nat) (messages : List Message) :
    ((numbered first messages).map Entry.number).count (some number) =
      if first ≤ number ∧ number < first + messages.length then 1 else 0 := by
  induction messages generalizing first with
  | nil =>
    rw [if_neg (by rw [length_nil]; omega)]
    rfl
  | cons message rest ih =>
    rw [numbered, map_cons, count_cons, ih, Entry.number, length_cons]
    have hsame : (some first == some number) = decide (first = number) := rfl
    rw [hsame]
    rcases Nat.lt_trichotomy number first with hlt | rfl | hgt
    · rw [if_neg (by omega), if_neg (by rw [decide_eq_true_eq]; omega), if_neg (by omega)]
    · rw [if_neg (by omega), if_pos (by rw [decide_eq_true_eq]), if_pos (by omega)]
    · rw [if_neg (c := decide (first = number) = true) (by rw [decide_eq_true_eq]; omega),
        Nat.add_zero]
      exact if_congr (by omega) rfl rfl

/-! ## What one cycle computes -/

section Summaries

variable {python posture}

theorem isStrict_of_checked {summary checked : StructuredSummary} (htenant : summary.tenantId = "")
    (h : summary.checked posture = .ok checked) : posture.isStrict = false ∧ checked = summary := by
  rw [StructuredSummary.checked] at h
  split at h
  · cases h
  · rename_i hstrict
    rw [htenant, eq_self, and_true, Bool.not_eq_true] at hstrict
    exact ⟨hstrict, (Except.ok.inj h).symm⟩

theorem checked_of_not_strict (h : posture.isStrict = false) (summary : StructuredSummary) :
    summary.checked posture = .ok summary := by
  rw [StructuredSummary.checked, if_neg]
  rintro ⟨hstrict, -⟩
  rw [h] at hstrict
  cases hstrict

variable {own : StructuredSummary}

theorem minimalSummary_eq_ok {now : String} {messages : List Message}
    (h : minimalSummary posture now messages = .ok own) :
    posture.isStrict = false ∧ own.modifiedFiles = [] ∧
      own.nextSteps = "(pending_confirmation)" ∧ own.sourceMessageCount = messages.length := by
  rw [minimalSummary] at h
  obtain ⟨hstrict, rfl⟩ := isStrict_of_checked rfl h
  exact ⟨hstrict, rfl, rfl, rfl⟩

theorem summaryOfData_eq_ok {now : String} {count : Nat} {data : PyValue}
    (h : summaryOfData python now count data = .ok own) :
    own.sourceMessageCount = count ∧ own.tenantId = "" := by
  cases data with
  | dict fields =>
    rw [summaryOfData] at h
    obtain ⟨goal, -, h⟩ := bind_eq_ok_iff.mp h
    obtain ⟨progress, -, h⟩ := bind_eq_ok_iff.mp h
    obtain ⟨decisions, -, h⟩ := bind_eq_ok_iff.mp h
    obtain ⟨files, -, h⟩ := bind_eq_ok_iff.mp h
    obtain ⟨nextSteps, -, h⟩ := bind_eq_ok_iff.mp h
    rw [← Except.ok.inj h]
    exact ⟨rfl, rfl⟩
  | _ => cases h

theorem callLlmForSummary_eq_ok {reply : Option String} {now : String} {middle : List Message}
    (h : callLlmForSummary python posture reply now middle = .ok own) :
    posture.isStrict = false ∧ own.sourceMessageCount = middle.length := by
  have hminimal : minimalSummary posture now middle = .ok own →
      posture.isStrict = false ∧ own.sourceMessageCount = middle.length := fun h =>
    ⟨(minimalSummary_eq_ok h).1, (minimalSummary_eq_ok h).2.2.2⟩
  rw [callLlmForSummary] at h
  split at h
  · exact hminimal h
  · split at h
    · exact hminimal h
    · rename_i summary hsummary
      obtain ⟨hcount, htenant⟩ := summaryOfData_eq_ok hsummary
      split at h
      · exact hminimal h
      · rename_i checked hchecked
        obtain ⟨hstrict, rfl⟩ := isStrict_of_checked htenant hchecked
        obtain rfl := Except.ok.inj h
        exact ⟨hstrict, hcount⟩

theorem fresh_eq_ok {config : CompressorConfig} {desk : CompressionDesk} {cycle : CompressionCycle}
    (h : desk.fresh python posture config cycle = .ok own) :
    posture.isStrict = false ∧ (((desk.cut config cycle).middle = [] ∧ own.modifiedFiles = [] ∧
          own.nextSteps = "(pending_confirmation)" ∧
          own.sourceMessageCount = (desk.given cycle).length) ∨
        ((desk.cut config cycle).middle ≠ [] ∧
          own.sourceMessageCount = (desk.cut config cycle).middle.length)) := by
  change (if (desk.cut config cycle).middle.isEmpty then
    minimalSummary posture cycle.now ((desk.given cycle).map Entry.message)
    else callLlmForSummary python posture cycle.reply cycle.now
      ((desk.cut config cycle).middle.map Entry.message)) = .ok own at h
  split at h
  · rename_i hempty
    obtain ⟨hstrict, hfiles, hsteps, hcount⟩ := minimalSummary_eq_ok h
    rw [length_map] at hcount
    exact ⟨hstrict, .inl ⟨List.isEmpty_iff.mp hempty, hfiles, hsteps, hcount⟩⟩
  · rename_i hmiddle
    obtain ⟨hstrict, hcount⟩ := callLlmForSummary_eq_ok h
    rw [length_map] at hcount
    exact ⟨hstrict, .inr ⟨fun hempty => hmiddle (List.isEmpty_iff.mpr hempty), hcount⟩⟩

/-- What a merge takes over from the summary before it and from the new one. -/
structure Merges (existing : Option StructuredSummary) (own summary : StructuredSummary) :
    Prop where
  files : summary.modifiedFiles = match existing with
    | none => own.modifiedFiles
    | some older => StructuredSummary.mergedFiles older.modifiedFiles own.modifiedFiles
  goal : summary.goal = (existing.map StructuredSummary.goal).getD own.goal
  nextSteps : summary.nextSteps = own.nextSteps
  count : summary.sourceMessageCount =
    (existing.map StructuredSummary.sourceMessageCount).getD 0 + own.sourceMessageCount

theorem merges_mergeInto (h : posture.isStrict = false) (existing : Option StructuredSummary)
    (own : StructuredSummary) :
    ∃ summary, mergeInto posture existing own = .ok summary ∧ Merges existing own summary := by
  cases existing with
  | none => exact ⟨own, rfl, rfl, rfl, rfl, (Nat.zero_add _).symm⟩
  | some older => exact ⟨_, checked_of_not_strict h _, rfl, rfl, rfl, rfl⟩

end Summaries

/-! ## Where the messages are -/

/-- Either nothing was summarised yet and the list is the whole conversation, or the
messages between the head and `kept` were handed over, each once. -/
inductive Shape (headCount : Nat) (originals : List Message) :
    List Entry → List (Option Nat) → Option String → Prop
  | whole : Shape headCount originals (numbered 0 originals) [] none
  | cut (summary : Message) (kept : Nat) (handed : List (Option Nat)) (steps : String)
      (hhead : headCount ≤ kept) (hkept : kept ≤ originals.length)
      (hhanded : ∀ number,
        handed.count (some number) = if headCount ≤ number ∧ number < kept then 1 else 0) :
      Shape headCount originals
        (.injected summary ::
          (numbered 0 (originals.take headCount) ++ numbered kept (originals.drop kept)))
        handed (some steps)

namespace Shape

variable {headCount : Nat} {originals : List Message} {messages : List Entry}
  {handed : List (Option Nat)} {steps : Option String}

section

variable (h : Shape headCount originals messages handed steps)
include h

theorem count_le (number : Nat) :
    handed.count (some number) ≤ 1 ∧ (handed.count (some number) = 1 → headCount ≤ number) := by
  cases h with
  | whole => exact ⟨Nat.zero_le 1, fun hcount => absurd hcount Nat.zero_ne_one⟩
  | cut summary kept handed steps hhead hkept hhanded =>
    rw [hhanded]
    split
    · rename_i hbetween
      exact ⟨Nat.le_refl 1, fun _ => hbetween.1⟩
    · exact ⟨Nat.zero_le 1, fun hcount => absurd hcount Nat.zero_ne_one⟩

theorem mem_iff {number : Nat} {message : Message} : .original number message ∈ messages ↔
      originals[number]? = some message ∧ handed.count (some number) = 0 := by
  cases h with
  | whole =>
    rw [mem_numbered, Nat.sub_zero]
    exact ⟨fun h => ⟨h.2, rfl⟩, fun h => ⟨Nat.zero_le _, h.1⟩⟩
  | cut summary kept handed steps hhead hkept hhanded =>
    rw [mem_cons, mem_append, mem_numbered, mem_numbered, hhanded, Nat.sub_zero,
      getElem?_take, getElem?_drop]
    by_cases hbetween : headCount ≤ number ∧ number < kept
    · rw [if_pos hbetween, if_neg (by omega)]
      refine iff_of_false ?_ fun h => absurd h.2 Nat.one_ne_zero
      rintro (h | ⟨-, h⟩ | ⟨hle, -⟩)
      · cases h
      · cases h
      · exact absurd hle (by omega)
    · rw [if_neg hbetween]
      constructor
      · rintro (h | ⟨-, h⟩ | ⟨hle, h⟩)
        · cases h
        · split at h
          · exact ⟨h, rfl⟩
          · cases h
        · rw [show kept + (number - kept) = number by omega] at h
          exact ⟨h, rfl⟩
      · rintro ⟨h, -⟩
        by_cases hfront : number < headCount
        · exact .inr (.inl ⟨Nat.zero_le _, by rwa [if_pos hfront]⟩)
        · refine .inr (.inr ⟨by omega, ?_⟩)
          rwa [show kept + (number - kept) = number by omega]

theorem extend (added : List Message) :
    Shape headCount (originals ++ added) (messages ++ numbered originals.length added) handed
      steps := by
  cases h with
  | whole =>
    rw [← Nat.zero_add originals.length, ← numbered_append]
    exact .whole
  | cut summary kept handed steps hhead hkept hhanded =>
    have hlength : kept ≤ (originals ++ added).length := by
      rw [length_append]
      omega
    have hshape := cut summary kept handed steps hhead hlength hhanded
    rw [take_append_of_le_length (by omega), drop_append_of_le_length hkept,
      numbered_append kept, length_drop, Nat.add_sub_cancel' hkept] at hshape
    rwa [cons_append, append_assoc]

theorem summarise (hfirst : steps = none ∨ headCount = 0) {count : Nat}
    (hcount : count ≤ messages.length - headCount)
    (hmiddle : (messages.drop headCount).take count ≠ []) (summary : Message) (next : String) :
    Shape headCount originals
      (.injected summary :: messages.take headCount ++ (messages.drop headCount).drop count)
      (handed ++ ((messages.drop headCount).take count).map Entry.number) (some next) := by
  cases h with
  | whole =>
    rw [length_numbered] at hcount
    have hpos : 0 < count := by
      refine Nat.pos_of_ne_zero fun hzero => hmiddle ?_
      rw [hzero, take_zero]
    rw [take_numbered, drop_numbered, drop_numbered, take_numbered, drop_drop, Nat.zero_add]
    refine .cut summary (headCount + count) _ next (Nat.le_add_right _ _) (by omega) ?_
    intro number
    rw [nil_append, count_numbered, length_take, length_drop]
    exact if_congr (by omega) rfl rfl
  | cut first kept handed steps hhead hkept hhanded =>
    obtain rfl : headCount = 0 := hfirst.resolve_left (Option.some_ne_none steps)
    simp only [take_zero, drop_zero, numbered, nil_append] at hmiddle hcount ⊢
    cases count with
    | zero => exact absurd rfl hmiddle
    | succ count =>
      rw [length_cons, length_numbered, length_drop] at hcount
      rw [drop_succ_cons, take_succ_cons, drop_numbered, take_numbered, drop_drop, map_cons]
      have hlength : kept + count ≤ originals.length := by omega
      have hshape := cut summary (kept + count)
        (handed ++ (Entry.injected first).number ::
          (numbered kept ((originals.drop kept).take count)).map Entry.number) next
        (Nat.zero_le _) hlength (fun number => ?_)
      · rw [take_zero] at hshape
        exact hshape
      · have hother : (Entry.injected first).number ≠ some number := fun h => by cases h
        rw [count_append, count_cons_of_ne hother, hhanded, count_numbered,
          length_take, length_drop]
        split <;> split <;> split <;> omega

theorem not_mem_summarised (hsteps : steps.isSome) (hpos : 0 < headCount) {count : Nat}
    (hmiddle : (messages.drop headCount).take count ≠ []) (summary message : Message) :
    .original (headCount - 1) message ∉
      .injected summary :: messages.take headCount ++ (messages.drop headCount).drop count := by
  cases h with
  | whole => cases hsteps
  | cut first kept handed steps hhead hkept hhanded =>
    obtain ⟨head, rfl⟩ : ∃ head, headCount = head + 1 := ⟨headCount - 1, by omega⟩
    obtain ⟨count, rfl⟩ : ∃ rest, count = rest + 1 := by
      refine ⟨count - 1, ?_⟩
      have hne : count ≠ 0 := fun hzero => hmiddle (by rw [hzero, take_zero])
      omega
    have hlength : (numbered 0 (originals.take (head + 1))).length = head + 1 := by
      rw [length_numbered, length_take, Nat.min_eq_left (hhead.trans hkept)]
    rw [Nat.add_sub_cancel, take_succ_cons, drop_succ_cons, drop_drop,
      take_append_of_le_length (by omega), take_numbered, take_take,
      Nat.min_eq_left (Nat.le_succ head), drop_append,
      drop_of_length_le (by omega), nil_append, drop_numbered]
    rw [cons_append, mem_cons, mem_append, mem_cons, mem_numbered,
      mem_numbered, Nat.sub_zero, getElem?_take, if_neg (Nat.lt_irrefl head)]
    rintro (h | (h | ⟨-, h⟩) | ⟨hle, -⟩)
    · cases h
    · cases h
    · cases h
    · omega

end

end Shape

/-! ## One cycle -/

section Step

variable {python posture config desk} {cycle : CompressionCycle}

theorem step_of_error {error : String} (h : desk.fresh python posture config cycle = .error error) :
    step python posture config desk cycle =
      { desk with originals := desk.originals ++ cycle.added, messages := desk.given cycle } := by
  rw [step, h]
  dsimp only
  split
  · rename_i hown
    cases hown
  · rfl

theorem step_of_ok {own summary : StructuredSummary}
    (hfresh : desk.fresh python posture config cycle = .ok own)
    (hmerge : mergeInto posture desk.summary own = .ok summary) :
    step python posture config desk cycle = if (desk.cut config cycle).middle = [] then { desk with
          originals := desk.originals ++ cycle.added
          messages := desk.given cycle
          summary := some summary
          idle := desk.idle ++ (desk.given cycle).map Entry.number
          firstGoal := some (desk.firstGoal.getD own.goal)
          files := desk.files ++ own.modifiedFiles }
      else
        { desk with
          originals := desk.originals ++ cycle.added
          messages := .injected (injectionMessage summary) :: (desk.cut config cycle).head ++
            (desk.cut config cycle).tail
          summary := some summary
          handed := desk.handed ++ (desk.cut config cycle).middle.map Entry.number
          firstGoal := some (desk.firstGoal.getD own.goal)
          files := desk.files ++ own.modifiedFiles
          lastNextSteps := some own.nextSteps } := by
  have hcompress : compress python posture config Entry.message Entry.injected (desk.given cycle)
      desk.summary cycle.reply cycle.now =
      if (desk.cut config cycle).middle.isEmpty then .ok (desk.given cycle, summary)
      else .ok (.injected (injectionMessage summary) :: (desk.cut config cycle).head ++
        (desk.cut config cycle).tail, summary) := by
    rw [compress]
    change ((desk.fresh python posture config cycle).bind fun summary =>
      (mergeInto posture desk.summary summary).bind fun summary => _) = _
    rw [hfresh]
    change (mergeInto posture desk.summary own).bind _ = _
    rw [hmerge]
    rfl
  rw [step, hfresh, hcompress]
  by_cases hmiddle : (desk.cut config cycle).middle = []
  · rw [if_pos hmiddle, hmiddle]
    simp
  · rw [if_neg hmiddle, if_neg (by rwa [List.isEmpty_iff])]
    dsimp only
    rw [if_neg (by rwa [List.isEmpty_iff, map_eq_nil_iff]),
      if_neg (by rwa [List.isEmpty_iff, map_eq_nil_iff])]

end Step

/-! ## The invariant -/

/-- The law, with where the messages are and which were counted. -/
structure Inv : Prop where
  shape : Shape config.headCount desk.originals desk.messages desk.handed desk.lastNextSteps
  apart : ∀ number, some number ∈ desk.handed → some number ∉ desk.idle
  blank : desk.summary = none →
    desk.handed = [] ∧ desk.idle = [] ∧ desk.files = [] ∧ desk.firstGoal = none
  count : ∀ summary ∈ desk.summary, summary.sourceMessageCount = desk.counted.length
  goal : ∀ summary ∈ desk.summary, some summary.goal = desk.firstGoal
  files : ∀ summary ∈ desk.summary, summary.modifiedFiles.Nodup ∧
    ∀ file, file ∈ summary.modifiedFiles ↔ file ∈ desk.files
  nextSteps : ∀ summary ∈ desk.summary, ∀ steps ∈ desk.lastNextSteps, summary.nextSteps = steps

variable {python posture config desk} {cycle : CompressionCycle}

theorem inv_start : Inv config start where
  shape := .whole
  apart _ h := absurd h not_mem_nil
  blank _ := ⟨rfl, rfl, rfl, rfl⟩
  count _ h := by cases h
  goal _ h := by cases h
  files _ h := by cases h
  nextSteps _ h := by cases h

theorem Inv.law (h : Inv config desk) : Law config desk :=
  { h with
    head number message hlt hmessage := by
      refine h.shape.mem_iff.mpr ⟨hmessage, ?_⟩
      obtain ⟨hle, hhead⟩ := h.shape.count_le number
      by_contra hcount
      have hone := hhead (by omega)
      omega
    placed number message _ hmessage := by
      obtain ⟨hle, -⟩ := h.shape.count_le number
      by_cases hcount : desk.handed.count (some number) = 0
      · exact .inl (h.shape.mem_iff.mpr ⟨hmessage, hcount⟩)
      · have hapart := h.apart number (count_pos_iff.mp (Nat.pos_of_ne_zero hcount))
        refine .inr ⟨by omega, ?_⟩
        rw [counted, count_append, count_eq_zero.mpr hapart]
        omega }

variable {own summary : StructuredSummary}

theorem Inv.goal_merged (h : Inv config desk) (hmerges : Merges desk.summary own summary) :
    some summary.goal = some (desk.firstGoal.getD own.goal) := by
  cases hsummary : desk.summary with
  | none =>
    rw [hmerges.goal, hsummary, (h.blank hsummary).2.2.2]
    rfl
  | some older =>
    rw [hmerges.goal, hsummary, ← h.goal older hsummary]
    rfl

theorem Inv.count_merged (h : Inv config desk) (hmerges : Merges desk.summary own summary) :
    summary.sourceMessageCount = desk.counted.length + own.sourceMessageCount := by
  cases hsummary : desk.summary with
  | none =>
    obtain ⟨hhanded, hidle, -⟩ := h.blank hsummary
    rw [hmerges.count, hsummary, counted, hhanded, hidle]
    rfl
  | some older =>
    rw [hmerges.count, hsummary, ← h.count older hsummary]
    rfl

theorem Inv.files_merged (h : Inv config desk) (hmerges : Merges desk.summary own summary)
    (hnew : desk.summary = none → own.modifiedFiles.Nodup) :
    summary.modifiedFiles.Nodup ∧
      ∀ file, file ∈ summary.modifiedFiles ↔ file ∈ desk.files ++ own.modifiedFiles := by
  have hfiles := hmerges.files
  cases hsummary : desk.summary with
  | none =>
    rw [hsummary] at hfiles
    rw [hfiles, (h.blank hsummary).2.2.1]
    exact ⟨hnew hsummary, fun file => Iff.rfl⟩
  | some older =>
    rw [hsummary] at hfiles
    obtain ⟨hnodup, hsame⟩ := h.files older hsummary
    rw [hfiles]
    refine ⟨StructuredSummary.nodup_mergedFiles hnodup _, fun file => ?_⟩
    rw [StructuredSummary.mem_mergedFiles, mem_append, hsame]

theorem Shape.not_mem_handed {headCount : Nat} {originals : List Message} {messages : List Entry}
    {handed : List (Option Nat)} {steps : Option String}
    (h : Shape headCount originals messages handed steps) {entry : Entry}
    (hentry : entry ∈ messages) {number : Nat} (hnumber : entry.number = some number) :
    some number ∉ handed := by
  cases entry with
  | injected message => cases hnumber
  | original other message =>
    obtain rfl := Option.some.inj hnumber
    exact count_eq_zero.mp (h.mem_iff.mp hentry).2

theorem Inv.idle (h : Inv config desk)
    (hfiles : own.modifiedFiles = []) (hcount : own.sourceMessageCount = (desk.given cycle).length)
    (hsteps : ∀ steps ∈ desk.lastNextSteps, own.nextSteps = steps)
    (hmerges : Merges desk.summary own summary) :
    Inv config
      { desk with
        originals := desk.originals ++ cycle.added
        messages := desk.given cycle
        summary := some summary
        idle := desk.idle ++ (desk.given cycle).map Entry.number
        firstGoal := some (desk.firstGoal.getD own.goal)
        files := desk.files ++ own.modifiedFiles } := by
  have hshape := h.shape.extend cycle.added
  refine ⟨hshape, ?_, fun hnone => absurd hnone (Option.some_ne_none _), ?_, ?_, ?_, ?_⟩
  · intro number hhanded hmem
    rcases mem_append.mp hmem with hold | hnew
    · exact h.apart number hhanded hold
    · obtain ⟨entry, hentry, hnumber⟩ := mem_map.mp hnew
      exact hshape.not_mem_handed hentry hnumber hhanded
  · rintro _ ⟨⟩
    rw [h.count_merged hmerges, hcount, counted, counted, length_append, length_append,
      length_append, length_map]
    exact Nat.add_assoc _ _ _
  · rintro _ ⟨⟩
    exact h.goal_merged hmerges
  · rintro _ ⟨⟩
    refine h.files_merged hmerges fun _ => ?_
    rw [hfiles]
    exact nodup_nil
  · rintro _ ⟨⟩ steps hlast
    rw [hmerges.nextSteps]
    exact hsteps steps hlast

theorem Inv.summarise (h : Inv config desk) (hmiddle : (desk.cut config cycle).middle ≠ [])
    (hcount : own.sourceMessageCount = (desk.cut config cycle).middle.length)
    (hfirst : desk.lastNextSteps = none ∨ config.headCount = 0)
    (hidle : ∀ entry ∈ (desk.cut config cycle).middle, ∀ number ∈ entry.number,
      some number ∉ desk.idle) (hnew : desk.summary = none → own.modifiedFiles.Nodup)
    (hmerges : Merges desk.summary own summary) :
    Inv config
      { desk with
        originals := desk.originals ++ cycle.added
        messages := .injected (injectionMessage summary) :: (desk.cut config cycle).head ++
          (desk.cut config cycle).tail
        summary := some summary
        handed := desk.handed ++ (desk.cut config cycle).middle.map Entry.number
        firstGoal := some (desk.firstGoal.getD own.goal)
        files := desk.files ++ own.modifiedFiles
        lastNextSteps := some own.nextSteps } := by
  obtain ⟨cut, hcut, hpartition⟩ := partition_eq config Entry.message (desk.given cycle)
  refine ⟨?_, ?_, fun hnone => absurd hnone (Option.some_ne_none _), ?_, ?_, ?_, ?_⟩
  · rw [CompressionDesk.cut, hpartition] at hmiddle ⊢
    exact (h.shape.extend cycle.added).summarise hfirst hcut hmiddle _ _
  · intro number hhanded
    rcases mem_append.mp hhanded with hold | hmem
    · exact h.apart number hold
    · obtain ⟨entry, hentry, hnumber⟩ := mem_map.mp hmem
      exact hidle entry hentry number hnumber
  · rintro _ ⟨⟩
    rw [h.count_merged hmerges, hcount, counted, counted, length_append, length_append,
      length_append, length_map]
    exact Nat.add_right_comm _ _ _
  · rintro _ ⟨⟩
    exact h.goal_merged hmerges
  · rintro _ ⟨⟩
    exact h.files_merged hmerges hnew
  · rintro _ ⟨⟩ _ ⟨⟩
    exact hmerges.nextSteps

/-- A step that meets the condition keeps the invariant. -/
theorem Inv.step (h : Inv config desk) (hmeets : Meets python posture config desk cycle) :
    Inv config (step python posture config desk cycle) := by
  cases hfresh : desk.fresh python posture config cycle with
  | error error =>
    rw [step_of_error hfresh]
    exact ⟨h.shape.extend cycle.added, h.apart, h.blank, h.count, h.goal, h.files, h.nextSteps⟩
  | ok own =>
    obtain ⟨hstrict, hown⟩ := fresh_eq_ok hfresh
    obtain ⟨summary, hmerge, hmerges⟩ := merges_mergeInto hstrict desk.summary own
    have hguard := hmeets own hfresh
    rw [step_of_ok hfresh hmerge]
    rcases hown with ⟨hmiddle, hfiles, hsteps, hcount⟩ | ⟨hmiddle, hcount⟩
    · rw [if_pos hmiddle] at hguard ⊢
      exact h.idle hfiles hcount (fun steps hlast => by rw [hsteps, hguard steps hlast]) hmerges
    · rw [if_neg hmiddle] at hguard ⊢
      exact h.summarise hmiddle hcount hguard.1 hguard.2.1 hguard.2.2 hmerges

/-! ## What the law asks -/

theorem Shape.exists_last_of_head {headCount : Nat} {originals : List Message}
    {messages : List Entry} {handed : List (Option Nat)} {steps : Option String}
    (h : Shape headCount originals messages handed steps) (hsteps : steps.isSome)
    (hpos : 0 < headCount) : ∃ message, originals[headCount - 1]? = some message := by
  cases h with
  | whole => cases hsteps
  | cut summary kept handed steps hhead hkept hhanded =>
    have hlt : headCount - 1 < originals.length := by omega
    exact ⟨originals[headCount - 1], getElem?_eq_getElem hlt⟩

theorem Inv.meets (h : Inv config desk)
    (hlaw : Law config (CompressionDesk.step python posture config desk cycle)) :
    Meets python posture config desk cycle := by
  intro own hfresh
  obtain ⟨hstrict, hown⟩ := fresh_eq_ok hfresh
  obtain ⟨summary, hmerge, hmerges⟩ := merges_mergeInto hstrict desk.summary own
  have hshape : Shape config.headCount (desk.originals ++ cycle.added) (desk.given cycle)
      desk.handed desk.lastNextSteps := h.shape.extend cycle.added
  rw [step_of_ok hfresh hmerge] at hlaw
  rcases hown with ⟨hmiddle, -, hsteps, -⟩ | ⟨hmiddle, -⟩
  · rw [if_pos hmiddle] at hlaw ⊢
    intro steps hlast
    rw [← hlaw.nextSteps summary rfl steps hlast, hmerges.nextSteps, hsteps]
  · rw [if_neg hmiddle] at hlaw ⊢
    obtain ⟨cut, hcut, hpartition⟩ := partition_eq config Entry.message (desk.given cycle)
    have hsection : desk.cut config cycle = _ := hpartition
    rw [hsection] at hlaw hmiddle ⊢
    have hfirst : desk.lastNextSteps = none ∨ config.headCount = 0 := by
      by_contra hlater
      rw [not_or] at hlater
      have hsome : desk.lastNextSteps.isSome := Option.isSome_iff_ne_none.mpr hlater.1
      have hpos : 0 < config.headCount := Nat.pos_of_ne_zero hlater.2
      obtain ⟨message, hmessage⟩ := hshape.exists_last_of_head hsome hpos
      exact hshape.not_mem_summarised hsome hpos hmiddle _ message
        (hlaw.head (config.headCount - 1) message (by omega) hmessage)
    refine ⟨hfirst, ?_, fun hnone => ?_⟩
    · intro entry hentry number hnumber hidle
      cases entry with
      | injected message => cases hnumber
      | original other message =>
        obtain rfl := Option.some.inj hnumber
        have hgiven := hshape.mem_iff.mp (mem_of_mem_drop (mem_of_mem_take hentry))
        have hnew := hshape.summarise hfirst hcut hmiddle (injectionMessage summary)
          own.nextSteps
        obtain ⟨hle, hhead⟩ := hnew.count_le other
        have hpos : 0 < (desk.handed ++ (((desk.given cycle).drop config.headCount).take cut).map
            Entry.number).count (some other) :=
          count_pos_iff.mpr
            (mem_append_right _ (mem_map.mpr ⟨_, hentry, rfl⟩))
        have hhanded : (desk.handed ++ (((desk.given cycle).drop config.headCount).take cut).map
            Entry.number).count (some other) = 1 := by omega
        rcases hlaw.placed other message (hhead hhanded) hgiven.1 with hkept | ⟨-, hcounted⟩
        · exact absurd (hnew.mem_iff.mp hkept).2 (by omega)
        · rw [counted, count_append] at hcounted
          have hidlePos : 0 < desk.idle.count (some other) := count_pos_iff.mpr hidle
          change List.count (some other) (desk.handed ++
            (((desk.given cycle).drop config.headCount).take cut).map Entry.number) +
              List.count (some other) desk.idle = 1 at hcounted
          omega
    · have hnodup := (hlaw.files summary rfl).1
      rw [hmerges.files, hnone] at hnodup
      exact hnodup

/-- The conversations in which repeated compression keeps what it promises are those whose
cycles all meet the condition. -/
theorem always_law_iff (cycles : List CompressionCycle) :
    Always (CompressionDesk.step python posture config) (Law config) start cycles ↔
      Along (CompressionDesk.step python posture config) (Meets python posture config) start
        cycles :=
  always_iff_along (fun _ _ hinv hmeets => hinv.step hmeets) (fun _ hinv => hinv.law)
    (fun _ _ hinv hlaw => hinv.meets hlaw) inv_start cycles

def noReplies : ReplyText := ⟨fun _ => .error .decode, fun _ => .error .typeError⟩

def headOnly : CompressorConfig := ⟨1, 0⟩

def ofUser (text : String) : Message := ⟨some "user", .text text⟩

def twoCycles : List CompressionCycle :=
  [⟨[ofUser "fix the build", ofUser "go on"], none, "12:00"⟩,
    ⟨[ofUser "and the tests"], none, "12:05"⟩]

/-- The second cycle takes the protected message for a middle one. -/
theorem not_always_law_twoCycles :
    ¬ Always (step noReplies .dev headOnly) (Law headOnly) start twoCycles := by
  intro h
  have hnumbers : (exec (step noReplies .dev headOnly) start twoCycles).messages.map Entry.number =
      [none, none] := by decide +kernel
  have hhead := h.last.head 0 (ofUser "fix the build") Nat.zero_lt_one (by decide +kernel)
  have hnumber := mem_map_of_mem (f := Entry.number) hhead
  rw [hnumbers] at hnumber
  exact absurd hnumber (by decide)

end CompressionDesk

end HiAgent.Memory
