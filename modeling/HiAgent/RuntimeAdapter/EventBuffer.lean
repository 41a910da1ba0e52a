/-
  RuntimeAdapter/EventBuffer.lean --- `hi_agent/runtime_adapter/event_buffer.py`.

  A flush holds the lock twice: to take the events out of the buffer and, when the target has
  raised, to put the rest of them back. Other threads append to the buffer in between.
-/
import HiAgent.Foundation.Deque
import HiAgent.Foundation.Machine

namespace HiAgent.RuntimeAdapter

open Foundation List

structure EventBuffer (ε : Type) where
  buffer : Deque ε
  maxSize_pos : 1 ≤ buffer.maxlen
  droppedCount : Nat

/-- A call of `flush` behind its first lock. -/
structure Flush (ε : Type) where
  snapshot : List ε
  flushed : Nat
  remaining : List ε

namespace Flush

variable {ε : Type} (flush : Flush ε)

def next : Option ε :=
  if flush.remaining.isEmpty then flush.snapshot[flush.flushed]? else none

/-- One turn of the loop: the event that was written, if one was. -/
def deliver (accepts : Bool) : Option ε × Flush ε :=
  match flush.next with
  | none => (none, flush)
  | some event =>
    if accepts then (some event, { flush with flushed := flush.flushed + 1 })
    else
      let remaining := [event]
      (none, { flush with
          remaining := remaining ++ flush.snapshot.drop (flush.flushed + remaining.length) })

/-- The loop, for a number of turns: the events that were written. -/
def deliverAll (accepts : Nat → Bool) : Nat → Flush ε → List ε × Flush ε
  | 0, flush => ([], flush)
  | turns + 1, flush =>
    let turn := flush.deliver (accepts flush.flushed)
    let rest := deliverAll accepts turns turn.2
    (turn.1.toList ++ rest.1, rest.2)

def pending : List ε :=
  if flush.remaining.isEmpty then flush.snapshot.drop flush.flushed else flush.remaining

end Flush

namespace EventBuffer

variable {ε : Type} (buffer : EventBuffer ε)

/-- `EventBuffer(max_size)`. -/
def new (maxSize : Nat) : Except String (EventBuffer ε) :=
  if h : maxSize < 1 then .error "max_size must be >= 1"
  else .ok ⟨.empty maxSize, Nat.le_of_not_lt h, 0⟩

def append (event : ε) : EventBuffer ε where
  buffer := buffer.buffer.append event
  maxSize_pos := buffer.maxSize_pos
  droppedCount :=
    let wasFull := buffer.buffer.items.length = buffer.buffer.maxlen
    if wasFull then buffer.droppedCount + 1 else buffer.droppedCount

/-- `flush`, the first lock. -/
def take : Flush ε × EventBuffer ε :=
  (⟨buffer.buffer.items, 0, []⟩, { buffer with buffer := buffer.buffer.clear })

/-- `flush`, the second lock. -/
def putBack (remaining : List ε) : EventBuffer ε where
  buffer := remaining.foldr (fun item buffer => buffer.appendleft item) buffer.buffer
  maxSize_pos := by
    rw [(Deque.items_foldr_appendleft _ _).2]
    exact buffer.maxSize_pos
  droppedCount := buffer.droppedCount

/-- `flush`, when nothing happens meanwhile: the events written, and the buffer. -/
def flush (accepts : Nat → Bool) : List ε × EventBuffer ε :=
  let taken := buffer.take
  let delivered := taken.1.deliverAll accepts taken.1.snapshot.length
  (delivered.1, taken.2.putBack delivered.2.remaining)

def events : List ε := buffer.buffer.items

end EventBuffer

/-! ## What the steps do -/

namespace Flush

variable {ε : Type} {flush : Flush ε}

theorem deliver_cases (flush : Flush ε) (accepts : Bool) :
    (flush.deliver accepts).1 = none ∧ (flush.deliver accepts).2.pending = flush.pending ∧
        (accepts = true → flush.next = none) ∨ ∃ event, flush.next = some event ∧ accepts = true ∧
        (flush.deliver accepts).1 = some event ∧
          flush.pending = event :: (flush.deliver accepts).2.pending := by
  unfold deliver
  cases hnext : flush.next with
  | none => exact .inl ⟨rfl, rfl, fun _ => rfl⟩
  | some event =>
    have hfirst : flush.remaining.isEmpty = true ∧ flush.snapshot[flush.flushed]? = some event := by
      rw [next] at hnext
      split at hnext
      · exact ⟨‹_›, hnext⟩
      · cases hnext
    have hpending : flush.pending = event :: flush.snapshot.drop (flush.flushed + 1) := by
      obtain ⟨hbound, hevent⟩ := List.getElem?_eq_some_iff.mp hfirst.2
      rw [pending, if_pos hfirst.1, drop_eq_getElem_cons hbound, hevent]
    cases accepts with
    | true =>
      refine .inr ⟨event, rfl, rfl, rfl, ?_⟩
      rw [hpending]
      simp [pending, hfirst.1]
    | false =>
      refine .inl ⟨rfl, ?_, fun h => absurd h Bool.false_ne_true⟩
      rw [hpending]
      simp [pending]

theorem deliverAll_split (accepts : Nat → Bool) (turns : Nat) (flush : Flush ε) : flush.pending =
      (flush.deliverAll accepts turns).1 ++ (flush.deliverAll accepts turns).2.pending := by
  induction turns generalizing flush with
  | zero => rfl
  | succ turns ih =>
    have hrest := ih (flush.deliver (accepts flush.flushed)).2
    rw [deliverAll]
    rcases flush.deliver_cases (accepts flush.flushed) with
    ⟨hnone, hsame, -⟩ | ⟨event, -, -, hsome, hcons⟩
    · rw [hnone, ← hsame]
      exact hrest
    · rw [hsome, hcons]
      exact congrArg (event :: ·) hrest

theorem pending_of_next_eq_none (h : flush.next = none) : flush.pending = flush.remaining := by
  rw [next] at h
  rw [pending]
  split at h
  · rename_i hempty
    rw [if_pos hempty, List.isEmpty_iff.mp hempty]
    exact drop_eq_nil_of_le (List.getElem?_eq_none_iff.mp h)
  · rename_i hempty
    rw [if_neg hempty]

theorem deliverAll_of_next_eq_none (h : flush.next = none) (accepts : Nat → Bool) (turns : Nat) :
    flush.deliverAll accepts turns = ([], flush) := by
  have hturn : ∀ accepts, flush.deliver accepts = (none, flush) := fun accepts => by
    rw [deliver, h]
  induction turns with
  | zero => rfl
  | succ turns ih =>
    rw [deliverAll, hturn, ih]
    rfl

theorem pending_deliverAll (accepts : Nat → Bool) {turns : Nat} {flush : Flush ε}
    (h : flush.pending.length ≤ turns) :
    (flush.deliverAll accepts turns).2.pending = (flush.deliverAll accepts turns).2.remaining := by
  induction turns generalizing flush with
  | zero =>
    have hnil : flush.pending = [] := length_eq_zero_iff.mp (Nat.le_zero.mp h)
    change flush.pending = flush.remaining
    rw [pending] at hnil ⊢
    split at hnil
    · rename_i hempty
      rw [if_pos hempty, hnil, List.isEmpty_iff.mp hempty]
    · rename_i hempty
      rw [if_neg hempty]
  | succ turns ih =>
    cases hnext : flush.next with
    | none =>
      rw [deliverAll_of_next_eq_none hnext]
      exact pending_of_next_eq_none hnext
    | some event =>
      cases haccepts : accepts flush.flushed with
      | false =>
        -- the flush has given up
        have hstop : (flush.deliver false).2.next = none := by
          rw [deliver, hnext]
          rfl
        rw [deliverAll, haccepts, deliverAll_of_next_eq_none hstop]
        exact pending_of_next_eq_none hstop
      | true =>
        rw [deliverAll, haccepts]
        refine ih ?_
        rcases flush.deliver_cases true with ⟨-, -, hend⟩ | ⟨other, -, -, -, hcons⟩
        · rw [hend rfl] at hnext
          cases hnext
        · rw [hcons, length_cons] at h
          omega

end Flush

namespace EventBuffer

variable {ε : Type} {buffer : EventBuffer ε}

theorem events_append_of_lt (h : buffer.events.length < buffer.buffer.maxlen) (event : ε) :
    (buffer.append event).events = buffer.events ++ [event] ∧
      (buffer.append event).droppedCount = buffer.droppedCount :=
  ⟨Deque.items_append_of_lt h event, if_neg (Nat.ne_of_lt h)⟩

theorem events_append_of_full (h : buffer.events.length = buffer.buffer.maxlen) (event : ε) :
    ∃ first rest, buffer.events = first :: rest ∧ (buffer.append event).events = rest ++ [event] ∧
        (buffer.append event).droppedCount = buffer.droppedCount + 1 := by
  cases hevents : buffer.events with
  | nil =>
    have hpos := buffer.maxSize_pos
    rw [hevents, length_nil] at h
    omega
  | cons first rest =>
    exact ⟨first, rest, rfl, Deque.items_append_of_full hevents h event, if_pos h⟩

theorem events_putBack (remaining : List ε) : (buffer.putBack remaining).events =
      (remaining ++ buffer.events).take buffer.buffer.maxlen :=
  (Deque.items_foldr_appendleft buffer.buffer remaining).1

theorem flush_split (buffer : EventBuffer ε) (accepts : Nat → Bool) :
    buffer.events = (buffer.flush accepts).1 ++ (buffer.flush accepts).2.events := by
  have hsplit := buffer.take.1.deliverAll_split accepts buffer.take.1.snapshot.length
  have hturns : buffer.take.1.pending.length ≤ buffer.take.1.snapshot.length := Nat.le_refl _
  have hleft := Flush.pending_deliverAll accepts hturns
  rw [hleft] at hsplit
  have hlength := congrArg List.length hsplit
  have hbounded : buffer.take.1.pending.length ≤ buffer.buffer.maxlen := buffer.buffer.bounded
  rw [length_append] at hlength
  have hkept : (buffer.flush accepts).2.events =
      (buffer.take.1.deliverAll accepts buffer.take.1.snapshot.length).2.remaining := by
    refine (events_putBack _).trans ?_
    change List.take buffer.buffer.maxlen (_ ++ []) = _
    rw [append_nil]
    exact take_of_length_le (by omega)
  rw [hkept]
  exact hsplit

theorem flush_ne_nil_iff {accepts : Nat → Bool} :
    (buffer.flush accepts).1 ≠ [] ↔ buffer.events ≠ [] ∧ accepts 0 = true := by
  cases hitems : buffer.buffer.items with
  | nil => simp [flush, take, hitems, Flush.deliverAll, events]
  | cons first rest =>
    cases haccepts : accepts 0 with
    | true =>
      simp [flush, take, hitems, Flush.deliverAll, Flush.deliver, Flush.next, haccepts, events]
    | false =>
      have hstop : (Flush.deliver ⟨first :: rest, 0, []⟩ false).2.next = none := rfl
      have hnone : (Flush.deliver ⟨first :: rest, 0, []⟩ false).1 = none := rfl
      have hwritten : (buffer.flush accepts).1 = [] := by
        rw [flush, take, hitems]
        change (Flush.deliverAll accepts (rest.length + 1) ⟨first :: rest, 0, []⟩).1 = []
        rw [Flush.deliverAll, haccepts, Flush.deliverAll_of_next_eq_none hstop, hnone]
        rfl
      rw [hwritten]
      simp

end EventBuffer

/-- A buffer, the flushes that were started and have not all ended, oldest first, and
what was appended and written so far. -/
structure BufferDesk (ε : Type) where
  buffer : EventBuffer (Nat × ε)
  flushes : List (Flush (Nat × ε))
  appended : List (Nat × ε)
  written : List (Nat × ε)

/-- A step of a thread. -/
inductive BufferEvent (ε : Type) where
  | append (event : ε)
  /-- A flush takes the events. -/
  | startFlush
  /-- The target accepts the next event of a flush, or raises. -/
  | deliver (index : Nat) (accepts : Bool)
  /-- A flush whose target has raised puts the rest back. -/
  | putBack (index : Nat)

namespace BufferDesk

variable {ε : Type} (desk : BufferDesk ε)

def start (buffer : EventBuffer (Nat × ε)) : BufferDesk ε := ⟨buffer, [], [], []⟩

def inFlight : List (Nat × ε) := desk.flushes.flatMap Flush.pending

/-- One step. -/
def step (desk : BufferDesk ε) : BufferEvent ε → BufferDesk ε
  | .append event =>
    let event := (desk.appended.length, event)
    { desk with
      buffer := desk.buffer.append event
      appended := desk.appended ++ [event] }
  | .startFlush =>
    let taken := desk.buffer.take
    { desk with
      buffer := taken.2
      flushes := desk.flushes ++ [taken.1] }
  | .deliver index accepts =>
    match desk.flushes[index]? with
    | none => desk
    | some flush =>
      let turn := flush.deliver accepts
      { desk with
        flushes := Roster.advance desk.flushes index (some turn.2)
        written := desk.written ++ turn.1.toList }
  | .putBack index =>
    match desk.flushes[index]? with
    | none => desk
    | some flush =>
      if flush.remaining.isEmpty then desk
      else
        { desk with
          buffer := desk.buffer.putBack flush.remaining
          flushes := Roster.advance desk.flushes index none }

/-- The events held: those written, those in the hands of a flush, those in the buffer. -/
def kept : List (Nat × ε) := desk.written ++ desk.inFlight ++ desk.buffer.events

/-- The events are kept in the order they were appended in, each once, and as many are
missing as were counted. -/
structure Law : Prop where
  order : desk.kept.Sublist desk.appended
  missing : desk.appended.length = desk.kept.length + desk.buffer.droppedCount

/-- A flush writes while no older one has anything left, and what it puts back fits
beside the events appended meanwhile, none of which a younger flush has taken. -/
def Meets : BufferEvent ε → Prop
  | .deliver index true =>
    ∀ flush ∈ desk.flushes[index]?, flush.next.isSome →
      (desk.flushes.take index).flatMap Flush.pending = []
  | .putBack index =>
    ∀ flush ∈ desk.flushes[index]?, flush.remaining ≠ [] →
      (desk.flushes.drop (index + 1)).flatMap Flush.pending = [] ∧
        flush.remaining.length + desk.buffer.events.length ≤ desk.buffer.buffer.maxlen
  | _ => True

/-! ## One step -/

variable {desk}

/-- The numbers of the events appended so far ascend. -/
structure Inv (desk : BufferDesk ε) : Prop extends Law desk where
  bounded : ∀ event ∈ desk.appended, event.1 < desk.appended.length
  ascending : desk.appended.Pairwise fun first second => first.1 < second.1

theorem inv_start {buffer : EventBuffer (Nat × ε)} (hevents : buffer.events = [])
    (hdropped : buffer.droppedCount = 0) : (start buffer).Inv where
  order := by
    change (buffer.events).Sublist []
    rw [hevents]
  missing := by
    change 0 = (buffer.events).length + buffer.droppedCount
    rw [hevents, hdropped]
    rfl
  bounded _ hevent := absurd hevent not_mem_nil
  ascending := List.Pairwise.nil

theorem Law.lt_of_kept (hlaw : desk.Law)
    (hasc : desk.appended.Pairwise fun first second => first.1 < second.1)
    {front behind : List (Nat × ε)} (hkept : desk.kept = front ++ behind) {first second : Nat × ε}
    (hfirst : first ∈ front) (hsecond : second ∈ behind) : first.1 < second.1 := by
  have hpairs := hasc.sublist hlaw.order
  rw [hkept, pairwise_append] at hpairs
  exact hpairs.2.2 first hfirst second hsecond

theorem Inv.append (h : desk.Inv) (event : ε) : (desk.step (.append event)).Inv := by
  set added : Nat × ε := (desk.appended.length, event) with hadded
  have hnumbers : Inv (desk.step (.append event)) ↔ Law (desk.step (.append event)) := by
    refine ⟨fun hinv => hinv.toLaw, fun hlaw => ⟨hlaw, ?_, ?_⟩⟩
    · intro other hother
      change other ∈ desk.appended ++ [added] at hother
      change other.1 < (desk.appended ++ [added]).length
      rw [length_append, length_singleton]
      rcases mem_append.mp hother with hold | hnew
      · have hlt := h.bounded other hold
        omega
      · rw [mem_singleton.mp hnew]
        exact Nat.lt_succ_self _
    · change (desk.appended ++ [added]).Pairwise _
      rw [pairwise_append]
      refine ⟨h.ascending, pairwise_singleton _ _, fun other hother last hlast => ?_⟩
      rw [mem_singleton.mp hlast]
      exact h.bounded other hother
  rw [hnumbers]
  rcases Nat.lt_or_ge desk.buffer.events.length desk.buffer.buffer.maxlen with hroom | hfull
  · obtain ⟨hevents, hcount⟩ := EventBuffer.events_append_of_lt hroom added
    have hkept : (desk.step (.append event)).kept = desk.kept ++ [added] := by
      change desk.written ++ desk.inFlight ++ (desk.buffer.append added).events = _
      rw [hevents, kept, append_assoc]
      simp
    refine ⟨?_, ?_⟩
    · rw [hkept]
      exact h.order.append (List.Sublist.refl _)
    · have hmissing := h.missing
      change (desk.appended ++ [added]).length =
        (desk.step (.append event)).kept.length + (desk.buffer.append added).droppedCount
      rw [hkept, hcount, length_append, length_append, length_singleton]
      omega
  · have hlength := Nat.le_antisymm desk.buffer.buffer.bounded hfull
    obtain ⟨first, rest, hold, hevents, hcount⟩ :=
      EventBuffer.events_append_of_full hlength added
    have hkept : (desk.step (.append event)).kept =
        desk.written ++ desk.inFlight ++ (rest ++ [added]) := by
      change desk.written ++ desk.inFlight ++ (desk.buffer.append added).events = _
      rw [hevents]
    have hbefore : desk.kept = desk.written ++ desk.inFlight ++ first :: rest := by
      rw [kept, hold]
    refine ⟨?_, ?_⟩
    · rw [hkept, ← append_assoc]
      refine List.Sublist.append ?_ (List.Sublist.refl _)
      refine List.Sublist.trans ?_ h.order
      rw [hbefore]
      exact (List.Sublist.refl _).append (sublist_cons_self first rest)
    · have hmissing := h.missing
      rw [hbefore] at hmissing
      change (desk.appended ++ [added]).length =
        (desk.step (.append event)).kept.length + (desk.buffer.append added).droppedCount
      rw [hkept, hcount]
      simp only [length_append, length_cons, length_nil] at hmissing ⊢
      omega

theorem Inv.startFlush (h : desk.Inv) : (desk.step .startFlush).Inv := by
  have hkept : (desk.step .startFlush).kept = desk.kept := by
    change desk.written ++ (desk.flushes ++ [desk.buffer.take.1]).flatMap Flush.pending ++ [] =
      desk.written ++ desk.flushes.flatMap Flush.pending ++ desk.buffer.events
    rw [flatMap_append, append_nil, append_assoc]
    congr 1
    simp [EventBuffer.take, Flush.pending, EventBuffer.events]
  refine ⟨⟨?_, ?_⟩, h.bounded, h.ascending⟩
  · rw [hkept]
    exact h.order
  · rw [hkept]
    exact h.missing

variable {index : Nat} {flush : Flush (Nat × ε)}

theorem inFlight_eq (hflush : desk.flushes[index]? = some flush) (next : Option (Flush (Nat × ε))) :
    desk.inFlight = (desk.flushes.take index).flatMap Flush.pending ++ flush.pending ++
        (desk.flushes.drop (index + 1)).flatMap Flush.pending ∧
      (Roster.advance desk.flushes index next).flatMap Flush.pending =
        (desk.flushes.take index).flatMap Flush.pending ++ next.toList.flatMap Flush.pending ++
          (desk.flushes.drop (index + 1)).flatMap Flush.pending := by
  obtain ⟨hsplit, hadvance⟩ := Roster.advance_eq hflush next
  constructor
  · rw [inFlight]
    conv_lhs => rw [hsplit]
    rw [flatMap_append, flatMap_cons, append_assoc]
  · rw [hadvance, flatMap_append, flatMap_append]

theorem kept_deliver (hflush : desk.flushes[index]? = some flush) (accepts : Bool) :
    (desk.step (.deliver index accepts)).kept = desk.kept ∧ (accepts = true → flush.next = none) ∨
      accepts = true ∧ ∃ event behind, flush.next = some event ∧ desk.kept = desk.written ++
          ((desk.flushes.take index).flatMap Flush.pending ++ event :: behind) ∧
        (desk.step (.deliver index accepts)).kept = desk.written ++
          (event :: (desk.flushes.take index).flatMap Flush.pending ++ behind) := by
  set turn := flush.deliver accepts with hturn
  obtain ⟨hbefore, hafter⟩ := inFlight_eq hflush (some turn.2)
  have hstep : (desk.step (.deliver index accepts)).kept = desk.written ++ turn.1.toList ++
        (Roster.advance desk.flushes index (some turn.2)).flatMap Flush.pending ++
          desk.buffer.events := by
    simp only [step, hflush]
    rfl
  rw [hstep, hafter, kept, hbefore, Option.toList_some, flatMap_singleton]
  rcases flush.deliver_cases accepts with
    ⟨hnone, hsame, hend⟩ | ⟨event, hnext, haccepts, hsome, hcons⟩
  · refine .inl ⟨?_, hend⟩
    rw [hturn, hnone, hsame, Option.toList_none, append_nil]
  · refine .inr ⟨haccepts, event, turn.2.pending ++
      (desk.flushes.drop (index + 1)).flatMap Flush.pending ++ desk.buffer.events, hnext, ?_, ?_⟩
    · rw [hcons, hturn]
      simp
    · rw [hturn, hsome]
      simp

theorem Inv.of_kept {next : BufferDesk ε} (h : desk.Inv) (happended : next.appended = desk.appended)
    (hdropped : next.buffer.droppedCount = desk.buffer.droppedCount)
    (hkept : next.kept = desk.kept) : next.Inv := by
  refine ⟨⟨?_, ?_⟩, ?_, ?_⟩
  · rw [hkept, happended]
    exact h.order
  · rw [hkept, happended, hdropped]
    exact h.missing
  · rw [happended]
    exact h.bounded
  · rw [happended]
    exact h.ascending

theorem deliver_frame (index : Nat) (accepts : Bool) :
    (desk.step (.deliver index accepts)).appended = desk.appended ∧
      (desk.step (.deliver index accepts)).buffer = desk.buffer := by
  rw [step]
  split
  · exact ⟨rfl, rfl⟩
  · exact ⟨rfl, rfl⟩

theorem Inv.deliver (h : desk.Inv) {accepts : Bool}
    (hmeets : desk.Meets (.deliver index accepts)) : (desk.step (.deliver index accepts)).Inv := by
  obtain ⟨happended, hbuffer⟩ := desk.deliver_frame index accepts
  refine h.of_kept happended (by rw [hbuffer]) ?_
  cases hflush : desk.flushes[index]? with
  | none => simp only [step, hflush]
  | some flush =>
    rcases kept_deliver hflush accepts with
      ⟨hsame, -⟩ | ⟨rfl, event, behind, hnext, hkept, hstep⟩
    · exact hsame
    · have holder := hmeets flush hflush (by rw [hnext]; rfl)
      rw [hstep, hkept, holder]
      rfl

theorem Inv.meets_deliver (h : desk.Inv) {accepts : Bool}
    (hlaw : (desk.step (.deliver index accepts)).Law) : desk.Meets (.deliver index accepts) := by
  cases accepts with
  | false => trivial
  | true =>
    intro flush hflush hsome
    rcases hpending : (desk.flushes.take index).flatMap Flush.pending with _ | ⟨older, rest⟩
    · rfl
    · exfalso
      obtain ⟨happended, -⟩ := desk.deliver_frame index true
      rcases kept_deliver hflush true with ⟨-, hend⟩ | ⟨-, event, behind, -, hkept, hstep⟩
      · rw [hend rfl] at hsome
        cases hsome
      · rw [hpending] at hkept hstep
        have hnow : desk.kept = (desk.written ++ older :: rest) ++ event :: behind := by
          rw [hkept, append_assoc]
        have hbefore : older.1 < event.1 :=
          h.toLaw.lt_of_kept h.ascending hnow (by simp) mem_cons_self
        have hnext : (desk.step (.deliver index true)).kept =
            (desk.written ++ [event]) ++ (older :: rest ++ behind) := by
          rw [hstep]
          simp
        have hafter : event.1 < older.1 :=
          hlaw.lt_of_kept (happended ▸ h.ascending) hnext (by simp) mem_cons_self
        omega

theorem kept_putBack (hflush : desk.flushes[index]? = some flush) :
    (desk.step (.putBack index)) = desk ∧ flush.remaining = [] ∨ flush.remaining ≠ [] ∧
        desk.kept = desk.written ++ ((desk.flushes.take index).flatMap Flush.pending ++
          flush.remaining ++ (desk.flushes.drop (index + 1)).flatMap Flush.pending) ++
            desk.buffer.events ∧ (desk.step (.putBack index)).kept = desk.written ++
          ((desk.flushes.take index).flatMap Flush.pending ++
            (desk.flushes.drop (index + 1)).flatMap Flush.pending) ++
              (flush.remaining ++ desk.buffer.events).take desk.buffer.buffer.maxlen := by
  obtain ⟨hbefore, hafter⟩ := inFlight_eq hflush none
  cases hleft : flush.remaining.isEmpty with
  | true =>
    refine .inl ⟨?_, List.isEmpty_iff.mp hleft⟩
    simp only [step, hflush, hleft, if_true]
  | false =>
    have hpending : flush.pending = flush.remaining := by
      rw [Flush.pending, hleft]
      rfl
    refine .inr ⟨fun h => ?_, ?_, ?_⟩
    · rw [h] at hleft
      cases hleft
    · rw [kept, hbefore, hpending]
    · have hstep : (desk.step (.putBack index)).kept =
          desk.written ++ (Roster.advance desk.flushes index none).flatMap Flush.pending ++
            (desk.buffer.putBack flush.remaining).events := by
        simp only [step, hflush, hleft, Bool.false_eq_true, if_false]
        rfl
      rw [hstep, hafter, EventBuffer.events_putBack]
      simp

theorem putBack_frame (index : Nat) : (desk.step (.putBack index)).appended = desk.appended ∧
      (desk.step (.putBack index)).buffer.droppedCount = desk.buffer.droppedCount := by
  rw [step]
  split
  · exact ⟨rfl, rfl⟩
  · split
    · exact ⟨rfl, rfl⟩
    · exact ⟨rfl, rfl⟩

theorem Inv.putBack (h : desk.Inv) (hmeets : desk.Meets (.putBack index)) :
    (desk.step (.putBack index)).Inv := by
  obtain ⟨happended, hdropped⟩ := desk.putBack_frame index
  refine h.of_kept happended hdropped ?_
  cases hflush : desk.flushes[index]? with
  | none => simp only [step, hflush]
  | some flush =>
    rcases kept_putBack hflush with ⟨hsame, -⟩ | ⟨hne, hkept, hstep⟩
    · rw [hsame]
    · obtain ⟨hyounger, hroom⟩ := hmeets flush hflush hne
      have hall : (flush.remaining ++ desk.buffer.events).length ≤ desk.buffer.buffer.maxlen := by
        rw [length_append]
        exact hroom
      rw [hstep, hkept, hyounger, take_of_length_le hall]
      simp

theorem Inv.meets_putBack (h : desk.Inv)
    (hlaw : (desk.step (.putBack index)).Law) : desk.Meets (.putBack index) := by
  intro flush hflush hne
  obtain ⟨happended, hdropped⟩ := desk.putBack_frame index
  rcases kept_putBack hflush with ⟨-, hnil⟩ | ⟨-, hkept, hstep⟩
  · exact absurd hnil hne
  · -- nothing may be lost that is not counted
    have hfits : flush.remaining.length + desk.buffer.events.length ≤
        desk.buffer.buffer.maxlen := by
      have hbefore := h.missing
      have hafter := hlaw.missing
      rw [happended, hdropped, hstep] at hafter
      rw [hkept] at hbefore
      simp only [length_append, length_take] at hbefore hafter
      omega
    refine ⟨?_, hfits⟩
    -- and nothing younger may stand in front
    rcases hpending : (desk.flushes.drop (index + 1)).flatMap Flush.pending with _ | ⟨younger, rest⟩
    · rfl
    · exfalso
      obtain ⟨first, others, hleft⟩ := exists_cons_of_ne_nil hne
      rw [hpending, hleft] at hkept
      have hall : (flush.remaining ++ desk.buffer.events).length ≤ desk.buffer.buffer.maxlen := by
        rw [length_append]
        exact hfits
      rw [hpending, take_of_length_le hall, hleft] at hstep
      have hnow : desk.kept =
          (desk.written ++ (desk.flushes.take index).flatMap Flush.pending ++ first :: others) ++
            (younger :: rest ++ desk.buffer.events) := by
        rw [hkept]
        simp
      have hbefore : first.1 < younger.1 := h.toLaw.lt_of_kept h.ascending hnow (by simp) (by simp)
      have hnext : (desk.step (.putBack index)).kept =
          (desk.written ++ ((desk.flushes.take index).flatMap Flush.pending ++ younger :: rest)) ++
            (first :: others ++ desk.buffer.events) := by
        rw [hstep]
      have hafter : younger.1 < first.1 :=
        hlaw.lt_of_kept (happended ▸ h.ascending) hnext (by simp) (by simp)
      omega

/-- A step that meets the condition keeps the order. -/
theorem Inv.step (h : desk.Inv) {event : BufferEvent ε} (hmeets : desk.Meets event) :
    (desk.step event).Inv := by
  cases event with
  | append event => exact h.append event
  | startFlush => exact h.startFlush
  | deliver index accepts => exact h.deliver hmeets
  | putBack index => exact h.putBack hmeets

theorem Inv.meets (h : desk.Inv) {event : BufferEvent ε} (hlaw : (desk.step event).Law) :
    desk.Meets event := by
  cases event with
  | append event => trivial
  | startFlush => trivial
  | deliver index accepts => exact h.meets_deliver hlaw
  | putBack index => exact h.meets_putBack hlaw

/-! ## Whole runs -/

/-- From an empty buffer, the runs in which nothing is lost, repeated or reordered
without being counted are those whose steps all meet the condition. -/
theorem always_law_iff_meets {buffer : EventBuffer (Nat × ε)} {maxSize : Nat}
    (hnew : EventBuffer.new maxSize = .ok buffer) (events : List (BufferEvent ε)) :
    Always step Law (start buffer) events ↔ Along step Meets (start buffer) events := by
  have hempty : buffer.events = [] ∧ buffer.droppedCount = 0 := by
    rw [EventBuffer.new] at hnew
    split at hnew
    · cases hnew
    · obtain rfl := Except.ok.inj hnew
      exact ⟨rfl, rfl⟩
  exact always_iff_along (fun _ _ hinv hmeets => hinv.step hmeets) (fun _ hinv => hinv.toLaw)
    (fun _ _ hinv hlaw => hinv.meets hlaw) (inv_start hempty.1 hempty.2) events

def ofTwo : EventBuffer (Nat × String) := ⟨.empty 2, by decide, 0⟩

def repeatedFlush : List (BufferEvent String) :=
  [.append "opened", .startFlush, .deliver 0 false, .append "closed", .putBack 0, .startFlush,
    .deliver 0 true, .deliver 0 true]

theorem always_law_repeatedFlush : Always step Law (start ofTwo) repeatedFlush := by
  have hnew : EventBuffer.new 2 = .ok ofTwo := rfl
  refine (always_law_iff_meets hnew repeatedFlush).mpr ?_
  refine ⟨trivial, trivial, trivial, trivial, ?_, trivial, ?_, ?_, trivial⟩
  · intro flush hflush _
    obtain rfl := Option.some.inj hflush
    exact ⟨rfl, Nat.le_refl 2⟩
  · exact fun _ _ _ => rfl
  · exact fun _ _ _ => rfl

def refilled : List (BufferEvent String) :=
  [.append "opened", .append "bound", .startFlush, .append "closed", .deliver 0 false, .putBack 0]

/-- The event that was appended meanwhile is gone, and is not counted. -/
theorem not_always_law_refilled : ¬ Always step Law (start ofTwo) refilled := by
  intro h
  have hmissing := h.last.missing
  revert hmissing
  decide

end BufferDesk

end HiAgent.RuntimeAdapter
