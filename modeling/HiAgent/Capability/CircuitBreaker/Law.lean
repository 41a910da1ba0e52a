/-
  Capability/CircuitBreaker/Law.lean --- the law of the circuit breaker.

  The law holds of the runs in which the writing calls on a capability keep apart, no call
  finds a circuit half-open, and a restart finds nothing that the constructor would lose.
-/
import HiAgent.Capability.CircuitBreaker

namespace HiAgent.Capability

open Foundation List

/-! ## The condition -/

namespace Watch

/-- What the next statement of a call needs: one that begins to write finds no other call
writing, the one that writes `half_open` finds the current state open and cooled down, and
one that reads `half_open` does so in a state that is no longer current, while the current one
is closed. -/
def Meets (breaker : CircuitBreaker) (clock : Int) (watch : Watch) (caller : Caller) : Prop :=
  match caller.phase with
  | .allowHalfOpen ref =>
    (watch.circuit.objects.read ref).status = .halfOpen → watch.state.status = .closed
  | .allowWrite ref =>
    watch.Idle ∧ watch.circuit.current = some ref ∧ watch.state.status = .open ∧
      breaker.cooledDown clock watch.state = true
  | .successStore => watch.Idle
  | .failureGet => watch.Idle
  | _ => True

/-- What a restart needs of a capability: no call is writing, and the circuit is closed
without failures, or open and the clock goes on from where it was. -/
def Survives (offset offset' : Int) (watch : Watch) : Prop :=
  watch.Idle ∧ match watch.state.status with
    | .closed => watch.state.failures = 0
    | .open => offset' = offset
    | .halfOpen => False

end Watch

namespace Process

/-- What the law needs of an event. -/
def Meets (breaker : CircuitBreaker) (process : Process) : Event → Prop
  | .move capabilityName index =>
    match (process.watches capabilityName).calls[index]? with
    | none => True
    | some caller =>
      (process.watches capabilityName).Meets breaker (process.now + process.offset) caller
  | .restart down reading =>
    ∀ name, (process.watches name).Survives process.offset (reading - (process.now + down))
  | _ => True

end Process

/-! ## What holds of a call under way -/

/-- What holds of the state and of the time of its last stamp after the assignments that are
left, whenever they are made. -/
def Settles (offset : Int) (goal : CircuitState → Int → Prop) :
    List Write → CircuitState → Int → Prop
  | [], state, stampedAt => goal state stampedAt
  | .setOpenedAt :: writes, state, _ =>
    ∀ now, Settles offset goal writes (state.write (now + offset) .setOpenedAt) now
  | write :: writes, state, stampedAt =>
    ∀ now, Settles offset goal writes (state.write (now + offset) write) stampedAt

namespace Circuit

/-- The state at hand is the current one, or there is none. -/
structure Holds (circuit : Circuit) (ref : Nat) : Prop where
  made : ref < circuit.objects.length
  only : circuit.current = some ref ∨ circuit.current = none

/-- Memory and row both say what the circuit is. -/
structure Quiet (offset : Int) (circuit : Circuit) (mode : Mode) : Prop where
  memory : circuit.state.Agrees offset mode
  row : (circuit.row.getD {}).Agrees offset mode

/-- The reference in `_states` is one, and a closed state in memory means a closed circuit. -/
structure Sound (circuit : Circuit) (mode : Mode) : Prop where
  made : ∀ ref, circuit.current = some ref → ref < circuit.objects.length
  closed : circuit.state.status = .closed → mode.isClosed = true

end Circuit

/-- What a call under way relies on. -/
def Caller.Ok (breaker : CircuitBreaker) (now offset : Int) (circuit : Circuit) (mode : Mode)
    (caller : Caller) : Prop :=
  match caller.phase with
  | .allowGet | .successStore | .failureGet => True
  | .allowClosed ref | .allowHalfOpen ref | .allowOpenedAt ref | .allowCooldown ref
  | .allowWrite ref =>
    ref < circuit.objects.length ∧
      ((circuit.objects.read ref).status = .closed → caller.closedAtGet = true)
  | .failureHalfOpen ref =>
    circuit.Holds ref ∧ (circuit.objects.read ref).Agrees offset mode
  | .failureOpen ref =>
    circuit.Holds ref ∧ (circuit.objects.read ref).Agrees offset mode ∧
      (circuit.objects.read ref).status ≠ .halfOpen
  | .failureRead ref =>
    circuit.Holds ref ∧ (circuit.objects.read ref).Agrees offset mode ∧
      (circuit.objects.read ref).status = .closed
  | .failureAdd ref failures =>
    circuit.Holds ref ∧ (circuit.objects.read ref).Agrees offset mode ∧
      (circuit.objects.read ref).status = .closed ∧
      (circuit.objects.read ref).failures = failures
  | .failureThreshold ref =>
    circuit.Holds ref ∧ (circuit.objects.read ref).status = .closed ∧
      ∃ failures, mode = .closed failures ∧ (circuit.objects.read ref).failures = failures + 1
  | .assign .failure ref writes =>
    circuit.Holds ref ∧ Settles offset (fun state stampedAt =>
        state.Agrees offset (mode.failure breaker.failureThreshold stampedAt))
        writes (circuit.objects.read ref) caller.stampedAt
  | .assign .probe ref writes =>
    circuit.Holds ref ∧ writes = [] ∧ (circuit.objects.read ref).status = .halfOpen ∧
      ∃ since, mode = .opened since ∧ breaker.cooldownSeconds ≤ now - since
  | .persistGet _ =>
    ∃ ref, circuit.current = some ref ∧ (circuit.objects.read ref).Agrees offset mode
  | .persistRow _ ref =>
    circuit.current = some ref ∧ (circuit.objects.read ref).Agrees offset mode

/-- The invariant of one capability. -/
structure Watch.Inv (breaker : CircuitBreaker) (now offset : Int) (watch : Watch) : Prop where
  sound : watch.circuit.Sound watch.mode
  calls : ∀ caller ∈ watch.calls, caller.Ok breaker now offset watch.circuit watch.mode
  single : watch.calls.countP (·.phase.busy) ≤ 1
  quiet : watch.Idle → watch.circuit.Quiet offset watch.mode

/-! ## Frames -/

variable {breaker : CircuitBreaker} {now offset : Int} {circuit circuit' : Circuit}
  {mode mode' : Mode} {caller : Caller} {watch : Watch} {index : Nat}

def Circuit.Grows (circuit circuit' : Circuit) : Prop :=
  ∀ ref, ref < circuit.objects.length → ref < circuit'.objects.length ∧
    ((circuit'.objects.read ref).status = .closed → (circuit.objects.read ref).status = .closed)

theorem Caller.Ok.of_grows (h : caller.Ok breaker now offset circuit mode)
    (hbusy : caller.phase.busy = false) (hgrows : circuit.Grows circuit') :
    caller.Ok breaker now offset circuit' mode' := by
  have hread : ∀ ref, ref < circuit.objects.length ∧
      ((circuit.objects.read ref).status = .closed → caller.closedAtGet = true) →
      ref < circuit'.objects.length ∧
        ((circuit'.objects.read ref).status = .closed → caller.closedAtGet = true) :=
    fun ref hold => ⟨(hgrows ref hold.1).1, fun hclosed => hold.2 ((hgrows ref hold.1).2 hclosed)⟩
  unfold Caller.Ok at h ⊢
  cases hphase : caller.phase <;> rw [hphase] at h hbusy <;>
    first | contradiction | trivial | exact hread _ h

namespace CircuitState

variable {state : CircuitState}

theorem closed_of_agrees (h : state.Agrees offset mode)
    (hclosed : state.status = .closed) : mode = .closed state.failures := by
  cases mode with
  | closed failures => rw [h.2]
  | opened since => exact (CircuitStatus.noConfusion (hclosed.symm.trans h.1))
  | halfOpen => exact (CircuitStatus.noConfusion (hclosed.symm.trans h))

theorem open_of_agrees (h : state.Agrees offset mode) (hopen : state.status = .open) :
    ∃ since, mode = .opened since ∧ state.openedAt = some (since + offset) := by
  cases mode with
  | closed failures => exact (CircuitStatus.noConfusion (hopen.symm.trans h.1))
  | opened since => exact ⟨since, rfl, h.2⟩
  | halfOpen => exact (CircuitStatus.noConfusion (hopen.symm.trans h))

theorem halfOpen_of_agrees (h : state.Agrees offset mode)
    (hhalf : state.status = .halfOpen) : mode = .halfOpen := by
  cases mode with
  | halfOpen => rfl
  | _ => exact (CircuitStatus.noConfusion (hhalf.symm.trans h.1))

theorem closed_of_write {clock : Int} (write : Write)
    (h : (state.write clock write).status = .closed) : state.status = .closed := by
  cases write with
  | setOpen => cases h
  | setHalfOpen => cases h
  | setFailures failures => exact h
  | setOpenedAt => exact h

end CircuitState

namespace Circuit

theorem Sound.holds_get (h : circuit.Sound mode) : circuit.get.2.Holds circuit.get.1 := by
  rw [get]
  cases hcurrent : circuit.current with
  | some ref => exact ⟨h.made ref hcurrent, .inl hcurrent⟩
  | none => exact ⟨by simp [Heap.alloc], .inr rfl⟩

theorem read_get (circuit : Circuit) :
    circuit.get.2.objects.read circuit.get.1 = circuit.state := by
  rw [get, state]
  cases hcurrent : circuit.current with
  | some ref => rfl
  | none => exact Heap.read_alloc circuit.objects {}

theorem prefix_get (circuit : Circuit) : circuit.objects <+: circuit.get.2.objects := by
  rw [get]
  cases circuit.current with
  | some ref => exact prefix_refl _
  | none => exact Heap.prefix_alloc _ _

@[simp] theorem current_get (circuit : Circuit) : circuit.get.2.current = circuit.current := by
  rw [get]
  cases hcurrent : circuit.current with
  | some ref => exact hcurrent
  | none => rfl

@[simp] theorem row_get (circuit : Circuit) : circuit.get.2.row = circuit.row := by
  rw [get]
  cases circuit.current with
  | some ref => rfl
  | none => rfl

variable {ref : Nat}

theorem get_of_some (h : circuit.current = some ref) : circuit.get = (ref, circuit) := by
  rw [get, h]

theorem Sound.state_get (h : circuit.Sound mode) : circuit.get.2.state = circuit.state := by
  rw [state, state, current_get]
  cases hcurrent : circuit.current with
  | none => rfl
  | some ref => exact Heap.read_of_prefix circuit.prefix_get (h.made ref hcurrent)

theorem Sound.get (h : circuit.Sound mode) : circuit.get.2.Sound mode where
  made ref hcurrent := by
    rw [current_get] at hcurrent
    exact Nat.lt_of_lt_of_le (h.made ref hcurrent) circuit.prefix_get.length_le
  closed := by
    rw [h.state_get]
    exact h.closed

theorem grows_of_prefix (h : circuit.objects <+: circuit'.objects) : circuit.Grows circuit' := by
  intro ref hmade
  rw [Heap.read_of_prefix h hmade]
  exact ⟨Nat.lt_of_lt_of_le hmade h.length_le, id⟩

theorem Quiet.get (h : circuit.Quiet offset mode) (hsound : circuit.Sound mode) :
    circuit.get.2.Quiet offset mode where
  memory := by
    rw [hsound.state_get]
    exact h.memory
  row := by
    rw [row_get]
    exact h.row

theorem Holds.store (h : circuit.Holds ref)
    (hagrees : (circuit.objects.read ref).Agrees offset mode) : (circuit.store ref).Sound mode where
  made _ hcurrent := by
    obtain rfl := Option.some.inj hcurrent
    exact h.made
  closed hclosed := by
    rw [CircuitState.closed_of_agrees hagrees hclosed]
    rfl

theorem Holds.put (h : circuit.Holds ref) (state : CircuitState) :
    (circuit.put ref state).Holds ref :=
  ⟨by simpa [Circuit.put] using h.made, h.only⟩

theorem Holds.read_put (h : circuit.Holds ref) (state : CircuitState) :
    (circuit.put ref state).objects.read ref = state :=
  Heap.read_write_self h.made state

theorem grows_put {state : CircuitState}
    (h : state.status = .closed → (circuit.objects.read ref).status = .closed) :
    circuit.Grows (circuit.put ref state) := by
  intro other hmade
  refine ⟨by simpa [Circuit.put] using hmade, fun hclosed => ?_⟩
  by_cases hother : other = ref
  · subst hother
    rw [Circuit.put, Heap.read_write_self hmade] at hclosed
    exact h hclosed
  · rwa [Circuit.put, Heap.read_write_of_ne hother] at hclosed

theorem Sound.put (h : circuit.Sound mode) (hholds : circuit.Holds ref) {state : CircuitState}
    (hstate : state.status = .closed → (circuit.objects.read ref).status = .closed) :
    (circuit.put ref state).Sound mode where
  made other hcurrent := by simpa [Circuit.put] using h.made other hcurrent
  closed hclosed := by
    refine h.closed ?_
    rw [Circuit.state] at hclosed ⊢
    obtain hcurrent | hcurrent := hholds.only
    · rw [show (circuit.put ref state).current = some ref from hcurrent] at hclosed
      rw [hcurrent]
      exact hstate (by simpa [hholds.read_put] using hclosed)
    · rw [hcurrent]
      rfl

theorem restart_of_closed (h : (circuit.row.getD {}).status = .closed) :
    circuit.restart = ⟨[], none, circuit.row⟩ := by
  rw [restart]
  cases hrow : circuit.row with
  | none => rfl
  | some row =>
    rw [hrow] at h
    simp [show row.status = .closed from h]

theorem restart_of_open (h : (circuit.row.getD {}).status = .open) :
    circuit.restart = ⟨[circuit.row.getD {}], some 0, some (circuit.row.getD {})⟩ := by
  rw [restart]
  cases hrow : circuit.row with
  | none => rw [hrow] at h; cases h
  | some row =>
    rw [hrow] at h
    simp [show row.status = .open from h]

theorem made_restart (circuit : Circuit) (ref : Nat) (h : circuit.restart.current = some ref) :
    ref < circuit.restart.objects.length := by
  by_cases hopen : (circuit.row.getD {}).status = .open
  · rw [restart_of_open hopen] at h ⊢
    obtain rfl := Option.some.inj h
    exact Nat.zero_lt_one
  · rw [restart] at h
    split at h
    · cases h
    · rename_i row hrow
      rw [hrow] at hopen
      rw [if_neg (show ¬ row.status = .open from hopen)] at h
      cases h

end Circuit

theorem Caller.Ok.of_prefix (h : caller.Ok breaker now offset circuit mode)
    (hmade : ∀ ref, circuit.current = some ref → ref < circuit.objects.length)
    (hgrows : circuit.objects <+: circuit'.objects)
    (hcurrent : circuit'.current = circuit.current) :
    caller.Ok breaker now offset circuit' mode := by
  have hread : ∀ ref, ref < circuit.objects.length →
      circuit'.objects.read ref = circuit.objects.read ref :=
    fun ref => Heap.read_of_prefix hgrows
  have hlength : ∀ ref, ref < circuit.objects.length → ref < circuit'.objects.length :=
    fun ref hlt => Nat.lt_of_lt_of_le hlt hgrows.length_le
  have hholds : ∀ ref, circuit.Holds ref → circuit'.Holds ref :=
    fun ref hold => ⟨hlength ref hold.made, by rw [hcurrent]; exact hold.only⟩
  obtain ⟨phase, stampedAt, closedAtGet⟩ := caller
  cases phase with
  | allowGet => trivial
  | successStore => trivial
  | failureGet => trivial
  | allowClosed ref => exact ⟨hlength ref h.1, by rw [hread ref h.1]; exact h.2⟩
  | allowHalfOpen ref => exact ⟨hlength ref h.1, by rw [hread ref h.1]; exact h.2⟩
  | allowOpenedAt ref => exact ⟨hlength ref h.1, by rw [hread ref h.1]; exact h.2⟩
  | allowCooldown ref => exact ⟨hlength ref h.1, by rw [hread ref h.1]; exact h.2⟩
  | allowWrite ref => exact ⟨hlength ref h.1, by rw [hread ref h.1]; exact h.2⟩
  | failureHalfOpen ref => exact ⟨hholds ref h.1, by rw [hread ref h.1.made]; exact h.2⟩
  | failureOpen ref => exact ⟨hholds ref h.1, by rw [hread ref h.1.made]; exact h.2⟩
  | failureRead ref => exact ⟨hholds ref h.1, by rw [hread ref h.1.made]; exact h.2⟩
  | failureAdd ref failures => exact ⟨hholds ref h.1, by rw [hread ref h.1.made]; exact h.2⟩
  | failureThreshold ref => exact ⟨hholds ref h.1, by rw [hread ref h.1.made]; exact h.2⟩
  | assign purpose ref writes =>
    cases purpose with
    | _ => exact ⟨hholds ref h.1, by rw [hread ref h.1.made]; exact h.2⟩
  | persistGet purpose =>
    obtain ⟨ref, href, hagrees⟩ := h
    exact ⟨ref, by rw [hcurrent, href], by rwa [hread ref (hmade ref href)]⟩
  | persistRow purpose ref =>
    obtain ⟨href, hagrees⟩ := h
    exact ⟨by rw [hcurrent, href], by rwa [hread ref (hmade ref href)]⟩

/-! ## One statement of a call -/

namespace Watch

theorem idle_iff : watch.Idle ↔ watch.calls.countP (·.phase.busy) = 0 := by
  rw [Idle, countP_eq_zero]
  simp

theorem Inv.passive (h : watch.Inv breaker now offset) (hat : watch.calls[index]? = some caller)
    (hidle : caller.phase.busy = false) (hsound : circuit'.Sound watch.mode)
    (hothers : ∀ other : Caller, other.Ok breaker now offset watch.circuit watch.mode →
      other.Ok breaker now offset circuit' watch.mode)
    (hquiet : watch.circuit.Quiet offset watch.mode → circuit'.Quiet offset watch.mode)
    {next : Option Caller} (hnext : ∀ caller, next = some caller →
      caller.phase.busy = false ∧ caller.Ok breaker now offset circuit' watch.mode) :
    Inv breaker now offset ⟨circuit', Roster.advance watch.calls index next, watch.mode⟩ := by
  have hcount := Roster.countP_advance hat (·.phase.busy) next
  have hmoved : [caller].countP (·.phase.busy) = 0 := by simp [hidle]
  have hgone : next.toList.countP (·.phase.busy) = 0 := by
    cases next with
    | none => rfl
    | some caller => simp [(hnext caller rfl).1]
  have hsame : (Roster.advance watch.calls index next).countP (·.phase.busy) =
      watch.calls.countP (·.phase.busy) := by omega
  refine ⟨hsound, fun other hother => ?_, by rw [hsame]; exact h.single, fun hnone =>
    hquiet (h.quiet ?_)⟩
  · obtain hold | hnew := Roster.mem_advance hother
    · exact hothers other (h.calls other hold)
    · exact (hnext other hnew).2
  · rw [idle_iff] at hnone ⊢
    exact hsame.symm.trans hnone

theorem Inv.active (h : watch.Inv breaker now offset) (hat : watch.calls[index]? = some caller)
    (halone : watch.calls.countP (·.phase.busy) ≤ [caller].countP (·.phase.busy))
    (hsound : circuit'.Sound mode') (hgrows : watch.circuit.Grows circuit') {next : Option Caller}
    (hnext : ∀ caller, next = some caller →
      caller.phase.busy = true ∧ caller.Ok breaker now offset circuit' mode')
    (hlast : next = none → circuit'.Quiet offset mode') :
    Inv breaker now offset ⟨circuit', Roster.advance watch.calls index next, mode'⟩ := by
  obtain ⟨before, behind, hcalls, hadvance⟩ := Roster.exists_split hat
  have hothers : (before ++ behind).countP (·.phase.busy) = 0 := by
    rw [hcalls, append_cons, countP_append, countP_append] at halone
    rw [countP_append]
    omega
  have hnobody : ∀ other ∈ before ++ behind, other.phase.busy = false := by
    intro other hother
    simpa using countP_eq_zero.mp hothers other hother
  refine ⟨hsound, fun other hother => ?_, ?_, fun hidle => hlast ?_⟩
  · rw [hadvance next, append_assoc] at hother
    have hcases : other ∈ before ++ behind ∨ next = some other := by
      simp only [mem_append, Option.mem_toList] at hother ⊢
      tauto
    obtain hold | hnew := hcases
    · refine (h.calls other ?_).of_grows (hnobody other hold) hgrows
      rw [hcalls]
      simp only [mem_append, mem_cons] at hold ⊢
      tauto
    · exact (hnext other hnew).2
  · have hlength := countP_le_length (p := fun caller : Caller => caller.phase.busy)
      (l := next.toList)
    rw [countP_append] at hothers
    rw [hadvance next, countP_append, countP_append]
    cases next with
    | none => simp only [Option.toList_none, length_nil] at hlength ⊢; omega
    | some caller => simp only [Option.toList_some, length_singleton] at hlength ⊢; omega
  · cases next with
    | none => rfl
    | some caller =>
      have hfree := hidle caller (by rw [hadvance]; simp)
      rw [(hnext caller rfl).1] at hfree
      cases hfree

theorem Inv.alone (h : watch.Inv breaker now offset) (hbusy : caller.phase.busy = true) :
    watch.calls.countP (·.phase.busy) ≤ [caller].countP (·.phase.busy) := by
  have hone : [caller].countP (·.phase.busy) = 1 := by simp [hbusy]
  rw [hone]
  exact h.single

theorem Idle.alone (h : watch.Idle) :
    watch.calls.countP (·.phase.busy) ≤ [caller].countP (·.phase.busy) := by
  rw [idle_iff.mp h]
  exact Nat.zero_le _

end Watch

namespace Circuit

theorem Quiet.get_agrees (h : circuit.Quiet offset mode) :
    (circuit.get.2.objects.read circuit.get.1).Agrees offset mode := by
  rw [read_get]
  exact h.memory

end Circuit

namespace Watch

section

variable (h : watch.Inv breaker now offset)
include h

section

variable (hat : watch.calls[index]? = some caller)
include hat

theorem Inv.reading (hidle : caller.phase.busy = false) {next : Option Caller}
    (hnext : ∀ caller, next = some caller →
      caller.phase.busy = false ∧ caller.Ok breaker now offset watch.circuit watch.mode) :
    Inv breaker now offset ⟨watch.circuit, Roster.advance watch.calls index next, watch.mode⟩ :=
  h.passive hat hidle h.sound (fun _ => id) id hnext

theorem Inv.goesOn (halone : watch.calls.countP (·.phase.busy) ≤ [caller].countP (·.phase.busy))
    (hsound : circuit'.Sound mode') (hgrows : watch.circuit.Grows circuit') {next : Caller}
    (hnext : next.phase.busy = true ∧ next.Ok breaker now offset circuit' mode') :
    Inv breaker now offset ⟨circuit', Roster.advance watch.calls index (some next), mode'⟩ := by
  refine h.active hat halone hsound hgrows ?_ (by rintro ⟨⟩)
  rintro _ ⟨⟩
  exact hnext

theorem Inv.think (hbusy : caller.phase.busy = true) {next : Caller}
    (hnext : next.phase.busy = true ∧ next.Ok breaker now offset watch.circuit watch.mode) :
    Inv breaker now offset
      ⟨watch.circuit, Roster.advance watch.calls index (some next), watch.mode⟩ :=
  h.goesOn hat (h.alone hbusy) h.sound (fun _ hmade => ⟨hmade, id⟩) hnext

theorem Inv.store (hbusy : caller.phase.busy = true) {ref : Nat} (hholds : watch.circuit.Holds ref)
    (hagrees : (watch.circuit.objects.read ref).Agrees offset mode') {next : Caller}
    {purpose : Option Purpose} (hnext : next.phase = .persistGet purpose) : Inv breaker now offset
      ⟨watch.circuit.store ref, Roster.advance watch.calls index (some next), mode'⟩ := by
  refine h.goesOn hat (h.alone hbusy) (hholds.store hagrees) (fun _ hmade => ⟨hmade, id⟩) ?_
  obtain ⟨phase, stampedAt, closedAtGet⟩ := next
  obtain rfl : phase = .persistGet purpose := hnext
  exact ⟨rfl, ref, rfl, hagrees⟩

theorem Inv.move (hmeets : watch.Meets breaker (now + offset) caller) :
    (watch.move breaker now offset index caller).Inv breaker now offset := by
  have hok := h.calls caller (mem_of_getElem? hat)
  obtain ⟨phase, stampedAt, closedAtGet⟩ := caller
  cases phase with
  | allowGet =>
    refine h.passive hat rfl h.sound.get (fun other hother => ?_) (fun hquiet => ?_) ?_
    · exact hother.of_prefix h.sound.made watch.circuit.prefix_get watch.circuit.current_get
    · exact hquiet.get h.sound
    · rintro _ ⟨⟩
      refine ⟨rfl, h.sound.holds_get.made, fun hclosed => h.sound.closed ?_⟩
      rwa [Circuit.read_get] at hclosed
  | allowClosed ref | allowHalfOpen ref | allowOpenedAt ref | allowCooldown ref =>
    refine h.reading hat rfl ?_
    rintro next hnext
    -- it returns, or goes on with the state that it has
    split at hnext <;> cases hnext
    exact ⟨rfl, hok⟩
  | allowWrite ref =>
    obtain ⟨hidle, hcurrent, hopen, hcooled⟩ := hmeets
    have hholds : watch.circuit.Holds ref := ⟨h.sound.made ref hcurrent, .inl hcurrent⟩
    obtain ⟨since, hmode, hopenedAt⟩ := CircuitState.open_of_agrees (h.quiet hidle).memory hopen
    have helapsed : breaker.cooldownSeconds ≤ now - since := by
      rw [state, CircuitBreaker.cooledDown, hopenedAt] at hcooled
      have hle := of_decide_eq_true hcooled
      omega
    refine h.goesOn hat hidle.alone (h.sound.put hholds ?_) (Circuit.grows_put ?_) ?_
    · rintro ⟨⟩
    · rintro ⟨⟩
    · exact ⟨rfl, hholds.put _, rfl, by rw [hholds.read_put]; rfl, since, hmode, helapsed⟩
  | successStore =>
    refine h.goesOn hat (Idle.alone hmeets) ⟨?_, fun _ => rfl⟩
      (Circuit.grows_of_prefix (Heap.prefix_alloc _ _)) ?_
    · rintro _ ⟨⟩
      simp [Circuit.store]
    · refine ⟨rfl, _, rfl, ?_⟩
      change CircuitState.Agrees offset
        ((watch.circuit.objects.alloc {}).2.read (watch.circuit.objects.alloc {}).1) (.closed 0)
      rw [Heap.read_alloc]
      exact ⟨rfl, rfl⟩
  | failureGet =>
    refine h.goesOn hat (Idle.alone hmeets) h.sound.get
      (Circuit.grows_of_prefix watch.circuit.prefix_get) ?_
    exact ⟨rfl, h.sound.holds_get, (h.quiet hmeets).get_agrees⟩
  | failureHalfOpen ref =>
    refine h.think hat rfl ?_
    obtain ⟨hholds, hagrees⟩ := hok
    by_cases hhalf : (watch.circuit.objects.read ref).status = .halfOpen
    · simp only [if_pos hhalf]
      refine ⟨rfl, hholds, ?_⟩
      rw [show watch.mode = .halfOpen from CircuitState.halfOpen_of_agrees hagrees hhalf]
      intro _ stampedAt _
      exact ⟨rfl, rfl⟩
    · simp only [if_neg hhalf]
      exact ⟨rfl, hholds, hagrees, hhalf⟩
  | failureOpen ref =>
    refine h.think hat rfl ?_
    obtain ⟨hholds, hagrees, hhalf⟩ := hok
    by_cases hopen : (watch.circuit.objects.read ref).status = .open
    · simp only [if_pos hopen]
      obtain ⟨since, hmode, -⟩ := CircuitState.open_of_agrees hagrees hopen
      refine ⟨rfl, hholds, ?_⟩
      rw [hmode]
      exact fun stampedAt => ⟨hopen, rfl⟩
    · simp only [if_neg hopen]
      refine ⟨rfl, hholds, hagrees, ?_⟩
      cases hstatus : (watch.circuit.objects.read ref).status with
      | closed => rfl
      | «open» => exact (hopen hstatus).elim
      | halfOpen => exact (hhalf hstatus).elim
  | failureRead ref =>
    refine h.think hat rfl ?_
    obtain ⟨hholds, hagrees, hclosed⟩ := hok
    exact ⟨rfl, hholds, hagrees, hclosed, rfl⟩
  | failureAdd ref failures =>
    obtain ⟨hholds, hagrees, hclosed, hfailures⟩ := hok
    refine h.goesOn hat (h.alone rfl) (h.sound.put hholds fun _ => hclosed)
      (Circuit.grows_put fun _ => hclosed) ?_
    refine ⟨rfl, hholds.put _, ?_, failures, ?_, ?_⟩
    · rw [hholds.read_put]
      exact hclosed
    · rw [CircuitState.closed_of_agrees hagrees hclosed, hfailures]
    · rw [hholds.read_put]
      rfl
  | failureThreshold ref =>
    refine h.think hat rfl ?_
    obtain ⟨hholds, hclosed, failures, hmode, hfailures⟩ := hok
    refine ⟨rfl, hholds, ?_⟩
    rw [hmode, hfailures]
    by_cases hthreshold : breaker.failureThreshold ≤ failures + 1
    · simp only [if_pos hthreshold, Mode.failure]
      intro _ stampedAt
      exact ⟨rfl, rfl⟩
    · simp only [if_neg hthreshold, Mode.failure, ge_iff_le]
      exact ⟨hclosed, hfailures⟩
  | assign purpose ref writes =>
    cases purpose with
    | probe =>
      obtain ⟨hholds, rfl, hhalf, since, hmode, -⟩ := hok
      have hagrees : (watch.circuit.objects.read ref).Agrees offset watch.mode.letThrough := by
        rw [hmode]
        exact hhalf
      exact h.store hat rfl hholds hagrees rfl
    | failure =>
      obtain ⟨hholds, hsettles⟩ := hok
      cases writes with
      | nil => exact h.store hat rfl hholds hsettles rfl
      | cons write writes =>
        refine h.goesOn hat (h.alone rfl) (h.sound.put hholds (CircuitState.closed_of_write write))
          (Circuit.grows_put (CircuitState.closed_of_write write)) ?_
        refine ⟨rfl, hholds.put _, ?_⟩
        rw [hholds.read_put]
        cases write with
        | _ => exact hsettles now
  | persistGet purpose =>
    obtain ⟨ref, hcurrent, hagrees⟩ := hok
    refine h.goesOn hat (h.alone rfl) h.sound.get
      (Circuit.grows_of_prefix watch.circuit.prefix_get) ?_
    rw [Circuit.get_of_some hcurrent]
    exact ⟨rfl, hcurrent, hagrees⟩
  | persistRow purpose ref =>
    obtain ⟨hcurrent, hagrees⟩ := hok
    have hquiet : Circuit.Quiet offset
        { watch.circuit with row := some (watch.circuit.objects.read ref) } watch.mode := by
      refine ⟨?_, hagrees⟩
      rw [Circuit.state, hcurrent]
      exact hagrees
    have hsound : Circuit.Sound
        { watch.circuit with row := some (watch.circuit.objects.read ref) } watch.mode :=
      ⟨h.sound.made, h.sound.closed⟩
    refine h.active hat (h.alone rfl) hsound (fun _ hmade => ⟨hmade, id⟩) ?_ fun _ => hquiet
    rintro _ ⟨⟩

theorem Inv.justified
    (hmeets : watch.Meets breaker (now + offset) caller) : watch.Justified breaker now caller := by
  have hok := h.calls caller (mem_of_getElem? hat)
  obtain ⟨phase, stampedAt, closedAtGet⟩ := caller
  unfold Watch.Justified
  cases phase with
  | allowClosed ref => exact fun hclosed => .inl (hok.2 hclosed)
  | allowHalfOpen ref => exact fun hhalf => .inr (h.sound.closed (hmeets hhalf))
  | assign purpose ref writes =>
    cases purpose with
    | failure => trivial
    | probe =>
      obtain ⟨-, rfl, -, since, hmode, helapsed⟩ := hok
      simp only [hmode]
      exact helapsed
  | _ => trivial

end

theorem Inv.call (op : Op) :
    Inv breaker now offset { watch with calls := watch.calls ++ [{ phase := op.entry }] } := by
  have hidle : op.entry.busy = false := by
    cases op <;> rfl
  have hsame : (watch.calls ++ [{ phase := op.entry : Caller }]).countP (·.phase.busy) =
      watch.calls.countP (·.phase.busy) := by
    simp [countP_append, hidle]
  refine ⟨h.sound, fun caller hcaller => ?_, by rw [hsame]; exact h.single, fun hnone => ?_⟩
  · obtain hold | hnew := mem_append.mp hcaller
    · exact h.calls caller hold
    · obtain rfl := mem_singleton.mp hnew
      cases op <;> trivial
  · refine h.quiet ?_
    rw [idle_iff] at hnone ⊢
    exact hsame.symm.trans hnone

theorem Inv.tick (elapsed : Nat) : watch.Inv breaker (now + elapsed) offset := by
  refine ⟨h.sound, fun caller hcaller => ?_, h.single, h.quiet⟩
  have hok := h.calls caller hcaller
  obtain ⟨phase, stampedAt, closedAtGet⟩ := caller
  cases phase with
  | assign purpose ref writes =>
    cases purpose with
    | failure => exact hok
    | probe =>
      obtain ⟨hholds, hwrites, hhalf, since, hmode, helapsed⟩ := hok
      exact ⟨hholds, hwrites, hhalf, since, hmode, by omega⟩
  | _ => exact hok

end

theorem quiet_restart {offset' : Int} (hquiet : watch.circuit.Quiet offset watch.mode)
    (hlives : watch.Survives offset offset') : watch.circuit.restart.Quiet offset' watch.mode := by
  obtain ⟨hmemory, hrow⟩ := hquiet
  obtain ⟨-, hstatus⟩ := hlives
  cases hmode : watch.mode with
  | closed failures =>
    rw [hmode] at hmemory hrow
    rw [state, hmemory.1] at hstatus
    obtain rfl : failures = 0 := hmemory.2.symm.trans hstatus
    rw [Circuit.restart_of_closed hrow.1]
    exact ⟨⟨rfl, rfl⟩, hrow⟩
  | opened since =>
    rw [hmode] at hmemory hrow
    rw [state, hmemory.1] at hstatus
    obtain rfl : offset' = offset := hstatus
    rw [Circuit.restart_of_open hrow.1]
    exact ⟨hrow, hrow⟩
  | halfOpen =>
    rw [hmode] at hmemory
    rw [state, show watch.circuit.state.status = .halfOpen from hmemory] at hstatus
    exact hstatus.elim

theorem Inv.restart (h : watch.Inv breaker now offset) {now' offset' : Int}
    (hlives : watch.Survives offset offset') :
    Inv breaker now' offset' { watch with circuit := watch.circuit.restart, calls := [] } := by
  have hquiet := quiet_restart (h.quiet hlives.1) hlives
  refine ⟨⟨watch.circuit.made_restart, fun hclosed => ?_⟩, fun _ hnone => (nomatch hnone),
    Nat.zero_le 1, fun _ => hquiet⟩
  rw [CircuitState.closed_of_agrees hquiet.memory hclosed]
  rfl

end Watch

/-! ## Whole runs -/

namespace Process

variable {process : Process} {event : Event}

def Inv (breaker : CircuitBreaker) (process : Process) : Prop :=
  ∀ name, (process.watches name).Inv breaker process.now process.offset

theorem inv_start (breaker : CircuitBreaker) (reading : Int) : (start reading).Inv breaker :=
  fun _ =>
    { sound := ⟨fun _ hnone => (nomatch hnone), fun _ => rfl⟩
      calls := fun _ hnone => (nomatch hnone)
      single := Nat.zero_le 1
      quiet := fun _ => ⟨⟨rfl, rfl⟩, ⟨rfl, rfl⟩⟩ }

theorem Inv.set (h : process.Inv breaker) {name : String}
    (hwatch : watch.Inv breaker process.now process.offset) :
    (process.set name watch).Inv breaker := by
  intro other
  rw [Process.set]
  by_cases hother : other = name
  · simpa only [if_pos hother] using hwatch
  · simpa only [if_neg hother] using h other

/-- A step that meets the condition keeps the invariant. -/
theorem Inv.step (h : process.Inv breaker) (hmeets : process.Meets breaker event) :
    (process.step breaker event).Inv breaker := by
  cases event with
  | call name op => exact h.set ((h name).call op)
  | move name index =>
    rw [Process.step]
    rw [Process.Meets] at hmeets
    cases hat : (process.watches name).calls[index]? with
    | none => exact h
    | some caller =>
      rw [hat] at hmeets
      exact h.set ((h name).move hat hmeets)
  | tick elapsed => exact fun name => (h name).tick elapsed
  | restart down reading => exact fun name => (h name).restart (hmeets name)

theorem Inv.justified (h : process.Inv breaker) (hmeets : process.Meets breaker event) :
    process.Justified breaker event := by
  cases event with
  | move name index =>
    rw [Process.Justified]
    rw [Process.Meets] at hmeets
    cases hat : (process.watches name).calls[index]? with
    | none => trivial
    | some caller =>
      rw [hat] at hmeets
      exact (h name).justified hat hmeets
  | _ => trivial

/-- The law holds of every run whose steps all meet the condition. -/
theorem lawful_of_along (breaker : CircuitBreaker) (reading : Int) (events : List Event)
    (hmeets : Along (step breaker) (Meets breaker) (start reading) events) :
    Lawful breaker reading events := by
  have hinit := inv_start breaker reading
  constructor
  · exact along_of_invariant (fun _ _ h => h.step) (fun _ _ h => h.justified) hinit hmeets
  · exact always_of_invariant (fun _ _ h => h.step)
      (fun _ h name hidle => ((h name).quiet hidle).memory) hinit hmeets

def shortFuse : CircuitBreaker := ⟨1, 30, Nat.le_refl 1, Int.natCast_nonneg 30⟩

/-- A call of `mark_failure` from beginning to end. -/
def trip : List Event := .call "search" .markFailure :: List.replicate 11 (.move "search" 0)

/-- A restart at which nothing has failed yet, and a failure. -/
theorem lawful_trip : Lawful shortFuse 1000 (.restart 5 0 :: trip) := by
  have hidle : Watch.Idle ((exec (step shortFuse) (start 1000)
      [.restart 5 0, .call "search" .markFailure]).watches "search") := by decide
  refine lawful_of_along shortFuse 1000 _ ⟨fun _ => ⟨?_, rfl⟩, trivial, hidle, trivial, trivial,
    trivial, trivial, trivial, trivial, trivial, trivial, trivial, trivial, trivial⟩
  exact fun _ hnone => (nomatch hnone)

/-- The clock of the process that finds the circuit open starts anew: the reading in the row
is from the clock before, and the circuit stays open until the new clock has gone past it. -/
theorem not_lawful_restart : ¬ Lawful shortFuse 1000 (trip ++ [.restart 5 0]) := by
  intro hlawful
  have hagrees := hlawful.2.last "search" (fun _ hnone => (nomatch hnone))
  have hmode : ((exec (step shortFuse) (start 1000) (trip ++ [.restart 5 0])).watches
      "search").mode = .opened 0 := by decide
  have hopenedAt : ((exec (step shortFuse) (start 1000) (trip ++ [.restart 5 0])).watches
      "search").state.openedAt = some 1000 := by decide
  have hoffset : (exec (step shortFuse) (start 1000) (trip ++ [.restart 5 0])).offset = -5 := by
    decide
  rw [hmode, hoffset] at hagrees
  have hsame := hopenedAt.symm.trans hagrees.2
  cases hsame

end Process

end HiAgent.Capability
