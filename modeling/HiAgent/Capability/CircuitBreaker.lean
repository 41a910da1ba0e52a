/-
  Capability/CircuitBreaker.lean --- `CircuitBreaker` of `hi_agent/capability/circuit_breaker.py`.

  Calls run concurrently, one statement at a time; `state.failures += 1` is its read and its
  write. The states in memory are shared objects and no lock guards them; the lock of the
  database makes the statement that writes a row one step.
-/
import HiAgent.Foundation.Heap
import HiAgent.Foundation.Machine

namespace HiAgent.Capability

open Foundation

inductive CircuitStatus where
  | closed
  | open
  | halfOpen
  deriving DecidableEq, Repr

structure CircuitState where
  failures : Nat := 0
  status : CircuitStatus := .closed
  openedAt : Option Int := none
  deriving DecidableEq, Repr, Inhabited

/-- The arguments of the constructor, with its two checks. -/
structure CircuitBreaker where
  failureThreshold : Nat
  cooldownSeconds : Int
  one_le_failureThreshold : 1 ≤ failureThreshold
  cooldownSeconds_nonneg : 0 ≤ cooldownSeconds

/-- What is kept for one capability: the states made so far, the one in `_states`, and the
row of `circuit_breaker_state`. -/
structure Circuit where
  objects : Heap CircuitState
  current : Option Nat
  row : Option CircuitState

/-- An assignment to a field of the state at hand. -/
inductive Write where
  | setOpen
  | setHalfOpen
  | setFailures (failures : Nat)
  | setOpenedAt
  deriving DecidableEq, Repr

/-- What a call stores a state for. -/
inductive Purpose where
  | probe
  | failure
  deriving DecidableEq, Repr

/-- The next statement of a call. -/
inductive Phase where
  /-- `allow`: `state = self._states.get(capability_name, CircuitState())`. -/
  | allowGet
  /-- `if state.status == "closed"`. -/
  | allowClosed (ref : Nat)
  /-- `if state.status == "half_open"`. -/
  | allowHalfOpen (ref : Nat)
  /-- `if state.opened_at is None`. -/
  | allowOpenedAt (ref : Nat)
  /-- `if self.clock() - state.opened_at >= self.cooldown_seconds`. -/
  | allowCooldown (ref : Nat)
  /-- `state.status = "half_open"`. -/
  | allowWrite (ref : Nat)
  /-- `mark_success`: `self._states[capability_name] = CircuitState()`. -/
  | successStore
  /-- `mark_failure`: `state = self._states.get(capability_name, CircuitState())`. -/
  | failureGet
  /-- `if state.status == "half_open"`. -/
  | failureHalfOpen (ref : Nat)
  /-- `if state.status == "open"`. -/
  | failureOpen (ref : Nat)
  /-- `state.failures += 1` reads. -/
  | failureRead (ref : Nat)
  /-- `state.failures += 1` writes. -/
  | failureAdd (ref failures : Nat)
  /-- `if state.failures >= self.failure_threshold`. -/
  | failureThreshold (ref : Nat)
  /-- The assignments that are left before `self._states[capability_name] = state`. -/
  | assign (purpose : Purpose) (ref : Nat) (writes : List Write)
  /-- `_persist_state`: `state = self._states.get(name, CircuitState())`. -/
  | persistGet (purpose : Option Purpose)
  /-- `INSERT OR REPLACE INTO circuit_breaker_state`. -/
  | persistRow (purpose : Option Purpose) (ref : Nat)
  deriving DecidableEq, Repr

/-- How a call goes on. -/
inductive Outcome where
  | goesOn (phase : Phase)
  | returns (answer : Option Bool)
  deriving DecidableEq, Repr

/-- `self.clock() - state.opened_at >= self.cooldown_seconds`. -/
def CircuitBreaker.cooledDown (breaker : CircuitBreaker) (clock : Int) (state : CircuitState) :
    Bool :=
  match state.openedAt with
  | none => false
  | some openedAt => decide (clock - openedAt ≥ breaker.cooldownSeconds)

/-- The state after an assignment. -/
def CircuitState.write (clock : Int) (state : CircuitState) : Write → CircuitState
  | .setOpen => { state with status := .open }
  | .setHalfOpen => { state with status := .halfOpen }
  | .setFailures failures => { state with failures }
  | .setOpenedAt => { state with openedAt := some clock }

def answerOf : Option Purpose → Option Bool
  | some .probe => some true
  | _ => none

namespace Circuit

variable (breaker : CircuitBreaker) (clock : Int) (circuit : Circuit)

/-- `self._states.get(name, CircuitState())`. -/
def get : Nat × Circuit :=
  match circuit.current with
  | some ref => (ref, circuit)
  | none =>
    let (ref, objects) := circuit.objects.alloc {}
    (ref, { circuit with objects })

/-- `self._states.get(name, CircuitState())`, as a value. -/
def state : CircuitState := (circuit.current.map circuit.objects.read).getD {}

/-- `self._states[name] = state`. -/
def store (ref : Nat) : Circuit := { circuit with current := some ref }

def put (ref : Nat) (state : CircuitState) : Circuit :=
  { circuit with objects := circuit.objects.write ref state }

/-- One statement of a call, at a reading of the clock. -/
def move : Phase → Circuit × Outcome
  | .allowGet => (circuit.get.2, .goesOn (.allowClosed circuit.get.1))
  | .allowClosed ref =>
    (circuit, if (circuit.objects.read ref).status = .closed then .returns (some true)
      else .goesOn (.allowHalfOpen ref))
  | .allowHalfOpen ref =>
    (circuit, if (circuit.objects.read ref).status = .halfOpen then .returns (some true)
      else .goesOn (.allowOpenedAt ref))
  | .allowOpenedAt ref =>
    (circuit, if (circuit.objects.read ref).openedAt = none then .returns (some false)
      else .goesOn (.allowCooldown ref))
  | .allowCooldown ref =>
    (circuit, if breaker.cooledDown clock (circuit.objects.read ref) = true
      then .goesOn (.allowWrite ref) else .returns (some false))
  | .allowWrite ref =>
    (circuit.put ref ((circuit.objects.read ref).write clock .setHalfOpen),
      .goesOn (.assign .probe ref []))
  | .successStore =>
    let (ref, objects) := circuit.objects.alloc {}
    (store { circuit with objects } ref, .goesOn (.persistGet none))
  | .failureGet => (circuit.get.2, .goesOn (.failureHalfOpen circuit.get.1))
  | .failureHalfOpen ref =>
    (circuit, .goesOn (if (circuit.objects.read ref).status = .halfOpen then
      .assign .failure ref [.setOpen, .setOpenedAt, .setFailures breaker.failureThreshold]
      else .failureOpen ref))
  | .failureOpen ref =>
    (circuit, .goesOn (if (circuit.objects.read ref).status = .open then
      .assign .failure ref [.setOpenedAt] else .failureRead ref))
  | .failureRead ref =>
    (circuit, .goesOn (.failureAdd ref (circuit.objects.read ref).failures))
  | .failureAdd ref failures =>
    (circuit.put ref ((circuit.objects.read ref).write clock (.setFailures (failures + 1))),
      .goesOn (.failureThreshold ref))
  | .failureThreshold ref =>
    (circuit, .goesOn (.assign .failure ref
      (if (circuit.objects.read ref).failures ≥ breaker.failureThreshold then
        [.setOpen, .setOpenedAt] else [])))
  | .assign purpose ref (write :: writes) =>
    (circuit.put ref ((circuit.objects.read ref).write clock write),
      .goesOn (.assign purpose ref writes))
  | .assign purpose ref [] => (circuit.store ref, .goesOn (.persistGet (some purpose)))
  | .persistGet purpose => (circuit.get.2, .goesOn (.persistRow purpose circuit.get.1))
  | .persistRow purpose ref =>
    ({ circuit with row := some (circuit.objects.read ref) }, .returns (answerOf purpose))

/-- The constructor over the database: only the rows with `state = 'open'` are loaded. -/
def restart : Circuit :=
  match circuit.row with
  | none => ⟨[], none, none⟩
  | some row => if row.status = .open then ⟨[row], some 0, some row⟩ else ⟨[], none, some row⟩

end Circuit

/-! ## What a circuit is for -/

/-- A circuit: closed after so many consecutive failures, open since a time, or half-open
with a call let through. -/
inductive Mode where
  | closed (failures : Nat)
  | opened (since : Int)
  | halfOpen
  deriving DecidableEq, Repr

namespace Mode

def success : Mode := .closed 0

/-- A failure opens the circuit when it is the threshold-th in a row or the probe's; of an
open circuit it starts the cooldown again. -/
def failure (threshold : Nat) (time : Int) : Mode → Mode
  | .closed failures =>
    if threshold ≤ failures + 1 then .opened time else .closed (failures + 1)
  | .opened _ => .opened time
  | .halfOpen => .opened time

/-- A call may be let through: all of them while the circuit is closed, and one when the
cooldown has elapsed. -/
def Admits (cooldown now : Int) : Mode → Prop
  | .closed _ => True
  | .opened since => cooldown ≤ now - since
  | .halfOpen => False

def letThrough : Mode → Mode
  | .closed failures => .closed failures
  | .opened _ => .halfOpen
  | .halfOpen => .halfOpen

def isClosed : Mode → Bool
  | .closed _ => true
  | _ => false

end Mode

/-- The state in memory says what the circuit is, where the clock of the process is `offset`
ahead. -/
def CircuitState.Agrees (offset : Int) (state : CircuitState) : Mode → Prop
  | .closed failures => state.status = .closed ∧ state.failures = failures
  | .opened since => state.status = .open ∧ state.openedAt = some (since + offset)
  | .halfOpen => state.status = .halfOpen

/-! ## Runs -/

/-- A method of the breaker. -/
inductive Op where
  | allow
  | markSuccess
  | markFailure
  deriving DecidableEq, Repr

def Op.entry : Op → Phase
  | .allow => .allowGet
  | .markSuccess => .successStore
  | .markFailure => .failureGet

/-- A call under way: when it has last assigned `opened_at`, and whether the circuit was
closed when it got the state. -/
structure Caller where
  phase : Phase
  stampedAt : Int := 0
  closedAtGet : Bool := false
  deriving DecidableEq, Repr

/-- One capability: what the breaker keeps, the calls under way, and what the circuit is by
the calls that have stored a state. -/
structure Watch where
  circuit : Circuit
  calls : List Caller
  mode : Mode

/-- The call assigns `opened_at` next. -/
def Phase.stamps : Phase → Bool
  | .assign _ _ (.setOpenedAt :: _) => true
  | _ => false

/-- What the circuit is after the next statement of a call: an outcome is recorded, and a
probe is let through, when the state is stored. -/
def Mode.after (breaker : CircuitBreaker) (caller : Caller) (mode : Mode) : Mode :=
  match caller.phase with
  | .successStore => .success
  | .assign .failure _ [] => mode.failure breaker.failureThreshold caller.stampedAt
  | .assign .probe _ [] => mode.letThrough
  | _ => mode

/-- A call that goes on. -/
def Caller.next (caller : Caller) (now : Int) (mode : Mode) : Outcome → Option Caller
  | .goesOn phase => some {
      phase
      stampedAt := if caller.phase.stamps = true then now else caller.stampedAt
      closedAtGet := if caller.phase = .allowGet then mode.isClosed else caller.closedAtGet }
  | .returns _ => none

/-- The next statement of a call, at a time at which the clock is `offset` ahead. -/
def Watch.move (breaker : CircuitBreaker) (now offset : Int) (watch : Watch) (index : Nat)
    (caller : Caller) : Watch :=
  let (circuit, outcome) := watch.circuit.move breaker (now + offset) caller.phase
  { circuit
    calls := Roster.advance watch.calls index (caller.next now watch.mode outcome)
    mode := watch.mode.after breaker caller }

/-- The process and its database: the time since the first start, and how far the clock of
the process is ahead of it. -/
structure Process where
  watches : String → Watch
  now : Int
  offset : Int

/-- What may happen next. -/
inductive Event where
  | call (capabilityName : String) (op : Op)
  | move (capabilityName : String) (index : Nat)
  | tick (elapsed : Nat)
  /-- The process stops, and is started again `down` later, when its clock shows `reading`. -/
  | restart (down : Nat) (reading : Int)

namespace Process

/-- A process over a new database, whose clock shows `reading`. -/
def start (reading : Int) : Process where
  watches _ := ⟨⟨[], none, none⟩, [], .closed 0⟩
  now := 0
  offset := reading

def set (process : Process) (capabilityName : String) (watch : Watch) : Process :=
  { process with
    watches := fun name => if name = capabilityName then watch else process.watches name }

/-- One event. -/
def step (breaker : CircuitBreaker) (process : Process) : Event → Process
  | .call capabilityName op =>
    let watch := process.watches capabilityName
    process.set capabilityName { watch with calls := watch.calls ++ [{ phase := op.entry }] }
  | .move capabilityName index =>
    let watch := process.watches capabilityName
    match watch.calls[index]? with
    | none => process
    | some caller =>
      process.set capabilityName (watch.move breaker process.now process.offset index caller)
  | .tick elapsed => { process with now := process.now + elapsed }
  | .restart down reading =>
    let now := process.now + down
    { watches := fun name =>
        { (process.watches name) with
          circuit := (process.watches name).circuit.restart
          calls := [] }
      now
      offset := reading - now }

end Process

/-! ## The law -/

/-- A call that has got the state it is going to write, or that is storing it or its row. -/
def Phase.busy : Phase → Bool
  | .allowGet | .allowClosed _ | .allowHalfOpen _ | .allowOpenedAt _ | .allowCooldown _
  | .allowWrite _ | .successStore | .failureGet => false
  | _ => true

namespace Watch

def Idle (watch : Watch) : Prop := ∀ caller ∈ watch.calls, caller.phase.busy = false

instance (watch : Watch) : Decidable watch.Idle :=
  inferInstanceAs (Decidable (∀ caller ∈ watch.calls, caller.phase.busy = false))

def state (watch : Watch) : CircuitState := watch.circuit.state

/-- A call that is let through may be: one that finds the circuit closed has begun or
ends while it is closed, and one that probes does so when the cooldown has elapsed and no
other call was let through. -/
def Justified (breaker : CircuitBreaker) (now : Int) (watch : Watch) (caller : Caller) : Prop :=
  match caller.phase with
  | .allowClosed ref =>
    (watch.circuit.objects.read ref).status = .closed →
      caller.closedAtGet = true ∨ watch.mode.isClosed = true
  | .allowHalfOpen ref =>
    (watch.circuit.objects.read ref).status = .halfOpen →
      caller.closedAtGet = true ∨ watch.mode.isClosed = true
  | .assign .probe _ [] => watch.mode.Admits breaker.cooldownSeconds now
  | _ => True

end Watch

namespace Process

/-- Every call that is let through may be. -/
def Justified (breaker : CircuitBreaker) (process : Process) : Event → Prop
  | .move capabilityName index =>
    match (process.watches capabilityName).calls[index]? with
    | none => True
    | some caller => (process.watches capabilityName).Justified breaker process.now caller
  | _ => True

def Agrees (process : Process) : Prop :=
  ∀ name, (process.watches name).Idle →
    (process.watches name).state.Agrees process.offset (process.watches name).mode

def Lawful (breaker : CircuitBreaker) (reading : Int) (events : List Event) : Prop :=
  Along (step breaker) (Justified breaker) (start reading) events ∧
    Always (step breaker) Agrees (start reading) events

end Process

end HiAgent.Capability
