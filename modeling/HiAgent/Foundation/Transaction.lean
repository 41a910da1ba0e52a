/-
  Foundation/Transaction.lean --- sessions on a connection to a database.

  A connection sees the contents of a database as its own statements have left them. A session is
  a program that runs statements on one connection and may raise; an exception leaves the
  connection as it is, and it is for the program to roll back.
-/
import Mathlib.Tactic.TypeStar

namespace HiAgent.Foundation

variable {ε σ α : Type}

/-- A connection to a database with contents of type `σ`. -/
structure Connection (σ : Type) where
  contents : σ
  /-- What a rollback goes back to, while a transaction is open. -/
  saved : Option σ

namespace Connection

def committed (connection : Connection σ) : σ := connection.saved.getD connection.contents

def idle (contents : σ) : Connection σ := ⟨contents, none⟩

end Connection

abbrev Session (ε σ α : Type) := EStateM ε (Connection σ) α

theorem run_tryCatch (body : EStateM ε σ α) (handler : ε → EStateM ε σ α) (state : σ) :
    (tryCatch body handler).run state = match body.run state with
      | .ok result after => .ok result after
      | .error error after => (handler error).run after := by
  change EStateM.tryCatch body handler state = _
  unfold EStateM.tryCatch EStateM.run
  cases body state <;> rfl

namespace Session

/-- `BEGIN`, which raises `misuse` inside a transaction. -/
def start (misuse : ε) : Session ε σ Unit := do
  let connection ← get
  match connection.saved with
  | some _ => throw misuse
  | none => set { connection with saved := some connection.contents }

/-- `COMMIT`, which raises `misuse` outside a transaction. -/
def commit (misuse : ε) : Session ε σ Unit := do
  let connection ← get
  match connection.saved with
  | some _ => set { connection with saved := none }
  | none => throw misuse

/-- `ROLLBACK`, which raises `misuse` outside a transaction. -/
def rollback (misuse : ε) : Session ε σ Unit := do
  let connection ← get
  match connection.saved with
  | some contents => set (Connection.idle contents)
  | none => throw misuse

/-- An exception of the body rolls back and goes on; an exception of the rollback takes
its place. -/
def rollingBack (misuse : ε) (body : Session ε σ α) : Session ε σ α :=
  tryCatch body fun error => do
    rollback misuse
    throw error

/-- An exception of the body rolls back and goes on; an exception of the rollback is
suppressed. -/
def rollingBackQuietly (misuse : ε) (body : Session ε σ α) : Session ε σ α :=
  tryCatch body fun error => do
    tryCatch (rollback misuse) fun _ => pure ()
    throw error

/-- A transaction around a body: it commits what the body returns. -/
def transaction (misuse : ε) (body : Session ε σ α) : Session ε σ α := do
  start misuse
  rollingBack misuse do
    let result ← body
    commit misuse
    return result

/-! ## Rules -/

variable {misuse error : ε} {body : Session ε σ α} {connection after : Connection σ}
  {result : α} {before contents : σ}

@[simp] theorem run_start_idle (contents : σ) :
    (start misuse).run (Connection.idle contents) = .ok () ⟨contents, some contents⟩ := rfl

theorem run_rollingBack_of_ok (h : body.run connection = .ok result after) :
    (rollingBack misuse body).run connection = .ok result after := by
  rw [rollingBack, run_tryCatch, h]

theorem run_rollingBack_of_error (h : body.run connection = .error error ⟨contents, some before⟩) :
    (rollingBack misuse body).run connection = .error error (Connection.idle before) := by
  rw [rollingBack, run_tryCatch, h]
  rfl

theorem run_rollingBackQuietly_of_ok (h : body.run connection = .ok result after) :
    (rollingBackQuietly misuse body).run connection = .ok result after := by
  rw [rollingBackQuietly, run_tryCatch, h]

theorem run_rollingBackQuietly_of_error
    (h : body.run connection = .error error ⟨contents, some before⟩) :
    (rollingBackQuietly misuse body).run connection = .error error (Connection.idle before) := by
  rw [rollingBackQuietly, run_tryCatch, h]
  rfl

theorem run_transaction_of_ok
    (h : body.run ⟨before, some before⟩ = .ok result ⟨contents, some before⟩) :
    (transaction misuse body).run (Connection.idle before) =
      .ok result (Connection.idle contents) := by
  have hbody : (do let result ← body; commit misuse; return result : Session ε σ α).run
      ⟨before, some before⟩ = .ok result (Connection.idle contents) := by
    rw [EStateM.run_bind, h]
    rfl
  rw [transaction, EStateM.run_bind, run_start_idle]
  exact run_rollingBack_of_ok hbody

/-- A body that fails leaves what was there before. -/
theorem run_transaction_of_error
    (h : body.run ⟨before, some before⟩ = .error error ⟨contents, some before⟩) :
    (transaction misuse body).run (Connection.idle before) =
      .error error (Connection.idle before) := by
  have hbody : (do let result ← body; commit misuse; return result : Session ε σ α).run
      ⟨before, some before⟩ = .error error ⟨contents, some before⟩ := by
    rw [EStateM.run_bind, h]
  rw [transaction, EStateM.run_bind, run_start_idle]
  exact run_rollingBack_of_error hbody

end Session

end HiAgent.Foundation

namespace HiAgent.Foundation

variable {ε σ α β : Type}

/-! ## Faults -/

/-- What befalls a statement: nothing, an exception before or after its effect, or one with
which the database gives the transaction up. -/
inductive Fault (ε : Type) where
  | none
  | raises (error : ε) (applied : Bool)
  | aborts (error : ε)

/-- A statement and its fault. -/
def Fault.perform (fault : Fault ε) (statement : Session ε σ α) : Session ε σ α :=
  match fault with
  | none => statement
  | raises error false => throw error
  | raises error true => do
      let _ ← statement
      throw error
  | aborts error => do
      modify fun connection => .idle connection.committed
      throw error

namespace Session

def statement (f : σ → Except ε (α × σ)) : Session ε σ α := fun connection =>
  match f connection.contents with
  | .error error => .error error connection
  | .ok (result, contents) => .ok result { connection with contents := contents }

/-! ## How a session ends -/

/-- On a connection with `P`, a session that returns leaves one with `Q`, and a session that
raises one with `R`. -/
def Ends (P : Connection σ → Prop) (body : Session ε σ α) (Q : α → Connection σ → Prop)
    (R : Connection σ → Prop) : Prop :=
  ∀ connection, P connection → match body.run connection with
    | .ok result after => Q result after
    | .error _ after => R after

section Rules

variable {P : Connection σ → Prop} {body : Session ε σ α} {Q : α → Connection σ → Prop}
  {R : Connection σ → Prop}

theorem ends_pure {result : α} (h : ∀ connection, P connection → Q result connection) :
    Ends P (pure result : Session ε σ α) Q R := h

theorem ends_throw (error : ε) (h : ∀ connection, P connection → R connection) :
    Ends P (throw error : Session ε σ α) Q R := h

/-- The rule of sequencing. -/
theorem Ends.bind {M : α → Connection σ → Prop} {next : α → Session ε σ β}
    {S : β → Connection σ → Prop} (h : Ends P body M R)
    (hnext : ∀ result, Ends (M result) (next result) S R) : Ends P (body >>= next) S R := by
  intro connection hlink
  have hbody := h connection hlink
  rw [EStateM.run_bind]
  cases hrun : body.run connection with
  | ok result after =>
    rw [hrun] at hbody
    exact hnext result after hbody
  | error error after =>
    rw [hrun] at hbody
    exact hbody

theorem Ends.tryCatch {M : Connection σ → Prop} {handler : ε → Session ε σ α}
    (h : Ends P body Q M) (hhandler : ∀ error, Ends M (handler error) Q R) :
    Ends P (tryCatch body handler) Q R := by
  intro connection hlink
  have hbody := h connection hlink
  rw [run_tryCatch]
  cases hrun : body.run connection with
  | ok result after =>
    rw [hrun] at hbody
    exact hbody
  | error error after =>
    rw [hrun] at hbody
    exact hhandler error after hbody

theorem Ends.mono {P' : Connection σ → Prop} {Q' : α → Connection σ → Prop}
    {R' : Connection σ → Prop} (h : Ends P body Q R)
    (hP : ∀ connection, P' connection → P connection)
    (hQ : ∀ result connection, Q result connection → Q' result connection)
    (hR : ∀ connection, R connection → R' connection) : Ends P' body Q' R' := by
  intro connection hlink
  have hbody := h connection (hP connection hlink)
  cases hrun : body.run connection with
  | ok result after =>
    rw [hrun] at hbody
    exact hQ result after hbody
  | error error after =>
    rw [hrun] at hbody
    exact hR after hbody

theorem Ends.of_entails {p : Prop} (hp : ∀ connection, P connection → p)
    (h : p → Ends P body Q R) : Ends P body Q R :=
  fun connection hlink => h (hp connection hlink) connection hlink

theorem Ends.perform (h : Ends P body Q R) (fault : Fault ε)
    (hbefore : ∀ connection, P connection → R connection)
    (hafter : ∀ result connection, Q result connection → R connection)
    (habort : ∀ connection, P connection → R (.idle connection.committed)) :
    Ends P (fault.perform body) Q R := by
  cases fault with
  | none => exact h
  | aborts error => exact habort
  | raises error applied =>
    cases applied with
    | false => exact ends_throw error hbefore
    | true => exact h.bind fun result => ends_throw error (hafter result)

theorem ends_statement {f : σ → Except ε (α × σ)}
    (hok : ∀ connection result contents, P connection →
      f connection.contents = .ok (result, contents) →
      Q result { connection with contents := contents })
    (herror : ∀ connection, P connection → R connection) : Ends P (statement f) Q R := by
  intro connection hlink
  change match statement f connection with
    | .ok result after => Q result after
    | .error _ after => R after
  unfold statement
  cases hf : f connection.contents with
  | error error => exact herror connection hlink
  | ok outcome => exact hok connection outcome.1 outcome.2 hlink hf

end Rules

/-! ## Transactions -/

/-- Inside a transaction that goes back to `before`. -/
def Open (before : σ) (C : σ → Prop) (connection : Connection σ) : Prop :=
  connection.saved = some before ∧ C connection.contents

def Shows (C : σ → Prop) (connection : Connection σ) : Prop := C connection.committed

section Transactions

variable {misuse : ε} {before : σ} {C : σ → Prop}

theorem Open.shows {connection : Connection σ} (h : Open before C connection) :
    Shows (· = before) connection := by
  rw [Shows, Connection.committed, h.1]
  rfl

theorem ends_start : Ends (Shows (· = before)) (start misuse)
    (fun _ => Open before (· = before)) (Shows (· = before)) := by
  intro connection hlink
  obtain ⟨contents, saved⟩ := connection
  cases saved with
  | none =>
    obtain rfl : contents = before := hlink
    exact ⟨rfl, rfl⟩
  | some saved => exact hlink

theorem ends_rollback : Ends (Shows C) (rollback misuse) (fun _ => Shows C) (Shows C) := by
  intro connection hlink
  obtain ⟨contents, saved⟩ := connection
  cases saved with
  | _ => exact hlink

theorem ends_commit :
    Ends (Open before C) (commit misuse) (fun _ => Shows C) (Shows (· = before)) := by
  intro connection hlink
  obtain ⟨contents, saved⟩ := connection
  obtain ⟨hsaved, hcontents⟩ := hlink
  obtain rfl : saved = some before := hsaved
  exact hcontents

theorem ends_open_statement {f : σ → Except ε (α × σ)} {D : α → σ → Prop}
    (h : ∀ contents result after, C contents → f contents = .ok (result, after) → D result after) :
    Ends (Open before C) (statement f) (fun result => Open before (D result))
      (Shows (· = before)) :=
  ends_statement
    (fun connection result contents hopen hf =>
      ⟨hopen.1, h connection.contents result contents hopen.2 hf⟩)
    (fun _ hopen => hopen.shows)

theorem ends_open_perform {f : σ → Except ε (α × σ)} {D : α → σ → Prop} (fault : Fault ε)
    (h : ∀ contents result after, C contents → f contents = .ok (result, after) → D result after) :
    Ends (Open before C) (fault.perform (statement f)) (fun result => Open before (D result))
      (Shows (· = before)) :=
  (ends_open_statement h).perform fault (fun _ hopen => hopen.shows)
    (fun _ _ hopen => hopen.shows) fun _ hopen => hopen.shows

end Transactions

end Session

end HiAgent.Foundation
