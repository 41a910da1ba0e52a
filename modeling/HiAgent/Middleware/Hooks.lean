/-
  Middleware/Hooks.lean --- the chains of tool hooks of `hi_agent/middleware/hooks.py`.

  `HookChain.run_pre_tool`, `HookChain.run_post_tool` and `ExecutionHookManager.wrap_tool_call`.
  The two chains run one loop over different objects. A hook is any function of the object it is
  given and of the payload the caller has built: it may change both in place, return another
  object or nothing, and end in any way.
-/
import HiAgent.Foundation.PyValue

namespace HiAgent.Middleware

open Foundation

/-! ## Contexts and results -/

/-- A `tool_input`: the very dictionary the caller has built, or another one. -/
inductive ToolInput where
  | payload
  | other (fields : PyDict)

structure ToolCallContext where
  runId : String
  stageId : PyValue
  toolName : String
  toolInput : ToolInput
  turnNumber : Int
  metadata : PyDict

/-- `ToolCallResult`, without its duration. -/
structure ToolCallResult (ε : Type) where
  context : ToolCallContext
  result : String
  error : Option ε

/-- An object on its way through a chain, and what the payload holds. -/
structure Carried (α : Type) where
  payload : PyDict
  current : α

/-- What the `tool_input` of a context holds. -/
def Carried.toolInput (carried : Carried ToolCallContext) : PyDict :=
  match carried.current.toolInput with
  | .payload => carried.payload
  | .other fields => fields

/-! ## Chains -/

/-- How an await ends. -/
inductive AwaitEnd (β : Type) where
  | ended (value : β)
  | hangs
  /-- A `BaseException` that no `except Exception` takes; the mark is that of
  `CancelledError`. -/
  | interrupted (cancelled : Bool)

/-- What a hook does. -/
structure HookRun (α : Type) where
  /-- What it leaves in the payload and in the object it was given. -/
  after : Carried α
  /-- The object it returns, and none where it returns `None` or raises an `Exception`. -/
  ends : AwaitEnd (Option α)
  seconds : Nat

abbrev Hook (α : Type) := Carried α → HookRun α

/-- What a chain does: the hooks it has begun, what it leaves in the payload, and the object
it returns. -/
structure ChainRun (α : Type) where
  begun : Nat
  payload : PyDict
  ends : AwaitEnd α
  seconds : Nat

def ChainRun.behind {α : Type} (seconds : Nat) (run : ChainRun α) : ChainRun α :=
  { run with begun := run.begun + 1, seconds := seconds + run.seconds }

/-- `run_pre_tool` and `run_post_tool`. -/
def runChain {α : Type} : List (Hook α) → Carried α → ChainRun α
  | [], carried => ⟨0, carried.payload, .ended carried.current, 0⟩
  | hook :: hooks, carried =>
    let run := hook carried
    match run.ends with
    | .hangs => ⟨1, run.after.payload, .hangs, run.seconds⟩
    | .interrupted cancelled => ⟨1, run.after.payload, .interrupted cancelled, run.seconds⟩
    | .ended none => (runChain hooks run.after).behind run.seconds
    | .ended (some result) =>
      (runChain hooks ⟨run.after.payload, result⟩).behind run.seconds

theorem begun_of_ended {α : Type} (hooks : List (Hook α)) {carried : Carried α} {last : α}
    (h : (runChain hooks carried).ends = .ended last) :
    (runChain hooks carried).begun = hooks.length := by
  induction hooks generalizing carried with
  | nil => rfl
  | cons hook hooks ih =>
    rw [runChain] at h ⊢
    cases hends : (hook carried).ends with
    | ended result =>
      rw [hends] at h
      cases result with
      | _ => exact congrArg (· + 1) (ih h)
    | _ =>
      rw [hends] at h
      cases h

/-! ## The wrapper -/

/-- What happens around a tool, step by step. -/
inductive ToolStep where
  /-- A `pre_tool` hook is called, by its position. -/
  | preHook (index : Nat)
  /-- `run_pre_tool` has returned. -/
  | preTool (passed : Carried ToolCallContext)
  /-- The capability is invoked. -/
  | invoked (input : PyDict)
  /-- A `post_tool` hook is called. -/
  | postHook (index : Nat)
  /-- `run_post_tool` has returned. -/
  | postTool

/-- What `call_fn` does. -/
structure CallRun (ε : Type) where
  /-- The input it invokes the capability with. -/
  input : PyDict
  /-- `_last_result`. -/
  lastResult : PyValue
  /-- What the payload holds behind it. -/
  payload : PyDict
  ends : AwaitEnd (Except ε String)
  seconds : Nat

/-- What `wrap_tool_call` does. -/
structure WrapRun (ε : Type) where
  trace : List ToolStep
  lastResult : PyValue
  payload : PyDict
  ends : AwaitEnd (Except ε (ToolCallResult ε))
  seconds : Nat

/-- `ExecutionHookManager`, with the two chains of its registry that tools run. -/
structure ExecutionHookManager (ε : Type) where
  preTool : List (Hook ToolCallContext)
  postTool : List (Hook (ToolCallResult ε))

/-- The result the `post_tool` hooks are given. -/
def ToolCallResult.of {ε : Type} (context : ToolCallContext) : Except ε String → ToolCallResult ε
  | .ok result => ⟨context, result, none⟩
  | .error error => ⟨context, "", some error⟩

def ExecutionHookManager.wrapToolCall {ε : Type} (manager : ExecutionHookManager ε)
    (callFn : Carried ToolCallContext → CallRun ε) (start : Carried ToolCallContext) :
    WrapRun ε :=
  let pre := runChain manager.preTool start
  let before := (List.range pre.begun).map ToolStep.preHook
  match pre.ends with
  | .hangs => ⟨before, .dict [], pre.payload, .hangs, pre.seconds⟩
  | .interrupted cancelled =>
    ⟨before, .dict [], pre.payload, .interrupted cancelled, pre.seconds⟩
  | .ended context =>
    let passed : Carried ToolCallContext := ⟨pre.payload, context⟩
    let call := callFn passed
    let called := before ++ [.preTool passed, .invoked call.input]
    match call.ends with
    | .hangs => ⟨called, call.lastResult, call.payload, .hangs, pre.seconds + call.seconds⟩
    | .interrupted cancelled =>
      ⟨called, call.lastResult, call.payload, .interrupted cancelled, pre.seconds + call.seconds⟩
    | .ended outcome =>
      let post := runChain manager.postTool
        ⟨call.payload, ToolCallResult.of context outcome⟩
      let behind := called ++ (List.range post.begun).map ToolStep.postHook
      let seconds := pre.seconds + call.seconds + post.seconds
      match post.ends with
      | .hangs => ⟨behind, call.lastResult, post.payload, .hangs, seconds⟩
      | .interrupted cancelled =>
        ⟨behind, call.lastResult, post.payload, .interrupted cancelled, seconds⟩
      | .ended result =>
        ⟨behind ++ [.postTool], call.lastResult, post.payload,
          .ended (outcome.map fun _ => result), seconds⟩

end HiAgent.Middleware
