/-
  Execution/ActionDispatcher/Hooked.lean --- a capability behind its tool hooks.

  `ActionDispatcher._invoke_capability_via_hooks` of `hi_agent/execution/action_dispatcher.py`,
  with what the hooks and the capability get to see. The chain runs on the event loop of the
  bridge and goes on there when the wait for it is given up; a direct invocation runs in the
  thread of the caller.
-/
import HiAgent.Execution.ActionDispatcher
import HiAgent.Middleware.Hooks

namespace HiAgent.Execution

open Foundation List
open Middleware

/-! ## One invocation -/

/-- What `_invoke_capability` does: what it leaves in the payload, and what it returns or
raises. -/
structure CapabilityRun where
  payload : PyDict
  ends : AwaitEnd Call
  seconds : Nat

/-- `_invoke_capability`, for what the payload holds. -/
abbrev Capability := PyDict → CapabilityRun

/-- A call of `_invoke_capability_via_hooks`: the fields of the context it reads, and what
its callees do. -/
structure HookedCall where
  runId : String
  currentStage : String
  actionSeq : Int
  actionKind : String
  /-- `str`. -/
  str : PyValue → String
  /-- What stops the chain before it is scheduled: the import of the hooks, the context of
  the call, the bridge to the event loop. -/
  bridge : Option String
  /-- The capability, inside the chain. -/
  hooked : Capability
  /-- The capability, invoked directly. -/
  direct : Capability
  /-- What the payload holds when the wait is given up. -/
  payloadAtTimeout : PyDict

namespace HookedCall

variable (call : HookedCall)

/-- `tool_ctx`. -/
def toolContext (payload : PyDict) : ToolCallContext where
  runId := call.runId
  stageId := payload.get "stage_id" (.str call.currentStage)
  toolName := call.actionKind
  toolInput := .payload
  turnNumber := call.actionSeq
  metadata := []

/-- `str(result.get("success", False))`, of a value that may have no `get`. -/
def successText : PyValue → Except Raise String
  | .dict fields => .ok (call.str (PyDict.get fields "success" (.bool false)))
  | _ => .error (.other "object has no attribute 'get'")

/-- `_call_fn`: it does not look at the context it is given. -/
def callFn (passed : Carried ToolCallContext) : CallRun Raise :=
  let run := call.hooked passed.payload
  { input := passed.payload
    lastResult :=
      match run.ends with
      | .ended (.ok result) => result
      | _ => .dict []
    payload := run.payload
    ends :=
      match run.ends with
      | .ended outcome => .ended (outcome.bind call.successText)
      | .hangs => .hangs
      | .interrupted cancelled => .interrupted cancelled
    seconds := run.seconds }

def wrapped (manager : ExecutionHookManager Raise) (payload : PyDict) : WrapRun Raise :=
  manager.wrapToolCall call.callFn ⟨payload, call.toolContext payload⟩

def directly (behind : List (List ToolStep)) (payload : PyDict) :
    List (List ToolStep) × AwaitEnd Call :=
  (behind ++ [[.invoked payload]], (call.direct payload).ends)

/-- `_invoke_capability_via_hooks`: the traces of its threads, and how it ends. -/
def invokeCapabilityViaHooks (hookManager : Option (ExecutionHookManager Raise))
    (payload : PyDict) : List (List ToolStep) × AwaitEnd Call :=
  match hookManager, call.bridge with
  | none, _ => call.directly [] payload
  | some _, some _ => call.directly [] payload
  | some manager, none =>
    let run := call.wrapped manager payload
    -- `call_sync`: a chain that ends too late is waited for no longer
    if run.seconds ≤ hookTimeout then
      match run.ends with
      | .hangs => call.directly [run.trace] call.payloadAtTimeout
      | .ended (.ok _) => ([run.trace], .ended (.ok run.lastResult))
      | .ended (.error (.gatePending gateId)) =>
        ([run.trace], .ended (.error (.gatePending gateId)))
      | .ended (.error _) => call.directly [run.trace] run.payload
      -- the exception of a future that was cancelled is an `Exception`
      | .interrupted true => call.directly [run.trace] run.payload
      | .interrupted false => ([run.trace], .interrupted false)
    else call.directly [run.trace] call.payloadAtTimeout

end HookedCall

/-! ## The law -/

/-- Every invocation in a trace comes right behind the whole `pre_tool` chain, takes what the
`tool_input` of the context holds that the chain has returned, and is followed by the
`post_tool` chain, once. -/
def Unbypassed (manager : ExecutionHookManager Raise) (trace : List ToolStep) : Prop :=
  ∀ before input after, trace = before ++ .invoked input :: after →
    (∃ passed : Carried ToolCallContext,
      before = (List.range manager.preTool.length).map .preHook ++ [.preTool passed] ∧
        input = passed.toolInput) ∧
      after = (List.range manager.postTool.length).map .postHook ++ [.postTool]

namespace HookedCall

section Condition

variable (call : HookedCall) (manager : ExecutionHookManager Raise) (payload : PyDict)

/-- What the `pre_tool` chain does. -/
def pre : ChainRun ToolCallContext := runChain manager.preTool ⟨payload, call.toolContext payload⟩

def middle : CapabilityRun := call.hooked (call.pre manager payload).payload

/-- What the `post_tool` chain does behind the capability. -/
def post (context : ToolCallContext) (outcome : Call) : ChainRun (ToolCallResult Raise) :=
  runChain manager.postTool
    ⟨(call.middle manager payload).payload, .of context (outcome.bind call.successText)⟩

/-- A `pre_tool` hook lets a `BaseException` out before the capability is invoked. -/
def LeavesBefore : Prop :=
  (call.pre manager payload).ends = .interrupted false ∧
    (call.pre manager payload).seconds ≤ hookTimeout

def Conclusive (outcome : Call) : Prop :=
  (∃ fields, outcome = .ok (.dict fields)) ∨ ∃ gateId, outcome = .error (.gatePending gateId)

/-- The chains and the capability between them end in time, the `tool_input` of the context
holds what the payload holds, and the capability returns a dictionary or asks for a gate. -/
structure PassesThrough (context : ToolCallContext) (outcome : Call)
    (last : ToolCallResult Raise) : Prop where
  pre : (call.pre manager payload).ends = .ended context
  input : (Carried.mk (call.pre manager payload).payload context).toolInput =
    (call.pre manager payload).payload
  middle : (call.middle manager payload).ends = .ended outcome
  conclusive : Conclusive outcome
  post : (call.post manager payload context outcome).ends = .ended last
  inTime : (call.pre manager payload).seconds + (call.middle manager payload).seconds +
    (call.post manager payload context outcome).seconds ≤ hookTimeout

end Condition

/-! ## Traces -/

section Traces

variable {call : HookedCall} {manager : ExecutionHookManager Raise} {payload : PyDict}

theorem not_unbypassed_direct (input : PyDict) : ¬ Unbypassed manager [.invoked input] := by
  intro h
  obtain ⟨⟨passed, hbefore, -⟩, -⟩ := h [] input [] rfl
  exact cons_ne_nil _ _ (append_eq_nil_iff.mp hbefore.symm).2

theorem unbypassed_hooks (begun : Nat) : Unbypassed manager ((List.range begun).map .preHook) := by
  intro before input after h
  have hmem : ToolStep.invoked input ∈ (List.range begun).map ToolStep.preHook := by
    rw [h]
    exact mem_append_right _ mem_cons_self
  obtain ⟨index, -, hindex⟩ := mem_map.mp hmem
  cases hindex

theorem unbypassed_called_iff {passed : Carried ToolCallContext} {input : PyDict}
    {after : List ToolStep} (hafter : ∀ other, ToolStep.invoked other ∉ after) :
    Unbypassed manager ((List.range manager.preTool.length).map .preHook ++
        [.preTool passed, .invoked input] ++ after) ↔ input = passed.toolInput ∧
        after = (List.range manager.postTool.length).map .postHook ++ [.postTool] := by
  have hbefore : ∀ other, ToolStep.invoked other ∉
      (List.range manager.preTool.length).map ToolStep.preHook ++ [.preTool passed] := by
    intro other hmem
    simp at hmem
  have hsplit : (List.range manager.preTool.length).map ToolStep.preHook ++
      [.preTool passed, .invoked input] ++ after =
      ((List.range manager.preTool.length).map ToolStep.preHook ++ [.preTool passed]) ++
        .invoked input :: after := by
    simp
  rw [hsplit]
  constructor
  · intro h
    obtain ⟨⟨other, hother, hinput⟩, hposts⟩ := h _ input after rfl
    have hlast := append_cancel_left hother
    cases hlast
    exact ⟨hinput, hposts⟩
  · rintro ⟨hinput, hposts⟩ before other behind h
    obtain ⟨rfl, heq, rfl⟩ := (append_cons_inj_of_notMem (hbefore other)
      (hafter other)).mp h
    cases heq
    exact ⟨⟨passed, rfl, hinput⟩, hposts⟩

end Traces

/-! ## Threads -/

section Threads

variable {call : HookedCall} {manager : ExecutionHookManager Raise} {payload : PyDict}

/-- The chain ends in time, with what is not taken for a failure of the hooks. -/
def Alone (run : WrapRun Raise) : Prop :=
  run.seconds ≤ hookTimeout ∧
    (run.ends = .interrupted false ∨ (∃ result, run.ends = .ended (.ok result)) ∨
      ∃ gateId, run.ends = .ended (.error (.gatePending gateId)))

theorem exists_direct (behind : List (List ToolStep)) (input : PyDict) :
    ∃ taken, [ToolStep.invoked taken] ∈ (call.directly behind input).1 :=
  ⟨input, mem_append_right _ mem_cons_self⟩

theorem threads_cases (hbridge : call.bridge = none) : Alone (call.wrapped manager payload) ∧
        (call.invokeCapabilityViaHooks (some manager) payload).1 =
          [(call.wrapped manager payload).trace] ∨ ¬ Alone (call.wrapped manager payload) ∧
        ∃ input, [ToolStep.invoked input] ∈
          (call.invokeCapabilityViaHooks (some manager) payload).1 := by
  unfold invokeCapabilityViaHooks
  rw [hbridge]
  dsimp only
  by_cases htime : (call.wrapped manager payload).seconds ≤ hookTimeout
  · rw [if_pos htime]
    cases hends : (call.wrapped manager payload).ends with
    | hangs =>
      refine .inr ⟨fun halone => ?_, exists_direct _ _⟩
      simp [Alone, hends] at halone
    | interrupted cancelled =>
      cases cancelled with
      | true =>
        refine .inr ⟨fun halone => ?_, exists_direct _ _⟩
        simp [Alone, hends] at halone
      | false => exact .inl ⟨⟨htime, .inl hends⟩, rfl⟩
    | ended outcome =>
      cases outcome with
      | ok result => exact .inl ⟨⟨htime, .inr (.inl ⟨result, hends⟩)⟩, rfl⟩
      | error raise =>
        cases raise with
        | gatePending gateId => exact .inl ⟨⟨htime, .inr (.inr ⟨gateId, hends⟩)⟩, rfl⟩
        | _ =>
          refine .inr ⟨fun halone => ?_, exists_direct _ _⟩
          simp [Alone, hends] at halone
  · rw [if_neg htime]
    exact .inr ⟨fun halone => htime halone.1, exists_direct _ _⟩

theorem unbypassed_threads_iff (hbridge : call.bridge = none) :
    (∀ trace ∈ (call.invokeCapabilityViaHooks (some manager) payload).1, Unbypassed manager trace) ↔
      Alone (call.wrapped manager payload) ∧
        Unbypassed manager (call.wrapped manager payload).trace := by
  rcases threads_cases hbridge with ⟨halone, hthreads⟩ | ⟨halone, input, hdirect⟩
  · rw [hthreads, forall_mem_singleton]
    exact (and_iff_right halone).symm
  · exact iff_of_false (fun h => not_unbypassed_direct input (h _ hdirect))
      fun h => halone h.1

end Threads

/-! ## The chain around the capability -/

section Wrapped

variable {call : HookedCall} {manager : ExecutionHookManager Raise} {payload : PyDict}
  {context : ToolCallContext} {outcome : Call} {cancelled : Bool}

theorem wrapped_of_pre_hangs (hpre : (call.pre manager payload).ends = .hangs) :
    (call.wrapped manager payload).ends = .hangs := by
  rw [pre] at hpre
  simp only [wrapped, ExecutionHookManager.wrapToolCall, hpre]

theorem wrapped_of_pre_interrupted
    (hpre : (call.pre manager payload).ends = .interrupted cancelled) :
    call.wrapped manager payload =
      ⟨(List.range (call.pre manager payload).begun).map .preHook, .dict [],
        (call.pre manager payload).payload, .interrupted cancelled,
        (call.pre manager payload).seconds⟩ := by
  rw [pre] at hpre
  simp only [wrapped, ExecutionHookManager.wrapToolCall, hpre, pre]

section Called

variable (hpre : (call.pre manager payload).ends = .ended context)

include hpre

theorem wrapped_of_middle_hangs (hmiddle : (call.middle manager payload).ends = .hangs) :
    (call.wrapped manager payload).ends = .hangs := by
  rw [pre] at hpre
  rw [middle, pre] at hmiddle
  simp only [wrapped, ExecutionHookManager.wrapToolCall, hpre, callFn, hmiddle]

theorem wrapped_of_middle_interrupted
    (hmiddle : (call.middle manager payload).ends = .interrupted cancelled) :
    (call.wrapped manager payload).trace = (List.range manager.preTool.length).map .preHook ++
        [.preTool ⟨(call.pre manager payload).payload, context⟩,
          .invoked (call.pre manager payload).payload] ++ [] := by
  have hbegun := begun_of_ended manager.preTool hpre
  rw [pre] at hpre
  rw [middle, pre] at hmiddle
  simp only [wrapped, ExecutionHookManager.wrapToolCall, hpre, callFn, hmiddle, hbegun, pre,
    append_nil]

section Ended

variable (hmiddle : (call.middle manager payload).ends = .ended outcome)

include hmiddle

theorem wrapped_of_post_hangs (hpost : (call.post manager payload context outcome).ends = .hangs) :
    (call.wrapped manager payload).ends = .hangs := by
  rw [post, middle, pre] at hpost
  rw [pre] at hpre
  rw [middle, pre] at hmiddle
  simp only [wrapped, ExecutionHookManager.wrapToolCall, hpre, callFn, hmiddle, hpost]

theorem wrapped_of_post_interrupted
    (hpost : (call.post manager payload context outcome).ends = .interrupted cancelled) :
    (call.wrapped manager payload).trace = (List.range manager.preTool.length).map .preHook ++
        [.preTool ⟨(call.pre manager payload).payload, context⟩,
          .invoked (call.pre manager payload).payload] ++
        (List.range (call.post manager payload context outcome).begun).map .postHook := by
  have hbegun := begun_of_ended manager.preTool hpre
  rw [post, middle, pre] at hpost
  rw [pre] at hpre
  rw [middle, pre] at hmiddle
  simp only [wrapped, ExecutionHookManager.wrapToolCall, hpre, callFn, hmiddle, hbegun, hpost, pre,
    post, middle]

theorem wrapped_of_post_ended {last : ToolCallResult Raise}
    (hpost : (call.post manager payload context outcome).ends = .ended last) :
    (call.wrapped manager payload).trace = (List.range manager.preTool.length).map .preHook ++
          [.preTool ⟨(call.pre manager payload).payload, context⟩,
            .invoked (call.pre manager payload).payload] ++
          ((List.range manager.postTool.length).map .postHook ++ [.postTool]) ∧
      (call.wrapped manager payload).ends =
        .ended ((outcome.bind call.successText).map fun _ => last) ∧
      (call.wrapped manager payload).seconds =
        (call.pre manager payload).seconds + (call.middle manager payload).seconds +
          (call.post manager payload context outcome).seconds := by
  have hbegun := begun_of_ended manager.preTool hpre
  have hposts := begun_of_ended manager.postTool hpost
  rw [post, middle, pre] at hpost
  rw [pre] at hpre
  rw [middle, pre] at hmiddle
  rw [middle, pre] at hposts
  simp only [wrapped, ExecutionHookManager.wrapToolCall, hpre, callFn, hmiddle, hbegun, hpost,
    hposts, pre, post, middle, append_assoc, and_self]

end Ended

end Called

theorem conclusive_iff (call : HookedCall) (last : ToolCallResult Raise) :
    ((∃ result, (outcome.bind call.successText).map (fun _ => last) = .ok result) ∨
      ∃ gateId, (outcome.bind call.successText).map (fun _ => last) =
        .error (.gatePending gateId)) ↔ Conclusive outcome := by
  cases outcome with
  | error raise => simp [Conclusive, Except.bind, Except.map]
  | ok value =>
    cases value with
    | dict fields => simp [Conclusive, Except.bind, Except.map, successText]
    | none | bool _ | int _ | float _ | str _ | list _ | other _ _ =>
      simp [Conclusive, Except.bind, Except.map, successText]

theorem not_alone_of_hangs {run : WrapRun Raise} (h : run.ends = .hangs) : ¬ Alone run := by
  intro halone
  simp [Alone, h] at halone

theorem unbypassed_middle_iff (payload : PyDict) (context : ToolCallContext)
    {after : List ToolStep} (hafter : ∀ other, ToolStep.invoked other ∉ after) :
    Unbypassed manager ((List.range manager.preTool.length).map .preHook ++
        [.preTool ⟨payload, context⟩, .invoked payload] ++ after) ↔
      (Carried.mk payload context).toolInput = payload ∧
        after = (List.range manager.postTool.length).map .postHook ++ [.postTool] := by
  rw [unbypassed_called_iff hafter, eq_comm]

theorem alone_unbypassed_iff_of_ended (hpre : (call.pre manager payload).ends = .ended context)
    (hmiddle : (call.middle manager payload).ends = .ended outcome) :
    Alone (call.wrapped manager payload) ∧ Unbypassed manager (call.wrapped manager payload).trace ↔
      ∃ context outcome last, call.PassesThrough manager payload context outcome last := by
  have honly : (∃ context outcome last, call.PassesThrough manager payload context outcome last) ↔
      ∃ last, call.PassesThrough manager payload context outcome last := by
    constructor
    · rintro ⟨other, otherOutcome, last, hpasses⟩
      obtain rfl := AwaitEnd.ended.inj (hpre.symm.trans hpasses.pre)
      obtain rfl := AwaitEnd.ended.inj (hmiddle.symm.trans hpasses.middle)
      exact ⟨last, hpasses⟩
    · rintro ⟨last, hpasses⟩
      exact ⟨context, outcome, last, hpasses⟩
  rw [honly]
  cases hpost : (call.post manager payload context outcome).ends with
  | hangs =>
    refine iff_of_false
      (fun h => not_alone_of_hangs (wrapped_of_post_hangs hpre hmiddle hpost) h.1) ?_
    rintro ⟨last, hpasses⟩
    exact absurd (hpost.symm.trans hpasses.post) nofun
  | interrupted cancelled =>
    have hposts : ∀ other, ToolStep.invoked other ∉
        (List.range (call.post manager payload context outcome).begun).map
          ToolStep.postHook := by
      intro other hmem
      simp at hmem
    rw [wrapped_of_post_interrupted hpre hmiddle hpost, unbypassed_middle_iff _ _ hposts]
    refine iff_of_false (fun h => ?_) ?_
    · have hmem : ToolStep.postTool ∈
          (List.range (call.post manager payload context outcome).begun).map
            ToolStep.postHook := by
        rw [h.2.2]
        exact mem_append_right _ mem_cons_self
      simp at hmem
    · rintro ⟨last, hpasses⟩
      exact absurd (hpost.symm.trans hpasses.post) nofun
  | ended last =>
    have hposts : ∀ other, ToolStep.invoked other ∉
        (List.range manager.postTool.length).map ToolStep.postHook ++ [.postTool] := by
      intro other hmem
      simp at hmem
    obtain ⟨htrace, hends, hseconds⟩ := wrapped_of_post_ended hpre hmiddle hpost
    have halone : Alone (call.wrapped manager payload) ↔
        (call.pre manager payload).seconds + (call.middle manager payload).seconds +
          (call.post manager payload context outcome).seconds ≤ hookTimeout ∧
        Conclusive outcome := by
      rw [Alone, hends, hseconds, ← conclusive_iff call last]
      simp
    rw [htrace, unbypassed_middle_iff _ _ hposts, and_iff_left rfl, halone]
    constructor
    · rintro ⟨⟨htime, hconclusive⟩, hinput⟩
      exact ⟨last, hpre, hinput, hmiddle, hconclusive, hpost, htime⟩
    · rintro ⟨_, hpasses⟩
      exact ⟨⟨hpasses.inTime, hpasses.conclusive⟩, hpasses.input⟩

theorem alone_unbypassed_iff : Alone (call.wrapped manager payload) ∧
        Unbypassed manager (call.wrapped manager payload).trace ↔
      call.LeavesBefore manager payload ∨
        ∃ context outcome last, call.PassesThrough manager payload context outcome last := by
  cases hpre : (call.pre manager payload).ends with
  | hangs =>
    refine iff_of_false (fun h => not_alone_of_hangs (wrapped_of_pre_hangs hpre) h.1) ?_
    rintro (hleaves | ⟨context, outcome, last, hpasses⟩)
    · exact absurd (hpre.symm.trans hleaves.1) nofun
    · exact absurd (hpre.symm.trans hpasses.pre) nofun
  | interrupted cancelled =>
    have hnot : ¬ ∃ context outcome last,
        call.PassesThrough manager payload context outcome last := by
      rintro ⟨context, outcome, last, hpasses⟩
      exact absurd (hpre.symm.trans hpasses.pre) nofun
    rw [or_iff_left hnot, wrapped_of_pre_interrupted hpre, LeavesBefore, hpre,
      and_iff_left (unbypassed_hooks _)]
    cases cancelled with
    | true => simp [Alone]
    | false => simp [Alone]
  | ended context =>
    have hnot : ¬ call.LeavesBefore manager payload :=
      fun hleaves => absurd (hpre.symm.trans hleaves.1) nofun
    rw [or_iff_right hnot]
    cases hmiddle : (call.middle manager payload).ends with
    | hangs =>
      refine iff_of_false
        (fun h => not_alone_of_hangs (wrapped_of_middle_hangs hpre hmiddle) h.1) ?_
      rintro ⟨_, outcome, last, hpasses⟩
      exact absurd (hmiddle.symm.trans hpasses.middle) nofun
    | interrupted cancelled =>
      rw [wrapped_of_middle_interrupted hpre hmiddle,
        unbypassed_middle_iff _ _ fun _ => not_mem_nil]
      refine iff_of_false (fun h => ?_) ?_
      · exact append_ne_nil_of_right_ne_nil _ (cons_ne_nil _ _) h.2.2.symm
      · rintro ⟨_, outcome, last, hpasses⟩
        exact absurd (hmiddle.symm.trans hpasses.middle) nofun
    | ended outcome => exact alone_unbypassed_iff_of_ended hpre hmiddle

end Wrapped

/-- A `pre_tool` hook that returns a context with the text masked. -/
def masking : ExecutionHookManager Raise where
  preTool := [fun carried =>
    { after := carried
      ends := .ended (some
        { carried.current with toolInput := .other [("text", .str "***")] })
      seconds := 0 }]
  postTool := []

/-- A call of a capability that succeeds. -/
def succeeding : HookedCall where
  runId := "run-1"
  currentStage := "S1"
  actionSeq := 0
  actionKind := "send"
  str := fun _ => "True"
  bridge := none
  hooked := fun payload => ⟨payload, .ended (.ok (.dict [("success", .bool true)])), 0⟩
  direct := fun payload => ⟨payload, .ended (.ok (.dict [("success", .bool true)])), 0⟩
  payloadAtTimeout := []

def masked : Carried ToolCallContext :=
  ⟨[("text", .str "secret")], { succeeding.toolContext [("text", .str "secret")] with
      toolInput := .other [("text", .str "***")] }⟩

end HookedCall

end HiAgent.Execution
