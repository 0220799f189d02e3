import StackScope.Library.Debug

/-!
Running host functions. A call gives the function a frame of its own, runs its body and then removes
the innermost frame, whatever the body has done to the frames in between.

Host functions may call host functions. The depth to which running bodies may nest is bounded by a
number that no machine of 64 bits can reach; beyond it a call is refused as too deep.
-/

namespace StackScope

abbrev HostCaller := FunctionId → List Value → Context → Outcome (List Value)

def obtained (cells : List CellId) (handles : List Nat) : List CellId :=
  handles.filterMap fun handle => cells[handle]?

def Operation.execute (callHost : HostCaller) (cells : List CellId) (context : Context) :
    (operation : Operation) → operation.Reply × List CellId × Context
  | .call function arguments =>
      let (reply, context) := context.call function arguments
      (reply, cells, context)
  | .tailCall function arguments =>
      let (reply, context) := context.tailCall function arguments
      (reply, cells, context)
  | .callHost function arguments =>
      let (reply, context) := callHost function arguments context
      (reply, cells, context)
  | .returnFromCall =>
      let (reply, context) := context.returnFromCall
      (reply, cells, context)
  | .unwind => ((), cells, context.unwind)
  | .setPosition position =>
      let (reply, context) := context.setPosition position
      (reply, cells, context)
  | .readRegister register => (context.readRegister register, cells, context)
  | .writeRegister register value =>
      let (reply, context) := context.setRegister register value
      (reply, cells, context)
  | .capture register =>
      match context.capture register with
      | (.error fault, context) => (.error fault, cells, context)
      | (.ok cell, context) => (.ok cells.length, cells ++ [cell], context)
  | .readCell handle => (cells[handle]?.map context.heap.cell, cells, context)
  | .writeCell handle value =>
      match cells[handle]? with
      | none => ((), cells, context)
      | some cell => ((), cells, { context with heap := context.heap.setCell cell value })
  | .sameCell left right =>
      (cells[left]?.isSome && cells[left]? == cells[right]?, cells, context)
  | .makeClosure prototype handles =>
      let (function, heap) := context.heap.addFunction
        { code := .script prototype, upvalues := obtained cells handles }
      (function, cells, { context with heap })
  | .getLocal level ordinal => (context.getLocal? level ordinal, cells, context)
  | .setLocal level ordinal value =>
      let (reply, context) := context.setLocal level ordinal value
      (reply, cells, context)
  | .getUpvalue function ordinal => (context.heap.getUpvalue? function ordinal, cells, context)
  | .setUpvalue function ordinal value =>
      let (reply, heap) := context.heap.setUpvalue function ordinal value
      (reply, cells, { context with heap })
  | .depth => (context.depth, cells, context)
  | .levelCount => (context.levelCount, cells, context)
  | .lookupLevel number => (context.level? number, cells, context)
  | .traceback start message => (context.traceback start message, cells, context)
  | .setConfig config => ((), cells, context.setConfig config)

namespace HostProgram

def run (callHost : HostCaller) : HostProgram → List CellId → Context → Outcome (List Value)
  | .finish result, _, context => (result, context)
  | .perform operation next, cells, context =>
      let (reply, cells, context) := operation.execute callHost cells context
      (next reply).run callHost cells context

end HostProgram

namespace HostBody

def run (callHost : HostCaller) (body : HostBody) (arguments : List Value) (context : Context) :
    Outcome (List Value) :=
  match body with
  | .debug function => function.run arguments context
  | .program start => (start arguments).run callHost [] context

end HostBody

/-- Calls a host function, answering the calls that it makes in turn by `callHost`. An argument
error without a function name gets the name of this one. -/
def callHostWith (callHost : HostCaller) (function : FunctionId) (arguments : List Value)
    (context : Context) : Outcome (List Value) :=
  match (context.heap.function function).code with
  | .script _ => (.error (.runtime .hostFunctionExpected), context)
  | .host host =>
      match context.call function arguments with
      | (.error fault, context) => (.error fault, context)
      | (.ok (), context) =>
          let (result, context) := host.body.run callHost arguments context
          (result.mapError (Fault.inFunction host.name), context.popFrame)

def callHostWithin : (nesting : Nat) → HostCaller
  | 0, _, _, context => (.error (.stackOverflow context.config.maxCallDepth), context)
  | nesting + 1, function, arguments, context =>
      callHostWith (callHostWithin nesting) function arguments context

/-- More nested calls than a machine of 64 bits can hold. -/
def nestingLimit : Nat := Word.size64

namespace Context

def callHost (context : Context) (function : FunctionId) (arguments : List Value) :
    Outcome (List Value) :=
  callHostWithin nestingLimit function arguments context

end Context

end StackScope
