import StackScope.Proofs.HostRun

/-!
A machine with a cell for each register. A frame is given its cells when it is pushed, one for each
register of its window. Registers and locals are read and written in their cells and nowhere else,
and a capture hands out the cell that is there.

There is no shared stack, so registers are told apart by the activation that they belong to. What a
register is never changes: activations are numbered in the order in which they begin, and a frame
that is replaced or removed takes its number along.

Inspection that does not look into registers, such as levels and tracebacks, is that of contexts,
applied to the frames without their windows.
-/

namespace StackScope

inductive CellName where
  /-- A cell from before the first activation. -/
  | older (cell : CellId)
  | register (activation register : Nat)
deriving DecidableEq

/-- A cell that a program holds. The machine never looks at the name. -/
structure BoxedHandle where
  name : CellName
  cell : CellId

def BoxedHandle.older (cell : CellId) : BoxedHandle := ⟨.older cell, cell⟩

structure BoxedFrame where
  function : FunctionId
  code : Code
  position : Nat := 0
  tailCalls : Nat := 0
  activation : Nat
  /-- The cell of each register. -/
  registers : List CellId

def BoxedFrame.view (frame : BoxedFrame) : Frame where
  function := frame.function
  code := frame.code
  position := frame.position
  base := 0
  top := 0
  tailCalls := frame.tailCalls

def registerCount (code : Code) (arguments : List Value) : Nat :=
  match code with
  | .host _ => arguments.length
  | .script prototype => max prototype.stackSize prototype.parameterCount

/-- What a register holds when the call begins. A script function takes as many arguments as it has
parameters, and its other registers start as nil. -/
def initialRegister (code : Code) (arguments : List Value) (register : Nat) : Value :=
  match code with
  | .host _ => arguments[register]?.getD .nil
  | .script prototype =>
      if register < prototype.parameterCount then arguments[register]?.getD .nil else .nil

structure Boxed where
  heap : Heap
  /-- The innermost frame comes first. -/
  frames : List BoxedFrame := []
  /-- How many activations have begun. -/
  activations : Nat := 0
  thread : ThreadId
  stringMetatable : Option TableId := none
  config : Config := {}

abbrev BoxedOutcome (α : Type) := Except Fault α × Boxed

namespace Boxed

def create (heap : Heap) (config : Config) : Boxed where
  heap := (Context.create heap config).heap
  thread := (Context.create heap config).thread
  config := config

def depth (boxed : Boxed) : Nat := boxed.frames.length

def view (boxed : Boxed) : Context where
  heap := boxed.heap
  frames := boxed.frames.map BoxedFrame.view
  thread := boxed.thread
  stringMetatable := boxed.stringMetatable
  config := boxed.config

def pushFrame (boxed : Boxed) (function : FunctionId) (arguments : List Value)
    (tailCalls : Nat) : Boxed :=
  let code := (boxed.heap.function function).code
  let (registers, heap) := boxed.heap.addCells
    ((List.range (registerCount code arguments)).map (initialRegister code arguments))
  { boxed with
    heap
    frames := { function, code, tailCalls, activation := boxed.activations, registers } ::
      boxed.frames
    activations := boxed.activations + 1 }

def popFrame (boxed : Boxed) : Boxed := { boxed with frames := boxed.frames.tail }

def call (boxed : Boxed) (function : FunctionId) (arguments : List Value) : BoxedOutcome Unit :=
  if boxed.config.maxCallDepth ≤ boxed.depth then
    (.error (.stackOverflow boxed.config.maxCallDepth), boxed)
  else (.ok (), boxed.pushFrame function arguments 0)

/-- As in contexts, the current frame is gone by the time the new call can be refused. -/
def tailCall (boxed : Boxed) (function : FunctionId) (arguments : List Value) :
    BoxedOutcome Unit :=
  match boxed.frames with
  | [] => (.error (.runtime .tailCallWithoutFrame), boxed)
  | frame :: outer =>
      if frame.code.isHost then (.error (.runtime .tailCallFromHost), boxed)
      else if (boxed.heap.function function).code.isHost then
        (.error (.runtime .tailCallToHost), boxed)
      else if boxed.config.maxCallDepth ≤ outer.length then
        (.error (.stackOverflow boxed.config.maxCallDepth), boxed.popFrame)
      else
        (.ok (), boxed.popFrame.pushFrame function arguments (Word.nextCount frame.tailCalls))

def returnFromCall (boxed : Boxed) : BoxedOutcome Unit :=
  match boxed.frames with
  | [] => (.error (.runtime .returnWithoutFrame), boxed)
  | _ :: _ => (.ok (), boxed.popFrame)

def unwind (boxed : Boxed) : Boxed := { boxed with frames := [] }

def setPosition (boxed : Boxed) (position : Nat) : BoxedOutcome Unit :=
  match boxed.frames with
  | [] => (.error (.runtime .positionWithoutFrame), boxed)
  | frame :: outer =>
      match frame.code with
      | .host _ => (.error (.runtime .positionInHost), boxed)
      | .script prototype =>
          if position < prototype.instructions.length then
            (.ok (), { boxed with frames := { frame with position } :: outer })
          else
            (.error (.runtime (.positionOutside position prototype.instructions.length)), boxed)

def register? (boxed : Boxed) (register : Nat) : Option Value :=
  match boxed.frames with
  | [] => none
  | frame :: _ => frame.registers[register]?.map boxed.heap.cell

def setCell (boxed : Boxed) (cell : CellId) (value : Value) : Boxed :=
  { boxed with heap := boxed.heap.setCell cell value }

def setRegister (boxed : Boxed) (register : Nat) (value : Value) : BoxedOutcome Unit :=
  match boxed.frames with
  | [] => (.error (.runtime .noFrame), boxed)
  | frame :: _ =>
      match frame.registers[register]? with
      | none => (.error (.runtime (.registerOutside register)), boxed)
      | some cell => (.ok (), boxed.setCell cell value)

/-- A capture changes nothing. -/
def capture (boxed : Boxed) (register : Nat) : Except Fault BoxedHandle :=
  match boxed.frames with
  | [] => .error (.runtime .noFrame)
  | frame :: _ =>
      match frame.registers[register]? with
      | none => .error (.runtime (.registerOutside register))
      | some cell => .ok ⟨.register frame.activation register, cell⟩

def local? (boxed : Boxed) (level : Level) (ordinal : Nat) :
    Option (CellId × Option String) := do
  let index ← level.index?
  let frame ← boxed.frames.reverse[index]?
  let prototype ← frame.code.prototype?
  let scope ← prototype.localAt? ordinal frame.position
  let cell ← frame.registers[ordinal - 1]?
  return (cell, scope.name)

def getLocal? (boxed : Boxed) (level : Level) (ordinal : Nat) : Option NamedValue :=
  (boxed.local? level ordinal).map fun place => ⟨place.2, boxed.heap.cell place.1⟩

def setLocal (boxed : Boxed) (level : Level) (ordinal : Nat) (value : Value) :
    Option (Option String) × Boxed :=
  match boxed.local? level ordinal with
  | none => (none, boxed)
  | some (cell, name) => (some name, boxed.setCell cell value)

def readLocal (arguments : List Value) (boxed : Boxed) : Except Fault (List Value) := do
  let number ← Arguments.integer arguments 1
  let ordinal ← Arguments.integer arguments 2
  let level ← DebugFunction.checkLevel boxed.view number
  return DebugFunction.slotResults ((Arguments.count? ordinal).bind (boxed.getLocal? level))

def runSetLocal (arguments : List Value) (boxed : Boxed) : BoxedOutcome (List Value) :=
  match DebugFunction.writeLocalQuery arguments boxed.view with
  | .error fault => (.error fault, boxed)
  | .ok (_, none, _) => (.ok (DebugFunction.nameResults none), boxed)
  | .ok (level, some ordinal, value) =>
      let (name, boxed) := boxed.setLocal level ordinal value
      (.ok (DebugFunction.nameResults name), boxed)

/-- Only two functions look into registers; the others change objects at most. -/
def runLibrary (function : DebugFunction) (arguments : List Value) (boxed : Boxed) :
    BoxedOutcome (List Value) :=
  match function with
  | .getLocal => (readLocal arguments boxed, boxed)
  | .setLocal => runSetLocal arguments boxed
  | other =>
      let (result, after) := other.run arguments boxed.view
      (result, { boxed with heap := after.heap, stringMetatable := after.stringMetatable })

/-! ### Operations and programs -/

abbrev Caller := FunctionId → List Value → Boxed → BoxedOutcome (List Value)

def sameCell (handles : List BoxedHandle) (left right : Nat) : Bool :=
  match handles[left]?, handles[right]? with
  | some left, some right => decide (left.cell = right.cell)
  | _, _ => false

def execute (callHost : Caller) (handles : List BoxedHandle) (boxed : Boxed) :
    (operation : Operation) → operation.Reply × List BoxedHandle × Boxed
  | .call function arguments =>
      let (reply, boxed) := boxed.call function arguments
      (reply, handles, boxed)
  | .tailCall function arguments =>
      let (reply, boxed) := boxed.tailCall function arguments
      (reply, handles, boxed)
  | .callHost function arguments =>
      let (reply, boxed) := callHost function arguments boxed
      (reply, handles, boxed)
  | .returnFromCall =>
      let (reply, boxed) := boxed.returnFromCall
      (reply, handles, boxed)
  | .unwind => ((), handles, boxed.unwind)
  | .setPosition position =>
      let (reply, boxed) := boxed.setPosition position
      (reply, handles, boxed)
  | .readRegister register => (.ok (boxed.register? register), handles, boxed)
  | .writeRegister register value =>
      let (reply, boxed) := boxed.setRegister register value
      (reply, handles, boxed)
  | .capture register =>
      match boxed.capture register with
      | .error fault => (.error fault, handles, boxed)
      | .ok handle => (.ok handles.length, handles ++ [handle], boxed)
  | .readCell handle => (handles[handle]?.map fun held => boxed.heap.cell held.cell, handles, boxed)
  | .writeCell handle value =>
      match handles[handle]? with
      | none => ((), handles, boxed)
      | some held => ((), handles, boxed.setCell held.cell value)
  | .sameCell left right => (sameCell handles left right, handles, boxed)
  | .makeClosure prototype asked =>
      let (function, heap) := boxed.heap.addFunction
        { code := .script prototype
          upvalues := asked.filterMap fun handle => handles[handle]?.map BoxedHandle.cell }
      (function, handles, { boxed with heap })
  | .getLocal level ordinal => (boxed.getLocal? level ordinal, handles, boxed)
  | .setLocal level ordinal value =>
      let (reply, boxed) := boxed.setLocal level ordinal value
      (reply, handles, boxed)
  | .getUpvalue function ordinal => (boxed.heap.getUpvalue? function ordinal, handles, boxed)
  | .setUpvalue function ordinal value =>
      let (reply, heap) := boxed.heap.setUpvalue function ordinal value
      (reply, handles, { boxed with heap })
  | .depth => (boxed.depth, handles, boxed)
  | .levelCount => (boxed.view.levelCount, handles, boxed)
  | .lookupLevel number => (boxed.view.level? number, handles, boxed)
  | .traceback start message => (boxed.view.traceback start message, handles, boxed)
  | .setConfig config => ((), handles, { boxed with config })

def run (callHost : Caller) : HostProgram → List BoxedHandle → Boxed → BoxedOutcome (List Value)
  | .finish result, _, boxed => (result, boxed)
  | .perform operation next, handles, boxed =>
      let (reply, handles, boxed) := boxed.execute callHost handles operation
      run callHost (next reply) handles boxed

def runBody (callHost : Caller) (body : HostBody) (arguments : List Value) (boxed : Boxed) :
    BoxedOutcome (List Value) :=
  match body with
  | .debug function => boxed.runLibrary function arguments
  | .program start => run callHost (start arguments) [] boxed

def callHostWith (callHost : Caller) : Caller := fun function arguments boxed =>
  match (boxed.heap.function function).code with
  | .script _ => (.error (.runtime .hostFunctionExpected), boxed)
  | .host host =>
      match boxed.call function arguments with
      | (.error fault, boxed) => (.error fault, boxed)
      | (.ok (), boxed) =>
          let (result, boxed) := runBody callHost host.body arguments boxed
          (result.mapError (Fault.inFunction host.name), boxed.popFrame)

def callHostWithin : (nesting : Nat) → Caller
  | 0 => fun _ _ boxed => (.error (.stackOverflow boxed.config.maxCallDepth), boxed)
  | nesting + 1 => callHostWith (callHostWithin nesting)

def runProgram (boxed : Boxed) (handles : List BoxedHandle) (program : HostProgram) :
    BoxedOutcome (List Value) :=
  run (callHostWithin nestingLimit) program handles boxed

end Boxed

structure BoxedEvent where
  operation : Operation
  held : List BoxedHandle
  reply : operation.Reply

namespace Boxed

abbrev Witness := FunctionId → List Value → Boxed → List BoxedEvent

def inner (witness : Witness) (boxed : Boxed) : Operation → List BoxedEvent
  | .callHost function arguments => witness function arguments boxed
  | _ => []

def events (callHost : Caller) (witness : Witness) :
    HostProgram → List BoxedHandle → Boxed → List BoxedEvent
  | .finish _, _, _ => []
  | .perform operation next, handles, boxed =>
      let (reply, later, after) := boxed.execute callHost handles operation
      ⟨operation, handles, reply⟩ ::
        (boxed.inner witness operation ++ events callHost witness (next reply) later after)

def bodyEvents (callHost : Caller) (witness : Witness) (body : HostBody)
    (arguments : List Value) (boxed : Boxed) : List BoxedEvent :=
  match body with
  | .debug _ => []
  | .program start => events callHost witness (start arguments) [] boxed

def hostEventsWith (callHost : Caller) (witness : Witness) : Witness :=
  fun function arguments boxed =>
    match (boxed.heap.function function).code with
    | .script _ => []
    | .host host =>
        match boxed.call function arguments with
        | (.error _, _) => []
        | (.ok (), boxed) => bodyEvents callHost witness host.body arguments boxed

def hostEventsWithin : (nesting : Nat) → Witness
  | 0 => fun _ _ _ => []
  | nesting + 1 => hostEventsWith (callHostWithin nesting) (hostEventsWithin nesting)

def programEvents (boxed : Boxed) (handles : List BoxedHandle) (program : HostProgram) :
    List BoxedEvent :=
  events (callHostWithin nestingLimit) (hostEventsWithin nestingLimit) program handles boxed

end Boxed

end StackScope
