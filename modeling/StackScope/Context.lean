import StackScope.Heap
import StackScope.Word

/-!
Contexts: one thread of execution with the stack of calls it owns. All frames share one stack of
values. Each frame has a window on it, given by two absolute positions, and the windows of calls
that nest follow one another.

A register lives in the shared stack until it is captured. From then on it lives in a cell of the
heap, and the frame remembers which cell belongs to which position. A closure that holds the cell
keeps it after the frame is gone.
-/

namespace StackScope

structure Frame where
  function : FunctionId
  /-- The code of the function, which never changes. -/
  code : Code
  /-- The instruction that is being executed. -/
  position : Nat := 0
  /-- The first position of the window. -/
  base : Nat
  /-- One past the last position of the window. -/
  top : Nat
  /-- How many activations tail calls have replaced by this one. -/
  tailCalls : Nat := 0
  /-- The cells of captured registers, by absolute position. -/
  captured : List (Nat × CellId) := []
deriving Inhabited

namespace Frame

def isHost (frame : Frame) : Bool := frame.code.isHost

def isIntrospective (frame : Frame) : Bool := frame.code.isIntrospective

def prototype? (frame : Frame) : Option Prototype := frame.code.prototype?

def isMainChunk (frame : Frame) : Bool := frame.prototype?.any Prototype.isMain

def currentLine? (frame : Frame) : Option Nat :=
  frame.prototype?.bind fun prototype => prototype.lineAt? frame.position

def cellAt? (frame : Frame) (slot : Nat) : Option CellId := frame.captured.lookup slot

end Frame

structure Context where
  heap : Heap
  stack : List Value := []
  /-- The innermost frame comes first. -/
  frames : List Frame := []
  thread : ThreadId
  /-- The metatable of all texts. -/
  stringMetatable : Option TableId := none
  config : Config := {}
deriving Inhabited

abbrev Outcome (α : Type) := Except Fault α × Context

namespace Context

def create (heap : Heap) (config : Config) : Context :=
  let (globals, heap) := heap.addTable {}
  let (thread, heap) := heap.addThread { name := "main", environment := globals }
  { heap, thread, config }

def setConfig (context : Context) (config : Config) : Context := { context with config }

def globals (context : Context) : TableId := (context.heap.thread context.thread).environment

def getGlobal (context : Context) (name : String) : Value :=
  (context.heap.table context.globals).get name

def setGlobal (context : Context) (name : String) (value : Value) : Context :=
  let globals := context.globals
  { context with
    heap := context.heap.setTable globals ((context.heap.table globals).set name value) }

def depth (context : Context) : Nat := context.frames.length

def currentFrame? (context : Context) : Option Frame := context.frames.head?

/-- A frame by its position, counted from the outermost one. -/
def frameAt? (context : Context) (index : Nat) : Option Frame := context.frames.reverse[index]?

/-- The window of a call to a function: one register for each argument of a host function, and for
a script function as many as its code needs, the parameters first. -/
def initialWindow (code : Code) (arguments : List Value) : List Value :=
  match code with
  | .host _ => arguments
  | .script prototype =>
      let parameters := arguments.take prototype.parameterCount
      parameters ++ List.replicate (prototype.windowSize - parameters.length) .nil

theorem length_initialWindow_script (prototype : Prototype) (arguments : List Value) :
    (initialWindow (.script prototype) arguments).length = prototype.windowSize := by
  simp only [initialWindow, List.length_append, List.length_replicate, List.length_take,
    Prototype.windowSize]
  omega

def call (context : Context) (function : FunctionId) (arguments : List Value) : Outcome Unit :=
  if context.config.maxCallDepth ≤ context.depth then
    (.error (.stackOverflow context.config.maxCallDepth), context)
  else
    let code := (context.heap.function function).code
    let base := context.stack.length
    let stack := context.stack ++ initialWindow code arguments
    (.ok (), { context with
      stack
      frames := { function, code, base, top := stack.length } :: context.frames })

def popFrame (context : Context) : Context :=
  match context.frames with
  | [] => context
  | frame :: outer => { context with frames := outer, stack := context.stack.take frame.base }

def modifyCurrent (context : Context) (change : Frame → Frame) : Context :=
  match context.frames with
  | [] => context
  | frame :: outer => { context with frames := change frame :: outer }

/-- Replaces the current script frame by a call to another script function. The frame is gone by
the time the call is tried. -/
def tailCall (context : Context) (function : FunctionId) (arguments : List Value) :
    Outcome Unit :=
  match context.frames with
  | [] => (.error (.runtime .tailCallWithoutFrame), context)
  | frame :: _ =>
      if frame.isHost then (.error (.runtime .tailCallFromHost), context)
      else if (context.heap.function function).code.isHost then
        (.error (.runtime .tailCallToHost), context)
      else
        let collapsed := Word.nextCount frame.tailCalls
        match context.popFrame.call function arguments with
        | (.error fault, context) => (.error fault, context)
        | (.ok (), context) =>
            (.ok (), context.modifyCurrent fun frame => { frame with tailCalls := collapsed })

def returnFromCall (context : Context) : Outcome Unit :=
  if context.frames.isEmpty then (.error (.runtime .returnWithoutFrame), context)
  else (.ok (), context.popFrame)

def unwind (context : Context) : Context := { context with frames := [], stack := [] }

def setPosition (context : Context) (position : Nat) : Outcome Unit :=
  match context.frames with
  | [] => (.error (.runtime .positionWithoutFrame), context)
  | frame :: _ =>
      match frame.code with
      | .host _ => (.error (.runtime .positionInHost), context)
      | .script prototype =>
          if position < prototype.instructions.length then
            (.ok (), context.modifyCurrent fun frame => { frame with position })
          else
            (.error (.runtime (.positionOutside position prototype.instructions.length)), context)

/-! ### Registers -/

def readSlot (context : Context) (frame : Frame) (slot : Nat) : Value :=
  match frame.cellAt? slot with
  | some cell => context.heap.cell cell
  | none => context.stack[slot]?.getD .nil

def writeSlot (context : Context) (frame : Frame) (slot : Nat) (value : Value) : Context :=
  match frame.cellAt? slot with
  | some cell => { context with heap := context.heap.setCell cell value }
  | none => { context with stack := context.stack.set slot value }

/-- The absolute position of a register of a frame, if the window reaches that far. The sum is
checked: an address that exceeds a word stops the machine. -/
def slotOf (frame : Frame) (register : Nat) : Except Fault (Option Nat) :=
  let slot := frame.base + register
  if Word.size64 ≤ slot then .error .addressOverflow
  else .ok (if slot < frame.top then some slot else none)

def readRegister (context : Context) (register : Nat) : Except Fault (Option Value) :=
  match context.frames with
  | [] => .ok none
  | frame :: _ => (slotOf frame register).map fun slot => slot.map (context.readSlot frame)

def setRegister (context : Context) (register : Nat) (value : Value) : Outcome Unit :=
  match context.frames with
  | [] => (.error (.runtime .noFrame), context)
  | frame :: _ =>
      match slotOf frame register with
      | .error fault => (.error fault, context)
      | .ok none => (.error (.runtime (.registerOutside register)), context)
      | .ok (some slot) => (.ok (), context.writeSlot frame slot value)

/-- The cell of a register of the current frame. Only the first capture of a register makes a new
cell, which takes over the value. -/
def capture (context : Context) (register : Nat) : Outcome CellId :=
  match context.frames with
  | [] => (.error (.runtime .noFrame), context)
  | frame :: outer =>
      match slotOf frame register with
      | .error fault => (.error fault, context)
      | .ok none => (.error (.runtime (.registerOutside register)), context)
      | .ok (some slot) =>
          match frame.cellAt? slot with
          | some cell => (.ok cell, context)
          | none =>
              let (cell, heap) := context.heap.addCell (context.stack[slot]?.getD .nil)
              let captured := (slot, cell) :: frame.captured
              (.ok cell, { context with heap, frames := { frame with captured } :: outer })

end Context

end StackScope
