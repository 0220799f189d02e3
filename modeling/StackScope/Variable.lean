import StackScope.Context

/-!
Access to variables: the locals of a frame and the upvalues of a function, both counted from one. A
count with no variable is answered by nothing, which is no error. Locals are the leading registers
of the frame's window and are read and written in place.
-/

namespace StackScope

namespace Context

structure LocalPlace where
  index : Nat
  frame : Frame
  slot : Nat
  name : Option String

/-- The place of the local with an ordinal: it has to be live, and its register has to be inside the
window. -/
def locate? (context : Context) (level : Level) (ordinal : Nat) : Option LocalPlace := do
  let index ← level.index?
  let frame ← context.frameAt? index
  let prototype ← frame.prototype?
  let scope ← prototype.localAt? ordinal frame.position
  let slot := frame.base + ordinal - 1
  if slot < frame.top then some ⟨index, frame, slot, scope.name⟩ else none

def getLocal? (context : Context) (level : Level) (ordinal : Nat) : Option NamedValue :=
  (context.locate? level ordinal).map fun place =>
    ⟨place.name, context.readSlot place.frame place.slot⟩

def setLocal (context : Context) (level : Level) (ordinal : Nat) (value : Value) :
    Option (Option String) × Context :=
  match context.locate? level ordinal with
  | none => (none, context)
  | some place => (some place.name, context.writeSlot place.frame place.slot value)

end Context

namespace Heap

def upvalue? (heap : Heap) (function : FunctionId) (ordinal : Nat) :
    Option (CellId × Option String) :=
  match ordinal with
  | 0 => none
  | index + 1 =>
      let object := heap.function function
      object.upvalues[index]?.map fun cell => (cell, object.code.upvalueName? index)

def getUpvalue? (heap : Heap) (function : FunctionId) (ordinal : Nat) : Option NamedValue :=
  (heap.upvalue? function ordinal).map fun upvalue => ⟨upvalue.2, heap.cell upvalue.1⟩

/-- Answers with the name of the upvalue that was written. All closures that hold the cell see the
new value. -/
def setUpvalue (heap : Heap) (function : FunctionId) (ordinal : Nat) (value : Value) :
    Option (Option String) × Heap :=
  match heap.upvalue? function ordinal with
  | none => (none, heap)
  | some (cell, name) => (some name, heap.setCell cell value)

end Heap

end StackScope
