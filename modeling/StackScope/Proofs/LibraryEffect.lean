import StackScope.Library.Debug
import StackScope.Proofs.HeapGrowth

/-!
What the functions of the debug library can do to a context. They never touch the frames, and they
touch the stack only by writing a local; everything else is a change of the heap or of the metatable
of texts.
-/

namespace StackScope

namespace Context

def withObjects (context : Context) (heap : Heap) (stringMetatable : Option TableId) : Context :=
  { context with heap, stringMetatable }

/-- An effect on the objects alone. -/
def ObjectsGrow (context later : Context) : Prop :=
  ∃ heap stringMetatable, context.heap.Grows heap ∧
    later = context.withObjects heap stringMetatable

theorem ObjectsGrow.refl (context : Context) : context.ObjectsGrow context :=
  ⟨context.heap, context.stringMetatable, .refl context.heap, rfl⟩

theorem ObjectsGrow.ofHeap {context : Context} {heap : Heap} (grows : context.heap.Grows heap) :
    context.ObjectsGrow { context with heap } :=
  ⟨heap, context.stringMetatable, grows, rfl⟩

theorem putMetatable_grows (context : Context) (value : Value) (metatable : Option TableId) :
    context.ObjectsGrow (context.putMetatable value metatable) := by
  unfold putMetatable
  cases value with
  | table id => exact .ofHeap (.setTable id _)
  | userdata id => exact .ofHeap (.setUserdata id _)
  | function id => exact .ofHeap (.setFunction rfl rfl)
  | thread id => exact .ofHeap (.setThread id _)
  | text _ => exact ⟨context.heap, metatable, .refl context.heap, rfl⟩
  | nil => exact .refl context
  | boolean _ => exact .refl context
  | number _ => exact .refl context

theorem setMetatable_grows (context : Context) (value metatable : Value) :
    context.ObjectsGrow (context.setMetatable value metatable).2 := by
  unfold setMetatable
  split
  · exact .refl context
  · split
    · exact .refl context
    · exact putMetatable_grows context value _

theorem putEnvironment_grows (context : Context) (value : Value) (environment : TableId) :
    context.ObjectsGrow (context.putEnvironment value environment) := by
  unfold putEnvironment
  cases value with
  | function id => exact .ofHeap (.setFunction rfl rfl)
  | userdata id => exact .ofHeap (.setUserdata id _)
  | thread id => exact .ofHeap (.setThread id _)
  | table _ => exact .refl context
  | text _ => exact .refl context
  | nil => exact .refl context
  | boolean _ => exact .refl context
  | number _ => exact .refl context

theorem setEnvironment_grows (context : Context) (value environment : Value) :
    context.ObjectsGrow (context.setEnvironment value environment).2 := by
  unfold setEnvironment
  split
  · exact .refl context
  · split
    · exact .refl context
    · exact putEnvironment_grows context value _

end Context

namespace DebugFunction

theorem recordTable_grows (heap : Heap) (mask : Mask) (record : Record) :
    heap.Grows (recordTable heap mask record).2 := by
  unfold recordTable
  split
  · exact .addTable _
  · exact (Heap.Grows.addTable _).trans (.addTable _)

theorem runGetInfo_grows (arguments : List Value) (context : Context) :
    context.ObjectsGrow (runGetInfo arguments context).2 := by
  unfold runGetInfo
  split
  · exact .refl context
  · exact .refl context
  · split
    · exact .refl context
    · exact .ofHeap (recordTable_grows context.heap _ _)

theorem runSetUpvalue_grows (arguments : List Value) (context : Context) :
    context.ObjectsGrow (runSetUpvalue arguments context).2 := by
  unfold runSetUpvalue
  split
  · exact .refl context
  · exact .refl context
  · exact .ofHeap (Heap.setUpvalue_grows context.heap _ _ _)

theorem runSetMetatable_grows (arguments : List Value) (context : Context) :
    context.ObjectsGrow (runSetMetatable arguments context).2 := by
  unfold runSetMetatable
  split
  · exact .refl context
  · rename_i metatable checked
    have grows := context.setMetatable_grows (Arguments.get arguments 1) (.ofTable? metatable)
    split <;> rename_i outcome <;> rw [outcome] at grows <;> exact grows

theorem runSetEnvironment_grows (arguments : List Value) (context : Context) :
    context.ObjectsGrow (runSetEnvironment arguments context).2 := by
  unfold runSetEnvironment
  split
  · exact .refl context
  · rename_i value environment checked
    have grows := context.setEnvironment_grows value environment
    split <;> rename_i outcome <;> rw [outcome] at grows <;> exact grows

theorem runSetLocal_cases (arguments : List Value) (context : Context) :
    (runSetLocal arguments context).2 = context ∨
    ∃ level ordinal value,
      (runSetLocal arguments context).2 = (context.setLocal level ordinal value).2 := by
  unfold runSetLocal
  split
  · exact .inl rfl
  · exact .inl rfl
  · rename_i level ordinal value checked
    exact .inr ⟨level, ordinal, value, rfl⟩

theorem run_cases (function : DebugFunction) (arguments : List Value) (context : Context) :
    context.ObjectsGrow (function.run arguments context).2 ∨
    ∃ level ordinal value,
      (function.run arguments context).2 = (context.setLocal level ordinal value).2 := by
  cases function with
  | getEnvironment => exact .inl (.refl context)
  | getInfo => exact .inl (runGetInfo_grows arguments context)
  | getLocal => exact .inl (.refl context)
  | getMetatable => exact .inl (.refl context)
  | getUpvalue => exact .inl (.refl context)
  | setEnvironment => exact .inl (runSetEnvironment_grows arguments context)
  | setLocal =>
      rcases runSetLocal_cases arguments context with unchanged | written
      · refine .inl ?_
        change context.ObjectsGrow (runSetLocal arguments context).2
        rw [unchanged]
        exact .refl context
      · exact .inr written
  | setMetatable => exact .inl (runSetMetatable_grows arguments context)
  | setUpvalue => exact .inl (runSetUpvalue_grows arguments context)
  | traceback => exact .inl (.refl context)

end DebugFunction

end StackScope
