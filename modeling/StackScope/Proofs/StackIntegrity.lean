import StackScope.Proofs.Reachable

/-!
The stack stays in order through every run, whatever host functions do while they run: in every
reachable context the windows tile the stack, and every context that a run sees is reachable.
-/

namespace StackScope

theorem Permits.everything : Permits fun _ _ => True :=
  ⟨fun _ => trivial, fun _ => trivial, fun _ _ _ _ => trivial⟩

theorem Context.Reachable.throughout (heap : Heap) (config : Config) (cells : List CellId)
    (program : HostProgram) :
    Preserved.Throughout Context.Reachable
      ((Context.create heap config).programEvents cells program)
      ((Context.create heap config).runProgram cells program).2 := by
  let start := Context.create heap config
  have preserved : Preserved (fun _ _ => True) (start.LeadsTo fun _ _ => True) :=
    Context.LeadsTo.preserved .everything
  have leads := preserved.run .refl cells program fun _ _ => trivial
  exact leads.imp fun _ leads => ⟨heap, config, leads⟩

/-- The stack is in order in every reachable context, and so it is whenever an operation is asked
for in a run that starts with a new context, and at the end of the run. -/
theorem intact_throughout :
    (∀ context : Context, context.Reachable → context.Intact) ∧
    ∀ (heap : Heap) (config : Config) (cells : List CellId) (program : HostProgram),
      Preserved.Throughout Context.Intact
        ((Context.create heap config).programEvents cells program)
        ((Context.create heap config).runProgram cells program).2 := by
  refine ⟨fun context reachable => reachable.intact, ?_⟩
  intro heap config cells program
  exact (Context.Reachable.throughout heap config cells program).imp
    fun _ reachable => reachable.intact

/-- Two functions: a script function with two registers, and a host function that calls it, captures
one of its registers and returns from it. -/
def sampleHeap : Heap :=
  let script : Prototype :=
    { source := "@sample", stackSize := 2, instructions := [.«return» 0 0] }
  let visitor : HostFunction :=
    { name := "visitor"
      body := .program fun _ =>
        .perform (.call ⟨0⟩ []) fun _ =>
          .perform (.capture 1) fun _ =>
            .perform .returnFromCall fun _ => .finish (.ok []) }
  ((Heap.empty.addFunction { code := .script script }).2.addFunction
    { code := .host visitor }).2

def sampleProgram : HostProgram :=
  .perform (.call ⟨0⟩ []) fun _ =>
    .perform (.capture 0) fun _ =>
      .perform (.callHost ⟨1⟩ [.nil]) fun _ => .finish (.ok [])

/-- The host function runs on top of a captured register, and its own capture is seen too. -/
theorem intact_throughout_sample :
    ((Context.create sampleHeap {}).programEvents [] sampleProgram).length = 6 ∧
    Preserved.Throughout Context.Intact
      ((Context.create sampleHeap {}).programEvents [] sampleProgram)
      ((Context.create sampleHeap {}).runProgram [] sampleProgram).2 ∧
    (((Context.create sampleHeap {}).call ⟨0⟩ []).2.capture 1).2.Intact := by
  have captured : (((Context.create sampleHeap {}).call ⟨0⟩ []).2.capture 1).2.Reachable :=
    .capture (.call ⟨0⟩ [] (.create sampleHeap {}))
  exact ⟨by decide, intact_throughout.2 sampleHeap {} [] sampleProgram,
    intact_throughout.1 _ captured⟩

end StackScope
