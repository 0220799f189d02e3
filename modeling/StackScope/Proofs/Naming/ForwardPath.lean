import StackScope.Prototype.Naming

/-!
Forward paths through the code of a prototype. Every instruction may be followed by the next one,
and a jump ahead may be taken or not. What a condition tests is not looked at, so the paths are all
the ways in which a position can be reached without a jump back.
-/

namespace StackScope

namespace Prototype

/-- Code is held in memory, so its positions are words with a clear sign bit. -/
def Addressable (prototype : Prototype) : Prop :=
  2 * prototype.instructions.length < Word.size64

instance (prototype : Prototype) : Decidable prototype.Addressable :=
  inferInstanceAs (Decidable (_ < _))

def JumpsTo (prototype : Prototype) (position target : Nat) : Prop :=
  ∃ distance : Nat, prototype.instructions[position]? = some (.jump distance) ∧
    target = position + 1 + distance

inductive ForwardStep (prototype : Prototype) : (position next : Nat) → Prop
  | following {position : Nat} : position < prototype.instructions.length →
      ForwardStep prototype position (position + 1)
  | jump {position target : Nat} : prototype.JumpsTo position target →
      ForwardStep prototype position target

/-- A path from the first instruction to a position, given by the positions that are executed before
it, the latest one first. -/
inductive ForwardPath (prototype : Prototype) : (position : Nat) → List Nat → Prop
  | start : ForwardPath prototype 0 []
  | step {position next : Nat} {visited : List Nat} : ForwardPath prototype position visited →
      prototype.ForwardStep position next → ForwardPath prototype next (position :: visited)

def Bypassed (prototype : Prototype) (limit position : Nat) : Prop :=
  ∃ origin target, prototype.JumpsTo origin target ∧ origin < position ∧ position < target ∧
    target ≤ limit

variable {prototype : Prototype}

theorem JumpsTo.lt {position target : Nat} (jumps : prototype.JumpsTo position target) :
    position < target := by
  obtain ⟨distance, -, rfl⟩ := jumps
  omega

theorem ForwardStep.lt {position next : Nat} (step : prototype.ForwardStep position next) :
    position < next := by
  cases step with
  | following inside => exact Nat.lt_succ_self position
  | jump jumps => exact jumps.lt

theorem Bypassed.mono {limit later position : Nat} (bypassed : prototype.Bypassed limit position)
    (before : limit ≤ later) : prototype.Bypassed later position := by
  obtain ⟨origin, target, jumps, below, above, within⟩ := bypassed
  exact ⟨origin, target, jumps, below, above, Nat.le_trans within before⟩

namespace ForwardPath

variable {position : Nat} {visited : List Nat}

/-- Positions grow along a path. -/
theorem lt_of_mem (path : prototype.ForwardPath position visited) {earlier : Nat}
    (member : earlier ∈ visited) : earlier < position := by
  induction path with
  | start => cases member
  | step path step ih =>
      have ahead := step.lt
      rcases List.mem_cons.mp member with same | member
      · omega
      · have := ih member
        omega

/-- The part of a path up to a position on it is a path, and what comes after lies between. -/
theorem split (path : prototype.ForwardPath position visited) {middle : Nat}
    (member : middle ∈ visited) :
    ∃ later earlier, visited = later ++ middle :: earlier ∧
      prototype.ForwardPath middle earlier ∧
      ∀ other ∈ later, middle < other ∧ other < position := by
  induction path with
  | start => cases member
  | @step last next visited path step ih =>
      have ahead := step.lt
      rcases List.mem_cons.mp member with same | member
      · subst same
        refine ⟨[], visited, rfl, path, ?_⟩
        intro other impossible
        cases impossible
      · obtain ⟨later, earlier, rfl, part, between⟩ := ih member
        have before := path.lt_of_mem member
        refine ⟨last :: later, earlier, rfl, part, ?_⟩
        intro other inside
        rcases List.mem_cons.mp inside with same | inside
        · omega
        · have := between other inside
          omega

/-- A position before the end of a path is on it unless the path jumps over it. -/
theorem mem_or_bypassed (path : prototype.ForwardPath position visited) {middle : Nat}
    (before : middle < position) : middle ∈ visited ∨ prototype.Bypassed position middle := by
  induction path with
  | start => omega
  | @step last next visited path step ih =>
      have ahead := step.lt
      rcases Nat.lt_trichotomy middle last with earlier | same | later
      · rcases ih earlier with member | bypassed
        · exact .inl (List.mem_cons_of_mem last member)
        · exact .inr (bypassed.mono (Nat.le_of_lt ahead))
      · exact .inl (same ▸ List.mem_cons_self)
      · cases step with
        | following inside => omega
        | jump jumps => exact .inr ⟨last, next, jumps, later, before, Nat.le_refl next⟩

/-- A path can go on instruction by instruction up to the end of the code. -/
theorem extend (path : prototype.ForwardPath position visited) {target : Nat}
    (ahead : position ≤ target) (inside : target ≤ prototype.instructions.length) :
    ∃ more, prototype.ForwardPath target (more ++ visited) ∧
      ∀ other ∈ more, position ≤ other := by
  induction target with
  | zero =>
      have same : position = 0 := by omega
      subst same
      refine ⟨[], path, ?_⟩
      intro other impossible
      cases impossible
  | succ target ih =>
      by_cases here : position = target + 1
      · subst here
        refine ⟨[], path, ?_⟩
        intro other impossible
        cases impossible
      · obtain ⟨more, longer, above⟩ := ih (by omega) (by omega)
        refine ⟨target :: more, longer.step (.following (by omega)), ?_⟩
        intro other member
        rcases List.mem_cons.mp member with same | member
        · omega
        · exact above other member

end ForwardPath

theorem exists_forwardPath {position : Nat}
    (inside : position ≤ prototype.instructions.length) :
    ∃ visited, prototype.ForwardPath position visited := by
  have none_yet : prototype.ForwardPath 0 [] := .start
  obtain ⟨visited, path, -⟩ := none_yet.extend (Nat.zero_le position) inside
  exact ⟨visited ++ [], path⟩

/-- A position that is passed by is missing from some path. -/
theorem Bypassed.exists_path {limit position : Nat} (bypassed : prototype.Bypassed limit position)
    (inside : limit ≤ prototype.instructions.length) :
    ∃ visited, prototype.ForwardPath limit visited ∧ position ∉ visited := by
  obtain ⟨origin, target, jumps, below, above, within⟩ := bypassed
  have ahead := jumps.lt
  have reached : origin ≤ prototype.instructions.length := by omega
  obtain ⟨visited, path⟩ := exists_forwardPath reached
  obtain ⟨more, longer, after⟩ := (path.step (.jump jumps)).extend within inside
  refine ⟨more ++ origin :: visited, longer, ?_⟩
  intro member
  rcases List.mem_append.mp member with late | early
  · have := after position late
    omega
  · rcases List.mem_cons.mp early with same | early
    · omega
    · have := path.lt_of_mem early
      omega

end Prototype

end StackScope
