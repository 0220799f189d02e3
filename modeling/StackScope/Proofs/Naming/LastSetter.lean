import StackScope.Proofs.Naming.ForwardPath

/-!
The last write to a register. One scan of the code finds the instruction that wrote a register last
on every forward path, and finds none exactly when the paths do not agree.

The scan only remembers the furthest target of the jumps it has passed. That is enough, because a
write is in doubt as soon as one jump from before it lands behind it.
-/

namespace StackScope

namespace Prototype

def writesAt (prototype : Prototype) (register position : Nat) : Bool :=
  prototype.instructions[position]?.any fun instruction => instruction.writes register

def lastWrite? (prototype : Prototype) (register : Nat) (visited : List Nat) : Option Nat :=
  visited.find? (prototype.writesAt register)

def scanTo (prototype : Prototype) (limit register count : Nat) : WriteScan :=
  (prototype.instructions.take count).zipIdx.foldl
    (WriteScan.step register (Word.signed limit)) ⟨none, 0⟩

theorem scanTo_succ {prototype : Prototype} {count : Nat} {instruction : Instruction}
    (present : prototype.instructions[count]? = some instruction) (limit register : Nat) :
    prototype.scanTo limit register (count + 1) =
      WriteScan.step register (Word.signed limit) (prototype.scanTo limit register count)
        (instruction, count) := by
  have inside : count < prototype.instructions.length :=
    (List.getElem?_eq_some_iff.mp present).1
  unfold scanTo
  rw [List.take_add_one, present, List.zipIdx_append, List.foldl_append, List.length_take,
    Nat.min_eq_left (Nat.le_of_lt inside), Nat.zero_add]
  rfl

theorem step_jump (register : Nat) (limit : Int) (scan : WriteScan) (offset : Int)
    (position : Nat) :
    WriteScan.step register limit scan (.jump offset, position) =
      if (position : Int) < position + 1 + offset ∧ position + 1 + offset ≤ limit ∧
          (scan.barrier : Int) < position + 1 + offset then
        { scan with barrier := (position + 1 + offset).toNat }
      else scan :=
  rfl

theorem step_other {instruction : Instruction}
    (other : ∀ offset, instruction ≠ .jump offset) (register : Nat) (limit : Int)
    (scan : WriteScan) (position : Nat) :
    WriteScan.step register limit scan (instruction, position) =
      if instruction.writes register then
        { scan with setter := if position < scan.barrier then none else some position }
      else scan := by
  cases instruction with
  | jump offset => exact absurd rfl (other offset)
  | _ => rfl

def Untouched (prototype : Prototype) (register first last : Nat) : Prop :=
  ∀ position, first < position → position < last → prototype.writesAt register position = false

structure Scanned (prototype : Prototype) (limit register count : Nat) (scan : WriteScan) :
    Prop where
  barrier : ∀ position target, position < count → prototype.JumpsTo position target →
    target ≤ limit → target ≤ scan.barrier
  reached : count < scan.barrier →
    ∃ position, position < count ∧ prototype.JumpsTo position scan.barrier ∧ scan.barrier ≤ limit
  found : ∀ setter, scan.setter = some setter →
    setter < count ∧ prototype.writesAt register setter = true ∧
      prototype.Untouched register setter count ∧ ¬ prototype.Bypassed limit setter
  missing : scan.setter = none →
    (∀ position, position < count → prototype.writesAt register position = false) ∨
    ∃ last, last < count ∧ prototype.writesAt register last = true ∧
      prototype.Untouched register last count ∧ prototype.Bypassed limit last

namespace Scanned

variable {prototype : Prototype} {limit register count : Nat} {scan : WriteScan}

theorem start (prototype : Prototype) (limit register : Nat) :
    prototype.Scanned limit register 0 ⟨none, 0⟩ where
  barrier := by
    intro position target before
    omega
  reached := by
    intro above
    change 0 < 0 at above
    omega
  found := by
    intro setter impossible
    cases impossible
  missing := by
    intro _
    refine .inl ?_
    intro position before
    omega

theorem untouched_succ {first : Nat} (untouched : prototype.Untouched register first count)
    (silent : prototype.writesAt register count = false) :
    prototype.Untouched register first (count + 1) := by
  intro position after before
  by_cases last : position = count
  · rw [last]
    exact silent
  · exact untouched position after (by omega)

/-- An instruction that does not write the register leaves the answer as it is. -/
theorem silent_missing (scanned : prototype.Scanned limit register count scan)
    (silent : prototype.writesAt register count = false) (absent : scan.setter = none) :
    (∀ position, position < count + 1 → prototype.writesAt register position = false) ∨
    ∃ last, last < count + 1 ∧ prototype.writesAt register last = true ∧
      prototype.Untouched register last (count + 1) ∧ prototype.Bypassed limit last := by
  rcases scanned.missing absent with unwritten | ⟨last, before, writes, untouched, bypassed⟩
  · refine .inl ?_
    intro position before
    by_cases last : position = count
    · rw [last]
      exact silent
    · exact unwritten position (by omega)
  · exact .inr ⟨last, by omega, writes, untouched_succ untouched silent, bypassed⟩

theorem silent_found (scanned : prototype.Scanned limit register count scan)
    (silent : prototype.writesAt register count = false) {setter : Nat}
    (present : scan.setter = some setter) :
    setter < count + 1 ∧ prototype.writesAt register setter = true ∧
      prototype.Untouched register setter (count + 1) ∧ ¬ prototype.Bypassed limit setter := by
  obtain ⟨before, writes, untouched, sure⟩ := scanned.found setter present
  exact ⟨by omega, writes, untouched_succ untouched silent, sure⟩

/-- The target of a jump, as a scan computes it. -/
theorem jumpsTo_iff {offset : Int} (present : prototype.instructions[count]? = some (.jump offset))
    {target : Nat} :
    prototype.JumpsTo count target ↔ (target : Int) = count + 1 + offset ∧ count < target := by
  constructor
  · rintro ⟨distance, found, rfl⟩
    rw [present, Option.some.injEq, Instruction.jump.injEq] at found
    omega
  · rintro ⟨same, ahead⟩
    refine ⟨target - (count + 1), ?_, by omega⟩
    rw [present, Option.some.injEq, Instruction.jump.injEq]
    omega

theorem jump (scanned : prototype.Scanned limit register count scan) {offset : Int}
    (present : prototype.instructions[count]? = some (.jump offset)) :
    prototype.Scanned limit register (count + 1)
      (WriteScan.step register limit scan (.jump offset, count)) := by
  have silent : prototype.writesAt register count = false := by
    unfold writesAt
    rw [present]
    rfl
  rw [step_jump]
  split
  · rename_i taken
    obtain ⟨ahead, within, further⟩ := taken
    have here : prototype.JumpsTo count (count + 1 + offset).toNat :=
      (jumpsTo_iff present).mpr ⟨by omega, by omega⟩
    refine ⟨?_, ?_, fun _ => scanned.silent_found silent, scanned.silent_missing silent⟩
    · intro position target before jumps inside
      change target ≤ (count + 1 + offset).toNat
      by_cases last : position = count
      · subst last
        have := (jumpsTo_iff present).mp jumps
        omega
      · have := scanned.barrier position target (by omega) jumps inside
        omega
    · intro _
      exact ⟨count, Nat.lt_succ_self count, here, by
        change (count + 1 + offset).toNat ≤ limit
        omega⟩
  · rename_i passed
    refine ⟨?_, ?_, fun _ => scanned.silent_found silent, scanned.silent_missing silent⟩
    · intro position target before jumps inside
      by_cases last : position = count
      · subst last
        have := (jumpsTo_iff present).mp jumps
        omega
      · exact scanned.barrier position target (by omega) jumps inside
    · intro above
      obtain ⟨position, before, jumps, inside⟩ := scanned.reached (by omega)
      exact ⟨position, by omega, jumps, inside⟩

theorem other (scanned : prototype.Scanned limit register count scan) {instruction : Instruction}
    (present : prototype.instructions[count]? = some instruction)
    (noJump : ∀ offset, instruction ≠ .jump offset) :
    prototype.Scanned limit register (count + 1)
      (WriteScan.step register limit scan (instruction, count)) := by
  have writing : prototype.writesAt register count = instruction.writes register := by
    unfold writesAt
    rw [present]
    rfl
  have barrier : ∀ position target, position < count + 1 → prototype.JumpsTo position target →
      target ≤ limit → target ≤ scan.barrier := by
    intro position target before jumps inside
    by_cases last : position = count
    · subst last
      obtain ⟨distance, jump, -⟩ := jumps
      rw [present, Option.some.injEq] at jump
      exact absurd jump (noJump distance)
    · exact scanned.barrier position target (by omega) jumps inside
  have reached : count + 1 < scan.barrier → ∃ position, position < count + 1 ∧
      prototype.JumpsTo position scan.barrier ∧ scan.barrier ≤ limit := by
    intro above
    obtain ⟨position, before, jumps, inside⟩ := scanned.reached (by omega)
    exact ⟨position, by omega, jumps, inside⟩
  rw [step_other noJump]
  split
  · rename_i writes
    rw [writes] at writing
    have untouched : prototype.Untouched register count (count + 1) := by
      intro position after before
      omega
    -- The furthest jump passed decides: in front of its target this write may have been skipped.
    refine ⟨barrier, reached, ?_, ?_⟩
    · intro setter same
      change (if count < scan.barrier then none else some count) = some setter at same
      split at same
      · cases same
      · rename_i beyond
        cases same
        refine ⟨Nat.lt_succ_self count, writing, untouched, ?_⟩
        rintro ⟨origin, target, jumps, below, above, inside⟩
        have := scanned.barrier origin target below jumps inside
        omega
    · intro same
      change (if count < scan.barrier then none else some count) = none at same
      split at same
      · rename_i before
        obtain ⟨origin, below, jumps, inside⟩ := scanned.reached before
        exact .inr ⟨count, Nat.lt_succ_self count, writing, untouched,
          origin, scan.barrier, jumps, below, before, inside⟩
      · cases same
  · rename_i silent
    rw [Bool.eq_false_iff.mpr silent] at writing
    exact ⟨barrier, reached, fun _ => scanned.silent_found writing,
      scanned.silent_missing writing⟩

theorem step (scanned : prototype.Scanned limit register count scan) {instruction : Instruction}
    (present : prototype.instructions[count]? = some instruction) :
    prototype.Scanned limit register (count + 1)
      (WriteScan.step register limit scan (instruction, count)) := by
  cases instruction with
  | jump offset => exact scanned.jump present
  | _ =>
      refine scanned.other present ?_
      intro offset impossible
      cases impossible

end Scanned

variable {prototype : Prototype}

theorem Addressable.signed_eq (addressable : prototype.Addressable) {limit : Nat}
    (inside : limit ≤ prototype.instructions.length) : Word.signed limit = limit := by
  unfold Addressable at addressable
  exact Word.signed_eq_of_lt (by omega)

theorem scanned_scanTo (addressable : prototype.Addressable) {limit : Nat}
    (inside : limit ≤ prototype.instructions.length) (register : Nat) {count : Nat}
    (within : count ≤ prototype.instructions.length) :
    prototype.Scanned limit register count (prototype.scanTo limit register count) := by
  induction count with
  | zero => exact .start prototype limit register
  | succ count ih =>
      have present : prototype.instructions[count]? = some prototype.instructions[count] :=
        List.getElem?_eq_getElem within
      rw [scanTo_succ present, addressable.signed_eq inside]
      exact (ih (by omega)).step present

/-! ### Writes along a path -/

theorem lastWrite?_append {register setter : Nat} {later : List Nat}
    (writes : prototype.writesAt register setter = true)
    (silent : ∀ position ∈ later, prototype.writesAt register position = false)
    (earlier : List Nat) :
    prototype.lastWrite? register (later ++ setter :: earlier) = some setter := by
  have silentLater : later.find? (prototype.writesAt register) = none := by
    rw [List.find?_eq_none]
    intro position member
    rw [silent position member]
    exact Bool.false_ne_true
  unfold lastWrite?
  rw [List.find?_append, silentLater, Option.none_or, List.find?_cons_of_pos writes]

theorem mem_of_lastWrite? {register setter : Nat} {visited : List Nat}
    (found : prototype.lastWrite? register visited = some setter) :
    setter ∈ visited ∧ prototype.writesAt register setter = true :=
  ⟨List.mem_of_find?_eq_some found, List.find?_some found⟩

/-- Behind a position that it passes, a path is silent where the code is. -/
theorem ForwardPath.split_silent {register position setter : Nat} {visited : List Nat}
    (path : prototype.ForwardPath position visited) (member : setter ∈ visited)
    (untouched : prototype.Untouched register setter position) :
    ∃ later earlier, visited = later ++ setter :: earlier ∧
      prototype.ForwardPath setter earlier ∧
      ∀ other ∈ later, prototype.writesAt register other = false := by
  obtain ⟨later, earlier, split, part, between⟩ := path.split member
  refine ⟨later, earlier, split, part, ?_⟩
  intro other inside
  obtain ⟨above, below⟩ := between other inside
  exact untouched other above below

/-- A write that some path passes by is not the last one on all paths, and neither is any other. -/
theorem paths_disagree {limit register last : Nat}
    (inside : limit ≤ prototype.instructions.length) (before : last < limit)
    (writes : prototype.writesAt register last = true)
    (untouched : prototype.Untouched register last limit)
    (bypassed : prototype.Bypassed limit last) (setter : Nat) :
    ∃ visited, prototype.ForwardPath limit visited ∧
      prototype.lastWrite? register visited ≠ some setter := by
  by_cases same : setter = last
  · subst same
    obtain ⟨visited, path, avoided⟩ := bypassed.exists_path inside
    refine ⟨visited, path, ?_⟩
    intro found
    exact avoided (mem_of_lastWrite? found).1
  · have reached : last ≤ prototype.instructions.length := by omega
    obtain ⟨visited, path⟩ := exists_forwardPath reached
    have through := path.step (.following (by omega))
    obtain ⟨more, longer, -⟩ := through.extend before inside
    refine ⟨more ++ last :: visited, longer, ?_⟩
    have member : last ∈ more ++ last :: visited :=
      List.mem_append_right more List.mem_cons_self
    obtain ⟨later, earlier, split, -, silent⟩ := longer.split_silent member untouched
    rw [split, lastWrite?_append writes silent]
    intro other
    exact same (Option.some.inj other).symm

/-- Every path reaches the instruction that the scan answers with, and does not write the register
after it. -/
theorem ForwardPath.split_lastSetter? (addressable : prototype.Addressable) {limit : Nat}
    (inside : limit ≤ prototype.instructions.length) {visited : List Nat}
    (path : prototype.ForwardPath limit visited) {register setter : Nat}
    (found : prototype.lastSetter? limit register = some setter) :
    ∃ later earlier, visited = later ++ setter :: earlier ∧
      prototype.ForwardPath setter earlier ∧ prototype.writesAt register setter = true ∧
      ∀ position ∈ later, prototype.writesAt register position = false := by
  have scanned := scanned_scanTo addressable inside register inside
  obtain ⟨before, writes, untouched, sure⟩ := scanned.found setter found
  have member : setter ∈ visited := (path.mem_or_bypassed before).resolve_right sure
  obtain ⟨later, earlier, split, part, silent⟩ := path.split_silent member untouched
  exact ⟨later, earlier, split, part, writes, silent⟩

theorem lastWrite?_of_lastSetter? (addressable : prototype.Addressable) {limit : Nat}
    (inside : limit ≤ prototype.instructions.length) {register setter : Nat}
    (found : prototype.lastSetter? limit register = some setter) {visited : List Nat}
    (path : prototype.ForwardPath limit visited) :
    prototype.lastWrite? register visited = some setter := by
  obtain ⟨later, earlier, rfl, -, writes, silent⟩ :=
    path.split_lastSetter? addressable inside found
  exact lastWrite?_append writes silent earlier

/-- Where the scan has no answer, no write is the last one on every path. -/
theorem exists_path_of_lastSetter?_eq_none (addressable : prototype.Addressable) {limit : Nat}
    (inside : limit ≤ prototype.instructions.length) {register : Nat}
    (missing : prototype.lastSetter? limit register = none) (setter : Nat) :
    ∃ visited, prototype.ForwardPath limit visited ∧
      prototype.lastWrite? register visited ≠ some setter := by
  have scanned := scanned_scanTo addressable inside register inside
  rcases scanned.missing missing with silent | ⟨last, before, writes, untouched, bypassed⟩
  · obtain ⟨straight, path⟩ := exists_forwardPath inside
    refine ⟨straight, path, ?_⟩
    intro found
    obtain ⟨member, writes⟩ := mem_of_lastWrite? found
    rw [silent setter (path.lt_of_mem member)] at writes
    cases writes
  · exact paths_disagree inside before writes untouched bypassed setter

/-- The scan answers with an instruction if and only if that instruction is the last one to write
the register on every forward path; where the paths disagree, or where none writes it, it answers
with none. -/
theorem lastSetter?_eq_some_iff (addressable : prototype.Addressable) {limit : Nat}
    (inside : limit ≤ prototype.instructions.length) (register setter : Nat) :
    prototype.lastSetter? limit register = some setter ↔
      ∀ visited, prototype.ForwardPath limit visited →
        prototype.lastWrite? register visited = some setter := by
  constructor
  · intro found visited path
    exact lastWrite?_of_lastSetter? addressable inside found path
  · intro agree
    cases answer : prototype.lastSetter? limit register with
    | some other =>
        obtain ⟨straight, path⟩ := exists_forwardPath inside
        rw [← lastWrite?_of_lastSetter? addressable inside answer path]
        exact agree straight path
    | none =>
        obtain ⟨visited, path, differs⟩ :=
          exists_path_of_lastSetter?_eq_none addressable inside answer setter
        exact absurd (agree visited path) differs

def branchingCode : Prototype where
  source := "@sample"
  instructions := [.jump 1, .getGlobal 0 0, .getGlobal 0 1, .call 0 0 1]
  constants := [.text "maybe", .text "surely"]

/-- In front of the second load the paths disagree about the first one, and behind it they agree. -/
theorem lastSetter?_branching :
    branchingCode.Addressable ∧ 3 ≤ branchingCode.instructions.length ∧
      (∀ visited, branchingCode.ForwardPath 3 visited →
        branchingCode.lastWrite? 0 visited = some 2) ∧
      ∃ visited, branchingCode.ForwardPath 2 visited ∧
        branchingCode.lastWrite? 0 visited ≠ some 1 := by
  have addressable : branchingCode.Addressable := by decide
  refine ⟨addressable, by decide, ?_, ?_⟩
  · exact (lastSetter?_eq_some_iff addressable (by decide) 0 2).mp (by decide)
  · have doubtful : branchingCode.lastSetter? 2 0 ≠ some 1 := by decide
    rw [ne_eq, lastSetter?_eq_some_iff addressable (by decide) 0 1] at doubtful
    obtain ⟨visited, differs⟩ := Classical.not_forall.mp doubtful
    exact ⟨visited, Classical.not_imp.mp differs⟩

end Prototype

end StackScope
