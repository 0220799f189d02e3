import StackScope.Proofs.Naming.LastSetter

/-!
Where the value in a register comes from. The code is executed symbolically along a forward path,
and each register remembers what its value was loaded from. A name that is given to a register
agrees with that on every path.

A name of kind `method` covers both registers that a self call writes. It tells which self call put
the value there, but not whether the value is the method or the object that it was taken from.
-/

namespace StackScope

inductive Origin where
  /-- Not loaded by name: an argument, a result or a new value. -/
  | unknown
  | global (name : Nat)
  | upvalue (index : Nat)
  | field (key : Nat)
  | constant (index : Nat)
  /-- An element of a table, by the origin of its key. -/
  | element (key : Origin)
  | method (name : Nat)
deriving DecidableEq, Inhabited

def Instruction.transfer (instruction : Instruction) (origins : Nat → Origin) (register : Nat) :
    Origin :=
  match instruction with
  | move target source => if register = target then origins source else origins register
  | loadConstant target constant =>
      if register = target then .constant constant else origins register
  | getGlobal target name => if register = target then .global name else origins register
  | getUpvalue target upvalue => if register = target then .upvalue upvalue else origins register
  | getField target _ key => if register = target then .field key else origins register
  | getTable target _ key =>
      if register = target then .element (origins key) else origins register
  | selfCall target object method =>
      if register = target then .method method
      else if register = target + 1 then origins object
      else origins register
  | loadNil target count =>
      if target ≤ register ∧ register < target + count then .unknown else origins register
  | closure target _ => if register = target then .unknown else origins register
  | call function _ _ | tailCall function _ =>
      if function ≤ register then .unknown else origins register
  | setGlobal _ _ | setUpvalue _ _ | setField _ _ _ | «return» _ _ | jump _ => origins register

/-- No instruction changes a register that it is not said to write. -/
theorem Instruction.transfer_of_not_writes {instruction : Instruction} {register : Nat}
    (silent : instruction.writes register = false) (origins : Nat → Origin) :
    instruction.transfer origins register = origins register := by
  cases instruction with
  | move target _ | loadConstant target _ | getGlobal target _ | getUpvalue target _
  | getField target _ _ | getTable target _ _ | closure target _ =>
      have different : target ≠ register := beq_eq_false_iff_ne.mp silent
      exact if_neg different.symm
  | selfCall target object method =>
      obtain ⟨method, receiver⟩ := Bool.or_eq_false_iff.mp silent
      simp only [transfer, if_neg (beq_eq_false_iff_ne.mp method),
        if_neg (beq_eq_false_iff_ne.mp receiver)]
  | loadNil target count =>
      refine if_neg ?_
      rintro ⟨above, below⟩
      simp [writes, above, below] at silent
  | call function _ _ | tailCall function _ =>
      have below : ¬ function ≤ register := of_decide_eq_false silent
      exact if_neg below
  | setGlobal _ _ | setUpvalue _ _ | setField _ _ _ | «return» _ _ | jump _ => rfl

namespace Prototype

def originAt (prototype : Prototype) : (visited : List Nat) → (register : Nat) → Origin
  | [], _ => .unknown
  | position :: earlier, register =>
      match prototype.instructions[position]? with
      | some instruction => instruction.transfer (prototype.originAt earlier) register
      | none => prototype.originAt earlier register

/-- The position of the instruction that brought a register's value into the registers. Moves only
pass a value on. -/
def loader? (prototype : Prototype) : (visited : List Nat) → (register : Nat) → Option Nat
  | [], _ => none
  | position :: earlier, register =>
      if prototype.writesAt register position then
        match prototype.instructions[position]? with
        | some (.move _ source) => prototype.loader? earlier source
        | _ => some position
      else prototype.loader? earlier register

variable {prototype : Prototype}

theorem originAt_cons {position : Nat} {instruction : Instruction}
    (present : prototype.instructions[position]? = some instruction) (earlier : List Nat)
    (register : Nat) :
    prototype.originAt (position :: earlier) register =
      instruction.transfer (prototype.originAt earlier) register := by
  rw [originAt, present]

theorem originAt_of_silent {register position : Nat}
    (silent : prototype.writesAt register position = false) (earlier : List Nat) :
    prototype.originAt (position :: earlier) register = prototype.originAt earlier register := by
  unfold writesAt at silent
  cases present : prototype.instructions[position]? with
  | none => rw [originAt, present]
  | some instruction =>
      rw [present] at silent
      rw [originAt_cons present]
      exact Instruction.transfer_of_not_writes silent _

theorem originAt_append {register : Nat} {later : List Nat}
    (silent : ∀ position ∈ later, prototype.writesAt register position = false)
    (earlier : List Nat) :
    prototype.originAt (later ++ earlier) register = prototype.originAt earlier register := by
  induction later with
  | nil => rfl
  | cons position rest ih =>
      obtain ⟨first, others⟩ := List.forall_mem_cons.mp silent
      rw [List.cons_append, originAt_of_silent first, ih others]

theorem loader?_append {register : Nat} {later : List Nat}
    (silent : ∀ position ∈ later, prototype.writesAt register position = false)
    (earlier : List Nat) :
    prototype.loader? (later ++ earlier) register = prototype.loader? earlier register := by
  induction later with
  | nil => rfl
  | cons position rest ih =>
      obtain ⟨first, others⟩ := List.forall_mem_cons.mp silent
      rw [List.cons_append, loader?, first, if_neg Bool.false_ne_true, ih others]

/-! ### Names and origins -/

inductive Names (prototype : Prototype) (setter : Nat) : Instruction → ValueName → Prop
  | global (target index : Nat) :
      Names prototype setter (.getGlobal target index) ⟨.global, prototype.constantName index⟩
  | move {target source : Nat} {name : ValueName} : source < target →
      prototype.valueName? setter source = some name →
        Names prototype setter (.move target source) name
  | field (target table key : Nat) :
      Names prototype setter (.getField target table key) ⟨.field, prototype.constantName key⟩
  | element {target table key keySetter loaded constant : Nat} {text : String} :
      prototype.lastSetter? setter key = some keySetter →
        prototype.instructions[keySetter]? = some (.loadConstant loaded constant) →
          prototype.constantText? constant = some text →
            Names prototype setter (.getTable target table key) ⟨.field, text⟩
  | upvalue (target index : Nat) :
      Names prototype setter (.getUpvalue target index)
        ⟨.upvalue, (prototype.upvalueName? index).getD "?"⟩
  | method (target object index : Nat) :
      Names prototype setter (.selfCall target object index)
        ⟨.method, prototype.constantName index⟩

theorem names_element {setter target table key : Nat} {name : ValueName}
    (found : (match (prototype.lastSetter? setter key).bind
        (fun keySetter => prototype.instructions[keySetter]?) with
      | some (.loadConstant _ constant) =>
          (prototype.constantText? constant).map (⟨.field, ·⟩)
      | _ => none) = some name) :
    prototype.Names setter (.getTable target table key) name := by
  split at found
  · rename_i loaded constant loads
    obtain ⟨keySetter, last, present⟩ := Option.bind_eq_some_iff.mp loads
    obtain ⟨text, isText, rfl⟩ := Option.map_eq_some_iff.mp found
    exact .element last present isText
  · cases found

/-- A register is named after a live local, or by the instruction that is sure to have written
it. -/
theorem valueName?_cases {position register : Nat} {name : ValueName}
    (found : prototype.valueName? position register = some name) :
    name.kind = .binding ∨
    ∃ setter instruction, prototype.lastSetter? position register = some setter ∧
      prototype.instructions[setter]? = some instruction ∧
      prototype.Names setter instruction name := by
  rw [valueName?] at found
  split at found
  · cases found
    exact .inl rfl
  · split at found
    · cases found
    · rename_i setter last
      refine .inr ?_
      cases present : prototype.instructions[setter]? with
      | none =>
          rw [present] at found
          cases found
      | some instruction =>
          refine ⟨setter, instruction, last, present, ?_⟩
          rw [present] at found
          cases instruction with
          | getGlobal target index =>
              cases found
              exact .global target index
          | move target source =>
              dsimp only at found
              split at found
              · rename_i lower
                exact .move lower found
              · cases found
          | getField target table key =>
              cases found
              exact .field target table key
          | getTable target table key => exact names_element found
          | getUpvalue target index =>
              cases found
              exact .upvalue target index
          | selfCall target object index =>
              cases found
              exact .method target object index
          | _ => cases found

/-- What a name says about the value that a register holds at the end of a path. The name of a local
belongs to the place and says nothing about the value. -/
def Explains (prototype : Prototype) (visited : List Nat) (register : Nat) (name : ValueName) :
    Prop :=
  match name.kind with
  | .binding => True
  | .global => ∃ index, prototype.originAt visited register = .global index ∧
      prototype.constantName index = name.name
  | .upvalue => ∃ index, prototype.originAt visited register = .upvalue index ∧
      (prototype.upvalueName? index).getD "?" = name.name
  | .field =>
      (∃ key, prototype.originAt visited register = .field key ∧
        prototype.constantName key = name.name) ∨
      ∃ constant, prototype.originAt visited register = .element (.constant constant) ∧
        prototype.constantText? constant = some name.name
  | .method => ∃ setter earlier target object index, setter :: earlier <:+ visited ∧
      prototype.loader? visited register = some setter ∧
      prototype.instructions[setter]? = some (.selfCall target object index) ∧
      prototype.constantName index = name.name ∧
      (prototype.originAt visited register = .method index ∨
        prototype.originAt visited register = prototype.originAt earlier object)

/-- A value that a register took over from another keeps its explanation. -/
theorem Explains.passed_on {earlier visited : List Nat} {source register : Nat} {name : ValueName}
    (explains : prototype.Explains earlier source name) (part : earlier <:+ visited)
    (origin : prototype.originAt visited register = prototype.originAt earlier source)
    (loader : prototype.loader? visited register = prototype.loader? earlier source) :
    prototype.Explains visited register name := by
  unfold Explains at explains ⊢
  cases kind : name.kind with
  | binding => trivial
  | global | upvalue | field =>
      rw [kind] at explains
      simp only [origin]
      exact explains
  | method =>
      rw [kind] at explains
      obtain ⟨setter, before, target, object, index, inside, loads, rest⟩ := explains
      refine ⟨setter, before, target, object, index, inside.trans part, loader.trans loads, ?_⟩
      rw [origin]
      exact rest

theorem writes_of_writesAt {register position : Nat} {instruction : Instruction}
    (writes : prototype.writesAt register position = true)
    (present : prototype.instructions[position]? = some instruction) :
    instruction.writes register = true := by
  unfold writesAt at writes
  rw [present] at writes
  exact writes

/-- Where an instruction names the register it has just written, the name explains the value. Moves
are left to the register they copy. -/
theorem Names.explains {setter register : Nat} {earlier : List Nat} {instruction : Instruction}
    {name : ValueName} (names : prototype.Names setter instruction name)
    (present : prototype.instructions[setter]? = some instruction)
    (writes : prototype.writesAt register setter = true)
    (addressable : prototype.Addressable) (inside : setter ≤ prototype.instructions.length)
    (path : prototype.ForwardPath setter earlier)
    (moved : ∀ source, prototype.valueName? setter source = some name →
      prototype.Explains earlier source name) :
    prototype.Explains (setter :: earlier) register name := by
  have writing := writes_of_writesAt writes present
  have origin := originAt_cons present earlier register
  cases names with
  | global target index =>
      have same : target = register := beq_iff_eq.mp writing
      exact ⟨index, origin.trans (if_pos same.symm), rfl⟩
  | @move target source _ lower found =>
      have same : target = register := beq_iff_eq.mp writing
      refine (moved source found).passed_on (List.suffix_cons setter earlier) ?_ ?_
      · exact origin.trans (if_pos same.symm)
      · rw [loader?, if_pos writes, present]
  | field target table key =>
      have same : target = register := beq_iff_eq.mp writing
      exact .inl ⟨key, origin.trans (if_pos same.symm), rfl⟩
  | @element target table key keySetter loaded constant text last loads isText =>
      have same : target = register := beq_iff_eq.mp writing
      obtain ⟨between, before, rfl, -, writesKey, silent⟩ :=
        path.split_lastSetter? addressable inside last
      have sameKey : loaded = key := beq_iff_eq.mp (writes_of_writesAt writesKey loads)
      have keyOrigin : prototype.originAt (between ++ keySetter :: before) key =
          .constant constant := by
        rw [originAt_append silent, originAt_cons loads]
        exact if_pos sameKey.symm
      refine .inr ⟨constant, ?_, isText⟩
      rw [← keyOrigin]
      exact origin.trans (if_pos same.symm)
  | upvalue target index =>
      have same : target = register := beq_iff_eq.mp writing
      exact ⟨index, origin.trans (if_pos same.symm), rfl⟩
  | method target object index =>
      refine ⟨setter, earlier, target, object, index, List.suffix_refl _, ?_, present, rfl, ?_⟩
      · rw [loader?, if_pos writes, present]
      · by_cases isMethod : register = target
        · exact .inl (origin.trans (if_pos isMethod))
        · have isReceiver : register = target + 1 := by
            rcases Bool.or_eq_true_iff.mp writing with same | next
            · exact absurd (beq_iff_eq.mp same) isMethod
            · exact beq_iff_eq.mp next
          refine .inr (origin.trans ?_)
          simp only [Instruction.transfer, if_neg isMethod, if_pos isReceiver]

theorem explains_of_valueName? (addressable : prototype.Addressable) {position : Nat}
    (inside : position ≤ prototype.instructions.length) {register : Nat} {name : ValueName}
    (found : prototype.valueName? position register = some name) {visited : List Nat}
    (path : prototype.ForwardPath position visited) :
    prototype.Explains visited register name := by
  induction position using Nat.strongRecOn generalizing register visited with
  | _ position ih =>
      rcases valueName?_cases found with binding | ⟨setter, instruction, last, present, names⟩
      · unfold Explains
        rw [binding]
        trivial
      · have before := lastSetter?_lt last
        obtain ⟨later, earlier, rfl, part, writes, silent⟩ :=
          path.split_lastSetter? addressable inside last
        have moved : ∀ source, prototype.valueName? setter source = some name →
            prototype.Explains earlier source name :=
          fun source found => ih setter before (by omega) found part
        refine (names.explains present writes addressable (by omega) part moved).passed_on
          (List.suffix_append later _) (originAt_append silent _) (loader?_append silent _)

/-- The name of a call explains the value that is called. -/
theorem calleeName?_explains (addressable : prototype.Addressable) {position : Nat}
    {name : ValueName} (found : prototype.calleeName? position = some name) {visited : List Nat}
    (path : prototype.ForwardPath position visited) :
    ∃ function,
      ((∃ arguments results,
          prototype.instructions[position]? = some (.call function arguments results)) ∨
        ∃ arguments, prototype.instructions[position]? = some (.tailCall function arguments)) ∧
      prototype.Explains visited function name := by
  unfold calleeName? at found
  split at found
  · rename_i function arguments results present
    have inside := (List.getElem?_eq_some_iff.mp present).1
    exact ⟨function, .inl ⟨arguments, results, present⟩,
      explains_of_valueName? addressable (Nat.le_of_lt inside) found path⟩
  · rename_i function arguments present
    have inside := (List.getElem?_eq_some_iff.mp present).1
    exact ⟨function, .inr ⟨arguments, present⟩,
      explains_of_valueName? addressable (Nat.le_of_lt inside) found path⟩
  · cases found

/-- A name is right on every forward path: a global, an upvalue or a field of that name was loaded,
by name or by a key that is this text, or a self call with a method of that name was made and the
register holds the method or the object it was taken from. -/
theorem valueName?_sound (addressable : prototype.Addressable) {position : Nat}
    (inside : position ≤ prototype.instructions.length) {visited : List Nat}
    (path : prototype.ForwardPath position visited) (register : Nat) (text : String) :
    (prototype.valueName? position register = some ⟨.global, text⟩ →
      ∃ index, prototype.originAt visited register = .global index ∧
        (prototype.constantText? index).getD "?" = text) ∧
    (prototype.valueName? position register = some ⟨.upvalue, text⟩ →
      ∃ index, prototype.originAt visited register = .upvalue index ∧
        (prototype.upvalueName? index).getD "?" = text) ∧
    (prototype.valueName? position register = some ⟨.field, text⟩ →
      (∃ key, prototype.originAt visited register = .field key ∧
        (prototype.constantText? key).getD "?" = text) ∨
      ∃ constant, prototype.originAt visited register = .element (.constant constant) ∧
        prototype.constantText? constant = some text) ∧
    (prototype.valueName? position register = some ⟨.method, text⟩ →
      ∃ setter earlier target object index, setter :: earlier <:+ visited ∧
        prototype.loader? visited register = some setter ∧
        prototype.instructions[setter]? = some (.selfCall target object index) ∧
        (prototype.constantText? index).getD "?" = text ∧
        (prototype.originAt visited register = .method index ∨
          prototype.originAt visited register = prototype.originAt earlier object)) :=
  ⟨fun found => explains_of_valueName? addressable inside found path,
    fun found => explains_of_valueName? addressable inside found path,
    fun found => explains_of_valueName? addressable inside found path,
    fun found => explains_of_valueName? addressable inside found path⟩

/-- The code of `io["write"]()`, with the callee moved to another register behind a branch. -/
def indirectCode : Prototype where
  source := "@sample"
  instructions := [.getGlobal 0 0, .loadConstant 1 1, .getTable 2 0 1, .jump 1, .loadNil 5 1,
    .move 4 2, .call 4 0 1]
  constants := [.text "io", .text "write"]

/-- The branch is taken, and the callee still comes from the element with the key `write`. -/
theorem valueName?_sound_indirect :
    indirectCode.Addressable ∧ 6 ≤ indirectCode.instructions.length ∧
      indirectCode.ForwardPath 6 [5, 3, 2, 1, 0] ∧
      indirectCode.valueName? 6 4 = some ⟨.field, "write"⟩ ∧
      ((∃ key, indirectCode.originAt [5, 3, 2, 1, 0] 4 = .field key ∧
        (indirectCode.constantText? key).getD "?" = "write") ∨
      ∃ constant, indirectCode.originAt [5, 3, 2, 1, 0] 4 = .element (.constant constant) ∧
        indirectCode.constantText? constant = some "write") := by
  have addressable : indirectCode.Addressable := by decide
  have branch : indirectCode.JumpsTo 3 5 := ⟨1, rfl, rfl⟩
  have before : indirectCode.ForwardPath 3 [2, 1, 0] :=
    ((ForwardPath.start.step (.following (by decide))).step (.following (by decide))).step
      (.following (by decide))
  have path : indirectCode.ForwardPath 6 [5, 3, 2, 1, 0] :=
    (before.step (.jump branch)).step (.following (by decide))
  have named : indirectCode.valueName? 6 4 = some ⟨.field, "write"⟩ := by
    decide +kernel
  exact ⟨addressable, by decide, path, named,
    (valueName?_sound addressable (by decide) path 4 "write").2.2.1 named⟩

end Prototype

end StackScope
