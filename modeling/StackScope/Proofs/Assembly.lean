import Mathlib.Data.List.Pairwise
import StackScope.Prototype.Builder
import StackScope.Proofs.ScopeOrder

/-!
Prototypes assembled in any number of steps. Each step that adds an item answers with a position,
and the item is to be found there in the finished prototype, whatever steps come before and after.

There are two exceptions. A zero is not added when the zero of the other sign is present, and its
position is that of the other one. And a position that does not fit into its word wraps around.
-/

namespace StackScope

namespace Number

def positiveZero : Number := ⟨0⟩

def negativeZero : Number := ⟨0x8000000000000000⟩

theorem isZero_iff (number : Number) :
    number.isZero = true ↔ number = positiveZero ∨ number = negativeZero := by
  constructor
  · intro zero
    have remainder : number.word % signWeight = 0 := beq_iff_eq.mp zero
    have bounded : number.word < 2 * signWeight := number.bits.toNat_lt
    have words : number.word = 0 ∨ number.word = signWeight := by
      unfold signWeight at *
      omega
    rcases words with word | word
    · exact Or.inl (congrArg mk (UInt64.toNat_inj.mp word))
    · exact Or.inr (congrArg mk (UInt64.toNat_inj.mp word))
  · rintro (rfl | rfl) <;> decide

theorem eq_or_zeros_of_equals {left right : Number} (same : left.equals right = true) :
    left = right ∨ left.isZero = true ∧ right.isZero = true := by
  unfold equals at same
  rw [Bool.and_eq_true, Bool.or_eq_true, Bool.and_eq_true (isZero left), beq_iff_eq] at same
  exact same.2

end Number

namespace Constant

def OppositeZeros (left right : Constant) : Prop :=
  left = .number .positiveZero ∧ right = .number .negativeZero ∨
    left = .number .negativeZero ∧ right = .number .positiveZero

instance (left right : Constant) : Decidable (OppositeZeros left right) :=
  inferInstanceAs (Decidable (_ ∨ _))

theorem OppositeZeros.ne {left right : Constant} (opposite : OppositeZeros left right) :
    left ≠ right := by
  rcases opposite with ⟨rfl, rfl⟩ | ⟨rfl, rfl⟩ <;> decide

theorem OppositeZeros.equals {left right : Constant} (opposite : OppositeZeros left right) :
    left.equals right = true := by
  rcases opposite with ⟨rfl, rfl⟩ | ⟨rfl, rfl⟩ <;> decide

/-- Constants that denote the same value are identical, the two zeros apart. -/
theorem eq_or_oppositeZeros_of_equals {left right : Constant}
    (same : left.equals right = true) : left = right ∨ OppositeZeros left right := by
  unfold equals at same
  split at same
  · exact Or.inl rfl
  · exact Or.inl (congrArg boolean (beq_iff_eq.mp same))
  · rcases Number.eq_or_zeros_of_equals same with identical | ⟨leftZero, rightZero⟩
    · exact Or.inl (congrArg number identical)
    · rcases (Number.isZero_iff _).mp leftZero with rfl | rfl <;>
        rcases (Number.isZero_iff _).mp rightZero with rfl | rfl
      · exact Or.inl rfl
      · exact Or.inr (Or.inl ⟨rfl, rfl⟩)
      · exact Or.inr (Or.inr ⟨rfl, rfl⟩)
      · exact Or.inl rfl
  · exact Or.inl (congrArg text (beq_iff_eq.mp same))
  · cases same

theorem equals_comm (left right : Constant) : left.equals right = right.equals left := by
  cases left <;> cases right <;>
    first | rfl | exact BEq.comm | exact Number.equals_comm _ _

end Constant

inductive AssemblyStep where
  | parameters (count : Nat)
  | variadic
  | stackSize (size : Nat)
  | emit (instruction : Instruction) (line : Nat)
  | constant (value : Constant)
  | text (value : String)
  | declare (name : String) (first last : Nat)
  | upvalue (name : String)
  | child (prototype : Prototype)

/-- The finished prototype has at the position what the step added. Steps that add nothing answer
with no position. -/
def AssemblyStep.Designates (built : Prototype) : AssemblyStep → Option Nat → Prop
  | .emit instruction line, some position =>
      built.instructions[position]? = some instruction ∧ built.lineAt? position = some line
  | .constant value, some position => built.constants[position]? = some value
  | .text value, some position => built.constants[position]? = some (.text value)
  | .upvalue name, some position => built.upvalueNames[position]? = some (some name)
  | .child prototype, some position => built.children[position]? = some prototype.normalize
  | .parameters _, none | .variadic, none | .stackSize _, none | .declare _ _ _, none => True
  | _, _ => False

namespace PrototypeBuilder

def perform (builder : PrototypeBuilder) : AssemblyStep → Option Nat × PrototypeBuilder
  | .parameters count => (none, builder.withParameters count)
  | .variadic => (none, builder.variadic)
  | .stackSize size => (none, builder.withStackSize size)
  | .emit instruction line => (builder.emit instruction line).map some id
  | .constant value => (builder.constant value).map some id
  | .text value => (builder.text value).map some id
  | .declare name first last => (none, builder.declare name first last)
  | .upvalue name => (builder.upvalue name).map some id
  | .child prototype => (builder.child prototype).map some id

def run (builder : PrototypeBuilder) (steps : List AssemblyStep) : PrototypeBuilder :=
  steps.foldl (fun builder step => (builder.perform step).2) builder

theorem run_cons (builder : PrototypeBuilder) (step : AssemblyStep) (rest : List AssemblyStep) :
    builder.run (step :: rest) = (builder.perform step).2.run rest := rfl

theorem run_append (builder : PrototypeBuilder) (before after : List AssemblyStep) :
    builder.run (before ++ after) = (builder.run before).run after :=
  List.foldl_append

def constantPlace (builder : PrototypeBuilder) (value : Constant) : Nat :=
  builder.constants.findIdx fun present => present.equals value

/-- A constant is found, or it is added at the end. -/
theorem constant_cases (builder : PrototypeBuilder) (value : Constant) :
    (∃ present, builder.constants.toList[builder.constantPlace value]? = some present ∧
      present.equals value = true ∧
      builder.constant value = (builder.constantPlace value % Word.size32, builder)) ∨
    (builder.constantPlace value = builder.constants.toList.length ∧
      (∀ present ∈ builder.constants.toList, present.equals value = false) ∧
      builder.constant value = (builder.constantPlace value % Word.size32,
        { builder with constants := builder.constants.push value })) := by
  unfold constant constantPlace
  cases found : builder.constants.findIdx? fun present => present.equals value with
  | some index =>
      obtain ⟨inside, same, -⟩ := Array.findIdx?_eq_some_iff_getElem.mp found
      rw [(Array.findIdx?_eq_some_iff_findIdx_eq.mp found).2]
      refine Or.inl ⟨builder.constants[index], ?_, same, rfl⟩
      rw [Array.getElem?_toList]
      exact Array.getElem?_eq_getElem inside
  | none =>
      have absent := Array.findIdx?_eq_none_iff.mp found
      rw [Array.findIdx?_eq_none_iff_findIdx_eq.mp found]
      refine Or.inr ⟨Array.length_toList.symm, ?_, rfl⟩
      intro present member
      exact absent present (Array.mem_toList_iff.mp member)

structure Extends (earlier later : PrototypeBuilder) : Prop where
  instructions : earlier.instructions.toList <+: later.instructions.toList
  lines : earlier.lines.toList <+: later.lines.toList
  constants : earlier.constants.toList <+: later.constants.toList
  upvalueNames : earlier.upvalueNames.toList <+: later.upvalueNames.toList
  children : earlier.children.toList <+: later.children.toList

namespace Extends

variable {first middle last : PrototypeBuilder}

theorem refl (builder : PrototypeBuilder) : Extends builder builder :=
  ⟨List.prefix_rfl, List.prefix_rfl, List.prefix_rfl, List.prefix_rfl, List.prefix_rfl⟩

theorem trans (earlier : Extends first middle) (later : Extends middle last) :
    Extends first last where
  instructions := earlier.instructions.trans later.instructions
  lines := earlier.lines.trans later.lines
  constants := earlier.constants.trans later.constants
  upvalueNames := earlier.upvalueNames.trans later.upvalueNames
  children := earlier.children.trans later.children

end Extends

theorem prefix_push {α : Type} (items : Array α) (item : α) :
    items.toList <+: (items.push item).toList :=
  ⟨[item], Array.toList_push.symm⟩

theorem extends_constant (builder : PrototypeBuilder) (value : Constant) :
    builder.Extends (builder.constant value).2 := by
  rcases builder.constant_cases value with ⟨present, -, -, found⟩ | ⟨-, -, added⟩
  · rw [found]
    exact .refl builder
  · rw [added]
    exact { Extends.refl builder with constants := prefix_push _ _ }

theorem extends_perform (builder : PrototypeBuilder) (step : AssemblyStep) :
    builder.Extends (builder.perform step).2 := by
  have same := Extends.refl builder
  cases step with
  | parameters | variadic | stackSize | declare =>
      exact ⟨same.instructions, same.lines, same.constants, same.upvalueNames, same.children⟩
  | emit instruction line =>
      exact { same with instructions := prefix_push _ _, lines := prefix_push _ _ }
  | constant value => exact builder.extends_constant value
  | text value => exact builder.extends_constant (.text value)
  | upvalue name => exact { same with upvalueNames := prefix_push _ _ }
  | child prototype => exact { same with children := prefix_push _ _ }

theorem extends_run (builder : PrototypeBuilder) (steps : List AssemblyStep) :
    builder.Extends (builder.run steps) := by
  induction steps generalizing builder with
  | nil => exact .refl builder
  | cons step rest ih => exact (builder.extends_perform step).trans (ih _)

/-! ### What holds between steps -/

/-- Each instruction has a line, and constants that denote the same value are kept once. -/
structure Assembled (builder : PrototypeBuilder) : Prop where
  paired : builder.instructions.size = builder.lines.size
  distinct : builder.constants.toList.Pairwise fun earlier later => earlier.equals later = false

namespace Assembled

variable {builder : PrototypeBuilder}

theorem function (source : String) (lineDefined lastLineDefined : Nat) :
    Assembled (.function source lineDefined lastLineDefined) :=
  ⟨rfl, List.Pairwise.nil⟩

theorem constant (assembled : builder.Assembled) (value : Constant) :
    (builder.constant value).2.Assembled := by
  rcases builder.constant_cases value with ⟨present, -, -, found⟩ | ⟨-, absent, added⟩
  · rw [found]
    exact assembled
  · rw [added]
    refine ⟨assembled.paired, ?_⟩
    rw [Array.toList_push, List.pairwise_append]
    refine ⟨assembled.distinct, List.pairwise_singleton _ _, ?_⟩
    intro present member other last
    rw [List.mem_singleton.mp last]
    exact absent present member

theorem perform (assembled : builder.Assembled) (step : AssemblyStep) :
    (builder.perform step).2.Assembled := by
  cases step with
  | parameters | variadic | stackSize | declare | upvalue | child =>
      exact ⟨assembled.paired, assembled.distinct⟩
  | emit instruction line =>
      refine ⟨?_, assembled.distinct⟩
      change (builder.instructions.push instruction).size = (builder.lines.push line).size
      rw [Array.size_push, Array.size_push, assembled.paired]
  | constant value => exact assembled.constant value
  | text value => exact assembled.constant (.text value)

theorem run (assembled : builder.Assembled) (steps : List AssemblyStep) :
    (builder.run steps).Assembled := by
  induction steps generalizing builder with
  | nil => exact assembled
  | cons step rest ih => exact ih (assembled.perform step)

theorem not_oppositeZeros (assembled : builder.Assembled) {left right : Constant}
    (leftMember : left ∈ builder.constants.toList)
    (rightMember : right ∈ builder.constants.toList) : ¬ left.OppositeZeros right := by
  intro opposite
  have symmetric : Std.Symm fun earlier later : Constant => earlier.equals later = false :=
    ⟨fun earlier later apart => (later.equals_comm earlier).trans apart⟩
  have apart := assembled.distinct.forall leftMember rightMember opposite.ne
  rw [opposite.equals] at apart
  cases apart

end Assembled

/-! ### Positions in the finished prototype -/

/-- The lists of the builder that building hands on, the children with their scopes in order. -/
theorem build_eq (builder : PrototypeBuilder) :
    builder.build =
      { builder.build with
        instructions := builder.instructions.toList
        constants := builder.constants.toList
        lines := builder.lines.toList
        upvalueNames := builder.upvalueNames.toList
        children := builder.children.toList.map Prototype.normalize } := by
  rw [build, Prototype.normalize_eq]

theorem getElem?_of_extended {α : Type} {items all : List α} (extended : items <+: all)
    {position : Nat} (inside : position < items.length) : all[position]? = items[position]? := by
  obtain ⟨rest, rfl⟩ := extended
  exact List.getElem?_append_left inside

theorem getElem?_last {α : Type} {items all : List α} {item : α}
    (extended : items ++ [item] <+: all) : all[items.length]? = some item := by
  rw [getElem?_of_extended extended (by simp)]
  exact List.getElem?_concat_length

/-- An item that was added last is found at its position as long as that fits into the word, and
else only if the same item happens to be where the position wraps around to. -/
theorem getElem?_wrapped {α : Type} {items all : List α} {item : α} (modulus : Nat)
    (positive : 0 < modulus) (extended : items ++ [item] <+: all) :
    all[items.length % modulus]? = some item ↔
      items.length < modulus ∨ items[items.length % modulus]? = some item := by
  rcases Nat.lt_or_ge items.length modulus with fits | wraps
  · rw [Nat.mod_eq_of_lt fits]
    exact iff_of_true (getElem?_last extended) (Or.inl fits)
  -- The position lies among the earlier items, which the new one does not change.
  · have inside : items.length % modulus < items.length :=
      Nat.lt_of_lt_of_le (Nat.mod_lt _ positive) wraps
    have before : items <+: all := (List.prefix_append items [item]).trans extended
    rw [getElem?_of_extended before inside]
    exact ⟨Or.inr, fun found => found.resolve_left (Nat.not_lt.mpr wraps)⟩

/-- When the position of a constant leads to that very constant. -/
def KeepsConstant (builder : PrototypeBuilder) (value : Constant) : Prop :=
  if builder.constantPlace value < Word.size32 then
    ∀ present ∈ builder.constants.toList, ¬ present.OppositeZeros value
  else
    builder.constants.toList[builder.constantPlace value % Word.size32]? = some value

instance (builder : PrototypeBuilder) (value : Constant) :
    Decidable (builder.KeepsConstant value) := by
  delta KeepsConstant
  infer_instance

def Faithful (builder : PrototypeBuilder) : AssemblyStep → Prop
  | .constant value => builder.KeepsConstant value
  | .text value => builder.KeepsConstant (.text value)
  | .upvalue name =>
      builder.upvalueNames.size < Word.size16 ∨
        builder.upvalueNames.toList[builder.upvalueNames.size % Word.size16]? =
          some (some name)
  | .child prototype =>
      builder.children.size < Word.size32 ∨
        builder.children.toList[builder.children.size % Word.size32]?.map Prototype.normalize =
          some prototype.normalize
  | _ => True

variable {builder later : PrototypeBuilder}

theorem designates_emit (assembled : builder.Assembled) {instruction : Instruction} {line : Nat}
    (extended : (builder.emit instruction line).2.Extends later) :
    (AssemblyStep.emit instruction line).Designates later.build
      (some (builder.emit instruction line).1) := by
  have instructions := extended.instructions
  have lines := extended.lines
  change (builder.instructions.push instruction).toList <+: _ at instructions
  change (builder.lines.push line).toList <+: _ at lines
  rw [Array.toList_push] at instructions lines
  have position : (builder.emit instruction line).1 = builder.lines.toList.length :=
    assembled.paired
  rw [build_eq]
  refine ⟨getElem?_last instructions, ?_⟩
  rw [position]
  exact getElem?_last lines

theorem designates_constant (assembled : builder.Assembled) {value : Constant}
    (extended : (builder.constant value).2.Extends later) :
    later.constants.toList[(builder.constant value).1]? = some value ↔
      builder.KeepsConstant value := by
  have constants := extended.constants
  unfold KeepsConstant
  rcases builder.constant_cases value with ⟨present, there, same, found⟩ | ⟨free, absent, added⟩
  · have inside : builder.constantPlace value < builder.constants.toList.length :=
      (List.getElem?_eq_some_iff.mp there).1
    rw [found] at constants ⊢
    have wrapped := Nat.lt_of_le_of_lt (Nat.mod_le _ Word.size32) inside
    rw [getElem?_of_extended constants wrapped]
    split
    · rename_i fits
      rw [Nat.mod_eq_of_lt fits, there, Option.some_inj]
      have member := List.mem_of_getElem? there
      constructor
      -- If the constant found is the value itself, then its opposite was never added beside it.
      · rintro rfl other otherMember
        exact assembled.not_oppositeZeros otherMember member
      · intro none_opposite
        exact (Constant.eq_or_oppositeZeros_of_equals same).resolve_right
          (none_opposite present member)
    · exact Iff.rfl
  · rw [added] at constants ⊢
    dsimp only at constants ⊢
    rw [Array.toList_push] at constants
    rw [free, getElem?_wrapped Word.size32 (by decide) constants]
    split
    · rename_i fits
      refine iff_of_true (Or.inl fits) ?_
      intro present member opposite
      have equal := absent present member
      rw [opposite.equals] at equal
      cases equal
    · rename_i wraps
      exact or_iff_right wraps

theorem designates_upvalue {name : String} (extended : (builder.upvalue name).2.Extends later) :
    (AssemblyStep.upvalue name).Designates later.build (some (builder.upvalue name).1) ↔
      builder.Faithful (.upvalue name) := by
  have names := extended.upvalueNames
  change (builder.upvalueNames.push (some name)).toList <+: _ at names
  rw [Array.toList_push] at names
  rw [build_eq]
  exact getElem?_wrapped Word.size16 (by decide) names

theorem designates_child {prototype : Prototype}
    (extended : (builder.child prototype).2.Extends later) :
    (AssemblyStep.child prototype).Designates later.build (some (builder.child prototype).1) ↔
      builder.Faithful (.child prototype) := by
  have children := extended.children.map Prototype.normalize
  change (builder.children.push prototype).toList.map _ <+: _ at children
  rw [Array.toList_push, List.map_append] at children
  have wrapped := getElem?_wrapped Word.size32 (by decide) children
  rw [List.length_map, List.getElem?_map (l := builder.children.toList)] at wrapped
  rw [build_eq]
  exact wrapped

theorem designates_iff (assembled : builder.Assembled) (step : AssemblyStep)
    (extended : (builder.perform step).2.Extends later) :
    step.Designates later.build (builder.perform step).1 ↔ builder.Faithful step := by
  cases step with
  | parameters | variadic | stackSize | declare => exact Iff.rfl
  | emit instruction line => exact iff_of_true (designates_emit assembled extended) trivial
  | constant value =>
      rw [build_eq]
      exact designates_constant assembled extended
  | text value =>
      rw [build_eq]
      exact designates_constant assembled extended
  | upvalue name => exact designates_upvalue extended
  | child prototype => exact designates_child extended

/-- What the positions mean that the steps from a new builder answer with. -/
structure AssemblyLaws (start : PrototypeBuilder) (steps : List AssemblyStep) : Prop where
  paired : (start.run steps).build.instructions.length = (start.run steps).build.lines.length
  distinct : (start.run steps).build.constants.Pairwise
    fun earlier later => earlier.equals later = false
  designates : ∀ before step after, steps = before ++ step :: after →
    (step.Designates (start.run steps).build ((start.run before).perform step).1 ↔
      (start.run before).Faithful step)

/-- A position leads to what the step added, unless it is that of a zero for the zero of the other
sign or it does not fit into its word. -/
theorem positions_designate (source : String) (lineDefined lastLineDefined : Nat)
    (steps : List AssemblyStep) :
    AssemblyLaws (.function source lineDefined lastLineDefined) steps := by
  have fresh := Assembled.function source lineDefined lastLineDefined
  have assembled := fresh.run steps
  constructor
  case paired =>
    rw [build_eq]
    exact assembled.paired
  case distinct =>
    rw [build_eq]
    exact assembled.distinct
  case designates =>
    rintro before step after rfl
    rw [run_append, run_cons]
    exact designates_iff (fresh.run before) step (extends_run _ after)

def mixedSteps : List AssemblyStep :=
  [.parameters 1, .constant (.text "print"), .emit (.getGlobal 1 0) 11, .declare "a" 0 2,
    .constant (.number ⟨0x3ff0000000000000⟩), .text "print", .constant (.number .negativeZero),
    .upvalue "x", .child .unorderedScopes, .emit (.closure 2 0) 12, .stackSize 3, .variadic]

theorem positions_designate_mixed :
    (((main "=b").run (mixedSteps.take 5)).perform (.text "print")).1 = some 0 ∧
    ((main "=b").run mixedSteps).build.constants[0]? = some (.text "print") ∧
    (((main "=b").run (mixedSteps.take 6)).perform (.constant (.number .negativeZero))).1 =
      some 2 ∧
    ((main "=b").run mixedSteps).build.constants[2]? = some (.number .negativeZero) ∧
    ((main "=b").run mixedSteps).build.upvalueNames[0]? = some (some "x") ∧
    ((main "=b").run mixedSteps).build.children[0]? =
      some Prototype.unorderedScopes.normalize ∧
    ((main "=b").run mixedSteps).build.lineAt? 1 = some 12 := by
  have laws : AssemblyLaws (main "=b") mixedSteps := positions_designate "=b" 0 0 mixedSteps
  have first : (((main "=b").run (mixedSteps.take 5)).perform (.text "print")).1 = some 0 := by
    decide +kernel
  have third : (((main "=b").run (mixedSteps.take 6)).perform
      (.constant (.number .negativeZero))).1 = some 2 := by decide +kernel
  have text := (laws.designates (mixedSteps.take 5) _ (mixedSteps.drop 6) rfl).mpr
    (by change KeepsConstant _ _; decide +kernel)
  have number := (laws.designates (mixedSteps.take 6) _ (mixedSteps.drop 7) rfl).mpr
    (by change KeepsConstant _ _; decide +kernel)
  have upvalue := (laws.designates (mixedSteps.take 7) _ (mixedSteps.drop 8) rfl).mpr
    (Or.inl (by decide +kernel))
  have child := (laws.designates (mixedSteps.take 8) _ (mixedSteps.drop 9) rfl).mpr
    (Or.inl (by decide +kernel))
  have line := (laws.designates (mixedSteps.take 9) _ (mixedSteps.drop 10) rfl).mpr trivial
  rw [first] at text
  rw [third] at number
  rw [show (((main "=b").run (mixedSteps.take 7)).perform (.upvalue "x")).1 = some 0 by
    decide +kernel] at upvalue
  rw [show (((main "=b").run (mixedSteps.take 8)).perform (.child .unorderedScopes)).1 = some 0 by
    decide +kernel] at child
  rw [show (((main "=b").run (mixedSteps.take 9)).perform
    (.emit (.closure 2 0) 12)).1 = some 1 by decide +kernel] at line
  exact ⟨first, text, third, number, upvalue, child, line.2⟩

/-- The zero of the other sign is never added, and the position is that of a different constant. -/
theorem zero_in_place_of_opposite :
    (((main "=b").run [.constant (.number .positiveZero)]).perform
      (.constant (.number .negativeZero))).1 = some 0 ∧
    ¬ (AssemblyStep.constant (.number .negativeZero)).Designates
      ((main "=b").run
        [.constant (.number .positiveZero), .constant (.number .negativeZero)]).build (some 0) := by
  rw [build_eq]
  unfold AssemblyStep.Designates
  decide +kernel

end PrototypeBuilder

end StackScope
