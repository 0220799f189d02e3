import StackScope.Prototype

/-!
The written form of instructions: a name and named operands. Data files use this form, and so does
whatever else exchanges prototypes with the library.
-/

namespace StackScope

inductive OperandWidth where
  /-- A word of 16 bits. -/
  | narrow
  /-- A word of 32 bits. -/
  | wide
  /-- A signed word of 32 bits. -/
  | offset
deriving DecidableEq, Inhabited

structure Operand where
  name : String
  width : OperandWidth := .narrow
deriving DecidableEq, Inhabited

namespace Instruction

def name : Instruction → String
  | move _ _ => "Move"
  | loadConstant _ _ => "LoadK"
  | loadNil _ _ => "LoadNil"
  | getGlobal _ _ => "GetGlobal"
  | setGlobal _ _ => "SetGlobal"
  | getUpvalue _ _ => "GetUpval"
  | setUpvalue _ _ => "SetUpval"
  | getField _ _ _ => "GetField"
  | getTable _ _ _ => "GetTable"
  | setField _ _ _ => "SetField"
  | selfCall _ _ _ => "SelfCall"
  | closure _ _ => "Closure"
  | call _ _ _ => "Call"
  | tailCall _ _ => "TailCall"
  | «return» _ _ => "Return"
  | jump _ => "Jump"

def operandValues : Instruction → List Int
  | move first second | loadConstant first second | loadNil first second
  | getGlobal first second | setGlobal first second | getUpvalue first second
  | setUpvalue first second | closure first second | tailCall first second
  | «return» first second => [(first : Int), (second : Int)]
  | getField first second third | getTable first second third | setField first second third
  | selfCall first second third | call first second third =>
      [(first : Int), (second : Int), (third : Int)]
  | jump offset => [offset]

def operandsOf? : String → Option (List Operand)
  | "Move" => some [⟨"dst", .narrow⟩, ⟨"src", .narrow⟩]
  | "LoadK" => some [⟨"dst", .narrow⟩, ⟨"constant", .wide⟩]
  | "LoadNil" => some [⟨"dst", .narrow⟩, ⟨"count", .narrow⟩]
  | "GetGlobal" => some [⟨"dst", .narrow⟩, ⟨"name", .wide⟩]
  | "SetGlobal" => some [⟨"src", .narrow⟩, ⟨"name", .wide⟩]
  | "GetUpval" => some [⟨"dst", .narrow⟩, ⟨"upvalue", .narrow⟩]
  | "SetUpval" => some [⟨"src", .narrow⟩, ⟨"upvalue", .narrow⟩]
  | "GetField" => some [⟨"dst", .narrow⟩, ⟨"table", .narrow⟩, ⟨"key", .wide⟩]
  | "GetTable" => some [⟨"dst", .narrow⟩, ⟨"table", .narrow⟩, ⟨"key", .narrow⟩]
  | "SetField" => some [⟨"table", .narrow⟩, ⟨"key", .wide⟩, ⟨"src", .narrow⟩]
  | "SelfCall" => some [⟨"dst", .narrow⟩, ⟨"object", .narrow⟩, ⟨"method", .wide⟩]
  | "Closure" => some [⟨"dst", .narrow⟩, ⟨"proto", .wide⟩]
  | "Call" => some [⟨"func", .narrow⟩, ⟨"args", .narrow⟩, ⟨"results", .narrow⟩]
  | "TailCall" => some [⟨"func", .narrow⟩, ⟨"args", .narrow⟩]
  | "Return" => some [⟨"first", .narrow⟩, ⟨"count", .narrow⟩]
  | "Jump" => some [⟨"offset", .offset⟩]
  | _ => none

def make? : String → List Int → Option Instruction
  | "Move", [first, second] => some (.move first.toNat second.toNat)
  | "LoadK", [first, second] => some (.loadConstant first.toNat second.toNat)
  | "LoadNil", [first, second] => some (.loadNil first.toNat second.toNat)
  | "GetGlobal", [first, second] => some (.getGlobal first.toNat second.toNat)
  | "SetGlobal", [first, second] => some (.setGlobal first.toNat second.toNat)
  | "GetUpval", [first, second] => some (.getUpvalue first.toNat second.toNat)
  | "SetUpval", [first, second] => some (.setUpvalue first.toNat second.toNat)
  | "GetField", [first, second, third] =>
      some (.getField first.toNat second.toNat third.toNat)
  | "GetTable", [first, second, third] =>
      some (.getTable first.toNat second.toNat third.toNat)
  | "SetField", [first, second, third] =>
      some (.setField first.toNat second.toNat third.toNat)
  | "SelfCall", [first, second, third] =>
      some (.selfCall first.toNat second.toNat third.toNat)
  | "Closure", [first, second] => some (.closure first.toNat second.toNat)
  | "Call", [first, second, third] => some (.call first.toNat second.toNat third.toNat)
  | "TailCall", [first, second] => some (.tailCall first.toNat second.toNat)
  | "Return", [first, second] => some (.return first.toNat second.toNat)
  | "Jump", [offset] => some (.jump offset)
  | _, _ => none

theorem make?_name_operandValues (instruction : Instruction) :
    make? instruction.name instruction.operandValues = some instruction := by
  cases instruction <;> rfl

def namedOperands (instruction : Instruction) : List (String × Int) :=
  (((operandsOf? instruction.name).getD []).map Operand.name).zip instruction.operandValues

def ofNamed? (name : String) (value : String → Option Int) : Option Instruction := do
  let operands ← operandsOf? name
  make? name (← operands.mapM fun operand => value operand.name)

end Instruction

end StackScope
