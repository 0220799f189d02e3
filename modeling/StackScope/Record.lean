import StackScope.ChunkName
import StackScope.Context.Levels
import StackScope.Prototype.Naming

/-!
Records: descriptions of a function or of a level. A mask, written as a text of option letters,
selects the fields. Fields that are not selected, or that the target does not have, stay empty.
-/

namespace StackScope

structure Mask where
  /-- Letter `S`: what it is, its source and its lines. -/
  source : Bool := false
  /-- Letter `l`. -/
  currentLine : Bool := false
  /-- Letter `u`. -/
  upvalues : Bool := false
  /-- Letter `n`. -/
  name : Bool := false
  /-- Letter `f`. -/
  function : Bool := false
  /-- Letter `L`. -/
  activeLines : Bool := false
  /-- A leading angle bracket: the target is a function, not a level. -/
  fromFunction : Bool := false
deriving DecidableEq, Inhabited

namespace Mask

def defaultOptions : String := "Slunf"

def select? (mask : Mask) : Char → Option Mask
  | 'S' => some { mask with source := true }
  | 'l' => some { mask with currentLine := true }
  | 'u' => some { mask with upvalues := true }
  | 'n' => some { mask with name := true }
  | 'f' => some { mask with function := true }
  | 'L' => some { mask with activeLines := true }
  | _ => none

def parseLetters (mask : Mask) : List Char → Except Fault Mask
  | [] => .ok mask
  | letter :: rest =>
      match mask.select? letter with
      | some mask => parseLetters mask rest
      | none => .error (.invalidOption letter)

def parseChars : List Char → Except Fault Mask
  | '>' :: letters => parseLetters { fromFunction := true } letters
  | letters => parseLetters {} letters

def parse (options : String) : Except Fault Mask := parseChars options.toList

def all : Mask where
  source := true
  currentLine := true
  upvalues := true
  name := true
  function := true
  activeLines := true

end Mask

inductive CodeKind where
  | script
  | host
  | main
  | tail
deriving DecidableEq, Inhabited

def CodeKind.text : CodeKind → String
  | script => "Lua"
  | host => "C"
  | main => "main"
  | tail => "tail"

structure Record where
  /-- The name by which the function was called. -/
  name : Option String := none
  nameKind : Option NameKind := none
  kind : Option CodeKind := none
  source : Option String := none
  shortSource : Option String := none
  currentLine : Option Nat := none
  lineDefined : Option Nat := none
  lastLineDefined : Option Nat := none
  upvalueCount : Option Nat := none
  function : Option Value := none
  /-- Ascending and without repetition. -/
  activeLines : Option (List Nat) := none
deriving DecidableEq, Inhabited

inductive Target where
  | level (level : Level)
  | value (value : Value)
deriving DecidableEq, Inhabited

def insertLine (line : Nat) : List Nat → List Nat
  | [] => [line]
  | first :: rest =>
      if line < first then line :: first :: rest
      else if line = first then first :: rest
      else first :: insertLine line rest

def distinctLines (lines : List Nat) : List Nat := lines.foldr insertLine []

theorem mem_insertLine {line other : Nat} {lines : List Nat} :
    other ∈ insertLine line lines ↔ other = line ∨ other ∈ lines := by
  induction lines with
  | nil => simp [insertLine]
  | cons first rest ih =>
      unfold insertLine
      split
      · simp
      · split
        · simp_all
        · rw [List.mem_cons, ih, List.mem_cons]
          constructor
          · rintro (same | same | member)
            · exact .inr (.inl same)
            · exact .inl same
            · exact .inr (.inr member)
          · rintro (same | same | member)
            · exact .inr (.inl same)
            · exact .inl same
            · exact .inr (.inr member)

theorem mem_distinctLines {line : Nat} {lines : List Nat} :
    line ∈ distinctLines lines ↔ line ∈ lines := by
  induction lines with
  | nil => rfl
  | cons first rest ih =>
      change line ∈ insertLine first (distinctLines rest) ↔ _
      rw [mem_insertLine, ih, List.mem_cons]

theorem pairwise_insertLine {line : Nat} {lines : List Nat}
    (ascending : lines.Pairwise (· < ·)) : (insertLine line lines).Pairwise (· < ·) := by
  induction lines with
  | nil => simp [insertLine]
  | cons first rest ih =>
      obtain ⟨above, ascendingRest⟩ := List.pairwise_cons.mp ascending
      unfold insertLine
      split
      · rename_i smaller
        refine List.pairwise_cons.mpr ⟨?_, ascending⟩
        intro other member
        rcases List.mem_cons.mp member with same | member
        · omega
        · have := above other member
          omega
      · split
        · exact ascending
        · refine List.pairwise_cons.mpr ⟨?_, ih ascendingRest⟩
          intro other member
          rcases mem_insertLine.mp member with same | member
          · omega
          · exact above other member

theorem pairwise_distinctLines (lines : List Nat) : (distinctLines lines).Pairwise (· < ·) := by
  induction lines with
  | nil => exact List.Pairwise.nil
  | cons first rest ih => exact pairwise_insertLine ih

/-! ### Resolution -/

namespace Record

def describeCode (mask : Mask) : Code → Record
  | .script prototype =>
      { kind := if mask.source then some (if prototype.isMain then .main else .script) else none
        source := if mask.source then some prototype.source else none
        shortSource := if mask.source then some (chunkName prototype.source) else none
        lineDefined := if mask.source then some prototype.lineDefined else none
        lastLineDefined := if mask.source then some prototype.lastLineDefined else none
        activeLines := if mask.activeLines then some (distinctLines prototype.lines) else none }
  | .host _ =>
      { kind := if mask.source then some .host else none
        source := if mask.source then some "=[C]" else none
        shortSource := if mask.source then some "[C]" else none }

def ofFunction (heap : Heap) (mask : Mask) (function : FunctionId) : Record :=
  let object := heap.function function
  { describeCode mask object.code with
    upvalueCount := if mask.upvalues then some object.upvalues.length else none
    function := if mask.function then some (.function function) else none }

def ofTailCall (mask : Mask) : Record where
  kind := if mask.source then some .tail else none
  source := if mask.source then some "=(tail call)" else none
  shortSource := if mask.source then some "(tail call)" else none
  upvalueCount := if mask.upvalues then some 0 else none
  function := if mask.function then some .nil else none

end Record

namespace Context

/-- The name under which the frame's function was called, read from the code of the next outer
frame. After a tail call the real caller is gone and nothing is known. -/
def callerName? (context : Context) (index : Nat) : Option ValueName := do
  let frame ← context.frameAt? index
  if 0 < frame.tailCalls then none
  else
    match index with
    | 0 => none
    | outer + 1 =>
        let caller ← context.frameAt? outer
        let prototype ← caller.prototype?
        prototype.calleeName? caller.position

def resolveLevel (context : Context) (mask : Mask) (level : Level) : Except Fault Record :=
  match level.slot with
  | .tailCall => .ok (.ofTailCall mask)
  | .active index =>
      match context.frameAt? index with
      | none => .error (.invalidTarget (.levelGone level.number))
      | some frame =>
          let called := if mask.name then context.callerName? index else none
          .ok { Record.ofFunction context.heap mask frame.function with
            currentLine := if mask.currentLine then frame.currentLine? else none
            name := called.map ValueName.name
            nameKind := called.map ValueName.kind }

def resolve (context : Context) (mask : Mask) : Target → Except Fault Record
  | .value (.function function) => .ok (.ofFunction context.heap mask function)
  | .value other => .error (.invalidTarget (.notAFunction other.category))
  | .level level =>
      if mask.fromFunction then .error (.invalidOption '>') else context.resolveLevel mask level

end Context

end StackScope
