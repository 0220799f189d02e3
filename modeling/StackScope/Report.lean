import StackScope.Heap.Text
import StackScope.Report.Json
import StackScope.Traceback
import StackScope.Variable

/-!
Reports on one context: its traceback, the record of a level, and the variables that are visible at
a level.
-/

namespace StackScope

inductive ReportFault where
  | noLevel (number : Nat)
  | inspection (cause : Fault)
deriving DecidableEq, Inhabited

def ReportFault.message : ReportFault → String
  | noLevel number => "Error: no frame at level " ++ decimalText number
  | inspection cause => "Error: " ++ cause.message

def Record.report (record : Record) : List (String × ReportValue) :=
  [("name", .ofText? record.name),
    ("namewhat", .ofText? (record.nameKind.map NameKind.text)),
    ("what", .ofText? (record.kind.map CodeKind.text)),
    ("source", .ofText? record.source),
    ("short_src", .ofText? record.shortSource),
    ("current_line", .ofNumber? record.currentLine),
    ("line_defined", .ofNumber? record.lineDefined),
    ("last_line_defined", .ofNumber? record.lastLineDefined),
    ("nups", .ofNumber? record.upvalueCount),
    ("active_lines",
      match record.activeLines with
      | some lines => .numbers lines
      | none => .absent)]

namespace Context

def tracebackReport (context : Context) (level : Nat) (message : Option String) : String :=
  context.traceback level (message.getD "")

/-- The record of a level. The option letters are read before the level is looked up. -/
def infoReport (context : Context) (number : Nat) (options : String) :
    Except ReportFault String := do
  let mask ← (Mask.parse options).mapError ReportFault.inspection
  let level ←
    match context.level? number with
    | some level => .ok level
    | none => .error (.noLevel number)
  let record ← (context.resolve mask (.level level)).mapError ReportFault.inspection
  return writeObject record.report

def variableLine (context : Context) (slot : NamedValue) : String :=
  slot.name.getD "?" ++ " = " ++ context.heap.valueText slot.value

def localsFrom (context : Context) (level : Level) : (bound : Nat) → (ordinal : Nat) →
    List NamedValue
  | 0, _ => []
  | bound + 1, ordinal =>
      match context.getLocal? level ordinal with
      | none => []
      | some slot => slot :: context.localsFrom level bound (ordinal + 1)

/-- All locals of a level. Each has a register in the window, so its size bounds their number. -/
def localsOf (context : Context) (level : Level) : List NamedValue :=
  match context.levelFrame? level with
  | none => []
  | some frame => context.localsFrom level (frame.top - frame.base + 1) 1

def upvaluesOf (context : Context) (function : FunctionId) : List NamedValue :=
  (List.range (context.heap.function function).upvalues.length).filterMap fun index =>
    context.heap.getUpvalue? function (index + 1)

def variableLines (context : Context) (level : Level) : List String :=
  let upvalues :=
    match context.levelFunction? level with
    | none => []
    | some function => context.upvaluesOf function
  (context.localsOf level).map context.variableLine ++
    upvalues.map fun upvalue => "upvalue " ++ context.variableLine upvalue

def localsReport (context : Context) (number : Nat) : Except ReportFault String :=
  match context.level? number with
  | none => .error (.noLevel number)
  | some level => .ok (String.intercalate "\n" (context.variableLines level))

end Context

end StackScope
