import StackScope.Association
import StackScope.Library.Arguments
import StackScope.Number.Rounding
import StackScope.Traceback
import StackScope.Variable

/-!
The debug library. Each function checks its arguments in order and then applies one operation of the
inspection layer to the context. The functions are introspective, so levels count from the function
that made the call.
-/

namespace StackScope

namespace DebugFunction

def slotResults : Option NamedValue → List Value
  | some slot => [.ofText? slot.name, slot.value]
  | none => [.nil]

def nameResults (name : Option (Option String)) : List Value := [.ofText? name.join]

def lineValue : Option Nat → Value
  | some line => .number (.ofNat line)
  | none => .number (.ofInt (-1))

def setField? (table : Table) (key : String) : Option Value → Table
  | some value => table.set key value
  | none => table

def recordFields (mask : Mask) (record : Record) : Table :=
  let table : Table := {}
  let table :=
    if mask.name then
      (setField? table "name" (record.name.map .text)).set "namewhat"
        (.text ((record.nameKind.map NameKind.text).getD ""))
    else table
  let table :=
    if mask.source then
      let table := setField? table "what" (record.kind.map fun kind => .text kind.text)
      let table := setField? table "source" (record.source.map .text)
      let table := setField? table "short_src" (record.shortSource.map .text)
      (table.set "linedefined" (lineValue record.lineDefined)).set "lastlinedefined"
        (lineValue record.lastLineDefined)
    else table
  let table :=
    if mask.currentLine then table.set "currentline" (lineValue record.currentLine) else table
  let table := setField? table "nups" (record.upvalueCount.map fun count => .number (.ofNat count))
  setField? table "func" record.function

/-- A new table for a record. The active lines go to a table of their own. -/
def recordTable (heap : Heap) (mask : Mask) (record : Record) : TableId × Heap :=
  let fields := recordFields mask record
  match record.activeLines with
  | none => heap.addTable fields
  | some lines =>
      let (active, heap) :=
        heap.addTable { sequence := lines.map fun line => .number (.ofNat line) }
      heap.addTable (fields.set "activelines" (.table active))

/-! ### The functions -/

def checkLevel (context : Context) (level : Int) : Except Fault Level :=
  match (Arguments.count? level).bind context.level? with
  | some level => .ok level
  | none => .error (.argument 1 none .levelOutOfRange)

def functionOptions (options : String) : String :=
  if options.toList.head? = some '>' then options else ">" ++ options

/-- The target that the first argument stands for. A level that does not exist gives no target. -/
def infoTarget (context : Context) (arguments : List Value) : Except Fault (Option Target) :=
  match Arguments.get arguments 1 with
  | .function id => .ok (some (.value (.function id)))
  | .number _ => do
      let level ← Arguments.integer arguments 1
      return ((Arguments.count? level).bind context.level?).map Target.level
  | other => Arguments.refuse 1 (.expected .functionOrNumber (some other.category))

def infoOptions (options : String) : Target → String
  | .value _ => functionOptions options
  | .level _ => options

def describe (context : Context) (options : String) (target : Target) :
    Except Fault (Mask × Record) := do
  let mask ← Mask.parse (infoOptions options target)
  let record ← context.resolve mask target
  return (mask, record)

/-- Options and target, checked in this order. -/
def infoQuery (context : Context) (arguments : List Value) :
    Except Fault (String × Option Target) := do
  let options ← Arguments.textOr Mask.defaultOptions arguments 2
  let target ← infoTarget context arguments
  return (options, target)

/-- A table that describes a function or a level; nil where there is no such level or where the
options do not apply. -/
def runGetInfo (arguments : List Value) (context : Context) : Outcome (List Value) :=
  match infoQuery context arguments with
  | .error fault => (.error fault, context)
  | .ok (_, none) => (.ok [.nil], context)
  | .ok (options, some target) =>
      match describe context options target with
      | .error _ => (.ok [.nil], context)
      | .ok (mask, record) =>
          let (table, heap) := recordTable context.heap mask record
          (.ok [.table table], { context with heap })

def readLocal (arguments : List Value) (context : Context) : Except Fault (List Value) := do
  let number ← Arguments.integer arguments 1
  let ordinal ← Arguments.integer arguments 2
  let level ← checkLevel context number
  return slotResults ((Arguments.count? ordinal).bind (context.getLocal? level))

def writeLocalQuery (arguments : List Value) (context : Context) :
    Except Fault (Level × Option Nat × Value) := do
  let number ← Arguments.integer arguments 1
  let ordinal ← Arguments.integer arguments 2
  let value ← Arguments.any arguments 3
  let level ← checkLevel context number
  return (level, Arguments.count? ordinal, value)

def runSetLocal (arguments : List Value) (context : Context) : Outcome (List Value) :=
  match writeLocalQuery arguments context with
  | .error fault => (.error fault, context)
  | .ok (_, none, _) => (.ok (nameResults none), context)
  | .ok (level, some ordinal, value) =>
      let (name, context) := context.setLocal level ordinal value
      (.ok (nameResults name), context)

def readUpvalue (arguments : List Value) (context : Context) : Except Fault (List Value) := do
  let function ← Arguments.function arguments 1
  let ordinal ← Arguments.integer arguments 2
  return slotResults ((Arguments.count? ordinal).bind (context.heap.getUpvalue? function))

def writeUpvalueQuery (arguments : List Value) :
    Except Fault (FunctionId × Option Nat × Value) := do
  let function ← Arguments.function arguments 1
  let ordinal ← Arguments.integer arguments 2
  let value ← Arguments.any arguments 3
  return (function, Arguments.count? ordinal, value)

def runSetUpvalue (arguments : List Value) (context : Context) : Outcome (List Value) :=
  match writeUpvalueQuery arguments with
  | .error fault => (.error fault, context)
  | .ok (_, none, _) => (.ok (nameResults none), context)
  | .ok (function, some ordinal, value) =>
      let (name, heap) := context.heap.setUpvalue function ordinal value
      (.ok (nameResults name), { context with heap })

def readMetatable (arguments : List Value) (context : Context) : Except Fault (List Value) := do
  let value ← Arguments.any arguments 1
  return [context.getMetatable value]

def runSetMetatable (arguments : List Value) (context : Context) : Outcome (List Value) :=
  match Arguments.tableOrNil arguments 2 with
  | .error fault => (.error fault, context)
  | .ok metatable =>
      match context.setMetatable (Arguments.get arguments 1) (.ofTable? metatable) with
      | (.error fault, context) => (.error fault, context)
      | (.ok value, context) => (.ok [value], context)

def readEnvironment (arguments : List Value) (context : Context) : Except Fault (List Value) := do
  let value ← Arguments.any arguments 1
  return [context.getEnvironment value]

def writeEnvironmentQuery (arguments : List Value) : Except Fault (Value × Value) := do
  let value ← Arguments.any arguments 1
  let environment ← Arguments.any arguments 2
  return (value, environment)

def runSetEnvironment (arguments : List Value) (context : Context) : Outcome (List Value) :=
  match writeEnvironmentQuery arguments with
  | .error fault => (.error fault, context)
  | .ok (value, environment) =>
      match context.setEnvironment value environment with
      | (.error fault, context) => (.error fault, context)
      | (.ok (), context) => (.ok [], context)

/-- A message that is no text, number or nil is handed back as it is. A level below zero counts as
zero. -/
def readTraceback (arguments : List Value) (context : Context) : Except Fault (List Value) :=
  match Arguments.get arguments 1 with
  | .nil | .text _ | .number _ => do
      let message ← Arguments.textOr "" arguments 1
      let start ← Arguments.integerOr 0 arguments 2
      return [.text (context.traceback ((Arguments.count? start).getD 0) message)]
  | other => .ok [other]

def run (function : DebugFunction) (arguments : List Value) (context : Context) :
    Outcome (List Value) :=
  match function with
  | getEnvironment => (readEnvironment arguments context, context)
  | getInfo => runGetInfo arguments context
  | getLocal => (readLocal arguments context, context)
  | getMetatable => (readMetatable arguments context, context)
  | getUpvalue => (readUpvalue arguments context, context)
  | setEnvironment => runSetEnvironment arguments context
  | setLocal => runSetLocal arguments context
  | setMetatable => runSetMetatable arguments context
  | setUpvalue => runSetUpvalue arguments context
  | traceback => (readTraceback arguments context, context)

def hostFunction (function : DebugFunction) : HostFunction where
  name := function.name
  introspective := true
  body := .debug function

def register (heap : Heap) (table : Table) : List DebugFunction → Table × Heap
  | [] => (table, heap)
  | function :: rest =>
      let (id, heap) := heap.addFunction { code := .host function.hostFunction }
      register heap (table.set function.name (.function id)) rest

end DebugFunction

namespace Context

def openDebug (context : Context) : Context :=
  let (table, heap) := DebugFunction.register context.heap {} DebugFunction.all
  let (library, heap) := heap.addTable table
  { context with heap }.setGlobal "debug" (.table library)

def debugFunction? (context : Context) (name : String) : Option FunctionId := do
  let library ← (context.getGlobal "debug").table?
  ((context.heap.table library).get name).function?

end Context

end StackScope
