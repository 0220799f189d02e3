import StackScope.Heap
import StackScope.Text.Quoted

/-!
Values as text, for messages and for inspection. Objects are shown by category and address. An
inspected object shows its fields, but of the objects it refers to only their addresses, so that
tables that contain themselves have a text too.
-/

namespace StackScope

def addressText (kind index : Nat) : String :=
  "0x" ++ String.ofList (Nat.toDigits 16 (64 * (index + 1) + 16 * kind))

def tableAddress (id : TableId) : String := addressText 0 id.index

def functionAddress (id : FunctionId) : String := addressText 1 id.index

def userdataAddress (id : UserdataId) : String := addressText 2 id.index

def threadAddress (id : ThreadId) : String := addressText 3 id.index

namespace Heap

def valueText (heap : Heap) : Value → String
  | .nil => "nil"
  | .boolean true => "true"
  | .boolean false => "false"
  | .number value => value.text
  | .text value => value
  | .table id => "table: " ++ tableAddress id
  | .function id =>
      if (heap.function id).code.isHost then "function: builtin: " ++ functionAddress id
      else "function: " ++ functionAddress id
  | .userdata id => "userdata: " ++ userdataAddress id
  | .thread id => "thread: " ++ threadAddress id

def inspectValue (heap : Heap) : Value → String
  | .nil => "Nil"
  | .boolean true => "Boolean(true)"
  | .boolean false => "Boolean(false)"
  | .number value => "Number(" ++ value.plainText ++ ")"
  | .text value => "String(" ++ QuotationForm.inspection.write value ++ ")"
  | value => heap.valueText value

def inspectFields (title : String) (fields : List (String × String)) : String :=
  title ++ " \x7b " ++
    String.intercalate ", " (fields.map fun field => field.1 ++ ": " ++ field.2) ++ " \x7d"

def inspectTableSlot : Option TableId → String
  | some id => "Some(" ++ tableAddress id ++ ")"
  | none => "None"

def inspectTable (heap : Heap) (table : Table) : String :=
  let entries := table.entries.map fun entry =>
    QuotationForm.inspection.write entry.1 ++ ": " ++ heap.inspectValue entry.2
  inspectFields "Table"
    [("entries", "\x7b" ++ String.intercalate ", " entries ++ "\x7d"),
      ("array", "[" ++ String.intercalate ", " (table.sequence.map heap.inspectValue) ++ "]"),
      ("metatable", inspectTableSlot table.metatable)]

def inspectUserdata (object : UserdataObject) : String :=
  inspectFields "Userdata"
    [("type_name", QuotationForm.inspection.write object.typeName),
      ("metatable", inspectTableSlot object.metatable),
      ("env", inspectTableSlot object.environment)]

def inspectThread (object : ThreadObject) : String :=
  inspectFields "ThreadHandle"
    [("name", QuotationForm.inspection.write object.name),
      ("env", tableAddress object.environment),
      ("metatable", inspectTableSlot object.metatable)]

def inspectHostFunction (function : HostFunction) (object : FunctionObject) : String :=
  let kind := inspectFields "NativeFunction"
    [("name", QuotationForm.inspection.write function.name),
      ("upvalues", decimalText object.upvalues.length),
      ("introspective", if function.introspective then "true" else "false")]
  inspectFields "Function"
    [("kind", "Native(" ++ kind ++ ")"),
      ("env", inspectTableSlot object.environment),
      ("metatable", inspectTableSlot object.metatable)]

/-- The inspection text of what a value refers to. Script functions show their address only. -/
def inspect (heap : Heap) (value : Value) : String :=
  match value with
  | .table id => heap.inspectTable (heap.table id)
  | .userdata id => inspectUserdata (heap.userdataAt id)
  | .thread id => inspectThread (heap.thread id)
  | .function id =>
      match (heap.function id).code with
      | .host function => inspectHostFunction function (heap.function id)
      | .script _ => heap.inspectValue value
  | _ => heap.inspectValue value

end Heap

end StackScope
