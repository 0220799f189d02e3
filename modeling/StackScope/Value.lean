import StackScope.Prototype

/-!
Values. The primitive ones carry their content; tables, functions, userdata and threads are known
by the identity of an object in the heap, so two of them are equal exactly when they are the same
object.
-/

namespace StackScope

structure TableId where
  index : Nat
deriving DecidableEq, Inhabited

structure FunctionId where
  index : Nat
deriving DecidableEq, Inhabited

structure UserdataId where
  index : Nat
deriving DecidableEq, Inhabited

structure ThreadId where
  index : Nat
deriving DecidableEq, Inhabited

structure CellId where
  index : Nat
deriving DecidableEq, Inhabited

inductive Category where
  | nil
  | boolean
  | number
  | text
  | table
  | function
  | userdata
  | thread
deriving DecidableEq, Inhabited

namespace Category

def name : Category → String
  | nil => "nil"
  | boolean => "boolean"
  | number => "number"
  | text => "string"
  | table => "table"
  | function => "function"
  | userdata => "userdata"
  | thread => "thread"

def all : List Category := [nil, boolean, number, text, table, function, userdata, thread]

def ofName? (name : String) : Option Category := all.find? fun category => category.name == name

theorem ofName?_name (category : Category) : ofName? category.name = some category := by
  cases category <;> rfl

end Category

inductive Value where
  | nil
  | boolean (value : Bool)
  | number (value : Number)
  | text (value : String)
  | table (table : TableId)
  | function (function : FunctionId)
  | userdata (userdata : UserdataId)
  | thread (thread : ThreadId)
deriving DecidableEq, Inhabited

namespace Value

def category : Value → Category
  | nil => .nil
  | boolean _ => .boolean
  | number _ => .number
  | text _ => .text
  | table _ => .table
  | function _ => .function
  | userdata _ => .userdata
  | thread _ => .thread

def isNil : Value → Bool
  | nil => true
  | _ => false

def number? : Value → Option Number
  | number value => some value
  | _ => none

def text? : Value → Option String
  | text value => some value
  | _ => none

def table? : Value → Option TableId
  | table id => some id
  | _ => none

def function? : Value → Option FunctionId
  | function id => some id
  | _ => none

/-- Equality as scripts see it: numbers compare as numbers, objects by identity. -/
def equals : Value → Value → Bool
  | nil, nil => true
  | boolean left, boolean right => left == right
  | number left, number right => left.equals right
  | text left, text right => left == right
  | table left, table right => left == right
  | function left, function right => left == right
  | userdata left, userdata right => left == right
  | thread left, thread right => left == right
  | _, _ => false

def ofTable? : Option TableId → Value
  | some id => table id
  | none => nil

def ofText? : Option String → Value
  | some value => text value
  | none => nil

end Value

def Constant.toValue : Constant → Value
  | nil => .nil
  | boolean value => .boolean value
  | number value => .number value
  | text value => .text value

structure NamedValue where
  name : Option String
  value : Value
deriving DecidableEq, Inhabited

end StackScope
