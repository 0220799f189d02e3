import StackScope.Context

/-!
Metatables and environments. Objects own them, all texts share one metatable that the context holds,
and other primitive values have none. `Association.storage` is where this is laid down; the setters
refuse what it does not provide for.
-/

namespace StackScope

inductive Association where
  | metatable
  | environment
deriving DecidableEq, Inhabited

inductive Storage where
  /-- Values of the category have no such association. -/
  | unsupported
  /-- All values of the category share one. -/
  | shared
  /-- Each value has its own. -/
  | perObject
deriving DecidableEq, Inhabited

def Association.storage : Association → Category → Storage
  | metatable, .table | metatable, .userdata | metatable, .function | metatable, .thread =>
      .perObject
  | metatable, .text => .shared
  | environment, .function | environment, .userdata | environment, .thread => .perObject
  | _, _ => .unsupported

namespace Context

def metatable? (context : Context) : Value → Option TableId
  | .table id => (context.heap.table id).metatable
  | .userdata id => (context.heap.userdataAt id).metatable
  | .function id => (context.heap.function id).metatable
  | .thread id => (context.heap.thread id).metatable
  | .text _ => context.stringMetatable
  | .nil | .boolean _ | .number _ => none

def getMetatable (context : Context) (value : Value) : Value :=
  .ofTable? (context.metatable? value)

def putMetatable (context : Context) (value : Value) (metatable : Option TableId) : Context :=
  let heap := context.heap
  match value with
  | .table id => { context with heap := heap.setTable id { heap.table id with metatable } }
  | .userdata id =>
      { context with heap := heap.setUserdata id { heap.userdataAt id with metatable } }
  | .function id => { context with heap := heap.setFunction id { heap.function id with metatable } }
  | .thread id => { context with heap := heap.setThread id { heap.thread id with metatable } }
  | .text _ => { context with stringMetatable := metatable }
  | .nil | .boolean _ | .number _ => context

def metatableArgument (metatable : Value) : Except Fault (Option TableId) :=
  match metatable with
  | .nil => .ok none
  | .table id => .ok (some id)
  | other => .error (.argument 2 none (.expected .tableOrNil (some other.category)))

/-- Replaces the metatable of a value and answers with the value. The metatable is judged before
the value. -/
def setMetatable (context : Context) (value metatable : Value) : Outcome Value :=
  match metatableArgument metatable with
  | .error fault => (.error fault, context)
  | .ok metatable =>
      if Association.storage .metatable value.category = .unsupported then
        (.error (.argument 1 none (.cannotHoldMetatable value.category)), context)
      else (.ok value, context.putMetatable value metatable)

def functionEnvironment (context : Context) (function : FunctionId) : TableId :=
  (context.heap.function function).environment.getD context.globals

def getEnvironment (context : Context) : Value → Value
  | .function id => .table (context.functionEnvironment id)
  | .userdata id => .table ((context.heap.userdataAt id).environment.getD context.globals)
  | .thread id => .table (context.heap.thread id).environment
  | _ => .nil

def putEnvironment (context : Context) (value : Value) (environment : TableId) : Context :=
  let heap := context.heap
  match value with
  | .function id =>
      { context with
        heap := heap.setFunction id { heap.function id with environment := some environment } }
  | .userdata id =>
      { context with
        heap := heap.setUserdata id { heap.userdataAt id with environment := some environment } }
  | .thread id => { context with heap := heap.setThread id { heap.thread id with environment } }
  | _ => context

def environmentArgument (environment : Value) : Except Fault TableId :=
  match environment with
  | .table id => .ok id
  | other => .error (.argument 2 none (.expected .table (some other.category)))

/-- Replaces the environment of a value. The environment is judged before the value. -/
def setEnvironment (context : Context) (value environment : Value) : Outcome Unit :=
  match environmentArgument environment with
  | .error fault => (.error fault, context)
  | .ok environment =>
      if Association.storage .environment value.category = .unsupported then
        (.error (.argument 1 none (.cannotHoldEnvironment value.category)), context)
      else (.ok (), context.putEnvironment value environment)

def resolveGlobal (context : Context) (function : FunctionId) (name : String) : Value :=
  (context.heap.table (context.functionEnvironment function)).get name

end Context

end StackScope
