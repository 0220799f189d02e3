import StackScope.Library.Debug

/-!
Scenarios: call stacks described from outside. A scenario defines script functions and lists the
calls that are active, outermost first. Building it makes each function a global and then makes the
calls, one after the other, through the operations that a running interpreter would use.
-/

namespace StackScope

structure FunctionDefinition where
  name : String
  prototype : Prototype
  /-- The initial values of the upvalues, unless they are shared. -/
  upvalues : List Constant := []
  /-- The name of an earlier definition whose upvalues this one shares. -/
  sharesUpvaluesWith : Option String := none
deriving Inhabited

inductive CallStep where
  /-- A script function stopped at a position, with the contents of its leading registers. A tail
  step replaces the current frame. -/
  | script (function : String) (position : Nat) (registers : List Constant) (tail : Bool)
  /-- A host function that is running. -/
  | host (name : String)
deriving DecidableEq, Inhabited

structure Scenario where
  functions : List FunctionDefinition
  calls : List CallStep
deriving Inhabited

inductive ScenarioFault where
  | malformed
  | unknownFunction (name : String)
  | register (function : String) (register : Nat) (cause : Fault)
  | machine (cause : Fault)
deriving DecidableEq, Inhabited

def ScenarioFault.message : ScenarioFault → String
  | malformed => "invalid scenario: malformed text"
  | unknownFunction name => "call to undefined function '" ++ name ++ "'"
  | register function number cause =>
      "register " ++ decimalText number ++ " of '" ++ function ++ "': " ++ cause.message
  | machine cause => cause.message

namespace Scenario

abbrev Defined := List (String × FunctionId)

/-- The upvalue cells of a new closure: those of the definition that it shares with, or new ones. -/
def upvalueCells (heap : Heap) (defined : Defined) (definition : FunctionDefinition) :
    Except ScenarioFault (List CellId × Heap) :=
  match definition.sharesUpvaluesWith with
  | some other =>
      match defined.lookup other with
      | some function => .ok ((heap.function function).upvalues, heap)
      | none => .error (.unknownFunction other)
  | none => .ok (heap.addCells (definition.upvalues.map Constant.toValue))

def define (context : Context) (defined : Defined) (definition : FunctionDefinition) :
    Except ScenarioFault (Defined × Context) := do
  let (upvalues, heap) ← upvalueCells context.heap defined definition
  let (function, heap) :=
    heap.addFunction { code := .script definition.prototype.normalize, upvalues }
  let context := { context with heap }.setGlobal definition.name (.function function)
  return ((definition.name, function) :: defined, context)

def defineAll (context : Context) (defined : Defined) :
    List FunctionDefinition → Except ScenarioFault (Defined × Context)
  | [] => .ok (defined, context)
  | definition :: rest => do
      let (defined, context) ← define context defined definition
      defineAll context defined rest

def fillRegisters (context : Context) (function : String) (register : Nat) :
    List Constant → Except ScenarioFault Context
  | [] => .ok context
  | constant :: rest =>
      match context.setRegister register constant.toValue with
      | (.error fault, _) => .error (.register function register fault)
      | (.ok (), context) => fillRegisters context function (register + 1) rest

def require (outcome : Outcome Unit) : Except ScenarioFault Context :=
  match outcome with
  | (.error fault, _) => .error (.machine fault)
  | (.ok (), context) => .ok context

def replay (defined : Defined) (context : Context) : CallStep → Except ScenarioFault Context
  | .script name position registers tail =>
      match defined.lookup name with
      | none => .error (.unknownFunction name)
      | some function => do
          let context ←
            require (if tail then context.tailCall function [] else context.call function [])
          let context ← fillRegisters context name 0 registers
          require (context.setPosition position)
  | .host name =>
      let (function, heap) := context.heap.addFunction
        { code := .host { name, body := .program fun _ => .finish (.ok []) } }
      require ({ context with heap }.call function [])

def replayAll (defined : Defined) (context : Context) :
    List CallStep → Except ScenarioFault Context
  | [] => .ok context
  | step :: rest => do
      let context ← replay defined context step
      replayAll defined context rest

/-- A new context with the scenario's functions as globals and its calls on the stack. The first
definition or step that fails decides the error. -/
def build (scenario : Scenario) (heap : Heap) (config : Config) : Except ScenarioFault Context := do
  let (defined, context) ← defineAll (Context.create heap config).openDebug [] scenario.functions
  replayAll defined context scenario.calls

end Scenario

end StackScope
