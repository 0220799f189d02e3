/-!
The functions of the debug library, by the names under which scripts know them.
-/

namespace StackScope

inductive DebugFunction where
  | getEnvironment
  | getInfo
  | getLocal
  | getMetatable
  | getUpvalue
  | setEnvironment
  | setLocal
  | setMetatable
  | setUpvalue
  | traceback
deriving DecidableEq, Inhabited

namespace DebugFunction

def name : DebugFunction → String
  | getEnvironment => "getfenv"
  | getInfo => "getinfo"
  | getLocal => "getlocal"
  | getMetatable => "getmetatable"
  | getUpvalue => "getupvalue"
  | setEnvironment => "setfenv"
  | setLocal => "setlocal"
  | setMetatable => "setmetatable"
  | setUpvalue => "setupvalue"
  | traceback => "traceback"

def all : List DebugFunction :=
  [getEnvironment, getInfo, getLocal, getMetatable, getUpvalue, setEnvironment, setLocal,
    setMetatable, setUpvalue, traceback]

theorem mem_all (function : DebugFunction) : function ∈ all := by
  cases function <;> decide

end DebugFunction

end StackScope
