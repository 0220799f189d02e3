import StackScope.CommandLine

/-!
The program: it reads the files that an invocation names, prints the report on standard output and
errors on the error stream. The exit code is one when there is no report and two when the arguments
make no sense.
-/

namespace StackScope.CommandLine

def standardInput : String := "-"

def readText (read : IO String) : IO FileText := do
  try
    return .ok (← read)
  catch error =>
    return .error (toString error)

def readScenario (file : String) : IO FileText :=
  if file == standardInput then
    readText do (← IO.getStdin).readToEnd
  else readText (IO.FS.readFile file)

def readConfig : Option String → IO FileText
  | some file => readText (IO.FS.readFile file)
  | none => return .ok ""

def usage : String :=
  "usage: stackscope [-c CONFIG] [-v] (traceback FILE [-m MESSAGE] | info FILE [-w WHAT] | " ++
    "locals FILE) [-l LEVEL]"

def runInvocation (invocation : Invocation) : IO UInt32 := do
  let config ← readConfig invocation.config
  let scenario ← readScenario invocation.file
  match answer invocation config scenario with
  | .ok report =>
      IO.println report
      return 0
  | .error failure =>
      IO.eprintln failure.message
      return 1

def runArguments (arguments : List String) : IO UInt32 :=
  match request arguments with
  | .run invocation => runInvocation invocation
  | .help | .version => do
      IO.println usage
      return 0
  | .misuse => do
      IO.eprintln usage
      return 2

end StackScope.CommandLine

def main (arguments : List String) : IO UInt32 := StackScope.CommandLine.runArguments arguments
