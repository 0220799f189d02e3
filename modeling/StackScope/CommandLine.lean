import StackScope.Config.Text
import StackScope.Report
import StackScope.Scenario.Text

/-!
The command line, apart from reading files and printing. Arguments become an invocation; an
invocation and the texts of the files that it names give either a report or the reason why there is
none.

Arguments are read from left to right. Options for settings and for logging are accepted before and
after the command, each at most once on either side; the setting after the command wins.
-/

namespace StackScope

inductive Command where
  | traceback
  | info
  | locals
deriving DecidableEq, Inhabited

namespace Command

def name : Command → String
  | traceback => "traceback"
  | info => "info"
  | locals => "locals"

def ofName? (name : String) : Option Command :=
  [traceback, info, locals].find? fun command => command.name == name

end Command

structure Invocation where
  command : Command
  file : String
  config : Option String := none
  message : Option String := none
  level : Nat := 0
  what : String := Mask.defaultOptions
deriving DecidableEq, Inhabited

inductive Request where
  | run (invocation : Invocation)
  | help
  | version
  | misuse
deriving DecidableEq, Inhabited

namespace CommandLine

inductive ValueOption where
  | config
  | message
  | level
  | what
deriving DecidableEq

inductive FlagOption where
  | verbose
  | help
  | version
deriving DecidableEq

inductive OptionName where
  | value (option : ValueOption)
  | flag (option : FlagOption)
deriving DecidableEq

namespace OptionName

def all : List OptionName :=
  [.value .config, .value .message, .value .level, .value .what, .flag .verbose, .flag .help,
    .flag .version]

def long : OptionName → String
  | value .config => "config"
  | value .message => "message"
  | value .level => "level"
  | value .what => "what"
  | flag .verbose => "verbose"
  | flag .help => "help"
  | flag .version => "version"

def short : OptionName → Char
  | value .config => 'c'
  | value .message => 'm'
  | value .level => 'l'
  | value .what => 'w'
  | flag .verbose => 'v'
  | flag .help => 'h'
  | flag .version => 'V'

def knownIn (option : OptionName) : Option Command → Bool
  | none =>
      option == value .config || option == flag .verbose || option == flag .help ||
        option == flag .version
  | some command =>
      match option with
      | value .config | flag .verbose | flag .help | value .level => true
      | value .message => command == .traceback
      | value .what => command == .info
      | flag .version => false

def ofLong? (command : Option Command) (name : String) : Option OptionName :=
  all.find? fun option => option.knownIn command && option.long == name

def ofShort? (command : Option Command) (letter : Char) : Option OptionName :=
  all.find? fun option => option.knownIn command && option.short == letter

end OptionName

/-! ### Reading arguments -/

structure Draft where
  config : Option String := none
  verbose : Bool := false
  message : Option String := none
  level : Option Nat := none
  what : Option String := none
  file : Option String := none

def count? (text : String) : Option Nat :=
  let digits :=
    match text.toList with
    | '+' :: rest => rest
    | characters => characters
  if digits.isEmpty || !digits.all Char.isDigit then none
  else
    let value := Ron.decimalValue digits
    if value < Word.size64 then some value else none

namespace Draft

def store? (draft : Draft) (option : ValueOption) (value : String) : Option Draft :=
  match option with
  | .config => if draft.config.isSome then none else some { draft with config := some value }
  | .message => if draft.message.isSome then none else some { draft with message := some value }
  | .what => if draft.what.isSome then none else some { draft with what := some value }
  | .level =>
      if draft.level.isSome then none
      else (count? value).map fun level => { draft with level := some level }

end Draft

inductive Reading where
  | done (draft : Draft)
  /-- The next argument is the value of an option. -/
  | pending (option : ValueOption) (draft : Draft)
  | stop (request : Request)

def Reading.ofDraft? : Option Draft → Reading
  | some draft => .done draft
  | none => .stop .misuse

def readFlag (option : FlagOption) (draft : Draft) : Reading :=
  match option with
  | .help => .stop .help
  | .version => .stop .version
  | .verbose => if draft.verbose then .stop .misuse else .done { draft with verbose := true }

def readLong (command : Option Command) (argument : List Char) (draft : Draft) : Reading :=
  let name := String.ofList (argument.takeWhile (· != '='))
  let attached :=
    match argument.dropWhile (· != '=') with
    | _ :: value => some (String.ofList value)
    | [] => none
  match OptionName.ofLong? command name, attached with
  | some (.flag option), none => readFlag option draft
  | some (.value option), some value => .ofDraft? (draft.store? option value)
  | some (.value option), none => .pending option draft
  | some (.flag _), some _ | none, _ => .stop .misuse

/-- Short options in one argument. The first one that takes a value takes the rest of it. -/
def readShort (command : Option Command) : List Char → Draft → Reading
  | [], draft => .done draft
  | letter :: rest, draft =>
      match OptionName.ofShort? command letter with
      | none => .stop .misuse
      | some (.flag option) =>
          match readFlag option draft with
          | .done draft => readShort command rest draft
          | other => other
      | some (.value option) =>
          match rest with
          | [] => .pending option draft
          | '=' :: value => .ofDraft? (draft.store? option (String.ofList value))
          | value => .ofDraft? (draft.store? option (String.ofList value))

def readFile (argument : String) (draft : Draft) : Reading :=
  match draft.file with
  | none => .done { draft with file := some argument }
  | some _ => .stop .misuse

def readArgument (command : Option Command) (argument : String) (draft : Draft) : Reading :=
  match argument.toList with
  | '-' :: '-' :: name => readLong command name draft
  | '-' :: first :: rest => readShort command (first :: rest) draft
  | _ => readFile argument draft

def isValue (argument : String) : Bool :=
  match argument.toList with
  | '-' :: _ :: _ => false
  | _ => true

def readFiles (draft : Draft) : List String → Except Request Draft
  | [] => .ok draft
  | argument :: rest =>
      match readFile argument draft with
      | .done draft => readFiles draft rest
      | .pending _ _ => .error .misuse
      | .stop request => .error request

def readValue (option : ValueOption) (draft : Draft) (argument : String) : Except Request Draft :=
  match draft.store? option argument with
  | some draft => if isValue argument then .ok draft else .error .misuse
  | none => .error .misuse

def readAfter (command : Command) :
    (waiting : Option ValueOption) → Draft → List String → Except Request Draft
  | none, draft, [] => .ok draft
  | some _, _, [] => .error .misuse
  | some option, draft, argument :: rest => do
      readAfter command none (← readValue option draft argument) rest
  | none, draft, "--" :: rest => readFiles draft rest
  | none, draft, argument :: rest =>
      match readArgument (some command) argument draft with
      | .done draft => readAfter command none draft rest
      | .pending option draft => readAfter command (some option) draft rest
      | .stop request => .error request

/-- The arguments up to the command, and those after it. Nothing but options may come before the
command. -/
def readBefore :
    (waiting : Option ValueOption) → Draft → List String →
      Except Request (Draft × Command × List String)
  | _, _, [] => .error .misuse
  | some option, draft, argument :: rest => do
      readBefore none (← readValue option draft argument) rest
  | none, draft, argument :: rest =>
      match Command.ofName? argument with
      | some command => .ok (draft, command, rest)
      | none =>
          match readArgument none argument draft with
          | .done draft =>
              if draft.file.isSome then .error .misuse else readBefore none draft rest
          | .pending option draft => readBefore (some option) draft rest
          | .stop request => .error request

def invocation (arguments : List String) : Except Request Invocation := do
  let (before, command, rest) ← readBefore none {} arguments
  let after ← readAfter command none {} rest
  match after.file with
  | none => .error .misuse
  | some file =>
      return {
        command
        file
        config := after.config.or before.config
        message := after.message
        level := after.level.getD 0
        what := after.what.getD Mask.defaultOptions }

def request (arguments : List String) : Request :=
  match invocation arguments with
  | .ok invocation => .run invocation
  | .error request => request

inductive Failure where
  | configUnreadable (file reason : String)
  | configRefused (file : String) (cause : ConfigFault)
  | scenarioUnreadable (file reason : String)
  | scenarioRefused (file : String) (cause : ScenarioFault)
  | report (cause : ReportFault)
deriving DecidableEq, Inhabited

def Failure.message : Failure → String
  | configUnreadable file reason => "Error reading config '" ++ file ++ "': " ++ reason
  | configRefused file cause => "Error in config '" ++ file ++ "': " ++ (Fault.config cause).message
  | scenarioUnreadable file reason => "Error reading file '" ++ file ++ "': " ++ reason
  | scenarioRefused file cause => "Error in scenario '" ++ file ++ "': " ++ cause.message
  | report cause => cause.message

abbrev FileText := Except String String

def loadConfig (file : Option String) (text : FileText) : Except Failure Config :=
  match file with
  | none => .ok {}
  | some file =>
      match text with
      | .error reason => .error (.configUnreadable file reason)
      | .ok text => (Config.fromRon Config.standardCodec text).mapError (.configRefused file)

def loadContext (file : String) (text : FileText) (config : Config) : Except Failure Context :=
  match text with
  | .error reason => .error (.scenarioUnreadable file reason)
  | .ok text => do
      let scenario ← (Scenario.parse text).mapError (.scenarioRefused file)
      (scenario.build .empty config).mapError (.scenarioRefused file)

def report (invocation : Invocation) (context : Context) : Except Failure String :=
  match invocation.command with
  | .traceback => .ok (context.tracebackReport invocation.level invocation.message)
  | .info => (context.infoReport invocation.level invocation.what).mapError .report
  | .locals => do
      let listing ← (context.localsReport invocation.level).mapError .report
      return if listing.isEmpty then "(no locals)" else listing

def answer (invocation : Invocation) (configText scenarioText : FileText) :
    Except Failure String := do
  let config ← loadConfig invocation.config configText
  let context ← loadContext invocation.file scenarioText config
  report invocation context

end CommandLine

end StackScope
