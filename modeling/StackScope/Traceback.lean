import StackScope.Record

/-!
Tracebacks: the levels of a context from a given one outward, one line for each, after an optional
message. Each line says where the level stands and what function it runs. When there are more
levels than the settings allow, a last line counts those left out.
-/

namespace StackScope

namespace Context

def lineMask : Mask where
  source := true
  currentLine := true
  name := true

def placeText (context : Context) (record : Record) : String :=
  let source := record.shortSource.getD "?"
  if record.kind = some .host then context.config.hostPlaceholder
  else
    match record.currentLine with
    | some line => source ++ ":" ++ decimalText line
    | none => source

def namedFunction (name : String) : String := "function '" ++ name ++ "'"

def functionText (context : Context) (level : Level) (record : Record) : String :=
  match record.name with
  | some name => namedFunction name
  | none =>
      match record.kind with
      | some .main => "main chunk"
      | some .host =>
          (((context.levelFrame? level).bind fun frame => frame.code.hostName?).map
            namedFunction).getD "?"
      | some .script =>
          "function <" ++ record.shortSource.getD "?" ++ ":" ++
            decimalText (record.lineDefined.getD 0) ++ ">"
      | some .tail | none => "?"

def describe (context : Context) (level : Level) (record : Record) : String :=
  context.placeText record ++ ": in " ++ context.functionText level record

/-- The line of a level; a level that cannot be described is a question mark. -/
def tracebackLine (context : Context) (level : Level) : String :=
  match context.resolve lineMask (.level level) with
  | .ok record => context.describe level record
  | .error _ => "?"

def limitedLines (context : Context) (limit : Option Nat) (levels : List Level) : List String :=
  match limit with
  | none => levels.map context.tracebackLine
  | some limit =>
      let shown := (levels.take limit).map context.tracebackLine
      if limit < levels.length then
        shown ++ ["... (" ++ decimalText (levels.length - limit) ++ " more frames)"]
      else shown

def tracebackLines (context : Context) (start : Nat) (message : String) : List String :=
  (if message.isEmpty then [] else [message]) ++
    context.limitedLines context.config.tracebackLimit (context.levels.drop start)

def traceback (context : Context) (start : Nat) (message : String) : String :=
  String.intercalate "\n" (context.tracebackLines start message)

end Context

end StackScope
