import StackScope.Config
import StackScope.Ron.Codec
import StackScope.Ron.Reader

/-!
Settings as RON texts. How settings are written and read is up to a library for the notation; what
was read is then checked.
-/

namespace StackScope

namespace Config

structure Draft where
  mainChunk : Option MainChunkPolicy := none
  hostPlaceholder : Option String := none
  tracebackLimit : Option (Option Nat) := none
  maxCallDepth : Option Nat := none

def Draft.finish (draft : Draft) : Config :=
  let defaults : Config := {}
  { mainChunk := draft.mainChunk.getD defaults.mainChunk
    hostPlaceholder := draft.hostPlaceholder.getD defaults.hostPlaceholder
    tracebackLimit := draft.tracebackLimit.getD defaults.tracebackLimit
    maxCallDepth := draft.maxCallDepth.getD defaults.maxCallDepth }

def countReader : Ron.Reader Nat := Ron.ofToken (Ron.natural 0xffffffffffffffff)

def policyReader : Ron.Reader MainChunkPolicy :=
  Ron.variant fun
    | "Expose" => some (Ron.bare .expose)
    | "Hide" => some (Ron.bare .hide)
    | _ => none

def fields : Ron.Fields Draft
  | "main_chunk" => some <|
      Ron.field Draft.mainChunk (fun draft value => { draft with mainChunk := some value })
        policyReader
  | "native_placeholder" => some <|
      Ron.field Draft.hostPlaceholder
        (fun draft value => { draft with hostPlaceholder := some value }) (Ron.ofToken Ron.text)
  | "traceback_limit" => some <|
      Ron.field Draft.tracebackLimit
        (fun draft value => { draft with tracebackLimit := some value }) (Ron.optional countReader)
  | "max_call_depth" => some <|
      Ron.field Draft.maxCallDepth (fun draft value => { draft with maxCallDepth := some value })
        countReader
  | _ => none

def reader : Ron.Reader Config := Ron.map Draft.finish (Ron.record "DebugConfig" fields {})

def policyText : MainChunkPolicy → String
  | .expose => "Expose"
  | .hide => "Hide"

def entries (config : Config) : Ron.Entries :=
  [("main_chunk", .name (policyText config.mainChunk)),
   ("native_placeholder", .text config.hostPlaceholder),
   ("traceback_limit", .ofCount? config.tracebackLimit),
   ("max_call_depth", .count config.maxCallDepth)]

/-- The reader fills missing fields with their defaults. -/
def standardCodec : Ron.Codec Config where
  toText config := .ok (Ron.layout config.entries)
  ofText text :=
    match Ron.document reader text with
    | some config => .ok config
    | none => .error "malformed text"

/-- The text of settings, whether they are valid or not. -/
def toRon (codec : Ron.Codec Config) (config : Config) : Except ConfigFault String :=
  (codec.toText config).mapError .reported

def fromRon (codec : Ron.Codec Config) (text : String) : Except ConfigFault Config := do
  let config ← (codec.ofText text).mapError .reported
  config.validate
  return config

end Config

end StackScope
