/-!
Settings of the inspection layer. They travel with each context: whether the main chunk counts as a
level, what stands for the place of a host function in a traceback, how long a traceback may grow
and how deep calls may nest.
-/

namespace StackScope

inductive MainChunkPolicy where
  /-- The main chunk is the outermost level. -/
  | expose
  /-- The outermost level is the function that the main chunk called. -/
  | hide
deriving DecidableEq, Inhabited

structure Config where
  mainChunk : MainChunkPolicy := .expose
  /-- Written where a script function would have its source and line. -/
  hostPlaceholder : String := "[native code]"
  /-- How many levels a traceback shows; all of them when there is no limit. -/
  tracebackLimit : Option Nat := none
  maxCallDepth : Nat := 200
deriving DecidableEq, Inhabited

inductive ConfigFault where
  | noCallDepth
  | noTracebackLines
  /-- A refusal in the words of whoever read the settings. -/
  | reported (text : String)
deriving DecidableEq, Inhabited

def ConfigFault.message : ConfigFault → String
  | noCallDepth => "max_call_depth must be positive"
  | noTracebackLines => "traceback_limit must be positive"
  | reported text => text

namespace Config

/-- Limits have to be positive; the depth of calls is looked at first. -/
def validate (config : Config) : Except ConfigFault Unit :=
  if config.maxCallDepth = 0 then .error .noCallDepth
  else if config.tracebackLimit = some 0 then .error .noTracebackLines
  else .ok ()

theorem validate_eq_ok {config : Config} :
    config.validate = .ok () ↔ 0 < config.maxCallDepth ∧ config.tracebackLimit ≠ some 0 := by
  unfold validate
  split
  · simp [*]
  · split
    · simp [*]
    · simp [*]
      omega

end Config

end StackScope
