import StackScope.Context

/-!
The levels of a context. Going outward from the innermost frame, each frame is one level, followed
by one level for each activation that tail calls replaced by it. Introspective host functions are
passed over, and so is the main chunk when the settings hide it.

`levels` lists them all. `level?` finds one of them without the list, and `levelCount` counts them.
-/

namespace StackScope

def Frame.collapsed (frame : Frame) : Nat := if frame.isHost then 0 else frame.tailCalls

def tailLevels (first : Nat) : (count : Nat) → List Level
  | 0 => []
  | count + 1 => ⟨first, .tailCall⟩ :: tailLevels (first + 1) count

/-- The levels of frames, innermost first, numbered from `first`. With `hidden`, the outermost frame
is left out. -/
def levelsFrom (hidden : Bool) : List Frame → (first : Nat) → List Level
  | [], _ => []
  | frame :: outer, first =>
      if hidden && outer.isEmpty then []
      else if frame.isIntrospective then levelsFrom hidden outer first
      else
        ⟨first, .active outer.length⟩ ::
          (tailLevels (first + 1) frame.collapsed ++
            levelsFrom hidden outer (first + 1 + frame.collapsed))

/-- The slot of the level that comes `skip` levels after the innermost of these frames. -/
def slotFrom? (hidden : Bool) : List Frame → (skip : Nat) → Option LevelSlot
  | [], _ => none
  | frame :: outer, skip =>
      if hidden && outer.isEmpty then none
      else if frame.isIntrospective then slotFrom? hidden outer skip
      else if skip = 0 then some (.active outer.length)
      else if skip ≤ frame.collapsed then some .tailCall
      else slotFrom? hidden outer (skip - 1 - frame.collapsed)

def countFrom (hidden : Bool) : List Frame → Nat
  | [] => 0
  | frame :: outer =>
      if hidden && outer.isEmpty then 0
      else if frame.isIntrospective then countFrom hidden outer
      else 1 + frame.collapsed + countFrom hidden outer

namespace Context

def hidesMain (context : Context) : Bool :=
  context.config.mainChunk == .hide && context.frames.getLast?.any Frame.isMainChunk

def levels (context : Context) : List Level := levelsFrom context.hidesMain context.frames 0

def level? (context : Context) (number : Nat) : Option Level :=
  (slotFrom? context.hidesMain context.frames number).map fun slot => ⟨number, slot⟩

def levelCount (context : Context) : Nat := countFrom context.hidesMain context.frames

def levelFrame? (context : Context) (level : Level) : Option Frame :=
  level.index?.bind context.frameAt?

def levelFunction? (context : Context) (level : Level) : Option FunctionId :=
  (context.levelFrame? level).map Frame.function

end Context

theorem length_tailLevels (first count : Nat) : (tailLevels first count).length = count := by
  induction count generalizing first with
  | zero => rfl
  | succ count ih => rw [tailLevels, List.length_cons, ih]

theorem length_levelsFrom (hidden : Bool) (frames : List Frame) (first : Nat) :
    (levelsFrom hidden frames first).length = countFrom hidden frames := by
  induction frames generalizing first with
  | nil => rfl
  | cons frame outer ih =>
      unfold levelsFrom countFrom
      split
      · rfl
      · split
        · exact ih first
        · rw [List.length_cons, List.length_append, length_tailLevels, ih]
          omega

end StackScope
