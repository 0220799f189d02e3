import StackScope.Prototype.Naming
import StackScope.Proofs.ScopeOrder

/-!
Prototypes without their debug names. `strip` takes the names of locals and upvalues away, from a
prototype and from all its descendants, and keeps everything else: which locals are live where, the
lines, the constants and the code.

Names for values are affected in one way only. A register that was named after a local is named by
the code that loaded it instead, and an upvalue is given as a question mark.
-/

namespace StackScope

def LocalScope.unnamed (scope : LocalScope) : LocalScope := { scope with name := none }

namespace Prototype

variable {prototype : Prototype}

theorem keepsChildren_dropNames : KeepsChildren dropNames := fun _ _ => rfl

theorem strip_eq (prototype : Prototype) :
    prototype.strip =
      { prototype with
        locals := prototype.locals.map LocalScope.unnamed
        upvalueNames := prototype.upvalueNames.map fun _ => none
        children := prototype.children.map strip } :=
  everywhere_eq dropNames prototype

theorem locals_strip (prototype : Prototype) :
    prototype.strip.locals = prototype.locals.map LocalScope.unnamed := by
  rw [strip_eq]

theorem instructions_strip (prototype : Prototype) :
    prototype.strip.instructions = prototype.instructions := by
  rw [strip_eq]

theorem constantText?_strip (prototype : Prototype) (index : Nat) :
    prototype.strip.constantText? index = prototype.constantText? index := by
  rw [strip_eq]
  rfl

theorem lineAt?_strip (prototype : Prototype) (position : Nat) :
    prototype.strip.lineAt? position = prototype.lineAt? position := by
  rw [strip_eq]
  rfl

theorem lastSetter?_strip (prototype : Prototype) (limit register : Nat) :
    prototype.strip.lastSetter? limit register = prototype.lastSetter? limit register := by
  unfold lastSetter? writeScan
  rw [instructions_strip]

/-- The same scopes are live. -/
theorem liveLocals_strip (prototype : Prototype) (position : Nat) :
    prototype.strip.liveLocals position =
      (prototype.liveLocals position).map LocalScope.unnamed := by
  unfold liveLocals
  rw [locals_strip, List.takeWhile_map, List.filter_map]
  rfl

theorem localAt?_strip (prototype : Prototype) (ordinal position : Nat) :
    prototype.strip.localAt? ordinal position =
      (prototype.localAt? ordinal position).map LocalScope.unnamed := by
  cases ordinal with
  | zero => rfl
  | succ index =>
      change (prototype.strip.liveLocals position)[index]? = _
      rw [liveLocals_strip, List.getElem?_map]
      rfl

theorem activeLocals_strip (prototype : Prototype) (position : Nat) :
    prototype.strip.activeLocals position = prototype.activeLocals position := by
  unfold activeLocals
  rw [liveLocals_strip, List.length_map]

theorem upvalueName?_strip (prototype : Prototype) (index : Nat) :
    prototype.strip.upvalueName? index = none := by
  unfold upvalueName?
  rw [strip_eq]
  dsimp only
  rw [List.getElem?_map]
  cases prototype.upvalueNames[index]? <;> rfl

/-! ### Names for values -/

def loadedName? (prototype : Prototype) (setter : Nat) : Option ValueName :=
  match prototype.instructions[setter]? with
  | some (.getGlobal _ name) => some ⟨.global, prototype.constantName name⟩
  | some (.move target source) =>
      if source < target then prototype.valueName? setter source else none
  | some (.getField _ _ key) => some ⟨.field, prototype.constantName key⟩
  | some (.getTable _ _ key) =>
      match (prototype.lastSetter? setter key).bind
          (fun keySetter => prototype.instructions[keySetter]?) with
      | some (.loadConstant _ constant) =>
          (prototype.constantText? constant).map (⟨.field, ·⟩)
      | _ => none
  | some (.getUpvalue _ upvalue) =>
      some ⟨.upvalue, (prototype.upvalueName? upvalue).getD "?"⟩
  | some (.selfCall _ _ method) => some ⟨.method, prototype.constantName method⟩
  | _ => none

def bindingName? (prototype : Prototype) (position register : Nat) : Option String :=
  (prototype.localAt? (register + 1) position).bind LocalScope.name

theorem valueName?_of_binding {position register : Nat} {name : String}
    (named : prototype.bindingName? position register = some name) :
    prototype.valueName? position register = some ⟨.binding, name⟩ := by
  unfold bindingName? at named
  rw [valueName?, named]

theorem valueName?_of_unnamed {position register : Nat}
    (unnamed : prototype.bindingName? position register = none) :
    prototype.valueName? position register =
      (prototype.lastSetter? position register).bind prototype.loadedName? := by
  unfold bindingName? at unnamed
  rw [valueName?, unnamed]
  dsimp only
  split
  · rename_i missing
    rw [missing]
    rfl
  · rename_i setter found
    rw [found]
    rfl

theorem bindingName?_strip (prototype : Prototype) (position register : Nat) :
    prototype.strip.bindingName? position register = none := by
  unfold bindingName?
  rw [localAt?_strip]
  cases prototype.localAt? (register + 1) position <;> rfl

end Prototype

def ValueName.stripped (name : ValueName) : ValueName :=
  match name.kind with
  | .upvalue => ⟨.upvalue, "?"⟩
  | _ => name

/-- What becomes of an answer: nothing is named after a local, nothing gets a name that had none,
and all other names stay. -/
structure Strips (full bare : Option ValueName) : Prop where
  unbound : ∀ name, bare = some name → name.kind ≠ .binding
  absent : full = none → bare = none
  kept : ∀ name, full = some name → name.kind ≠ .binding → bare = some name.stripped

namespace Strips

theorem missing : Strips none none where
  unbound := nofun
  absent := fun _ => rfl
  kept := nofun

theorem named {kind : NameKind} {text : String} (other : kind ≠ .binding) :
    Strips (some ⟨kind, text⟩) (some (ValueName.stripped ⟨kind, text⟩)) where
  unbound := by
    intro name same
    cases same
    unfold ValueName.stripped
    split
    · decide
    · exact other
  absent := nofun
  kept := by
    intro other same _
    cases same
    rfl

end Strips

namespace Prototype

variable {prototype : Prototype}

/-- What an instruction loads has the same name as before, if what it moves has. -/
theorem strips_loadedName? {setter : Nat}
    (moved : ∀ source,
      Strips (prototype.valueName? setter source) (prototype.strip.valueName? setter source)) :
    Strips (prototype.loadedName? setter) (prototype.strip.loadedName? setter) := by
  unfold loadedName? constantName
  simp only [instructions_strip, lastSetter?_strip, constantText?_strip, upvalueName?_strip]
  cases prototype.instructions[setter]? with
  | none => exact .missing
  | some instruction =>
      cases instruction with
      | getGlobal target name => exact .named (by decide)
      | move target source =>
          dsimp only
          split
          · exact moved source
          · exact .missing
      | getField target table key => exact .named (by decide)
      | getTable target table key =>
          dsimp only
          split
          · rename_i constant _
            cases prototype.constantText? constant with
            | none => exact .missing
            | some text => exact .named (by decide)
          · exact .missing
      | getUpvalue target upvalue => exact .named (by decide)
      | selfCall target object method => exact .named (by decide)
      | _ => exact .missing

/-- Without the names of locals a register is named by the code that loaded it, and so are all
registers that values were moved from. -/
theorem strips_valueName? (prototype : Prototype) (position register : Nat) :
    Strips (prototype.valueName? position register)
      (prototype.strip.valueName? position register) := by
  induction position using Nat.strongRecOn generalizing register with
  | _ position ih =>
      have loaded : Strips ((prototype.lastSetter? position register).bind prototype.loadedName?)
          (prototype.strip.valueName? position register) := by
        rw [valueName?_of_unnamed (bindingName?_strip prototype position register),
          lastSetter?_strip]
        cases last : prototype.lastSetter? position register with
        | none => exact .missing
        | some setter => exact strips_loadedName? (ih setter (lastSetter?_lt last))
      cases named : prototype.bindingName? position register with
      | none =>
          rw [valueName?_of_unnamed named]
          exact loaded
      | some name =>
          rw [valueName?_of_binding named]
          refine ⟨loaded.unbound, nofun, ?_⟩
          intro other same kind
          cases same
          exact absurd rfl kind

/-- What holds of a prototype whenever it holds of its children holds of all prototypes. -/
@[elab_as_elim]
theorem childrenInduction {motive : Prototype → Prop}
    (parent : ∀ prototype, (∀ child ∈ prototype.children, motive child) → motive prototype)
    (prototype : Prototype) : motive prototype :=
  parent prototype fun child _ => childrenInduction parent child
termination_by sizeOf prototype
decreasing_by
  rename_i member
  have smaller := List.sizeOf_lt_of_mem member
  cases prototype
  simp only [mk.sizeOf_spec]
  dsimp only at smaller
  omega

theorem KeepsChildren.comp {first second : Prototype → Prototype}
    (keepsFirst : KeepsChildren first) (keepsSecond : KeepsChildren second) :
    KeepsChildren (second ∘ first) := by
  intro prototype children
  rw [Function.comp_apply, keepsFirst, keepsSecond]
  rfl

/-- To change everything by one rule and then by another is to change it by both at once. -/
theorem everywhere_everywhere {first second : Prototype → Prototype}
    (keepsFirst : KeepsChildren first) (keepsSecond : KeepsChildren second)
    (prototype : Prototype) :
    everywhere second (everywhere first prototype) = everywhere (second ∘ first) prototype := by
  induction prototype using childrenInduction with
  | parent prototype ih =>
      have children : (prototype.children.map (everywhere first)).map (everywhere second) =
          prototype.children.map (everywhere (second ∘ first)) := by
        rw [List.map_map]
        exact List.map_congr_left ih
      rw [everywhere_of_keeps keepsSecond, children_everywhere keepsFirst, children,
        everywhere_of_keeps keepsFirst, keepsSecond,
        everywhere_of_keeps (keepsFirst.comp keepsSecond)]
      rfl

theorem sortLocals_dropNames (prototype : Prototype) :
    prototype.dropNames.sortLocals = prototype.sortLocals.dropNames := by
  unfold sortLocals dropNames
  dsimp only
  rw [List.map_mergeSort]
  intro left _ right _
  rfl

theorem sortLocals_sortLocals (prototype : Prototype) :
    prototype.sortLocals.sortLocals = prototype.sortLocals := by
  have sorted := List.mergeSort_of_pairwise (l := prototype.sortLocals.locals)
    (prototype.ascending_sortLocals.imp decide_eq_true)
  exact congrArg (fun locals => { prototype with locals }) sorted

theorem dropNames_dropNames (prototype : Prototype) :
    prototype.dropNames.dropNames = prototype.dropNames := by
  unfold dropNames
  dsimp only
  rw [List.map_map, List.map_map]
  rfl

theorem normalize_strip (prototype : Prototype) :
    prototype.strip.normalize = prototype.normalize.strip := by
  unfold strip normalize
  rw [everywhere_everywhere keepsChildren_dropNames keepsChildren_sortLocals,
    everywhere_everywhere keepsChildren_sortLocals keepsChildren_dropNames]
  exact congrArg (everywhere · prototype) (funext sortLocals_dropNames)

theorem strip_strip (prototype : Prototype) : prototype.strip.strip = prototype.strip := by
  unfold strip
  rw [everywhere_everywhere keepsChildren_dropNames keepsChildren_dropNames]
  exact congrArg (everywhere · prototype) (funext dropNames_dropNames)

theorem normalize_normalize (prototype : Prototype) :
    prototype.normalize.normalize = prototype.normalize := by
  unfold normalize
  rw [everywhere_everywhere keepsChildren_sortLocals keepsChildren_sortLocals]
  exact congrArg (everywhere · prototype) (funext sortLocals_sortLocals)

theorem descendant?_strip (prototype : Prototype) (path : List Nat) :
    prototype.strip.descendant? path = (prototype.descendant? path).map strip :=
  descendant?_everywhere keepsChildren_dropNames prototype path

/-- A prototype that has all of another one but the names of its locals and upvalues. The children
are spoken of in their own right. -/
structure StrippedFrom (original stripped : Prototype) : Prop where
  locals : stripped.locals = original.locals.map LocalScope.unnamed
  upvalueNames : stripped.upvalueNames = List.replicate original.upvalueNames.length none
  rest : stripped =
    { original with
      locals := stripped.locals
      upvalueNames := stripped.upvalueNames
      children := stripped.children }
  children : stripped.children.length = original.children.length
  present : ∀ ordinal position,
    (stripped.localAt? ordinal position).isSome ↔ (original.localAt? ordinal position).isSome
  unnamed : ∀ ordinal position scope,
    stripped.localAt? ordinal position = some scope → scope.name = none
  activeLocals : ∀ position, stripped.activeLocals position = original.activeLocals position
  lineAt? : ∀ position, stripped.lineAt? position = original.lineAt? position
  constantText? : ∀ index, stripped.constantText? index = original.constantText? index
  lastSetter? : ∀ limit register,
    stripped.lastSetter? limit register = original.lastSetter? limit register
  /-- No register is named after a local. -/
  unbound : ∀ position register name,
    stripped.valueName? position register ≠ some ⟨.binding, name⟩
  absent : ∀ position register, original.valueName? position register = none →
    stripped.valueName? position register = none
  kept : ∀ position register kind name, kind = .global ∨ kind = .field ∨ kind = .method →
    original.valueName? position register = some ⟨kind, name⟩ →
      stripped.valueName? position register = some ⟨kind, name⟩
  upvalue : ∀ position register name,
    original.valueName? position register = some ⟨.upvalue, name⟩ →
      stripped.valueName? position register = some ⟨.upvalue, "?"⟩

theorem strip_strippedFrom (prototype : Prototype) : StrippedFrom prototype prototype.strip where
  locals := locals_strip prototype
  upvalueNames := by
    rw [strip_eq]
    exact List.map_const'
  rest := by rw [strip_eq]
  children := by
    rw [strip_eq]
    exact List.length_map _
  present := by
    intro ordinal position
    rw [localAt?_strip, Option.isSome_map]
  unnamed := by
    intro ordinal position scope found
    rw [localAt?_strip] at found
    obtain ⟨named, -, rfl⟩ := Option.map_eq_some_iff.mp found
    rfl
  activeLocals := activeLocals_strip prototype
  lineAt? := lineAt?_strip prototype
  constantText? := constantText?_strip prototype
  lastSetter? := lastSetter?_strip prototype
  unbound := by
    intro position register name found
    exact (strips_valueName? prototype position register).unbound _ found rfl
  absent := fun position register => (strips_valueName? prototype position register).absent
  kept := by
    intro position register kind name kinds found
    have kept := (strips_valueName? prototype position register).kept _ found
    rcases kinds with rfl | rfl | rfl
    · exact kept nofun
    · exact kept nofun
    · exact kept nofun
  upvalue := fun position register name found =>
    (strips_valueName? prototype position register).kept _ found nofun

structure StripLaws (prototype : Prototype) : Prop where
  /-- The descendants are those of the original, each without its names. -/
  stripped : ∀ path original, prototype.descendant? path = some original →
    ∃ stripped, prototype.strip.descendant? path = some stripped ∧ StrippedFrom original stripped
  added : ∀ path, prototype.descendant? path = none → prototype.strip.descendant? path = none
  commutes : prototype.strip.normalize = prototype.normalize.strip
  strip_twice : prototype.strip.strip = prototype.strip
  normalize_twice : prototype.normalize.normalize = prototype.normalize

/-- Stripping takes the names of locals and upvalues away from all nested prototypes and nothing
else. It does not matter whether the scopes are ordered before or after it. -/
theorem strip_drops_names (prototype : Prototype) : prototype.StripLaws where
  stripped := by
    intro path original found
    refine ⟨original.strip, ?_, strip_strippedFrom original⟩
    rw [descendant?_strip, found, Option.map_some]
  added := by
    intro path missing
    rw [descendant?_strip, missing, Option.map_none]
  commutes := normalize_strip prototype
  strip_twice := strip_strip prototype
  normalize_twice := normalize_normalize prototype

/-- A function that loads an upvalue, moves it to its local `handler` and from there to the register
that it calls. -/
def handlerCode : Prototype where
  source := "@sample"
  instructions := [.getUpvalue 0 0, .move 1 0, .move 2 1, .call 2 0 1]
  locals := [⟨some "state", 2, 4⟩, ⟨some "handler", 2, 4⟩]
  upvalueNames := [some "callback"]

def handlerParent : Prototype where
  source := "@sample"
  children := [handlerCode]

/-- The callee, which was named after the local it had been moved to, is then known as an upvalue,
and the upvalue has lost its name as well. -/
theorem strip_drops_names_nested :
    handlerParent.descendant? [0] = some handlerCode ∧
    (∃ stripped, handlerParent.strip.descendant? [0] = some stripped ∧
      StrippedFrom handlerCode stripped ∧
      handlerCode.valueName? 1 0 = some ⟨.upvalue, "callback"⟩ ∧
      stripped.valueName? 1 0 = some ⟨.upvalue, "?"⟩ ∧
      handlerCode.valueName? 3 2 = some ⟨.binding, "handler"⟩ ∧
      stripped.valueName? 3 2 = some ⟨.upvalue, "?"⟩) ∧
    handlerParent.descendant? [1] = none ∧ handlerParent.strip.descendant? [1] = none ∧
    handlerParent.strip.normalize = handlerParent.normalize.strip := by
  have laws := strip_drops_names handlerParent
  have present : handlerParent.descendant? [0] = some handlerCode := rfl
  obtain ⟨stripped, found, derived⟩ := laws.stripped [0] handlerCode present
  have same : handlerParent.strip.descendant? [0] = some handlerCode.strip := rfl
  have loaded : handlerCode.valueName? 1 0 = some ⟨.upvalue, "callback"⟩ := by decide +kernel
  have moved : stripped.valueName? 3 2 = some ⟨.upvalue, "?"⟩ := by
    cases found.symm.trans same
    decide +kernel
  exact ⟨present, ⟨stripped, found, derived, loaded, derived.upvalue 1 0 "callback" loaded,
    by decide +kernel, moved⟩, rfl, laws.added [1] rfl, laws.commutes⟩

end Prototype

end StackScope
