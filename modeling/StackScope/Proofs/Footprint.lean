import StackScope.Proofs.Operations
import StackScope.Proofs.Storage

/-!
What a change of a context leaves alone. The state of a context is divided into locations, each of
which holds one value: the positions of the stack, the cells, and the metatables and environments of
their owners. All the rest – frames, settings, the fields of tables, the code and the upvalues of
functions, names – is changed by no operation on values.
-/

namespace StackScope

/-- What objects consist of, their associations apart, and how many there are. Tables may have been
added. -/
structure Heap.Keeps (before after : Heap) : Prop where
  cells : after.cells.size = before.cells.size
  tables : before.tables.size ≤ after.tables.size
  entries : ∀ id, id.index < before.tables.size →
    (after.table id).entries = (before.table id).entries
  sequence : ∀ id, id.index < before.tables.size →
    (after.table id).sequence = (before.table id).sequence
  functions : after.functions.size = before.functions.size
  code : ∀ id, (after.function id).code = (before.function id).code
  upvalues : ∀ id, (after.function id).upvalues = (before.function id).upvalues
  userdata : after.userdata.size = before.userdata.size
  typeName : ∀ id, (after.userdataAt id).typeName = (before.userdataAt id).typeName
  threads : after.threads.size = before.threads.size
  name : ∀ id, (after.thread id).name = (before.thread id).name

namespace Heap.Keeps

variable {heap : Heap}

theorem refl (heap : Heap) : heap.Keeps heap where
  cells := rfl
  tables := Nat.le_refl _
  entries _ _ := rfl
  sequence _ _ := rfl
  functions := rfl
  code _ := rfl
  upvalues _ := rfl
  userdata := rfl
  typeName _ := rfl
  threads := rfl
  name _ := rfl

theorem trans {middle later : Heap} (first : heap.Keeps middle) (second : middle.Keeps later) :
    heap.Keeps later where
  cells := second.cells.trans first.cells
  tables := Nat.le_trans first.tables second.tables
  entries id present :=
    (second.entries id (Nat.lt_of_lt_of_le present first.tables)).trans (first.entries id present)
  sequence id present :=
    (second.sequence id (Nat.lt_of_lt_of_le present first.tables)).trans (first.sequence id present)
  functions := second.functions.trans first.functions
  code id := (second.code id).trans (first.code id)
  upvalues id := (second.upvalues id).trans (first.upvalues id)
  userdata := second.userdata.trans first.userdata
  typeName id := (second.typeName id).trans (first.typeName id)
  threads := second.threads.trans first.threads
  name id := (second.name id).trans (first.name id)

theorem setCell (cell : CellId) (value : Value) : heap.Keeps (heap.setCell cell value) :=
  { refl heap with cells := Pool.size_set _ _ _ }

theorem setTable {id : TableId} {object : Table}
    (entries : object.entries = (heap.table id).entries)
    (sequence : object.sequence = (heap.table id).sequence) :
    heap.Keeps (heap.setTable id object) :=
  { refl heap with
    tables := Nat.le_of_eq (Pool.size_set heap.tables id.index object).symm
    entries := fun other _ => Pool.map_get_set Table.entries entries other.index
    sequence := fun other _ => Pool.map_get_set Table.sequence sequence other.index }

theorem setFunction {id : FunctionId} {object : FunctionObject}
    (code : object.code = (heap.function id).code)
    (upvalues : object.upvalues = (heap.function id).upvalues) :
    heap.Keeps (heap.setFunction id object) :=
  { refl heap with
    functions := Pool.size_set _ _ _
    code := fun other => Pool.map_get_set FunctionObject.code code other.index
    upvalues := fun other => Pool.map_get_set FunctionObject.upvalues upvalues other.index }

theorem setUserdata {id : UserdataId} {object : UserdataObject}
    (typeName : object.typeName = (heap.userdataAt id).typeName) :
    heap.Keeps (heap.setUserdata id object) :=
  { refl heap with
    userdata := Pool.size_set _ _ _
    typeName := fun other => Pool.map_get_set UserdataObject.typeName typeName other.index }

theorem setThread {id : ThreadId} {object : ThreadObject}
    (name : object.name = (heap.thread id).name) : heap.Keeps (heap.setThread id object) :=
  { refl heap with
    threads := Pool.size_set _ _ _
    name := fun other => Pool.map_get_set ThreadObject.name name other.index }

theorem addTable (object : Table) : heap.Keeps (heap.addTable object).2 :=
  { refl heap with
    tables := (Pool.size_add heap.tables object).symm ▸ Nat.le_succ _
    entries := fun _ present => congrArg Table.entries (Pool.get_add_of_lt present object)
    sequence := fun _ present => congrArg Table.sequence (Pool.get_add_of_lt present object) }

theorem holds {later : Heap} (keeps : heap.Keeps later) {value : Value}
    (present : heap.Holds value) : later.Holds value := by
  cases value with
  | table id => exact Nat.lt_of_lt_of_le present keeps.tables
  | function id => exact Nat.lt_of_lt_of_eq present keeps.functions.symm
  | userdata id => exact Nat.lt_of_lt_of_eq present keeps.userdata.symm
  | thread id => exact Nat.lt_of_lt_of_eq present keeps.threads.symm
  | _ => trivial

end Heap.Keeps

inductive Location where
  /-- A position of the stack. -/
  | slot (position : Nat)
  | cell (id : CellId)
  | association (association : Association) (owner : Owner)
deriving DecidableEq

namespace Context

def contents (context : Context) : Location → Value
  | .slot position => context.stack[position]?.getD .nil
  | .cell id => context.heap.cell id
  | .association association owner => .ofTable? (context.stored association owner)

theorem contents_slot (context : Context) (position : Nat) :
    context.contents (.slot position) = context.stack[position]?.getD .nil :=
  rfl

theorem contents_cell (context : Context) (id : CellId) :
    context.contents (.cell id) = context.heap.cell id :=
  rfl

theorem contents_association (context : Context) (association : Association) (owner : Owner) :
    context.contents (.association association owner) =
      .ofTable? (context.stored association owner) :=
  rfl

/-- Nothing that was there before is changed, but for what one location holds. -/
structure ChangesOnly (changed : Option Location) (before after : Context) : Prop where
  frames : after.frames = before.frames
  height : after.stack.length = before.stack.length
  thread : after.thread = before.thread
  config : after.config = before.config
  objects : before.heap.Keeps after.heap
  contents : ∀ location, changed ≠ some location →
    after.contents location = before.contents location

/-- The one change is that a location now holds a value. -/
structure Assigned (location : Location) (value : Value) (before after : Context) : Prop where
  only : ChangesOnly (some location) before after
  holds : after.contents location = value

variable {context : Context}

theorem ChangesOnly.refl (changed : Option Location) (context : Context) :
    ChangesOnly changed context context where
  frames := rfl
  height := rfl
  thread := rfl
  config := rfl
  objects := .refl context.heap
  contents _ _ := rfl

theorem ChangesOnly.trans {changed : Option Location} {middle later : Context}
    (first : ChangesOnly changed context middle) (second : ChangesOnly changed middle later) :
    ChangesOnly changed context later where
  frames := second.frames.trans first.frames
  height := second.height.trans first.height
  thread := second.thread.trans first.thread
  config := second.config.trans first.config
  objects := first.objects.trans second.objects
  contents location other := (second.contents location other).trans (first.contents location other)

/-! ### Registers and cells -/

theorem stored_congr {later : Context} (tables : later.heap.tables = context.heap.tables)
    (functions : later.heap.functions = context.heap.functions)
    (userdata : later.heap.userdata = context.heap.userdata)
    (threads : later.heap.threads = context.heap.threads)
    (texts : later.stringMetatable = context.stringMetatable) (association : Association)
    (owner : Owner) : later.stored association owner = context.stored association owner := by
  cases owner with
  | table id => exact congrArg (fun pool => (Pool.get pool id.index).associated association) tables
  | function id =>
      exact congrArg (fun pool => (Pool.get pool id.index).associated association) functions
  | userdata id =>
      exact congrArg (fun pool => (Pool.get pool id.index).associated association) userdata
  | thread id =>
      exact congrArg (fun pool => (Pool.get pool id.index).associated association) threads
  | texts =>
      cases association with
      | metatable => exact texts
      | environment => rfl

theorem setCell_assigned {cell : CellId} (present : cell.index < context.heap.cells.size)
    (value : Value) :
    Assigned (.cell cell) value context
      { context with heap := context.heap.setCell cell value } where
  only :=
    { ChangesOnly.refl none context with
      objects := .setCell cell value
      contents := by
        intro location other
        cases location with
        | slot position => rfl
        | cell id =>
            have different : ¬ (cell = id ∧ cell.index < context.heap.cells.size) := by
              rintro ⟨rfl, -⟩
              exact other rfl
            rw [contents_cell, contents_cell, Heap.cell_setCell, if_neg different]
        | association kind owner =>
            exact congrArg Value.ofTable? (stored_congr rfl rfl rfl rfl rfl kind owner) }
  holds := by rw [contents_cell, Heap.cell_setCell, if_pos ⟨rfl, present⟩]

theorem setStack_assigned {position : Nat} (inside : position < context.stack.length)
    (value : Value) :
    Assigned (.slot position) value context
      { context with stack := context.stack.set position value } where
  only :=
    { ChangesOnly.refl none context with
      height := List.length_set
      contents := by
        intro location other
        cases location with
        | slot elsewhere =>
            have different : position ≠ elsewhere := by
              rintro rfl
              exact other rfl
            rw [contents_slot, contents_slot, List.getElem?_set_ne different]
        | cell id => rfl
        | association kind owner =>
            exact congrArg Value.ofTable? (stored_congr rfl rfl rfl rfl rfl kind owner) }
  holds := by
    rw [contents_slot, List.getElem?_set_self inside]
    rfl

def location (frame : Frame) (position : Nat) : Location :=
  match frame.cellAt? position with
  | some cell => .cell cell
  | none => .slot position

theorem writeSlot_assigned {frame : Frame} {position : Nat}
    (inside : position < context.stack.length)
    (captured : ∀ cell ∈ frame.cellAt? position, cell.index < context.heap.cells.size)
    (value : Value) :
    Assigned (location frame position) value context (context.writeSlot frame position value) := by
  unfold location writeSlot
  cases found : frame.cellAt? position with
  | some cell => exact setCell_assigned (captured cell found) value
  | none => exact setStack_assigned inside value

/-- A new table without a metatable changes nothing that was there. -/
theorem addTable_changes {object : Table} (plain : object.metatable = none) :
    ChangesOnly none context { context with heap := (context.heap.addTable object).2 } := by
  refine { ChangesOnly.refl none context with objects := .addTable object, contents := ?_ }
  intro location _
  cases location with
  | slot position => rfl
  | cell id => rfl
  | association kind owner =>
      refine congrArg Value.ofTable? ?_
      cases owner with
      | table id =>
          change ((context.heap.tables.add object).get id.index).associated kind =
            (context.heap.tables.get id.index).associated kind
          rw [Pool.get_add]
          by_cases new : id.index = context.heap.tables.size
          · -- A table that is not there reads as one without a metatable.
            have absent : context.heap.tables.get id.index = default := by
              rw [new]
              simp [Pool.get, Pool.size]
            rw [if_pos new, absent]
            cases kind with
            | metatable => exact plain
            | environment => rfl
          · rw [if_neg new]
      | _ => rfl

/-- A change of what one owner was given, and of nothing else. -/
theorem assigned_of_stored {later : Context} {association : Association} {place : Owner}
    {given : Option TableId} (frames : later.frames = context.frames)
    (stack : later.stack = context.stack) (thread : later.thread = context.thread)
    (config : later.config = context.config) (cells : later.heap.cells = context.heap.cells)
    (objects : context.heap.Keeps later.heap)
    (stored : ∀ kind owner, later.stored kind owner =
      if kind = association ∧ owner = place then given else context.stored kind owner) :
    Assigned (.association association place) (.ofTable? given) context later where
  only :=
    { frames, thread, config, objects
      height := congrArg List.length stack
      contents := by
        intro location other
        cases location with
        | slot position =>
            rw [contents_slot, contents_slot, stack]
        | cell id =>
            exact congrArg (fun cells : Pool Value => cells.get id.index) cells
        | association kind owner =>
            have elsewhere : ¬ (kind = association ∧ owner = place) := by
              rintro ⟨rfl, rfl⟩
              exact other rfl
            rw [contents_association, contents_association, stored, if_neg elsewhere] }
  holds := by rw [contents_association, stored, if_pos ⟨rfl, rfl⟩]

variable {value : Value} {place : Owner} (present : context.heap.Holds value)
include present

theorem putMetatable_assigned (owned : Association.metatable.owner? value = some place)
    (metatable : Option TableId) :
    Assigned (.association .metatable place) (.ofTable? metatable) context
      (context.putMetatable value metatable) := by
  have stored : ∀ kind owner, (context.putMetatable value metatable).stored kind owner =
      if kind = .metatable ∧ owner = place then metatable else context.stored kind owner :=
    fun _ _ => stored_putMetatable present owned metatable
  cases value with
  | table id => exact assigned_of_stored rfl rfl rfl rfl rfl (.setTable rfl rfl) stored
  | function id => exact assigned_of_stored rfl rfl rfl rfl rfl (.setFunction rfl rfl) stored
  | userdata id => exact assigned_of_stored rfl rfl rfl rfl rfl (.setUserdata rfl) stored
  | thread id => exact assigned_of_stored rfl rfl rfl rfl rfl (.setThread rfl) stored
  | text _ => exact assigned_of_stored rfl rfl rfl rfl rfl (.refl _) stored
  | _ => cases owned

theorem putEnvironment_assigned (owned : Association.environment.owner? value = some place)
    (environment : TableId) :
    Assigned (.association .environment place) (.table environment) context
      (context.putEnvironment value environment) := by
  have stored : ∀ kind owner, (context.putEnvironment value environment).stored kind owner =
      if kind = .environment ∧ owner = place then some environment
      else context.stored kind owner :=
    fun _ _ => stored_putEnvironment present owned environment
  change Assigned _ (.ofTable? (some environment)) _ _
  cases value with
  | function id => exact assigned_of_stored rfl rfl rfl rfl rfl (.setFunction rfl rfl) stored
  | userdata id => exact assigned_of_stored rfl rfl rfl rfl rfl (.setUserdata rfl) stored
  | thread id => exact assigned_of_stored rfl rfl rfl rfl rfl (.setThread rfl) stored
  | _ => cases owned

end Context

end StackScope
