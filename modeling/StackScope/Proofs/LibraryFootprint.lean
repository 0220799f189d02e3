import StackScope.Proofs.AssociationMap
import StackScope.Proofs.Boxed.HeapAgreement
import StackScope.Proofs.LibraryTransparency

/-!
What a call of a library function changes in the state of its caller. A function that reads changes
nothing, and so does a call that is refused or that answers for a variable that does not exist. A
call that writes changes one location, the one that its arguments address as the caller sees them.
-/

namespace StackScope

namespace Context

/-- Where a local of a level is kept: on the stack, or in the cell that has captured it. -/
def localLocation? (context : Context) (level : Level) (ordinal : Nat) : Option Location :=
  (context.locate? level ordinal).map fun place => location place.frame place.slot

variable {context : Context} {level : Level} {ordinal : Nat} {place : LocalPlace}

/-- The locals that have a location are those that are live and have a register in the window. -/
theorem localLocation?_eq_some {address : Location} :
    context.localLocation? level ordinal = some address ↔
      ∃ frame prototype, context.levelFrame? level = some frame ∧
        frame.code = .script prototype ∧ 1 ≤ ordinal ∧
        ordinal ≤ prototype.activeLocals frame.position ∧ ordinal ≤ frame.top - frame.base ∧
        location frame (frame.base + (ordinal - 1)) = address := by
  constructor
  · intro located
    obtain ⟨place, found, rfl⟩ := Option.map_eq_some_iff.mp located
    obtain ⟨active, present, prototype, scope, script, live, register, inside, -⟩ :=
      locate?_eq_some.mp found
    have counted := (prototype.localAt?_isSome ordinal place.frame.position).mp
      (Option.isSome_of_eq_some live)
    have slot : place.frame.base + (ordinal - 1) = place.slot := by omega
    refine ⟨place.frame, prototype, ?_, script, counted.1, counted.2, by omega, by rw [slot]⟩
    exact (levelFrame?_of_active active).trans present
  · rintro ⟨frame, prototype, present, script, positive, live, width, rfl⟩
    obtain ⟨index, active, present⟩ := Option.bind_eq_some_iff.mp present
    obtain ⟨scope, live⟩ := Option.isSome_iff_exists.mp
      ((prototype.localAt?_isSome ordinal frame.position).mpr ⟨positive, live⟩)
    rw [← Nat.add_sub_assoc positive]
    refine Option.map_eq_some_iff.mpr
      ⟨⟨index, frame, frame.base + ordinal - 1, scope.name⟩, ?_, rfl⟩
    exact locate?_eq_some.mpr ⟨Level.index?_eq_some.mp active, present, prototype, scope, script,
      live, rfl, by dsimp only; omega, rfl⟩

theorem setLocal_assigned (stacked : context.Stacked)
    (found : context.locate? level ordinal = some place)
    (value : Value) :
    Assigned (location place.frame place.slot) value context
      (context.setLocal level ordinal value).2 := by
  obtain ⟨-, present, -⟩ := locate?_eq_some.mp found
  have allocated := stacked.allocated_of_cellAt? (mem_of_frameAt? present) place.slot
  unfold setLocal
  rw [found]
  exact writeSlot_assigned (slot_lt_of_locate? stacked found) allocated value

end Context

def Heap.upvalueLocation? (heap : Heap) (function : FunctionId) (ordinal : Nat) :
    Option Location :=
  (heap.upvalue? function ordinal).map fun upvalue => .cell upvalue.1

/-- The upvalues are counted from one, and each of them has a location. -/
theorem Heap.upvalueLocation?_eq_some {heap : Heap} {function : FunctionId} {ordinal : Nat}
    {address : Location} :
    heap.upvalueLocation? function ordinal = some address ↔
      1 ≤ ordinal ∧ ordinal ≤ (heap.function function).upvalues.length ∧
        (heap.function function).upvalues[ordinal - 1]?.map Location.cell = some address := by
  unfold upvalueLocation? upvalue?
  cases ordinal with
  | zero => simp
  | succ index =>
      rw [Option.map_map, Nat.add_sub_cancel]
      refine ⟨fun found => ⟨Nat.succ_pos index, ?_, found⟩, fun found => found.2.2⟩
      obtain ⟨cell, present, -⟩ := Option.map_eq_some_iff.mp found
      exact (List.getElem?_eq_some_iff.mp present).1

def Arguments.natural? (arguments : List Value) (position : Nat) : Option Nat :=
  (integer arguments position).toOption.bind count?

namespace DebugFunction

/-- The location that a call is about to write, if there is one. -/
def addressed? (function : DebugFunction) (arguments : List Value) (context : Context) :
    Option Location :=
  match function with
  | setLocal =>
      ((Arguments.natural? arguments 1).bind context.level?).bind fun level =>
        (Arguments.natural? arguments 2).bind (context.localLocation? level)
  | setUpvalue =>
      (Arguments.get arguments 1).function?.bind fun target =>
        (Arguments.natural? arguments 2).bind (context.heap.upvalueLocation? target)
  | setMetatable =>
      (Association.metatable.owner? (Arguments.get arguments 1)).map (.association .metatable)
  | setEnvironment =>
      (Association.environment.owner? (Arguments.get arguments 1)).map (.association .environment)
  | getEnvironment | getInfo | getLocal | getMetatable | getUpvalue | traceback => none

def written (function : DebugFunction) (arguments : List Value) : Value :=
  match function with
  | setLocal | setUpvalue => Arguments.get arguments 3
  | _ => Arguments.get arguments 2

def reads : DebugFunction → Bool
  | getEnvironment | getInfo | getLocal | getMetatable | getUpvalue | traceback => true
  | setEnvironment | setLocal | setMetatable | setUpvalue => false

/-- A call that is refused, that asks for a variable that does not exist, or that writes one
location. -/
def Settled (function : DebugFunction) (arguments : List Value) (context : Context)
    (outcome : Outcome (List Value)) : Prop :=
  (∃ fault, outcome = (.error fault, context)) ∨
  (outcome = (.ok [.nil], context) ∧ function.addressed? arguments context = none ∧
    (function = setLocal ∨ function = setUpvalue)) ∨
  ∃ results later location, outcome = (.ok results, later) ∧
    function.addressed? arguments context = some location ∧
    Context.Assigned location (function.written arguments) context later

variable {context : Context} {arguments : List Value}

theorem natural?_of_integer {position : Nat} {number : Int}
    (passed : Arguments.integer arguments position = .ok number) :
    Arguments.natural? arguments position = Arguments.count? number := by
  unfold Arguments.natural?
  rw [passed]
  rfl

theorem level_of_checkLevel {number : Int} {level : Level}
    (passed : checkLevel context number = .ok level) :
    (Arguments.count? number).bind context.level? = some level := by
  unfold checkLevel at passed
  split at passed
  · rename_i found
    cases passed
    exact found
  · cases passed

theorem function?_of_function {position : Nat} {target : FunctionId}
    (passed : Arguments.function arguments position = .ok target) :
    (Arguments.get arguments position).function? = some target := by
  unfold Arguments.function at passed
  unfold Arguments.get
  split at passed
  · rename_i found
    cases passed
    rw [found]
    rfl
  · cases passed

theorem get_of_any {position : Nat} {value : Value}
    (passed : Arguments.any arguments position = .ok value) :
    Arguments.get arguments position = value := by
  unfold Arguments.any at passed
  unfold Arguments.get
  split at passed
  · rename_i found
    cases passed
    rw [found]
    rfl
  · cases passed

theorem holds_get (present : ∀ value ∈ arguments, context.heap.Holds value) (position : Nat) :
    context.heap.Holds (Arguments.get arguments position) := by
  unfold Arguments.get Arguments.passed?
  cases position with
  | zero => trivial
  | succ index =>
      dsimp only
      cases found : arguments[index]? with
      | none => trivial
      | some value => exact present value (List.mem_of_getElem? found)

theorem setLocal_settled (intact : context.Intact) (arguments : List Value) :
    setLocal.Settled arguments context (runSetLocal arguments context) := by
  unfold runSetLocal
  cases asked : writeLocalQuery arguments context with
  | error fault => exact .inl ⟨fault, rfl⟩
  | ok query =>
      obtain ⟨number, first, asked⟩ := passed_of_bind asked
      obtain ⟨count, second, asked⟩ := passed_of_bind asked
      obtain ⟨value, third, asked⟩ := passed_of_bind asked
      obtain ⟨level, checked, asked⟩ := passed_of_bind asked
      cases asked
      have found : (Arguments.natural? arguments 1).bind context.level? = some level := by
        rw [natural?_of_integer first]
        exact level_of_checkLevel checked
      have address : setLocal.addressed? arguments context =
          (Arguments.count? count).bind (context.localLocation? level) := by
        rw [← natural?_of_integer second]
        exact congrArg (Option.bind · _) found
      rw [← get_of_any third]
      cases counted : Arguments.count? count with
      | none =>
          rw [counted] at address
          exact .inr (.inl ⟨rfl, address, .inl rfl⟩)
      | some ordinal =>
          rw [counted, Option.bind_some] at address
          unfold Context.localLocation? at address
          dsimp only
          cases located : context.locate? level ordinal with
          | none =>
              rw [located] at address
              refine .inr (.inl ⟨?_, address, .inl rfl⟩)
              unfold Context.setLocal
              rw [located]
              rfl
          | some place =>
              rw [located] at address
              exact .inr (.inr ⟨_, _, _, rfl, address,
                Context.setLocal_assigned intact.stacked located (Arguments.get arguments 3)⟩)

theorem allocated_of_upvalue? (closed : context.heap.Closed) {function : FunctionId}
    {ordinal : Nat} {upvalue : CellId × Option String}
    (found : context.heap.upvalue? function ordinal = some upvalue) :
    upvalue.1.index < context.heap.cells.size := by
  cases ordinal with
  | zero => cases found
  | succ index =>
      obtain ⟨cell, present, rfl⟩ := Option.map_eq_some_iff.mp found
      exact closed.lt (List.mem_of_getElem? present)

theorem setUpvalue_settled (closed : context.heap.Closed) (arguments : List Value) :
    setUpvalue.Settled arguments context (runSetUpvalue arguments context) := by
  unfold runSetUpvalue
  cases asked : writeUpvalueQuery arguments with
  | error fault => exact .inl ⟨fault, rfl⟩
  | ok query =>
      obtain ⟨target, first, asked⟩ := passed_of_bind asked
      obtain ⟨count, second, asked⟩ := passed_of_bind asked
      obtain ⟨value, third, asked⟩ := passed_of_bind asked
      cases asked
      have address : setUpvalue.addressed? arguments context =
          (Arguments.count? count).bind (context.heap.upvalueLocation? target) := by
        rw [← natural?_of_integer second]
        exact congrArg (Option.bind · _) (function?_of_function first)
      rw [← get_of_any third]
      cases counted : Arguments.count? count with
      | none =>
          rw [counted] at address
          exact .inr (.inl ⟨rfl, address, .inr rfl⟩)
      | some ordinal =>
          rw [counted, Option.bind_some] at address
          unfold Heap.upvalueLocation? at address
          dsimp only
          unfold Heap.setUpvalue
          cases located : context.heap.upvalue? target ordinal with
          | none =>
              rw [located] at address
              exact .inr (.inl ⟨rfl, address, .inr rfl⟩)
          | some upvalue =>
              rw [located] at address
              exact .inr (.inr ⟨_, _, _, rfl, address,
                Context.setCell_assigned (allocated_of_upvalue? closed located)
                  (Arguments.get arguments 3)⟩)

theorem settled_of_perform {function : DebugFunction} {request : AssociationRequest}
    (held : context.heap.Holds request.value)
    (address : function.addressed? arguments context =
      (request.association.owner? request.value).map (.association request.association))
    (written : function.written arguments = request.argument) :
    function.Settled arguments context (request.perform context) := by
  rcases request.perform_cases context with ⟨refused, made⟩ | ⟨granted, made⟩
  · obtain ⟨position, cause, answer⟩ := AssociationRequest.answer_of_not_granted refused
    rw [made, answer]
    exact .inl ⟨_, rfl⟩
  · obtain ⟨results, answer⟩ := granted.answer_eq_ok
    obtain ⟨place, owned, assigned⟩ := granted.assigned held
    rw [owned] at address
    rw [← written] at assigned
    rw [made, answer]
    exact .inr (.inr ⟨results, _, _, rfl, address, assigned⟩)

theorem get_of_tableOrNil {position : Nat} {table : Option TableId}
    (passed : Arguments.tableOrNil arguments position = .ok table) :
    Arguments.get arguments position = .ofTable? table := by
  unfold Arguments.tableOrNil at passed
  unfold Arguments.get
  split at passed
  · rename_i found
    cases passed
    rw [found]
    rfl
  · rename_i found
    cases passed
    rw [found]
    rfl
  · rename_i found
    cases passed
    rw [found]
    rfl
  · cases passed

theorem setMetatable_settled (present : ∀ value ∈ arguments, context.heap.Holds value) :
    setMetatable.Settled arguments context (runSetMetatable arguments context) := by
  unfold runSetMetatable
  cases asked : Arguments.tableOrNil arguments 2 with
  | error fault => exact .inl ⟨fault, rfl⟩
  | ok metatable =>
      have settled : setMetatable.Settled arguments context (AssociationRequest.perform
          ⟨.metatable, Arguments.get arguments 1, Arguments.get arguments 2⟩ context) :=
        settled_of_perform (holds_get present 1) rfl rfl
      unfold AssociationRequest.perform at settled
      dsimp only at settled ⊢
      rw [get_of_tableOrNil asked] at settled
      cases made : context.setMetatable (Arguments.get arguments 1) (.ofTable? metatable) with
      | mk answer later =>
          rw [made] at settled
          cases answer <;> exact settled

theorem setEnvironment_settled (present : ∀ value ∈ arguments, context.heap.Holds value) :
    setEnvironment.Settled arguments context (runSetEnvironment arguments context) := by
  unfold runSetEnvironment
  cases asked : writeEnvironmentQuery arguments with
  | error fault => exact .inl ⟨fault, rfl⟩
  | ok query =>
      obtain ⟨value, first, asked⟩ := passed_of_bind asked
      obtain ⟨environment, second, asked⟩ := passed_of_bind asked
      cases asked
      have settled : setEnvironment.Settled arguments context (AssociationRequest.perform
          ⟨.environment, Arguments.get arguments 1, Arguments.get arguments 2⟩ context) :=
        settled_of_perform (holds_get present 1) rfl rfl
      unfold AssociationRequest.perform at settled
      dsimp only at settled ⊢
      rw [get_of_any first, get_of_any second] at settled
      cases made : context.setEnvironment value environment with
      | mk answer later =>
          rw [made] at settled
          cases answer <;> exact settled

theorem metatable_setField? (table : Table) (key : String) (value : Option Value) :
    (setField? table key value).metatable = table.metatable := by
  cases value <;> rfl

theorem metatable_recordFields (mask : Mask) (record : Record) :
    (recordFields mask record).metatable = none := by
  unfold recordFields
  cases mask.name <;> cases mask.source <;> cases mask.currentLine <;>
    simp [metatable_setField?, Table.set]

theorem recordTable_changes (context : Context) (mask : Mask) (record : Record) :
    Context.ChangesOnly none context
      { context with heap := (recordTable context.heap mask record).2 } := by
  have plain := metatable_recordFields mask record
  unfold recordTable
  cases record.activeLines with
  | none => exact Context.addTable_changes plain
  | some lines => exact (Context.addTable_changes rfl).trans (Context.addTable_changes plain)

theorem runGetInfo_changes (arguments : List Value) (context : Context) :
    (∃ fault, runGetInfo arguments context = (.error fault, context)) ∨
      ∃ results, (runGetInfo arguments context).1 = .ok results ∧
        Context.ChangesOnly none context (runGetInfo arguments context).2 := by
  unfold runGetInfo
  cases infoQuery context arguments with
  | error fault => exact .inl ⟨fault, rfl⟩
  | ok query =>
      obtain ⟨options, target⟩ := query
      cases target with
      | none => exact .inr ⟨_, rfl, .refl none context⟩
      | some target =>
          dsimp only
          cases describe context options target with
          | error fault => exact .inr ⟨_, rfl, .refl none context⟩
          | ok described =>
              obtain ⟨mask, record⟩ := described
              exact .inr ⟨_, rfl, recordTable_changes context mask record⟩

/-! ### All functions -/

theorem run_settled (intact : context.Intact) (closed : context.heap.Closed)
    (present : ∀ value ∈ arguments, context.heap.Holds value) {function : DebugFunction}
    (writes : function.reads = false) :
    function.Settled arguments context (function.run arguments context) := by
  cases function with
  | setEnvironment => exact setEnvironment_settled present
  | setLocal => exact setLocal_settled intact arguments
  | setMetatable => exact setMetatable_settled present
  | setUpvalue => exact setUpvalue_settled closed arguments
  | _ => cases writes

/-- A function that reads keeps everything that was there; only a record needs new tables. -/
theorem run_of_reads {function : DebugFunction} (reads : function.reads = true)
    (arguments : List Value) (context : Context) :
    Context.ChangesOnly none context (function.run arguments context).2 ∧
      (function ≠ getInfo ∨ (∃ fault, (function.run arguments context).1 = .error fault) →
        (function.run arguments context).2 = context) := by
  cases function with
  | getInfo =>
      change Context.ChangesOnly none context (runGetInfo arguments context).2 ∧
        (_ ∨ (∃ fault, (runGetInfo arguments context).1 = .error fault) →
          (runGetInfo arguments context).2 = context)
      rcases runGetInfo_changes arguments context with ⟨fault, refused⟩ | ⟨results, answer, changes⟩
      · rw [refused]
        exact ⟨.refl none context, fun _ => rfl⟩
      · refine ⟨changes, ?_⟩
        rintro (other | ⟨fault, refused⟩)
        · exact absurd rfl other
        · rw [answer] at refused
          cases refused
  | getEnvironment | getLocal | getMetatable | getUpvalue | traceback =>
      exact ⟨.refl none context, fun _ => rfl⟩
  | _ => cases reads

end DebugFunction

namespace Context

variable {context : Context} {function : DebugFunction} {id : FunctionId}

/-- Where no further call has room, a function of the library is refused like any other. -/
theorem callHost_registered_cases (reachable : context.Reachable)
    (registered : context.Registered function id) (arguments : List Value) :
    (∃ fault, context.callHost id arguments = (.error fault, context)) ∨
      context.callHost id arguments =
        ((function.run arguments context).1.mapError (Fault.inFunction function.name),
          (function.run arguments context).2) := by
  by_cases room : context.depth < context.config.maxCallDepth
  · exact .inr (callHost_registered reachable room registered arguments)
  · refine .inl ?_
    change ∃ fault, callHostWith (callHostWithin (nestingLimit - 1)) id arguments context = _
    rcases callHostWith_cases (callHostWithin (nestingLimit - 1)) (fun _ _ _ => []) id arguments
      context with ⟨-, called, -⟩ | ⟨-, -, called, -⟩ | ⟨-, -, free, -, -⟩
    · exact ⟨_, called⟩
    · exact ⟨_, called⟩
    · exact absurd free room

end Context

open DebugFunction in
/-- A call of a library function that is refused changes nothing, and no more does one that reads,
new tables apart. A call that writes gives one location the value that was passed for it; if there
is no such location it is a variable that does not exist, and the call changes nothing. -/
theorem library_assigns_once {context : Context} (reachable : context.Reachable)
    (closed : context.heap.Closed) {function : DebugFunction} {id : FunctionId}
    (registered : context.Registered function id) {arguments : List Value}
    (present : ∀ value ∈ arguments, context.heap.Holds value) :
    (∀ fault, (context.callHost id arguments).1 = .error fault →
      (context.callHost id arguments).2 = context) ∧
    (function.reads = true →
      Context.ChangesOnly none context (context.callHost id arguments).2 ∧
      (function ≠ getInfo → (context.callHost id arguments).2 = context)) ∧
    (function.reads = false → ∀ results, (context.callHost id arguments).1 = .ok results →
      (function.addressed? arguments context = none ∧ (function = setLocal ∨ function = setUpvalue) ∧
        results = [.nil] ∧ (context.callHost id arguments).2 = context) ∨
      ∃ location, function.addressed? arguments context = some location ∧
        Context.Assigned location (function.written arguments) context
          (context.callHost id arguments).2) := by
  rcases context.callHost_registered_cases reachable registered arguments with
    ⟨fault, refused⟩ | called
  · rw [refused]
    refine ⟨fun _ _ => rfl, fun _ => ⟨.refl none context, fun _ => rfl⟩, ?_⟩
    intro _ results granted
    cases granted
  · rw [called]
    cases reads : function.reads with
    | true =>
        obtain ⟨changes, unchanged⟩ := run_of_reads reads arguments context
        refine ⟨?_, fun _ => ⟨changes, fun other => unchanged (.inl other)⟩, nofun⟩
        intro fault refused
        cases answer : (function.run arguments context).1 with
        | error cause => exact unchanged (.inr ⟨cause, answer⟩)
        | ok results =>
            rw [answer] at refused
            cases refused
    | false =>
        refine ⟨?_, nofun, ?_⟩
        · intro fault refused
          rcases run_settled reachable.intact closed present reads with
            ⟨cause, ran⟩ | ⟨ran, -, -⟩ | ⟨results, later, location, ran, -, -⟩
          · rw [ran]
          · rw [ran]
          · rw [ran] at refused
            cases refused
        · intro _ results granted
          rcases run_settled reachable.intact closed present reads with
            ⟨cause, ran⟩ | ⟨ran, address, kind⟩ | ⟨answer, later, location, ran, address, assigned⟩
          · rw [ran] at granted
            cases granted
          · rw [ran] at granted ⊢
            cases granted
            exact .inl ⟨address, kind, rfl, rfl⟩
          · rw [ran]
            exact .inr ⟨location, address, assigned⟩

def captureCaller : Context :=
  let main : Prototype :=
    { source := "@sample", parameterCount := 2, instructions := [.«return» 0 0],
      locals := [⟨some "kept", 0, 1⟩, ⟨some "shared", 0, 1⟩] }
  let heap := (Heap.empty.addFunction { code := .script main }).2
  let called := ((Context.create heap {}).openDebug.call ⟨0⟩ [.boolean true, .boolean false]).2
  (called.capture 1).2

/-- The first local is a position of the stack, the second a cell, the third does not exist. -/
theorem library_assigns_once_capture :
    captureCaller.Reachable ∧ captureCaller.heap.Closed ∧
    captureCaller.Registered .setLocal ⟨7⟩ ∧
    Context.Assigned (.slot 0) (.text "first") captureCaller
      (captureCaller.callHost ⟨7⟩ [.number ⟨0⟩, .number ⟨0x3FF0000000000000⟩, .text "first"]).2 ∧
    Context.Assigned (.cell ⟨0⟩) (.text "second") captureCaller
      (captureCaller.callHost ⟨7⟩ [.number ⟨0⟩, .number ⟨0x4000000000000000⟩, .text "second"]).2 ∧
    (captureCaller.callHost ⟨7⟩ [.number ⟨0⟩, .number ⟨0x4008000000000000⟩, .text "third"]).2 =
      captureCaller := by
  have reachable : captureCaller.Reachable :=
    .capture (.call _ _ (.openDebug (.create _ {})))
  have closed : captureCaller.heap.Closed := by
    unfold Heap.Closed
    decide +kernel
  have registered : captureCaller.Registered .setLocal ⟨7⟩ := rfl
  have writes := fun (arguments : List Value)
    (present : ∀ value ∈ arguments, captureCaller.heap.Holds value) =>
      (library_assigns_once reachable closed registered present).2.2 rfl
  refine ⟨reachable, closed, registered, ?_, ?_, ?_⟩
  · rcases writes [.number ⟨0⟩, .number ⟨0x3FF0000000000000⟩, .text "first"] (by decide)
      [.text "kept"] rfl with ⟨absent, -⟩ | ⟨location, address, assigned⟩
    · exact absurd absent (by decide +kernel)
    · have slot : location = .slot 0 := Option.some.inj (address.symm.trans (by decide +kernel))
      exact slot ▸ assigned
  · rcases writes [.number ⟨0⟩, .number ⟨0x4000000000000000⟩, .text "second"] (by decide)
      [.text "shared"] rfl with ⟨absent, -⟩ | ⟨location, address, assigned⟩
    · exact absurd absent (by decide +kernel)
    · have cell : location = .cell ⟨0⟩ := Option.some.inj (address.symm.trans (by decide +kernel))
      exact cell ▸ assigned
  · rcases writes [.number ⟨0⟩, .number ⟨0x4008000000000000⟩, .text "third"] (by decide)
      [.nil] rfl with ⟨-, -, -, unchanged⟩ | ⟨location, address, -⟩
    · exact unchanged
    · have missing : DebugFunction.addressed? .setLocal
          [.number ⟨0⟩, .number ⟨0x4008000000000000⟩, .text "third"] captureCaller = none := by
        decide +kernel
      rw [missing] at address
      cases address

end StackScope
