import StackScope.Prototype
import StackScope.Word

/-!
Names for values from the code that loaded them. A function has no name of its own; a call is named
after the way in which the caller's code obtained the called value: from a global, a field, a
method, an upvalue or a local variable.

The instruction that loaded a register is only trusted when no forward jump may have passed it by.
-/

namespace StackScope

inductive NameKind where
  | global
  /-- A live local variable. -/
  | binding
  | method
  | field
  | upvalue
deriving DecidableEq, Inhabited

def NameKind.text : NameKind → String
  | global => "global"
  | binding => "local"
  | method => "method"
  | field => "field"
  | upvalue => "upvalue"

structure ValueName where
  kind : NameKind
  name : String
deriving DecidableEq, Inhabited

namespace Prototype

/-- What a scan of the code has found so far: the last write that surely happened, and the furthest
target of the forward jumps passed. -/
structure WriteScan where
  setter : Option Nat
  barrier : Nat
deriving DecidableEq

/-- One instruction of a scan up to `limit`. A write in front of the furthest jump target may have
been jumped over, and makes the register unknown. -/
def WriteScan.step (register : Nat) (limit : Int) (scan : WriteScan)
    (entry : Instruction × Nat) : WriteScan :=
  let (instruction, position) := entry
  match instruction with
  | .jump offset =>
      let target : Int := position + 1 + offset
      if position < target ∧ target ≤ limit ∧ scan.barrier < target then
        { scan with barrier := target.toNat }
      else scan
  | _ =>
      if instruction.writes register then
        { scan with setter := if position < scan.barrier then none else some position }
      else scan

def writeScan (prototype : Prototype) (limit register : Nat) : WriteScan :=
  (prototype.instructions.take limit).zipIdx.foldl
    (WriteScan.step register (Word.signed limit)) ⟨none, 0⟩

def lastSetter? (prototype : Prototype) (limit register : Nat) : Option Nat :=
  (prototype.writeScan limit register).setter

theorem step_setter_lt {register : Nat} {limit : Int} {bound : Nat} {scan : WriteScan}
    {entry : Instruction × Nat} (earlier : ∀ setter, scan.setter = some setter → setter < bound)
    (inside : entry.2 < bound) :
    ∀ setter, (WriteScan.step register limit scan entry).setter = some setter →
      setter < bound := by
  intro setter found
  obtain ⟨instruction, position⟩ := entry
  unfold WriteScan.step at found
  dsimp only at found inside
  split at found
  · split at found <;> exact earlier setter found
  · split at found
    · dsimp only at found
      split at found
      · exact absurd found (by simp)
      · injection found with same
        omega
    · exact earlier setter found

theorem foldl_setter_lt {register : Nat} {limit : Int} {bound : Nat}
    (entries : List (Instruction × Nat)) (inside : ∀ entry ∈ entries, entry.2 < bound)
    (scan : WriteScan) (earlier : ∀ setter, scan.setter = some setter → setter < bound) :
    ∀ setter, (entries.foldl (WriteScan.step register limit) scan).setter = some setter →
      setter < bound := by
  induction entries generalizing scan with
  | nil => exact earlier
  | cons entry rest ih =>
      exact ih (fun later member => inside later (List.mem_cons_of_mem entry member)) _
        (step_setter_lt earlier (inside entry List.mem_cons_self))

theorem lastSetter?_lt {prototype : Prototype} {limit register setter : Nat}
    (found : prototype.lastSetter? limit register = some setter) : setter < limit := by
  refine foldl_setter_lt _ ?_ ⟨none, 0⟩ (by simp) setter found
  intro entry member
  have bound := List.snd_lt_of_mem_zipIdx member
  have := List.length_take_le limit prototype.instructions
  omega

/-! ### Names -/

def constantName (prototype : Prototype) (index : Nat) : String :=
  (prototype.constantText? index).getD "?"

/-- The name of the value that a register holds just before a position. A live local with a name
comes first; otherwise the instruction that loaded the register decides, and a move from a lower
register passes the question on. -/
def valueName? (prototype : Prototype) (position register : Nat) : Option ValueName :=
  match (prototype.localAt? (register + 1) position).bind LocalScope.name with
  | some name => some ⟨.binding, name⟩
  | none =>
      match found : prototype.lastSetter? position register with
      | none => none
      | some setter =>
          match prototype.instructions[setter]? with
          | some (.getGlobal _ name) => some ⟨.global, prototype.constantName name⟩
          | some (.move target source) =>
              if source < target then
                have := lastSetter?_lt found
                prototype.valueName? setter source
              else none
          | some (.getField _ _ key) => some ⟨.field, prototype.constantName key⟩
          | some (.getTable _ _ key) =>
              match (prototype.lastSetter? setter key).bind
                  (fun keySetter => prototype.instructions[keySetter]?) with
              | some (.loadConstant _ constant) =>
                  (prototype.constantText? constant).map (⟨.field, ·⟩)
              | _ => none
          | some (.getUpvalue _ upvalue) =>
              some ⟨.upvalue, (prototype.upvalueName? upvalue).getD "?"⟩
          | some (.selfCall _ _ method) => some ⟨.method, prototype.constantName method⟩
          | _ => none
termination_by position

def calleeName? (prototype : Prototype) (position : Nat) : Option ValueName :=
  match prototype.instructions[position]? with
  | some (.call function _ _) | some (.tailCall function _) =>
      prototype.valueName? position function
  | _ => none

end Prototype

end StackScope
