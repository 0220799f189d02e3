import StackScope.Association
import StackScope.Proofs.Boxed.HeapAgreement

/-!
The places in which metatables and environments are kept. Which values share a place follows from
`Association.storage` alone: an object owns its associations, and all texts own one metatable
together. The setters find the place of a value by the value's kind, each in its own way; here they
are shown to change the place of the owner and no other.
-/

namespace StackScope

def Heap.Holds (heap : Heap) : Value → Prop
  | .table id => id.index < heap.tables.size
  | .function id => id.index < heap.functions.size
  | .userdata id => id.index < heap.userdata.size
  | .thread id => id.index < heap.threads.size
  | .nil | .boolean _ | .number _ | .text _ => True

instance (heap : Heap) (value : Value) : Decidable (heap.Holds value) :=
  match value with
  | .table id => inferInstanceAs (Decidable (id.index < heap.tables.size))
  | .function id => inferInstanceAs (Decidable (id.index < heap.functions.size))
  | .userdata id => inferInstanceAs (Decidable (id.index < heap.userdata.size))
  | .thread id => inferInstanceAs (Decidable (id.index < heap.threads.size))
  | .nil | .boolean _ | .number _ | .text _ => isTrue trivial

/-- What is seen of the objects of a pool after one that is there was replaced. -/
theorem Pool.view_set {α β : Type} [Inhabited α] (view : α → β) {pool : Pool α} {index : Nat}
    (present : index < pool.size) (item : α) (other : Nat) :
    view ((pool.set index item).get other) =
      if other = index then view item else view (pool.get other) := by
  rw [get_set]
  by_cases same : other = index
  · rw [if_pos ⟨same.symm, present⟩, if_pos same]
  · rw [if_neg fun both => same both.1.symm, if_neg same]

namespace Table

def associated (table : Table) : Association → Option TableId
  | .metatable => table.metatable
  | .environment => none

end Table

namespace FunctionObject

def associated (function : FunctionObject) : Association → Option TableId
  | .metatable => function.metatable
  | .environment => function.environment

end FunctionObject

namespace UserdataObject

def associated (userdata : UserdataObject) : Association → Option TableId
  | .metatable => userdata.metatable
  | .environment => userdata.environment

end UserdataObject

namespace ThreadObject

/-- A thread always has an environment. -/
def associated (thread : ThreadObject) : Association → Option TableId
  | .metatable => thread.metatable
  | .environment => some thread.environment

end ThreadObject

/-- What an association belongs to: one object, or all texts. -/
inductive Owner where
  | table (id : TableId)
  | function (id : FunctionId)
  | userdata (id : UserdataId)
  | thread (id : ThreadId)
  | texts
deriving DecidableEq

def Value.owner? : Value → Option Owner
  | .table id => some (.table id)
  | .function id => some (.function id)
  | .userdata id => some (.userdata id)
  | .thread id => some (.thread id)
  | .text _ => some .texts
  | .nil | .boolean _ | .number _ => none

def Association.owner? (association : Association) (value : Value) : Option Owner :=
  if association.storage value.category = .unsupported then none else value.owner?

namespace Context

def stored (context : Context) (association : Association) : Owner → Option TableId
  | .table id => (context.heap.table id).associated association
  | .function id => (context.heap.function id).associated association
  | .userdata id => (context.heap.userdataAt id).associated association
  | .thread id => (context.heap.thread id).associated association
  | .texts =>
      match association with
      | .metatable => context.stringMetatable
      | .environment => none

variable {context : Context} (association : Association) (owner : Owner)

theorem stored_setTable {id : TableId} (present : context.heap.Holds (.table id))
    (object : Table) :
    ({ context with heap := context.heap.setTable id object } : Context).stored association
        owner =
      if owner = .table id then object.associated association
      else context.stored association owner := by
  cases owner with
  | table other =>
      obtain ⟨place⟩ := id
      obtain ⟨other⟩ := other
      simp only [Owner.table.injEq, TableId.mk.injEq]
      exact Pool.view_set (Table.associated · association) present object other
  | _ => rfl

theorem stored_setFunction {id : FunctionId} (present : context.heap.Holds (.function id))
    (object : FunctionObject) :
    ({ context with heap := context.heap.setFunction id object } : Context).stored association
        owner =
      if owner = .function id then object.associated association
      else context.stored association owner := by
  cases owner with
  | function other =>
      obtain ⟨place⟩ := id
      obtain ⟨other⟩ := other
      simp only [Owner.function.injEq, FunctionId.mk.injEq]
      exact Pool.view_set (FunctionObject.associated · association) present object other
  | _ => rfl

theorem stored_setUserdata {id : UserdataId} (present : context.heap.Holds (.userdata id))
    (object : UserdataObject) :
    ({ context with heap := context.heap.setUserdata id object } : Context).stored association
        owner =
      if owner = .userdata id then object.associated association
      else context.stored association owner := by
  cases owner with
  | userdata other =>
      obtain ⟨place⟩ := id
      obtain ⟨other⟩ := other
      simp only [Owner.userdata.injEq, UserdataId.mk.injEq]
      exact Pool.view_set (UserdataObject.associated · association) present object other
  | _ => rfl

theorem stored_setThread {id : ThreadId} (present : context.heap.Holds (.thread id))
    (object : ThreadObject) :
    ({ context with heap := context.heap.setThread id object } : Context).stored association
        owner =
      if owner = .thread id then object.associated association
      else context.stored association owner := by
  cases owner with
  | thread other =>
      obtain ⟨place⟩ := id
      obtain ⟨other⟩ := other
      simp only [Owner.thread.injEq, ThreadId.mk.injEq]
      exact Pool.view_set (ThreadObject.associated · association) present object other
  | _ => rfl

/-- An object that keeps all of its associations but one. -/
theorem replaced_at (context : Context) {association changed : Association} {owner place : Owner}
    {given : Option TableId} {object : Association → Option TableId} (here : object changed = given)
    (kept : ∀ other, other ≠ changed → object other = context.stored other place) :
    (if owner = place then object association else context.stored association owner) =
      if association = changed ∧ owner = place then given
      else context.stored association owner := by
  by_cases same : owner = place
  · subst same
    by_cases chosen : association = changed
    · subst chosen
      rw [if_pos rfl, if_pos ⟨rfl, rfl⟩, here]
    · rw [if_pos rfl, if_neg fun both => chosen both.1, kept association chosen]
  · rw [if_neg same, if_neg fun both => same both.2]

variable {association owner}
variable {value : Value} {place : Owner} (present : context.heap.Holds value)
include present

/-- A metatable is put where the value's metatable belongs, and nowhere else. -/
theorem stored_putMetatable (owned : Association.metatable.owner? value = some place)
    (metatable : Option TableId) :
    (context.putMetatable value metatable).stored association owner =
      if association = .metatable ∧ owner = place then metatable
      else context.stored association owner := by
  cases value with
  | table id =>
      cases owned
      exact (stored_setTable association owner present _).trans
        (replaced_at context rfl fun
          | .environment, _ => rfl
          | .metatable, same => absurd rfl same)
  | function id =>
      cases owned
      exact (stored_setFunction association owner present _).trans
        (replaced_at context rfl fun
          | .environment, _ => rfl
          | .metatable, same => absurd rfl same)
  | userdata id =>
      cases owned
      exact (stored_setUserdata association owner present _).trans
        (replaced_at context rfl fun
          | .environment, _ => rfl
          | .metatable, same => absurd rfl same)
  | thread id =>
      cases owned
      exact (stored_setThread association owner present _).trans
        (replaced_at context rfl fun
          | .environment, _ => rfl
          | .metatable, same => absurd rfl same)
  | text content =>
      cases owned
      cases association <;> cases owner <;> rfl
  | _ => cases owned

theorem stored_putEnvironment (owned : Association.environment.owner? value = some place)
    (environment : TableId) :
    (context.putEnvironment value environment).stored association owner =
      if association = .environment ∧ owner = place then some environment
      else context.stored association owner := by
  cases value with
  | function id =>
      cases owned
      exact (stored_setFunction association owner present _).trans
        (replaced_at context rfl fun
          | .metatable, _ => rfl
          | .environment, same => absurd rfl same)
  | userdata id =>
      cases owned
      exact (stored_setUserdata association owner present _).trans
        (replaced_at context rfl fun
          | .metatable, _ => rfl
          | .environment, same => absurd rfl same)
  | thread id =>
      cases owned
      exact (stored_setThread association owner present _).trans
        (replaced_at context rfl fun
          | .metatable, _ => rfl
          | .environment, same => absurd rfl same)
  | _ => cases owned

end Context

end StackScope
