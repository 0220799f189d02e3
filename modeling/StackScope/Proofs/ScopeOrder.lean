import StackScope.Prototype

/-!
Local scopes in the order in which they start. `normalize` orders the scopes of a prototype and of
all its descendants and changes nothing else. On ordered scopes the search for live locals, which
ends at the first scope that starts later, misses none of them.

An order that keeps scopes with the same start as they are is unique. So the answers depend on the
original order of such scopes only.
-/

namespace StackScope

def startingAt (start : Nat) (scopes : List LocalScope) : List LocalScope :=
  scopes.filter fun scope => decide (scope.first = start)

theorem mem_startingAt {start : Nat} {scopes : List LocalScope} {scope : LocalScope} :
    scope ∈ startingAt start scopes ↔ scope ∈ scopes ∧ scope.first = start := by
  rw [startingAt, List.mem_filter, decide_eq_true_eq]

theorem startingAt_cons (start : Nat) (scope : LocalScope) (rest : List LocalScope) :
    startingAt start (scope :: rest) =
      if scope.first = start then scope :: startingAt start rest else startingAt start rest := by
  unfold startingAt
  rw [List.filter_cons]
  simp only [decide_eq_true_eq]

def LocalScope.covers (position : Nat) (scope : LocalScope) : Bool :=
  decide (scope.first ≤ position) && decide (position < scope.last)

/-- The same scopes, where those that start together come in the same order. -/
structure SameTies (left right : List LocalScope) : Prop where
  perm : left.Perm right
  ties : ∀ start, startingAt start left = startingAt start right

def Ascending (scopes : List LocalScope) : Prop :=
  scopes.Pairwise fun earlier later => earlier.first ≤ later.first

namespace SameTies

variable {left middle right : List LocalScope}

theorem symm (same : SameTies left right) : SameTies right left :=
  ⟨same.perm.symm, fun start => (same.ties start).symm⟩

theorem trans (first : SameTies left middle) (second : SameTies middle right) :
    SameTies left right :=
  ⟨first.perm.trans second.perm, fun start => (first.ties start).trans (second.ties start)⟩

end SameTies

theorem mem_of_ties {left right : List LocalScope}
    (ties : ∀ start, startingAt start left = startingAt start right) {scope : LocalScope}
    (member : scope ∈ left) : scope ∈ right := by
  have tied : scope ∈ startingAt scope.first left := mem_startingAt.mpr ⟨member, rfl⟩
  rw [ties] at tied
  exact (mem_startingAt.mp tied).1

theorem Ascending.head_le {head scope : LocalScope} {rest : List LocalScope}
    (ascending : Ascending (head :: rest)) (member : scope ∈ head :: rest) :
    head.first ≤ scope.first := by
  rcases List.mem_cons.mp member with same | later
  · exact Nat.le_of_eq (congrArg LocalScope.first same.symm)
  · exact (List.pairwise_cons.mp ascending).1 scope later

/-- Scopes in ascending order are determined by the scopes at each start. -/
theorem Ascending.eq_of_ties {left right : List LocalScope} (leftAscending : Ascending left)
    (rightAscending : Ascending right)
    (ties : ∀ start, startingAt start left = startingAt start right) :
    left = right := by
  induction left generalizing right with
  | nil =>
      cases right with
      | nil => rfl
      | cons scope rest =>
          have impossible := mem_of_ties (fun start => (ties start).symm) List.mem_cons_self
          cases impossible
  | cons head tail ih =>
      cases right with
      | nil =>
          have impossible := mem_of_ties ties List.mem_cons_self
          cases impossible
      | cons other rest =>
          -- Neither head starts later than the other one, so both are the first of the same tie.
          have lower := rightAscending.head_le (mem_of_ties ties List.mem_cons_self)
          have upper := leftAscending.head_le
            (mem_of_ties (fun start => (ties start).symm) List.mem_cons_self)
          have together : other.first = head.first := Nat.le_antisymm lower upper
          have atHead := ties head.first
          rw [startingAt_cons, startingAt_cons, if_pos rfl, if_pos together] at atHead
          obtain ⟨same, tailTies⟩ := List.cons.inj atHead
          subst same
          refine congrArg (head :: ·) (ih leftAscending.of_cons rightAscending.of_cons ?_)
          intro start
          have atStart := ties start
          by_cases here : head.first = start
          · rw [← here]
            exact tailTies
          · rwa [startingAt_cons, startingAt_cons, if_neg here, if_neg here] at atStart

/-- In ascending order, the scopes that start no later than a position come first. -/
theorem Ascending.takeWhile_eq_filter {scopes : List LocalScope} (ascending : Ascending scopes)
    (position : Nat) :
    (scopes.takeWhile fun scope => decide (scope.first ≤ position)) =
      scopes.filter fun scope => decide (scope.first ≤ position) := by
  induction scopes with
  | nil => rfl
  | cons scope rest ih =>
      obtain ⟨later, restAscending⟩ := List.pairwise_cons.mp ascending
      by_cases started : scope.first ≤ position
      · rw [List.takeWhile_cons, List.filter_cons, ih restAscending, decide_eq_true started,
          if_pos rfl, if_pos rfl]
      · have none_started : ∀ other ∈ scope :: rest,
            ¬ (decide (other.first ≤ position)) = true := by
          intro other member
          rcases List.mem_cons.mp member with same | inside
          · subst same
            simpa using started
          · have := later other inside
            simp only [decide_eq_true_eq]
            omega
        rw [List.filter_eq_nil_iff.mpr none_started]
        exact List.takeWhile_cons_of_neg (none_started scope List.mem_cons_self)

namespace Prototype

/-- All scopes that hold the position, wherever they stand in the list. -/
def scopesAt (prototype : Prototype) (position : Nat) : List LocalScope :=
  prototype.locals.filter (LocalScope.covers position)

theorem liveLocals_of_ascending {prototype : Prototype} (ascending : Ascending prototype.locals)
    (position : Nat) : prototype.liveLocals position = prototype.scopesAt position := by
  unfold liveLocals scopesAt
  rw [ascending.takeWhile_eq_filter, List.filter_filter]
  apply List.filter_congr
  intro scope _
  exact Bool.and_comm _ _

/-! ### Ordering at every depth -/

theorem ascending_sortLocals (prototype : Prototype) : Ascending prototype.sortLocals.locals := by
  have sorted : prototype.sortLocals.locals.Pairwise
      fun earlier later => decide (earlier.first ≤ later.first) = true := by
    apply List.pairwise_mergeSort
    · simp only [decide_eq_true_eq]
      omega
    · simp only [Bool.or_eq_true, decide_eq_true_eq]
      omega
  exact sorted.imp of_decide_eq_true

/-- Sorting is stable. -/
theorem sameTies_sortLocals (prototype : Prototype) :
    SameTies prototype.locals prototype.sortLocals.locals := by
  have perm : prototype.sortLocals.locals.Perm prototype.locals := List.mergeSort_perm _ _
  refine ⟨perm.symm, ?_⟩
  intro start
  have tied : (startingAt start prototype.locals).Pairwise
      fun earlier later => decide (earlier.first ≤ later.first) = true := by
    apply List.pairwise_of_forall_mem_list
    intro earlier earlierMember later laterMember
    have earlierStart := (mem_startingAt.mp earlierMember).2
    have laterStart := (mem_startingAt.mp laterMember).2
    rw [earlierStart, laterStart]
    exact decide_eq_true (Nat.le_refl start)
  have kept : (startingAt start prototype.locals).Sublist prototype.sortLocals.locals := by
    refine List.sublist_mergeSort ?_ ?_ tied List.filter_sublist
    · simp only [decide_eq_true_eq]
      omega
    · simp only [Bool.or_eq_true, decide_eq_true_eq]
      omega
  have within : (startingAt start prototype.locals).Sublist
      (startingAt start prototype.sortLocals.locals) := by
    have filtered := kept.filter fun scope => decide (scope.first = start)
    have all : startingAt start (startingAt start prototype.locals) =
        startingAt start prototype.locals := by
      apply List.filter_eq_self.mpr
      intro scope member
      exact decide_eq_true (mem_startingAt.mp member).2
    change (startingAt start (startingAt start prototype.locals)).Sublist _ at filtered
    rwa [all] at filtered
  exact within.eq_of_length (perm.symm.filter _).length_eq

def descendant? (prototype : Prototype) : (path : List Nat) → Option Prototype
  | [] => some prototype
  | index :: path => prototype.children[index]?.bind fun child => child.descendant? path

theorem normalize_eq (prototype : Prototype) :
    prototype.normalize =
      { prototype with
        locals := prototype.sortLocals.locals
        children := prototype.children.map normalize } :=
  everywhere_eq sortLocals prototype

theorem locals_normalize (prototype : Prototype) :
    prototype.normalize.locals = prototype.sortLocals.locals := by
  rw [normalize_eq]

def withChildren (prototype : Prototype) (children : List Prototype) : Prototype :=
  { prototype with children }

def KeepsChildren (change : Prototype → Prototype) : Prop :=
  ∀ prototype children,
    change (withChildren prototype children) = (change prototype).withChildren children

theorem everywhere_of_keeps {change : Prototype → Prototype} (keeps : KeepsChildren change)
    (prototype : Prototype) :
    everywhere change prototype =
      (change prototype).withChildren (prototype.children.map (everywhere change)) :=
  (everywhere_eq change prototype).trans (keeps prototype _)

theorem children_everywhere {change : Prototype → Prototype} (keeps : KeepsChildren change)
    (prototype : Prototype) :
    (everywhere change prototype).children = prototype.children.map (everywhere change) := by
  rw [everywhere_of_keeps keeps]
  rfl

/-- The descendants are changed as well, each where it was. -/
theorem descendant?_everywhere {change : Prototype → Prototype} (keeps : KeepsChildren change)
    (prototype : Prototype) (path : List Nat) :
    (everywhere change prototype).descendant? path =
      (prototype.descendant? path).map (everywhere change) := by
  induction path generalizing prototype with
  | nil => rfl
  | cons index path ih =>
      unfold descendant?
      rw [children_everywhere keeps, List.getElem?_map]
      cases prototype.children[index]? with
      | none => rfl
      | some child => exact ih child

theorem keepsChildren_sortLocals : KeepsChildren sortLocals := fun _ _ => rfl

theorem descendant?_normalize (prototype : Prototype) (path : List Nat) :
    prototype.normalize.descendant? path = (prototype.descendant? path).map normalize :=
  descendant?_everywhere keepsChildren_sortLocals prototype path

/-- A prototype whose scopes are those of another one, ordered, and which has all else from it. The
children are spoken of in their own right. -/
structure OrderedFrom (original ordered : Prototype) : Prop where
  ascending : Ascending ordered.locals
  sameTies : SameTies original.locals ordered.locals
  rest : ordered = { original with locals := ordered.locals, children := ordered.children }
  children : ordered.children.length = original.children.length

theorem normalize_orderedFrom (prototype : Prototype) :
    OrderedFrom prototype prototype.normalize where
  ascending := by
    rw [locals_normalize]
    exact prototype.ascending_sortLocals
  sameTies := by
    rw [locals_normalize]
    exact prototype.sameTies_sortLocals
  rest := by rw [normalize_eq]
  children := by
    rw [normalize_eq]
    exact List.length_map _

/-- The order is the only one in which scopes that start together stay as they were. -/
theorem locals_normalize_congr {left right : Prototype}
    (same : SameTies left.locals right.locals) :
    left.normalize.locals = right.normalize.locals := by
  have leftOrdered := left.normalize_orderedFrom
  have rightOrdered := right.normalize_orderedFrom
  have ties := (leftOrdered.sameTies.symm.trans same).trans rightOrdered.sameTies
  exact leftOrdered.ascending.eq_of_ties rightOrdered.ascending ties.ties

theorem liveLocals_congr {left right : Prototype} (same : left.locals = right.locals)
    (position : Nat) : left.liveLocals position = right.liveLocals position := by
  unfold liveLocals
  rw [same]

/-- The live locals are all scopes that hold the position, and their ordinals start from one. -/
structure FindsAll (prototype : Prototype) : Prop where
  zero : ∀ position, prototype.localAt? 0 position = none
  ordinal : ∀ index position,
    prototype.localAt? (index + 1) position = (prototype.scopesAt position)[index]?
  count : ∀ position, prototype.activeLocals position = (prototype.scopesAt position).length

theorem findsAll_of_ascending {prototype : Prototype} (ascending : Ascending prototype.locals) :
    prototype.FindsAll where
  zero := fun _ => rfl
  ordinal := by
    intro index position
    rw [← liveLocals_of_ascending ascending]
    rfl
  count := by
    intro position
    rw [← liveLocals_of_ascending ascending]
    rfl

theorem activeLocals_normalize (prototype : Prototype) (position : Nat) :
    prototype.normalize.activeLocals position =
      prototype.locals.countP (LocalScope.covers position) := by
  have ordered := prototype.normalize_orderedFrom
  rw [(findsAll_of_ascending ordered.ascending).count, scopesAt, ← List.countP_eq_length_filter]
  exact (ordered.sameTies.perm.countP_eq _).symm

structure ScopeLaws (prototype : Prototype) : Prop where
  /-- The descendants are those of the original, each with its scopes in order. -/
  ordered : ∀ path original, prototype.descendant? path = some original →
    ∃ ordered, prototype.normalize.descendant? path = some ordered ∧
      OrderedFrom original ordered ∧ ordered.FindsAll
  added : ∀ path, prototype.descendant? path = none → prototype.normalize.descendant? path = none
  /-- Another order of scopes that start apart makes no difference. -/
  sameAnswers : ∀ other : Prototype, SameTies prototype.locals other.locals → ∀ position,
    (∀ ordinal, prototype.normalize.localAt? ordinal position =
      other.normalize.localAt? ordinal position) ∧
    prototype.normalize.activeLocals position = other.normalize.activeLocals position
  /-- Ordered or not, the ordinals of live locals are counted without gaps. -/
  present : ∀ ordinal position, (prototype.localAt? ordinal position).isSome ↔
    1 ≤ ordinal ∧ ordinal ≤ prototype.activeLocals position

/-- Ordering brings the scopes of all nested prototypes into the order of their starts, stably, and
changes nothing else. After it, the live locals at a position are all scopes that hold it. -/
theorem scopes_ordered (prototype : Prototype) : prototype.ScopeLaws where
  ordered := by
    intro path original found
    have ordered := original.normalize_orderedFrom
    refine ⟨original.normalize, ?_, ordered, findsAll_of_ascending ordered.ascending⟩
    rw [descendant?_normalize, found, Option.map_some]
  added := by
    intro path missing
    rw [descendant?_normalize, missing, Option.map_none]
  sameAnswers := by
    intro other same position
    have live : prototype.normalize.liveLocals position = other.normalize.liveLocals position :=
      liveLocals_congr (locals_normalize_congr same) position
    refine ⟨?_, congrArg List.length live⟩
    intro ordinal
    cases ordinal with
    | zero => rfl
    | succ index => exact congrArg (·[index]?) live
  present := prototype.localAt?_isSome

def nestedScopes : Prototype where
  source := "@sample"
  locals := [⟨some "inner", 1, 2⟩, ⟨some "whole", 0, 2⟩]

/-- Scopes out of order: an empty one, two that start together and overlap, and a child with scopes
of its own. -/
def unorderedScopes : Prototype where
  source := "@sample"
  locals := [⟨some "late", 2, 4⟩, ⟨some "outer", 0, 4⟩, ⟨none, 0, 3⟩, ⟨some "empty", 1, 1⟩]
  children := [nestedScopes]

def ascendingScopes : Prototype where
  source := "@sample"
  locals := [⟨some "outer", 0, 4⟩, ⟨none, 0, 3⟩, ⟨some "empty", 1, 1⟩, ⟨some "late", 2, 4⟩]

theorem scopes_ordered_nested :
    unorderedScopes.descendant? [0] = some nestedScopes ∧
    (∃ ordered, unorderedScopes.normalize.descendant? [0] = some ordered ∧
      OrderedFrom nestedScopes ordered ∧ ordered.FindsAll) ∧
    unorderedScopes.descendant? [0, 0] = none ∧
    unorderedScopes.normalize.descendant? [0, 0] = none ∧
    SameTies unorderedScopes.locals ascendingScopes.locals ∧
    unorderedScopes.normalize.localAt? 3 2 = some ⟨some "late", 2, 4⟩ ∧
    unorderedScopes.activeLocals 2 = 3 ∧ (unorderedScopes.localAt? 3 2).isSome := by
  have laws := scopes_ordered unorderedScopes
  have ties : SameTies unorderedScopes.locals ascendingScopes.locals := by
    refine ⟨by decide, ?_⟩
    rintro (_ | _ | _ | start) <;> rfl
  have sorted : ascendingScopes.normalize.locals = ascendingScopes.locals := by
    rw [locals_normalize]
    exact List.mergeSort_of_pairwise (by decide)
  have late : ascendingScopes.normalize.localAt? 3 2 = some ⟨some "late", 2, 4⟩ :=
    congrArg (·[2]?) (liveLocals_congr sorted 2)
  have live : unorderedScopes.activeLocals 2 = 3 := rfl
  refine ⟨rfl, laws.ordered [0] nestedScopes rfl, rfl, laws.added [0, 0] rfl, ties, ?_, live, ?_⟩
  · rw [(laws.sameAnswers ascendingScopes ties 2).1 3]
    exact late
  · exact (laws.present 3 2).mpr ⟨by decide, Nat.le_of_eq live.symm⟩

end Prototype

end StackScope
