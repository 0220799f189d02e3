import StackScope.Proofs.Naming.Origin

/-!
Which of its two values a self call is named after. A self call puts the method into one register
and the object into the next one, and names of kind `method` are given to both. The register of the
self call that the value came from is the same on every forward path, and it tells the two apart.
-/

namespace StackScope

namespace Prototype

/-- The instruction that brought a register's value into the registers, and the register that it
wrote. Moves only pass a value on. -/
def landing? (prototype : Prototype) : (visited : List Nat) → (register : Nat) → Option (Nat × Nat)
  | [], _ => none
  | position :: earlier, register =>
      if prototype.writesAt register position then
        match prototype.instructions[position]? with
        | some (.move _ source) => prototype.landing? earlier source
        | _ => some (position, register)
      else prototype.landing? earlier register

def HoldsMethod (prototype : Prototype) (visited : List Nat) (register : Nat) (text : String) :
    Prop :=
  ∃ setter target object method, prototype.landing? visited register = some (setter, target) ∧
    prototype.instructions[setter]? = some (.selfCall target object method) ∧
    prototype.constantName method = text

variable {prototype : Prototype}

theorem landing?_append {register : Nat} {later : List Nat}
    (silent : ∀ position ∈ later, prototype.writesAt register position = false)
    (earlier : List Nat) :
    prototype.landing? (later ++ earlier) register = prototype.landing? earlier register := by
  induction later with
  | nil => rfl
  | cons position rest ih =>
      obtain ⟨first, others⟩ := List.forall_mem_cons.mp silent
      rw [List.cons_append, landing?, first, if_neg Bool.false_ne_true, ih others]

theorem landing?_move {register setter target source : Nat}
    (writes : prototype.writesAt register setter = true)
    (present : prototype.instructions[setter]? = some (.move target source))
    (earlier : List Nat) :
    prototype.landing? (setter :: earlier) register = prototype.landing? earlier source := by
  rw [landing?, if_pos writes, present]

theorem landing?_selfCall {register setter target object method : Nat}
    (writes : prototype.writesAt register setter = true)
    (present : prototype.instructions[setter]? = some (.selfCall target object method))
    (earlier : List Nat) :
    prototype.landing? (setter :: earlier) register = some (setter, register) := by
  rw [landing?, if_pos writes, present]

/-- The value still has the origin that it had where it landed. -/
theorem originAt_of_landing? {visited : List Nat} {register setter held : Nat}
    (landed : prototype.landing? visited register = some (setter, held)) :
    ∃ earlier, setter :: earlier <:+ visited ∧
      prototype.originAt visited register = prototype.originAt (setter :: earlier) held := by
  induction visited generalizing register with
  | nil => cases landed
  | cons position earlier ih =>
      cases writes : prototype.writesAt register position with
      | false =>
          rw [landing?, writes, if_neg Bool.false_ne_true] at landed
          obtain ⟨before, part, origin⟩ := ih landed
          refine ⟨before, part.trans (List.suffix_cons position earlier), ?_⟩
          rw [originAt_of_silent writes, origin]
      | true =>
          rw [landing?, if_pos writes] at landed
          split at landed
          · rename_i target source present
            have same : target = register := beq_iff_eq.mp (writes_of_writesAt writes present)
            obtain ⟨before, part, origin⟩ := ih landed
            refine ⟨before, part.trans (List.suffix_cons position earlier), ?_⟩
            rw [← origin, originAt_cons present]
            exact if_pos same.symm
          · cases landed
            exact ⟨earlier, List.suffix_refl _, rfl⟩

/-- The value of a register lands, on every path, in the same one of the two registers that a self
call with a method of this name writes. -/
structure LandsInSelfCall (prototype : Prototype) (position register : Nat) (text : String)
    (setter target object method held : Nat) : Prop where
  present : prototype.instructions[setter]? = some (.selfCall target object method)
  named : prototype.constantName method = text
  either : held = target ∨ held = target + 1
  landing : ∀ visited, prototype.ForwardPath position visited →
    prototype.landing? visited register = some (setter, held)

theorem lands_of_valueName? (addressable : prototype.Addressable) {position : Nat}
    (inside : position ≤ prototype.instructions.length) {register : Nat} {text : String}
    (found : prototype.valueName? position register = some ⟨.method, text⟩) :
    ∃ setter target object method held,
      prototype.LandsInSelfCall position register text setter target object method held := by
  induction position using Nat.strongRecOn generalizing register with
  | _ position ih =>
      rcases valueName?_cases found with binding | ⟨setter, instruction, last, present, names⟩
      · cases binding
      · have before := lastSetter?_lt last
        obtain ⟨straight, path⟩ := exists_forwardPath inside
        obtain ⟨-, -, -, -, writes, -⟩ := path.split_lastSetter? addressable inside last
        have writing := writes_of_writesAt writes present
        cases names with
        | @move target source _ lower moved =>
            obtain ⟨origin, first, object, method, held, lands⟩ := ih setter before (by omega) moved
            refine ⟨origin, first, object, method, held, lands.present, lands.named, lands.either,
              ?_⟩
            intro visited path
            obtain ⟨later, earlier, rfl, part, -, silent⟩ :=
              path.split_lastSetter? addressable inside last
            rw [landing?_append silent, landing?_move writes present]
            exact lands.landing earlier part
        | method target object index =>
            refine ⟨setter, target, object, index, register, present, rfl, ?_, ?_⟩
            · rcases Bool.or_eq_true_iff.mp writing with same | next
              · exact .inl (beq_iff_eq.mp same)
              · exact .inr (beq_iff_eq.mp next)
            · intro visited path
              obtain ⟨later, earlier, rfl, -, -, silent⟩ :=
                path.split_lastSetter? addressable inside last
              rw [landing?_append silent, landing?_selfCall writes present]

namespace LandsInSelfCall

variable {position register setter target object method held : Nat} {text : String}

/-- The value is the method exactly where it landed in the first of the two registers. -/
theorem holdsMethod_iff (lands : prototype.LandsInSelfCall position register text setter target
    object method held) {visited : List Nat} (path : prototype.ForwardPath position visited) :
    prototype.HoldsMethod visited register text ↔ held = target := by
  have landed := lands.landing visited path
  constructor
  · rintro ⟨other, first, receiver, name, sameLanding, present, -⟩
    rw [landed] at sameLanding
    cases sameLanding
    rw [lands.present] at present
    cases present
    rfl
  · intro same
    subst same
    exact ⟨setter, held, object, method, landed, lands.present, lands.named⟩

/-- Otherwise it is the object, as it was before the self call. -/
theorem origin (lands : prototype.LandsInSelfCall position register text setter target object method
    held) {visited : List Nat} (path : prototype.ForwardPath position visited) :
    ∃ earlier, setter :: earlier <:+ visited ∧
      prototype.originAt visited register =
        if held = target then .method method else prototype.originAt earlier object := by
  obtain ⟨earlier, part, same⟩ := originAt_of_landing? (lands.landing visited path)
  refine ⟨earlier, part, same.trans ?_⟩
  rw [originAt_cons lands.present]
  rcases lands.either with isMethod | isObject
  · rw [if_pos isMethod]
    exact if_pos isMethod
  · have different : held ≠ target := by omega
    simp only [Instruction.transfer, if_neg different, if_pos isObject]

end LandsInSelfCall

/-- A name of kind `method` is that of one self call, and the value in the register has landed in
the same one of its two registers on every forward path. It is the method on all paths where it
landed in the first one, and on none where it landed in the second: there it is the object. -/
theorem method_name_landing (addressable : prototype.Addressable) {position : Nat}
    (inside : position ≤ prototype.instructions.length) {register : Nat} {text : String}
    (found : prototype.valueName? position register = some ⟨.method, text⟩) :
    ∃ setter target object method held,
      prototype.LandsInSelfCall position register text setter target object method held ∧
      ∀ visited, prototype.ForwardPath position visited →
        (prototype.HoldsMethod visited register text ↔ held = target) ∧
        ∃ earlier, setter :: earlier <:+ visited ∧
          prototype.originAt visited register =
            if held = target then .method method else prototype.originAt earlier object := by
  obtain ⟨setter, target, object, method, held, lands⟩ :=
    lands_of_valueName? addressable inside found
  exact ⟨setter, target, object, method, held, lands,
    fun visited path => ⟨lands.holdsMethod_iff path, lands.origin path⟩⟩

def selfCallCode : Prototype where
  source := "@sample"
  instructions := [.selfCall 1 0 0, .move 3 1, .call 3 1 1]
  constants := [.text "close"]

theorem selfCallCode_path : selfCallCode.ForwardPath 2 [1, 0] :=
  (ForwardPath.start.step (.following (by decide))).step (.following (by decide))

/-- The value that is called is the method. -/
theorem method_name_landing_moved :
    selfCallCode.Addressable ∧ 2 ≤ selfCallCode.instructions.length ∧
      selfCallCode.valueName? 2 3 = some ⟨.method, "close"⟩ ∧
      selfCallCode.HoldsMethod [1, 0] 3 "close" := by
  have addressable : selfCallCode.Addressable := by decide
  have named : selfCallCode.valueName? 2 3 = some ⟨.method, "close"⟩ := by decide +kernel
  obtain ⟨setter, target, object, method, held, lands, holds⟩ :=
    method_name_landing addressable (by decide) named
  have landed := lands.landing [1, 0] selfCallCode_path
  have first : held = target := by
    have same : (0, 1) = (setter, held) := Option.some.inj landed
    cases same
    cases lands.present
    rfl
  exact ⟨addressable, by decide, named, (holds _ selfCallCode_path).1.mpr first⟩

/-- Another register gets the name of the method as well, and it holds the object. -/
theorem object_named_as_method :
    selfCallCode.Addressable ∧ selfCallCode.ForwardPath 2 [1, 0] ∧
      selfCallCode.valueName? 2 2 = some ⟨.method, "close"⟩ ∧
      ¬ selfCallCode.HoldsMethod [1, 0] 2 "close" := by
  refine ⟨by decide, selfCallCode_path, by decide +kernel, ?_⟩
  rintro ⟨setter, target, object, method, landed, present, -⟩
  have second : (0, 2) = (setter, target) := Option.some.inj landed
  cases second
  cases present

end Prototype

end StackScope
