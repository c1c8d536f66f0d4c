/-
# Draftsman.Proofs.Equality -- everything equals itself

Values are compared by what they stand for, so it is not plain from the definition that a
value is the same as itself.  It is, also where it is not a number or holds what is none
(`Value.equal_self`): such a thing equals itself and nothing else.  Nodes are compared kind
by kind and field by field, so they equal themselves too (`Node.equal_self`).
-/
import Draftsman.Node

namespace Draftsman

set_option autoImplicit false

namespace Value

theorem equal_float_self (x : Binary64) : (float x).equal (float x) = true := by
  cases x <;> simp [equal, atomEqual, text?, quantity?, Binary64.quantity, Quantity.equal]

theorem equal_decimal_self (d : Decimal) : (decimal d).equal (decimal d) = true := by
  cases d <;> simp [equal, atomEqual, text?, quantity?, Decimal.quantity, Quantity.equal]

mutual

/-- A value equals itself. -/
theorem equal_self : ∀ v : Value, v.equal v = true
  | float x => equal_float_self x
  | decimal d => equal_decimal_self d
  | list items => allEqual_self items
  | tuple items => allEqual_self items
  | set items => by
      have found := allFound_of_subset items items fun _ held => held
      simp only [equal, beq_self_eq_true, found, Bool.and_self]
  | dict members => by
      have held := allHeld_of_subset members members fun _ held => held
      simp only [equal, beq_self_eq_true, held, Bool.and_self]
  | null | bool _ | int _ | str _ | primitive _ | host _ | pattern _ => by
      simp [equal, atomEqual, text?, quantity?, Quantity.equal]

theorem allEqual_self : ∀ items : List Value, allEqual items items = true
  | [] => rfl
  | item :: rest => by rw [allEqual, equal_self item, allEqual_self rest]; rfl

/-- Items that are among others have equal ones there, themselves. -/
theorem allFound_of_subset : ∀ (items others : List Value), (∀ item ∈ items, item ∈ others) →
    allFound items others = true
  | [], _, _ => rfl
  | item :: rest, others, among => by
      obtain ⟨own, later⟩ := List.forall_mem_cons.mp among
      have found : others.any (equal item) = true :=
        List.any_eq_true.mpr ⟨item, own, equal_self item⟩
      rw [allFound, found, allFound_of_subset rest others later]
      rfl

/-- Members that are among others have equal ones there, themselves. -/
theorem allHeld_of_subset : ∀ (members others : List (Value × Value)),
    (∀ member ∈ members, member ∈ others) → allHeld members others = true
  | [], _, _ => rfl
  | (key, value) :: rest, others, among => by
      obtain ⟨own, later⟩ := List.forall_mem_cons.mp among
      have held : others.any (fun other => equal key other.1 && equal value other.2) = true :=
        List.any_eq_true.mpr ⟨(key, value), own, by simp only [equal_self key, equal_self value,
          Bool.and_self]⟩
      rw [allHeld, held, allHeld_of_subset rest others later]
      rfl

end

end Value

namespace Node

mutual

/-- A node equals itself. -/
theorem equal_self : ∀ node : Node, node.equal node = true
  | nominal primitive notes => by
      simp only [equal, Value.equal_self, Bool.and_self]
  | constructor type fn notes => by
      simp only [equal, equal_self type, Value.equal_self, Bool.and_self]
  | constrained type rule notes => by
      simp only [equal, equal_self type, equal_self rule, Value.equal_self, Bool.and_self]
  | predicate name operand notes => by
      simp only [equal, Value.equal_self, Bool.and_self]
  | sum types notes => by
      simp only [equal, equalChildren_self types, Value.equal_self, Bool.and_self]
  | intersection left right notes => by
      simp only [equal, equal_self left, equal_self right, Value.equal_self, Bool.and_self]
  | mapping fields notes => by
      simp only [equal, equal_self fields, Value.equal_self, Bool.and_self]
  | aggregate name fields notes => by
      simp only [equal, equal_self fields, Value.equal_self, Bool.and_self]
  | array member notes => by
      simp only [equal, equal_self member, Value.equal_self, Bool.and_self]
  | schema keys notes => by
      simp only [equal, equalChildren_self keys, Value.equal_self, Bool.and_self]
  | key name type required notes => by
      simp only [equal, equal_self type, Value.equal_self, Bool.and_self]
  | enum type values notes => by
      simp only [equal, equal_self type, equalChildren_self values, Value.equal_self, Bool.and_self]
  | lazy notes | bare notes | plain v => by simp only [equal, Value.equal_self]

/-- The same for what stands in a slot. -/
theorem equalChildren_self : ∀ children : Children, equalChildren children children = true
  | .nodes items => by rw [equalChildren, equalAll_self items]
  | .value v => Value.equal_self v

/-- The same for some nodes. -/
theorem equalAll_self : ∀ nodes : List Node, equalAll nodes nodes = true
  | [] => rfl
  | node :: rest => by rw [equalAll, equal_self node, equalAll_self rest]; rfl

end

end Node

end Draftsman
