/-
# Draftsman.Proofs.Idempotence -- a type satisfied twice

A node intersected with itself is visited twice: once as the left one, and once more to the right
of the type that it stands for itself.  Neither this nor the depth makes a difference
(`visit_onRightOf`, `visit_atDepth`), so one fragment is joined with itself.  That leaves it as it
is, unless a list in it holds something twice (`merge?_self`).
-/
import Draftsman.Proofs.Fallback
import Draftsman.Proofs.Merging
import Draftsman.Proofs.Relocation

namespace Draftsman

set_option autoImplicit false

open Value Members

namespace Value

/-! ## Comparing a value with itself -/

mutual

/-- A proper value can be compared with itself. -/
theorem clashes_self : ∀ v : Value, v.isProper = true → v.clashes v = false
  | list items, proper => by
      rw [clashes, beq_self_eq_true, Bool.true_and]
      exact anyClash_self items proper
  | tuple items, proper => by
      rw [clashes]
      exact anyClash_self items proper
  | dict members, proper => by
      rw [clashes, beq_self_eq_true, Bool.true_and]
      obtain ⟨-, each⟩ := isProper_dict.mp proper
      exact anyMemberClash_self (Members.keyed_of_isProper proper) members
        (membersAreProper_iff.mpr each) fun member held => held
  | set items, proper => rfl
  | decimal d, proper => by simp [clashes, atomClashes]
  | null, proper | bool _, proper | int _, proper | float _, proper | str _, proper
  | primitive _, proper | host _, proper | pattern _, proper => rfl

theorem anyClash_self : ∀ items : List Value, areProper items = true →
    anyClash items items = false
  | [], _ => rfl
  | item :: rest, proper => by
      obtain ⟨own, others⟩ := Bool.and_eq_true_iff.mp proper
      rw [anyClash, clashes_self item own, anyClash_self rest others, Bool.and_false, Bool.or_false]

/-- Members of a dictionary with different keys are compared with themselves. -/
theorem anyMemberClash_self {whole : Members} (keyed : whole.Keyed) :
    ∀ members : List (Value × Value), membersAreProper members = true →
      (∀ member ∈ members, member ∈ whole) → anyMemberClash members whole = false
  | [], _, _ => rfl
  | (key, value) :: rest, proper, among => by
      simp only [membersAreProper, Bool.and_eq_true] at proper
      obtain ⟨own, others⟩ := List.forall_mem_cons.mp among
      rw [anyMemberClash]
      split
      · rename_i member found
        have same : key.equal member.1 = true := by simpa using List.find?_some found
        have there := lookup_of_mem keyed (List.mem_of_find?_eq_some found)
        rw [← lookup_congr proper.1.1 (keyed.proper member (List.mem_of_find?_eq_some found)) same,
          lookup_of_mem keyed own] at there
        rw [← Option.some.inj there, clashes_self value proper.1.2,
          anyMemberClash_self keyed rest proper.2 others, Bool.and_false, Bool.or_false]
      · rfl

end

theorem same?_self {v : Value} (proper : v.isProper = true) (free : v.holdsMade = false) :
    v.same? v = some true := by
  rw [same?, clashes_self v proper, if_neg Bool.false_ne_true, equalApart_self free]

/-! ## Lists that repeat nothing -/

mutual

/-- Whether in every list of a value, reached through dictionaries only, all items differ and each
is the same at every place.  Items that cannot be compared are not found to differ. -/
def isUnrepeated : Value → Bool
  | list items =>
      decide (items.Pairwise fun a b => a.same? b = some false) && !anyHoldsMade items
  | dict members => membersAreUnrepeated members
  | _ => true

def membersAreUnrepeated : List (Value × Value) → Bool
  | [] => true
  | (_, v) :: rest => isUnrepeated v && membersAreUnrepeated rest

end

theorem membersAreUnrepeated_iff {members : List (Value × Value)} :
    membersAreUnrepeated members = true ↔ ∀ member ∈ members, member.2.isUnrepeated = true := by
  induction members with
  | nil => simp [membersAreUnrepeated]
  | cons member rest ih => simp [membersAreUnrepeated, ih]

end Value

/-- A list that repeats nothing stays as it is when it is joined with itself. -/
theorem unique?_append_self {items : List Value}
    (apart : items.Pairwise fun a b => a.same? b = some false)
    (free : anyHoldsMade items = false) (proper : ∀ item ∈ items, item.isProper = true) :
    unique? (items ++ items) = some items := by
  have first : items.foldlM (addNew? Value.same?) [] = some items := foldlM_of_apart apart
  rw [unique?, distinct?, List.foldlM_append, first]
  have self : ∀ item ∈ items, item.same? item = some true := fun item held =>
    same?_self (proper item held) (anyHoldsMade_eq_false.mp free item held)
  exact foldlM_of_mem apart self fun _ held => held

namespace Fragment

mutual

/-- Joining what is there already changes nothing. -/
theorem merge?_self {left : Members} : ∀ right : Members,
    membersAreProper right = true → membersAreUnrepeated right = true →
      (∀ member ∈ right, lookup member.1 left = some member.2) → merge? left right = some left
  | [], _, _, _ => rfl
  | (key, value) :: rest, proper, unrepeated, there => by
      simp only [membersAreProper, Bool.and_eq_true] at proper
      obtain ⟨single, later⟩ := Bool.and_eq_true_iff.mp unrepeated
      obtain ⟨own, others⟩ := List.forall_mem_cons.mp there
      refine merge?_cons.mpr ⟨value, ?_, ?_⟩
      · rw [own]
        exact join?_self value proper.1.2 single
      · rw [insert_of_lookup own]
        exact merge?_self rest proper.2 later others

theorem join?_self : ∀ value : Value, value.isProper = true → value.isUnrepeated = true →
    join? (some value) value = some value
  | .dict members, proper, unrepeated => by
      have keyed := Members.keyed_of_isProper proper
      simp only [join?, merge?_self members (membersAreProper_iff.mpr (isProper_dict.mp proper).2)
        unrepeated fun member held => lookup_of_mem keyed held, Option.map_some]
  | .list items, proper, unrepeated => by
      simp only [isUnrepeated, Bool.and_eq_true, decide_eq_true_eq, Bool.not_eq_true'] at unrepeated
      simp only [join?, unique?_append_self unrepeated.1 unrepeated.2 (areProper_iff.mp proper),
        Option.map_some]
  | .null, _, _ | .bool _, _, _ | .int _, _, _ | .float _, _, _ | .str _, _, _ | .decimal _, _, _
  | .primitive _, _, _ | .host _, _, _ | .pattern _, _, _ | .tuple _, _, _ | .set _, _, _ => rfl

end

/-- A fragment that repeats nothing in its lists is itself when it is joined with itself. -/
theorem merge?_self_of_unrepeated {fragment : Members} (proper : (dict fragment).isProper = true)
    (unrepeated : (dict fragment).isUnrepeated = true) :
    merge? fragment fragment = some fragment :=
  merge?_self fragment (membersAreProper_iff.mpr (isProper_dict.mp proper).2) unrepeated
    fun _ held => lookup_of_mem (Members.keyed_of_isProper proper) held

end Fragment

namespace Node

variable {o : Options} {ctx : Context} {node : Node} {fragment : Members}

/-- The fragments of proper values are proper. -/
theorem visit_isProper (values : ∀ part ∈ node.parts, part.ProperValues)
    (around : ctx.keyNotes.isProper = true) (visited : visit o ctx node = .ok fragment) :
    (dict fragment).isProper = true :=
  (proper_kept o).visit (.inr ⟨bare ctx.keyNotes, ⟨around, nofun, nofun⟩, rfl⟩) values visited

/-- On its own right, a node has the fragment that it has on the left. -/
theorem visit_rightOf_self (shaped : node.Shaped) :
    visit o (rightOf ctx node) node = visit o ctx.inner node := by
  rcases concreteType_cases shaped with none | ⟨p, own⟩
  · rw [rightOf_untyped none]
  · have typed : (concreteType node).isNull = false := by rw [own]; rfl
    rw [rightOf_typed (truthy_concreteType shaped typed), Context.ruleFor_eq,
      visit_onRightOf _ shaped typed]

/-- A node intersected with itself has the fragment that it has alone, with all members in their
order, if no list in that fragment repeats anything. -/
theorem visit_intersection_self (shaped : node.Shaped)
    (values : ∀ part ∈ node.parts, part.ProperValues) (around : ctx.keyNotes.isProper = true)
    (visited : visit o ctx node = .ok fragment)
    (unrepeated : (dict fragment).isUnrepeated = true)
    (deeper : Unbounded (visit o ctx.inner node)) :
    visit o ctx (intersection node node (.dict [])) = .ok fragment := by
  have entered : o.allow ctx.depth = .ok () := @Site.allow_of_visit o ⟨ctx, node⟩ _ visited
  have inner : visit o ctx.inner node = .ok fragment := by
    have moved := visit_atDepth o ctx (ctx.depth + 1) node (visited ▸ .ok fragment) deeper
    exact moved.symm.trans visited
  have joined :=
    Fragment.merge?_self_of_unrepeated (visit_isProper values around visited) unrepeated
  simp only [visit_intersection, entered, inner, visit_rightOf_self shaped, joined, decided, bind,
    Except.bind]
  rfl

def choiceNode (texts : List String) : Node :=
  constrained (nominal (.primitive .string) (.dict []))
    (predicate (.str "included_in?") (.list (texts.map .str)) (.dict [])) (.dict [])

theorem visit_intersection_self_choice :
    visit {} Context.root (intersection (choiceNode ["a", "b"]) (choiceNode ["a", "b"]) (.dict [])) =
      .ok (Fragment.ofKeywords
        [("type", .str "string"), ("enum", .list [.str "a", .str "b"])]) := by
  have values : ∀ part ∈ (choiceNode ["a", "b"]).parts, part.ProperValues := by
    have type : (nominal (.primitive .string) (.dict [])).ProperValues := ⟨rfl, nofun, nofun⟩
    have rule : (predicate (.str "included_in?") (.list [.str "a", .str "b"])
        (.dict [])).ProperValues := ⟨rfl, by rintro _ _ _ ⟨⟩; rfl, nofun⟩
    have whole : (choiceNode ["a", "b"]).ProperValues := ⟨rfl, nofun, nofun⟩
    simpa [choiceNode, parts, type, rule] using whole
  exact visit_intersection_self (by unfold Shaped; decide) values rfl rfl (by decide) (.ok _)

/-- What is listed twice is dropped. -/
example : visit {} Context.root
    (intersection (choiceNode ["a", "a"]) (choiceNode ["a", "a"]) (.dict [])) =
      .ok (Fragment.ofKeywords [("type", .str "string"), ("enum", .list [.str "a"])]) := rfl

end Node

end Draftsman
