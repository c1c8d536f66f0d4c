/-
# Draftsman.Proofs.Spelling -- the spellings of a primitive

A primitive may be written as itself, by its name or as a class of the host; `toPrimitive?`
says what a spelling stands for.  `Node.spelledOut` writes all of them out: those of types
and those that predicates have for operands.

Spellings do not matter but for one: a rule is one for lists where the primitive of lists
itself is on its left, and no other spelling of it makes it so.  `Node.spelledOutButLists`
leaves that difference.

* `compile_eq_of_spelling`: descriptions that differ in spellings only, and agree in where
  the primitive of lists is spelled by itself on the left of a rule, have the same outcome;
* `compile_list_respelled`: two descriptions that differ in that have not.
-/
import Draftsman.Proofs.Rewording

namespace Draftsman

set_option autoImplicit false

namespace Value

/-- The primitive that a value stands for; other values stay. -/
def spelledOut (v : Value) : Value := (v.toPrimitive?.map primitive).getD v

/-- The same on the left of a rule.  Lists that are not spelled by their primitive keep a
spelling of their own. -/
def spelledOutLeft : Value → Value
  | primitive p => primitive p
  | v => if v.toPrimitive? = some .list then str Primitive.list.name else v.spelledOut

theorem spelledOut_of_some {v : Value} {p : Primitive} (stands : v.toPrimitive? = some p) :
    v.spelledOut = primitive p := by
  rw [spelledOut, stands]
  rfl

theorem spelledOut_of_none {v : Value} (stands : v.toPrimitive? = none) : v.spelledOut = v := by
  rw [spelledOut, stands]
  rfl

theorem toPrimitive?_spelledOut (v : Value) : v.spelledOut.toPrimitive? = v.toPrimitive? := by
  cases stands : v.toPrimitive? with
  | none => rw [spelledOut_of_none stands, stands]
  | some p => rw [spelledOut_of_some stands, toPrimitive?]

/-- What stands for a primitive is true. -/
theorem truthy_of_toPrimitive? {v : Value} {p : Primitive} (stands : v.toPrimitive? = some p) :
    v.truthy = true := by
  cases v with
  | str text =>
      obtain rfl : p.name = text := Primitive.name_of_ofName? stands
      cases p <;> rfl
  | primitive _ | host _ => rfl
  | _ => cases stands

theorem truthy_spelledOut (v : Value) : v.spelledOut.truthy = v.truthy := by
  cases stands : v.toPrimitive? with
  | none => rw [spelledOut_of_none stands]
  | some p => rw [spelledOut_of_some stands, truthy_of_toPrimitive? stands, truthy]

/-- The three ways in which a primitive is spelled on the left of a rule. -/
theorem spelledOutLeft_cases (v : Value) :
    (∃ p, v = primitive p ∧ v.spelledOutLeft = v) ∨
      (v.toPrimitive? = some .list ∧ v.spelledOutLeft = str Primitive.list.name) ∨
      (v.toPrimitive? ≠ some .list ∧ v.spelledOutLeft = v.spelledOut) := by
  unfold spelledOutLeft
  split
  · exact .inl ⟨_, rfl, rfl⟩
  · split
    · exact .inr (.inl ⟨‹_›, rfl⟩)
    · exact .inr (.inr ⟨‹_›, rfl⟩)

theorem toPrimitive?_spelledOutLeft (v : Value) :
    v.spelledOutLeft.toPrimitive? = v.toPrimitive? := by
  rcases spelledOutLeft_cases v with ⟨-, -, same⟩ | ⟨list, same⟩ | ⟨-, same⟩
  · rw [same]
  · rw [same, list]
    exact Primitive.ofName?_name .list
  · rw [same, toPrimitive?_spelledOut]

theorem truthy_spelledOutLeft (v : Value) : v.spelledOutLeft.truthy = v.truthy := by
  rcases spelledOutLeft_cases v with ⟨-, -, same⟩ | ⟨list, same⟩ | ⟨-, same⟩
  · rw [same]
  · rw [same, truthy_of_toPrimitive? list]
    rfl
  · rw [same, truthy_spelledOut]

/-- The primitive of lists is spelled by itself before and after. -/
theorem spelledOutLeft_eq_list {v : Value} :
    v.spelledOutLeft = primitive .list ↔ v = primitive .list := by
  constructor
  · intro spelled
    rcases spelledOutLeft_cases v with ⟨p, -, same⟩ | ⟨-, same⟩ | ⟨other, same⟩
    · rw [← same, spelled]
    · cases same.symm.trans spelled
    · have stands := toPrimitive?_spelledOut v
      rw [← same, spelled] at stands
      exact absurd stands.symm other
  · rintro rfl
    rfl

end Value

namespace Node

/-- What is on the left of a rule matters only as the primitive of lists or not. -/
theorem lookupName_congr {left right : Value}
    (alike : left = .primitive .list ↔ right = .primitive .list) (name : Value) :
    lookupName left name = lookupName right name := by
  by_cases list : left = .primitive .list
  · rw [list, alike.mp list]
  · have other := mt alike.mpr list
    have plain {v : Value} (none : v ≠ .primitive .list) : lookupName v name = name.text? := by
      unfold lookupName
      split
      · exact absurd rfl none
      · rfl
    rw [plain list, plain other]

/-- A predicate by which types are given reads its operand as a primitive. -/
theorem constraint_type {left name : Value} (text : name.text? = some "type?") :
    (lookupName left name).bind constraint? = some ⟨"type", .typeName⟩ := by
  unfold lookupName
  split
  · rw [text]
    rfl
  · rw [text]
    rfl

/-- Primitives spelled out, those on the left of a rule in a way of their own. -/
def spelling (onLeft : Value → Value) : Rewording where
  primitive position v :=
    match position with
    | .left => onLeft v
    | _ => v.spelledOut
  operand name v := if name.text? = some "type?" then v.spelledOut else v

/-- A description with all primitives spelled out. -/
def spelledOut : Node → Node := reword (spelling Value.spelledOut) .other

/-- A description with all primitives spelled out but that of lists on the left of a rule. -/
def spelledOutButLists : Node → Node := reword (spelling Value.spelledOutLeft) .other

/-- Predicates read spelled-out operands as they read the others. -/
theorem predicateFragment_spelling (o : Options) (left name operand : Value) :
    predicateFragment o left.spelledOutLeft name
        ((spelling Value.spelledOutLeft).operand name operand) =
      predicateFragment o left name operand := by
  have looked := lookupName_congr (Value.spelledOutLeft_eq_list (v := left)) name
  by_cases text : name.text? = some "type?"
  · have read : Reading.typeName.apply operand.spelledOut = Reading.typeName.apply operand := by
      simp only [Reading.apply, Value.toPrimitive?_spelledOut]
    simp only [predicateFragment, looked, spelling, if_pos text, constraint_type text, read]
  · simp only [predicateFragment, looked, spelling, if_neg text]

theorem typeMembers?_congr {v w : Value} (same : v.toPrimitive? = w.toPrimitive?) :
    typeMembers? v = typeMembers? w := by
  rw [typeMembers?, typeMembers?, same]

theorem spelling_faithful : (spelling Value.spelledOutLeft).Faithful where
  entry position v := by
    cases position with
    | left => exact typeMembers?_congr (Value.toPrimitive?_spelledOutLeft v)
    | _ => exact typeMembers?_congr (Value.toPrimitive?_spelledOut v)
  left_null := rfl
  left_primitive _ := rfl
  left_truthy := Value.truthy_spelledOutLeft
  standsFor name operand := by
    simp only [spelling]
    split
    · exact Value.toPrimitive?_spelledOut operand
    · rfl
  predicate := predicateFragment_spelling
  title _ := rfl
  root := rfl
  notes := SameRemarks.refl
  unionNotes _ := SameRemarks.refl
  among_truthy _ := rfl

/-- The spelling of a primitive does not matter, save that of lists on the left of a rule. -/
theorem compile_eq_of_spelling (o : Options) {one other : Node}
    (same : one.spelledOutButLists = other.spelledOutButLists) :
    one.compile o = other.compile o := by
  have spelled (node : Node) : node.spelledOutButLists.compile o = node.compile o :=
    compile_reword spelling_faithful o node
  rw [← spelled one, ← spelled other, same]

def shelfNode (list text number : Value) : Node :=
  schema (.nodes [
    key (.str "labels") (constrained (nominal list (.dict []))
      (predicate (.str "min_size?") (.int 1) (.dict [])) (.dict [])) (.bool true) (.dict []),
    key (.str "code") (constrained (nominal text (.dict []))
      (predicate (.str "max_size?") (.int 8) (.dict [])) (.dict [])) (.bool true) (.dict []),
    key (.str "weight") (intersection (predicate (.str "type?") number (.dict []))
      (predicate (.str "gteq?") (.int 0) (.dict [])) (.dict [])) (.bool false) (.dict [])])
    (.dict [])

theorem compile_eq_of_spelling_shelf :
    (shelfNode (.str "list") (.str "string") (.primitive .decimal)).spelledOutButLists =
        (shelfNode (.host .list) (.primitive .string) (.host .decimal)).spelledOutButLists ∧
      (shelfNode (.str "list") (.str "string") (.primitive .decimal)).compile {} =
        (shelfNode (.host .list) (.primitive .string) (.host .decimal)).compile {} :=
  ⟨rfl, compile_eq_of_spelling {} rfl⟩

def crateNode (list : Value) : Node :=
  constrained (nominal list (.dict [])) (predicate (.str "min_size?") (.int 1) (.dict []))
    (.dict [])

/-- The class of lists and the primitive are two spellings of one primitive, but the rule
beside the class is one for texts. -/
theorem compile_list_respelled :
    (crateNode (.host .list)).spelledOut = (crateNode (.primitive .list)).spelledOut ∧
      (crateNode (.host .list)).compile {} =
        .ok (Members.named [("type", .str "array"), ("minLength", .int 1)]) ∧
      (crateNode (.primitive .list)).compile {} =
        .ok (Members.named [("type", .str "array"), ("minItems", .int 1)]) :=
  ⟨rfl, rfl, rfl⟩

end Node

end Draftsman
