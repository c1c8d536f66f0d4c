/-
# Draftsman.Proofs.Scalars -- documents of lists, dictionaries and scalars

A tree that a text gives is made of lists and dictionaries, with texts for keys, and of scalars:
null, truth values, numbers and texts (`Value.isScalar`).  Loading makes primitives of the operands
of type predicates, and nothing else that is no scalar; the readings of operands give scalars for
scalars (`reading_consists`).  So the document of such a tree is made of lists, dictionaries and
scalars again, and its keys are scalars (`compile_consists`).

Which scalars there are is left open (`Scalars`): it may be all of them, or those that are not too
long.
-/
import Draftsman.Proofs.Contents
import Draftsman.Proofs.Drafts

namespace Draftsman

set_option autoImplicit false

namespace Value

def isScalar : Value → Bool
  | null | bool _ | int _ | float _ | str _ => true
  | _ => false

/-- Whether a value is a text, and no primitive. -/
def isText : Value → Bool
  | str _ => true
  | _ => false

mutual

/-- Whether a value is made of lists and dictionaries, of keys that pass a test and of other
values that pass another. -/
def consistsOf (key leaf : Value → Bool) : Value → Bool
  | list items => eachConsistsOf key leaf items
  | dict members => membersConsistOf key leaf members
  | v => leaf v

def eachConsistsOf (key leaf : Value → Bool) : List Value → Bool
  | [] => true
  | v :: rest => consistsOf key leaf v && eachConsistsOf key leaf rest

def membersConsistOf (key leaf : Value → Bool) : List (Value × Value) → Bool
  | [] => true
  | (k, v) :: rest => key k && consistsOf key leaf v && membersConsistOf key leaf rest

end

/-- Whether a value is made of lists, dictionaries and scalars, with scalars for keys. -/
def isData (v : Value) : Bool := v.consistsOf isScalar isScalar

theorem consistsOf_hereditary (key leaf : Value → Bool) :
    Fragment.Hereditary (fun k => key k = true) fun v => v.consistsOf key leaf = true where
  list items := by
    rw [consistsOf]
    induction items with
    | nil => simp [eachConsistsOf]
    | cons item rest ih => simp [eachConsistsOf, ih]
  dict members := by
    rw [consistsOf]
    induction members with
    | nil => simp [membersConsistOf]
    | cons member rest ih => simp [membersConsistOf, ih]

theorem consistsOf_leaf {key leaf : Value → Bool} {v : Value} (single : v.isLeaf = true) :
    v.consistsOf key leaf = leaf v := by
  cases v <;> first | rfl | cases single

/-- A decoded value is made of scalars, with texts for keys. -/
theorem consistsOf_of_isDecoded {v : Value} (decoded : v.isDecoded = true) :
    v.consistsOf isText isScalar = true := by
  refine Node.decoded_hereditary.imp (consistsOf_hereditary _ _) ?_ (fun v single own => ?_) v
    decoded
  · rintro _ ⟨text, rfl⟩
    rfl
  · rw [consistsOf_leaf single]
    cases v <;> simp_all [isDecoded, isScalar, isLeaf]

end Value

open Value

/-- Scalars of some kind: all but numbers are among them, and the integer part of each of them
that has one. -/
structure Scalars (scalar : Value → Bool) : Prop where
  known : ∀ {v}, scalar v = true → v.isScalar = true
  null : scalar .null = true
  flag : ∀ b, scalar (.bool b) = true
  text : ∀ s, scalar (.str s) = true
  integer : ∀ {v n}, scalar v = true → Operand.toInteger v = .ok n → scalar (.int n) = true

theorem scalars_all : Scalars isScalar where
  known own := own
  null := rfl
  flag _ := rfl
  text _ := rfl
  integer _ _ := rfl

namespace Scalars

variable {scalar : Value → Bool}

theorem inherited (scalars : Scalars scalar) :
    Inherited (fun k => scalar k = true) fun v => v.consistsOf scalar scalar = true :=
  { consistsOf_hereditary scalar scalar with
    textKey := scalars.text, text := scalars.text, mark := scalars.flag true }

theorem loosened (scalars : Scalars scalar) {v : Value} (plain : v.consistsOf isText scalar = true) :
    v.consistsOf scalar scalar = true := by
  refine (consistsOf_hereditary _ _).imp (consistsOf_hereditary _ _) (fun key text => ?_)
    (fun v single own => ?_) v plain
  · cases key <;> first | exact scalars.text _ | cases text
  · rwa [consistsOf_leaf single] at own ⊢

/-- A key among such values is one of the scalars. -/
theorem of_isKey {v : Value} (plain : v.consistsOf isText scalar = true) (keyed : v.isKey = true) :
    scalar v = true ∧ v.consistsOf scalar scalar = true := by
  have single : v.isLeaf = true := by cases v <;> first | rfl | cases keyed
  rw [consistsOf_leaf single] at plain ⊢
  exact ⟨plain, plain⟩

/-! ## Operands -/

theorem toNumber_eq (scalars : Scalars scalar) {operand : Value}
    (plain : operand.consistsOf scalar scalar = true) :
    Operand.toNumber operand = .ok operand := by
  cases operand with
  | decimal d => cases scalars.known plain
  | _ => rfl

theorem toNumbers_eq (scalars : Scalars scalar) {items : List Value}
    (plain : ∀ item ∈ items, item.consistsOf scalar scalar = true) :
    Operand.toNumbers items = .ok items :=
  Operand.toNumbers_of_unchanged fun item held => toNumber_eq scalars (plain item held)

theorem toItems_consists (scalars : Scalars scalar) {operand : Value} {items : List Value}
    (plain : operand.consistsOf isText scalar = true) (done : Operand.toItems operand = .ok items) :
    (Value.list items).consistsOf scalar scalar = true := by
  have kept {own : List Value} (each : ∀ item ∈ own, item.consistsOf scalar scalar = true)
      (converted : Operand.toNumbers own = .ok items) :
      (Value.list items).consistsOf scalar scalar = true := by
    rw [toNumbers_eq scalars each] at converted
    exact (scalars.inherited.list _).mpr (Except.ok.inj converted ▸ each)
  cases operand with
  | str s =>
      refine kept (fun item held => ?_) done
      obtain ⟨c, -, rfl⟩ := List.mem_map.mp held
      exact scalars.text _
  | list own => exact kept ((scalars.inherited.list _).mp (scalars.loosened plain)) done
  | dict members =>
      refine kept (fun item held => ?_) done
      obtain ⟨member, there, rfl⟩ := List.mem_map.mp held
      have key : isText member.1 = true := (((consistsOf_hereditary _ _).dict _).mp plain _ there).1
      cases own : member.1 <;> first | exact scalars.text _ | (rw [own] at key; cases key)
  | null | bool _ | int _ | float _ => cases done
  | _ => cases scalars.known plain

/-- Whatever the reading, an operand becomes a list, a dictionary or a scalar. -/
theorem reading_consists (scalars : Scalars scalar) {reading : Reading} {operand v : Value}
    (plain : operand.consistsOf isText scalar = true) (applied : reading.apply operand = .ok v) :
    v.consistsOf scalar scalar = true := by
  cases reading with
  | typeName =>
      obtain rfl := Except.ok.inj applied
      cases operand.toPrimitive? with
      | none => exact scalars.null
      | some p => exact scalars.text _
  | integer =>
      obtain ⟨n, read, rfl⟩ := map_eq_ok.mp applied
      have single : operand.isLeaf = true := by cases operand <;> first | rfl | cases read
      rw [consistsOf_leaf single] at plain
      exact scalars.integer plain read
  | number =>
      have loose := scalars.loosened plain
      obtain rfl : operand = v := Except.ok.inj ((toNumber_eq scalars loose).symm.trans applied)
      exact loose
  | patternText =>
      obtain ⟨text, -, rfl⟩ := map_eq_ok.mp applied
      exact scalars.text text
  | items =>
      obtain ⟨items, done, rfl⟩ := map_eq_ok.mp applied
      exact toItems_consists scalars plain done
  | exclusion =>
      obtain ⟨items, done, rfl⟩ := map_eq_ok.mp applied
      refine (scalars.inherited.dict _).mpr (List.forall_mem_singleton.mpr ⟨scalars.text _, ?_⟩)
      exact toItems_consists scalars plain done
  | fixed text => exact Except.ok.inj applied ▸ scalars.text _

/-! ## Descriptions -/

/-- The operand of a type predicate is read as the name of a type, whatever it is. -/
theorem typeName_consists (scalars : Scalars scalar) {name operand v : Value} {c : Constraint}
    (typed : name.equal (.str "type?") = true) (listed : name.text?.bind constraint? = some c)
    (applied : c.reading.apply operand = .ok v) : v.consistsOf scalar scalar = true := by
  obtain ⟨own, text, found⟩ := Option.bind_eq_some_iff.mp listed
  rw [equal_of_text? text] at typed
  obtain rfl : "type?" = own := by simpa [Value.text?] using typed
  obtain rfl : (⟨"type", .typeName⟩ : Constraint) = c := Option.some.inj found
  obtain rfl := Except.ok.inj applied
  cases operand.toPrimitive? with
  | none => exact scalars.null
  | some p => exact scalars.text _

/-- What a node has of a tree of scalars is fit for a document of scalars. -/
theorem brings (scalars : Scalars scalar) {node : Node}
    (draws : node.DrawsOn fun v => v.consistsOf isText scalar = true) :
    node.Brings (fun k => scalar k = true) fun v => v.consistsOf scalar scalar = true where
  note {members name v} notes found := by
    obtain ⟨key, -, held⟩ := Members.mem_of_get? found
    have plain := draws.notes
    rw [notes] at plain
    exact scalars.loosened (((consistsOf_hereditary _ _).dict _).mp plain _ held).2
  operand {name operand notes c v} same listed applied := by
    rcases draws.operand same with rfl | plain | ⟨typed, -⟩
    · have plain : Value.null.consistsOf isText scalar = true := scalars.null
      exact scalars.reading_consists plain applied
    · exact scalars.reading_consists plain applied
    · exact scalars.typeName_consists typed listed applied
  fieldName same keyed := of_isKey (draws.fieldName same) keyed

/-- The document of a tree of scalars with texts for keys is made of such scalars. -/
theorem compile_consists (scalars : Scalars scalar) {o : Options} {tree : Value} {node : Node}
    {document : Members} (plain : tree.consistsOf isText scalar = true)
    (loaded : Node.load tree = .ok node) (compiled : node.compile o = .ok document) :
    (Value.dict document).consistsOf scalar scalar = true := by
  refine Node.compile_brought scalars.inherited (fun part held => scalars.brings ?_) compiled
  exact Node.drawsOn_of_part (consistsOf_hereditary _ _) plain loaded held

end Scalars

end Draftsman
