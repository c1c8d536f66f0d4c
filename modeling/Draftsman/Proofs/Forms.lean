/-
# Draftsman.Proofs.Forms -- values without a JSON form, wherever they stand

A value has a JSON text exactly if everything in it has a form of its own: an item of a collection,
the value of a member, an item of an item (`writable_iff`).  So a document with a decimal or a set
anywhere in it is refused before a keyword is looked at.

A tuple does have a form, that of a list.  It is not told from one: a document is judged as the one
with lists in place of its tuples (`settle_untupled`).
-/
import Draftsman.Draft06
import Draftsman.Proofs.Settling

namespace Draftsman

set_option autoImplicit false

namespace Value

/-! ## Values in values -/

/-- The values that stand directly in a value: the items of a collection, and the values of the
members of a dictionary. -/
def contents : Value → List Value
  | list items | tuple items | set items => items
  | dict members => members.map Prod.snd
  | _ => []

/-- A value stands in another at some depth. -/
inductive Within (part : Value) : Value → Prop where
  | here : Within part part
  | deeper {whole item : Value} (held : item ∈ whole.contents) (below : Within part item) :
      Within part whole

theorem sizeOf_lt_of_mem_contents {v item : Value} (held : item ∈ v.contents) :
    sizeOf item < sizeOf v := by
  cases v with
  | list items | tuple items | set items =>
      have := List.sizeOf_lt_of_mem (show item ∈ items from held)
      simp only [list.sizeOf_spec, tuple.sizeOf_spec, set.sizeOf_spec]
      omega
  | dict members =>
      obtain ⟨⟨key, value⟩, there, rfl⟩ := List.mem_map.mp held
      have := List.sizeOf_lt_of_mem there
      simp only [dict.sizeOf_spec, Prod.mk.sizeOf_spec] at this ⊢
      omega
  | _ => cases held

/-- Whether a value has a JSON form by itself, whatever is in it: a scalar of a text, a list or a
tuple, or a dictionary whose keys become texts. -/
def hasForm : Value → Bool
  | null | bool _ | float _ | str _ | primitive _ | list _ | tuple _ => true
  | int n => !Numeral.tooLong n
  | dict members => members.all fun member => (Json.keyText member.1).isOk
  | decimal _ | host _ | pattern _ | set _ => false

def isSetOrDecimal : Value → Bool
  | set _ | decimal _ => true
  | _ => false

mutual

/-- A value with lists in place of the tuples in it. -/
def untupled : Value → Value
  | list items | tuple items => list (untupledItems items)
  | dict members => dict (untupledMembers members)
  | v => v

def untupledItems : List Value → List Value
  | [] => []
  | v :: rest => untupled v :: untupledItems rest

def untupledMembers : List (Value × Value) → List (Value × Value)
  | [] => []
  | (k, v) :: rest => (k, untupled v) :: untupledMembers rest

end

end Value

namespace Json

open Value

/-! ## Forms -/

theorem settle_tuple (items : List Value) : settle (.tuple items) = settle (.list items) := by
  simp only [settle]

theorem keyText_isOk {key : Value} :
    (keyText key).isOk = true ↔ ∃ name, keyText key = .ok name := by
  cases keyText key <;> simp [Except.isOk, Except.toBool]

theorem hasForm_of_writable {v : Value} (writable : Writable v) : v.hasForm = true := by
  cases v with
  | dict members =>
      refine List.all_eq_true.mpr fun member held => ?_
      exact keyText_isOk.mpr (writable_dict.mp writable member held).1
  | int n =>
      obtain ⟨settled, done⟩ := writable
      cases fits : Numeral.tooLong n with
      | true => simp [settle, settleAtom, fits] at done
      | false => simp [hasForm, fits]
  | decimal _ | host _ | pattern _ | set _ =>
      obtain ⟨settled, done⟩ := writable
      cases done
  | _ => rfl

theorem writable_of_mem_contents {v item : Value} (writable : Writable v)
    (held : item ∈ v.contents) : Writable item := by
  cases v with
  | list items => exact writable_list.mp writable item held
  | tuple items =>
      rw [Writable, settle_tuple] at writable
      exact writable_list.mp writable item held
  | dict members =>
      obtain ⟨member, there, rfl⟩ := List.mem_map.mp held
      exact (writable_dict.mp writable member there).2
  | set items =>
      obtain ⟨settled, done⟩ := writable
      cases done
  | _ => cases held

theorem writable_of_contents {v : Value} (form : v.hasForm = true)
    (each : ∀ item ∈ v.contents, Writable item) : Writable v := by
  cases v with
  | list items => exact writable_list.mpr each
  | tuple items =>
      rw [Writable, settle_tuple]
      exact writable_list.mpr each
  | dict members =>
      refine writable_dict.mpr fun member held => ⟨?_, each _ (List.mem_map_of_mem held)⟩
      exact keyText_isOk.mp (List.all_eq_true.mp form member held)
  | int n => exact ⟨.int n, by simp_all [hasForm, settle, settleAtom]⟩
  | float x => cases x <;> exact ⟨_, rfl⟩
  | null | bool _ | str _ | primitive _ => exact ⟨_, rfl⟩
  | _ => cases form

/-- A value has a JSON text exactly if everything in it has a form. -/
theorem writable_iff {v : Value} :
    Writable v ↔ ∀ part : Value, part.Within v → part.hasForm = true := by
  constructor
  · intro writable part within
    induction within with
    | here => exact hasForm_of_writable writable
    | deeper held below ih => exact ih (writable_of_mem_contents writable held)
  · intro forms
    -- the items of a value stand in it, and so does what stands in them
    exact writable_of_contents (forms v .here) fun item held =>
      writable_iff.mpr fun part within => forms part (.deeper held within)
termination_by sizeOf v
decreasing_by exact sizeOf_lt_of_mem_contents held

/-! ## Tuples -/

mutual

/-- A value reads back as the one with lists in place of its tuples. -/
theorem settle_untupled : ∀ v : Value, settle v.untupled = settle v
  | .list items | .tuple items => by
      simp only [untupled, settle, settleItems_untupled items]
  | .dict members => by simp only [untupled, settle, settleMembers_untupled members]
  | .null | .bool _ | .int _ | .float _ | .str _ | .decimal _ | .primitive _ | .host _ | .pattern _
  | .set _ => rfl

theorem settleItems_untupled : ∀ items : List Value,
    settleItems (untupledItems items) = settleItems items
  | [] => rfl
  | v :: rest => by
      simp only [untupledItems, settleItems, settle_untupled v, settleItems_untupled rest]

theorem settleMembers_untupled : ∀ members : List (Value × Value),
    settleMembers (untupledMembers members) = settleMembers members
  | [] => rfl
  | (key, v) :: rest => by
      simp only [untupledMembers, settleMembers, settle_untupled v, settleMembers_untupled rest]

end

end Json

namespace Draft06

open Value

theorem check_of_not_writable {document : Value} (unwritable : ¬Json.Writable document) :
    ∃ reason, check document = .error (.unwritable reason) := by
  cases settled : Json.settle document with
  | ok value => exact absurd ⟨value, settled⟩ unwritable
  | error reason => exact ⟨reason, by rw [check, settled]⟩

/-- A document with a set or a decimal at any depth is refused, as one without a JSON text; one with
tuples is judged as that with lists in their places. -/
theorem check_formless (document : Value) :
    (∀ part : Value, part.Within document → part.isSetOrDecimal = true →
      ∃ reason, check document = .error (.unwritable reason) ∧
        (Fault.unwritable reason).failure.kind = .invalidDocument) ∧
      check document.untupled = check document := by
  constructor
  · intro part within unfit
    have unwritable : ¬Json.Writable document := fun writable => by
      have form := Json.writable_iff.mp writable part within
      cases part <;> simp [isSetOrDecimal, hasForm] at unfit form
    obtain ⟨reason, refused⟩ := check_of_not_writable unwritable
    exact ⟨reason, refused, rfl⟩
  · rw [check, check, Json.settle_untupled]

def pricesEntry : Value :=
  .dict (Members.named [("enum", .list [.tuple [.str "tea", .decimal (.finite false 15 (-1))]])])

theorem check_formless_prices :
    (∃ reason, check pricesEntry = .error (.unwritable reason) ∧
      (Fault.unwritable reason).failure.kind = .invalidDocument) ∧
      check pricesEntry.untupled = check pricesEntry := by
  have within : (Value.decimal (.finite false 15 (-1))).Within pricesEntry :=
    .deeper List.mem_cons_self (.deeper List.mem_cons_self
      (.deeper (List.mem_cons_of_mem _ List.mem_cons_self) .here))
  exact ⟨(check_formless pricesEntry).1 _ within rfl, (check_formless pricesEntry).2⟩

/-- A tuple is let through. -/
theorem check_tuple :
    let document := Value.dict (Members.named [("enum", .tuple [.int 1])])
    (Value.tuple [.int 1]).Within document ∧ check document = .ok () :=
  ⟨.deeper List.mem_cons_self .here, by decide +kernel⟩

end Draft06

end Draftsman
