/-
# Draftsman.Proofs.Writing -- documents can be written

Writing a value stops where settling it stops, and with the same fault, whatever the layout
(`Json.fault?_writeAt`).  So a value is written exactly if it has a text (`Json.write_isOk`), and
lists, dictionaries and scalars that texts stand for have one (`Json.writable_of_short`).

The main result is `Node.compile_data`: the document of a loaded tree is made of lists,
dictionaries and scalars, and it is written if the tree was read from a text.
-/
import Draftsman.Proofs.Reading
import Draftsman.Proofs.Settling
import Mathlib

namespace Draftsman

set_option autoImplicit false

/-- Two chains fail alike if their steps do. -/
theorem fault?_bind_congr {ε α α' β β' : Type} {step : Except ε α} {step' : Except ε α'}
    {next : α → Except ε β} {next' : α' → Except ε β'} (same : fault? step = fault? step')
    (rest : ∀ value value', fault? (next value) = fault? (next' value')) :
    fault? (step >>= next) = fault? (step' >>= next') := by
  cases step with
  | ok value =>
      cases step' with
      | ok value' => exact rest value value'
      | error fault => cases same
  | error fault =>
      cases step' with
      | ok value' => cases same
      | error fault' => exact same

namespace Json

/-! ## Writing and settling -/

theorem fault?_writeAtom (v : Value) : fault? (writeAtom v) = fault? (settleAtom v) := by
  cases v with
  | int n =>
      simp only [writeAtom, writeInt, settleAtom]
      split <;> rfl
  | float x => cases x <;> rfl
  | _ => rfl

mutual

/-- A value is written unless settling it fails, and then writing fails with the same fault. -/
theorem fault?_writeAt (layout : Layout) : ∀ (v : Value) (level : Nat),
    fault? (writeAt layout level v) = fault? (settle v)
  | .list items, level | .tuple items, level =>
      fault?_bind_congr (fault?_writeItems layout items (level + 1)) fun _ _ => rfl
  | .dict members, level =>
      fault?_bind_congr (fault?_writeMembers layout members (level + 1)) fun _ _ => rfl
  | .null, _ | .bool _, _ | .int _, _ | .float _, _ | .str _, _ | .decimal _, _ | .primitive _, _
  | .host _, _ | .pattern _, _ | .set _, _ => by
      simp only [writeAt, settle, fault?_writeAtom]

theorem fault?_writeItems (layout : Layout) : ∀ (items : List Value) (level : Nat),
    fault? (writeItems layout level items) = fault? (settleItems items)
  | [], _ => rfl
  | v :: rest, level =>
      fault?_bind_congr (fault?_writeAt layout v level) fun _ _ =>
        fault?_bind_congr (fault?_writeItems layout rest level) fun _ _ => rfl

theorem fault?_writeMembers (layout : Layout) : ∀ (members : List (Value × Value)) (level : Nat),
    fault? (writeMembers layout level members) = fault? (settleMembers members)
  | [], _ => rfl
  | (_, v) :: rest, level =>
      fault?_bind_congr rfl fun _ _ =>
        fault?_bind_congr (fault?_writeAt layout v level) fun _ _ =>
          fault?_bind_congr (fault?_writeMembers layout rest level) fun _ _ => rfl

end

/-- A value is written exactly if it has a text. -/
theorem write_isOk {layout : Layout} {v : Value} :
    (∃ text, write layout v = .ok text) ↔ Writable v := by
  rw [← fault?_eq_none, write, fault?_writeAt, fault?_eq_none, Writable]

/-! ## Values that were read -/

theorem writeInt_short {n : Int} (short : Numeral.tooLong n = false) :
    writeInt n = .ok (toString n) := by
  rw [writeInt, short, if_neg Bool.false_ne_true]

/-- What is made of scalars that texts stand for can be written. -/
theorem writable_of_short {v : Value} (short : v.consistsOf Value.isShort Value.isShort = true) :
    Writable v := by
  refine (Value.consistsOf_hereditary _ _).imp writable_hereditary (fun key own => ?_)
    (fun v single own => ?_) v short
  · cases key with
    | int n => exact ⟨_, writeInt_short ((Bool.not_eq_true' _).mp own)⟩
    | null | bool _ | float _ | str _ => exact ⟨_, rfl⟩
    | _ => cases own
  · rw [Value.consistsOf_leaf single] at own
    cases v with
    | int n =>
        have fits : Numeral.tooLong n = false := (Bool.not_eq_true' _).mp own
        exact ⟨.int n, by simp only [settle, settleAtom, fits, Bool.false_eq_true, if_false]⟩
    | float x => cases x <;> exact ⟨_, rfl⟩
    | null | bool _ | str _ => exact ⟨_, rfl⟩
    | _ => cases own

end Json

namespace Node

/-- The document of a loaded tree is made of lists, dictionaries and scalars, with scalars for
keys.  If the tree was read from a text, the document can be written. -/
theorem compile_data {o : Options} {tree : Value} {node : Node} {document : Members}
    (decoded : tree.isDecoded = true) (loaded : load tree = .ok node)
    (compiled : node.compile o = .ok document) :
    (Value.dict document).isData = true ∧
      ∀ text, Json.read text = .ok tree →
        ∀ layout, ∃ written, Json.write layout (.dict document) = .ok written := by
  constructor
  · exact scalars_all.compile_consists (Value.consistsOf_of_isDecoded decoded) loaded compiled
  · intro text read layout
    have short := scalars_short.compile_consists (Json.isRead_of_read read) loaded compiled
    exact Json.write_isOk.mpr (Json.writable_of_short short)

/-- A field set as text: one field without a text for a name, and an enumeration that has what is
no number. -/
def seatText : String :=
  "\x7b\"kind\": \"schema\", \"keys\": [\x7b\"kind\": \"key\", \"name\": null, \"type\": " ++
    "\x7b\"kind\": \"predicate\", \"name\": \"included_in?\", \"operand\": [true, NaN]\x7d\x7d]\x7d"

/-- What the text is read as. -/
def seatTree : Value :=
  .dict (Members.named [("kind", .str "schema"), ("keys", .list [
    .dict (Members.named [("kind", .str "key"), ("name", .null), ("type",
      .dict (Members.named [("kind", .str "predicate"), ("name", .str "included_in?"),
        ("operand", .list [.bool true, .float (.nan 0)])]))])])])

theorem compile_data_seat :
    ∃ node document, load seatTree = .ok node ∧ node.compile {} = .ok document ∧
      Members.get? "required" document = some (.list [.null]) ∧
      (Value.dict document).isData = true ∧ Json.read seatText = .ok seatTree ∧
      ∀ layout, ∃ written, Json.write layout (.dict document) = .ok written := by
  obtain ⟨node, loaded, document, compiled, required⟩ :
      ∃ node, load seatTree = .ok node ∧ ∃ document, node.compile {} = .ok document ∧
        Members.get? "required" document = some (.list [.null]) := ⟨_, rfl, _, rfl, rfl⟩
  have read : Json.read seatText = .ok seatTree := by cbv
  have data := compile_data (by decide) loaded compiled
  exact ⟨node, document, loaded, compiled, required, data.1, read, data.2 seatText read⟩

end Node

end Draftsman
