/-
# Draftsman.Proofs.Settling -- which values have a JSON text

A value has a JSON text exactly if its contents have one and its keys are texts or
become texts (`writable_list`, `writable_dict`); so joining fragments keeps it
(`writable_hereditary`).  Every JSON value has one (`writable_of_isJson`).

What a dictionary with names for keys settles to has the same names, in the same order
(`settleMembers_named`).  What a value settles to settles to itself (`settle_settled`).
-/
import Draftsman.Json.Writer
import Draftsman.Proofs.Joining
import Draftsman.Proofs.Steps

namespace Draftsman

set_option autoImplicit false

namespace Value

mutual

/-- Whether a value is one that a JSON text can stand for: no number of it is too long or
none at all, and its keys are texts. -/
def isJson : Value → Bool
  | null | bool _ | str _ | float (.finite _ _ _) => true
  | int n => !Numeral.tooLong n
  | list items => areJson items
  | dict members => membersAreJson members
  | _ => false

def areJson : List Value → Bool
  | [] => true
  | v :: rest => isJson v && areJson rest

def membersAreJson : List (Value × Value) → Bool
  | [] => true
  | (.str _, v) :: rest => isJson v && membersAreJson rest
  | _ :: _ => false

end

theorem areJson_iff {items : List Value} :
    areJson items = true ↔ ∀ item ∈ items, item.isJson = true := by
  induction items with
  | nil => simp [areJson]
  | cons item rest ih => simp [areJson, ih]

end Value

namespace Json

/-- A value that has a JSON text. -/
def Writable (v : Value) : Prop := ∃ settled, settle v = .ok settled

theorem keyText_of_text? {key : Value} {name : String} (text : key.text? = some name) :
    keyText key = .ok name := by
  cases key <;> simp_all [Value.text?, keyText]

/-! ## Items -/

/-- Items that settle each settle together. -/
theorem settleItems_each {P : Value → Prop} {items : List Value}
    (each : ∀ item ∈ items, ∃ settled, settle item = .ok settled ∧ P settled) :
    ∃ all, settleItems items = .ok all ∧ all.length = items.length ∧ ∀ s ∈ all, P s := by
  induction items with
  | nil => exact ⟨[], rfl, rfl, by simp⟩
  | cons item rest ih =>
      obtain ⟨⟨first, own, fits⟩, others⟩ := List.forall_mem_cons.mp each
      obtain ⟨all, settled, length, fit⟩ := ih others
      refine ⟨first :: all, ?_, by simp [length], List.forall_mem_cons.mpr ⟨fits, fit⟩⟩
      simp [settleItems, own, settled, bind, Except.bind, pure, Except.pure]

theorem writable_of_settleItems {items all : List Value} (settled : settleItems items = .ok all) :
    ∀ item ∈ items, Writable item := by
  induction items generalizing all with
  | nil => simp
  | cons item rest ih =>
      simp only [settleItems, bind_eq_ok] at settled
      obtain ⟨first, own, others, later, -⟩ := settled
      exact List.forall_mem_cons.mpr ⟨⟨first, own⟩, ih later⟩

theorem writable_list {items : List Value} :
    Writable (.list items) ↔ ∀ item ∈ items, Writable item := by
  constructor
  · rintro ⟨settled, whole⟩
    simp only [settle, bind_eq_ok] at whole
    obtain ⟨all, each, -⟩ := whole
    exact writable_of_settleItems each
  · intro each
    obtain ⟨all, settled, -⟩ := settleItems_each (P := fun _ => True)
      fun item held => (each item held).imp fun _ own => ⟨own, trivial⟩
    exact ⟨.list all, by simp [settle, settled, bind, Except.bind, pure, Except.pure]⟩

/-- Texts settle to themselves. -/
theorem settleItems_texts {items : List Value} (texts : ∀ item ∈ items, item.text?.isSome = true) :
    settleItems items = .ok ((items.filterMap Value.text?).map Value.str) := by
  induction items with
  | nil => rfl
  | cons item rest ih =>
      obtain ⟨own, others⟩ := List.forall_mem_cons.mp texts
      obtain ⟨text, found⟩ := Option.isSome_iff_exists.mp own
      have first : settle item = .ok (.str text) := by
        cases item <;> simp_all [Value.text?, settle, settleAtom]
      simp [settleItems, first, ih others, found, bind, Except.bind, pure, Except.pure]

/-! ## Members -/

/-- Members with names for keys that settle each settle together, under the same names. -/
theorem settleMembers_named {P : String → Value → Prop} {members : Members}
    (each : ∀ member ∈ members, ∃ name, member.1.text? = some name ∧
      ∃ settled, settle member.2 = .ok settled ∧ P name settled) :
    ∃ all, settleMembers members = .ok all ∧ Members.names all = members.names ∧
      ∀ member ∈ all, ∃ name, member.1 = .str name ∧ P name member.2 := by
  induction members with
  | nil => exact ⟨[], rfl, rfl, by simp⟩
  | cons member rest ih =>
      obtain ⟨⟨name, text, first, own, fits⟩, others⟩ := List.forall_mem_cons.mp each
      obtain ⟨all, settled, names, fit⟩ := ih others
      refine ⟨(.str name, first) :: all, ?_, ?_, List.forall_mem_cons.mpr ⟨⟨name, rfl, fits⟩, fit⟩⟩
      · simp [settleMembers, keyText_of_text? text, own, settled, bind, Except.bind, pure,
          Except.pure]
      · rw [Members.names_cons_of_text text, Members.names_cons_of_text rfl, names]

/-- A dictionary with names for keys settles to one with these names. -/
theorem settle_named {P : String → Value → Prop} {members : Members} (named : members.Named)
    (each : ∀ member ∈ members, ∀ name, member.1.text? = some name →
      ∃ settled, settle member.2 = .ok settled ∧ P name settled) :
    ∃ all, settle (.dict members) = .ok (.dict all) ∧
      ∀ member ∈ all, ∃ name, member.1 = .str name ∧ P name member.2 := by
  obtain ⟨all, settled, names, fit⟩ := settleMembers_named (P := P) fun member held => by
    obtain ⟨name, text⟩ := Option.isSome_iff_exists.mp (named.texts member held)
    exact ⟨name, text, each member held name text⟩
  have allNamed : Members.Named all :=
    ⟨fun member held => by obtain ⟨name, key, -⟩ := fit member held; rw [key]; rfl,
      names ▸ named.distinct⟩
  refine ⟨all, ?_, fit⟩
  simp [settle, settled, Members.ofList_of_named allNamed, bind, Except.bind, pure, Except.pure]

theorem writable_of_settleMembers {members all : Members}
    (settled : settleMembers members = .ok all) :
    ∀ member ∈ members, (∃ name, keyText member.1 = .ok name) ∧ Writable member.2 := by
  induction members generalizing all with
  | nil => simp
  | cons member rest ih =>
      simp only [settleMembers, bind_eq_ok] at settled
      obtain ⟨name, key, first, own, others, later, -⟩ := settled
      exact List.forall_mem_cons.mpr ⟨⟨⟨name, key⟩, first, own⟩, ih later⟩

theorem settleMembers_of_writable {members : Members}
    (each : ∀ member ∈ members, (∃ name, keyText member.1 = .ok name) ∧ Writable member.2) :
    ∃ all, settleMembers members = .ok all := by
  induction members with
  | nil => exact ⟨[], rfl⟩
  | cons member rest ih =>
      obtain ⟨⟨⟨name, key⟩, first, own⟩, others⟩ := List.forall_mem_cons.mp each
      obtain ⟨all, settled⟩ := ih others
      exact ⟨(.str name, first) :: all,
        by simp [settleMembers, key, own, settled, bind, Except.bind, pure, Except.pure]⟩

theorem writable_dict {members : Members} :
    Writable (.dict members) ↔
      ∀ member ∈ members, (∃ name, keyText member.1 = .ok name) ∧ Writable member.2 := by
  constructor
  · rintro ⟨settled, whole⟩
    simp only [settle, bind_eq_ok] at whole
    obtain ⟨all, each, -⟩ := whole
    exact writable_of_settleMembers each
  · intro each
    obtain ⟨all, settled⟩ := settleMembers_of_writable each
    exact ⟨.dict (Members.ofList all),
      by simp [settle, settled, bind, Except.bind, pure, Except.pure]⟩

theorem writable_hereditary :
    Fragment.Hereditary (fun key => ∃ name, keyText key = .ok name) Writable where
  list _ := writable_list
  dict _ := writable_dict

/-! ## JSON values -/

mutual

theorem writable_of_isJson : ∀ v : Value, v.isJson = true → Writable v
  | .null => fun _ => ⟨.null, rfl⟩
  | .bool b => fun _ => ⟨.bool b, rfl⟩
  | .str s => fun _ => ⟨.str s, rfl⟩
  | .int n => fun json => by
      have short : Numeral.tooLong n = false := by
        simpa only [Value.isJson, Bool.not_eq_true'] using json
      exact ⟨.int n, by simp only [settle, settleAtom, short, Bool.false_eq_true, if_false]⟩
  | .float x => fun json => by
      cases x with
      | finite negative m q => exact ⟨.float (.finite negative m q), rfl⟩
      | _ => simp only [Value.isJson, Bool.false_eq_true] at json
  | .list items => fun json => by
      rw [Value.isJson] at json
      exact writable_list.mpr (writable_of_areJson items json)
  | .dict members => fun json => by
      rw [Value.isJson] at json
      exact writable_dict.mpr (writable_of_membersAreJson members json)
  | .decimal _ | .primitive _ | .host _ | .pattern _ | .tuple _ | .set _ => fun json => by
      simp only [Value.isJson, Bool.false_eq_true] at json

theorem writable_of_areJson : ∀ (items : List Value), Value.areJson items = true →
    ∀ item ∈ items, Writable item
  | [], _ => by simp
  | item :: rest, json => by
      rw [Value.areJson, Bool.and_eq_true] at json
      exact List.forall_mem_cons.mpr
        ⟨writable_of_isJson item json.1, writable_of_areJson rest json.2⟩

theorem writable_of_membersAreJson : ∀ (members : List (Value × Value)),
    Value.membersAreJson members = true →
    ∀ member ∈ members, (∃ name, keyText member.1 = .ok name) ∧ Writable member.2
  | [], _ => by simp
  | (key, v) :: rest, json => by
      cases key with
      | str name =>
          rw [Value.membersAreJson, Bool.and_eq_true] at json
          exact List.forall_mem_cons.mpr
            ⟨⟨⟨name, rfl⟩, writable_of_isJson v json.1⟩, writable_of_membersAreJson rest json.2⟩
      | _ => simp only [Value.membersAreJson, Bool.false_eq_true] at json

end

/-! ## Values that have settled -/

/-- Whether the members of a dictionary have settled: the keys are different texts, and each value
settles to itself. -/
structure SettledMembers (members : Members) : Prop where
  named : members.Named
  texts : ∀ member ∈ members, ∃ name, member.1 = .str name
  values : ∀ member ∈ members, settle member.2 = .ok member.2

theorem SettledMembers.settle_eq {members : Members} (settled : SettledMembers members) :
    settle (.dict members) = .ok (.dict members) := by
  have whole : ∀ {some : Members}, (∀ member ∈ some, ∃ name, member.1 = .str name) →
      (∀ member ∈ some, settle member.2 = .ok member.2) → settleMembers some = .ok some := by
    intro some
    induction some with
    | nil => exact fun _ _ => rfl
    | cons member rest ih =>
        intro texts values
        obtain ⟨⟨name, key⟩, otherTexts⟩ := List.forall_mem_cons.mp texts
        obtain ⟨own, others⟩ := List.forall_mem_cons.mp values
        obtain ⟨k, v⟩ := member
        obtain rfl : k = .str name := key
        simp only [settleMembers, keyText, own, ih otherTexts others, bind, Except.bind, pure,
          Except.pure]
  simp only [settle, whole settled.texts settled.values, Members.ofList_of_named settled.named,
    bind, Except.bind, pure, Except.pure]

theorem SettledMembers.insert {members : Members} (settled : SettledMembers members) (name : String)
    {value : Value} (own : settle value = .ok value) :
    SettledMembers (Members.insert (.str name) value members) where
  named := settled.named.insert rfl value
  texts member held := by
    rcases Members.mem_insert held with old | ⟨-, same | ⟨old, there, same⟩⟩
    · exact settled.texts member old
    · exact ⟨name, same⟩
    · exact same ▸ settled.texts old there
  values member held := by
    rcases Members.mem_insert held with old | ⟨same, -⟩
    · exact settled.values member old
    · rw [same]
      exact own

theorem SettledMembers.update {others members : Members} (settled : SettledMembers members)
    (texts : ∀ member ∈ others, ∃ name, member.1 = .str name)
    (values : ∀ member ∈ others, settle member.2 = .ok member.2) :
    SettledMembers (Members.update members others) := by
  induction others generalizing members with
  | nil => exact settled
  | cons member rest ih =>
      obtain ⟨⟨name, key⟩, otherTexts⟩ := List.forall_mem_cons.mp texts
      obtain ⟨own, otherValues⟩ := List.forall_mem_cons.mp values
      obtain ⟨k, v⟩ := member
      obtain rfl : k = .str name := key
      exact ih (settled.insert name own) otherTexts otherValues

mutual

/-- What a value settles to settles to itself. -/
theorem settle_settled : ∀ (v : Value) {settled : Value}, settle v = .ok settled →
    settle settled = .ok settled
  | .list items | .tuple items => fun done => by
      obtain ⟨all, each, done⟩ := bind_eq_ok.mp done
      obtain rfl := Except.ok.inj done
      simp only [settle, settleItems_settled items each, bind, Except.bind, pure, Except.pure]
  | .dict members => fun done => by
      obtain ⟨all, each, done⟩ := bind_eq_ok.mp done
      obtain rfl := Except.ok.inj done
      have start : SettledMembers [] := ⟨.nil, by simp, by simp⟩
      obtain ⟨texts, values⟩ := settleMembers_settled members each
      exact (start.update texts values).settle_eq
  | .int n => fun done => by
      simp only [settle, settleAtom] at done
      cases fits : Numeral.tooLong n with
      | true =>
          rw [fits, if_pos rfl] at done
          cases done
      | false =>
          rw [fits, if_neg Bool.false_ne_true] at done
          obtain rfl := Except.ok.inj done
          simp only [settle, settleAtom, fits, Bool.false_eq_true, if_false]
  | .float x => fun done => by
      cases x with
      | nan tag => exact Except.ok.inj done ▸ rfl
      | _ => exact Except.ok.inj done ▸ rfl
  | .null | .bool _ | .str _ | .primitive _ => fun done => Except.ok.inj done ▸ rfl
  | .decimal _ | .host _ | .pattern _ | .set _ => fun done => by cases done

theorem settleItems_settled : ∀ (items : List Value) {all : List Value}, settleItems items = .ok all →
    settleItems all = .ok all
  | [], all, done => Except.ok.inj done ▸ rfl
  | item :: rest, all, done => by
      simp only [settleItems, bind_eq_ok] at done
      obtain ⟨first, own, others, later, done⟩ := done
      obtain rfl := Except.ok.inj done
      simp only [settleItems, settle_settled item own, settleItems_settled rest later, bind, Except.bind,
        pure, Except.pure]

theorem settleMembers_settled : ∀ (members : List (Value × Value)) {all : Members},
    settleMembers members = .ok all →
    (∀ member ∈ all, ∃ name, member.1 = .str name) ∧
      ∀ member ∈ all, settle member.2 = .ok member.2
  | [], all, done => by
      obtain rfl := Except.ok.inj done
      simp
  | (key, value) :: rest, all, done => by
      simp only [settleMembers, bind_eq_ok] at done
      obtain ⟨name, -, first, own, others, later, done⟩ := done
      obtain rfl := Except.ok.inj done
      obtain ⟨texts, values⟩ := settleMembers_settled rest later
      exact ⟨List.forall_mem_cons.mpr ⟨⟨name, rfl⟩, texts⟩,
        List.forall_mem_cons.mpr ⟨settle_settled value own, values⟩⟩

end

end Json

end Draftsman
