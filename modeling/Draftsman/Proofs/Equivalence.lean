/-
# Draftsman.Proofs.Equivalence -- equality is an equivalence

Values that hold no others are equal exactly if they have one essence (`atomEqual_iff`), so
equality is transitive (`Value.equal_trans`).

Sets and dictionaries are compared one way only: they are of one size, and all that is in the first
has an equal in the second.  That nothing of the second is left over is a matter of counting, as
things that differ are matched with different ones (`exists_matching`).  So equality is symmetric
too, for values whose sets and dictionaries hold nothing twice (`Value.isProper`,
`Value.equal_symm`); all that a description can hold is of that sort.

For values at two places the same holds (`Value.equalApart_trans`, `Value.equalApart_symm`), but
that a value with something in it that a conversion has made is not even the same as itself.
-/
import Draftsman.Proofs.Distinct
import Draftsman.Proofs.Equality
import Mathlib.Data.List.Perm.Subperm
import Mathlib.Data.List.Forall2

namespace Draftsman

set_option autoImplicit false

/-! ## Matchings -/

section Matching

variable {α β : Type} {related : α → β → Prop}

/-- Items of which no two are related to the same one can be matched with different ones. -/
theorem exists_matching {items : List α} {others : List β}
    (apart : items.Pairwise fun a b => ∀ other ∈ others, related a other → ¬related b other)
    (total : ∀ item ∈ items, ∃ other ∈ others, related item other) :
    ∃ order, List.Subperm order others ∧ List.Forall₂ related items order := by
  induction items generalizing others with
  | nil => exact ⟨[], List.nil_subperm, .nil⟩
  | cons item rest ih =>
      obtain ⟨own, later⟩ := List.pairwise_cons.mp apart
      obtain ⟨⟨other, held, first⟩, totalLater⟩ := List.forall_mem_cons.mp total
      obtain ⟨before, after, rfl⟩ := List.append_of_mem held
      have fewer {found : β} (among : found ∈ before ++ after) : found ∈ before ++ other :: after :=
        List.perm_middle.symm.subset (List.mem_cons_of_mem _ among)
      -- the other items are related to others than the one that is taken
      have left : ∀ next ∈ rest, ∃ found ∈ before ++ after, related next found := by
        intro next there
        obtain ⟨found, foundHeld, relates⟩ := totalLater next there
        rcases List.mem_cons.mp (List.perm_middle.subset foundHeld) with rfl | among
        · exact absurd relates (own next there found held first)
        · exact ⟨found, among, relates⟩
      obtain ⟨order, among, matched⟩ := ih (later.imp fun differ found foundHeld =>
        differ found (fewer foundHeld)) left
      exact ⟨other :: order, ((List.subperm_cons other).mpr among).trans
        List.perm_middle.symm.subperm, .cons first matched⟩

/-- If there are no more others than items, all of them are matched. -/
theorem exists_whole_matching {items : List α} {others : List β}
    (apart : items.Pairwise fun a b => ∀ other ∈ others, related a other → ¬related b other)
    (total : ∀ item ∈ items, ∃ other ∈ others, related item other)
    (few : others.length ≤ items.length) :
    ∃ order, order.Perm others ∧ List.Forall₂ related items order := by
  obtain ⟨order, among, matched⟩ := exists_matching apart total
  exact ⟨order, among.perm_of_length_le (matched.length_eq ▸ few), matched⟩

theorem exists_of_matching {items : List α} {others : List β} {other : β}
    (matched : List.Forall₂ related items others) (held : other ∈ others) :
    ∃ item ∈ items, related item other := by
  induction matched with
  | nil => cases held
  | cons relates _ ih =>
      rcases List.mem_cons.mp held with rfl | later
      · exact ⟨_, List.mem_cons_self, relates⟩
      · obtain ⟨item, there, relates⟩ := ih later
        exact ⟨item, List.mem_cons_of_mem _ there, relates⟩

end Matching

namespace Value

/-! ## Single values -/

/-- What a value that holds no others is compared by. -/
inductive Essence where
  | null
  | number (x : Quantity)
  | text (s : String)
  | host (c : HostClass)
  | pattern (p : Pattern)
  /-- What is not a number is itself and nothing else. -/
  | floatNaN (tag : Nat)
  | decimalNaN (signaling negative : Bool) (payload tag : Nat)

/-- The essence of a value; collections have none. -/
def essence? : Value → Option Essence
  | null => some .null
  | bool b => some (.number (.finite (Exact.ofInt (if b then 1 else 0))))
  | int n => some (.number (.finite (Exact.ofInt n)))
  | float (.nan tag) => some (.floatNaN tag)
  | float x => some (.number x.quantity)
  | str s => some (.text s)
  | decimal (.nan signaling negative payload tag) =>
      some (.decimalNaN signaling negative payload tag)
  | decimal d => some (.number d.quantity)
  | primitive p => some (.text p.name)
  | host c => some (.host c)
  | pattern p => some (.pattern p)
  | list _ | tuple _ | set _ | dict _ => none

/-- Values that hold no others are equal if they are one thing at heart. -/
theorem atomEqual_iff {a b : Value} :
    atomEqual a b = true ↔ a.essence?.isSome = true ∧ a.essence? = b.essence? := by
  rcases a with _ | _ | _ | ⟨_ | _ | _⟩ | _ | ⟨_ | _ | _⟩ | _ | _ | _ | _ | _ | _ | _ <;>
  rcases b with _ | _ | _ | ⟨_ | _ | _⟩ | _ | ⟨_ | _ | _⟩ | _ | _ | _ | _ | _ | _ | _ <;>
  simp [atomEqual, essence?, text?, quantity?, Quantity.equal, Binary64.quantity, Decimal.quantity]

theorem equal_of_essence {a b : Value} (single : a.essence?.isSome = true) :
    a.equal b = atomEqual a b := by
  cases a <;> first | rfl | cases single

theorem essence_of_equal {a b : Value} (single : a.essence?.isSome = true)
    (same : a.equal b = true) : a.essence? = b.essence? :=
  (atomEqual_iff.mp (equal_of_essence single ▸ same)).2

theorem equal_of_essence_eq {a b : Value} (single : a.essence?.isSome = true)
    (same : a.essence? = b.essence?) : a.equal b = true := by
  rw [equal_of_essence single]
  exact atomEqual_iff.mpr ⟨single, same⟩

theorem atoms_trans {a b c : Value} (single : a.essence?.isSome = true) (first : a.equal b = true)
    (second : b.equal c = true) : a.equal c = true := by
  have same := essence_of_equal single first
  exact equal_of_essence_eq single (same.trans (essence_of_equal (same ▸ single) second))

theorem atoms_symm {a b : Value} (single : a.essence?.isSome = true) (same : a.equal b = true) :
    b.equal a = true := by
  have one := essence_of_equal single same
  exact equal_of_essence_eq (one ▸ single) one.symm

/-! ## Collections -/

theorem allFound_iff {items others : List Value} :
    allFound items others = true ↔ ∀ item ∈ items, ∃ other ∈ others, item.equal other = true := by
  induction items with
  | nil => simp [allFound]
  | cons item rest ih => simp [allFound, ih]

/-- Two members are equal if their keys and their values are. -/
def MembersEqual (a b : Value × Value) : Prop := a.1.equal b.1 = true ∧ a.2.equal b.2 = true

theorem allHeld_iff {members others : List (Value × Value)} :
    allHeld members others = true ↔
      ∀ member ∈ members, ∃ other ∈ others, MembersEqual member other := by
  induction members with
  | nil => simp [allHeld]
  | cons member rest ih => simp [allHeld, ih, MembersEqual]

theorem equal_set_iff {items others : List Value} :
    (set items).equal (set others) = true ↔ items.length = others.length ∧
      ∀ item ∈ items, ∃ other ∈ others, item.equal other = true := by
  simp [equal, allFound_iff]

theorem equal_dict_iff {members others : List (Value × Value)} :
    (dict members).equal (dict others) = true ↔ members.length = others.length ∧
      ∀ member ∈ members, ∃ other ∈ others, MembersEqual member other := by
  simp [equal, allHeld_iff]

/-! ## Transitivity -/

mutual

/-- Equality is transitive. -/
theorem equal_trans : ∀ (a : Value) {b c : Value}, a.equal b = true → b.equal c = true →
    a.equal c = true
  | list xs, b, c, first, second => by
      cases b with
      | list ys =>
          cases c with
          | list zs => exact allEqual_trans xs first second
          | _ => cases second
      | _ => cases first
  | tuple xs, b, c, first, second => by
      cases b with
      | tuple ys =>
          cases c with
          | tuple zs => exact allEqual_trans xs first second
          | _ => cases second
      | _ => cases first
  | set xs, b, c, first, second => by
      cases b with
      | set ys =>
          cases c with
          | set zs =>
              obtain ⟨size, found⟩ := equal_set_iff.mp first
              obtain ⟨size', found'⟩ := equal_set_iff.mp second
              refine equal_set_iff.mpr ⟨size.trans size', fun x held => ?_⟩
              obtain ⟨y, there, same⟩ := found x held
              obtain ⟨z, there', same'⟩ := found' y there
              exact ⟨z, there', items_trans xs x held same same'⟩
          | _ => cases second
      | _ => cases first
  | dict xs, b, c, first, second => by
      cases b with
      | dict ys =>
          cases c with
          | dict zs =>
              obtain ⟨size, found⟩ := equal_dict_iff.mp first
              obtain ⟨size', found'⟩ := equal_dict_iff.mp second
              refine equal_dict_iff.mpr ⟨size.trans size', fun x held => ?_⟩
              obtain ⟨y, there, same⟩ := found x held
              obtain ⟨z, there', same'⟩ := found' y there
              exact ⟨z, there', members_trans xs x held same same'⟩
          | _ => cases second
      | _ => cases first
  | null, b, c, first, second | bool _, b, c, first, second | int _, b, c, first, second
  | str _, b, c, first, second | primitive _, b, c, first, second | host _, b, c, first, second
  | pattern _, b, c, first, second => atoms_trans rfl first second
  | float x, b, c, first, second => atoms_trans (by cases x <;> rfl) first second
  | decimal d, b, c, first, second => atoms_trans (by cases d <;> rfl) first second

theorem allEqual_trans : ∀ (xs : List Value) {ys zs : List Value}, allEqual xs ys = true →
    allEqual ys zs = true → allEqual xs zs = true
  | [], [], _, _, second => second
  | x :: xs, y :: ys, z :: zs, first, second => by
      obtain ⟨same, rest⟩ := Bool.and_eq_true_iff.mp first
      obtain ⟨same', rest'⟩ := Bool.and_eq_true_iff.mp second
      exact Bool.and_eq_true_iff.mpr ⟨equal_trans x same same', allEqual_trans xs rest rest'⟩

theorem items_trans : ∀ (items : List Value), ∀ item ∈ items, ∀ {b c : Value},
    item.equal b = true → b.equal c = true → item.equal c = true
  | item :: rest, other, held, b, c, first, second => by
      rcases List.mem_cons.mp held with own | later
      · rw [own] at first ⊢
        exact equal_trans item first second
      · exact items_trans rest other later first second

theorem members_trans : ∀ (members : List (Value × Value)), ∀ member ∈ members,
    ∀ {b c : Value × Value}, MembersEqual member b → MembersEqual b c → MembersEqual member c
  | (key, value) :: rest, other, held, b, c, first, second => by
      rcases List.mem_cons.mp held with own | later
      · rw [own] at first ⊢
        exact ⟨equal_trans key first.1 second.1, equal_trans value first.2 second.2⟩
      · exact members_trans rest other later first second

end

/-! ## Symmetry -/

mutual

/-- Whether no set in a value holds an item twice, and no dictionary a key. -/
def isProper : Value → Bool
  | list items | tuple items => areProper items
  | set items => decide (Unequal items) && areProper items
  | dict members => decide (Unequal (members.map Prod.fst)) && membersAreProper members
  | _ => true

def areProper : List Value → Bool
  | [] => true
  | v :: rest => isProper v && areProper rest

def membersAreProper : List (Value × Value) → Bool
  | [] => true
  | (k, v) :: rest => isProper k && isProper v && membersAreProper rest

end

theorem areProper_iff {items : List Value} :
    areProper items = true ↔ ∀ item ∈ items, item.isProper = true := by
  induction items with
  | nil => simp [areProper]
  | cons item rest ih => simp [areProper, ih]

theorem membersAreProper_iff {members : List (Value × Value)} :
    membersAreProper members = true ↔
      ∀ member ∈ members, member.1.isProper = true ∧ member.2.isProper = true := by
  induction members with
  | nil => simp [membersAreProper]
  | cons member rest ih => simp [membersAreProper, ih]

theorem isProper_set {items : List Value} :
    (set items).isProper = true ↔
      Unequal items ∧ ∀ item ∈ items, item.isProper = true := by
  simp [isProper, areProper_iff]

theorem isProper_dict {members : Members} :
    (dict members).isProper = true ↔ Unequal (members.map Prod.fst) ∧
      ∀ member ∈ members, member.1.isProper = true ∧ member.2.isProper = true := by
  simp [isProper, membersAreProper_iff]

mutual

/-- Equality of proper values is symmetric. -/
theorem equal_symm : ∀ (a : Value) {b : Value}, a.isProper = true → b.isProper = true →
    a.equal b = true → b.equal a = true
  | list xs, b, proper, proper', same => by
      cases b with
      | list ys => exact allEqual_symm xs proper proper' same
      | _ => cases same
  | tuple xs, b, proper, proper', same => by
      cases b with
      | tuple ys => exact allEqual_symm xs proper proper' same
      | _ => cases same
  | set xs, b, proper, proper', same => by
      cases b with
      | set ys =>
          obtain ⟨size, found⟩ := equal_set_iff.mp same
          obtain ⟨different, each⟩ := isProper_set.mp proper
          have each' := (isProper_set.mp proper').2
          have back : ∀ x ∈ xs, ∀ y ∈ ys, x.equal y = true → y.equal x = true :=
            fun x there y held => items_symm xs (areProper_iff.mpr each) x there (each' y held)
          -- two items with one equal would be equal
          have apart : xs.Pairwise fun x x' => ∀ y ∈ ys, x.equal y = true → ¬x'.equal y = true :=
            different.imp_of_mem fun {x x'} _ there differ y held one two => by
              simp [equal_trans x one (back x' there y held two)] at differ
          obtain ⟨order, whole, matched⟩ :=
            exists_whole_matching apart found (Nat.le_of_eq size.symm)
          refine equal_set_iff.mpr ⟨size.symm, fun y held => ?_⟩
          obtain ⟨x, there, one⟩ := exists_of_matching matched (whole.mem_iff.mpr held)
          exact ⟨x, there, back x there y held one⟩
      | _ => cases same
  | dict xs, b, proper, proper', same => by
      cases b with
      | dict ys =>
          obtain ⟨size, found⟩ := equal_dict_iff.mp same
          obtain ⟨different, each⟩ := isProper_dict.mp proper
          have each' := (isProper_dict.mp proper').2
          have back : ∀ x ∈ xs, ∀ y ∈ ys, MembersEqual x y → MembersEqual y x :=
            fun x there y held => members_symm xs (membersAreProper_iff.mpr each) x there
              (each' y held).1 (each' y held).2
          -- two keys with one equal would be equal
          have apart : xs.Pairwise fun x x' => ∀ y ∈ ys, MembersEqual x y → ¬MembersEqual x' y :=
            (List.pairwise_map.mp different).imp_of_mem
              fun {x x'} _ there differ y held one two => by
                simp [equal_trans x.1 one.1 (back x' there y held two).1] at differ
          obtain ⟨order, whole, matched⟩ :=
            exists_whole_matching apart found (Nat.le_of_eq size.symm)
          refine equal_dict_iff.mpr ⟨size.symm, fun y held => ?_⟩
          obtain ⟨x, there, one⟩ := exists_of_matching matched (whole.mem_iff.mpr held)
          exact ⟨x, there, back x there y held one⟩
      | _ => cases same
  | null, b, proper, proper', same | bool _, b, proper, proper', same
  | int _, b, proper, proper', same
  | str _, b, proper, proper', same | primitive _, b, proper, proper', same
  | host _, b, proper, proper', same
  | pattern _, b, proper, proper', same => atoms_symm rfl same
  | float x, b, proper, proper', same => atoms_symm (by cases x <;> rfl) same
  | decimal d, b, proper, proper', same => atoms_symm (by cases d <;> rfl) same

theorem allEqual_symm : ∀ (xs : List Value) {ys : List Value}, areProper xs = true →
    areProper ys = true → allEqual xs ys = true → allEqual ys xs = true
  | [], [], _, _, same => same
  | x :: xs, y :: ys, proper, proper', same => by
      obtain ⟨one, rest⟩ := Bool.and_eq_true_iff.mp same
      obtain ⟨own, others⟩ := Bool.and_eq_true_iff.mp proper
      obtain ⟨own', others'⟩ := Bool.and_eq_true_iff.mp proper'
      exact Bool.and_eq_true_iff.mpr ⟨equal_symm x own own' one,
        allEqual_symm xs others others' rest⟩

theorem items_symm : ∀ (items : List Value), areProper items = true → ∀ item ∈ items,
    ∀ {b : Value}, b.isProper = true → item.equal b = true → b.equal item = true
  | item :: rest, proper, other, held, b, proper', same => by
      obtain ⟨own, others⟩ := Bool.and_eq_true_iff.mp proper
      rcases List.mem_cons.mp held with first | later
      · rw [first] at same ⊢
        exact equal_symm item own proper' same
      · exact items_symm rest others other later proper' same

theorem members_symm : ∀ (members : List (Value × Value)), membersAreProper members = true →
    ∀ member ∈ members, ∀ {b : Value × Value}, b.1.isProper = true → b.2.isProper = true →
      MembersEqual member b → MembersEqual b member
  | (key, value) :: rest, proper, other, held, b, keyProper, valueProper, same => by
      obtain ⟨own, others⟩ := Bool.and_eq_true_iff.mp proper
      obtain ⟨ownKey, ownValue⟩ := Bool.and_eq_true_iff.mp own
      rcases List.mem_cons.mp held with first | later
      · rw [first] at same ⊢
        exact ⟨equal_symm key ownKey keyProper same.1, equal_symm value ownValue valueProper same.2⟩
      · exact members_symm rest others other later keyProper valueProper same

end

/-! ## Different places -/

theorem equalApart_iff {a b : Value} : a.equalApart b = true ↔
    a.equal b = true ∧ a.holdsMade = false ∧ b.holdsMade = false := by
  simp only [equalApart, Bool.and_eq_true, Bool.not_eq_true', and_assoc]

theorem anyHoldsMade_eq_false {items : List Value} :
    anyHoldsMade items = false ↔ ∀ item ∈ items, item.holdsMade = false := by
  induction items with
  | nil => simp [anyHoldsMade]
  | cons item rest ih => simp [anyHoldsMade, ih]

theorem anyMemberHoldsMade_eq_false {members : List (Value × Value)} :
    anyMemberHoldsMade members = false ↔
      ∀ member ∈ members, member.1.holdsMade = false ∧ member.2.holdsMade = false := by
  induction members with
  | nil => simp [anyMemberHoldsMade]
  | cons member rest ih => simp [anyMemberHoldsMade, ih]

theorem equalApart_trans {a b c : Value} (first : a.equalApart b = true)
    (second : b.equalApart c = true) : a.equalApart c = true := by
  obtain ⟨same, free, -⟩ := equalApart_iff.mp first
  obtain ⟨same', -, free'⟩ := equalApart_iff.mp second
  exact equalApart_iff.mpr ⟨equal_trans a same same', free, free'⟩

theorem equalApart_symm {a b : Value} (proper : a.isProper = true) (proper' : b.isProper = true)
    (same : a.equalApart b = true) : b.equalApart a = true := by
  obtain ⟨equal, free, free'⟩ := equalApart_iff.mp same
  exact equalApart_iff.mpr ⟨equal_symm a proper proper' equal, free', free⟩

/-- A value that holds nothing made by a conversion is the same at every place. -/
theorem equalApart_self {v : Value} (free : v.holdsMade = false) : v.equalApart v = true :=
  equalApart_iff.mpr ⟨equal_self v, free, free⟩

end Value

end Draftsman
