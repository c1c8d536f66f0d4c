/-
# Draftsman.Proofs.JsonEquality -- equal values and the same JSON value

Equality goes by the number behind a value, and truth values have numbers: true counts as one, and
false as zero.  As JSON they are different (`Value.sameJson`): only numbers are compared by value,
and nothing is the same as something of another type.

That is all there is between the two.  Where no truth value is equal to a number among the scalars
at hand (`Unmixed`), equal values are the same JSON value (`sameJson_of_equal`); so no item of a
list, no alternative of a union and no element of two lists that are joined is lost for being taken
for another (`distinct_keeps_json`).  Where one is, it is lost (`distinct_loses_flags`).
-/
import Draftsman.Proofs.Scalars
import Draftsman.Proofs.Unions

namespace Draftsman

set_option autoImplicit false

namespace Value

/-! ## The same JSON value -/

def isNumber : Value → Bool
  | int _ | float _ => true
  | _ => false

mutual

/-- Whether two values are the same JSON value.  Numbers are compared by value, whatever their
spelling, and the order of an object's members does not matter. -/
def sameJson : Value → Value → Bool
  | null, b => b.isNull
  | bool p, b => match b with
      | bool q => p == q
      | _ => false
  | str s, b => match b with
      | str t => s == t
      | _ => false
  | list xs, b => match b with
      | list ys => eachSameJson xs ys
      | _ => false
  | dict xs, b => match b with
      | dict ys => xs.length == ys.length && eachHeldJson xs ys
      | _ => false
  | a, b => a.isNumber && b.isNumber && atomEqual a b
termination_by structural a => a

def eachSameJson : List Value → List Value → Bool
  | [], [] => true
  | x :: xs, y :: ys => sameJson x y && eachSameJson xs ys
  | _, _ => false
termination_by structural a => a

/-- Whether every member of the first list has the same one in the second. -/
def eachHeldJson : List (Value × Value) → List (Value × Value) → Bool
  | [], _ => true
  | (k, v) :: rest, ys =>
      ys.any (fun y => sameJson k y.1 && sameJson v y.2) && eachHeldJson rest ys
termination_by structural a => a

end

/-! ## Scalars -/

/-- Scalars of which no truth value is equal to a number. -/
structure Unmixed (scalar : Value → Bool) : Prop where
  known : ∀ {v}, scalar v = true → v.isScalar = true
  apart : ∀ {b v}, scalar (bool b) = true → scalar v = true → v.isNumber = true →
    (bool b).equal v = false

variable {scalar : Value → Bool}

theorem essence_isSome_of_isScalar {v : Value} (known : v.isScalar = true) :
    v.essence?.isSome = true := by
  rcases v with _ | _ | _ | ⟨_ | _ | _⟩ | _ <;> first | rfl | cases known

/-- Equal scalars are of one type, if no truth value among them is equal to a number. -/
theorem sameJson_of_scalars (unmixed : Unmixed scalar) {a b : Value} (own : scalar a = true)
    (other : scalar b = true) (same : a.equal b = true) : a.sameJson b = true := by
  have known := unmixed.known own
  have known' := unmixed.known other
  have single := essence_isSome_of_isScalar known
  have atoms : atomEqual a b = true := equal_of_essence single ▸ same
  have back := atoms_symm single same
  cases a with
  | bool p =>
      cases b with
      | int n => exact absurd same (by simp [unmixed.apart own other rfl])
      | float x => exact absurd same (by simp [unmixed.apart own other rfl])
      | bool q => cases p <;> cases q <;> first | rfl | exact absurd same (by decide)
      | _ => simp_all [atomEqual, text?, quantity?, isScalar]
  | int n =>
      cases b with
      | bool q => exact absurd back (by simp [unmixed.apart other own rfl])
      | int m => simpa [sameJson, isNumber] using atoms
      | float x => simpa [sameJson, isNumber] using atoms
      | _ => simp_all [atomEqual, text?, quantity?, isScalar]
  | float x =>
      cases b with
      | bool q => exact absurd back (by simp [unmixed.apart other own rfl])
      | int m => simpa [sameJson, isNumber] using atoms
      | float y => simpa [sameJson, isNumber] using atoms
      | _ => cases x <;> simp_all [atomEqual, text?, quantity?, isScalar]
  | null => cases b <;> simp_all [sameJson, isNull, atomEqual, text?, quantity?, isScalar]
  | str s => cases b <;> simp_all [sameJson, atomEqual, text?, quantity?, isScalar]
  | _ => cases known

/-! ## Collections -/

theorem eachHeldJson_iff {members others : List (Value × Value)} :
    eachHeldJson members others = true ↔ ∀ member ∈ members, ∃ other ∈ others,
      member.1.sameJson other.1 = true ∧ member.2.sameJson other.2 = true := by
  induction members with
  | nil => simp [eachHeldJson]
  | cons member rest ih => simp [eachHeldJson, ih]

/-- A text that is equal to a text is the same. -/
theorem sameJson_of_texts {a b : Value} (text : a.isText = true) (text' : b.isText = true)
    (same : a.equal b = true) : a.sameJson b = true := by
  cases a <;> cases b <;> simp_all [isText, sameJson, equal, atomEqual, text?, quantity?]

/-- Whether a value is JSON of some scalars. -/
abbrev IsJson (scalar : Value → Bool) (v : Value) : Prop := v.consistsOf isText scalar = true

theorem isJson_list {items : List Value} :
    IsJson scalar (list items) ↔ ∀ item ∈ items, IsJson scalar item :=
  (consistsOf_hereditary isText scalar).list items

theorem isJson_dict {members : Members} :
    IsJson scalar (dict members) ↔
      ∀ member ∈ members, member.1.isText = true ∧ IsJson scalar member.2 :=
  (consistsOf_hereditary isText scalar).dict members

theorem sameJson_of_single (unmixed : Unmixed scalar) {a b : Value} (single : a.isLeaf = true)
    (own : IsJson scalar a) (other : IsJson scalar b) (same : a.equal b = true) :
    a.sameJson b = true := by
  have scalarOwn : scalar a = true := by rwa [IsJson, consistsOf_leaf single] at own
  have known := essence_isSome_of_isScalar (unmixed.known scalarOwn)
  -- a collection has no essence, so it equals no scalar
  have single' : b.isLeaf = true := by
    have shared := essence_of_equal known same ▸ known
    cases b <;> first | rfl | cases shared
  have scalarOther : scalar b = true := by rwa [IsJson, consistsOf_leaf single'] at other
  exact sameJson_of_scalars unmixed scalarOwn scalarOther same

mutual

/-- Equal values are the same JSON value, if no truth value in them is equal to a number. -/
theorem sameJson_of_equal (unmixed : Unmixed scalar) : ∀ (a : Value) {b : Value},
    IsJson scalar a → IsJson scalar b → a.equal b = true → a.sameJson b = true
  | list xs, b, own, other, same => by
      cases b with
      | list ys =>
          exact eachSameJson_of_allEqual unmixed xs (isJson_list.mp own) (isJson_list.mp other) same
      | _ => cases same
  | dict xs, b, own, other, same => by
      cases b with
      | dict ys =>
          obtain ⟨size, found⟩ := equal_dict_iff.mp same
          have others := isJson_dict.mp other
          refine Bool.and_eq_true_iff.mpr ⟨by simpa using size, eachHeldJson_iff.mpr ?_⟩
          intro member held
          obtain ⟨y, there, keys, values⟩ := found member held
          exact ⟨y, there, sameJson_of_texts (isJson_dict.mp own member held).1 (others y there).1
            keys, members_sameJson unmixed xs (isJson_dict.mp own) member held (others y there).2
            values⟩
      | _ => cases same
  | tuple xs, b, own, _, _ => by cases unmixed.known own
  | set xs, b, own, _, _ => by cases unmixed.known own
  | null, b, own, other, same | bool _, b, own, other, same | int _, b, own, other, same
  | float _, b, own, other, same | str _, b, own, other, same | decimal _, b, own, other, same
  | primitive _, b, own, other, same | host _, b, own, other, same
  | pattern _, b, own, other, same => sameJson_of_single unmixed rfl own other same

theorem eachSameJson_of_allEqual (unmixed : Unmixed scalar) : ∀ (xs : List Value)
    {ys : List Value}, (∀ x ∈ xs, IsJson scalar x) → (∀ y ∈ ys, IsJson scalar y) →
      allEqual xs ys = true → eachSameJson xs ys = true
  | [], [], _, _, _ => rfl
  | x :: xs, y :: ys, own, other, same => by
      obtain ⟨one, rest⟩ := Bool.and_eq_true_iff.mp same
      obtain ⟨ownFirst, ownRest⟩ := List.forall_mem_cons.mp own
      obtain ⟨otherFirst, otherRest⟩ := List.forall_mem_cons.mp other
      exact Bool.and_eq_true_iff.mpr ⟨sameJson_of_equal unmixed x ownFirst otherFirst one,
        eachSameJson_of_allEqual unmixed xs ownRest otherRest rest⟩

theorem members_sameJson (unmixed : Unmixed scalar) : ∀ (members : List (Value × Value)),
    (∀ member ∈ members, member.1.isText = true ∧ IsJson scalar member.2) →
      ∀ member ∈ members, ∀ {b : Value}, IsJson scalar b → member.2.equal b = true →
        member.2.sameJson b = true
  | (key, value) :: rest, own, member, held, b, other, same => by
      obtain ⟨⟨-, first⟩, later⟩ := List.forall_mem_cons.mp own
      rcases List.mem_cons.mp held with here | there
      · rw [here] at same ⊢
        exact sameJson_of_equal unmixed value first other same
      · exact members_sameJson unmixed rest later member there other same

end

theorem isQuiet_of_isJson (known : ∀ {v}, scalar v = true → v.isScalar = true) {v : Value}
    (json : IsJson scalar v) : v.isQuiet = true := by
  refine (consistsOf_hereditary isText scalar).imp quiet_hereditary (fun key text => ?_)
    (fun v single own => ?_) v json
  · cases key <;> first | rfl | cases text
  · rw [consistsOf_leaf single] at own
    cases v <;> first | rfl | cases known own

end Value

open Value

/-! ## Nothing is lost -/

section Kept

variable {scalar : Value → Bool}

/-- Of each item of a list, the same JSON value is among the different ones. -/
theorem unique?_keeps_json (unmixed : Unmixed scalar) {items : List Value}
    (json : ∀ item ∈ items, IsJson scalar item) :
    ∃ kept, unique? items = some kept ∧ kept.Sublist items ∧
      ∀ item ∈ items, ∃ own ∈ kept, own.sameJson item = true := by
  obtain ⟨kept, grown⟩ := Option.isSome_iff_exists.mp
    (unique?_of_quiet fun item held => isQuiet_of_isJson unmixed.known (json item held))
  have ordered : kept.Sublist items := by simpa using foldlM_sublist grown
  refine ⟨kept, grown, ordered, fun item held => ?_⟩
  have sameOf {own : Value} (there : own ∈ kept) (same : own.equal item = true) :
      own.sameJson item = true :=
    sameJson_of_equal unmixed own (json own (ordered.subset there)) (json item held) same
  obtain ⟨before, after, rfl⟩ := List.append_of_mem held
  obtain ⟨own, there, rfl | ⟨-, same⟩⟩ := foldlM_covers grown
  · exact ⟨own, there, sameOf there (equal_self own)⟩
  · exact ⟨own, there, sameOf there (equal_of_equalApart (same?_eq_some same))⟩

/-- Nothing is taken for something else among the items of a list, the alternatives of a union and
the elements of two lists that are joined, unless a truth value is equal to a number. -/
theorem distinct_keeps_json (unmixed : Unmixed scalar) :
    (∀ items : List Value, (∀ item ∈ items, IsJson scalar item) →
      ∃ kept, unique? items = some kept ∧ kept.Sublist items ∧
        ∀ item ∈ items, ∃ own ∈ kept, own.sameJson item = true) ∧
      (∀ (o : Options) (ctx : Context) (types : Children) (notes : Value)
        (fragments : List Members), Node.enumerable types = true →
        (Node.disjuncts types).mapM (Node.visit o ctx.alternative) = .ok fragments →
        (∀ fragment ∈ fragments, IsJson scalar (.dict fragment)) →
        ∃ results union, results.Sublist fragments ∧
          (∀ fragment ∈ fragments, ∃ own ∈ results,
            (Value.dict own).sameJson (.dict fragment) = true) ∧
          Node.UnionOf ctx.topLevel results union ∧
          Node.visit o ctx (.sum types notes) =
            o.allow ctx.depth >>= fun _ => Node.finish notes union) ∧
      ∀ left right : List Value, (∀ item ∈ left ++ right, IsJson scalar item) →
        ∃ kept, Fragment.join? (some (.list left)) (.list right) = some (.list kept) ∧
          kept.Sublist (left ++ right) ∧
          ∀ item ∈ left ++ right, ∃ own ∈ kept, own.sameJson item = true := by
  refine ⟨fun items json => unique?_keeps_json unmixed json, ?_, fun left right json => ?_⟩
  · intro o ctx types notes fragments listed compiled json
    obtain ⟨results, seen, visited⟩ := Node.exists_unionOf notes listed compiled
      fun fragment held => isQuiet_of_isJson unmixed.known (json fragment held)
    refine ⟨results, _, seen.ordered, fun fragment held => ?_,
      Node.unionOf_sumFragment ctx.topLevel results, visited⟩
    obtain ⟨own, there, same⟩ := seen.exists_kept held
    have equal : (Value.dict own).equal (.dict fragment) = true := by
      rcases same with rfl | same
      · exact equal_self _
      · exact equal_of_equalApart same
    exact ⟨own, there, sameJson_of_equal unmixed _ (json own (seen.ordered.subset there))
      (json fragment held) equal⟩
  · obtain ⟨kept, grown, ordered, each⟩ := unique?_keeps_json unmixed json
    exact ⟨kept, by rw [Fragment.join?, grown, Option.map_some], ordered, each⟩

/-- A truth value, or a scalar that equals neither. -/
def isSettled : Value → Bool
  | .bool _ => true
  | v => v.isScalar && !v.equal (.bool true) && !v.equal (.bool false)

theorem unmixed_settled : Unmixed isSettled where
  known {v} own := by cases v <;> first | rfl | cases own
  apart {b v} _ own number := by
    have apart : v.equal (.bool b) = false := by
      cases b <;> cases v <;> simp_all [isSettled, isNumber]
    refine Bool.eq_false_iff.mpr fun same => ?_
    rw [atoms_symm rfl same] at apart
    cases apart

/-- Two spellings of a number, both truth values and the text that spells one. -/
def settledItems : List Value :=
  [.int 2, .bool true, .str "true", .float (.finite false 2 0), .bool false]

/-- Rules for the same number twice, and for a truth value between them. -/
def settledRules : Children :=
  .nodes [.predicate (.str "eql?") (.int 2) (.dict []),
    .predicate (.str "eql?") (.bool true) (.dict []),
    .predicate (.str "eql?") (.int 2) (.dict [])]

theorem distinct_keeps_json_flags :
    Unmixed isSettled ∧
      (unique? settledItems = some [.int 2, .bool true, .str "true", .bool false] ∧
        ∀ item ∈ settledItems, ∃ own ∈ [Value.int 2, .bool true, .str "true", .bool false],
          own.sameJson item = true) ∧
      (∃ results union, (∀ b : Value, b = .int 2 ∨ b = .bool true → ∃ own ∈ results,
          (Value.dict own).sameJson (.dict (Fragment.ofKeywords [("const", b)])) = true) ∧
        Node.UnionOf true results union ∧
        Node.visit {} Context.root (.sum settledRules (.dict [])) = .ok union) ∧
      Fragment.join? (some (.list [.int 2, .bool true])) (.list [.bool false, .int 2]) =
          some (.list [.int 2, .bool true, .bool false]) ∧
        ∀ item ∈ [Value.int 2, .bool true, .bool false, .int 2],
          ∃ own ∈ [Value.int 2, .bool true, .bool false], own.sameJson item = true := by
  obtain ⟨ofItems, ofUnion, ofLists⟩ := distinct_keeps_json unmixed_settled
  obtain ⟨kept, grown, -, each⟩ := ofItems settledItems (by decide)
  obtain ⟨results, union, -, covered, shape, visited⟩ :=
    ofUnion {} Context.root settledRules (.dict [])
      [Fragment.ofKeywords [("const", .int 2)], Fragment.ofKeywords [("const", .bool true)],
        Fragment.ofKeywords [("const", .int 2)]] rfl rfl (by decide)
  obtain ⟨joined, both, -, eachOfBoth⟩ :=
    ofLists [.int 2, .bool true] [.bool false, .int 2] (by decide)
  cases grown
  cases both
  refine ⟨unmixed_settled, ⟨rfl, each⟩, ⟨results, union, ?_, shape, visited⟩, rfl, eachOfBoth⟩
  rintro b (rfl | rfl)
  · exact covered _ (by simp)
  · exact covered _ (by simp)

/-- After a number that it is equal to, a truth value is lost. -/
theorem unique?_loses_flag {b : Bool} {v : Value} (number : v.isNumber = true)
    (same : v.equal (.bool b) = true) :
    unique? [v, .bool b] = some [v] ∧ v.sameJson (.bool b) = false := by
  have calm : v.clashes (.bool b) = false := by
    cases v <;> first | rfl | cases number
  have apart : v.equalApart (.bool b) = true := by
    refine equalApart_iff.mpr ⟨same, ?_, rfl⟩
    cases v with
    | float x => cases x <;> first | rfl | cases same
    | _ => first | rfl | cases number
  refine ⟨by simp [unique?, distinct?, addNew?, among?, same?, calm, apart], ?_⟩
  cases v <;> simp_all [sameJson, isNumber]

/-- The number one takes the place of true in a list and in a union, and zero that of false where
two lists are joined. -/
theorem distinct_loses_flags :
    unique? [.int 1, .bool true] = some [.int 1] ∧
      Node.visit {} Context.root (.sum (.nodes [.predicate (.str "eql?") (.int 1) (.dict []),
        .predicate (.str "eql?") (.bool true) (.dict [])]) (.dict [])) =
          .ok (Fragment.ofKeywords [("const", .int 1)]) ∧
      Fragment.join? (some (.list [.int 0])) (.list [.bool false]) = some (.list [.int 0]) ∧
      (Value.int 1).sameJson (.bool true) = false ∧ (Value.int 0).sameJson (.bool false) = false :=
  ⟨rfl, rfl, rfl, rfl, rfl⟩

end Kept

end Draftsman
