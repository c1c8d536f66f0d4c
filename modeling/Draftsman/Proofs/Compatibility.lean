/-
# Draftsman.Proofs.Compatibility -- joining as a monoid

Two fragments are compatible if, at every path of keys that leads to something in both of them,
there are two dictionaries, two lists, or neither of these (`Compatible`).  Of fragments in which
every number is one, nothing else is asked: such fragments are `Joinable`, key by key
(`Compatible.joinable`), and the other way round (`Joinable.compatible`).

So joining is associative for fragments that are compatible with one another, and what is joined is
compatible with the others again (`Compatible.merge`).  The empty fragment is the unit.  A fragment
of which no list holds an item twice is joined with itself to itself; that no list does so can be
said along paths as well (`isUnrepeated_iff`).
-/
import Draftsman.Proofs.Idempotence
import Draftsman.Proofs.KeyPaths

namespace Draftsman

set_option autoImplicit false

open Value Members

namespace Value

/-! ## Values in which every number is one -/

mutual

/-- Whether nothing in a value stands for a number and is none. -/
def isNaNFree : Value → Bool
  | list items | tuple items | set items => areNaNFree items
  | dict members => membersAreNaNFree members
  | v => !v.isNotNumber

def areNaNFree : List Value → Bool
  | [] => true
  | v :: rest => isNaNFree v && areNaNFree rest

def membersAreNaNFree : List (Value × Value) → Bool
  | [] => true
  | (k, v) :: rest => isNaNFree k && isNaNFree v && membersAreNaNFree rest

end

theorem nanFree_hereditary :
    Fragment.Hereditary (fun key => key.isNaNFree = true) fun v => v.isNaNFree = true where
  list items := by
    rw [isNaNFree]
    induction items with
    | nil => simp [areNaNFree]
    | cons item rest ih => simp [areNaNFree, ih]
  dict members := by
    rw [isNaNFree]
    induction members with
    | nil => simp [membersAreNaNFree]
    | cons member rest ih => simp [membersAreNaNFree, ih]

mutual

/-- A signaling decimal is no number, nor is what a conversion has made, so values without such
things can be compared and are the same at every place. -/
theorem isQuiet_of_isNaNFree : ∀ v : Value, v.isNaNFree = true →
    v.isQuiet = true ∧ v.holdsMade = false
  | .list items, free | .tuple items, free | .set items, free => areQuiet_of_areNaNFree items free
  | .dict members, free => membersAreQuiet_of_membersAreNaNFree members free
  | .decimal d, free => by
      cases d <;> simp_all [isNaNFree, isNotNumber, isQuiet, holdsMade, Decimal.isSignaling]
  | .float x, free => by
      cases x <;> simp_all [isNaNFree, isNotNumber, isQuiet, holdsMade]
  | .null, _ | .bool _, _ | .int _, _ | .str _, _ | .primitive _, _ | .host _, _
  | .pattern _, _ => ⟨rfl, rfl⟩

theorem areQuiet_of_areNaNFree : ∀ items : List Value, areNaNFree items = true →
    areQuiet items = true ∧ anyHoldsMade items = false
  | [], _ => ⟨rfl, rfl⟩
  | item :: rest, free => by
      obtain ⟨own, others⟩ := Bool.and_eq_true_iff.mp free
      obtain ⟨quiet, apart⟩ := isQuiet_of_isNaNFree item own
      obtain ⟨quiet', apart'⟩ := areQuiet_of_areNaNFree rest others
      exact ⟨by rw [areQuiet, quiet, quiet', Bool.and_true],
        by rw [anyHoldsMade, apart, apart', Bool.or_false]⟩

theorem membersAreQuiet_of_membersAreNaNFree : ∀ members : List (Value × Value),
    membersAreNaNFree members = true →
      membersAreQuiet members = true ∧ anyMemberHoldsMade members = false
  | [], _ => ⟨rfl, rfl⟩
  | (key, value) :: rest, free => by
      simp only [membersAreNaNFree, Bool.and_eq_true] at free
      obtain ⟨⟨keyFree, valueFree⟩, others⟩ := free
      obtain ⟨keyQuiet, keyApart⟩ := isQuiet_of_isNaNFree key keyFree
      obtain ⟨valueQuiet, valueApart⟩ := isQuiet_of_isNaNFree value valueFree
      obtain ⟨quiet, apart⟩ := membersAreQuiet_of_membersAreNaNFree rest others
      exact ⟨by rw [membersAreQuiet, keyQuiet, valueQuiet, quiet, Bool.and_true, Bool.and_true],
        by rw [anyMemberHoldsMade, keyApart, valueApart, apart, Bool.or_false, Bool.or_false]⟩

end

/-- A value in which no dictionary holds a key twice, no set an item twice, and nothing is no
number. -/
structure Ordinary (v : Value) : Prop where
  proper : v.isProper = true
  nanFree : v.isNaNFree = true

namespace Ordinary

variable {key v : Value} {members : Members} {items : List Value}

theorem keyed (ordinary : Ordinary (.dict members)) : members.Keyed :=
  keyed_of_isProper ordinary.proper

theorem lookup (ordinary : Ordinary (.dict members)) (found : members.lookup key = some v) :
    Ordinary v := by
  obtain ⟨own, held⟩ := mem_of_lookup found
  exact ⟨isProper_lookup ordinary.proper found,
    ((nanFree_hereditary.dict _).mp ordinary.nanFree _ held).2⟩

theorem quiet (ordinary : Ordinary (.list items)) : ∀ item ∈ items, item.isQuiet = true :=
  areQuiet_iff.mp (isQuiet_of_isNaNFree _ ordinary.nanFree).1

end Ordinary

def isList : Value → Bool
  | list _ => true
  | _ => false

theorem exists_of_isList {v : Value} (listed : v.isList = true) : ∃ items, v = list items := by
  cases v <;> first | exact ⟨_, rfl⟩ | cases listed

theorem isLeaf_iff {v : Value} : v.isLeaf = true ↔ v.isDict = false ∧ v.isList = false := by
  cases v <;> simp [isLeaf, isDict, isList]

end Value

namespace Fragment

/-! ## Shapes along paths -/

/-- Two dictionaries, two lists, or two values that are neither. -/
def SameShape (v w : Value) : Prop := v.isDict = w.isDict ∧ v.isList = w.isList

/-- Two values that are of one shape wherever a path of keys leads to something in both. -/
def Compatible (left right : Value) : Prop :=
  ∀ path v w, (∀ key ∈ path, key.isProper = true) → at? path left = some v →
    at? path right = some w → SameShape v w

namespace Compatible

variable {left right : Members} {v w : Value}

theorem shape (compatible : Compatible v w) : SameShape v w :=
  compatible [] v w (by simp) rfl rfl

theorem lookup {key : Value} (compatible : Compatible (.dict left) (.dict right))
    (proper : key.isProper = true) (here : left.lookup key = some v)
    (there : right.lookup key = some w) : Compatible v w := by
  intro path x y keys found found'
  refine compatible (key :: path) x y (List.forall_mem_cons.mpr ⟨proper, keys⟩) ?_ ?_
  · rw [at?_cons_of_lookup here, found]
  · rw [at?_cons_of_lookup there, found']

end Compatible

theorem Joinable.shape {v w : Value} (joinable : Joinable v w) : SameShape v w := by
  cases joinable with
  | dicts => exact ⟨rfl, rfl⟩
  | lists => exact ⟨rfl, rfl⟩
  | leaves left right =>
      obtain ⟨plain, single⟩ := isLeaf_iff.mp left
      obtain ⟨plain', single'⟩ := isLeaf_iff.mp right
      exact ⟨plain.trans plain'.symm, single.trans single'.symm⟩

/-- What can be joined key by key is of one shape along every path. -/
theorem Joinable.compatible {v w : Value} (joinable : Joinable v w) : Compatible v w := by
  intro path x y keys here there
  induction path generalizing v w with
  | nil =>
      obtain rfl := Option.some.inj here
      obtain rfl := Option.some.inj there
      exact joinable.shape
  | cons key path ih =>
      obtain ⟨proper, keys⟩ := List.forall_mem_cons.mp keys
      cases joinable with
      | dicts _ _ each =>
          obtain ⟨v, found, here⟩ := Option.bind_eq_some_iff.mp here
          obtain ⟨w, found', there⟩ := Option.bind_eq_some_iff.mp there
          exact ih (each proper found found') keys here there
      | lists => cases here
      | leaves single _ =>
          rw [(at?_cons_of_not_isDict (isLeaf_iff.mp single).1 key path).1] at here
          cases here

end Fragment

/-! ## Telling whether fragments are compatible -/

namespace Value

mutual

/-- Whether two values are compatible, found out member by member. -/
def isCompatible : Value → Value → Bool
  | dict left, w => match w with
      | dict right => membersAreCompatible left right
      | _ => false
  | list _, w => w.isList
  | _, w => w.isLeaf
termination_by structural v => v

/-- Whether what two dictionaries have under the keys of the first one is compatible. -/
def membersAreCompatible : List (Value × Value) → Members → Bool
  | [], _ => true
  | (k, v) :: rest, right =>
      (match Members.lookup k right with
        | some w => isCompatible v w
        | none => true) && membersAreCompatible rest right
termination_by structural members => members

end

theorem membersAreCompatible_iff {left right : Members} :
    membersAreCompatible left right = true ↔
      ∀ member ∈ left, ∀ w, lookup member.1 right = some w →
        member.2.isCompatible w = true := by
  induction left with
  | nil => simp [membersAreCompatible]
  | cons member rest ih =>
      rw [membersAreCompatible, Bool.and_eq_true, ih, List.forall_mem_cons]
      cases found : lookup member.1 right <;> simp

end Value

namespace Fragment

theorem joinable_of_isCompatible {v w : Value} (ordinary : v.Ordinary) (ordinary' : w.Ordinary)
    (compatible : v.isCompatible w = true) : Joinable v w := by
  induction v using lookup_induction generalizing w with
  | dict left ih =>
      cases w with
      | dict right =>
          refine .dicts ordinary.keyed ordinary'.keyed fun {key v w} proper here there => ?_
          obtain ⟨own, held, same⟩ := exists_mem_of_lookup here
          rw [lookup_congr proper (ordinary.keyed.proper _ held) same] at there
          exact ih here (ordinary.lookup here) (ordinary'.lookup there)
            (membersAreCompatible_iff.mp compatible _ held w there)
      | _ => cases compatible
  | list items =>
      obtain ⟨others, rfl⟩ := exists_of_isList compatible
      exact .lists ordinary.quiet ordinary'.quiet
  | leaf v single =>
      refine .leaves single ?_
      cases v <;> first | exact compatible | cases single

theorem Compatible.isCompatible {v w : Value} (ordinary : v.Ordinary)
    (compatible : Compatible v w) : v.isCompatible w = true := by
  induction v using lookup_induction generalizing w with
  | dict left ih =>
      obtain ⟨right, rfl⟩ := exists_of_isDict compatible.shape.1.symm
      refine membersAreCompatible_iff.mpr fun member held w there => ?_
      have here := lookup_of_mem ordinary.keyed held
      exact ih here (ordinary.lookup here)
        (compatible.lookup (ordinary.keyed.proper member held) here there)
  | list items =>
      obtain ⟨others, rfl⟩ := exists_of_isList compatible.shape.2.symm
      rfl
  | leaf v single =>
      obtain ⟨plain, unlisted⟩ := isLeaf_iff.mp single
      have single' : w.isLeaf = true :=
        isLeaf_iff.mpr ⟨compatible.shape.1.symm.trans plain, compatible.shape.2.symm.trans unlisted⟩
      cases v <;> first | exact single' | cases single

/-- Ordinary values that are compatible can be joined key by key. -/
theorem Compatible.joinable {v w : Value} (compatible : Compatible v w) (ordinary : v.Ordinary)
    (ordinary' : w.Ordinary) : Joinable v w :=
  joinable_of_isCompatible ordinary ordinary' (compatible.isCompatible ordinary)

/-! ## Lists without repetitions, along paths -/

/-- In a value that repeats nothing, the items of a list that keys lead to are different, and the
other way round. -/
theorem isUnrepeated_iff {v : Value} (ordinary : v.Ordinary) :
    v.isUnrepeated = true ↔ ∀ path items, (∀ key ∈ path, key.isProper = true) →
      at? path v = some (.list items) → Different items := by
  constructor
  · intro unrepeated path items keys found
    induction path generalizing v with
    | nil =>
        obtain rfl := Option.some.inj found
        exact (of_decide_eq_true (Bool.and_eq_true_iff.mp unrepeated).1).imp same?_eq_some
    | cons key path ih =>
        obtain ⟨-, keys⟩ := List.forall_mem_cons.mp keys
        cases v with
        | dict members =>
            obtain ⟨inner, here, found⟩ := Option.bind_eq_some_iff.mp found
            obtain ⟨own, held⟩ := mem_of_lookup here
            exact ih (ordinary.lookup here) (membersAreUnrepeated_iff.mp unrepeated _ held) keys found
        | _ => cases found
  · intro different
    induction v using lookup_induction with
    | dict members ih =>
        refine membersAreUnrepeated_iff.mpr fun member held => ?_
        have here := lookup_of_mem ordinary.keyed held
        refine ih here (ordinary.lookup here) fun path items keys found => ?_
        refine different (member.1 :: path) items
          (List.forall_mem_cons.mpr ⟨ordinary.keyed.proper member held, keys⟩) ?_
        rw [at?_cons_of_lookup here, found]
    | list items =>
        have apart : Different items := different [] items (by simp) rfl
        refine Bool.and_eq_true_iff.mpr ⟨decide_eq_true (apart.imp_of_mem
          fun {x y} first second differ => ?_), ?_⟩
        · rw [Value.same?_of_quiet (ordinary.quiet x first) (ordinary.quiet y second), differ]
        · have free : anyHoldsMade items = false := (isQuiet_of_isNaNFree _ ordinary.nanFree).2
          rw [free, Bool.not_false]
    | leaf v single => cases v <;> first | rfl | cases single

/-! ## The monoid -/

variable {a b c both : Members}

theorem ordinary_merge (left : (Value.dict a).Ordinary) (right : (Value.dict b).Ordinary)
    (joined : merge? a b = some both) : (Value.dict both).Ordinary where
  proper := isProper_merge b left.proper (isProper_dict.mp right.proper).2 joined
  nanFree := nanFree_hereditary.merge left.nanFree right.nanFree joined

/-- What is joined of two fragments is compatible with the fragments that both are compatible
with. -/
theorem Compatible.merge (left : (Value.dict a).Ordinary) (right : (Value.dict b).Ordinary)
    (third : (Value.dict c).Ordinary) (first : Compatible (.dict a) (.dict b))
    (other : Compatible (.dict a) (.dict c)) (later : Compatible (.dict b) (.dict c))
    (joined : merge? a b = some both) : Compatible (.dict both) (.dict c) :=
  (Alike.merge (later.joinable right third) (first.joinable left right)
    (other.joinable left third) joined).compatible

/-- Joining is a monoid on the ordinary fragments that are compatible with one another: it does not
matter how three of them are grouped, down to the order of all keys and items, and what is joined is
ordinary and compatible again; the empty fragment changes nothing on either side; and a fragment in
which no list that keys lead to holds two equal items is joined with itself to itself. -/
theorem merge_monoid :
    (∀ {a b c : Members}, (Value.dict a).Ordinary → (Value.dict b).Ordinary →
      (Value.dict c).Ordinary → Compatible (.dict a) (.dict b) → Compatible (.dict a) (.dict c) →
      Compatible (.dict b) (.dict c) →
        ∃ ab bc abc, merge? a b = some ab ∧ merge? b c = some bc ∧ merge? ab c = some abc ∧
          merge? a bc = some abc ∧ (Value.dict ab).Ordinary ∧ Compatible (.dict ab) (.dict c)) ∧
    (∀ {a : Members}, (Value.dict a).Ordinary → merge? [] a = some a ∧ merge? a [] = some a) ∧
    ∀ {a : Members}, (Value.dict a).Ordinary →
      (∀ path items, (∀ key ∈ path, key.isProper = true) →
        at? path (.dict a) = some (.list items) → Different items) →
      merge? a a = some a := by
  refine ⟨?_, fun ordinary => ⟨empty_merge? ordinary.keyed, rfl⟩, fun ordinary different => ?_⟩
  · intro a b c left right third first other later
    have firstAlike : Alike a b := first.joinable left right
    have otherAlike : Alike a c := other.joinable left third
    have laterAlike : Alike b c := later.joinable right third
    obtain ⟨ab, inner⟩ := merge?_of_alike firstAlike
    obtain ⟨bc, outer⟩ := merge?_of_alike laterAlike
    have closed : Compatible (.dict ab) (.dict c) :=
      Compatible.merge left right third first other later inner
    have ordinary : (Value.dict ab).Ordinary := ordinary_merge left right inner
    obtain ⟨abc, whole⟩ := merge?_of_alike (closed.joinable ordinary third)
    have regrouped : merge? a bc = some abc :=
      merge?_assoc laterAlike firstAlike otherAlike inner outer whole
    exact ⟨ab, bc, abc, inner, outer, whole, regrouped, ordinary, closed⟩
  · exact merge?_self_of_unrepeated ordinary.proper ((isUnrepeated_iff ordinary).mpr different)

def sizeEntry : Members :=
  recordEntry [.str "size"] [("size", .dict (ofKeywords [("enum", .list [.str "S", .str "M"])]))]

def colourEntry : Members :=
  recordEntry [.str "colour", .str "size"]
    [("colour", .dict (ofKeywords [("type", .str "string")])),
      ("size", .dict (ofKeywords [("type", .str "string"), ("enum", .list [.str "M", .str "L"])]))]

def titleEntry : Members :=
  ofKeywords [("title", .str "Shirt"), ("properties",
    .dict (ofKeywords [("size", .dict (ofKeywords [("enum", .list [.str "XL", .str "S"])]))]))]

theorem merge_monoid_clothes :
    (∃ ab bc abc, merge? sizeEntry colourEntry = some ab ∧ merge? colourEntry titleEntry = some bc ∧
      merge? ab titleEntry = some abc ∧ merge? sizeEntry bc = some abc ∧
        (Value.dict ab).Ordinary ∧ Compatible (.dict ab) (.dict titleEntry)) ∧
      (merge? [] titleEntry = some titleEntry ∧ merge? titleEntry [] = some titleEntry) ∧
      merge? colourEntry colourEntry = some colourEntry := by
  have size : (Value.dict sizeEntry).Ordinary := ⟨by decide, by decide⟩
  have colour : (Value.dict colourEntry).Ordinary := ⟨by decide, by decide⟩
  have title : (Value.dict titleEntry).Ordinary := ⟨by decide, by decide⟩
  have first : Compatible (.dict sizeEntry) (.dict colourEntry) :=
    (joinable_of_isCompatible size colour (by decide)).compatible
  have other : Compatible (.dict sizeEntry) (.dict titleEntry) :=
    (joinable_of_isCompatible size title (by decide)).compatible
  have later : Compatible (.dict colourEntry) (.dict titleEntry) :=
    (joinable_of_isCompatible colour title (by decide)).compatible
  obtain ⟨assoc, unit, self⟩ := merge_monoid
  exact ⟨assoc size colour title first other later, unit title,
    self colour ((isUnrepeated_iff colour).mp (by decide))⟩

/-- A dictionary that comes after a list takes its place, so the grouping does matter where the
shapes differ. -/
example :
    let listed (n : Int) := ofKeywords [("items", .list [.int n])]
    let keyed := ofKeywords [("items", .dict [])]
    (merge? (listed 1) keyed).bind (merge? · (listed 2)) = some (listed 2) ∧
      (merge? keyed (listed 2)).bind (merge? (listed 1)) =
        some (ofKeywords [("items", .list [.int 1, .int 2])]) := ⟨rfl, rfl⟩

end Fragment

end Draftsman
