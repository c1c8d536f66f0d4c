/-
# Draftsman.Proofs.KeyPaths -- what a joined fragment holds under a path of keys

A path of keys leads through dictionaries (`Value.at?`).  It is cut off where a value on the way is
no dictionary (`Value.isCut`).  Under a path that the right one of two fragments does not cut off,
both joined hold what is joined there, if anything (`Joins.at?`).  So nothing is lost but what a
value of the right fragment takes the place of (`HeldAt`).

Two fragments can be joined exactly if the items of two lists under one path can be compared
(`merge?_isSome_iff`).
-/
import Draftsman.Proofs.Enumerations
import Draftsman.Proofs.Regrouping

namespace Draftsman

set_option autoImplicit false

open Value Members

namespace Value

/-! ## Paths of keys -/

def at? : List Value → Value → Option Value
  | [], v => some v
  | key :: path, dict members => (lookup key members).bind (at? path)
  | _ :: _, _ => none

/-- A path goes on from what its first key finds. -/
theorem at?_cons_of_lookup {key v : Value} {members : Members} (found : lookup key members = some v)
    (path : List Value) : at? (key :: path) (.dict members) = at? path v := by
  rw [at?, found]
  rfl

/-- The members of the dictionary that a path leads to; none where there is no dictionary. -/
def membersAt (path : List Value) (v : Value) : Members := ((at? path v).map members).getD []

/-- Whether a path comes to a value that is no dictionary before it ends. -/
def isCut : List Value → Value → Bool
  | [], _ => false
  | key :: path, dict members => (lookup key members).any (isCut path)
  | _ :: _, _ => true

def isDict : Value → Bool
  | dict _ => true
  | _ => false

theorem exists_of_isDict {v : Value} (dictionary : v.isDict = true) :
    ∃ members, v = dict members := by
  cases v <;> first | exact ⟨_, rfl⟩ | cases dictionary

/-- Induction along keys: what holds of all that is looked up in a dictionary is handed on to the
dictionary. -/
theorem lookup_induction {motive : Value → Prop}
    (dict : ∀ members : Members, (∀ {key v}, lookup key members = some v → motive v) →
      motive (.dict members))
    (list : ∀ items, motive (.list items)) (leaf : ∀ v : Value, v.isLeaf = true → motive v) :
    ∀ v, motive v
  | .dict members => dict members fun {_ v} _ => lookup_induction dict list leaf v
  | .list items => list items
  | .null | .bool _ | .int _ | .float _ | .str _ | .decimal _ | .primitive _ | .host _ | .pattern _
  | .tuple _ | .set _ => leaf _ rfl
termination_by v => sizeOf v
decreasing_by
  rename_i found
  obtain ⟨own, held⟩ := mem_of_lookup found
  have smaller := List.sizeOf_lt_of_mem held
  simp only [Prod.mk.sizeOf_spec, Value.dict.sizeOf_spec] at smaller ⊢
  omega

variable {path : List Value} {v : Value}

theorem exists_of_isCut_dict {key : Value} {members : Members}
    (cut : isCut (key :: path) (.dict members) = true) :
    ∃ inner, lookup key members = some inner ∧ isCut path inner = true := by
  rw [isCut] at cut
  cases found : lookup key members with
  | none => rw [found] at cut; cases cut
  | some inner => rw [found] at cut; exact ⟨inner, rfl, cut⟩

theorem exists_of_isCut (cut : isCut path v = true) :
    ∃ front rest w, path = front ++ rest ∧ rest ≠ [] ∧ at? front v = some w ∧ w.isDict = false := by
  induction path generalizing v with
  | nil => cases cut
  | cons key path ih =>
      cases v with
      | dict members =>
          obtain ⟨inner, found, cut⟩ := exists_of_isCut_dict cut
          obtain ⟨front, rest, w, rfl, filled, there, plain⟩ := ih cut
          exact ⟨key :: front, rest, w, rfl, filled, (at?_cons_of_lookup found front).trans there,
            plain⟩
      | _ => exact ⟨[], key :: path, _, rfl, List.cons_ne_nil _ _, rfl, rfl⟩

/-- Nothing stands under a path that is cut off. -/
theorem at?_of_isCut (cut : isCut path v = true) : at? path v = none := by
  induction path generalizing v with
  | nil => cases cut
  | cons key path ih =>
      cases v with
      | dict members =>
          obtain ⟨inner, found, cut⟩ := exists_of_isCut_dict cut
          rw [at?_cons_of_lookup found]
          exact ih cut
      | _ => rfl

theorem not_isCut_of_at? {w : Value} (found : at? path v = some w) : isCut path v = false :=
  Bool.eq_false_iff.mpr fun cut => by rw [at?_of_isCut cut] at found; cases found

end Value

namespace Fragment

/-! ## Joining under a path -/

/-- What is joined of two values, either of which may be missing. -/
inductive Joins : Option Value → Option Value → Option Value → Prop where
  | kept (left : Option Value) : Joins left none left
  | joined {left : Option Value} {right both : Value} (done : join? left right = some both) :
      Joins left (some right) (some both)

variable {left right both : Members} {path : List Value}

theorem Joins.cases {left right both : Option Value} (joins : Joins left right both) :
    (right = none ∧ both = left) ∨
      ∃ v own, right = some v ∧ both = some own ∧ join? left v = some own := by
  cases joins with
  | kept => exact .inl ⟨rfl, rfl⟩
  | joined done => exact .inr ⟨_, _, rfl, rfl, done⟩

theorem Joins.none_left (right : Option Value) : Joins none right right := by
  cases right with
  | none => exact .kept none
  | some value => exact .joined (join?_none value)

theorem joins_lookup (leftKeyed : left.Keyed) (rightKeyed : right.Keyed)
    (done : merge? left right = some both) {key : Value} (proper : key.isProper = true) :
    Joins (lookup key left) (lookup key right) (lookup key both) := by
  have merged := merged_of_merge? leftKeyed rightKeyed done
  have values := merged.values proper
  cases found : lookup key right with
  | none =>
      rw [found, joinAt?_none] at values
      exact values ▸ .kept _
  | some value =>
      have there : has key both = true := merged.has_iff.mpr (.inr (by rw [has, found]; rfl))
      obtain ⟨own, held⟩ := Option.isSome_iff_exists.mp there
      rw [held, found] at values
      rw [held]
      exact .joined values.symm

/-- The place of a value that is no dictionary is taken by one that is none either. -/
theorem isDict_of_join? {current : Option Value} {value joined : Value}
    (done : join? current value = some joined) : joined.isDict = value.isDict := by
  rcases join?_cases done with ⟨_, _, _, -, rfl, -, rfl⟩ | ⟨_, _, _, -, rfl, -, rfl⟩ | rfl <;> rfl

theorem join?_dict {current : Option Value} (plain : ∀ members, current ≠ some (.dict members))
    (members : Members) : join? current (.dict members) = some (.dict members) := by
  cases current with
  | none => rfl
  | some v => cases v <;> first | rfl | exact absurd rfl (plain _)

theorem join?_list {current : Option Value} (plain : ∀ items, current ≠ some (.list items))
    (items : List Value) : join? current (.list items) = some (.list items) := by
  cases current with
  | none => rfl
  | some v => cases v <;> first | rfl | exact absurd rfl (plain _)

/-- A value through which no path leads on. -/
theorem at?_cons_of_not_isDict {v : Value} (plain : v.isDict = false) (key : Value)
    (path : List Value) :
    at? (key :: path) v = none ∧ isCut (key :: path) v = true := by
  cases v <;> first | exact ⟨rfl, rfl⟩ | cases plain

/-- What is joined of two values is joined at every path, but for those that the right one cuts off:
nothing stands there. -/
theorem Joins.at? {left right both : Option Value} (keys : ∀ key ∈ path, key.isProper = true)
    (leftProper : ∀ v ∈ left, v.isProper = true) (rightProper : ∀ v ∈ right, v.isProper = true)
    (joins : Joins left right both) :
    if right.any (isCut path) = true then both.bind (Value.at? path) = none
    else Joins (left.bind (Value.at? path)) (right.bind (Value.at? path))
      (both.bind (Value.at? path)) := by
  induction path generalizing left right both with
  | nil =>
      have open' : right.any (isCut []) = false := by cases right <;> rfl
      rw [open', if_neg Bool.false_ne_true]
      simpa [Value.at?] using joins
  | cons key path ih =>
      obtain ⟨proper, keys⟩ := List.forall_mem_cons.mp keys
      cases joins with
      | kept => exact .kept _
      | @joined value joined done =>
          cases plain : value.isDict with
          | false =>
              -- the value itself cuts the path off
              have cut := (at?_cons_of_not_isDict plain key path).2
              have plain' := (isDict_of_join? done).trans plain
              rw [Option.any_some, cut, if_pos rfl]
              exact (at?_cons_of_not_isDict plain' key path).1
          | true =>
              obtain ⟨members, rfl⟩ := exists_of_isDict plain
              by_cases dicts : ∃ own, left = some (.dict own)
              · obtain ⟨own, rfl⟩ := dicts
                obtain ⟨both, merged, rfl⟩ := Option.map_eq_some_iff.mp done
                have ownProper := leftProper _ rfl
                have otherProper := rightProper _ rfl
                exact ih keys (fun v found => isProper_lookup ownProper found)
                  (fun v found => isProper_lookup otherProper found)
                  (joins_lookup (keyed_of_isProper ownProper) (keyed_of_isProper otherProper) merged
                    proper)
              · have alone := join?_dict (fun own same => dicts ⟨own, same⟩) members
                obtain rfl := Option.some.inj (alone.symm.trans done)
                have nothing : left.bind (Value.at? (key :: path)) = none := by
                  cases left with
                  | none => rfl
                  | some v => cases v <;> first | rfl | exact absurd ⟨_, rfl⟩ dicts
                rw [nothing, Option.any_some]
                split
                · rename_i cut
                  exact at?_of_isCut cut
                · exact .none_left _

section Fragments

variable (leftProper : (dict left).isProper = true) (rightProper : (dict right).isProper = true)
  (done : merge? left right = some both) (keys : ∀ key ∈ path, key.isProper = true)

include leftProper rightProper done keys

/-- Two fragments joined are joined at every path that the right one does not cut off. -/
theorem joins_at : if isCut path (.dict right) = true then at? path (.dict both) = none
    else Joins (at? path (.dict left)) (at? path (.dict right)) (at? path (.dict both)) := by
  have whole : Joins (some (.dict left)) (some (.dict right)) (some (.dict both)) :=
    .joined (by rw [join?, done]; rfl)
  exact whole.at? keys (by simpa using leftProper) (by simpa using rightProper)

/-- Where there is something, it is joined. -/
theorem joins_of_isSome (there : (at? path (.dict both)).isSome = true) :
    Joins (at? path (.dict left)) (at? path (.dict right)) (at? path (.dict both)) := by
  have here := joins_at leftProper rightProper done keys
  split at here
  · rw [here] at there
    cases there
  · exact here

/-- What the right fragment has under a path is joined there. -/
theorem join?_at {v : Value} (found : at? path (.dict right) = some v) :
    ∃ own, at? path (.dict both) = some own ∧ join? (at? path (.dict left)) v = some own := by
  have here := joins_at leftProper rightProper done keys
  rw [not_isCut_of_at? found, if_neg Bool.false_ne_true, found] at here
  rcases here.cases with ⟨absent, -⟩ | ⟨_, own, same, there, joined⟩
  · cases absent
  · cases same
    exact ⟨own, there, joined⟩

end Fragments

/-! ## Which fragments can be joined -/

/-- Two values of which the items of lists under one path can be compared. -/
def Comparable (left right : Value) : Prop :=
  ∀ path first second, (∀ key ∈ path, key.isProper = true) → at? path left = some (.list first) →
    at? path right = some (.list second) → (unique? (first ++ second)).isSome = true

theorem Comparable.member {key value current : Value}
    (comparable : Comparable (.dict left) (.dict right)) (proper : key.isProper = true)
    (here : lookup key left = some current) (there : lookup key right = some value) :
    Comparable current value := by
  intro path first second keys found found'
  refine comparable (key :: path) first second (List.forall_mem_cons.mpr ⟨proper, keys⟩) ?_ ?_
  · rw [at?_cons_of_lookup here, found]
  · rw [at?_cons_of_lookup there, found']

/-- Values that are comparable can be joined. -/
theorem join?_isSome_of_comparable (value : Value) {current : Value}
    (proper : current.isProper = true) (proper' : value.isProper = true)
    (comparable : Comparable current value) : (join? (some current) value).isSome = true := by
  induction value using lookup_induction generalizing current with
  | dict right ih =>
      by_cases dictionary : ∃ left, current = .dict left
      · obtain ⟨left, rfl⟩ := dictionary
        have keyed := keyed_of_isProper proper'
        rw [join?, Option.isSome_map]
        refine merge?_isSome (keyed_of_isProper proper) keyed fun member held => ?_
        -- only a member that both have is compared
        cases found : lookup member.1 left with
        | none =>
            rw [join?_none]
            rfl
        | some inner =>
            have there := lookup_of_mem keyed held
            exact ih there (isProper_lookup proper found) (isProper_lookup proper' there)
              (comparable.member (keyed.proper member held) found there)
      · rw [join?_dict fun left same => dictionary ⟨left, Option.some.inj same⟩]
        rfl
  | list second =>
      by_cases listed : ∃ first, current = .list first
      · obtain ⟨first, rfl⟩ := listed
        rw [join?, Option.isSome_map]
        exact comparable [] first second (by simp) rfl rfl
      · rw [join?_list fun first same => listed ⟨first, Option.some.inj same⟩]
        rfl
  | leaf value single =>
      rw [join?_leaf single]
      rfl

/-- Two fragments can be joined exactly if the items of two lists under one path can be compared. -/
theorem merge?_isSome_iff (leftProper : (Value.dict left).isProper = true)
    (rightProper : (Value.dict right).isProper = true) :
    (merge? left right).isSome = true ↔ Comparable (.dict left) (.dict right) := by
  constructor
  · intro done path first second keys found found'
    obtain ⟨both, done⟩ := Option.isSome_iff_exists.mp done
    obtain ⟨own, -, joined⟩ := join?_at leftProper rightProper done keys found'
    rw [found, join?] at joined
    obtain ⟨kept, unique, -⟩ := Option.map_eq_some_iff.mp joined
    rw [unique]
    rfl
  · intro comparable
    have joined := join?_isSome_of_comparable _ leftProper rightProper comparable
    rwa [join?, Option.isSome_map] at joined

/-! ## What is held where -/

/-- What stands under a path in two fragments joined, from what stands there in each of them. -/
structure HeldAt (path : List Value) (left right both : Value) : Prop where
  /-- What the right one has there stays, unless it is a list or a dictionary. -/
  overwritten : ∀ {v}, at? path right = some v → v.isLeaf = true → at? path both = some v
  /-- Two lists are pooled. -/
  pooled : ∀ {first second}, at? path left = some (.list first) →
    at? path right = some (.list second) →
      ∃ kept, at? path both = some (.list kept) ∧ Pooled first second kept
  /-- A list of the right one alone stays. -/
  listed : ∀ {items}, at? path right = some (.list items) →
    (∀ others, at? path left ≠ some (.list others)) → at? path both = some (.list items)
  /-- What the left one has there stays where the right one has nothing, unless some value of the
  right one that is no dictionary takes the place of what is around it. -/
  kept : ∀ {v}, at? path left = some v → at? path right = none →
    (∀ front rest w, path = front ++ rest → rest ≠ [] → at? front right = some w →
      w.isDict = true) → at? path both = some v
  /-- What there is comes from a place in one of the two. -/
  origin : (at? path both).isSome = true →
    (at? path left).isSome = true ∨ (at? path right).isSome = true
  /-- The keys of the left one come first, in their order, then the new ones of the right one. -/
  order : ∀ {members}, at? path both = some (.dict members) →
    members.map Prod.fst = (membersAt path left).map Prod.fst ++
      ((membersAt path right).map Prod.fst).filter fun key => !has key (membersAt path left)

theorem keys_of_join? {current : Option Value} {value : Value} {members : Members}
    (currentProper : ∀ v ∈ current, v.isProper = true) (valueProper : value.isProper = true)
    (done : join? current value = some (.dict members)) :
    members.map Prod.fst = ((current.map Value.members).getD []).map Prod.fst ++
      (value.members.map Prod.fst).filter fun key =>
        !has key ((current.map Value.members).getD []) := by
  obtain ⟨right, rfl⟩ := exists_of_isDict ((isDict_of_join? done).symm.trans rfl)
  by_cases dictionary : ∃ left, current = some (.dict left)
  · obtain ⟨left, rfl⟩ := dictionary
    obtain ⟨both, merged, same⟩ := Option.map_eq_some_iff.mp done
    obtain rfl := Value.dict.inj same
    exact (merged_of_merge? (keyed_of_isProper (currentProper _ rfl))
      (keyed_of_isProper valueProper) merged).keys
  · obtain rfl := Value.dict.inj (Option.some.inj
      ((join?_dict (fun left same => dictionary ⟨left, same⟩) right).symm.trans done))
    have nothing : (current.map Value.members).getD [] = [] := by
      cases current with
      | none => rfl
      | some v => cases v <;> first | rfl | exact absurd ⟨_, rfl⟩ dictionary
    simp [nothing, has, lookup, Value.members]

theorem isProper_at? {v whole : Value} (proper : whole.isProper = true)
    (found : at? path whole = some v) : v.isProper = true := by
  induction path generalizing whole with
  | nil => exact Option.some.inj found ▸ proper
  | cons key path ih =>
      cases whole with
      | dict members =>
          obtain ⟨inner, there, found⟩ := Option.bind_eq_some_iff.mp found
          exact ih (isProper_lookup proper there) found
      | _ => cases found

theorem heldAt_of_merge? (leftProper : (dict left).isProper = true)
    (rightProper : (dict right).isProper = true) (done : merge? left right = some both)
    (keys : ∀ key ∈ path, key.isProper = true) :
    HeldAt path (.dict left) (.dict right) (.dict both) where
  overwritten {v} found leaf := by
    obtain ⟨own, there, joined⟩ := join?_at leftProper rightProper done keys found
    rw [there, ← joined, join?_leaf leaf]
  pooled {first second} here found := by
    obtain ⟨own, there, joined⟩ := join?_at leftProper rightProper done keys found
    rw [here, join?] at joined
    obtain ⟨kept, unique, rfl⟩ := Option.map_eq_some_iff.mp joined
    exact ⟨kept, there, pooled_of_unique? unique⟩
  listed {items} found alone := by
    obtain ⟨own, there, joined⟩ := join?_at leftProper rightProper done keys found
    rw [there, ← joined, join?_list alone]
  kept {v} here absent around := by
    have held := joins_at leftProper rightProper done keys
    have uncut : ¬isCut path (.dict right) = true := fun cut => by
      obtain ⟨front, rest, w, split, filled, found, plain⟩ := exists_of_isCut cut
      rw [around front rest w split filled found] at plain
      cases plain
    rw [if_neg uncut, here] at held
    rcases held.cases with ⟨-, same⟩ | ⟨_, _, found, -⟩
    · exact same
    · rw [absent] at found
      cases found
  origin there := by
    have held := joins_of_isSome leftProper rightProper done keys there
    rcases held.cases with ⟨-, same⟩ | ⟨_, _, found, -⟩
    · exact .inl (same ▸ there)
    · exact .inr (Option.isSome_of_eq_some found)
  order {members} there := by
    have held := joins_of_isSome leftProper rightProper done keys (Option.isSome_of_eq_some there)
    rcases held.cases with ⟨absent, same⟩ | ⟨v, _, found, there', joined⟩
    · simp [membersAt, absent, ← same, there, Value.members]
    · cases there.symm.trans there'
      rw [membersAt, membersAt, found]
      exact keys_of_join? (fun v found => isProper_at? leftProper found)
        (isProper_at? rightProper found) joined

/-- Two fragments can be joined exactly if the items of two lists under one path can be compared;
joined, they hold under every path what the two hold there. -/
theorem merge_by_path (leftProper : (dict left).isProper = true)
    (rightProper : (dict right).isProper = true) :
    ((merge? left right).isSome = true ↔ Comparable (.dict left) (.dict right)) ∧
      ∀ both, merge? left right = some both → ∀ path : List Value,
        (∀ key ∈ path, key.isProper = true) → HeldAt path (.dict left) (.dict right) (.dict both) :=
  ⟨merge?_isSome_iff leftProper rightProper, fun _ done _ keys =>
    heldAt_of_merge? leftProper rightProper done keys⟩

def recordEntry (required : List Value) (properties : List (String × Value)) : Members :=
  ofKeywords [("required", .list required), ("properties", .dict (ofKeywords properties))]

def shirtEntry : Members :=
  recordEntry [.str "size"] [("size", .dict (ofKeywords [("enum", .list [.str "S", .str "M"])])),
    ("colour", .dict (ofKeywords [("type", .str "string")]))]

def coatEntry : Members :=
  recordEntry [.str "colour"] [("colour", .str "any"),
    ("size", .dict (ofKeywords [("enum", .list [.str "M", .str "L"])]))]

theorem merge_by_path_clothes : ∃ both, merge? shirtEntry coatEntry = some both ∧
    (∃ sizes, at? [.str "properties", .str "size", .str "enum"] (.dict both) = some (.list sizes) ∧
      Pooled [.str "S", .str "M"] [.str "M", .str "L"] sizes) ∧
    at? [.str "properties", .str "colour"] (.dict both) = some (.str "any") := by
  obtain ⟨-, held⟩ := @merge_by_path shirtEntry coatEntry (by decide) (by decide)
  refine ⟨_, rfl, (held _ rfl _ (by decide)).pooled rfl rfl, ?_⟩
  exact (held _ rfl [.str "properties", .str "colour"] (by decide)).overwritten rfl rfl

/-- A signaling decimal cannot be compared with a number, so two lists of them have no union. -/
theorem merge_signaling :
    let left := ofKeywords [("enum", .list [.decimal (.nan true false 0 0)])]
    let right := ofKeywords [("enum", .list [.int 1])]
    (Value.dict left).isProper = true ∧ (Value.dict right).isProper = true ∧
      at? [.str "enum"] (.dict left) = some (.list [.decimal (.nan true false 0 0)]) ∧
      at? [.str "enum"] (.dict right) = some (.list [.int 1]) ∧ merge? left right = none :=
  ⟨by decide, by decide, rfl, rfl, rfl⟩

end Fragment

end Draftsman
