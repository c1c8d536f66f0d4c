/-
# Draftsman.Proofs.Regrouping -- fragments joined in any grouping

Values can be joined in any grouping if they are of one shape wherever two of them have something:
dictionaries, lists that can be compared, or neither (`Joinable`).  What is not so may be lost: a
dictionary that comes after a list takes its place, and a list that is compared before it is
needed may fail.

* `join?_assoc`: joining is associative for such values;
* `foldlM_merge?_append`: fragments joined one after the other are the first ones and the last
  ones, each joined among themselves, joined.
-/
import Draftsman.Proofs.Merging

namespace Draftsman

set_option autoImplicit false

open Value Members

namespace Fragment

/-- Two values of one shape: dictionaries with values of one shape wherever both have something,
lists without signaling decimals, or neither. -/
inductive Joinable : Value → Value → Prop where
  | dicts {left right : Members} (leftKeyed : left.Keyed) (rightKeyed : right.Keyed)
      (each : ∀ {key v w}, key.isProper = true → lookup key left = some v →
        lookup key right = some w → Joinable v w) : Joinable (.dict left) (.dict right)
  | lists {left right : List Value} (leftQuiet : ∀ item ∈ left, item.isQuiet = true)
      (rightQuiet : ∀ item ∈ right, item.isQuiet = true) : Joinable (.list left) (.list right)
  | leaves {v w : Value} (left : v.isLeaf = true) (right : w.isLeaf = true) : Joinable v w

namespace Joinable

variable {u v w joined : Value}

theorem symm (joinable : Joinable v w) : Joinable w v := by
  induction joinable with
  | dicts leftKeyed rightKeyed _ ih =>
      exact .dicts rightKeyed leftKeyed fun proper there here => ih proper here there
  | lists leftQuiet rightQuiet => exact .lists rightQuiet leftQuiet
  | leaves left right => exact .leaves right left

/-- The empty dictionary is of one shape with every dictionary. -/
theorem nil {fragment : Members} (keyed : fragment.Keyed) : Joinable (.dict []) (.dict fragment) :=
  .dicts .nil keyed fun _ found => by cases found

theorem keyed {left right : Members} (joinable : Joinable (.dict left) (.dict right)) :
    left.Keyed ∧ right.Keyed := by
  cases joinable with
  | dicts leftKeyed rightKeyed _ => exact ⟨leftKeyed, rightKeyed⟩
  | leaves left _ => cases left

theorem each {left right : Members} (joinable : Joinable (.dict left) (.dict right)) {key : Value}
    (proper : key.isProper = true) (here : lookup key left = some v)
    (there : lookup key right = some w) : Joinable v w := by
  cases joinable with
  | dicts _ _ each => exact each proper here there
  | leaves left _ => cases left

theorem quiet {left right : List Value} (joinable : Joinable (.list left) (.list right)) :
    (∀ item ∈ left, item.isQuiet = true) ∧ ∀ item ∈ right, item.isQuiet = true := by
  cases joinable with
  | lists leftQuiet rightQuiet => exact ⟨leftQuiet, rightQuiet⟩
  | leaves left _ => cases left

theorem dict_right {left : Members} (joinable : Joinable (.dict left) w) :
    ∃ right, w = .dict right := by
  cases joinable with
  | dicts => exact ⟨_, rfl⟩
  | leaves left _ => cases left

theorem list_right {left : List Value} (joinable : Joinable (.list left) w) :
    ∃ right, w = .list right := by
  cases joinable with
  | lists => exact ⟨_, rfl⟩
  | leaves left _ => cases left

end Joinable

/-- Of two values of which the right one is neither a list nor a dictionary it is the right one
that stays. -/
theorem join?_leaf {value : Value} (leaf : value.isLeaf = true) (current : Option Value) :
    join? current value = some value := by
  cases value <;> first | rfl | cases leaf

/-! ## Joining what can be joined -/

/-- Values of one shape can be joined. -/
theorem join?_of_joinable {v w : Value} (joinable : Joinable v w) :
    ∃ joined, join? (some v) w = some joined := by
  induction joinable with
  | @dicts left right leftKeyed rightKeyed each ih =>
      have single : ∀ member ∈ right, (join? (lookup member.1 left) member.2).isSome = true := by
        intro member held
        cases found : lookup member.1 left with
        | none => simp
        | some v =>
            obtain ⟨joined, done⟩ :=
              ih (rightKeyed.proper member held) found (lookup_of_mem rightKeyed held)
            simp [done]
      obtain ⟨both, joined⟩ :=
        Option.isSome_iff_exists.mp (merge?_isSome leftKeyed rightKeyed single)
      exact ⟨.dict both, by simp [join?, joined]⟩
  | @lists left right leftQuiet rightQuiet =>
      obtain ⟨kept, unique⟩ := Option.isSome_iff_exists.mp
        (unique?_of_quiet (List.forall_mem_append.mpr ⟨leftQuiet, rightQuiet⟩))
      exact ⟨.list kept, by simp [join?, unique]⟩
  | @leaves v w left right => exact ⟨w, join?_leaf right _⟩

/-- What is joined of dictionaries is known key by key. -/
theorem merged_of_join? {left right : Members} {joined : Value}
    (joinable : Joinable (.dict left) (.dict right))
    (done : join? (some (.dict left)) (.dict right) = some joined) :
    ∃ both, joined = .dict both ∧ Merged left right both := by
  obtain ⟨both, merged, rfl⟩ := Option.map_eq_some_iff.mp done
  exact ⟨both, rfl, merged_of_merge? joinable.keyed.1 joinable.keyed.2 merged⟩

theorem join?_of_merge? {left right both : Members} (merged : merge? left right = some both) :
    join? (some (.dict left)) (.dict right) = some (.dict both) := by
  rw [join?, merged]
  rfl

theorem distinct_of_join? {left right : List Value} {joined : Value}
    (done : join? (some (.list left)) (.list right) = some joined) :
    joined = .list (distinct (left ++ right)) := by
  obtain ⟨kept, unique, rfl⟩ := Option.map_eq_some_iff.mp done
  rw [eq_distinct unique]

theorem join?_lists {left right : List Value}
    (quiet : ∀ item ∈ left ++ right, item.isQuiet = true) :
    join? (some (.list left)) (.list right) = some (.list (distinct (left ++ right))) := by
  rw [join?, unique?_eq_distinct quiet]
  rfl

/-- What is of one shape with two values is so with both joined. -/
theorem Joinable.join {v w : Value} (later : Joinable v w) : ∀ {u joined : Value},
    Joinable u v → Joinable u w → join? (some u) v = some joined → Joinable joined w := by
  induction later with
  | @dicts left right leftKeyed rightKeyed each ih =>
      intro u joined first other done
      obtain ⟨outer, rfl⟩ := first.symm.dict_right
      obtain ⟨both, rfl, merged⟩ := merged_of_join? first done
      refine .dicts merged.keyed rightKeyed fun {key x w} proper here there => ?_
      rw [merged.values proper] at here
      cases inner : lookup key left with
      | none =>
          rw [inner, joinAt?_none] at here
          exact other.each proper here there
      | some v =>
          cases before : lookup key outer with
          | none =>
              rw [before, inner, none_joinAt?] at here
              exact Option.some.inj here ▸ each proper inner there
          | some u =>
              rw [before, inner] at here
              exact ih proper inner there (first.each proper before inner)
                (other.each proper before there) here
  | @lists left right leftQuiet rightQuiet =>
      intro u joined first other done
      obtain ⟨outer, rfl⟩ := first.symm.list_right
      rw [distinct_of_join? done]
      refine .lists (fun item held => ?_) rightQuiet
      rcases List.mem_append.mp (mem_distinct held) with old | new
      · exact first.quiet.1 item old
      · exact leftQuiet item new
  | @leaves v w left right =>
      intro u joined first other done
      rw [join?_leaf left] at done
      exact .leaves (Option.some.inj done ▸ left) right

/-! ## Grouping -/

/-- Joining under one key is associative if it is so for three values there. -/
theorem joinAt?_assoc {a b c : Option Value}
    (first : ∀ {u v}, a = some u → b = some v → Joinable u v)
    (other : ∀ {u w}, a = some u → c = some w → Joinable u w)
    (later : ∀ {v w}, b = some v → c = some w → Joinable v w)
    (assoc : ∀ {u v w inner outer whole}, b = some v → c = some w → Joinable u v → Joinable u w →
      join? (some u) v = some inner → join? (some v) w = some outer →
        join? (some inner) w = some whole → join? (some u) outer = some whole) :
    joinAt? (joinAt? a b) c = joinAt? a (joinAt? b c) := by
  cases c with
  | none => rw [joinAt?_none, joinAt?_none]
  | some w =>
      cases b with
      | none => rw [joinAt?_none, none_joinAt?]
      | some v =>
          cases a with
          | none => rw [none_joinAt?, none_joinAt?]
          | some u =>
              obtain ⟨inner, innerDone⟩ := join?_of_joinable (first rfl rfl)
              obtain ⟨outer, outerDone⟩ := join?_of_joinable (later rfl rfl)
              obtain ⟨whole, wholeDone⟩ := join?_of_joinable
                ((later rfl rfl).join (first rfl rfl) (other rfl rfl) innerDone)
              have regrouped := assoc rfl rfl (first rfl rfl) (other rfl rfl) innerDone outerDone
                wholeDone
              simp only [joinAt?, innerDone, outerDone, wholeDone, regrouped]

/-- Joining is associative for values of one shape. -/
theorem join?_assoc {v w : Value} (later : Joinable v w) : ∀ {u inner outer whole : Value},
    Joinable u v → Joinable u w → join? (some u) v = some inner → join? (some v) w = some outer →
      join? (some inner) w = some whole → join? (some u) outer = some whole := by
  induction later with
  | @dicts b c bKeyed cKeyed each ih =>
      intro u inner outer whole first other innerDone outerDone wholeDone
      obtain ⟨a, rfl⟩ := first.symm.dict_right
      have both : Joinable (.dict b) (.dict c) := .dicts bKeyed cKeyed each
      have innerJoinable := both.join first other innerDone
      obtain ⟨ab, rfl, left⟩ := merged_of_join? first innerDone
      obtain ⟨bc, rfl, right⟩ := merged_of_join? both outerDone
      obtain ⟨abc, rfl, all⟩ := merged_of_join? innerJoinable wholeDone
      suffices merged : Merged a bc abc from
        join?_of_merge? ((merge?_iff first.keyed.1 right.keyed).mpr merged)
      refine ⟨all.keyed, ?_, fun {key} proper => ?_⟩
      · -- the new keys of the third are those that neither of the others has
        have fresh (key : Value) : (!has key ab) = (!has key a && !has key b) := by
          rw [← Bool.not_or, Bool.not_inj_iff, Bool.eq_iff_iff, left.has_iff, Bool.or_eq_true]
        rw [all.keys, left.keys, right.keys, List.filter_append, List.filter_filter,
          List.append_assoc, List.filter_congr fun key _ => fresh key]
      · rw [all.values proper, left.values proper, right.values proper]
        exact joinAt?_assoc (fun found found' => first.each proper found found')
          (fun found found' => other.each proper found found')
          (fun found found' => each proper found found')
          fun found found' => ih proper found found'
  | @lists left right leftQuiet rightQuiet =>
      intro u inner outer whole first other innerDone outerDone wholeDone
      obtain ⟨items, rfl⟩ := first.symm.list_right
      rw [distinct_of_join? innerDone] at wholeDone
      have quiet : ∀ item ∈ items ++ distinct (left ++ right), item.isQuiet = true := by
        refine List.forall_mem_append.mpr ⟨first.quiet.1, fun item held => ?_⟩
        exact List.forall_mem_append.mpr ⟨leftQuiet, rightQuiet⟩ item (mem_distinct held)
      rw [distinct_of_join? outerDone, join?_lists quiet, distinct_of_join? wholeDone,
        distinct_append_right, distinct_append_left, List.append_assoc]
  | @leaves v w left right =>
      intro u inner outer whole first other innerDone outerDone wholeDone
      rw [join?_leaf right] at outerDone wholeDone
      rw [← Option.some.inj outerDone, join?_leaf right, wholeDone]

/-! ## Several fragments -/

/-- Fragments of which all keys agree in shape. -/
abbrev Alike (fragment other : Members) : Prop := Joinable (.dict fragment) (.dict other)

variable {a b c base joined : Members} {fragments : List Members}

theorem merge?_of_alike (alike : Alike a b) : ∃ both, merge? a b = some both := by
  obtain ⟨whole, done⟩ := join?_of_joinable alike
  obtain ⟨both, merged, -⟩ := Option.map_eq_some_iff.mp done
  exact ⟨both, merged⟩

/-- What is alike to two fragments is so to both joined. -/
theorem Alike.merge (later : Alike b c) (first : Alike a b) (other : Alike a c)
    (merged : merge? a b = some joined) : Alike joined c :=
  Joinable.join later first other (join?_of_merge? merged)

/-- Joining is associative for fragments that are alike. -/
theorem merge?_assoc {ab bc abc : Members} (later : Alike b c) (first : Alike a b)
    (other : Alike a c) (inner : merge? a b = some ab) (outer : merge? b c = some bc)
    (whole : merge? ab c = some abc) : merge? a bc = some abc := by
  have regrouped := join?_assoc later first other (join?_of_merge? inner) (join?_of_merge? outer)
    (join?_of_merge? whole)
  obtain ⟨both, merged, same⟩ := Option.map_eq_some_iff.mp regrouped
  rw [merged, Value.dict.inj same]

/-- Fragments that are alike can be joined one after the other, and what is alike to all of them
is alike to the outcome. -/
theorem foldlM_merge?_alike (each : ∀ own ∈ fragments, Alike base own)
    (pairwise : fragments.Pairwise Alike) :
    ∃ joined, fragments.foldlM merge? base = some joined ∧
      ∀ {other}, Alike base other → (∀ own ∈ fragments, Alike own other) → Alike joined other := by
  induction fragments generalizing base with
  | nil => exact ⟨base, rfl, fun alike _ => alike⟩
  | cons own rest ih =>
      obtain ⟨first, others⟩ := List.forall_mem_cons.mp each
      obtain ⟨apart, later⟩ := List.pairwise_cons.mp pairwise
      obtain ⟨next, merged⟩ := merge?_of_alike first
      obtain ⟨joined, done, alike⟩ := ih
        (fun other held => (apart other held).merge first (others other held) merged) later
      refine ⟨joined, by rw [List.foldlM_cons, merged]; exact done, fun here all => ?_⟩
      obtain ⟨own, all⟩ := List.forall_mem_cons.mp all
      exact alike (own.merge first here merged) all

/-- Joining several fragments to two that are joined is joining them to the second one first. -/
theorem foldlM_merge?_of_merge {first start : Members} (merged : merge? base first = some start)
    (alike : Alike base first) (baseAlike : ∀ own ∈ fragments, Alike base own)
    (firstAlike : ∀ own ∈ fragments, Alike first own) (pairwise : fragments.Pairwise Alike) :
    fragments.foldlM merge? start = (fragments.foldlM merge? first).bind (merge? base) := by
  induction fragments generalizing first start with
  | nil => exact merged.symm
  | cons own rest ih =>
      obtain ⟨baseOwn, baseRest⟩ := List.forall_mem_cons.mp baseAlike
      obtain ⟨firstOwn, firstRest⟩ := List.forall_mem_cons.mp firstAlike
      obtain ⟨apart, later⟩ := List.pairwise_cons.mp pairwise
      obtain ⟨next, nextMerged⟩ := merge?_of_alike firstOwn
      obtain ⟨after, afterMerged⟩ := merge?_of_alike (firstOwn.merge alike baseOwn merged)
      have regrouped : merge? base next = some after :=
        merge?_assoc firstOwn alike baseOwn merged nextMerged afterMerged
      have nextAlike : Alike base next :=
        (Alike.merge baseOwn.symm firstOwn alike.symm nextMerged).symm
      rw [List.foldlM_cons, List.foldlM_cons, nextMerged, afterMerged]
      exact ih regrouped nextAlike baseRest
        (fun other held => (apart other held).merge firstOwn (firstRest other held) nextMerged) later

/-- Fragments joined one after the other are the first ones and the last ones, each joined among
themselves, joined. -/
theorem foldlM_merge?_append {first second : List Members}
    (keyed : ∀ own ∈ first ++ second, own.Keyed) (pairwise : (first ++ second).Pairwise Alike) :
    (first ++ second).foldlM merge? [] =
      (first.foldlM merge? []).bind fun base => (second.foldlM merge? []).bind (merge? base) := by
  obtain ⟨firstKeyed, secondKeyed⟩ := List.forall_mem_append.mp keyed
  obtain ⟨firstAlike, secondAlike, across⟩ := List.pairwise_append.mp pairwise
  obtain ⟨base, done, alike⟩ :=
    foldlM_merge?_alike (fun own held => Joinable.nil (firstKeyed own held)) firstAlike
  rw [List.foldlM_append, done]
  exact foldlM_merge?_of_merge rfl (alike (Joinable.nil .nil) fun own held =>
      (Joinable.nil (firstKeyed own held)).symm)
    (fun own held => alike (Joinable.nil (secondKeyed own held)) fun other there =>
      across other there own held)
    (fun own held => Joinable.nil (secondKeyed own held)) secondAlike

end Fragment

end Draftsman
