/-
# Draftsman.Proofs.Joining -- what two joined fragments hold

Joining goes from member to member of the right fragment.  Where the names of that
fragment are different, the outcome can be told name by name:

* `get?_merge_of_none`: what only the left fragment has stays as it is;
* `get?_merge_of_some`: what the right fragment has is joined into what the left one has
  under the same name;
* `get?_merge_cases`: nothing else is there, and `mem_keys_merge` says so of the keys;
* `Named.merge`: the names stay different.

A property of values that a collection has exactly if its contents have it cannot be
lost by joining (`Hereditary.merge`), and follows from another such property if it does so for
single values (`Hereditary.imp`).
-/
import Draftsman.Proofs.Dictionary
import Draftsman.Proofs.Distinct

namespace Draftsman

set_option autoImplicit false

def Value.isLeaf : Value → Bool
  | list _ | dict _ => false
  | _ => true

namespace Fragment

open Members

/-! ## One member after the other -/

theorem merge?_nil {left merged : Members} : merge? left [] = some merged ↔ left = merged := by
  simp [merge?]

theorem merge?_cons {left rest merged : Members} {member : Value × Value} :
    merge? left (member :: rest) = some merged ↔
      ∃ joined, join? (lookup member.1 left) member.2 = some joined ∧
        merge? (Members.insert member.1 joined left) rest = some merged := by
  obtain ⟨key, value⟩ := member
  simp [merge?, Option.bind_eq_some_iff]

/-- The joined value, by what is there before and what comes in. -/
theorem join?_cases {current : Option Value} {value joined : Value}
    (done : join? current value = some joined) :
    (∃ left right both, current = some (.dict left) ∧ value = .dict right ∧
        merge? left right = some both ∧ joined = .dict both) ∨
      (∃ left right kept, current = some (.list left) ∧ value = .list right ∧
        unique? (left ++ right) = some kept ∧ joined = .list kept) ∨
      joined = value := by
  cases value with
  | dict right =>
      simp only [join?] at done
      split at done
      · rename_i left
        obtain ⟨both, merged, rfl⟩ := Option.map_eq_some_iff.mp done
        exact .inl ⟨left, right, both, rfl, rfl, merged, rfl⟩
      · exact .inr (.inr (Option.some.inj done).symm)
  | list right =>
      simp only [join?] at done
      split at done
      · rename_i left
        obtain ⟨kept, unique, rfl⟩ := Option.map_eq_some_iff.mp done
        exact .inr (.inl ⟨left, right, kept, rfl, rfl, unique, rfl⟩)
      · exact .inr (.inr (Option.some.inj done).symm)
  | _ => exact .inr (.inr (by simpa [join?] using done.symm))

/-! ## Name by name -/

/-- What only the left fragment has stays as it is. -/
theorem get?_merge_of_none {left right merged : Members} {name : String} (named : Named right)
    (joined : merge? left right = some merged) (absent : get? name right = none) :
    get? name merged = get? name left := by
  induction right generalizing left with
  | nil => rw [merge?_nil.mp joined]
  | cons member rest ih =>
      obtain ⟨own, text, -⟩ := named.head
      obtain ⟨both, -, later⟩ := merge?_cons.mp joined
      rw [get?_cons, text] at absent
      have differ : own ≠ name := fun same => by simp [same] at absent
      rw [ih named.tail later (by simpa [differ] using absent), get?_insert text]
      simp [differ]

/-- What the right fragment has is joined into what the left one has there. -/
theorem get?_merge_of_some {left right merged : Members} {name : String} {value : Value}
    (named : Named right) (joined : merge? left right = some merged)
    (found : get? name right = some value) :
    ∃ both, join? (get? name left) value = some both ∧ get? name merged = some both := by
  induction right generalizing left with
  | nil => simp at found
  | cons member rest ih =>
      obtain ⟨own, text, fresh⟩ := named.head
      obtain ⟨both, done, later⟩ := merge?_cons.mp joined
      rw [get?_cons, text] at found
      by_cases same : own = name
      · subst same
        obtain rfl : member.2 = value := by simpa using found
        refine ⟨both, by rwa [lookup_of_text? text] at done, ?_⟩
        rw [get?_merge_of_none named.tail later (get?_eq_none_iff.mpr fresh), get?_insert text]
        simp
      · obtain ⟨whole, done', there⟩ := ih named.tail later (by simpa [same] using found)
        refine ⟨whole, ?_, there⟩
        rwa [get?_insert text, if_neg same] at done'

/-- A name of either fragment is a name of both joined, and there are no others. -/
theorem mem_names_merge {left right merged : Members} {name : String} (named : Named right)
    (joined : merge? left right = some merged) :
    name ∈ merged.names ↔ name ∈ left.names ∨ name ∈ right.names := by
  cases found : get? name right with
  | none =>
      have same := get?_merge_of_none named joined found
      simp [← get?_isSome, same, found]
  | some value =>
      obtain ⟨both, -, there⟩ := get?_merge_of_some named joined found
      simp [← get?_isSome, there, found]

/-- What stands under a name after joining comes from one of the fragments, or from both
of them joined. -/
theorem get?_merge_cases {left right merged : Members} {name : String} {value : Value}
    (named : Named right) (joined : merge? left right = some merged)
    (found : get? name merged = some value) :
    (get? name left = some value ∧ get? name right = none) ∨
      (get? name left = none ∧ get? name right = some value) ∨
        ∃ old new, get? name left = some old ∧ get? name right = some new ∧
          join? (some old) new = some value := by
  cases incoming : get? name right with
  | none =>
      rw [get?_merge_of_none named joined incoming] at found
      exact .inl ⟨found, rfl⟩
  | some new =>
      obtain ⟨both, done, there⟩ := get?_merge_of_some named joined incoming
      obtain rfl : both = value := Option.some.inj (there.symm.trans found)
      cases present : get? name left with
      | none =>
          rw [present] at done
          obtain rfl : new = both := by cases new <;> simpa [join?] using done
          exact .inr (.inl ⟨rfl, rfl⟩)
      | some old => exact .inr (.inr ⟨old, new, rfl, rfl, present ▸ done⟩)

/-- Joining brings in no keys but those of the two fragments. -/
theorem mem_keys_merge {left right merged : Members} {member : Value × Value}
    (joined : merge? left right = some merged) (held : member ∈ merged) :
    ∃ old ∈ left ++ right, old.1 = member.1 := by
  induction right generalizing left with
  | nil => exact ⟨member, by simpa [merge?_nil.mp joined] using held, rfl⟩
  | cons first rest ih =>
      obtain ⟨both, -, later⟩ := merge?_cons.mp joined
      obtain ⟨old, there, same⟩ := ih later
      rcases List.mem_append.mp there with there | there
      · rcases mem_insert there with prior | ⟨-, own | ⟨prior, before, key⟩⟩
        · exact ⟨old, by simp [prior], same⟩
        · exact ⟨first, by simp, own.symm.trans same⟩
        · exact ⟨prior, by simp [before], key.trans same⟩
      · exact ⟨old, by simp [there], same⟩

theorem Named.merge {left right merged : Members} (leftNamed : Named left)
    (rightNamed : Named right) (joined : merge? left right = some merged) : Named merged := by
  induction right generalizing left with
  | nil => exact merge?_nil.mp joined ▸ leftNamed
  | cons member rest ih =>
      obtain ⟨own, text, -⟩ := rightNamed.head
      obtain ⟨both, -, later⟩ := merge?_cons.mp joined
      exact ih (leftNamed.insert text both) rightNamed.tail later

/-! ## Properties of all contents -/

/-- A property of values that a list has exactly if its items have it, and a dictionary
exactly if its values have it and its keys have another. -/
structure Hereditary (fitKey fit : Value → Prop) : Prop where
  list : ∀ items, fit (.list items) ↔ ∀ item ∈ items, fit item
  dict : ∀ members, fit (.dict members) ↔ ∀ member ∈ members, fitKey member.1 ∧ fit member.2

namespace Hereditary

variable {fitKey fit : Value → Prop}

theorem insert (hereditary : Hereditary fitKey fit) {key value : Value} {members : Members}
    (keyFits : fitKey key) (valueFits : fit value) (fits : fit (.dict members)) :
    fit (.dict (Members.insert key value members)) := by
  rw [hereditary.dict] at fits ⊢
  intro member held
  rcases mem_insert held with old | ⟨rfl, own | ⟨old, there, same⟩⟩
  · exact fits member old
  · exact ⟨own ▸ keyFits, valueFits⟩
  · exact ⟨same ▸ (fits old there).1, valueFits⟩

mutual

/-- Joining two fragments keeps a hereditary property. -/
theorem merge (hereditary : Hereditary fitKey fit) :
    ∀ {right left merged : Members}, fit (.dict left) → fit (.dict right) →
      merge? left right = some merged → fit (.dict merged)
  | [], _, _, leftFits, _, joined => merge?_nil.mp joined ▸ leftFits
  | (key, value) :: rest, left, merged, leftFits, rightFits, joined => by
      obtain ⟨⟨keyFits, valueFits⟩, restFits⟩ :=
        List.forall_mem_cons.mp ((hereditary.dict _).mp rightFits)
      obtain ⟨both, done, later⟩ := merge?_cons.mp joined
      have thereFits : ∀ there, lookup key left = some there → fit there := by
        intro there found
        obtain ⟨own, held⟩ := mem_of_lookup found
        exact ((hereditary.dict _).mp leftFits _ held).2
      have bothFits := join hereditary thereFits valueFits done
      exact merge hereditary (hereditary.insert keyFits bothFits leftFits)
        ((hereditary.dict _).mpr restFits) later

/-- Joining a value into what is there keeps a hereditary property. -/
theorem join (hereditary : Hereditary fitKey fit) :
    ∀ {value : Value} {current : Option Value} {joined : Value},
      (∀ there, current = some there → fit there) → fit value →
        join? current value = some joined → fit joined
  | .dict right, current, joined, thereFits, valueFits, done => by
      rcases join?_cases done with ⟨left, _, both, rfl, same, merged, rfl⟩ | other | rfl
      · cases same
        exact merge hereditary (thereFits _ rfl) valueFits merged
      · obtain ⟨_, _, _, _, impossible, _⟩ := other
        cases impossible
      · exact valueFits
  | .list right, current, joined, thereFits, valueFits, done => by
      rcases join?_cases done with other | ⟨left, _, kept, rfl, same, unique, rfl⟩ | rfl
      · obtain ⟨_, _, _, _, impossible, _⟩ := other
        cases impossible
      · cases same
        refine (hereditary.list _).mpr fun item held => ?_
        rcases List.mem_append.mp (unique?_mem unique held) with old | new
        · exact (hereditary.list _).mp (thereFits _ rfl) item old
        · exact (hereditary.list _).mp valueFits item new
      · exact valueFits
  | .null, _, _, _, valueFits, done | .bool _, _, _, _, valueFits, done
  | .int _, _, _, _, valueFits, done | .float _, _, _, _, valueFits, done
  | .str _, _, _, _, valueFits, done | .decimal _, _, _, _, valueFits, done
  | .primitive _, _, _, _, valueFits, done | .host _, _, _, _, valueFits, done
  | .pattern _, _, _, _, valueFits, done | .tuple _, _, _, _, valueFits, done
  | .set _, _, _, _, valueFits, done => by
      simp only [join?, Option.some.injEq] at done
      exact done ▸ valueFits

end

mutual

/-- A property of contents implies another if it does so for keys, and for what is neither a
list nor a dictionary. -/
theorem imp {fitKey' fit' : Value → Prop} (first : Hereditary fitKey fit)
    (second : Hereditary fitKey' fit') (keys : ∀ key, fitKey key → fitKey' key)
    (leaves : ∀ v : Value, v.isLeaf = true → fit v → fit' v) : ∀ v, fit v → fit' v
  | .list items, fits => (second.list _).mpr
      (impEach first second keys leaves items ((first.list _).mp fits))
  | .dict members, fits => (second.dict _).mpr
      (impMembers first second keys leaves members ((first.dict _).mp fits))
  | .null, fits | .bool _, fits | .int _, fits | .float _, fits | .str _, fits
  | .decimal _, fits | .primitive _, fits | .host _, fits | .pattern _, fits | .tuple _, fits
  | .set _, fits => leaves _ rfl fits

theorem impEach {fitKey' fit' : Value → Prop} (first : Hereditary fitKey fit)
    (second : Hereditary fitKey' fit') (keys : ∀ key, fitKey key → fitKey' key)
    (leaves : ∀ v : Value, v.isLeaf = true → fit v → fit' v) :
    ∀ items : List Value, (∀ item ∈ items, fit item) → ∀ item ∈ items, fit' item
  | [], _ => by simp
  | item :: rest, each => by
      obtain ⟨own, others⟩ := List.forall_mem_cons.mp each
      exact List.forall_mem_cons.mpr
        ⟨imp first second keys leaves item own, impEach first second keys leaves rest others⟩

theorem impMembers {fitKey' fit' : Value → Prop} (first : Hereditary fitKey fit)
    (second : Hereditary fitKey' fit') (keys : ∀ key, fitKey key → fitKey' key)
    (leaves : ∀ v : Value, v.isLeaf = true → fit v → fit' v) :
    ∀ members : List (Value × Value), (∀ member ∈ members, fitKey member.1 ∧ fit member.2) →
      ∀ member ∈ members, fitKey' member.1 ∧ fit' member.2
  | [], _ => by simp
  | (key, value) :: rest, each => by
      obtain ⟨⟨keyFits, valueFits⟩, others⟩ := List.forall_mem_cons.mp each
      exact List.forall_mem_cons.mpr
        ⟨⟨keys key keyFits, imp first second keys leaves value valueFits⟩,
          impMembers first second keys leaves rest others⟩

end

end Hereditary

end Fragment

end Draftsman
