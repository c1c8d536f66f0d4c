/-
# Draftsman.Proofs.Enumerations -- the enumeration of an intersection

What stands under `enum` in a fragment is a list, wherever it comes from (`enumerated_kept`).  So
two enumerations are joined as lists are: the values of both, each of them once, in the order in
which they come first (`Pooled`).

For a type that satisfies two others at once this is wider than either of them.  It allows no more
than both allow exactly if both enumerate the same values (`visit_intersection_enum`).
-/
import Draftsman.Proofs.Equivalence
import Draftsman.Proofs.Fallback
import Draftsman.Proofs.SizeBounds

namespace Draftsman

set_option autoImplicit false

/-! ## Two lists in one -/

/-- Whether one of some values counts as the same as a value from another place. -/
def Occurs (item : Value) (items : List Value) : Prop := ∃ own ∈ items, own.equalApart item = true

/-- The values of two lists, each of them once, in the order in which they come first. -/
structure Pooled (first second kept : List Value) : Prop where
  order : kept.Sublist (first ++ second)
  different : Different kept
  /-- What is left out has an equal one before it. -/
  firstSeen : ∀ {before after item}, first ++ second = before ++ item :: after →
    item ∈ kept ∨ ∃ own ∈ kept, own ∈ before ∧ own.equalApart item = true

theorem pooled_of_unique? {first second kept : List Value}
    (unique : unique? (first ++ second) = some kept) : Pooled first second kept where
  order := by simpa using foldlM_sublist unique
  different := unique?_different unique
  firstSeen {before after item} same := by
    rw [unique?, distinct?, same] at unique
    obtain ⟨own, held, rfl | ⟨earlier, compared⟩⟩ := foldlM_covers unique
    · exact .inl held
    · have earlier : own ∈ before := by simpa using earlier
      exact .inr ⟨own, held, earlier, Value.same?_eq_some compared⟩

namespace Pooled

variable {first second kept : List Value}

/-- Each value of the two lists is among those that are kept, or one that counts as the same. -/
theorem covers (pooled : Pooled first second kept) {item : Value} (held : item ∈ first ++ second) :
    item ∈ kept ∨ Occurs item kept := by
  obtain ⟨before, after, same⟩ := List.append_of_mem held
  rcases pooled.firstSeen same with own | ⟨own, there, -, equal⟩
  · exact .inl own
  · exact .inr ⟨own, there, equal⟩

/-- Two lists together are no wider than each of them exactly if they hold the same values. -/
theorem narrow_iff (pooled : Pooled first second kept) :
    (∀ item ∈ kept, Occurs item first ∧ Occurs item second) ↔
      (∀ item ∈ first, Occurs item second) ∧ ∀ item ∈ second, Occurs item first := by
  -- what occurs among the values that are kept occurs where those do
  have carry {item : Value} {items : List Value} (held : item ∈ first ++ second)
      (narrow : ∀ own ∈ kept, Occurs own items) : Occurs item items := by
    rcases pooled.covers held with own | ⟨own, there, same⟩
    · exact narrow item own
    · obtain ⟨other, among, equal⟩ := narrow own there
      exact ⟨other, among, Value.equalApart_trans equal same⟩
  -- what occurs anywhere is the same at every place
  have self {item : Value} {items others : List Value} (there : Occurs item items)
      (held : item ∈ others) : Occurs item others := by
    obtain ⟨own, -, same⟩ := there
    exact ⟨item, held, Value.equalApart_self (Value.equalApart_iff.mp same).2.2⟩
  constructor
  · intro narrow
    exact ⟨fun item held => carry (List.mem_append_left _ held) fun own there => (narrow own there).2,
      fun item held => carry (List.mem_append_right _ held) fun own there => (narrow own there).1⟩
  · rintro ⟨within, within'⟩ item held
    rcases List.mem_append.mp (pooled.order.subset held) with own | own
    · exact ⟨self (within item own) own, within item own⟩
    · exact ⟨within' item own, self (within' item own) own⟩

end Pooled

namespace Node

/-! ## Enumerations in fragments -/

/-- A fragment of which the enumeration, if it has one, is a list. -/
def Enumerated (fragment : Members) : Prop :=
  ∀ v, Members.get? "enum" fragment = some v → ∃ items, v = .list items

theorem Enumerated.of_absent {fragment : Members} (absent : Members.get? "enum" fragment = none) :
    Enumerated fragment := by
  intro v found
  rw [absent] at found
  cases found

theorem Enumerated.of_keywords {members : List (String × Value)}
    (other : "enum" ∉ members.map Prod.fst) : Enumerated (Fragment.ofKeywords members) :=
  fun _ found => absurd (List.mem_map_of_mem (Document.mem_of_get?_ofKeywords found)) other

theorem Enumerated.merge {base extra both : Members} (baseEnumerated : Enumerated base)
    (extraEnumerated : Enumerated extra) (named : extra.Named)
    (joined : Fragment.merge? base extra = some both) : Enumerated both := by
  intro v found
  rcases Fragment.get?_merge_cases named joined found with
    ⟨own, -⟩ | ⟨-, own⟩ | ⟨old, new, first, second, done⟩
  · exact baseEnumerated v own
  · exact extraEnumerated v own
  · obtain ⟨items, rfl⟩ := baseEnumerated old first
    obtain ⟨others, rfl⟩ := extraEnumerated new second
    obtain ⟨kept, -, rfl⟩ := Option.map_eq_some_iff.mp done
    exact ⟨kept, rfl⟩

/-- An enumeration is made by a predicate that lists values, and by nothing else. -/
theorem Enumerated.of_predicate {o : Options} {leftType name operand : Value} {fragment : Members}
    (emitted : predicateFragment o leftType name operand = .ok fragment) : Enumerated fragment := by
  intro v found
  obtain ⟨own, c, -, listed, keyword, applied, -⟩ := keyword_of_predicate emitted found
  have each : ∀ entry ∈ constraints, entry.2.keyword = "enum" → entry.2.reading = .items := by
    decide
  rw [each (own, c) (mem_constraints listed) keyword] at applied
  obtain ⟨items, -, rfl⟩ := map_eq_ok.mp applied
  exact ⟨items, rfl⟩

/-- Every way in which a visit makes a fragment keeps its enumeration a list. -/
theorem enumerated_kept (o : Options) :
    Kept o (fun _ => True) fun _ fragment => fragment.Named ∧ Enumerated fragment where
  nominal ctx primitive := by
    refine ⟨(named_kept o).nominal ctx primitive, .of_absent ?_⟩
    rw [typeMembers?]
    cases primitive.toPrimitive? with
    | none => rfl
    | some p => cases p <;> rfl
  predicate {ctx name operand notes _} fit emitted :=
    ⟨@Kept.predicate o _ _ (named_kept o) ctx name operand notes _ fit emitted,
      .of_predicate emitted⟩
  object ctx := ⟨(named_kept o).object ctx, .of_absent rfl⟩
  wrapped held := held
  field _ held := held
  joined baseHeld extraHeld joins :=
    ⟨Fragment.Named.merge baseHeld.1 extraHeld.1 joins,
      baseHeld.2.merge extraHeld.2 extraHeld.1 joins⟩
  sum {ctx types notes results} fit visited each := by
    refine ⟨(named_kept o).sum fit visited fun result held => (each result held).1, ?_⟩
    rcases sumFragment_cases ctx.topLevel results with only | ⟨-, result, held, marked⟩ | ⟨-, listed⟩
    · exact (each _ (only ▸ List.mem_singleton_self _)).2
    · intro v found
      rw [marked, Members.get?_insert_of_ne (by decide)] at found
      exact (each result held).2 v found
    · rw [listed]
      exact .of_keywords (by simp)
  reference ctx inArray fit found inForce := by
    refine ⟨(named_kept o).reference ctx inArray fit found inForce, .of_absent ?_⟩
    cases inArray <;> rfl
  array {ctx member items fragment} fit held built := by
    simp only [arrayFragment, bind_eq_ok, typed_eq_ok, pure_eq_ok] at built
    obtain ⟨hoisted, picked, left, -, rfl⟩ := built
    refine ⟨named_annotated (by decide) picked (Document.named_ofKeywords (by simp)),
      .of_absent ?_⟩
    rw [get?_update_annotations (by decide) picked (by decide)]
    rfl
  schema {ctx keys notes fields} fit visited each := by
    refine ⟨(named_kept o).schema fit visited fun property held => ?_, ?_⟩
    · obtain ⟨fragment, same, name, type, required, own, there, held⟩ := each property held
      exact ⟨fragment, same, name, type, required, own, there, held.1⟩
    · rw [Fields.fragment]
      refine .of_keywords ?_
      split
      · simp
      · simp
  noted fit held noted := by
    obtain ⟨own, picked, same⟩ := Option.map_eq_some_iff.mp noted
    refine ⟨same ▸ named_annotated (by decide) picked held.1, fun v found => ?_⟩
    rw [get?_overlay noted (by decide)] at found
    exact held.2 v found

variable {o : Options} {ctx : Context}

/-- What a fragment enumerates is a list. -/
theorem visit_enumerated {node : Node} {fragment : Members}
    (visited : visit o ctx node = .ok fragment) : Enumerated fragment :=
  ((enumerated_kept o).visit (.inr ⟨bare ctx.keyNotes, trivial, rfl⟩) (fun _ _ => trivial)
    visited).2

/-- An intersection enumerates the values of both sides, each once and in the order in which they
come first.  These are no more than both sides allow exactly if both enumerate the same values. -/
theorem visit_intersection_enum {left right : Node} {notes v w : Value}
    {base extra whole : Members} (leftVisited : visit o ctx.inner left = .ok base)
    (rightVisited : visit o (rightOf ctx left) right = .ok extra)
    (leftListed : Members.get? "enum" base = some v)
    (rightListed : Members.get? "enum" extra = some w)
    (visited : visit o ctx (intersection left right notes) = .ok whole) :
    ∃ first second kept, v = .list first ∧ w = .list second ∧
      Members.get? "enum" whole = some (.list kept) ∧ Pooled first second kept ∧
      ((∀ item ∈ kept, Occurs item first ∧ Occurs item second) ↔
        (∀ item ∈ first, Occurs item second) ∧ ∀ item ∈ second, Occurs item first) := by
  obtain ⟨first, rfl⟩ := visit_enumerated leftVisited v leftListed
  obtain ⟨second, rfl⟩ := visit_enumerated rightVisited w rightListed
  rw [visit_intersection, leftVisited, rightVisited] at visited
  simp only [bind_eq_ok, decided_eq_ok] at visited
  obtain ⟨-, -, _, leftSame, _, rightSame, both, joined, finished⟩ := visited
  obtain rfl := Except.ok.inj leftSame
  obtain rfl := Except.ok.inj rightSame
  obtain ⟨here, done, found⟩ :=
    Fragment.get?_merge_of_some (visit_named rightVisited) joined rightListed
  rw [leftListed] at done
  obtain ⟨kept, unique, rfl⟩ := Option.map_eq_some_iff.mp done
  have pooled := pooled_of_unique? unique
  refine ⟨first, second, kept, rfl, rfl, ?_, pooled, pooled.narrow_iff⟩
  rw [get?_overlay (typed_eq_ok.mp finished) (by decide)]
  exact found

def numbersNode (numbers : List Int) : Node :=
  predicate (.str "included_in?") (.list (numbers.map .int)) (.dict [])

def numbersEntry (numbers : List Int) : Members :=
  Fragment.ofKeywords [("enum", .list (numbers.map .int))]

theorem visit_intersection_enum_numbers :
    ∃ first second kept, Value.list [.int 1, .int 2] = .list first ∧
      Value.list [.int 2, .int 3] = .list second ∧
      Members.get? "enum" (numbersEntry [1, 2, 3]) = some (.list kept) ∧ Pooled first second kept ∧
      ((∀ item ∈ kept, Occurs item first ∧ Occurs item second) ↔
        (∀ item ∈ first, Occurs item second) ∧ ∀ item ∈ second, Occurs item first) :=
  @visit_intersection_enum {} Context.root (numbersNode [1, 2]) (numbersNode [2, 3]) (.dict []) _ _
    (numbersEntry [1, 2]) (numbersEntry [2, 3]) _ rfl rfl rfl rfl rfl

/-- What one side only allows is enumerated too. -/
theorem visit_intersection_widens :
    visit {} Context.root.inner (numbersNode [1, 2]) = .ok (numbersEntry [1, 2]) ∧
      visit {} (rightOf Context.root (numbersNode [1, 2])) (numbersNode [2, 3]) =
        .ok (numbersEntry [2, 3]) ∧
      visit {} Context.root (intersection (numbersNode [1, 2]) (numbersNode [2, 3]) (.dict [])) =
        .ok (numbersEntry [1, 2, 3]) ∧
      ¬Occurs (.int 1) [.int 2, .int 3] := by
  refine ⟨rfl, rfl, rfl, ?_⟩
  rintro ⟨own, held, same⟩
  simp only [List.mem_cons, List.not_mem_nil, or_false] at held
  rcases held with rfl | rfl
  · exact absurd same (by decide)
  · exact absurd same (by decide)

end Node

end Draftsman
