/-
# Draftsman.Proofs.Marking -- where documents are marked nullable

A union of one type with null is that type, marked, at top level; elsewhere it lists both.
So the mark stands at the top of a document or nowhere:

* a step never leads back to top level, and the steps into a field, a list or a union leave
  it (`Leads.topLevel`, `Reaches.topLevel`);
* a fragment made away from top level is not marked, and no schema in a fragment is
  (`Fragment.Marks`, kept by every way of making one).

The main result is `compile_marks`: the document of a loaded description is marked at the
top only, there with true, and every union below a field, a list or another union that has
several results lists them.
-/
import Draftsman.Proofs.DocumentShape
import Draftsman.Proofs.Sites

namespace Draftsman

set_option autoImplicit false

/-! ## Away from top level -/

namespace Node

/-- Whether what a node leads to is away from top level: the type of a field, the elements
of a list and the alternatives of a union are. -/
def encloses : Node → Bool
  | key _ _ _ _ | array _ _ | sum _ _ => true
  | _ => false

/-- Whether all fields of a description have texts for names. -/
def FieldsNamed (node : Node) : Prop :=
  ∀ name type required notes, key name type required notes ∈ node.parts → name.text?.isSome = true

end Node

namespace Context

theorem topLevel_field {ctx : Context} {name notes : Value} (text : name.text?.isSome = true) :
    (ctx.field name notes).topLevel = false := by
  have some : name.isNull = false := by
    cases name <;> first | rfl | cases text
  show (name.isNull && _ && _) = false
  rw [some]
  rfl

theorem topLevel_element (ctx : Context) : ctx.element.topLevel = false := by
  show (ctx.key.isNull && false && _) = false
  rw [Bool.and_false]
  rfl

theorem topLevel_alternative (ctx : Context) : ctx.alternative.topLevel = false := by
  show (ctx.key.isNull && _ && false) = false
  exact Bool.and_false _

end Context

namespace Site

open Node

variable {here there : Site}

/-- A step stays away from top level, and some steps leave it. -/
theorem Leads.topLevel (step : Leads here there) (named : here.node.FieldsNamed)
    (away : here.node.encloses = true ∨ here.ctx.topLevel = false) :
    there.ctx.topLevel = false := by
  cases step with
  | field => exact Context.topLevel_field (named _ _ _ _ List.mem_cons_self)
  | element => exact Context.topLevel_element _
  | alternative held => exact Context.topLevel_alternative _
  | constructor | enum | type | rule | left | right | mapping | aggregate | member =>
      rcases away with encloses | same
      · cases encloses
      · exact same

theorem FieldsNamed.of_reached (reached : Reaches here there) (named : here.node.FieldsNamed) :
    there.node.FieldsNamed := by
  intro name type required notes held
  exact named name type required notes (reached.parts _ held)

/-- No steps lead back to top level. -/
theorem Reaches.topLevel (reached : Reaches here there) (named : here.node.FieldsNamed)
    (away : here.ctx.topLevel = false) : there.ctx.topLevel = false := by
  induction reached with
  | refl => exact away
  | tail before step ih => exact step.topLevel (FieldsNamed.of_reached before named) (.inr ih)

/-- What is below a field, a list or a union is away from top level. -/
theorem topLevel_of_enclosed (below : Relation.TransGen Leads here there)
    (named : here.node.FieldsNamed) (encloses : here.node.encloses = true) :
    there.ctx.topLevel = false := by
  obtain ⟨next, first, later⟩ := Relation.TransGen.head'_iff.mp below
  have away := first.topLevel named (.inl encloses)
  exact Reaches.topLevel later (FieldsNamed.of_reached (.single first) named) away

end Site

/-! ## Marks of fragments -/

namespace Document

open Members

/-- A fragment without the mark at any position. -/
def Unmarked (members : Members) : Prop :=
  ∀ inner, Position members inner → get? "nullable" inner = none

/-- A fragment in which no schema is marked. -/
def UnmarkedBelow (members : Members) : Prop := ∀ child, Child members child → Unmarked child

theorem unmarked_iff {members : Members} :
    Unmarked members ↔ get? "nullable" members = none ∧ UnmarkedBelow members := by
  constructor
  · intro unmarked
    exact ⟨unmarked _ .refl, fun child held inner below => unmarked inner (.head held below)⟩
  · rintro ⟨own, below⟩ inner position
    rcases Relation.ReflTransGen.cases_head position with rfl | ⟨child, held, later⟩
    · exact own
    · exact below child held inner later

namespace UnmarkedBelow

/-- Plain keywords hold no schemas. -/
theorem of_get? {members others : Members} (below : UnmarkedBelow members)
    (same : ∀ name ∈ shapedKeywords, get? name others = get? name members) :
    UnmarkedBelow others :=
  fun child held => below child (held.of_get? same)

/-- A fragment without keywords for schemas holds none. -/
theorem of_flat {members : List (String × Value)}
    (flat : ∀ name ∈ ["items", "properties", "anyOf"], name ∉ members.map Prod.fst) :
    UnmarkedBelow (Fragment.ofKeywords members) :=
  fun _ held => absurd held (not_child_of_flat flat)

end UnmarkedBelow

/-- Taking another plain keyword away brings no mark in. -/
theorem Unmarked.erase {members : Members} (unmarked : Unmarked members) (named : Named members)
    {name : String} (plain : name ∈ plainKeywords) (other : name ≠ "nullable") :
    Unmarked (Members.erase (.str name) members) := by
  obtain ⟨own, below⟩ := unmarked_iff.mp unmarked
  refine unmarked_iff.mpr ⟨?_, ?_⟩
  · rw [get?_erase named, if_neg other, own]
  · refine below.of_get? fun special shaped => ?_
    rw [get?_erase named, if_neg (ne_of_plain plain shaped)]

/-- The mark comes into a joined fragment from one of the two. -/
theorem get?_nullable_merge {left right merged : Members} (rightNamed : Named right)
    (joined : Fragment.merge? left right = some merged) (leftNone : get? "nullable" left = none)
    (rightNone : get? "nullable" right = none) : get? "nullable" merged = none := by
  rw [Fragment.get?_merge_of_none rightNamed joined rightNone, leftNone]

/-- Joining moves no mark inwards. -/
theorem Unmarked.merge {leaf : String → Value → Prop} {left right merged : Members}
    (leftSound : Sound leaf left) (rightSound : Sound leaf right) (leftUnmarked : Unmarked left)
    (rightUnmarked : Unmarked right) (joined : Fragment.merge? left right = some merged) :
    Unmarked merged := by
  obtain ⟨leftGood, leftDeep⟩ := sound_iff.mp leftSound
  obtain ⟨rightGood, rightDeep⟩ := sound_iff.mp rightSound
  obtain ⟨leftNone, leftBelow⟩ := unmarked_iff.mp leftUnmarked
  obtain ⟨rightNone, rightBelow⟩ := unmarked_iff.mp rightUnmarked
  refine unmarked_iff.mpr
    ⟨get?_nullable_merge rightGood.named joined leftNone rightNone, fun child held => ?_⟩
  rcases held.of_merge leftGood rightGood joined with
    old | new | ⟨one, other, below, below', merges⟩
  · exact leftBelow child old
  · exact rightBelow child new
  · have smaller := below'.sizeOf_lt
    exact Unmarked.merge (leftDeep one below) (rightDeep other below') (leftBelow one below)
      (rightBelow other below') merges
termination_by sizeOf right

theorem UnmarkedBelow.merge {leaf : String → Value → Prop} {left right merged : Members}
    (leftSound : Sound leaf left) (rightSound : Sound leaf right) (leftBelow : UnmarkedBelow left)
    (rightBelow : UnmarkedBelow right) (joined : Fragment.merge? left right = some merged) :
    UnmarkedBelow merged := by
  obtain ⟨leftGood, leftDeep⟩ := sound_iff.mp leftSound
  obtain ⟨rightGood, rightDeep⟩ := sound_iff.mp rightSound
  intro child held
  rcases held.of_merge leftGood rightGood joined with
    old | new | ⟨one, other, below, below', merges⟩
  · exact leftBelow child old
  · exact rightBelow child new
  · exact Unmarked.merge (leftDeep one below) (rightDeep other below') (leftBelow one below)
      (rightBelow other below') merges

/-- The mark, where it stands, is true. -/
def markLeaf (name : String) (v : Value) : Prop := name = "nullable" → v = .bool true

theorem leaves_mark : Leaves markLeaf where
  join {name old new both} _ present incoming done same := by
    obtain rfl := present same
    obtain rfl := incoming same
    exact (Option.some.inj done).symm
  nullable _ := rfl
  format _ impossible := absurd impossible (by decide)

end Document

namespace Node

open Document

/-- What is kept of the marks of fragments: they are sound, no schema in one is marked, and
away from top level neither is the fragment itself. -/
structure Marks (ctx : Context) (fragment : Members) : Prop where
  sound : Sound markLeaf fragment
  below : UnmarkedBelow fragment
  away : ctx.topLevel = false → Members.get? "nullable" fragment = none

namespace Marks

variable {ctx : Context} {fragment : Members}

theorem unmarked (marks : Marks ctx fragment) (away : ctx.topLevel = false) : Unmarked fragment :=
  unmarked_iff.mpr ⟨marks.away away, marks.below⟩

/-- A sound fragment written out without schemas and without the mark. -/
theorem of_flat {members : List (String × Value)}
    (sound : Sound markLeaf (Fragment.ofKeywords members))
    (flat : ∀ name ∈ ["items", "properties", "anyOf", "nullable"], name ∉ members.map Prod.fst) :
    Marks ctx (Fragment.ofKeywords members) where
  sound := sound
  below := UnmarkedBelow.of_flat fun name listed =>
    flat name (List.mem_append_left ["nullable"] listed)
  away _ := by
    cases found : Members.get? "nullable" (Fragment.ofKeywords members) with
    | none => rfl
    | some v => exact absurd (List.mem_map_of_mem (mem_of_get?_ofKeywords found)) (flat _ (by simp))

/-- Annotations bring no marks and no schemas. -/
theorem of_get? {others : Members} (marks : Marks ctx fragment) (sound : Sound markLeaf others)
    (same : ∀ name ∉ annotationNames, Members.get? name others = Members.get? name fragment) :
    Marks ctx others where
  sound := sound
  below := marks.below.of_get? fun name shaped => by
    have apart : ∀ name ∈ shapedKeywords, name ∉ annotationNames := by decide
    exact same name (apart name shaped)
  away other := by rw [same "nullable" (by decide), marks.away other]

end Marks

section Kept

variable {ctx : Context}

theorem marks_nil (sound : Sound markLeaf []) : Marks ctx [] := by
  have flat : Marks ctx (Fragment.ofKeywords []) := Marks.of_flat sound (by simp)
  exact flat

theorem marks_nominal (primitive : Value)
    (sound : Sound markLeaf ((typeMembers? primitive).getD [])) :
    Marks ctx ((typeMembers? primitive).getD []) := by
  revert sound
  rw [typeMembers?]
  cases primitive.toPrimitive? with
  | none =>
      intro sound
      exact marks_nil sound
  | some p =>
      intro sound
      simp only [Option.map_some, Option.getD_some, map_str_eq_ofKeywords] at sound ⊢
      refine Marks.of_flat sound ?_
      cases p <;> decide

/-- Several results of a union are listed, so that none of them is marked; a single one is
handed on. -/
theorem marks_sum {results : List Members}
    (sound : Sound markLeaf (sumFragment ctx.topLevel results))
    (each : ∀ result ∈ results, Marks ctx.alternative result) :
    Marks ctx (sumFragment ctx.topLevel results) := by
  have unmarked : ∀ result ∈ results, Unmarked result := by
    intro result held
    exact (each result held).unmarked (Context.topLevel_alternative ctx)
  rcases sumFragment_cases ctx.topLevel results with
    only | ⟨topLevel, result, held, marked⟩ | ⟨-, listed⟩
  · obtain ⟨own, below⟩ := unmarked_iff.mp (unmarked _ (only ▸ List.mem_singleton_self _))
    exact ⟨sound, below, fun _ => own⟩
  · obtain ⟨-, below⟩ := unmarked_iff.mp (unmarked result held)
    refine ⟨sound, ?_, fun away => ?_⟩
    · rw [marked]
      exact below.of_get? fun name shaped =>
        Members.get?_insert_of_ne (ne_of_plain (by decide) shaped).symm _ _
    · rw [topLevel] at away
      cases away
  · refine ⟨sound, ?_, fun _ => by rw [listed]; rfl⟩
    rw [listed]
    intro child held
    exact unmarked child (mem_of_child_alternatives held)

/-- Elements are away from top level, so none of them is marked. -/
theorem marks_array {member : Node} {items fragment : Members} (sound : Sound markLeaf fragment)
    (marks : Marks ctx.element items) (built : arrayFragment items member.notes = .ok fragment) :
    Marks ctx fragment := by
  simp only [arrayFragment, bind_eq_ok, typed_eq_ok, decided_eq_ok, pure_eq_ok] at built
  obtain ⟨hoisted, picked, left, taken, rfl⟩ := built
  have different : hoistedNames.Nodup := by decide
  have listed : ∀ note ∈ hoisted, ∃ name ∈ hoistedNames, note.1 = .str name := by
    intro note held
    obtain ⟨name, known, key, -⟩ := mem_annotations different picked held
    exact ⟨name, known, key⟩
  -- taking notes away from the elements brings no mark in
  have plain : ∀ name ∈ hoistedNames, name ∈ plainKeywords ∧ name ≠ "nullable" := by decide
  have erased : ∀ members, (Sound markLeaf members ∧ Unmarked members) → ∀ name ∈ hoistedNames,
      Sound markLeaf (Members.erase (.str name) members) ∧
        Unmarked (Members.erase (.str name) members) := by
    rintro members ⟨soundly, unmarked⟩ name known
    have named := (sound_iff.mp soundly).1.named
    exact ⟨soundly.erase (plain name known).1,
      unmarked.erase named (plain name known).1 (plain name known).2⟩
  obtain ⟨-, leftUnmarked⟩ := of_without erased listed
    ⟨marks.sound, marks.unmarked (Context.topLevel_element ctx)⟩ taken
  have unhoisted : ∀ name ∈ "nullable" :: shapedKeywords, name ∉ hoistedNames := by decide
  have plainBelow : UnmarkedBelow
      (Fragment.ofKeywords [("type", .str "array"), ("items", .dict left)]) := by
    intro child held
    exact eq_of_child_array held ▸ leftUnmarked
  refine ⟨sound, plainBelow.of_get? fun name shaped => ?_, fun _ => ?_⟩
  · exact get?_update_annotations different picked (unhoisted name (List.mem_cons_of_mem _ shaped)) _
  · rw [get?_update_annotations different picked (unhoisted _ List.mem_cons_self)]
    rfl

/-- Fields are away from top level, so none of them is marked. -/
theorem marks_fields {fields : Fields} (sound : Sound markLeaf fields.fragment)
    (each : ∀ property ∈ fields.properties, ∃ fragment, property.2 = .dict fragment ∧
      Unmarked fragment) : Marks ctx fields.fragment where
  sound := sound
  below child held := by
    obtain ⟨property, there, own⟩ := mem_of_child_fields held
    obtain ⟨fragment, same, unmarked⟩ := each property there
    exact Value.dict.inj (same.symm.trans own) ▸ unmarked
  away _ := by
    rw [Fields.fragment]
    split <;> rfl

theorem supplied_mark : Supplied markLeaf Labelled :=
  supplied_of_labelled fun other same => absurd same other

theorem sound_mark_kept (o : Options) : Kept o Labelled fun _ => Sound markLeaf :=
  sound_kept o leaves_mark supplied_mark

/-- Every way in which a visit makes a fragment keeps its marks. -/
theorem marks_kept (o : Options) : Kept o Labelled Marks where
  nominal _ primitive := marks_nominal primitive (sound_nominal leaves_mark primitive)
  predicate {ctx name operand notes fragment} fit emitted := by
    have sound := (sound_mark_kept o).predicate fit emitted
    rcases predicateFragment_cases emitted with rfl | ⟨own, c, v, -, listed, -, -, rfl⟩
    · exact marks_nil sound
    · have apart : ∀ entry ∈ constraints,
          entry.2.keyword ∉ ["items", "properties", "anyOf", "nullable"] := by decide
      refine Marks.of_flat sound fun name special held => ?_
      obtain rfl : name = c.keyword := by simpa using held
      exact apart (own, c) (mem_constraints listed) special
  object _ := Marks.of_flat (sound_object leaves_mark) (by simp)
  wrapped marks := ⟨marks.sound, marks.below, marks.away⟩
  field fit marks :=
    ⟨marks.sound, marks.below, fun _ => marks.away (Context.topLevel_field (fit.2 _ _ _ _ rfl))⟩
  joined {ctx primitive base extra both} baseMarks extraMarks joins := by
    have named := (sound_iff.mp extraMarks.sound).1.named
    refine ⟨Sound.merge leaves_mark baseMarks.sound extraMarks.sound joins, ?_, fun away => ?_⟩
    · exact UnmarkedBelow.merge baseMarks.sound extraMarks.sound baseMarks.below extraMarks.below joins
    · exact get?_nullable_merge named joins (baseMarks.away away) (extraMarks.away away)
  sum {ctx types notes results} fit listed each := by
    have sound := (sound_mark_kept o).sum fit listed fun result held => (each result held).sound
    exact marks_sum sound each
  reference {node ref} _ inArray fit found inForce := by
    have sound := sound_reference inArray (supplied_mark.reference fit found inForce)
    cases inArray with
    | true => exact Marks.of_flat sound (by simp)
    | false => exact Marks.of_flat sound (by simp)
  array fit marks built := marks_array (sound_array supplied_mark fit marks.sound built) marks built
  schema {ctx keys notes fields} fit listed each := by
    refine marks_fields ((sound_mark_kept o).schema fit listed fun property held => ?_)
      fun property held => ?_
    · obtain ⟨fragment, same, name, type, required, own, fits, marks⟩ := each property held
      exact ⟨fragment, same, name, type, required, own, fits, marks.sound⟩
    · obtain ⟨fragment, same, name, type, required, own, fits, marks⟩ := each property held
      exact ⟨fragment, same, marks.unmarked (Context.topLevel_field (fits.2 _ _ _ _ rfl))⟩
  noted fit marks noted :=
    marks.of_get? (sound_noted supplied_mark fit marks.sound noted) fun _ other =>
      get?_overlay noted other

end Kept

/-! ## Marks of documents -/

/-- Away from top level, a union with several results lists them. -/
theorem anyOf_of_visit {o : Options} {ctx : Context} {types : Children} {notes : Value}
    {fragment : Members} (away : ctx.topLevel = false)
    (visited : visit o ctx (sum types notes) = .ok fragment) :
    ∃ results, visitAlternatives o ctx.alternative [] types = .ok results ∧
      Different (results.map Value.dict) ∧
      (2 ≤ results.length →
        Members.get? "anyOf" fragment = some (.list (results.map Value.dict))) := by
  simp only [visit, bind_eq_ok] at visited
  obtain ⟨-, -, visited⟩ := visited
  split at visited
  · simp [bind, Except.bind] at visited
  · obtain ⟨results, listed, finished⟩ := bind_eq_ok.mp visited
    refine ⟨results, listed, visitAlternatives_different listed, fun several => ?_⟩
    rw [get?_overlay (typed_eq_ok.mp finished) (by decide)]
    rcases sumFragment_cases ctx.topLevel results with only | ⟨topLevel, -⟩ | ⟨-, same⟩
    · rw [only] at several
      exact absurd several (by simp)
    · rw [away] at topLevel
      cases topLevel
    · rw [same]
      rfl

/-- The document of a loaded description is marked nullable at the top only, and there with
true; a union below a field, a list or another union lists its results, if it has
several. -/
theorem compile_marks {o : Options} {tree : Value} {node : Node} {document : Members}
    (loaded : load tree = .ok node) (named : node.FieldsNamed)
    (compiled : node.compile o = .ok document) :
    (∀ v, Members.get? "nullable" document = some v → v = .bool true) ∧
      (∀ inner, Relation.TransGen Child document inner →
        Members.get? "nullable" inner = none) ∧
      ∀ outer ctx types notes, Site.Reaches ⟨Context.root, node⟩ outer →
        outer.node.encloses = true → Relation.TransGen Site.Leads outer ⟨ctx, sum types notes⟩ →
        ∃ results fragment, visit o ctx (sum types notes) = .ok fragment ∧
          visitAlternatives o ctx.alternative [] types = .ok results ∧
          Different (results.map Value.dict) ∧
          (2 ≤ results.length →
            Members.get? "anyOf" fragment = some (.list (results.map Value.dict))) := by
  simp only [compile, bind_eq_ok, pure_eq_ok] at compiled
  obtain ⟨whole, visited, rfl⟩ := compiled
  have labelled : ∀ part ∈ node.parts, part.Labelled := by
    intro part held
    refine ⟨(load_formed loaded).2 part held, fun name type required notes same => ?_⟩
    exact named name type required notes (same ▸ held)
  have marks : Marks Context.root whole :=
    (marks_kept o).visit Context.Within.root labelled visited
  -- the mark of a root document is no mark of nullability and holds no schemas
  have same : ∀ name ∈ "nullable" :: shapedKeywords,
      Members.get? name (if o.root.truthy then
        Members.insert (.str "$schema") (.str dialect) whole else whole) =
        Members.get? name whole := by
    intro name listed
    have differ : name ≠ "$schema" := by
      rintro rfl
      revert listed
      decide
    split
    · exact Members.get?_insert_of_ne differ _ _
    · rfl
  refine ⟨fun v found => ?_, fun inner position => ?_, ?_⟩
  · rw [same _ List.mem_cons_self] at found
    exact ((sound_iff.mp marks.sound).1.entries found).plain (by decide) rfl
  · obtain ⟨child, first, later⟩ := Relation.TransGen.head'_iff.mp position
    have held := first.of_get? fun name shaped => same name (List.mem_cons_of_mem _ shaped)
    exact marks.below child held inner later
  · intro outer ctx types notes reached encloses below
    have inside := Site.FieldsNamed.of_reached reached named
    have away : ctx.topLevel = false := Site.topLevel_of_enclosed below inside encloses
    obtain ⟨fragment, own⟩ := Site.Reaches.visited (reached.trans below.to_reflTransGen) visited
    obtain ⟨results, listed, apart, several⟩ := anyOf_of_visit away own
    exact ⟨results, fragment, own, listed, apart, several⟩

def remarkTree : Value :=
  .dict (Members.named [("kind", .str "sum"), ("types", .list
    [.dict (Members.named [("kind", .str "schema"), ("keys", .list
      [.dict (Members.named [("kind", .str "key"), ("name", .str "remark"), ("type",
        .dict (Members.named [("kind", .str "sum"), ("types", .list
          [.dict (Members.named [("kind", .str "nominal"), ("primitive", .str "string")]),
            .dict (Members.named [("kind", .str "nominal"), ("primitive", .str "null")])])]))])])]),
      .dict (Members.named [("kind", .str "nominal"), ("primitive", .str "null")])])])

def remarkTypes : Children :=
  .nodes [nominal (.primitive .string) (.dict []), nominal (.primitive .null) (.dict [])]

def remarkField : Node := key (.str "remark") (sum remarkTypes (.dict [])) (.bool true) (.dict [])

def remarkNode : Node :=
  sum (.nodes [schema (.nodes [remarkField]) (.dict []), nominal (.primitive .null) (.dict [])])
    (.dict [])

def remarkDocument : Members :=
  Members.named [("type", .str "object"), ("properties", .dict (Members.named [("remark",
      .dict (Members.named [("anyOf", .list [.dict (Members.named [("type", .str "string")]),
        .dict (Members.named [("type", .str "null")])])]))])),
    ("required", .list [.str "remark"]), ("nullable", .bool true)]

theorem compile_marks_remark :
    load remarkTree = .ok remarkNode ∧ remarkNode.FieldsNamed ∧
      remarkNode.compile {} = .ok remarkDocument ∧
      (∀ v, Members.get? "nullable" remarkDocument = some v → v = .bool true) ∧
      (∀ inner, Relation.TransGen Child remarkDocument inner →
        Members.get? "nullable" inner = none) ∧
      ∃ results fragment, visit {} (Context.root.alternative.inner.field (.str "remark") (.dict []))
          (sum remarkTypes (.dict [])) = .ok fragment ∧
        visitAlternatives {} (Context.root.alternative.inner.field (.str "remark")
          (.dict [])).alternative [] remarkTypes = .ok results ∧
        Different (results.map Value.dict) ∧
        (2 ≤ results.length →
          Members.get? "anyOf" fragment = some (.list (results.map Value.dict))) := by
  have named : remarkNode.FieldsNamed := by
    intro name type required notes held
    simp only [remarkNode, remarkField, remarkTypes, parts, partsOfSlot, partsOfEach,
      List.append_nil, List.cons_append, List.nil_append, List.mem_cons, reduceCtorEq, key.injEq,
      List.not_mem_nil, or_false, false_or] at held
    rw [held.1]
    rfl
  have whole := compile_marks (rfl : load remarkTree = .ok remarkNode) named
    (rfl : remarkNode.compile {} = .ok remarkDocument)
  refine ⟨rfl, named, rfl, whole.1, whole.2.1, ?_⟩
  refine whole.2.2 ⟨Context.root.alternative.inner, remarkField⟩ _ _ _ ?_ rfl (.single .field)
  have first : Site.Leads ⟨Context.root, remarkNode⟩
      ⟨Context.root.alternative, schema (.nodes [remarkField]) (.dict [])⟩ :=
    .alternative (.single List.mem_cons_self (by simp))
  exact .tail (.single first) (.member List.mem_cons_self rfl)

end Node

end Draftsman
