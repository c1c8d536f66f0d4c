/-
# Draftsman.Proofs.SizeBounds -- bounds on the size of lists

Texts and lists share the predicates that bound a size.  To the right of a list they bound
its items, anywhere else a length.  Whether a list stands on the left is read off the tree
(`Node.concreteType`), apart from the fragment that the tree is compiled to.

The two agree where a type can be read off the tree (`Node.plainlyTyped`, `typedAs_of_visit`):
there the main result `compile_bounds` says that the bounds beside a list bound its items.
A union whose results collapse to a list cannot be read so, and its bounds are those of
texts (`compile_bounds_collapsed`).

Every fragment has different texts for keys, whatever the description (`visit_named`), so
what stands under a keyword of two fragments joined comes from one of them.
-/
import Draftsman.Proofs.Soundness
import Draftsman.Proofs.Sites

namespace Draftsman

set_option autoImplicit false

namespace Node

open Document

/-! ## Keys of fragments -/

theorem named_annotated {names : List String} (different : names.Nodup) {notes : Value}
    {own fragment : Members} (picked : annotations names notes = some own)
    (named : fragment.Named) : (Members.update fragment own).Named :=
  named.update fun member held => (annotations_named different picked).texts member held

/-- Every way in which a visit makes a fragment keeps its keys different texts. -/
theorem named_kept (o : Options) : Kept o (fun _ => True) fun _ => Members.Named where
  nominal _ primitive := by
    rw [typeMembers?]
    cases primitive.toPrimitive? with
    | none => exact Members.Named.nil
    | some p =>
        simp only [Option.map_some, Option.getD_some, map_str_eq_ofKeywords]
        refine named_ofKeywords ?_
        cases p <;> decide
  predicate _ emitted := by
    rcases predicateFragment_cases emitted with rfl | ⟨own, c, v, -, -, -, -, rfl⟩
    · exact Members.Named.nil
    · exact named_ofKeywords (by simp)
  object _ := named_ofKeywords (by simp)
  wrapped named := named
  field _ named := named
  joined base extra joins := Fragment.Named.merge base extra joins
  sum {ctx types notes results} _ _ each := by
    rcases sumFragment_cases ctx.topLevel results with only | ⟨-, result, held, marked⟩ | ⟨-, listed⟩
    · exact each _ (only ▸ List.mem_singleton_self _)
    · rw [marked]
      exact (each result held).insert rfl _
    · rw [listed]
      exact named_ofKeywords (by simp)
  reference _ inArray _ _ _ := by
    cases inArray with
    | true => exact named_ofKeywords (by simp)
    | false => exact named_ofKeywords (by simp)
  array _ _ built := by
    simp only [arrayFragment, bind_eq_ok, typed_eq_ok, decided_eq_ok, pure_eq_ok] at built
    obtain ⟨hoisted, picked, left, -, rfl⟩ := built
    exact named_annotated (by decide) picked (named_ofKeywords (by simp))
  schema {ctx keys notes fields} _ _ _ := by
    rw [Fields.fragment]
    refine named_ofKeywords ?_
    split
    · simp
    · simp
  noted _ named noted := by
    obtain ⟨own, picked, rfl⟩ := Option.map_eq_some_iff.mp noted
    exact named_annotated (by decide) picked named

/-- The keys of a fragment are different texts. -/
theorem visit_named {o : Options} {ctx : Context} {node : Node} {fragment : Members}
    (visited : visit o ctx node = .ok fragment) : fragment.Named :=
  (named_kept o).visit (.inr ⟨bare ctx.keyNotes, trivial, rfl⟩) (fun _ _ => trivial) visited

/-! ## Predicates and their keywords -/

/-- What stands in the fragment of a predicate comes from the table. -/
theorem keyword_of_predicate {o : Options} {leftType name operand v : Value} {keyword : String}
    {fragment : Members} (emitted : predicateFragment o leftType name operand = .ok fragment)
    (found : Members.get? keyword fragment = some v) :
    ∃ own c, lookupName leftType name = some own ∧ constraint? own = some c ∧
      c.keyword = keyword ∧ c.reading.apply operand = .ok v ∧ v.isNull = false := by
  rcases predicateFragment_cases emitted with rfl | ⟨own, c, w, named, listed, applied, written, rfl⟩
  · cases found
  · obtain ⟨rfl, rfl⟩ : keyword = c.keyword ∧ v = w := by simpa using mem_of_get?_ofKeywords found
    exact ⟨own, c, named, listed, rfl, applied, written⟩

theorem sizeRenaming_cases (text : String) :
    (text = "min_size?" ∧ sizeRenaming text = "min_items?") ∨
      (text = "max_size?" ∧ sizeRenaming text = "max_items?") ∨
        (text ≠ "min_size?" ∧ text ≠ "max_size?" ∧ sizeRenaming text = text) := by
  unfold sizeRenaming
  by_cases least : text = "min_size?"
  · exact .inl ⟨least, if_pos least⟩
  · by_cases most : text = "max_size?"
    · refine .inr (.inl ⟨most, ?_⟩)
      rw [if_neg least, if_pos most]
    · refine .inr (.inr ⟨least, most, ?_⟩)
      rw [if_neg least, if_neg most]

/-- Only the predicate of that name is looked up as `type?`. -/
theorem equal_of_lookupName {leftType name : Value} (looked : lookupName leftType name = some "type?") :
    name.equal (.str "type?") = true := by
  have text : name.text? = some "type?" := by
    simp only [lookupName] at looked
    split at looked
    · obtain ⟨text, own, renamed⟩ := Option.map_eq_some_iff.mp looked
      rcases sizeRenaming_cases text with ⟨-, same⟩ | ⟨-, same⟩ | ⟨-, -, same⟩
      · rw [same] at renamed
        exact absurd renamed (by decide)
      · rw [same] at renamed
        exact absurd renamed (by decide)
      · rw [own, ← renamed, same]
    · exact looked
  rw [Value.equal_of_text? text]
  rfl

/-- The keyword of types is that of one predicate only. -/
theorem constraint_of_type {own : String} {c : Constraint} (listed : constraint? own = some c)
    (keyword : c.keyword = "type") : own = "type?" ∧ c.reading = .typeName := by
  have each : ∀ entry ∈ constraints, entry.2.keyword = "type" →
      entry.1 = "type?" ∧ entry.2.reading = .typeName := by decide
  exact each (own, c) (mem_constraints listed) keyword

/-! ## Rules -/

/-- Whether a node is a rule: a predicate that gives no type, or several of these at once. -/
def isRule : Node → Bool
  | predicate name _ _ => !name.equal (.str "type?")
  | intersection left right _ => isRule left && isRule right
  | _ => false

/-- A rule stands for no primitive. -/
theorem concreteType_of_isRule : ∀ {rule : Node}, rule.isRule = true → concreteType rule = .null
  | .predicate name operand notes, isRule => by
      have other : name.equal (.str "type?") = false := by simpa [Node.isRule] using isRule
      rw [concreteType, other, if_neg Bool.false_ne_true]
  | .intersection left right notes, isRule => by
      rw [Node.isRule, Bool.and_eq_true] at isRule
      rw [concreteType]
      exact concreteType_of_isRule isRule.1

/-- A keyword that no predicate of a rule gives is not in the fragment of the rule.  What is
to the left of the rule is to the left of each of its predicates. -/
theorem get?_of_isRule {o : Options} {leftType : Value} {keyword : String}
    (other : keyword ∉ annotationNames)
    (lacks : ∀ name operand fragment, name.equal (.str "type?") = false →
      predicateFragment o leftType name operand = .ok fragment →
      Members.get? keyword fragment = none) :
    ∀ {rule : Node} {ctx : Context} {fragment : Members}, rule.isRule = true →
      ctx.leftType = leftType → visit o ctx rule = .ok fragment →
      Members.get? keyword fragment = none
  | .predicate name operand notes, ctx, fragment, isRule, left, visited => by
      have own : name.equal (.str "type?") = false := by simpa [Node.isRule] using isRule
      simp only [visit, bind_eq_ok] at visited
      obtain ⟨-, -, inner, emitted, finished⟩ := visited
      rw [get?_overlay (typed_eq_ok.mp finished) other]
      exact lacks name operand inner own (left ▸ emitted)
  | .intersection one two notes, ctx, fragment, isRule, left, visited => by
      rw [Node.isRule, Bool.and_eq_true] at isRule
      simp only [visit, bind_eq_ok, decided_eq_ok, concreteType_of_isRule isRule.1] at visited
      obtain ⟨-, -, base, baseVisited, extra, extraVisited, both, joined, finished⟩ := visited
      have innerLeft : ctx.inner.leftType = leftType := left
      have ruleLeft : (ctx.ruleFor (if Value.null.truthy then .null else ctx.leftType)).leftType =
          leftType := left
      have baseNone := get?_of_isRule other lacks isRule.1 innerLeft baseVisited
      have extraNone := get?_of_isRule other lacks isRule.2 ruleLeft extraVisited
      rw [get?_overlay (typed_eq_ok.mp finished) other,
        Fragment.get?_merge_of_none (visit_named extraVisited) joined extraNone, baseNone]

/-- A rule gives no type. -/
theorem type_of_isRule {o : Options} {ctx : Context} {rule : Node} {fragment : Members}
    (isRule : rule.isRule = true) (visited : visit o ctx rule = .ok fragment) :
    Members.get? "type" fragment = none := by
  refine get?_of_isRule (by decide) (fun name operand fragment own emitted => ?_) isRule rfl visited
  cases found : Members.get? "type" fragment with
  | none => rfl
  | some v =>
      obtain ⟨text, c, looked, listed, keyword, -⟩ := keyword_of_predicate emitted found
      obtain ⟨rfl, -⟩ := constraint_of_type listed keyword
      rw [equal_of_lookupName looked] at own
      cases own

/-! ## Types that are read off the tree -/

/-- Whether two nodes stand for the same primitive, or both for none. -/
def standsAlike (left right : Node) : Bool :=
  match concreteType left, concreteType right with
  | .primitive p, .primitive q => p == q
  | .null, .null => true
  | _, _ => false

/-- Whether the type in a fragment of a node is that of the primitive that it stands for.  A
rule gives no type, and a type beside another has to be the same; unions and fields stand
for no primitive. -/
def plainlyTyped : Node → Bool
  | nominal _ _ | predicate _ _ _ | array _ _ | schema _ _ | mapping _ _ | aggregate _ _ _ => true
  | constructor type _ _ | enum type _ _ => plainlyTyped type
  | constrained left right _ | intersection left right _ =>
      plainlyTyped left && (isRule right || (plainlyTyped right && standsAlike left right))
  | sum _ _ | key _ _ _ _ | lazy _ | bare _ | plain _ => false

/-- A fragment with no type but that of the primitive that a node stands for. -/
def TypedAs (node : Node) (fragment : Members) : Prop :=
  ∀ v, Members.get? "type" fragment = some v →
    ∃ p, concreteType node = .primitive p ∧ v = .str p.typeName

namespace TypedAs

variable {node : Node} {fragment whole : Members}

theorem of_none (none : Members.get? "type" fragment = none) : TypedAs node fragment := by
  intro v found
  rw [none] at found
  cases found

theorem of_primitive {p : Primitive} (stands : concreteType node = .primitive p)
    (own : ∀ v, Members.get? "type" fragment = some v → v = .str p.typeName) :
    TypedAs node fragment :=
  fun v found => ⟨p, stands, own v found⟩

/-- The annotations of a node give no type. -/
theorem noted (typed : TypedAs node fragment) {notes : Value}
    (finished : finish notes fragment = .ok whole) : TypedAs node whole := by
  intro v found
  rw [get?_overlay (typed_eq_ok.mp finished) (by decide)] at found
  exact typed v found

/-- Two fragments of one type have that type joined. -/
theorem merge {base extra both : Members} (named : extra.Named)
    (joined : Fragment.merge? base extra = some both) (baseTyped : TypedAs node base)
    (extraTyped : TypedAs node extra) : TypedAs node both := by
  intro v found
  rcases Fragment.get?_merge_cases named joined found with
    ⟨old, -⟩ | ⟨-, new⟩ | ⟨old, new, -, incoming, done⟩
  · exact baseTyped v old
  · exact extraTyped v new
  · obtain ⟨p, stands, rfl⟩ := extraTyped new incoming
    obtain rfl := Option.some.inj done
    exact ⟨p, stands, rfl⟩

/-- Nodes that stand for the same primitive have the same type. -/
theorem of_standsAlike {other : Node} (alike : standsAlike node other = true)
    (typed : TypedAs other fragment) : TypedAs node fragment := by
  intro v found
  obtain ⟨p, stands, rfl⟩ := typed v found
  refine ⟨p, ?_, rfl⟩
  rw [standsAlike, stands] at alike
  cases own : concreteType node with
  | primitive q =>
      rw [own] at alike
      rw [eq_of_beq alike]
  | _ => simp [own] at alike

end TypedAs

theorem typedAs_predicate {o : Options} {leftType name operand notes : Value} {fragment : Members}
    (emitted : predicateFragment o leftType name operand = .ok fragment) :
    TypedAs (predicate name operand notes) fragment := by
  intro v found
  obtain ⟨own, c, looked, listed, keyword, applied, written⟩ := keyword_of_predicate emitted found
  obtain ⟨rfl, reading⟩ := constraint_of_type listed keyword
  rw [reading] at applied
  obtain rfl := Except.ok.inj applied
  rw [concreteType, equal_of_lookupName looked, if_pos rfl]
  cases named : operand.toPrimitive? with
  | none => simp [named, Value.isNull] at written
  | some p => exact ⟨p, by simp, by simp⟩

theorem typedAs_array {member : Node} {notes : Value} {items fragment : Members}
    (built : arrayFragment items member.notes = .ok fragment) :
    TypedAs (array member notes) fragment := by
  simp only [arrayFragment, bind_eq_ok, typed_eq_ok, decided_eq_ok, pure_eq_ok] at built
  obtain ⟨hoisted, picked, left, -, rfl⟩ := built
  refine .of_primitive rfl fun v found => ?_
  rw [get?_update_annotations (by decide) picked (by decide)] at found
  exact (Option.some.inj found).symm

/-- Object types are of one type, by reference or not. -/
theorem type_of_objectReference {inArray : Bool} {ref v : Value}
    (found : Members.get? "type" (objectReference inArray ref) = some v) :
    v = .str Primitive.dict.typeName := by
  cases inArray with
  | true => cases found
  | false => exact (Option.some.inj found).symm

theorem typedAs_schema {o : Options} {ctx : Context} {keys : Children} {notes : Value}
    {fragment : Members} (visited : visit o ctx (schema keys notes) = .ok fragment) :
    TypedAs (schema keys notes) fragment := by
  simp only [visit, bind_eq_ok] at visited
  obtain ⟨-, -, ref, -, visited⟩ := visited
  split at visited
  · obtain ⟨fields, -, finished⟩ := bind_eq_ok.mp visited
    refine TypedAs.noted (.of_primitive rfl fun v found => ?_) finished
    rw [Fields.fragment] at found
    split at found <;> exact (Option.some.inj found).symm
  · exact TypedAs.noted (.of_primitive rfl fun v found => type_of_objectReference found) visited

/-- An object type is of the type of its field set. -/
theorem typedAs_fieldSet {o : Options} {ctx : Context} {node fields : Node} {ref : Value}
    {inArray : Bool} {whole : Members} (stands : concreteType node = .primitive .dict)
    (schema : fields.isNode = true → fields.isSchema = true)
    (visited : (if ref.isNull then (visitFieldSet o ctx fields).bind (finish node.notes)
      else finish node.notes (objectReference inArray ref)) = .ok whole) : TypedAs node whole := by
  split at visited
  · obtain ⟨inner, inside, finished⟩ := bind_eq_ok.mp visited
    refine TypedAs.noted (.of_primitive stands fun v found => ?_) finished
    rcases visitFieldSet_cases inside with ⟨-, rfl⟩ | own
    · exact (Option.some.inj found).symm
    · cases fields with
      | schema keys notes =>
          obtain ⟨p, same, typed⟩ := typedAs_schema own v found
          obtain rfl := Value.primitive.inj same
          exact typed
      | _ => cases schema (isNode_of_visit own)
  · exact TypedAs.noted (.of_primitive stands fun v found => type_of_objectReference found) visited

/-- Where a type can be read off the tree of a formed node, its fragment has no other. -/
theorem typedAs_of_visit {o : Options} : ∀ {node : Node} {ctx : Context} {fragment : Members},
    (∀ part ∈ node.parts, part.formed = true) → node.plainlyTyped = true →
      visit o ctx node = .ok fragment → TypedAs node fragment
  | .nominal primitive notes, ctx, fragment, formed, readable, visited => by
      have own := formed _ List.mem_cons_self
      simp only [visit, bind_eq_ok] at visited
      obtain ⟨-, -, finished⟩ := visited
      cases primitive with
      | primitive p =>
          refine TypedAs.noted (.of_primitive rfl fun v found => ?_) finished
          cases p <;> exact (Option.some.inj found).symm
      | _ => cases own
  | .predicate name operand notes, ctx, fragment, formed, readable, visited => by
      simp only [visit, bind_eq_ok] at visited
      obtain ⟨-, -, inner, emitted, finished⟩ := visited
      exact (typedAs_predicate emitted).noted finished
  | .constructor type fn notes, ctx, fragment, formed, readable, visited => by
      obtain ⟨-, below⟩ := List.forall_mem_cons.mp formed
      simp only [visit, bind_eq_ok] at visited
      obtain ⟨-, -, inner, visited, finished⟩ := visited
      have typed : TypedAs type inner := typedAs_of_visit below readable visited
      exact TypedAs.noted typed finished
  | .enum type values notes, ctx, fragment, formed, readable, visited => by
      obtain ⟨-, below⟩ := List.forall_mem_cons.mp formed
      simp only [visit, bind_eq_ok] at visited
      obtain ⟨-, -, inner, visited, finished⟩ := visited
      have typed : TypedAs type inner := typedAs_of_visit below readable visited
      exact TypedAs.noted typed finished
  | .constrained left right notes, ctx, fragment, formed, readable, visited
  | .intersection left right notes, ctx, fragment, formed, readable, visited => by
      obtain ⟨-, below⟩ := List.forall_mem_cons.mp formed
      obtain ⟨leftFormed, rightFormed⟩ := List.forall_mem_append.mp below
      simp only [visit, bind_eq_ok, decided_eq_ok] at visited
      obtain ⟨-, -, base, baseVisited, extra, extraVisited, both, joined, finished⟩ := visited
      rw [plainlyTyped, Bool.and_eq_true, Bool.or_eq_true, Bool.and_eq_true] at readable
      obtain ⟨leftReadable, rightReadable⟩ := readable
      have baseTyped : TypedAs left base := typedAs_of_visit leftFormed leftReadable baseVisited
      have extraTyped : TypedAs left extra := by
        rcases rightReadable with rule | ⟨own, alike⟩
        · exact .of_none (type_of_isRule rule extraVisited)
        · exact .of_standsAlike alike (typedAs_of_visit rightFormed own extraVisited)
      have typed : TypedAs left both :=
        TypedAs.merge (visit_named extraVisited) joined baseTyped extraTyped
      exact TypedAs.noted typed finished
  | .array member notes, ctx, fragment, formed, readable, visited => by
      simp only [visit, bind_eq_ok] at visited
      obtain ⟨-, -, items, -, whole, built, finished⟩ := visited
      exact (typedAs_array built).noted finished
  | .schema keys notes, ctx, fragment, formed, readable, visited => typedAs_schema visited
  | .mapping fields notes, ctx, fragment, formed, readable, visited => by
      have own := formed _ List.mem_cons_self
      simp only [visit_mapping, bind_eq_ok] at visited
      obtain ⟨-, -, ref, -, visited⟩ := visited
      refine typedAs_fieldSet rfl (fun isNode => ?_) visited
      cases fields with
      | schema keys inner => rfl
      | plain v => cases isNode
      | _ => cases notes <;> cases own
  | .aggregate name fields notes, ctx, fragment, formed, readable, visited => by
      have own := formed _ List.mem_cons_self
      simp only [visit_aggregate, bind_eq_ok] at visited
      obtain ⟨-, -, ref, -, visited⟩ := visited
      refine typedAs_fieldSet rfl (fun isNode => ?_) visited
      cases notes with
      | dict members => exact own
      | _ => cases own

/-! ## Bounds beside a list -/

/-- The predicates that bound a size, with the keywords that bound items. -/
def sizeBounds : List (String × String) := [("min_size?", "minItems"), ("max_size?", "maxItems")]

def lengthKeywords : List String := ["minLength", "maxLength"]

/-- Beside a list, no predicate bounds a length. -/
theorem length_of_predicate {o : Options} {name operand : Value} {fragment : Members}
    {keyword : String} (listed : keyword ∈ lengthKeywords)
    (emitted : predicateFragment o (.primitive .list) name operand = .ok fragment) :
    Members.get? keyword fragment = none := by
  cases found : Members.get? keyword fragment with
  | none => rfl
  | some v =>
      obtain ⟨own, c, looked, known, rfl, -⟩ := keyword_of_predicate emitted found
      have each : ∀ entry ∈ constraints, entry.2.keyword ∈ lengthKeywords →
          entry.1 = "min_size?" ∨ entry.1 = "max_size?" := by decide
      have sized : own = "min_size?" ∨ own = "max_size?" :=
        each (own, c) (mem_constraints known) listed
      obtain ⟨text, -, renamed⟩ := Option.map_eq_some_iff.mp looked
      rcases sizeRenaming_cases text with ⟨-, same⟩ | ⟨-, same⟩ | ⟨least, most, same⟩
      · rw [← renamed, same] at sized
        exact absurd sized (by decide)
      · rw [← renamed, same] at sized
        exact absurd sized (by decide)
      · rw [← renamed, same] at sized
        rcases sized with impossible | impossible
        · exact absurd impossible least
        · exact absurd impossible most

/-- Beside a list, a predicate that bounds a size bounds the items, by its operand. -/
theorem items_of_predicate {o : Options} {ctx : Context} {name operand notes : Value}
    {fragment : Members} {bound : String × String} (listed : bound ∈ sizeBounds)
    (text : name.text? = some bound.1) (left : ctx.leftType = .primitive .list)
    (visited : visit o ctx (predicate name operand notes) = .ok fragment) :
    ∃ n, Operand.toInteger operand = .ok n ∧
      Members.get? bound.2 fragment = some (.int n) := by
  simp only [visit, bind_eq_ok] at visited
  obtain ⟨-, -, inner, emitted, finished⟩ := visited
  have each : ∀ entry ∈ sizeBounds,
      constraint? (sizeRenaming entry.1) = some ⟨entry.2, .integer⟩ ∧
        entry.2 ∉ annotationNames := by decide
  obtain ⟨known, other⟩ := each bound listed
  have looked : (lookupName ctx.leftType name).bind constraint? = some ⟨bound.2, .integer⟩ := by
    rw [left, lookupName, text]
    exact known
  rw [predicateFragment, Value.isKey_of_text? text, looked] at emitted
  rw [get?_overlay (typed_eq_ok.mp finished) other]
  cases converted : Operand.toInteger operand with
  | error fault =>
      simp [Reading.apply, converted, Except.map] at emitted
  | ok n =>
      obtain rfl : Fragment.ofKeywords [(bound.2, .int n)] = inner := by
        simpa [Reading.apply, converted, Except.map, Value.isNull] using emitted
      refine ⟨n, rfl, ?_⟩
      simp [Fragment.ofKeywords, Members.named, Members.get?_cons, Value.text?]

end Node

namespace Site

open Node

variable {here there : Site}

/-- What a rule leads to is a rule for values of the same type. -/
theorem Leads.rules (step : Leads here there) (isRule : here.node.isRule = true) :
    there.node.isRule = true ∧ there.ctx.leftType = here.ctx.leftType := by
  cases step with
  | left => exact ⟨(Bool.and_eq_true_iff.mp isRule).1, rfl⟩
  | @right ctx left right notes =>
      obtain ⟨leftRule, rightRule⟩ := Bool.and_eq_true_iff.mp isRule
      refine ⟨rightRule, ?_⟩
      rw [concreteType_of_isRule leftRule]
      rfl
  | _ => cases isRule

theorem Reaches.rules (reached : Reaches here there) (isRule : here.node.isRule = true) :
    there.node.isRule = true ∧ there.ctx.leftType = here.ctx.leftType := by
  induction reached with
  | refl => exact ⟨isRule, rfl⟩
  | tail _ step ih =>
      obtain ⟨own, same⟩ := step.rules ih.1
      exact ⟨own, same.trans ih.2⟩

/-- What a rule leads to gives its keywords to the rule. -/
theorem Leads.keeps {o : Options} {keyword : String} (other : keyword ∉ annotationNames)
    (step : Leads here there) (isRule : here.node.isRule = true) {whole part : Members}
    (visited : here.visit o = .ok whole) (own : there.visit o = .ok part)
    (present : (Members.get? keyword part).isSome = true) :
    (Members.get? keyword whole).isSome = true := by
  have kept {base extra both : Members} {notes : Value} (extraNamed : extra.Named)
      (joined : Fragment.merge? base extra = some both) (finished : finish notes both = .ok whole)
      (listed : keyword ∈ base.names ∨ keyword ∈ extra.names) :
      (Members.get? keyword whole).isSome = true := by
    rw [get?_overlay (typed_eq_ok.mp finished) other, Members.get?_isSome]
    exact (Fragment.mem_names_merge extraNamed joined).mpr listed
  have listed := Members.get?_isSome.mp present
  cases step with
  | left =>
      simp only [Site.visit, Node.visit, bind_eq_ok, decided_eq_ok] at visited own
      obtain ⟨-, -, base, baseVisited, extra, extraVisited, both, joined, finished⟩ := visited
      obtain rfl := Except.ok.inj (baseVisited.symm.trans own)
      exact kept (visit_named extraVisited) joined finished (.inl listed)
  | right =>
      simp only [Site.visit, Node.visit, bind_eq_ok, decided_eq_ok] at visited own
      obtain ⟨-, -, base, baseVisited, extra, extraVisited, both, joined, finished⟩ := visited
      obtain rfl := Except.ok.inj (extraVisited.symm.trans own)
      exact kept (visit_named extraVisited) joined finished (.inr listed)
  | _ => cases isRule

/-- A rule holds the keywords of all that it visits. -/
theorem Reaches.keeps {o : Options} {keyword : String} (other : keyword ∉ annotationNames)
    (reached : Reaches here there) (isRule : here.node.isRule = true) {whole part : Members}
    (visited : here.visit o = .ok whole) (own : there.visit o = .ok part)
    (present : (Members.get? keyword part).isSome = true) :
    (Members.get? keyword whole).isSome = true := by
  induction reached generalizing part with
  | refl => exact Except.ok.inj (visited.symm.trans own) ▸ present
  | tail before step ih =>
      obtain ⟨middle, between⟩ := Reaches.visited before visited
      exact ih between (step.keeps other (Reaches.rules before isRule).1 between own present)

/-- The fragment of a rule bounds no length, and each of its predicates that bounds a size
bounds the items, in its own fragment by its operand and in the fragment of the rule. -/
structure BoundsItems (o : Options) (rule : Site) (fragment : Members) : Prop where
  noLength : ∀ keyword ∈ lengthKeywords, Members.get? keyword fragment = none
  items : ∀ {there name operand notes}, Reaches rule there →
    there.node = predicate name operand notes → ∀ bound ∈ sizeBounds,
      name.text? = some bound.1 → ∃ n own, Operand.toInteger operand = .ok n ∧
        there.visit o = .ok own ∧ Members.get? bound.2 own = some (.int n) ∧
        (Members.get? bound.2 fragment).isSome = true

/-- A rule for lists bounds items. -/
theorem boundsItems_of_list {o : Options} {rule : Site} {fragment : Members}
    (isRule : rule.node.isRule = true) (left : rule.ctx.leftType = .primitive .list)
    (visited : rule.visit o = .ok fragment) : BoundsItems o rule fragment where
  noLength keyword listed := by
    have apart : ∀ keyword ∈ lengthKeywords, keyword ∉ annotationNames := by decide
    exact get?_of_isRule (apart keyword listed)
      (fun name operand inner _ emitted => length_of_predicate listed emitted) isRule left visited
  items {there name operand notes} reached same bound listed text := by
    have apart : ∀ bound ∈ sizeBounds, bound.2 ∉ annotationNames := by decide
    obtain ⟨own, single⟩ := Reaches.visited reached visited
    obtain ⟨-, kept⟩ := Reaches.rules reached isRule
    have emitted : Node.visit o there.ctx (predicate name operand notes) = .ok own := same ▸ single
    obtain ⟨n, converted, found⟩ := items_of_predicate listed text (kept.trans left) emitted
    refine ⟨n, own, converted, single, found, ?_⟩
    exact Reaches.keeps (apart bound listed) reached isRule visited single (by rw [found]; rfl)

end Site

namespace Node

open Site

/-- The rule beside a type whose primitive is a list is one for lists. -/
theorem leads_rule_of_list {here : Site} {type rule : Node} {notes : Value}
    (beside : here.node = constrained type rule notes ∨ here.node = intersection type rule notes)
    (list : concreteType type = .primitive .list) :
    Leads here ⟨here.ctx.ruleFor (.primitive .list), rule⟩ := by
  obtain ⟨ctx, node⟩ := here
  rcases beside with same | same
  · obtain rfl : node = constrained type rule notes := same
    exact list ▸ Leads.rule
  · obtain rfl : node = intersection type rule notes := same
    have step : Leads ⟨ctx, intersection type rule notes⟩ ⟨ctx.ruleFor
        (if (concreteType type).truthy then concreteType type else ctx.leftType), rule⟩ := .right
    rw [list] at step
    exact step

theorem eq_list_of_typeName {p : Primitive} (array : p.typeName = "array") : p = .list := by
  cases p with
  | list => rfl
  | _ => exact absurd array (by decide)

/-- In the document of a loaded description, a rule beside a type that is compiled to a list
bounds items, if the type can be read off the tree. -/
theorem compile_bounds {o : Options} {tree : Value} {node : Node} {document : Members}
    (loaded : load tree = .ok node) (compiled : node.compile o = .ok document)
    {here : Site} (reached : Reaches ⟨Context.root, node⟩ here) {type rule : Node} {notes : Value}
    (beside : here.node = constrained type rule notes ∨ here.node = intersection type rule notes)
    (readable : type.plainlyTyped = true) (isRule : rule.isRule = true) {base : Members}
    (visited : visit o here.ctx.inner type = .ok base)
    (list : Members.get? "type" base = some (.str "array")) :
    Leads here ⟨here.ctx.ruleFor (.primitive .list), rule⟩ ∧
      ∃ fragment, visit o (here.ctx.ruleFor (.primitive .list)) rule = .ok fragment ∧
        BoundsItems o ⟨here.ctx.ruleFor (.primitive .list), rule⟩ fragment := by
  simp only [compile, bind_eq_ok] at compiled
  obtain ⟨whole, compiled, -⟩ := compiled
  have formed : ∀ part ∈ type.parts, part.formed = true := by
    intro part held
    refine (load_formed loaded).2 part (Reaches.parts reached part ?_)
    rcases beside with same | same
    · rw [same]
      exact List.mem_cons_of_mem _ (List.mem_append_left _ held)
    · rw [same]
      exact List.mem_cons_of_mem _ (List.mem_append_left _ held)
  obtain ⟨p, stands, named⟩ := typedAs_of_visit formed readable visited _ list
  obtain rfl := eq_list_of_typeName (Value.str.inj named).symm
  have step := leads_rule_of_list beside stands
  obtain ⟨inside, own⟩ := Reaches.visited reached compiled
  obtain ⟨fragment, single⟩ := step.visited own
  exact ⟨step, fragment, single, boundsItems_of_list isRule rfl single⟩

def boundedTree (type : Value) : Value :=
  .dict (Members.named [("kind", .str "constrained"), ("type", type), ("rule",
    .dict (Members.named [("kind", .str "intersection"),
      ("left", .dict (Members.named [("kind", .str "predicate"), ("name", .str "min_size?"),
        ("operand", .int 1)])),
      ("right", .dict (Members.named [("kind", .str "predicate"), ("name", .str "max_size?"),
        ("operand", .int 3)]))]))])

def boundsRule : Node :=
  intersection (predicate (.str "min_size?") (.int 1) (.dict []))
    (predicate (.str "max_size?") (.int 3) (.dict [])) (.dict [])

def textsTree : Value :=
  .dict (Members.named [("kind", .str "array"), ("member",
    .dict (Members.named [("kind", .str "nominal"), ("primitive", .str "string")]))])

def textsNode : Node := array (nominal (.primitive .string) (.dict [])) (.dict [])

theorem compile_bounds_texts :
    load (boundedTree textsTree) = .ok (constrained textsNode boundsRule (.dict [])) ∧
      textsNode.plainlyTyped = true ∧ boundsRule.isRule = true ∧
      Leads ⟨Context.root, constrained textsNode boundsRule (.dict [])⟩
        ⟨Context.root.ruleFor (.primitive .list), boundsRule⟩ ∧
      ∃ fragment, visit {} (Context.root.ruleFor (.primitive .list)) boundsRule = .ok fragment ∧
        BoundsItems {} ⟨Context.root.ruleFor (.primitive .list), boundsRule⟩ fragment := by
  have loaded : load (boundedTree textsTree) =
      .ok (constrained textsNode boundsRule (.dict [])) := rfl
  have visited : visit {} Context.root.inner textsNode = .ok (Members.named
      [("type", .str "array"), ("items", .dict (Members.named [("type", .str "string")]))]) := rfl
  have compiled : (constrained textsNode boundsRule (.dict [])).compile {} = .ok (Members.named
      [("type", .str "array"), ("items", .dict (Members.named [("type", .str "string")])),
        ("minItems", .int 1), ("maxItems", .int 3)]) := rfl
  exact ⟨loaded, rfl, rfl, compile_bounds loaded compiled .refl (.inl rfl) rfl rfl visited rfl⟩

/-- A tagged tree: a union of which a list of texts is the one alternative. -/
def collapsedTree : Value :=
  .dict (Members.named [("kind", .str "sum"), ("types", .list [textsTree])])

/-- The union is compiled to a list, but the rule beside it is not one for lists. -/
theorem compile_bounds_collapsed :
    load (boundedTree collapsedTree) =
        .ok (constrained (sum (.nodes [textsNode]) (.dict [])) boundsRule (.dict [])) ∧
      boundsRule.isRule = true ∧
      visit {} Context.root.inner (sum (.nodes [textsNode]) (.dict [])) = .ok (Members.named
        [("type", .str "array"), ("items", .dict (Members.named [("type", .str "string")]))]) ∧
      (constrained (sum (.nodes [textsNode]) (.dict [])) boundsRule (.dict [])).compile {} =
        .ok (Members.named [("type", .str "array"),
          ("items", .dict (Members.named [("type", .str "string")])),
          ("minLength", .int 1), ("maxLength", .int 3)]) :=
  ⟨rfl, rfl, rfl, rfl⟩

end Node

end Draftsman
