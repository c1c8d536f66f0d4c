/-
# Draftsman.Proofs.Overlays -- notes laid over a fragment

A visit makes a fragment, and then lays the notes of the node over it.  What it makes depends on no
other note than the reference (`visit_noted`).  So notes that are added to a node are written over
its fragment, as they would be over that of any other node, and change nothing else
(`visit_annotate`): a dictionary that is written over another and then over a fragment comes to the
same as the two written over the fragment one after the other.

What a visit makes of a decimal that is not a number is never what another visit makes of it.  So
the fragments of two visits count as the same if neither holds such a thing (`Node.Unmade`), and do
not if one does (`visit_annotate_made`).
-/
import Draftsman.Proofs.Contents
import Draftsman.Proofs.Listing
import Draftsman.Proofs.Preferences
import Draftsman.Proofs.Proper

namespace Draftsman

set_option autoImplicit false

open Members

/-! ## The reference alone -/

/-- The reference among some notes, without the rest. -/
def referenceAlone : Value → Value
  | .dict own => .dict (pickedNotes ["$ref"] own)
  | _ => .null

theorem noteOr?_referenceAlone (notes fallback : Value) :
    noteOr? (referenceAlone notes) "$ref" fallback = noteOr? notes "$ref" fallback := by
  cases notes with
  | dict own =>
      simp only [referenceAlone, noteOr?]
      rw [get?_pickedNotes (by decide) List.mem_cons_self]
  | _ => rfl

namespace Node

/-- The reference alone brings nothing into a fragment. -/
theorem finish_referenceAlone (notes : Value) : finish (referenceAlone notes) = pure := by
  funext fragment
  cases notes with
  | dict own =>
      have none : pickedNotes annotationNames (pickedNotes ["$ref"] own) = [] :=
        pickedNotes_eq_nil fun name listed =>
          get?_pickedNotes_of_unlisted (by revert name; decide) own
      simp [finish, overlay, referenceAlone, annotations_dict, none, ofList, update, typed, pure,
        Except.pure]
  | _ => rfl

theorem reference_referenceAlone (notes keyNotes : Value) :
    reference (referenceAlone notes) keyNotes = reference notes keyNotes := by
  simp only [reference, noteOr?_referenceAlone]

/-- The type of a field sees the reference alone among the notes of the field. -/
theorem visit_field_referenceAlone (o : Options) (ctx : Context) (name notes : Value) (type : Node) :
    visit o (ctx.field name (referenceAlone notes)) type = visit o (ctx.field name notes) type := by
  refine (SameVisits.refl o).visit_of_looksLike type rfl ⟨rfl, rfl, rfl, fun own => ?_⟩
  change reference own notes = reference own (referenceAlone notes)
  simp only [reference, noteOr?_referenceAlone]

/-- A node is compiled with its reference alone, and then its notes are laid over what that
gives. -/
theorem visit_noted (o : Options) (ctx : Context) (node : Node) :
    visit o ctx node =
      visit o ctx (node.withNotes (referenceAlone node.notes)) >>= finish node.notes := by
  have opened (step : Except CompileFault Members) (notes : Value) :
      step.bind (finish notes) = step >>= finish notes := rfl
  have handed (step : Except CompileFault Members) : step.bind pure = step := bind_pure step
  -- the notes are laid over a fragment whichever way it is made
  have either (taken : Bool) (inside other : Except CompileFault Members) (notes : Value) :
      (if taken then inside else other) >>= finish notes =
        if taken then inside >>= finish notes else other >>= finish notes := by
    cases taken <;> rfl
  cases node with
  | mapping fields notes | aggregate name fields notes =>
      simp only [withNotes, Node.notes, visit_mapping, visit_aggregate, reference_referenceAlone,
        finish_referenceAlone, bind_assoc, opened, handed, either, pure_bind]
  | schema keys notes =>
      simp only [withNotes, Node.notes, visit, reference_referenceAlone, finish_referenceAlone,
        bind_assoc, either, pure_bind]
  | sum types notes =>
      simp only [withNotes, Node.notes, visit, finish_referenceAlone, bind_assoc]
      split <;> simp only [bind_assoc, pure_bind]
  | plain v =>
      have bare : finish (plain v).notes = pure := rfl
      rw [bare, bind_pure]
      rfl
  | lazy notes | bare notes =>
      simp only [withNotes, Node.notes, visit, bind_assoc]
      rfl
  | _ =>
      simp only [withNotes, Node.notes, visit, finish_referenceAlone, visit_field_referenceAlone,
        bind_assoc, pure_bind]

/-! ## Notes that are added -/

theorem notes_withNotes {node : Node} {own : Members} (held : node.notes = .dict own)
    (notes : Value) : (node.withNotes notes).notes = notes := by
  cases node with
  | plain v => cases held
  | _ => rfl

theorem withNotes_withNotes (node : Node) (first second : Value) :
    (node.withNotes first).withNotes second = node.withNotes second := by
  cases node <;> rfl

/-- A dictionary of notes is always accepted. -/
theorem finish_dict (own fragment : Members) :
    finish (.dict own) fragment = .ok (update fragment (pickedNotes annotationNames own)) := by
  rw [finish, overlay, annotations_dict,
    ofList_of_named (pickedNotes_named (by decide) own)]
  rfl

/-- Notes that are written over others are read before them. -/
theorem get?_update_pickedNotes {names : List String} (different : names.Nodup)
    {more : Members} (named : more.Named) (own fragment : Members) (name : String) :
    get? name (update fragment (pickedNotes names (update own more))) =
      get? name (update (update fragment (pickedNotes names own)) (pickedNotes names more)) := by
  have picked (notes : Members) := pickedNotes_named different notes
  rw [get?_update (picked _), get?_update (picked _), get?_update (picked _)]
  by_cases listed : name ∈ names
  · rw [get?_pickedNotes different listed, get?_pickedNotes different listed,
      get?_pickedNotes different listed, get?_update named, Option.or_assoc]
  · simp only [get?_pickedNotes_of_unlisted listed, Option.none_or]

/-- Notes that name no reference leave that of the notes that they are written over. -/
theorem referenceAlone_update {more : Members} (named : more.Named) (own : Members)
    (unreferred : "$ref" ∉ more.names) :
    referenceAlone (.dict (update own more)) = referenceAlone (.dict own) := by
  have same : pickedNotes ["$ref"] (update own more) = pickedNotes ["$ref"] own :=
    pickedNotes_congr fun name listed => by
      rw [List.mem_singleton.mp listed, get?_update named, get?_eq_none_iff.mpr unreferred,
        Option.none_or]
  simp only [referenceAlone, same]

/-- Fragments with the same under every name are equal. -/
theorem equal_of_get? {first second : Members} (named : first.Named) (named' : second.Named)
    (same : ∀ name, get? name first = get? name second) : Fragment.equal first second = true := by
  refine (Fragment.equal_iff_sameByName named named').mpr fun name => ?_
  rw [same]
  cases get? name second with
  | some v => exact .some (Value.equal_self v)
  | none => exact .none

/-- A fragment is another with some notes written over it: a dictionary that is equal as one and the
same thing, with the same under every name. -/
structure Annotated (more whole fragment : Members) : Prop where
  equal : Fragment.equal whole (update fragment (pickedNotes annotationNames more)) = true
  read : ∀ name, get? name whole =
    get? name (update fragment (pickedNotes annotationNames more))
  typed : get? "type" whole = get? "type" fragment

theorem visit_withNotes (o : Options) (ctx : Context) {node : Node} {own more : Members}
    (held : node.notes = .dict own) (named : more.Named) (unreferred : "$ref" ∉ more.names) :
    Agree (Annotated more) (visit o ctx (node.withNotes (.dict (update own more))))
      (visit o ctx node) := by
  rw [visit_noted o ctx node, visit_noted o ctx (node.withNotes _), notes_withNotes held,
    withNotes_withNotes, referenceAlone_update named own unreferred, held]
  cases made : visit o ctx (node.withNotes (referenceAlone (.dict own))) with
  | error fault => exact .error fault
  | ok fragment =>
      simp only [bind, Except.bind, finish_dict]
      have different : annotationNames.Nodup := by decide
      have picked (notes : Members) := pickedNotes_named different notes
      have written {base : Members} (base' : base.Named) (notes : Members) :
          (update base (pickedNotes annotationNames notes)).Named :=
        base'.update (picked notes).texts
      have read := get?_update_pickedNotes different named own fragment
      have fragment' := visit_named made
      refine .ok ⟨equal_of_get? (written fragment' _) (written (written fragment' _) _) read, read, ?_⟩
      rw [read, get?_update (picked more), get?_pickedNotes_of_unlisted (by decide), Option.none_or]

/-! ## Nothing made -/

/-- A node that brings nothing into a fragment that is made by a conversion and is not a number:
its operand is not converted to such a thing, nor to a list with one among its items. -/
def Unmade (node : Node) : Prop :=
  node.Brings (fun key => key.holdsMade = false) fun v => v.holdsMade = false

theorem unmade_inherited :
    Inherited (fun key => key.holdsMade = false) fun v => v.holdsMade = false where
  list _ := Value.anyHoldsMade_eq_false
  dict _ := Value.anyMemberHoldsMade_eq_false
  textKey _ := rfl
  text _ := rfl
  mark := rfl

theorem unmade_of_get? {members : Members} (unmade : (Value.dict members).holdsMade = false)
    {name : String} {v : Value} (found : get? name members = some v) : v.holdsMade = false := by
  obtain ⟨key, -, held⟩ := mem_of_get? found
  exact (Value.anyMemberHoldsMade_eq_false.mp unmade _ held).2

theorem unmade_of_same {first second : Members} (named : first.Named)
    (same : ∀ name, get? name first = get? name second)
    (unmade : (Value.dict second).holdsMade = false) : (Value.dict first).holdsMade = false := by
  refine Value.anyMemberHoldsMade_eq_false.mpr fun member held => ?_
  obtain ⟨name, text⟩ := Option.isSome_iff_exists.mp (named.texts member held)
  have found := (same name).symm.trans (named.get?_of_mem text held)
  exact ⟨Value.holdsMade_of_text? text, unmade_of_get? unmade found⟩

theorem unmade_pickedNotes {more : Members} (unmade : (Value.dict more).holdsMade = false)
    (names : List String) : (Value.dict (pickedNotes names more)).holdsMade = false := by
  refine Value.anyMemberHoldsMade_eq_false.mpr fun member held => ?_
  obtain ⟨name, -, key, found⟩ := mem_pickedNotes.mp held
  exact ⟨key ▸ rfl, unmade_of_get? unmade found⟩

/-- A fragment to which nothing made is brought holds nothing of the sort. -/
theorem visit_unmade {o : Options} {ctx : Context} {node : Node} {fragment : Members}
    (brought : ∀ part ∈ node.parts, part.Unmade) (around : ctx.keyNotes.holdsMade = false)
    (visited : visit o ctx node = .ok fragment) : (Value.dict fragment).holdsMade = false := by
  have outer : (bare ctx.keyNotes).Unmade :=
    ⟨fun notes found => unmade_of_get? (notes ▸ around) found, nofun, nofun⟩
  exact (brought_kept unmade_inherited o).visit (.inr ⟨bare ctx.keyNotes, outer, rfl⟩) brought
    visited

/-- Notes without a reference that are added to a node are written over its fragment, and the
dictionaries count as the same unless something is made that is not a number. -/
theorem visit_annotate (o : Options) (ctx : Context) {node : Node} {own more : Members}
    (held : node.notes = .dict own) (named : more.Named) (unreferred : "$ref" ∉ more.names) :
    ∃ annotated, node.annotate? more = some annotated ∧
      Agree (Annotated more) (visit o ctx annotated) (visit o ctx node) ∧
      ((∀ part ∈ node.parts, part.Unmade) → (Value.dict more).holdsMade = false →
        ctx.keyNotes.holdsMade = false →
        Agree (fun whole fragment => Fragment.equalApart whole
            (update fragment (pickedNotes annotationNames more)) = true)
          (visit o ctx annotated) (visit o ctx node)) := by
  refine ⟨node.withNotes (.dict (update own more)), by rw [annotate?, held],
    visit_withNotes o ctx held named unreferred, fun brought unmade around => ?_⟩
  refine (visit_withNotes o ctx held named unreferred).imp fun first second same => ?_
  have written := unmade_inherited.update (visit_unmade brought around second)
    (unmade_pickedNotes unmade annotationNames)
  exact Value.equalApart_iff.mpr
    ⟨same.equal, unmade_of_same (visit_named first) same.read written, written⟩

def mailNode : Node :=
  sum (.nodes [nominal (.primitive .string) (.dict (Members.named [("title", .str "Address")])),
    nominal (.primitive .null) (.dict [])])
    (.dict (Members.named [("format", .str "email"), ("column", .int 3)]))

def mailNotes : Members :=
  Members.named [("column", .int 4), ("title", .str "Mail"), ("format", .str "idn-email")]

theorem visit_annotate_mail :
    (∃ own, mailNode.notes = .dict own) ∧ mailNotes.Named ∧ "$ref" ∉ mailNotes.names ∧
      (∀ part ∈ mailNode.parts, part.Unmade) ∧ (Value.dict mailNotes).holdsMade = false ∧
      ∃ annotated, mailNode.annotate? mailNotes = some annotated ∧
        Agree (Annotated mailNotes) (visit {} Context.root annotated)
          (visit {} Context.root mailNode) ∧
        Agree (fun whole fragment => Fragment.equalApart whole
            (update fragment (pickedNotes annotationNames mailNotes)) = true)
          (visit {} Context.root annotated) (visit {} Context.root mailNode) ∧
        visit {} Context.root annotated = .ok (Members.named [("type", .str "string"),
          ("title", .str "Mail"), ("nullable", .bool true), ("format", .str "idn-email")]) := by
  have named : mailNotes.Named := ⟨by decide, by decide⟩
  have unreferred : "$ref" ∉ mailNotes.names := by decide
  have brought : ∀ part ∈ mailNode.parts, part.Unmade := by
    have each : ∀ part ∈ mailNode.parts, part.notes.holdsMade = false := by decide
    have plain : ∀ part ∈ mailNode.parts, part.kindName = "sum" ∨ part.kindName = "nominal" := by
      decide
    refine fun part inside => ⟨fun notes found => unmade_of_get? (notes ▸ each part inside) found,
      ?_, ?_⟩
    · rintro name operand notes c v rfl
      exact absurd (plain _ inside) (by simp [kindName])
    · rintro name type required notes rfl
      exact absurd (plain _ inside) (by simp [kindName])
  obtain ⟨own, held⟩ : ∃ own, mailNode.notes = .dict own := ⟨_, rfl⟩
  obtain ⟨annotated, added, agree, equal⟩ := visit_annotate {} Context.root held named unreferred
  refine ⟨⟨own, held⟩, named, unreferred, brought, rfl, annotated, added, agree,
    equal brought rfl rfl, ?_⟩
  obtain rfl := Option.some.inj added
  rfl

/-- What is asked to be equal to a decimal that is not a number is so in no two fragments. -/
theorem visit_annotate_made :
    let node := predicate (.str "eql?") (.decimal (.nan false false 0 0)) (.dict [])
    let more := Members.named [("title", .str "x")]
    more.Named ∧ "$ref" ∉ more.names ∧
      ∃ annotated whole fragment, node.annotate? more = some annotated ∧
        visit {} Context.root annotated = .ok whole ∧
        visit {} Context.root node = .ok fragment ∧
        Fragment.equalApart whole (update fragment (pickedNotes annotationNames more)) = false :=
  ⟨⟨by decide, by decide⟩, by decide, _, _, _, rfl, rfl, rfl, rfl⟩

/-- The members need not come in the order in which they would be written: a title is laid over a
fragment before a format. -/
example :
    let dated := nominal (.primitive .string) (.dict (Members.named [("format", .str "date")]))
    (dated.annotate? (Members.named [("title", .str "Day")])).map (visit {} Context.root) =
      some (.ok (Members.named
        [("type", .str "string"), ("title", .str "Day"), ("format", .str "date")])) := rfl

end Node

end Draftsman
