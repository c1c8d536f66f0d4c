/-
# Draftsman.Proofs.Surroundings -- an object by itself

A field sees nothing of what is around it but its depth (`visit_field_elsewhere`), and an object type
is made of its fields.  What is around an object type can only put a reference in its place.  Where
none is in force (`Context.Inlining`), an object type that names none itself (`Node.Inlined`) has one
fragment or one fault, in whatever list, union, rule or field it stands (`visit_inlined`).  That is
its own document.
-/
import Draftsman.Proofs.Fallback

namespace Draftsman

set_option autoImplicit false

/-! ## No reference in force -/

/-- A context in which objects are written out: the notes of the enclosing field name no reference,
or a null. -/
structure Context.Inlining (ctx : Context) : Prop where
  noted : ∃ members, ctx.keyNotes = .dict members
  unreferred : Node.refers (.dict []) ctx.keyNotes = false

namespace Context.Inlining

variable {ctx : Context}

theorem root : Context.root.Inlining := ⟨⟨[], rfl⟩, rfl⟩

theorem inner (inlining : ctx.Inlining) : ctx.inner.Inlining :=
  ⟨inlining.noted, inlining.unreferred⟩

theorem ruleFor (inlining : ctx.Inlining) (primitive : Value) : (ctx.ruleFor primitive).Inlining :=
  ⟨inlining.noted, inlining.unreferred⟩

theorem alternative (inlining : ctx.Inlining) : ctx.alternative.Inlining :=
  ⟨inlining.noted, inlining.unreferred⟩

theorem element (inlining : ctx.Inlining) : ctx.element.Inlining :=
  ⟨inlining.noted, inlining.unreferred⟩

theorem field (ctx : Context) (name : Value) {notes : Members}
    (unreferred : Node.refers (.dict []) (.dict notes) = false) :
    (ctx.field name (.dict notes)).Inlining := ⟨⟨notes, rfl⟩, unreferred⟩

end Context.Inlining

namespace Node

variable {o : Options} {ctx other first second : Context} {node : Node}

/-- Where no reference is in force, it is only asked whether the notes are a dictionary. -/
theorem unlessReferred_inlining {notes : Value} (own : refers notes (.dict []) = false)
    (inlining : ctx.Inlining) (inside : Except CompileFault Members)
    (byReference : Value → Except CompileFault Members) :
    (do
      let ref ← reference notes ctx.keyNotes
      if ref.isNull then inside else byReference ref) =
    reference notes (.dict []) >>= fun _ => inside := by
  obtain ⟨members, around⟩ := inlining.noted
  have unreferred := inlining.unreferred
  rw [around] at unreferred ⊢
  cases notes with
  | dict notes =>
      have inherited : ((Members.get? "$ref" members).getD .null).isNull = true := by
        simpa [refers, Value.members] using unreferred
      have chosen : ((Members.get? "$ref" notes).getD
          ((Members.get? "$ref" members).getD .null)).isNull = true := by
        cases named : Members.get? "$ref" notes with
        | none => exact inherited
        | some ref => simpa [refers, Value.members, named] using own
      simp [reference, noteOr?, present, bind, Except.bind, chosen]
  | _ => rfl

/-! ## Fields -/

/-- A field has the same outcome everywhere, unless a limit stops it. -/
theorem visit_field_elsewhere (known : node.isKey = true) :
    AgreeUnstopped (visit o ctx node) (visit o other node) := by
  cases node with
  | key name type required notes =>
      rw [visit, visit]
      refine (allow_agrees o _ _).bind fun _ => ?_
      exact (visit_relocated o type (.field ctx other name notes)).head
  | _ => cases known

theorem visitFields_elsewhere {keys : List Node} (known : ∀ key ∈ keys, key.isKey = true)
    (found : Fields) :
    AgreeUnstopped (visitFields o ctx found keys) (visitFields o other found keys) := by
  induction keys generalizing found with
  | nil => exact .refl _
  | cons key rest ih =>
      obtain ⟨own, others⟩ := List.forall_mem_cons.mp known
      rw [visitFields, visitFields]
      refine (visit_field_elsewhere own).bind fun fragment => ?_
      exact .tail fun next => ih others next

theorem visitKeys_elsewhere {keys : Children} {notes : Value}
    (shaped : (schema keys notes).isShaped = true) :
    AgreeUnstopped (visitKeys o ctx keys) (visitKeys o other keys) := by
  cases keys with
  | nodes items => exact visitFields_elsewhere (List.all_eq_true.mp shaped) {}
  | value v =>
      rw [visitKeys, visitKeys]
      exact .tail fun items => ((relocating_unstopped o).plains trivial items).head

/-! ## Objects -/

/-- An object type that names no reference: a field set, or what has one inside it. -/
inductive Inlined : Node → Prop where
  | schema {keys : Children} {notes : Value} (fields : (schema keys notes).isShaped = true)
      (own : refers notes (.dict []) = false) : Inlined (schema keys notes)
  | mapping {fields : Node} {notes : Value} (inside : Inlined fields)
      (own : refers notes (.dict []) = false) : Inlined (mapping fields notes)
  | aggregate {name notes : Value} {fields : Node} (inside : Inlined fields)
      (own : refers notes (.dict []) = false) : Inlined (aggregate name fields notes)

theorem Inlined.visitFieldSet_eq (inlined : node.Inlined) (o : Options) (ctx : Context) :
    visitFieldSet o ctx node = visit o ctx.inner node := by
  cases inlined <;> rfl

/-- An object type has the same outcome wherever no reference is in force, unless a limit stops
it. -/
theorem visit_object_elsewhere (inlined : node.Inlined) (free : first.Inlining)
    (free' : second.Inlining) : AgreeUnstopped (visit o first node) (visit o second node) := by
  induction inlined generalizing first second with
  | schema fields own =>
      simp only [visit, unlessReferred_inlining own free, unlessReferred_inlining own free']
      refine (allow_agrees o _ _).bind fun _ => .tail fun _ => ?_
      exact (visitKeys_elsewhere fields).head
  | mapping inside own ih | aggregate inside own ih =>
      simp only [visit_mapping, visit_aggregate, unlessReferred_inlining own free,
        unlessReferred_inlining own free', inside.visitFieldSet_eq]
      refine (allow_agrees o _ _).bind fun _ => .tail fun _ => ?_
      exact (ih free.inner free'.inner).head

/-- An object that names no reference is compiled alike in any two places where none is in force:
it has one fragment, or one fault.  That is its document, before this is marked. -/
theorem visit_inlined (o : Options) {object : Node} (inlined : object.Inlined)
    (free : first.Inlining) (free' : second.Inlining) (unbounded : Unbounded (visit o first object))
    (unbounded' : Unbounded (visit o second object)) :
    visit o first object = visit o second object ∧
      (Unbounded (object.compile o) →
        object.compile o = (visit o first object).map fun fragment =>
          if o.root.truthy then Members.insert (.str "$schema") (.str dialect) fragment
          else fragment) := by
  refine ⟨visit_object_elsewhere inlined free free' unbounded unbounded', fun standalone => ?_⟩
  have own := visit_object_elsewhere inlined free .root unbounded standalone.first
  rw [compile, own]
  cases visit o Context.root object <;> rfl

def customerNode : Node :=
  aggregate (.str "Customer") (schema (.nodes [
    key (.str "lines") (constrained (array (nominal (.primitive .string) (.dict [])) (.dict []))
      (predicate (.str "min_size?") (.int 1) (.dict [])) (.dict [])) (.bool true) (.dict []),
    key (.str "parcel") (sum (.nodes [mapping (plain .null) (.dict []),
      nominal (.primitive .null) (.dict [])]) (.dict [])) (.bool false)
      (.dict (Members.named [("$ref", .str "#/definitions/parcel")]))]) (.dict []))
    (.dict (Members.named [("title", .str "Customer")]))

/-- A place on the right of a list of texts, among alternatives, in a list, in a field. -/
def crowdedPlace : Context :=
  ((Context.root.field (.str "customers") (.dict [])).element.alternative).ruleFor (.primitive .list)

theorem visit_inlined_customer :
    visit {} crowdedPlace customerNode = visit {} Context.root customerNode ∧
      customerNode.compile {} = visit {} crowdedPlace customerNode := by
  have inlined : customerNode.Inlined := .aggregate (.schema (by decide) (by decide)) (by decide)
  have field : (Context.root.field (.str "customers") (.dict [])).Inlining := .field _ _ rfl
  have place : crowdedPlace.Inlining := field.element.alternative.ruleFor _
  obtain ⟨same, document⟩ := visit_inlined {} inlined place .root (.ok _) (.ok _)
  exact ⟨same, document (.ok _)⟩

/-- A reference in force around it takes the place of the object. -/
example :
    visit {} (Context.root.field (.str "buyer")
        (.dict (Members.named [("$ref", .str "#/definitions/buyer")]))) customerNode =
      .ok (Fragment.ofKeywords
        [("$ref", .str "#/definitions/buyer"), ("title", .str "Customer")]) := rfl

end Node

end Draftsman
