/-
# Draftsman.Proofs.Wrappers -- a node within a constructor or an enumeration

A constructor hands on the fragment of the type in it, and so does an enumeration; without notes they
add nothing.  Yet some slots look at the node in them besides compiling it: a union takes over the
alternatives of another, a list moves the title of its elements, a field set asks for names, and an
object type whether it has a field set.

A place in a tree is a list of nodes with one slot left open (`Frame`), innermost first (`fill`).
Two nodes that no context tells apart (`Interchangeable`) can be exchanged in a slot that is
indifferent to which of them it holds (`Interchangeable.plug`), and of the nodes around them every
slot further out is so too (`Interchangeable.indifferent_plug`).  The main result is
`compile_wrapped`: anywhere in a tree a node may be wrapped, unless the slot that it stands in looks
at it in one of these ways (`Frame.Admits`).
-/
import Draftsman.Proofs.Overlays
import Draftsman.Proofs.RuleChains

namespace Draftsman

set_option autoImplicit false

namespace Node

/-! ## Places -/

/-- A node with one slot left open. -/
inductive Frame where
  | constructor (fn notes : Value)
  | enum (values : Children) (notes : Value)
  | value (other : Node) (before after : List Node) (notes : Value)
  | type (other : Node) (notes : Value)
  | rule (other : Node) (notes : Value)
  | left (other : Node) (notes : Value)
  | right (other : Node) (notes : Value)
  | alternative (before after : List Node) (notes : Value)
  | mapping (notes : Value)
  | aggregate (name notes : Value)
  | element (notes : Value)
  | member (before after : List Node) (notes : Value)
  | field (name required notes : Value)

/-- Puts a node into the slot. -/
def Frame.plug (node : Node) : Frame → Node
  | constructor fn notes => .constructor node fn notes
  | enum values notes => .enum node values notes
  | value other before after notes => .enum other (.nodes (before ++ node :: after)) notes
  | type other notes => constrained node other notes
  | rule other notes => constrained other node notes
  | left other notes => intersection node other notes
  | right other notes => intersection other node notes
  | alternative before after notes => sum (.nodes (before ++ node :: after)) notes
  | mapping notes => .mapping node notes
  | aggregate name notes => .aggregate name node notes
  | element notes => array node notes
  | member before after notes => schema (.nodes (before ++ node :: after)) notes
  | field name required notes => key name node required notes

/-- The tree with a node in some place.  The innermost slot comes first. -/
def fill : List Frame → Node → Node
  | [], node => node
  | frame :: outer, node => fill outer (frame.plug node)

variable {node there : Node}

theorem Child.exists_frame (held : Child node there) : ∃ frame : Frame, frame.plug there = node := by
  cases held with
  | constructor => exact ⟨.constructor _ _, rfl⟩
  | enum => exact ⟨.enum _ _, rfl⟩
  | type => exact ⟨.type _ _, rfl⟩
  | rule => exact ⟨.rule _ _, rfl⟩
  | left => exact ⟨.left _ _, rfl⟩
  | right => exact ⟨.right _ _, rfl⟩
  | alternative held =>
      obtain ⟨before, after, rfl⟩ := List.append_of_mem held
      exact ⟨.alternative before after _, rfl⟩
  | mapping some => exact ⟨.mapping _, rfl⟩
  | aggregate some => exact ⟨.aggregate _ _, rfl⟩
  | element => exact ⟨.element _, rfl⟩
  | member held =>
      obtain ⟨before, after, rfl⟩ := List.append_of_mem held
      exact ⟨.member before after _, rfl⟩
  | field => exact ⟨.field _ _ _, rfl⟩

theorem fill_append (inner outer : List Frame) (node : Node) :
    fill (inner ++ outer) node = fill outer (fill inner node) := by
  induction inner generalizing node with
  | nil => rfl
  | cons frame rest ih => exact ih (frame.plug node)

/-- Every node of a tree stands in some place of it. -/
theorem Below.exists_place {slots flat : Nat} (below : Below node slots flat there) :
    ∃ place, fill place there = node := by
  induction below with
  | refl node => exact ⟨[], rfl⟩
  | step held below ih =>
      obtain ⟨place, rfl⟩ := ih
      obtain ⟨frame, rfl⟩ := held.exists_frame
      exact ⟨place ++ [frame], fill_append _ _ _⟩

/-! ## Exchanging nodes -/

/-- Two nodes that are compiled alike in every context, unless a limit stops one of them, and stand
for the same primitive. -/
structure Interchangeable (o : Options) (first second : Node) : Prop where
  visit : ∀ ctx, AgreeUnstopped (Node.visit o ctx first) (Node.visit o ctx second)
  concreteType : first.concreteType = second.concreteType

/-- What a slot asks about the node in it, besides its fragment and the primitive that it stands for,
is the same for two nodes. -/
def Frame.Indifferent (o : Options) (first second : Node) : Frame → Prop
  | alternative _ _ _ =>
      allEnumerable [first] = allEnumerable [second] ∧ ∀ ctx found,
        AgreeUnstopped (visitAlternative o ctx found first) (visitAlternative o ctx found second)
  | mapping _ | aggregate _ _ =>
      ∀ ctx, AgreeUnstopped (visitFieldSet o ctx first) (visitFieldSet o ctx second)
  | element _ => ∀ ctx items, visit o ctx first = .ok items →
      arrayFragment items first.notes = arrayFragment items second.notes
  | member _ _ _ => first.name? = second.name? ∧ first.required? = second.required?
  | _ => True

variable {o : Options} {first second : Node} {frame : Frame}

theorem allEnumerable_append (nodes others : List Node) :
    allEnumerable (nodes ++ others) = (allEnumerable nodes && allEnumerable others) := by
  induction nodes with
  | nil => rfl
  | cons node rest ih => cases node <;> simp [allEnumerable, ih, Bool.and_assoc]

theorem allEnumerable_exchanged (same : allEnumerable [first] = allEnumerable [second])
    (before after : List Node) :
    allEnumerable (before ++ first :: after) = allEnumerable (before ++ second :: after) := by
  have single (node : Node) : node :: after = [node] ++ after := rfl
  rw [single first, single second]
  simp only [allEnumerable_append, same]

/-- The alternatives around an exchanged one are visited as before. -/
theorem visitEach_exchanged
    (same : ∀ ctx found,
      AgreeUnstopped (visitAlternative o ctx found first) (visitAlternative o ctx found second))
    (ctx : Context) (found : List Members) (before after : List Node) :
    AgreeUnstopped (visitEach o ctx found (before ++ first :: after))
      (visitEach o ctx found (before ++ second :: after)) := by
  simp only [visitEach_append, visitEach_cons]
  exact .tail fun next => (same ctx next).head

/-- Nodes can be exchanged in a slot that is indifferent to which of them it holds. -/
theorem Interchangeable.plug (same : Interchangeable o first second)
    (indifferent : frame.Indifferent o first second) :
    Interchangeable o (frame.plug first) (frame.plug second) where
  concreteType := by
    cases frame with
    | constructor | enum | type | left => exact same.concreteType
    | _ => rfl
  visit ctx := by
    cases frame with
    | constructor fn notes | enum values notes | field name required notes =>
        simp only [Frame.plug, Node.visit]
        exact .tail fun _ => (same.visit _).head
    | value other before after notes =>
        simp only [Frame.plug, Node.visit]
        exact .refl _
    | type other notes =>
        simp only [Frame.plug, Node.visit, same.concreteType]
        exact .tail fun _ => (same.visit _).head
    | rule other notes =>
        simp only [Frame.plug, Node.visit]
        refine .tail fun _ => .tail fun _ => ?_
        exact (same.visit _).head
    | left other notes =>
        simp only [Frame.plug, Node.visit, same.concreteType]
        exact .tail fun _ => (same.visit _).head
    | right other notes =>
        simp only [Frame.plug, Node.visit]
        refine .tail fun _ => .tail fun _ => ?_
        exact (same.visit _).head
    | alternative before after notes =>
        rw [Frame.plug, Frame.plug, Node.visit, Node.visit, visitAlternatives, visitAlternatives,
          enumerable, enumerable, allEnumerable_exchanged indifferent.1]
        refine .tail fun _ => ?_
        split
        · exact .refl _
        · exact (visitEach_exchanged indifferent.2 _ _ _ _).head
    | mapping notes | aggregate name notes =>
        simp only [Frame.plug, visit_mapping, visit_aggregate]
        refine .tail fun _ => .tail fun _ => ?_
        split
        · exact (indifferent ctx).head
        · exact .refl _
    | element notes =>
        simp only [Frame.plug, Node.visit]
        refine .tail fun _ => (same.visit _).bind_ok fun items visited => ?_
        rw [indifferent _ _ visited]
        exact .refl _
    | member before after notes =>
        simp only [Frame.plug, Node.visit, visitKeys, visitFields_append, visitFields, Fields.add,
          indifferent.1, indifferent.2]
        refine .tail fun _ => .tail fun _ => ?_
        split
        · simp only [bind_assoc]
          exact .tail fun _ => (same.visit _).head
        · exact .refl _

theorem Frame.notes_plug (frame : Frame) (first second : Node) :
    (frame.plug first).notes = (frame.plug second).notes := by
  cases frame <;> rfl

theorem Frame.visitFieldSet_plug (frame : Frame) (ctx : Context) (node : Node) :
    visitFieldSet o ctx (frame.plug node) = visit o ctx.inner (frame.plug node) := by
  cases frame <;> rfl

theorem Interchangeable.gathered (same : Interchangeable o first second) (ctx : Context)
    (found : List Members) :
    AgreeUnstopped ((Node.visit o ctx first).bind (gather found))
      ((Node.visit o ctx second).bind (gather found)) :=
  (same.visit ctx).head

/-- Of the nodes around exchanged ones every slot is indifferent to which of them it holds: a union
without notes gives the alternatives in it, and any other node shows nothing but its notes and its
name. -/
theorem Interchangeable.indifferent_plug
    (same : Interchangeable o (frame.plug first) (frame.plug second))
    (indifferent : frame.Indifferent o first second) (outer : Frame) :
    outer.Indifferent o (frame.plug first) (frame.plug second) := by
  cases outer with
  | alternative before after notes =>
      cases frame with
      | alternative before after notes =>
          refine ⟨?_, fun ctx found => ?_⟩
          · simp only [Frame.plug, allEnumerable, enumerable, allEnumerable_exchanged indifferent.1]
          · simp only [Frame.plug, visitAlternative, visitAlternatives]
            split
            · exact same.gathered ctx found
            · exact visitEach_exchanged indifferent.2 ctx found _ _
      | _ => exact ⟨rfl, same.gathered⟩
  | mapping notes | aggregate name notes =>
      intro ctx
      rw [frame.visitFieldSet_plug, frame.visitFieldSet_plug]
      exact same.visit ctx.inner
  | element notes =>
      intro ctx items _
      rw [frame.notes_plug first second]
  | member before after notes => cases frame <;> exact ⟨rfl, rfl⟩
  | _ => trivial

/-- Anywhere in a tree nodes can be exchanged, if the slot that they stand in is indifferent to
which of them it holds. -/
theorem Interchangeable.fill (same : Interchangeable o first second) {place : List Frame}
    (innermost : ∀ frame ∈ place.head?, frame.Indifferent o first second) :
    Interchangeable o (fill place first) (fill place second) := by
  induction place generalizing first second with
  | nil => exact same
  | cons frame outer ih =>
      have indifferent := innermost frame rfl
      have around := same.plug indifferent
      exact ih around fun next _ => around.indifferent_plug indifferent next

/-! ## Wrappers -/

/-- A constructor or an enumeration over a node, without notes. -/
inductive Wraps (node : Node) : Node → Prop
  | constructor (fn : Value) : Wraps node (.constructor node fn (.dict []))
  | enum (values : Children) : Wraps node (.enum node values (.dict []))

/-- Whether a node can be wrapped in a slot.  A union cannot where its alternatives are taken over,
nor can an element whose title or description is moved to its list, nor a field.  A null in the place
of a field set is no node. -/
def Frame.Admits (node : Node) : Frame → Prop
  | alternative _ _ _ => ∀ types notes, node = sum types notes → notes.truthy = true
  | mapping _ | aggregate _ _ => node ≠ plain .null
  | element _ => ∀ name ∈ hoistedNames, Members.get? name node.notes.members = none
  | member _ _ _ => False
  | _ => True

variable {wrapper : Node}

/-- The visit of a node begins with its depth. -/
theorem visit_enters (o : Options) (ctx : Context) (node : Node) :
    visit o ctx node = o.allow ctx.depth >>= fun _ => visit o ctx node := by
  cases entered : o.allow ctx.depth with
  | ok _ => rfl
  | error fault =>
      cases node <;>
        simp [visit, visit_mapping, visit_aggregate, visitPlain, entered, bind, Except.bind]

theorem Wraps.visit_eq (wraps : Wraps node wrapper) (ctx : Context) :
    visit o ctx wrapper = o.allow ctx.depth >>= fun _ => visit o ctx.inner node := by
  have bare : finish (.dict []) = pure := finish_bare rfl
  cases wraps <;> simp only [visit, bare, bind_pure]

theorem Wraps.interchangeable (wraps : Wraps node wrapper) : Interchangeable o node wrapper where
  visit ctx := by
    have looks : ctx.LooksLike ctx.inner := .atDepth ctx (ctx.depth + 1)
    rw [visit_enters, wraps.visit_eq]
    exact .tail fun _ => visit_relocated o node looks
  concreteType := by cases wraps <;> rfl

/-- Notes that can be searched for some names can be searched for fewer. -/
theorem annotations_fewer {names fewer : List String} (among : fewer ⊆ names) {notes : Value}
    {own : Members} (picked : annotations names notes = some own)
    (absent : ∀ name ∈ fewer, Members.get? name notes.members = none) :
    annotations fewer notes = some [] := by
  cases notes with
  | dict members =>
      have none : pickedNotes fewer members = [] := pickedNotes_eq_nil absent
      rw [annotations_dict, none]
      rfl
  | _ =>
      simp only [annotations, barren?, List.all_eq_true] at picked ⊢
      split
      · rename_i truthy
        rw [if_pos truthy] at picked
        split at picked
        · rename_i searched
          rw [if_pos fun name listed => searched name (among listed)]
        · cases picked
      · rfl

/-- The notes of a node with a fragment were laid over it. -/
theorem annotations_of_visit {ctx : Context} {fragment : Members}
    (visited : visit o ctx node = .ok fragment) :
    ∃ own, annotations annotationNames node.notes = some own := by
  rw [visit_noted] at visited
  obtain ⟨made, -, finished⟩ := bind_eq_ok.mp visited
  obtain ⟨own, picked, -⟩ := Option.map_eq_some_iff.mp (typed_eq_ok.mp finished)
  exact ⟨own, picked⟩

theorem Wraps.indifferent (wraps : Wraps node wrapper) (admitted : frame.Admits node) :
    frame.Indifferent o node wrapper := by
  cases frame with
  | alternative before after notes =>
      have enumerated : allEnumerable [node] = true := by
        cases node with
        | sum types notes => simp [allEnumerable, admitted types notes rfl]
        | _ => rfl
      have visited (ctx : Context) (found : List Members) :
          visitAlternative o ctx found node = (visit o ctx node).bind (gather found) := by
        cases node with
        | sum types notes => rw [visitAlternative, if_pos (admitted types notes rfl)]
        | _ => rfl
      have same := wraps.interchangeable (o := o)
      refine ⟨by cases wraps <;> exact enumerated, fun ctx found => ?_⟩
      rw [visited]
      cases wraps <;> exact same.gathered ctx found
  | mapping notes | aggregate name notes =>
      intro ctx
      have own : visitFieldSet o ctx node = visit o ctx.inner node := by
        cases node with
        | plain v => cases v with
          | null => exact absurd rfl admitted
          | _ => rfl
        | _ => rfl
      rw [own]
      have same := wraps.interchangeable (o := o)
      cases wraps <;> exact same.visit ctx.inner
  | element notes =>
      intro ctx items visited
      obtain ⟨own, picked⟩ := annotations_of_visit visited
      have untitled := annotations_fewer (by decide) picked admitted
      have bare : annotations hoistedNames wrapper.notes = some [] := by cases wraps <;> rfl
      simp only [arrayFragment, untitled, bare]
  | member before after notes => exact admitted.elim
  | _ => trivial

/-- A node can be wrapped anywhere in a description where the slot that it stands in admits it: the
description keeps its document, with the members in their order, or its fault, unless the limit
stops one of the two. -/
theorem compile_wrapped (o : Options) (wraps : Wraps node wrapper) {place : List Frame}
    (admitted : ∀ frame ∈ place.head?, frame.Admits node)
    (unbounded : Unbounded ((fill place node).compile o))
    (unbounded' : Unbounded ((fill place wrapper).compile o)) :
    (fill place wrapper).compile o = (fill place node).compile o := by
  have same := wraps.interchangeable.fill fun frame innermost =>
    wraps.indifferent (o := o) (admitted frame innermost)
  have documents : AgreeUnstopped ((fill place node).compile o) ((fill place wrapper).compile o) :=
    (same.visit Context.root).head
  exact (documents unbounded unbounded').symm

def parcelPlace : List Frame :=
  [.type (predicate (.str "min_size?") (.int 1) (.dict [])) (.dict []),
    .alternative [] [nominal (.primitive .null) (.dict [])] (.dict []),
    .field (.str "labels") (.bool true) (.dict []),
    .member [key (.str "weight") (nominal (.primitive .float) (.dict [])) (.bool false) (.dict [])]
      [] (.dict []),
    .aggregate (.str "Parcel") (.dict [])]

theorem compile_wrapped_parcel :
    (∀ frame ∈ parcelPlace.head?, frame.Admits textsNode) ∧
      (fill parcelPlace (.enum textsNode (.nodes []) (.dict []))).compile {} =
        (fill parcelPlace textsNode).compile {} ∧
      ∃ document, (fill parcelPlace textsNode).compile {} = .ok document := by
  have admitted : ∀ frame ∈ parcelPlace.head?, frame.Admits textsNode := by
    rintro frame ⟨⟩
    trivial
  exact ⟨admitted, compile_wrapped {} (.enum (.nodes [])) admitted (.ok _) (.ok _), _, rfl⟩

/-- A union that is wrapped is an alternative by itself. -/
example :
    let place : List Frame := [.alternative [] [nominal (.primitive .null) (.dict [])] (.dict [])]
    let inside := sum (.nodes [nominal (.primitive .string) (.dict []),
      nominal (.primitive .integer) (.dict [])]) (.dict [])
    let options : List Value := [.dict (Members.named [("type", .str "string")]),
      .dict (Members.named [("type", .str "integer")])]
    (fill place (.constructor inside .null (.dict []))).compile {} =
        .ok (Members.named [("anyOf", .list options), ("nullable", .bool true)]) ∧
      (fill place inside).compile {} =
        .ok (Members.named [("anyOf", .list (options ++
          [.dict (Members.named [("type", .str "null")])]))]) := ⟨rfl, rfl⟩

end Node

end Draftsman
