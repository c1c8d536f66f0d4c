/-
# Draftsman.Proofs.Rearrangement -- the order of members, and members that nothing asks for

The members of a dictionary that stands for a node may come in any order, and there may be others
among them whose names are not asked for.  A tree in which this is done to one node, however deep
that is, is a rearrangement of it (`Rearranges`); many nodes are rearranged one after the other.

A rearrangement is loaded as the tree is: each step leaves what its dictionary loads as
(`Rearranges.loadAt_eq`), and so does any number of them (`load_rearranged`).
-/
import Draftsman.Proofs.ReadingOrder

namespace Draftsman

set_option autoImplicit false

namespace Members

variable {members members' : Members}

/-- Names and values do not depend on the order of the members, as long as no name comes twice. -/
theorem Named.get?_of_perm (named : members.Named) (same : List.Perm members members')
    (name : String) : get? name members = get? name members' := by
  have names : List.Perm members.names members'.names := same.filterMap _
  cases there : get? name members' with
  | none =>
      have absent := get?_eq_none_iff.mp there
      exact get?_eq_none_iff.mpr fun held => absent (names.subset held)
  | some v =>
      obtain ⟨key, text, held⟩ := mem_of_get? there
      exact named.get?_of_mem text (same.symm.subset held)

theorem get?_append_of_absent {name : String} (members : Members) {others : Members}
    (absent : name ∉ others.names) : get? name (members ++ others) = get? name members := by
  induction members with
  | nil => exact get?_eq_none_iff.mpr absent
  | cons member rest ih => rw [List.cons_append, get?_cons, get?_cons, ih]

end Members

namespace Node

open Members

/-- A tree and the same with one node written in another way. -/
inductive Rearranges : Value → Value → Prop where
  /-- The members of a node come in another order, and with others that are not read. -/
  | here {members members' foreign : Members} (named : members'.Named)
      (order : List.Perm members' (members ++ foreign))
      (unread : ∀ name ∈ foreign.names, name ∉ readNames members) :
      Rearranges (.dict members) (.dict members')
  /-- The node is in a field of another. -/
  | field {members : Members} {kind : NodeKind} {name : String} {v v' : Value}
      (named : namedKind? members = some kind) (asked : name ∈ kind.nodeFields)
      (held : get? name members = some v) (below : Rearranges v v') :
      Rearranges (.dict members) (.dict (insert (.str name) v' members))
  /-- The node is one of those in a field of another. -/
  | item {members : Members} {kind : NodeKind} {name : String} {before after : List Value}
      {v v' : Value} (named : namedKind? members = some kind)
      (asked : kind.listField? = some name)
      (held : get? name members = some (.list (before ++ v :: after))) (below : Rearranges v v') :
      Rearranges (.dict members)
        (.dict (insert (.str name) (.list (before ++ v' :: after)) members))

namespace Rearranges

variable {tree tree' : Value}

/-- Only dictionaries are rearranged. -/
theorem not_null (rearranges : Rearranges tree tree') :
    tree.isNull = false ∧ tree'.isNull = false := by
  cases rearranges <;> exact ⟨rfl, rfl⟩

end Rearranges

/-- Neither the head nor a field that stands under another name is touched by writing a field. -/
theorem loadAt_insert {members : Members} {kind : NodeKind} {name : String} {v v' : Value}
    (named : namedKind? members = some kind) (asked : name ∈ kind.fields)
    (held : get? name members = some v) (alike : Alike kind name (some v) (some v')) :
    loadAt (.dict (insert (.str name) v' members)) = loadAt (.dict members) := by
  have apart : ∀ own ∈ kind.fields, "kind" ≠ own ∧ "meta" ≠ own := by cases kind <;> decide
  obtain ⟨notKind, notNotes⟩ := apart name asked
  refine loadAt_congr (get?_insert_of_ne notKind v' members) (get?_insert_of_ne notNotes v' members)
    fun own same other listed => ?_
  obtain rfl : kind = own := Option.some.inj (named.symm.trans same)
  by_cases here : other = name
  · subst here
    rw [get?_insert_self, held]
    exact alike
  · rw [get?_insert_of_ne here]
    exact .same _

/-- A tree with one node rearranged loads, wherever it stands, as the tree does. -/
theorem Rearranges.loadAt_eq {tree tree' : Value} (rearranges : Rearranges tree tree') :
    loadAt tree' = loadAt tree := by
  induction rearranges with
  | @here members members' foreign named order unread =>
      -- what is read is not foreign, so it is found where it was
      have read : ∀ name ∈ readNames members, get? name members' = get? name members := by
        intro name asked
        rw [named.get?_of_perm order]
        exact get?_append_of_absent members fun held => unread name held asked
      refine loadAt_congr (read "kind" List.mem_cons_self)
        (read "meta" (List.mem_cons_of_mem _ List.mem_cons_self)) fun kind own name asked => ?_
      have listed : name ∈ readNames members := by
        rw [readNames, own]
        exact List.mem_cons_of_mem _ (List.mem_cons_of_mem _ asked)
      rw [read name listed]
      exact .same _
  | field named asked held below ih =>
      obtain ⟨filled, filled'⟩ := below.not_null
      exact loadAt_insert named (NodeKind.mem_fields_of_nodeFields asked) held
        (.node asked (filled'.trans filled.symm) ih)
  | @item members kind name before after v v' named asked held below ih =>
      refine loadAt_insert named (NodeKind.mem_fields_of_listField? asked) held (.items asked ?_)
      simp only [itemOffers?, loadEach_eq_map, List.map_append, List.map_cons, ih]

/-- A tree in which any number of nodes are rearranged is loaded as the same node, or refused with
the same fault. -/
theorem load_rearranged {tree tree' : Value}
    (rearranged : Relation.ReflTransGen Rearranges tree tree') : load tree' = load tree := by
  induction rearranged with
  | refl => rfl
  | tail _ step ih =>
      rw [load, step.loadAt_eq]
      exact ih

/-- The members of the node of a whole number, and the same in another order beside one that nothing
asks for. -/
def pencilMembers : Members :=
  Members.named [("kind", .str "nominal"), ("primitive", .str "integer")]

@[inherit_doc pencilMembers]
def pencilMembers' : Members :=
  Members.named [("primitive", .str "integer"), ("unit", .str "cm"), ("kind", .str "nominal")]

def drawerMembers (member : Value) : Members :=
  Members.named [("kind", .str "array"), ("member", member)]

@[inherit_doc drawerMembers]
def drawerMembers' (member : Value) : Members :=
  Members.named [("remark", .int 5), ("member", member), ("kind", .str "array")]

theorem load_rearranged_drawer :
    Relation.ReflTransGen Rearranges (.dict (drawerMembers (.dict pencilMembers)))
        (.dict (drawerMembers' (.dict pencilMembers'))) ∧
      load (.dict (drawerMembers' (.dict pencilMembers'))) =
        load (.dict (drawerMembers (.dict pencilMembers))) ∧
      ∃ node, load (.dict (drawerMembers' (.dict pencilMembers'))) = .ok node := by
  -- the inner node first, by a turn of its members
  have turned : List.Perm pencilMembers' (pencilMembers ++ Members.named [("unit", .str "cm")]) :=
    List.perm_append_singleton _ [_, _]
  have inner : Rearranges (.dict pencilMembers) (.dict pencilMembers') :=
    .here ⟨by decide, by decide⟩ turned (by decide)
  have within : Rearranges (.dict (drawerMembers (.dict pencilMembers)))
      (.dict (drawerMembers (.dict pencilMembers'))) :=
    @Rearranges.field _ .array "member" _ _ rfl (by decide) rfl inner
  -- then the outer one, from the last member to the first
  have turned' : List.Perm (drawerMembers' (.dict pencilMembers'))
      (drawerMembers (.dict pencilMembers') ++ Members.named [("remark", .int 5)]) :=
    List.reverse_perm [_, _, _]
  have outer : Rearranges (.dict (drawerMembers (.dict pencilMembers')))
      (.dict (drawerMembers' (.dict pencilMembers'))) :=
    .here ⟨by decide, by decide⟩ turned' (by decide)
  have steps := (Relation.ReflTransGen.single within).tail outer
  exact ⟨steps, load_rearranged steps, _, rfl⟩

end Node

end Draftsman
