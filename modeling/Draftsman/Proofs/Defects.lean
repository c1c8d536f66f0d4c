/-
# Draftsman.Proofs.Defects -- the first defect of a tree

The loader comes to a node inside a tree from the root, field by field, and leaves only what is
right behind it (`Comes`).  The node breaks a rule, itself or by a value inside it, and what is read
of it before is right too (`Breaks`).

What is read later has no part in this.  A tree that is the same up to the defect (`SameUpTo`) is
refused with the same fault: the node is (`Breaks.kept`, one case for each rule), and so is every
tree in which the loader comes to it (`Comes.kept`, by induction on the way there).
-/
import Draftsman.Proofs.Checks

namespace Draftsman

set_option autoImplicit false

namespace NodeKind

/-- The fields that have to be there hold nodes, or they are four others. -/
theorem needed_cases {kind : NodeKind} {name : String} (asked : name ∈ kind.fields)
    (needed : name ∉ kind.optionalFields) :
    name ∈ kind.nodeFields ∨ (kind = nominal ∧ name = "primitive") ∨
      (kind = sum ∧ name = "types") ∨ ((kind = predicate ∨ kind = key) ∧ name = "name") := by
  have each : ∀ own ∈ kind.fields, own ∉ kind.optionalFields →
      own ∈ kind.nodeFields ∨ (kind = nominal ∧ own = "primitive") ∨
        (kind = sum ∧ own = "types") ∨ ((kind = predicate ∨ kind = key) ∧ own = "name") := by
    cases kind <;> decide
  exact each name asked needed

end NodeKind

namespace Node

/-! ## Trees that are the same up to a place -/

/-- The names that are looked up in a dictionary before another. -/
def earlierNames (name : String) (members : Members) : List String :=
  (readNames members).takeWhile (· != name)

/-- Two trees of which the same is read up to a place: what stands there is the same, or in both
there is nothing, and so is what is read before on the way there.  What comes later may differ. -/
inductive SameUpTo : Path → Value → Value → Prop where
  | here (v : Value) : SameUpTo [] v v
  | lacking {members members' : Members} {name : String}
      (earlier : ∀ own ∈ earlierNames name members,
        Members.get? own members' = Members.get? own members)
      (absent : Members.get? name members = none) (absent' : Members.get? name members' = none) :
      SameUpTo [.member name] (.dict members) (.dict members')
  | member {members members' : Members} {name : String} {v v' : Value} {rest : Path}
      (earlier : ∀ own ∈ earlierNames name members,
        Members.get? own members' = Members.get? own members)
      (held : Members.get? name members = some v) (held' : Members.get? name members' = some v')
      (below : SameUpTo rest v v') :
      SameUpTo (.member name :: rest) (.dict members) (.dict members')
  | item {before after after' : List Value} {v v' : Value} {rest : Path}
      (below : SameUpTo rest v v') :
      SameUpTo (.item before.length :: rest) (.list (before ++ v :: after))
        (.list (before ++ v' :: after'))

namespace SameUpTo

variable {members : Members} {name : String} {v tree' : Value} {rest : Path}

/-- A dictionary that is the same up to something inside a member has that member too. -/
theorem exists_member (same : SameUpTo (.member name :: rest) (.dict members) tree')
    (held : Members.get? name members = some v) :
    ∃ members' v', tree' = .dict members' ∧
      (∀ own ∈ earlierNames name members,
        Members.get? own members' = Members.get? own members) ∧
      Members.get? name members' = some v' ∧ SameUpTo rest v v' := by
  cases same with
  | lacking earlier absent =>
      rw [held] at absent
      cases absent
  | @member _ members' _ _ v' _ earlier there held' below =>
      cases there.symm.trans held
      exact ⟨members', v', rfl, earlier, held', below⟩

/-- A dictionary that is the same up to a name that it lacks does so too. -/
theorem exists_lacking (same : SameUpTo [.member name] (.dict members) tree')
    (absent : Members.get? name members = none) :
    ∃ members', tree' = .dict members' ∧
      (∀ own ∈ earlierNames name members,
        Members.get? own members' = Members.get? own members) ∧
      Members.get? name members' = none := by
  cases same with
  | @lacking _ members' _ earlier _ absent' => exact ⟨members', rfl, earlier, absent'⟩
  | member earlier held =>
      rw [absent] at held
      cases held

/-- A list that is the same up to one of its items has the same items before it. -/
theorem exists_item {before after : List Value}
    (same : SameUpTo (.item before.length :: rest) (.list (before ++ v :: after)) tree') :
    ∃ v' after', tree' = .list (before ++ v' :: after') ∧ SameUpTo rest v v' := by
  generalize position : Step.item before.length :: rest = path at same
  generalize whole : Value.list (before ++ v :: after) = tree at same
  cases same with
  | @item before' _ after' _ v' _ below =>
      obtain ⟨index, rfl⟩ := List.cons.inj position
      have long : before.length = before'.length := Step.item.inj index
      obtain ⟨rfl, later⟩ := List.append_inj (Value.list.inj whole) long
      obtain ⟨rfl, rfl⟩ := List.cons.inj later
      exact ⟨v', after', rfl, below⟩
  | _ => simp at position whole

theorem isNull_eq (same : SameUpTo rest v tree') : tree'.isNull = v.isNull := by
  cases same <;> rfl

end SameUpTo

/-! ## The way to a defect -/

/-- A field of a dictionary is read: the dictionary has the head of a kind with this field, and the
fields before it are right. -/
structure Arrives (members : Members) (kind : NodeKind) (name : String) : Prop where
  head : Tagged.Head kind members
  asked : name ∈ kind.fields
  earlier : ∀ own ∈ kind.fields.takeWhile (· != name), Passes kind own (Members.get? own members)

/-- The node at a place is read, and all that is read before it is right: the head of each node on
the way, the fields before the one that leads on, and the items before. -/
inductive Comes : Value → Path → Value → Prop where
  | here (tree : Value) : Comes tree [] tree
  | field {members : Members} {kind : NodeKind} {name : String} {v node : Value} {rest : Path}
      (arrives : Arrives members kind name) (asked : name ∈ kind.nodeFields)
      (held : Members.get? name members = some v) (filled : kind = .mapping → v.isNull = false)
      (below : Comes v rest node) : Comes (.dict members) (.member name :: rest) node
  | item {members : Members} {kind : NodeKind} {name : String} {before after : List Value}
      {v node : Value} {rest : Path} (head : Tagged.Head kind members)
      (asked : kind.listField? = some name)
      (held : Members.get? name members = some (.list (before ++ v :: after)))
      (tagged : ∀ w ∈ before, Tagged w)
      (names : kind = .schema → ∀ w ∈ before, Tagged.Names .key w) (below : Comes v rest node) :
      Comes (.dict members) (.member name :: .item before.length :: rest) node

/-- A node that stands at a place breaks a rule, itself or by a value inside it, and what is read of
it before is right. -/
inductive Breaks (place : Path) : Value → Path → Value → LoadDefect → Prop where
  | notDict {v : Value} (other : ∀ members, v ≠ .dict members) : Breaks place v [] v (.notDict v)
  | noKind {members : Members} (absent : Members.get? "kind" members = none) :
      Breaks place (.dict members) [] (.dict members) .noKind
  | badNotes {members : Members} {kind : NodeKind} {v : Value}
      (named : Members.get? "kind" members = some (.str kind.name))
      (held : Members.get? "meta" members = some v) (counts : v.truthy = true)
      (other : ∀ own, v ≠ .dict own) :
      Breaks place (.dict members) [.member "meta"] v .badNotes
  | missing {members : Members} {kind : NodeKind} {name : String}
      (arrives : Arrives members kind name) (needed : name ∉ kind.optionalFields)
      (absent : Members.get? name members = none) :
      Breaks place (.dict members) [] (.dict members) (.missing kind name)
  | unknownPrimitive {members : Members} {v : Value} (head : Tagged.Head .nominal members)
      (held : Members.get? "primitive" members = some v)
      (unknown : v.toPrimitive? = none) :
      Breaks place (.dict members) [.member "primitive"] v (.unknownPrimitive v)
  | noAlternatives {members : Members} {v : Value} (head : Tagged.Head .sum members)
      (held : Members.get? "types" members = some v)
      (unfit : ∀ types, v = .list types → types = []) :
      Breaks place (.dict members) [.member "types"] v .noAlternatives
  | badKeys {members : Members} {v : Value} (head : Tagged.Head .schema members)
      (held : Members.get? "keys" members = some v) (other : ∀ keys, v ≠ .list keys) :
      Breaks place (.dict members) [.member "keys"] v .badKeys
  | notSchema {members : Members} {kind : NodeKind} {v : Value} {found : Node}
      (head : Tagged.Head kind members) (asked : "schema" ∈ kind.nodeFields)
      (held : Members.get? "schema" members = some v) (below : Tagged v)
      (other : ¬ Tagged.Names .schema v)
      (loaded : loadAt v (place ++ [.member "schema"]) = .ok found) :
      Breaks place (.dict members) [.member "schema"] v (.notSchema found)
  | notKey {members : Members} {before after : List Value} {v : Value}
      (head : Tagged.Head .schema members)
      (held : Members.get? "keys" members = some (.list (before ++ v :: after)))
      (tagged : ∀ w ∈ before, Tagged w) (names : ∀ w ∈ before, Tagged.Names .key w)
      (below : Tagged v) (other : ¬ Tagged.Names .key v) :
      Breaks place (.dict members) [.member "keys", .item before.length] v .notKey

/-- How far a node is read until a rule is broken: to a name under which there is nothing, or to the
value that breaks the rule. -/
def readUntil (own : Path) : LoadDefect → Path
  | .noKind => own ++ [.member "kind"]
  | .missing _ field => own ++ [.member field]
  | _ => own

/-! ## The kind that a tagged tree names -/

theorem Tagged.exists_names {tree : Value} (tagged : Tagged tree) :
    ∃ kind, Tagged.Names kind tree := by
  cases tagged <;> exact ⟨_, _, rfl, ‹Tagged.Head _ _›.kind⟩

/-- A tagged tree is loaded as a node of the kind that it names and of no other. -/
theorem kind?_ne_of_loadAt {tree : Value} {kind : NodeKind} (tagged : Tagged tree)
    (other : ¬ Tagged.Names kind tree) {path : Path} {node : Node}
    (loaded : loadAt tree path = .ok node) : node.kind? ≠ some kind := by
  obtain ⟨own, names⟩ := tagged.exists_names
  rw [loadAt_kind names loaded]
  rintro ⟨⟩
  exact other names

/-! ## Defects are told -/

section Told

variable {members : Members} {place : Path} {kind : NodeKind} {name : String} {fault : LoadFault}

theorem namedKind?_of_head (head : Tagged.Head kind members) : namedKind? members = some kind := by
  rw [namedKind?, head.kind]
  exact NodeKind.ofName?_name kind

/-- The head of a node is read before its fields. -/
theorem earlierNames_eq (head : Tagged.Head kind members) (asked : name ∈ kind.fields) :
    earlierNames name members =
      "kind" :: "meta" :: kind.fields.takeWhile (· != name) := by
  have apart : ∀ own ∈ kind.fields, "kind" ≠ own ∧ "meta" ≠ own := by cases kind <;> decide
  obtain ⟨notKind, notNotes⟩ := apart name asked
  rw [earlierNames, readNames, namedKind?_of_head head]
  rw [List.takeWhile_cons_of_pos (by simpa using notKind),
    List.takeWhile_cons_of_pos (by simpa using notNotes)]
  rfl

/-- A field is read in every dictionary in which the same is found before it. -/
theorem Arrives.of_earlier (arrives : Arrives members kind name) {members' : Members}
    (earlier : ∀ own ∈ earlierNames name members,
      Members.get? own members' = Members.get? own members) : Arrives members' kind name := by
  rw [earlierNames_eq arrives.head arrives.asked, List.forall_mem_cons, List.forall_mem_cons]
    at earlier
  obtain ⟨kinds, notes, fields⟩ := earlier
  refine ⟨⟨kinds.trans arrives.head.kind, fun v held => ?_⟩, arrives.asked, fun own early => ?_⟩
  · exact arrives.head.notes v (notes.symm.trans held)
  · rw [fields own early]
    exact arrives.earlier own early

/-- The first field of a kind is read in every dictionary with its head. -/
theorem Arrives.of_head (head : Tagged.Head kind members) (asked : kind.fields.head? = some name) :
    Arrives members kind name := by
  obtain ⟨rest, first⟩ : ∃ rest, kind.fields = name :: rest := by
    cases fields : kind.fields with
    | nil => rw [fields] at asked; cases asked
    | cons own rest =>
        rw [fields] at asked
        exact ⟨rest, by rw [Option.some.inj asked]⟩
  refine ⟨head, by rw [first]; exact List.mem_cons_self, fun own early => ?_⟩
  rw [first, List.takeWhile_cons_of_neg (by simp)] at early
  cases early

/-- A dictionary is refused for a field that is read and refused. -/
theorem loadAt_of_arrives (arrives : Arrives members kind name)
    (refused : (Draft.ofMembers members place kind).refusal? name = some fault) :
    loadAt (.dict members) place = .error fault := by
  refine (loadAt_eq_error_iff arrives.head place).mpr ⟨name, arrives.asked, refused, ?_⟩
  intro own early
  have before := NodeKind.mem_dropLast_of_earlier arrives.asked early
  exact Draft.refusal?_of_passes before (arrives.earlier own early)

/-- A tree that is the same up to something inside a field is refused for the field, if the field is
refused whatever comes later. -/
theorem SameUpTo.refused (arrives : Arrives members kind name) {v tree' : Value} {rest : Path}
    (held : Members.get? name members = some v)
    (same : SameUpTo (.member name :: rest) (.dict members) tree')
    (refused : ∀ members' v', Members.get? name members' = some v' → SameUpTo rest v v' →
      (Draft.ofMembers members' place kind).refusal? name = some fault) :
    loadAt tree' place = .error fault := by
  obtain ⟨members', v', rfl, earlier, held', within⟩ := same.exists_member held
  exact loadAt_of_arrives (arrives.of_earlier earlier) (refused members' v' held' within)

namespace Draft

/-- A field with a node is refused as the node is. -/
theorem refusal?_of_child (asked : name ∈ kind.nodeFields)
    (filled : kind = .mapping → ((Members.get? name members).getD .null).isNull = false)
    (failed : (ofMembers members place kind).child name = .error fault) :
    (ofMembers members place kind).refusal? name = some fault := by
  have refused := fault?_eq_some.mpr failed
  cases kind with
  | nominal | predicate | sum | schema => cases asked
  | constructor | array | constrained | intersection => exact refused
  | key | enum =>
      obtain rfl := List.mem_singleton.mp asked
      exact refused
  | aggregate =>
      obtain rfl := List.mem_singleton.mp asked
      exact fault?_eq_some.mpr (schemaChild_eq_error.mpr (.inl failed))
  | mapping =>
      obtain rfl := List.mem_singleton.mp asked
      simp only [refusal?, filled rfl, Bool.false_eq_true, if_false]
      exact fault?_eq_some.mpr (schemaChild_eq_error.mpr (.inl failed))

/-- A field that has to be there is refused, if it is not. -/
theorem refusal?_of_missing (asked : name ∈ kind.fields) (needed : name ∉ kind.optionalFields)
    (absent : Members.get? name members = none) :
    (ofMembers members place kind).refusal? name =
      some (.malformed place (.missing kind name)) := by
  rcases NodeKind.needed_cases asked needed with node | plain
  · refine refusal?_of_child node (fun mapping => ?_) (child_eq_error.mpr (.inl ⟨absent, rfl⟩))
    subst mapping
    exact absurd node needed
  · rcases plain with ⟨rfl, rfl⟩ | ⟨rfl, rfl⟩ | ⟨rfl | rfl, rfl⟩
    · exact fault?_eq_some.mpr (primitive_eq_error.mpr (.inl ⟨absent, rfl⟩))
    · exact fault?_eq_some.mpr (alternatives_eq_error.mpr (.inl ⟨absent, rfl⟩))
    · exact fault?_eq_some.mpr (field_eq_error.mpr ⟨absent, rfl⟩)
    · exact fault?_eq_some.mpr (field_eq_error.mpr ⟨absent, rfl⟩)

/-- The field set of an object type is refused for being another node. -/
theorem refusal?_of_notSchema (asked : "schema" ∈ kind.nodeFields) {v : Value} {found : Node}
    (held : Members.get? "schema" members = some v) (filled : v.isNull = false)
    (loaded : loadAt v (place ++ [.member "schema"]) = .ok found)
    (other : found.isSchema = false) :
    (ofMembers members place kind).refusal? "schema" =
      some (.malformed (place ++ [.member "schema"]) (.notSchema found)) := by
  have child : (ofMembers members place kind).child "schema" = .ok found :=
    child_eq_ok.mpr ⟨v, held, loaded⟩
  have refused := fault?_eq_some.mpr (schemaChild_eq_error.mpr (.inr ⟨found, child, other, rfl⟩))
  have present : ((Members.get? "schema" members).getD .null).isNull = false := by
    rw [held]
    exact filled
  cases kind with
  | mapping =>
      simp only [refusal?, present, Bool.false_eq_true, if_false]
      exact refused
  | aggregate => exact refused
  | nominal | constructor | constrained | predicate | sum | intersection | array | schema | key
  | enum => exact absurd asked (by decide)

/-- Tagged trees of fields are loaded as a list of fields. -/
theorem loadKeys_of_tagged {values : List Value} (tagged : ∀ w ∈ values, Tagged w)
    (names : ∀ w ∈ values, Tagged.Names .key w) (path : Path) :
    ∃ nodes, loadKeys path 0 (loadEach values) = .ok nodes := by
  have fields : ∀ w ∈ values, ∀ path, ∃ node, loadAt w path = .ok node ∧ node.isKey = true := by
    intro w there path
    obtain ⟨node, loaded⟩ := loadAt_of_tagged (tagged w there) path
    exact ⟨node, loaded, isKey_iff.mpr (loadAt_kind (names w there) loaded)⟩
  exact loadKeys_of_loadAt fields path 0

/-- A list of nodes is refused for an item that is, after others that are tagged. -/
theorem refusal?_of_item (asked : kind.listField? = some name) {before after : List Value}
    {v : Value} (held : Members.get? name members = some (.list (before ++ v :: after)))
    (tagged : ∀ w ∈ before, Tagged w)
    (names : kind = .schema → ∀ w ∈ before, Tagged.Names .key w)
    (failed : loadAt v (place ++ [.member name, .item before.length]) = .error fault) :
    (ofMembers members place kind).refusal? name = some fault := by
  have failed' : loadAt v (place ++ [.member name] ++ [.item (0 + before.length)]) =
      .error fault := by simpa using failed
  cases kind with
  | sum =>
      obtain rfl := Option.some.inj asked
      have each := fun w there => loadAt_of_tagged (tagged w there)
      obtain ⟨nodes, loaded⟩ := loadItems_of_loadAt each (place ++ [.member "types"]) 0
      have items := loadEach_eq_error.mpr ⟨before, v, after, nodes, rfl, loaded, failed'⟩
      exact fault?_eq_some.mpr (alternatives_eq_error.mpr
        (.inr ⟨_, held, .inr ⟨_, rfl, items⟩⟩))
  | schema =>
      obtain rfl := Option.some.inj asked
      obtain ⟨nodes, loaded⟩ := loadKeys_of_tagged tagged (names rfl) (place ++ [.member "keys"])
      have items := loadKeys_eq_error.mpr ⟨before, v, after, nodes, rfl, loaded, .inl failed'⟩
      exact fault?_eq_some.mpr (keys_eq_error.mpr ⟨_, held, .inr ⟨_, rfl, items⟩⟩)
  | _ => cases asked

/-- A list of fields is refused for a node that is none, after others that are fields. -/
theorem refusal?_of_notKey {before after : List Value} {v : Value}
    (held : Members.get? "keys" members = some (.list (before ++ v :: after)))
    (tagged : ∀ w ∈ before, Tagged w) (names : ∀ w ∈ before, Tagged.Names .key w)
    (below : Tagged v) (other : ¬ Tagged.Names .key v) :
    (ofMembers members place .schema).refusal? "keys" =
      some (.malformed (place ++ [.member "keys", .item before.length]) .notKey) := by
  obtain ⟨nodes, loaded⟩ := loadKeys_of_tagged tagged names (place ++ [.member "keys"])
  obtain ⟨node, own⟩ := loadAt_of_tagged below
    (place ++ [.member "keys"] ++ [.item (0 + before.length)])
  have notKey : node.isKey = false := by
    rw [Bool.eq_false_iff, Ne, isKey_iff]
    exact kind?_ne_of_loadAt below other own
  have items := loadKeys_eq_error.mpr ⟨before, v, after, nodes, rfl, loaded,
    .inr ⟨node, own, notKey, rfl⟩⟩
  refine fault?_eq_some.mpr (keys_eq_error.mpr ⟨_, held, .inr ⟨_, rfl, ?_⟩⟩)
  simpa using items

end Draft

/-- A node that is read the same up to its defect is refused with the same fault. -/
theorem Breaks.kept {node node' v : Value} {own : Path} {defect : LoadDefect}
    (breaks : Breaks place node own v defect) (same : SameUpTo (readUntil own defect) node node') :
    loadAt node' place = .error (.malformed (place ++ own) defect) := by
  cases breaks with
  | notDict other =>
      cases same
      rw [List.append_nil]
      cases node with
      | dict members => exact absurd rfl (other members)
      | _ => rfl
  | noKind absent =>
      obtain ⟨members', rfl, -, absent'⟩ := same.exists_lacking absent
      simp [loadAt, build, absent']
  | @badNotes members kind v named held counts other =>
      obtain ⟨members', w, rfl, earlier, held', here⟩ := same.exists_member held
      cases here
      have named' : Members.get? "kind" members' = some (.str kind.name) :=
        (earlier "kind" (by simp [earlierNames, readNames])).trans named
      have refused : loadNotes members' place =
          .error (.malformed (place ++ [.member "meta"]) .badNotes) := by
        cases v with
        | dict own => exact absurd rfl (other own)
        | _ => simp [loadNotes, held', counts]
      rw [loadAt_of_names named', refused]
      rfl
  | missing arrives needed absent =>
      obtain ⟨members', rfl, earlier, absent'⟩ := same.exists_lacking absent
      rw [List.append_nil]
      exact loadAt_of_arrives (arrives.of_earlier earlier)
        (Draft.refusal?_of_missing arrives.asked needed absent')
  | unknownPrimitive head held unknown =>
      refine same.refused (.of_head head rfl) held fun members' w held' here => ?_
      cases here
      exact fault?_eq_some.mpr (Draft.primitive_eq_error.mpr (.inr ⟨v, held', unknown, rfl⟩))
  | noAlternatives head held unfit =>
      refine same.refused (.of_head head rfl) held fun members' w held' here => ?_
      cases here
      exact fault?_eq_some.mpr
        (Draft.alternatives_eq_error.mpr (.inr ⟨v, held', .inl ⟨unfit, rfl⟩⟩))
  | badKeys head held other =>
      refine same.refused (.of_head head rfl) held fun members' w held' here => ?_
      cases here
      exact fault?_eq_some.mpr (Draft.keys_eq_error.mpr ⟨v, held', .inl ⟨other, rfl⟩⟩)
  | @notSchema members kind v found head asked held below other loaded =>
      have first : kind.fields.head? = some "schema" := by
        cases kind <;> first | rfl | exact absurd asked (by decide)
      have filled : v.isNull = false := by
        obtain ⟨_, _, rfl, _⟩ := below.exists_names
        rfl
      have notSchema : found.isSchema = false := by
        rw [Bool.eq_false_iff, Ne, isSchema_iff]
        exact kind?_ne_of_loadAt below other loaded
      refine same.refused (.of_head head first) held fun members' w held' here => ?_
      cases here
      exact Draft.refusal?_of_notSchema asked held' filled loaded notSchema
  | notKey head held tagged names below other =>
      refine same.refused (.of_head head rfl) held fun members' w held' within => ?_
      obtain ⟨w, later, rfl, here⟩ := within.exists_item
      cases here
      exact Draft.refusal?_of_notKey held' tagged names below other

end Told

/-- What a node is refused for is what each tree is refused for in which the loader comes to it. -/
theorem Comes.kept {tree node : Value} {path until' : Path} {fault : LoadFault}
    (comes : Comes tree path node) : ∀ {place : Path} {tree' : Value},
      (∀ node', SameUpTo until' node node' → loadAt node' (place ++ path) = .error fault) →
        SameUpTo (path ++ until') tree tree' → loadAt tree' place = .error fault := by
  induction comes with
  | here tree =>
      intro place tree' told same
      have own := told tree' same
      rwa [List.append_nil] at own
  | @field members kind name v node rest arrives asked held filled below ih =>
      intro place tree' told same
      refine same.refused arrives held fun members' v' held' within => ?_
      have inner : loadAt v' (place ++ [.member name]) = .error fault :=
        ih (fun node' same => by simpa using told node' same) within
      refine Draft.refusal?_of_child asked (fun mapping => ?_)
        (Draft.child_eq_error.mpr (.inr ⟨v', held', inner⟩))
      rw [held', Option.getD_some, within.isNull_eq]
      exact filled mapping
  | @item members kind name before after v node rest head asked held tagged names below ih =>
      intro place tree' told same
      have first : kind.fields.head? = some name := by
        cases kind <;> first | exact asked | cases asked
      refine same.refused (.of_head head first) held fun members' w held' within => ?_
      obtain ⟨v', after', rfl, inside⟩ := within.exists_item
      have inner : loadAt v' (place ++ [.member name, .item before.length]) = .error fault :=
        ih (fun node' same => by simpa using told node' same) inside
      exact Draft.refusal?_of_item asked held' tagged names inner

/-- Nothing changes up to the defect of a node, if nothing changes. -/
theorem Breaks.unchanged {place own : Path} {node v : Value} {defect : LoadDefect}
    (breaks : Breaks place node own v defect) : SameUpTo (readUntil own defect) node node := by
  cases breaks with
  | notDict => exact .here node
  | noKind absent | missing _ _ absent => exact .lacking (fun _ _ => rfl) absent absent
  | badNotes _ held | unknownPrimitive _ held | noAlternatives _ held | badKeys _ held
  | notSchema _ _ held => exact .member (fun _ _ => rfl) held held (.here v)
  | notKey head held => exact .member (fun _ _ => rfl) held held (.item (.here v))

theorem Comes.unchanged {tree node : Value} {path until' : Path} (comes : Comes tree path node)
    (same : SameUpTo until' node node) : SameUpTo (path ++ until') tree tree := by
  induction comes with
  | here tree => exact same
  | field arrives asked held filled below ih => exact .member (fun _ _ => rfl) held held (ih same)
  | item head asked held tagged names below ih =>
      exact .member (fun _ _ => rfl) held held (.item (ih same))

end Node

end Draftsman
