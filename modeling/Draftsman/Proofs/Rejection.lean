/-
# Draftsman.Proofs.Rejection -- what a malformed tree is rejected for

A decoded tree is malformed exactly if the loader comes to a defect (`loadAt_malformed_iff`).  One
half is found field by field, by recursion on the tree (`defective_of_loadAt`); the other is that a
defect is told wherever the same is read up to it.

The result is `load_rejected`: the message spells a place, the value there breaks the rule that the
message names, what is read before is right, and what is read later does not matter.
-/
import Draftsman.Proofs.Defects
import Draftsman.Proofs.Locating

namespace Draftsman

set_option autoImplicit false

namespace NodeKind

/-- The names of fields have neither strokes nor colons. -/
theorem plain_of_mem_fields {kind : NodeKind} {name : String} (asked : name ∈ kind.fields) :
    '/' ∉ name.toList ∧ ':' ∉ name.toList := by
  have each : ∀ own ∈ kind.fields, '/' ∉ own.toList ∧ ':' ∉ own.toList := by cases kind <;> decide
  exact each name asked

end NodeKind

namespace Path

theorem follow?_append (path later : Path) (tree : Value) :
    (path ++ later).follow? tree = (path.follow? tree).bind later.follow? := by
  induction path generalizing tree with
  | nil => rfl
  | cons step rest ih =>
      simp only [List.cons_append, follow?]
      cases step.follow? tree with
      | none => rfl
      | some v => exact ih v

theorem Plain.append {path later : Path} (plain : path.Plain) (plain' : later.Plain) :
    (path ++ later).Plain := fun name held =>
  (List.mem_append.mp held).elim (plain name) (plain' name)

end Path

namespace Node

/-! ## Defects that are found -/

/-- The loader comes to a node inside a tree that breaks a rule at a place. -/
def Defective (tree : Value) (start place : Path) (defect : LoadDefect) : Prop :=
  ∃ path node own v, Comes tree path node ∧ Breaks (start ++ path) node own v defect ∧
    place = start ++ (path ++ own)

namespace Defective

variable {members : Members} {kind : NodeKind} {name : String} {v : Value} {start place : Path}
  {defect : LoadDefect}

theorem here {tree : Value} {own : Path} (breaks : Breaks start tree own v defect) :
    Defective tree start (start ++ own) defect :=
  ⟨[], tree, own, v, .here tree, by rwa [List.append_nil], rfl⟩

theorem missing (arrives : Arrives members kind name) (needed : name ∉ kind.optionalFields)
    (absent : Members.get? name members = none) :
    Defective (.dict members) start start (.missing kind name) := by
  have breaks : Breaks start (.dict members) [] (.dict members) (.missing kind name) :=
    .missing arrives needed absent
  simpa using here breaks

theorem field (arrives : Arrives members kind name) (asked : name ∈ kind.nodeFields)
    (held : Members.get? name members = some v) (filled : kind = .mapping → v.isNull = false)
    (below : Defective v (start ++ [.member name]) place defect) :
    Defective (.dict members) start place defect := by
  obtain ⟨path, node, own, w, comes, breaks, rfl⟩ := below
  rw [List.append_assoc] at breaks
  exact ⟨_, node, own, w, .field arrives asked held filled comes, breaks, by simp⟩

theorem item {before after : List Value} (head : Tagged.Head kind members)
    (asked : kind.listField? = some name)
    (held : Members.get? name members = some (.list (before ++ v :: after)))
    (tagged : ∀ w ∈ before, Tagged w) (names : kind = .schema → ∀ w ∈ before, Tagged.Names .key w)
    (below : Defective v (start ++ [.member name, .item before.length]) place defect) :
    Defective (.dict members) start place defect := by
  obtain ⟨path, node, own, w, comes, breaks, rfl⟩ := below
  rw [List.append_assoc] at breaks
  exact ⟨_, node, own, w, .item head asked held tagged names comes, breaks, by simp⟩

end Defective

/-- The values inside a dictionary lead to a defect, if they are malformed. -/
def DefectiveBelow (members : Members) : Prop :=
  ∀ v, sizeOf v < sizeOf members → v.isDecoded = true → ∀ start place defect,
    loadAt v start = .error (.malformed place defect) → Defective v start place defect

section Found

variable {members : Members} {start place : Path} {kind : NodeKind} {name : String}
  {defect : LoadDefect}

/-- A field with a node leads to a defect, if it is malformed. -/
theorem defective_of_child (below : DefectiveBelow members)
    (decoded : Value.membersAreDecoded members = true) (arrives : Arrives members kind name)
    (asked : name ∈ kind.nodeFields)
    (filled : kind = .mapping → ((Members.get? name members).getD .null).isNull = false)
    (needed : kind ≠ .mapping → name ∉ kind.optionalFields)
    (failed : (Draft.ofMembers members start kind).child name =
      .error (.malformed place defect)) : Defective (.dict members) start place defect := by
  rcases Draft.child_eq_error.mp failed with ⟨absent, told⟩ | ⟨v, held, failed⟩
  · cases told
    refine .missing arrives (needed fun mapping => ?_) absent
    have present := filled mapping
    rw [absent] at present
    cases present
  · refine .field arrives asked held (fun mapping => ?_) (below v ?_ ?_ _ _ _ failed)
    · have present := filled mapping
      rwa [held] at present
    · exact Members.sizeOf_lt_of_get? held
    · exact Value.isDecoded_of_get? decoded held

/-- A field with a field set leads to a defect, if it is malformed or holds another node. -/
theorem defective_of_schemaChild (below : DefectiveBelow members)
    (decoded : Value.membersAreDecoded members = true) (arrives : Arrives members kind "schema")
    (asked : "schema" ∈ kind.nodeFields)
    (filled : kind = .mapping → ((Members.get? "schema" members).getD .null).isNull = false)
    (needed : kind ≠ .mapping → "schema" ∉ kind.optionalFields)
    (failed : (Draft.ofMembers members start kind).schemaChild =
      .error (.malformed place defect)) : Defective (.dict members) start place defect := by
  rcases Draft.schemaChild_eq_error.mp failed with failed | ⟨node, child, other, told⟩
  · exact defective_of_child below decoded arrives asked filled needed failed
  · cases told
    obtain ⟨v, held, loaded⟩ := Draft.child_eq_ok.mp child
    have tagged := tagged_of_loadAt v (Value.isDecoded_of_get? decoded held) _ node loaded
    refine .here (.notSchema arrives.head asked held tagged (fun names => ?_) loaded)
    rw [isSchema_iff.mpr (loadAt_kind names loaded)] at other
    cases other

/-- The items of a list are decoded and smaller than the dictionary that holds it. -/
theorem item_of_get? (decoded : Value.membersAreDecoded members = true) {values : List Value}
    (held : Members.get? name members = some (.list values)) {v : Value} (mem : v ∈ values) :
    v.isDecoded = true ∧ sizeOf v < sizeOf members := by
  have plain := Value.isDecoded_of_get? decoded held
  have outer := Members.sizeOf_lt_of_get? held
  have inner := List.sizeOf_lt_of_mem mem
  rw [Value.isDecoded] at plain
  rw [Value.list.sizeOf_spec] at outer
  exact ⟨Value.isDecoded_of_mem plain v mem, by omega⟩

/-- The alternatives of a union lead to a defect, if they are malformed. -/
theorem defective_of_alternatives (below : DefectiveBelow members)
    (decoded : Value.membersAreDecoded members = true) (arrives : Arrives members .sum "types")
    (failed : (Draft.ofMembers members start .sum).alternatives =
      .error (.malformed place defect)) : Defective (.dict members) start place defect := by
  rcases Draft.alternatives_eq_error.mp failed with
    ⟨absent, told⟩ | ⟨v, held, ⟨unfit, told⟩ | ⟨types, rfl, failed⟩⟩
  · cases told
    exact .missing arrives (by decide) absent
  · cases told
    exact .here (.noAlternatives arrives.head held unfit)
  · obtain ⟨before, v, after, nodes, rfl, loaded, failed⟩ := Draft.loadEach_eq_error.mp failed
    have tagged : ∀ w ∈ before, Tagged w := by
      intro w there
      obtain ⟨path, node, -, own⟩ := Draft.loadAt_of_loadItems loaded w there
      have plain := (item_of_get? decoded held (List.mem_append_left _ there)).1
      exact tagged_of_loadAt w plain path node own
    obtain ⟨plain, smaller⟩ := item_of_get? decoded held (List.mem_append_right before
      (List.mem_cons_self (a := v)))
    refine .item arrives.head rfl held tagged (fun same => ?_) (below v smaller plain _ _ _ ?_)
    · cases same
    · simpa using failed

/-- The fields of a field set lead to a defect, if they are malformed or other nodes. -/
theorem defective_of_keys (below : DefectiveBelow members)
    (decoded : Value.membersAreDecoded members = true) (head : Tagged.Head .schema members)
    (failed : (Draft.ofMembers members start .schema).keys =
      .error (.malformed place defect)) : Defective (.dict members) start place defect := by
  obtain ⟨v, held, ⟨other, told⟩ | ⟨keys, rfl, failed⟩⟩ := Draft.keys_eq_error.mp failed
  · cases told
    exact .here (.badKeys head held other)
  · obtain ⟨before, v, after, nodes, rfl, loaded, failed⟩ := Draft.loadKeys_eq_error.mp failed
    obtain ⟨loaded, fields⟩ := Draft.loadKeys_eq_ok.mp loaded
    have right : ∀ w ∈ before, Tagged w ∧ Tagged.Names .key w := by
      intro w there
      obtain ⟨path, node, listed, own⟩ := Draft.loadAt_of_loadItems loaded w there
      have plain := (item_of_get? decoded held (List.mem_append_left _ there)).1
      exact ⟨tagged_of_loadAt w plain path node own,
        names_of_loadAt plain own (isKey_iff.mp (fields node listed))⟩
    obtain ⟨plain, smaller⟩ := item_of_get? decoded held (List.mem_append_right before
      (List.mem_cons_self (a := v)))
    rcases failed with failed | ⟨node, own, other, told⟩
    · refine .item head rfl held (fun w there => (right w there).1)
        (fun _ w there => (right w there).2) (below v smaller plain _ _ _ ?_)
      simpa using failed
    · have tagged := tagged_of_loadAt v plain _ node own
      have notKey : ¬ Tagged.Names .key v := by
        intro names
        rw [isKey_iff.mpr (loadAt_kind names own)] at other
        cases other
      have breaks : Breaks start (.dict members) [.member "keys", .item before.length] v .notKey :=
        .notKey head held (fun w there => (right w there).1) (fun w there => (right w there).2)
          tagged notKey
      cases told
      simpa using Defective.here breaks

/-- A field that is read and refused leads to a defect. -/
theorem defective_of_refusal? (below : DefectiveBelow members)
    (decoded : Value.membersAreDecoded members = true) (arrives : Arrives members kind name)
    (refused : (Draft.ofMembers members start kind).refusal? name =
      some (.malformed place defect)) : Defective (.dict members) start place defect := by
  -- only a mapping may do without its field set
  have other (differ : kind ≠ .mapping) {found : Prop} (same : kind = .mapping) : found :=
    absurd same differ
  cases kind with
  | nominal =>
      obtain rfl := List.mem_singleton.mp arrives.asked
      rcases Draft.primitive_eq_error.mp (fault?_eq_some.mp refused) with
        ⟨absent, told⟩ | ⟨v, held, unknown, told⟩
      · cases told
        exact .missing arrives (by decide) absent
      · cases told
        exact .here (.unknownPrimitive arrives.head held unknown)
  | constructor | constrained | intersection | array =>
      exact defective_of_child below decoded arrives arrives.asked (other (by decide))
        (fun _ => List.not_mem_nil) (fault?_eq_some.mp refused)
  | sum =>
      obtain rfl := List.mem_singleton.mp arrives.asked
      exact defective_of_alternatives below decoded arrives (fault?_eq_some.mp refused)
  | schema => exact defective_of_keys below decoded arrives.head (fault?_eq_some.mp refused)
  | mapping =>
      obtain rfl := List.mem_singleton.mp arrives.asked
      by_cases absent : ((Members.get? "schema" members).getD .null).isNull = true
      · simp [Draft.refusal?, absent] at refused
      · simp only [Draft.refusal?, if_neg absent] at refused
        exact defective_of_schemaChild below decoded arrives (by decide)
          (fun _ => by simpa using absent) (fun other => absurd rfl other)
          (fault?_eq_some.mp refused)
  | aggregate =>
      by_cases fields : name = "schema"
      · subst fields
        exact defective_of_schemaChild below decoded arrives (by decide) (other (by decide))
          (fun _ => by decide) (fault?_eq_some.mp refused)
      · simp [Draft.refusal?, fields] at refused
  | predicate =>
      by_cases named : name = "name"
      · subst named
        obtain ⟨absent, told⟩ := Draft.field_eq_error.mp (fault?_eq_some.mp refused)
        cases told
        exact .missing arrives (by decide) absent
      · simp [Draft.refusal?, named] at refused
  | key =>
      by_cases named : name = "name"
      · subst named
        obtain ⟨absent, told⟩ := Draft.field_eq_error.mp (fault?_eq_some.mp refused)
        cases told
        exact .missing arrives (by decide) absent
      · by_cases type : name = "type"
        · subst type
          exact defective_of_child below decoded arrives (by decide) (other (by decide))
            (fun _ => by decide) (fault?_eq_some.mp refused)
        · simp [Draft.refusal?, named, type] at refused
  | enum =>
      by_cases type : name = "type"
      · subst type
        exact defective_of_child below decoded arrives (by decide) (other (by decide))
          (fun _ => by decide) (fault?_eq_some.mp refused)
      · -- what is wrong with the values is not that the tree is malformed
        simp only [Draft.refusal?, if_neg type] at refused
        cases Draft.values_eq_error (fault?_eq_some.mp refused)

end Found

/-- A dictionary that is malformed leads to a defect, if the values in it do. -/
theorem defective_of_members {members : Members} (below : DefectiveBelow members)
    (decoded : Value.membersAreDecoded members = true) {start place : Path} {defect : LoadDefect}
    (failed : loadAt (.dict members) start = .error (.malformed place defect)) :
    Defective (.dict members) start place defect := by
  have built := failed
  simp only [loadAt, build] at built
  split at built
  · rename_i absent
    cases built
    have breaks : Breaks start (.dict members) [] (.dict members) .noKind := .noKind absent
    simpa using Defective.here breaks
  · rename_i v there
    split at built
    · split at built
      · cases built
      · rename_i kind found
        obtain ⟨text, named, known⟩ := Option.bind_eq_some_iff.mp found
        obtain rfl := NodeKind.name_of_ofName? known
        obtain rfl := Value.eq_str_of_text? (Value.isDecoded_of_get? decoded there) named
        by_cases noted : ∃ notes, loadNotes members start = .ok notes
        · have head : Tagged.Head kind members := ⟨there, loadNotes_isOk.mp noted⟩
          obtain ⟨name, asked, refused, passed⟩ := (loadAt_eq_error_iff head start).mp failed
          refine defective_of_refusal? below decoded ⟨head, asked, fun own early => ?_⟩ refused
          exact Draft.passes_of_refusal? decoded (NodeKind.mem_dropLast_of_earlier asked early)
            (passed own early)
        · -- the notes are those that the message tells
          rw [loadNotes_isOk] at noted
          push Not at noted
          obtain ⟨v, held, counts, other⟩ := noted
          have breaks : Breaks start (.dict members) [.member "meta"] v .badNotes :=
            .badNotes there held (by simpa using counts) other
          have told := breaks.kept (.member (fun _ _ => rfl) held held (.here v))
          cases failed.symm.trans told
          exact .here breaks
    · cases built

/-- What is no dictionary is a defect itself. -/
theorem defective_of_other {v : Value} (other : ∀ members, v ≠ .dict members)
    {start place : Path} {defect : LoadDefect}
    (failed : loadAt v start = .error (.malformed place defect)) :
    Defective v start place defect := by
  have breaks : Breaks start v [] v (.notDict v) := .notDict other
  cases failed.symm.trans (breaks.kept (.here v))
  exact .here breaks

/-- A decoded tree that is malformed has a defect, wherever it stands. -/
theorem defective_of_loadAt : ∀ (tree : Value), tree.isDecoded = true →
    ∀ (start place : Path) (defect : LoadDefect),
      loadAt tree start = .error (.malformed place defect) → Defective tree start place defect
  | .dict members, decoded, start, place, defect, failed => by
      refine defective_of_members (fun v smaller own => ?_) decoded failed
      exact defective_of_loadAt v own
  | .null, _, _, _, _, failed | .bool _, _, _, _, _, failed | .int _, _, _, _, _, failed
  | .float _, _, _, _, _, failed | .str _, _, _, _, _, failed | .decimal _, _, _, _, _, failed
  | .primitive _, _, _, _, _, failed | .host _, _, _, _, _, failed
  | .pattern _, _, _, _, _, failed | .list _, _, _, _, _, failed | .tuple _, _, _, _, _, failed
  | .set _, _, _, _, _, failed => defective_of_other (fun _ same => by cases same) failed
termination_by tree => sizeOf tree
decreasing_by
  rw [Value.dict.sizeOf_spec]
  omega

/-- A decoded tree is malformed at a place exactly if the loader comes to a defect there. -/
theorem loadAt_malformed_iff {tree : Value} (decoded : tree.isDecoded = true) {start place : Path}
    {defect : LoadDefect} :
    loadAt tree start = .error (.malformed place defect) ↔ Defective tree start place defect := by
  refine ⟨defective_of_loadAt tree decoded start place defect, ?_⟩
  rintro ⟨path, node, own, v, comes, breaks, rfl⟩
  refine comes.kept (fun node' same => ?_) (comes.unchanged breaks.unchanged)
  rw [← List.append_assoc]
  exact breaks.kept same

/-! ## Where a message points -/

theorem getElem?_middle (before : List Value) (v : Value) (after : List Value) :
    (before ++ v :: after)[before.length]? = some v := by
  simp

theorem Comes.follow {tree node : Value} {path : Path} (comes : Comes tree path node) :
    path.follow? tree = some node := by
  induction comes with
  | here tree => rfl
  | field arrives asked held filled below ih =>
      simp only [Path.follow?, Step.follow?, held, Option.bind_some]
      exact ih
  | item head asked held tagged names below ih =>
      simp only [Path.follow?, Step.follow?, held, getElem?_middle, Option.bind_some]
      exact ih

theorem Breaks.follow {place own : Path} {node v : Value} {defect : LoadDefect}
    (breaks : Breaks place node own v defect) : own.follow? node = some v := by
  cases breaks with
  | notDict | noKind | missing => rfl
  | badNotes _ held | unknownPrimitive _ held | noAlternatives _ held | badKeys _ held
  | notSchema _ _ held =>
      simp only [Path.follow?, Step.follow?, held, Option.bind_some]
  | notKey head held =>
      simp only [Path.follow?, Step.follow?, held, getElem?_middle, Option.bind_some]

theorem Comes.plain {tree node : Value} {path : Path} (comes : Comes tree path node) :
    path.Plain := by
  induction comes with
  | here tree => exact fun name held => by cases held
  | field arrives asked held filled below ih =>
      intro name there
      rcases List.mem_cons.mp there with same | there
      · cases same
        exact NodeKind.plain_of_mem_fields arrives.asked
      · exact ih name there
  | item head asked held tagged names below ih =>
      intro name there
      rcases List.mem_cons.mp there with same | there
      · cases same
        exact NodeKind.plain_of_mem_fields (NodeKind.mem_fields_of_listField? asked)
      · exact ih name ((List.mem_cons.mp there).resolve_left nofun)

theorem Breaks.plain {place own : Path} {node v : Value} {defect : LoadDefect}
    (breaks : Breaks place node own v defect) : own.Plain := by
  intro name there
  cases breaks with
  | notDict | noKind | missing => cases there
  | badNotes | unknownPrimitive | noAlternatives | badKeys | notSchema =>
      cases List.mem_singleton.mp there
      decide
  | notKey =>
      rcases List.mem_cons.mp there with same | there
      · cases same
        decide
      · cases List.mem_singleton.mp there

/-! ## The first defect -/

/-- A fault that is told as malformed shows its place and the rule that is broken. -/
theorem malformed_of_kind {fault : LoadFault} (malformed : fault.failure.kind = .malformedTree) :
    ∃ place defect, fault = .malformed place defect ∧
      fault.failure.message = Path.text place ++ ": " ++ defect.text := by
  have shown : fault.failure.kind ≠ .badValue := by rw [malformed]; decide
  cases fault with
  | malformed place defect =>
      exact ⟨place, defect, rfl, by rw [LoadFault.failure, Failure.showing_eq shown]⟩
  | unsupported kind =>
      rw [LoadFault.failure, Failure.showing_eq shown] at malformed
      cases malformed
  | badKind => cases malformed
  | badValues => cases malformed

/-- The message that a decoded tree is malformed tells a place and a rule.  The place, as the
message spells it, leads to a value of the tree that breaks the rule; it is the first that does, as
the loader comes to its node and finds all that is read before it right; and every tree that is the
same up to there is refused with the same fault. -/
theorem load_rejected {tree : Value} (decoded : tree.isDecoded = true) {fault : LoadFault}
    (failed : load tree = .error fault) (malformed : fault.failure.kind = .malformedTree) :
    ∃ path node own v defect,
      fault.failure.message = Path.text (path ++ own) ++ ": " ++ defect.text ∧
        (path ++ own).follow? tree = some v ∧
        tree.resolve? (Path.told fault.failure.message) = some v ∧
        Comes tree path node ∧ Breaks path node own v defect ∧
        ∀ repaired, SameUpTo (path ++ readUntil own defect) tree repaired →
          load repaired = .error fault := by
  obtain ⟨place, defect, rfl, message⟩ := malformed_of_kind malformed
  obtain ⟨path, node, own, v, comes, breaks, rfl⟩ :=
    defective_of_loadAt tree decoded [] place defect failed
  have there : (path ++ own).follow? tree = some v := by
    rw [Path.follow?_append, comes.follow]
    exact breaks.follow
  refine ⟨path, node, own, v, defect, message, there, ?_, comes, breaks, ?_⟩
  · rw [message]
    exact Path.resolve?_told (comes.plain.append breaks.plain) there defect.text
  · intro repaired same
    have told : ∀ node', SameUpTo (readUntil own defect) node node' →
        loadAt node' ([] ++ path) = .error (.malformed (path ++ own) defect) :=
      fun node' same => breaks.kept same
    exact comes.kept told same

/-- A field set with three fields, of which the second is of an unknown primitive; the third is
left open. -/
def tripTree (later : Value) : Value :=
  let field (name : String) (type : Value) : Value :=
    .dict (Members.named [("kind", .str "key"), ("name", .str name), ("type", type)])
  let nominal (primitive : String) : Value :=
    .dict (Members.named [("primitive", .str primitive), ("kind", .str "nominal")])
  .dict (Members.named [("keys", .list [field "from" (nominal "string"),
    field "day" (nominal "day"), later]), ("kind", .str "schema")])

def tripFault : LoadFault :=
  .malformed [.member "keys", .item 1, .member "type", .member "primitive"]
    (.unknownPrimitive (.str "day"))

theorem load_rejected_trip :
    load (tripTree .null) = .error tripFault ∧ tripFault.failure.kind = .malformedTree ∧
      tripFault.failure.message = "#/keys/1/type/primitive: unknown primitive 'day'" ∧
      (∃ path node own defect, Comes (tripTree .null) path node ∧
        Breaks path node own (.str "day") defect ∧
          tripFault.failure.message = Path.text (path ++ own) ++ ": " ++ defect.text) ∧
      load (tripTree (.dict [])) = .error tripFault := by
  have failed : load (tripTree .null) = .error tripFault := rfl
  have message : tripFault.failure.message =
      "#/keys/1/type/primitive: unknown primitive 'day'" := rfl
  have spelled : Path.told "#/keys/1/type/primitive: unknown primitive 'day'" =
      ["keys", "1", "type", "primitive"] := by decide +kernel
  have found : (tripTree .null).resolve? ["keys", "1", "type", "primitive"] =
      some (.str "day") := rfl
  obtain ⟨path, node, own, v, defect, told, -, there, comes, breaks, -⟩ :=
    load_rejected rfl failed rfl
  rw [message, spelled, found] at there
  obtain rfl := Option.some.inj there
  exact ⟨failed, rfl, message, ⟨path, node, own, defect, comes, breaks, told⟩, rfl⟩

end Node

end Draftsman
