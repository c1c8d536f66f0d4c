/-
# Draftsman.Proofs.Checks -- the checks of a node, field by field

A draft is refused by the first of its fields that does not pass: `Draft.refusal?` is what one field
is refused for, and the fields are asked in the order in which they are read
(`Draft.fault?_node`, `loadAt_eq_error_iff`).

What a field is refused for is said for each way of reading one by a lemma of its own
(`Draft.child_eq_error` and those beside it).  A list is refused for the first of its items that is
(`Draft.loadEach_eq_error`, `Draft.loadKeys_eq_error`).

The fields that others are read after pass exactly if what they hold is right (`Passes`).
-/
import Draftsman.Proofs.ReadingOrder

namespace Draftsman

set_option autoImplicit false

/-! ## The first of several names -/

section Names

variable {β : Type}

theorem findSome?_cons_or (f : String → Option β) (first : String) (rest : List String) :
    (first :: rest).findSome? f = (f first).or (rest.findSome? f) := by
  rw [List.findSome?_cons]
  cases f first <;> rfl

/-- What comes first out of a list of names is what one name gives, when those before it give
nothing. -/
theorem findSome?_eq_some_takeWhile {f : String → Option β} {names : List String} {result : β} :
    names.findSome? f = some result ↔ ∃ name ∈ names, f name = some result ∧
      ∀ own ∈ names.takeWhile (· != name), f own = none := by
  induction names with
  | nil => simp
  | cons first rest ih =>
      rw [List.findSome?_cons]
      cases found : f first with
      | some other =>
          constructor
          · rintro ⟨⟩
            exact ⟨first, List.mem_cons_self, found, by simp⟩
          · rintro ⟨name, -, given, none⟩
            by_cases same : first = name
            · rw [← same, found] at given
              exact given
            · have early : first ∈ (first :: rest).takeWhile (· != name) := by simp [same]
              rw [none first early] at found
              cases found
      | none =>
          show rest.findSome? f = some result ↔ _
          rw [ih]
          constructor
          · rintro ⟨name, held, given, none⟩
            have differ : first ≠ name := fun same => by rw [same, given] at found; cases found
            refine ⟨name, List.mem_cons_of_mem _ held, given, ?_⟩
            rw [List.takeWhile_cons_of_pos (by simpa using differ)]
            exact List.forall_mem_cons.mpr ⟨found, none⟩
          · rintro ⟨name, held, given, none⟩
            have differ : first ≠ name := fun same => by rw [same, given] at found; cases found
            rw [List.takeWhile_cons_of_pos (by simpa using differ)] at none
            exact ⟨name, (List.mem_cons.mp held).resolve_left (Ne.symm differ), given,
              (List.forall_mem_cons.mp none).2⟩

end Names

/-! ## Fields that may be left out, and fields before others -/

namespace NodeKind

def optionalFields : NodeKind → List String
  | predicate => ["operand"]
  | mapping => ["schema"]
  | aggregate => ["name"]
  | schema => ["keys"]
  | key => ["required"]
  | enum => ["values"]
  | nominal | constructor | constrained | sum | intersection | array => []

/-- What is read before another field is not the last one. -/
theorem mem_dropLast_of_earlier {kind : NodeKind} {name own : String} (asked : name ∈ kind.fields)
    (earlier : own ∈ kind.fields.takeWhile (· != name)) : own ∈ kind.fields.dropLast := by
  have each : ∀ name ∈ kind.fields, ∀ own ∈ kind.fields.takeWhile (· != name),
      own ∈ kind.fields.dropLast := by cases kind <;> decide
  exact each name asked own earlier

end NodeKind

namespace Node

namespace Draft

/-! ## What one field is refused for -/

section Fields

variable {members : Members} {path : Path} {kind : NodeKind} {name : String} {fault : LoadFault}

theorem field_eq_error :
    (ofMembers members path kind).field name = .error fault ↔
      Members.get? name members = none ∧ .malformed path (.missing kind name) = fault := by
  rw [field]
  cases Members.get? name members <;> simp [missing]

theorem offer_eq_error :
    (ofMembers members path kind).offer name = .error fault ↔
      Members.get? name members = none ∧ .malformed path (.missing kind name) = fault := by
  rw [offer, Offer.find?_offers]
  cases Members.get? name members <;> simp [missing]

/-- A node is refused if it is missing, or for what its own tree is refused for. -/
theorem child_eq_error :
    (ofMembers members path kind).child name = .error fault ↔
      (Members.get? name members = none ∧ .malformed path (.missing kind name) = fault) ∨
        ∃ v, Members.get? name members = some v ∧
          loadAt v (path ++ [.member name]) = .error fault := by
  simp only [child, bind_eq_error, offer_eq_error, offer_eq_ok]
  constructor
  · rintro (lacking | ⟨offer, ⟨v, held, rfl⟩, failed⟩)
    · exact .inl lacking
    · exact .inr ⟨v, held, failed⟩
  · rintro (lacking | ⟨v, held, failed⟩)
    · exact .inl lacking
    · exact .inr ⟨_, ⟨v, held, rfl⟩, failed⟩

theorem schemaChild_eq_error :
    (ofMembers members path kind).schemaChild = .error fault ↔
      (ofMembers members path kind).child "schema" = .error fault ∨
        ∃ node, (ofMembers members path kind).child "schema" = .ok node ∧ node.isSchema = false ∧
          .malformed (path ++ [.member "schema"]) (.notSchema node) = fault := by
  simp only [schemaChild, bind_eq_error]
  refine or_congr Iff.rfl (exists_congr fun node => and_congr_right fun _ => ?_)
  cases node.isSchema <;> simp [place, pure, Except.pure]

theorem primitive_eq_error :
    (ofMembers members path kind).primitive = .error fault ↔
      (Members.get? "primitive" members = none ∧
          .malformed path (.missing kind "primitive") = fault) ∨
        ∃ v, Members.get? "primitive" members = some v ∧ v.toPrimitive? = none ∧
          .malformed (path ++ [.member "primitive"]) (.unknownPrimitive v) = fault := by
  simp only [primitive, bind_eq_error, field_eq_error, field_eq_ok]
  refine or_congr Iff.rfl (exists_congr fun v => and_congr_right fun _ => ?_)
  cases v.toPrimitive? <;> simp [place, pure, Except.pure]

/-- The alternatives are refused if they are missing, or no list, or one without items, or else for
what their items are refused for. -/
theorem alternatives_eq_error :
    (ofMembers members path kind).alternatives = .error fault ↔
      (Members.get? "types" members = none ∧ .malformed path (.missing kind "types") = fault) ∨
        ∃ v, Members.get? "types" members = some v ∧
          (((∀ types, v = .list types → types = []) ∧
              .malformed (path ++ [.member "types"]) .noAlternatives = fault) ∨
            ∃ types, v = .list types ∧
              loadItems (path ++ [.member "types"]) 0 (loadEach types) = .error fault) := by
  simp only [alternatives, bind_eq_error, offer_eq_error, offer_eq_ok]
  refine or_congr Iff.rfl ⟨?_, ?_⟩
  · rintro ⟨offer, ⟨v, held, rfl⟩, failed⟩
    refine ⟨v, held, ?_⟩
    cases v with
    | list types =>
        cases types with
        | nil => exact .inl ⟨fun _ same => (Value.list.inj same).symm, Except.error.inj failed⟩
        | cons first rest => exact .inr ⟨_, rfl, failed⟩
    | _ =>
        refine .inl ⟨fun types same => ?_, Except.error.inj failed⟩
        cases same
  · rintro ⟨v, held, ⟨unfit, rfl⟩ | ⟨types, rfl, failed⟩⟩
    · refine ⟨_, ⟨v, held, rfl⟩, ?_⟩
      cases v with
      | list types =>
          obtain rfl := unfit types rfl
          rfl
      | _ => rfl
    · refine ⟨_, ⟨_, held, rfl⟩, ?_⟩
      cases types with
      | nil => cases failed
      | cons first rest => exact failed

theorem keys_eq_error :
    (ofMembers members path kind).keys = .error fault ↔
      ∃ v, Members.get? "keys" members = some v ∧
        (((∀ keys, v ≠ .list keys) ∧ .malformed (path ++ [.member "keys"]) .badKeys = fault) ∨
          ∃ keys, v = .list keys ∧
            loadKeys (path ++ [.member "keys"]) 0 (loadEach keys) = .error fault) := by
  rw [keys, Offer.find?_offers]
  cases held : Members.get? "keys" members with
  | none => simp
  | some v =>
      cases v with
      | list keys => simp [itemOffers?, place]
      | _ => simp [itemOffers?, place]

theorem values_eq_error (failed : (ofMembers members path kind).values = .error fault) :
    fault = .badValues := by
  rw [values] at failed
  split at failed
  · cases failed
  · split at failed
    · cases failed
    · exact (Except.error.inj failed).symm

end Fields

/-! ## What a list is refused for -/

section Items

variable {path : Path} {values : List Value} {index : Nat} {fault : LoadFault}

/-- A list is refused for the first of its trees that is, after those before it are loaded: as
nodes, or in whatever way each of them is read. -/
theorem loadItems_eq_error {read : Value → LoadAt} :
    loadItems path index (values.map read) = .error fault ↔
      ∃ before v after nodes, values = before ++ v :: after ∧
        loadItems path index (before.map read) = .ok nodes ∧
          read v (path ++ [.item (index + before.length)]) = .error fault := by
  induction values generalizing index with
  | nil => simp [loadItems]
  | cons first rest ih =>
      have step : ∀ later : Nat, index + (later + 1) = index + 1 + later := fun later => by omega
      simp only [List.map_cons, loadItems, bind_eq_error, ih, pure, Except.pure, reduceCtorEq,
        and_false, exists_false, or_false]
      constructor
      · rintro (failed | ⟨node, own, before, v, after, nodes, rfl, loaded, failed⟩)
        · exact ⟨[], first, rest, [], rfl, rfl, failed⟩
        · refine ⟨first :: before, v, after, node :: nodes, rfl, ?_, ?_⟩
          · exact bind_eq_ok.mpr ⟨node, own, bind_eq_ok.mpr ⟨nodes, loaded, rfl⟩⟩
          · rw [List.length_cons, step]
            exact failed
      · rintro ⟨before, v, after, nodes, split, loaded, failed⟩
        cases before with
        | nil =>
            obtain ⟨rfl, rfl⟩ := List.cons.inj split
            exact .inl failed
        | cons other before =>
            obtain ⟨rfl, rfl⟩ := List.cons.inj split
            simp only [List.map_cons, loadItems, bind_eq_ok, pure_eq_ok] at loaded
            obtain ⟨node, own, later, loaded, -⟩ := loaded
            rw [List.length_cons, step] at failed
            exact .inr ⟨node, own, before, v, after, later, rfl, loaded, failed⟩

/-- A list of nodes is refused for the first of its trees that is. -/
theorem loadEach_eq_error :
    loadItems path index (loadEach values) = .error fault ↔
      ∃ before v after nodes, values = before ++ v :: after ∧
        loadItems path index (loadEach before) = .ok nodes ∧
          loadAt v (path ++ [.item (index + before.length)]) = .error fault := by
  simp only [loadEach_eq_map, loadItems_eq_error]

/-- An item of a list of fields is loaded as a node that has to be one. -/
def asKey (item : LoadAt) : LoadAt := fun path => do
  let node ← item path
  if node.isKey then pure node else .error (.malformed path .notKey)

theorem asKey_eq_error {item : LoadAt} :
    asKey item path = .error fault ↔ item path = .error fault ∨
      ∃ node, item path = .ok node ∧ node.isKey = false ∧ .malformed path .notKey = fault := by
  simp only [asKey, bind_eq_error]
  refine or_congr Iff.rfl (exists_congr fun node => and_congr_right fun _ => ?_)
  cases node.isKey <;> simp [pure, Except.pure]

theorem loadKeys_eq_loadItems (items : List LoadAt) :
    loadKeys path index items = loadItems path index (items.map asKey) := by
  induction items generalizing index with
  | nil => rfl
  | cons first rest ih =>
      simp only [loadKeys, List.map_cons, loadItems, asKey, bind_assoc, ih]
      refine bind_congr fun node => ?_
      cases node.isKey <;> rfl

/-- A list of fields is refused for the first of its trees that is, or that is none. -/
theorem loadKeys_eq_error :
    loadKeys path index (loadEach values) = .error fault ↔
      ∃ before v after nodes, values = before ++ v :: after ∧
        loadKeys path index (loadEach before) = .ok nodes ∧
          (loadAt v (path ++ [.item (index + before.length)]) = .error fault ∨
            ∃ node, loadAt v (path ++ [.item (index + before.length)]) = .ok node ∧
              node.isKey = false ∧
                .malformed (path ++ [.item (index + before.length)]) .notKey = fault) := by
  simp only [loadKeys_eq_loadItems, loadEach_eq_map, List.map_map, loadItems_eq_error,
    Function.comp_apply, asKey_eq_error]

end Items

/-! ## The first field that is refused -/

/-- What a field of a draft is refused for, if it is. -/
def refusal? (draft : Draft) (name : String) : Option LoadFault :=
  match draft.kind with
  | .nominal => fault? draft.primitive
  | .constructor | .constrained | .intersection | .array => fault? (draft.child name)
  | .predicate => if name = "name" then fault? (draft.field name) else none
  | .sum => fault? draft.alternatives
  | .mapping =>
      if ((Members.get? "schema" draft.members).getD .null).isNull then none
      else fault? draft.schemaChild
  | .aggregate => if name = "schema" then fault? draft.schemaChild else none
  | .schema => fault? draft.keys
  | .key =>
      if name = "name" then fault? (draft.field name)
      else if name = "type" then fault? (draft.child name)
      else none
  | .enum => if name = "type" then fault? (draft.child name) else fault? draft.values

/-- A draft is refused for the first of its fields that is. -/
theorem fault?_node (members : Members) (path : Path) (kind : NodeKind) (notes : Value) :
    fault? ((ofMembers members path kind).node notes) =
      kind.fields.findSome? (ofMembers members path kind).refusal? := by
  cases kind with
  | nominal | constructor | array | sum | schema | predicate | aggregate =>
      simp only [node, fault?_bind_pure]
      simp [NodeKind.fields, findSome?_cons_or, refusal?]
  | constrained | intersection | enum | key =>
      simp only [node, fault?_bind_bind_pure]
      simp [NodeKind.fields, findSome?_cons_or, refusal?]
  | mapping =>
      simp only [node]
      by_cases absent : ((Members.get? "schema" members).getD .null).isNull = true
      · simp [NodeKind.fields, refusal?, absent, pure, Except.pure]
      · rw [if_neg absent, fault?_bind_pure]
        simp [NodeKind.fields, refusal?, absent]

end Draft

/-- A dictionary with the head of a kind is refused for the first field of the kind that is. -/
theorem loadAt_eq_error_iff {members : Members} {kind : NodeKind}
    (head : Tagged.Head kind members) (path : Path) {fault : LoadFault} :
    loadAt (.dict members) path = .error fault ↔
      ∃ name ∈ kind.fields, (Draft.ofMembers members path kind).refusal? name = some fault ∧
        ∀ own ∈ kind.fields.takeWhile (· != name),
          (Draft.ofMembers members path kind).refusal? own = none := by
  obtain ⟨notes, read⟩ := loadNotes_isOk.mpr head.notes
  have drawn : loadAt (.dict members) path = (Draft.ofMembers members path kind).node notes := by
    rw [loadAt_of_names head.kind, read]
    rfl
  rw [drawn, ← fault?_eq_some, Draft.fault?_node, findSome?_eq_some_takeWhile]

/-! ## Fields that pass -/

/-- What is found under a field that others are read after is right: it is there, if it has to be,
and a tagged tree, if it holds a node; and a field set, if it holds one. -/
structure Passes (kind : NodeKind) (name : String) (found : Option Value) : Prop where
  present : found = none → name ∈ kind.optionalFields
  tagged : name ∈ kind.nodeFields → ∀ v, found = some v → Tagged v
  names : name = "schema" → ∀ v, found = some v → Tagged.Names .schema v

namespace Draft

variable {members : Members} {path : Path} {kind : NodeKind} {name : String}

/-- A field with a node passes, if there is a tagged tree. -/
theorem child_of_passes (passes : Passes kind name (Members.get? name members))
    (asked : name ∈ kind.nodeFields) (needed : name ∉ kind.optionalFields) :
    ∃ node, (ofMembers members path kind).child name = .ok node := by
  cases held : Members.get? name members with
  | none => exact absurd (passes.present held) needed
  | some v =>
      have tagged := passes.tagged asked v held
      obtain ⟨node, loaded⟩ := loadAt_of_tagged tagged (path ++ [.member name])
      exact ⟨node, child_eq_ok.mpr ⟨v, held, loaded⟩⟩

theorem field_of_passes (passes : Passes kind name (Members.get? name members))
    (needed : name ∉ kind.optionalFields) :
    ∃ v, (ofMembers members path kind).field name = .ok v := by
  cases held : Members.get? name members with
  | none => exact absurd (passes.present held) needed
  | some v => exact ⟨v, field_eq_ok.mpr held⟩

theorem schemaChild_of_passes (passes : Passes kind "schema" (Members.get? "schema" members))
    (asked : "schema" ∈ kind.nodeFields) (needed : "schema" ∉ kind.optionalFields) :
    ∃ node, (ofMembers members path kind).schemaChild = .ok node := by
  obtain ⟨node, child⟩ := child_of_passes passes asked needed
  obtain ⟨v, held, loaded⟩ := child_eq_ok.mp child
  have schema := isSchema_iff.mpr (loadAt_kind (passes.names rfl v held) loaded)
  exact ⟨node, schemaChild_eq_ok.mpr ⟨child, schema⟩⟩

/-- A field before others is not refused, if what it holds is right. -/
theorem refusal?_of_passes (early : name ∈ kind.fields.dropLast)
    (passes : Passes kind name (Members.get? name members)) :
    (ofMembers members path kind).refusal? name = none := by
  cases kind with
  | nominal | constructor | sum | mapping | array | schema => cases early
  | constrained | intersection | enum =>
      obtain rfl := List.mem_singleton.mp early
      exact fault?_eq_none.mpr (child_of_passes passes (by decide) (by decide))
  | predicate =>
      obtain rfl := List.mem_singleton.mp early
      exact fault?_eq_none.mpr (field_of_passes passes (by decide))
  | aggregate =>
      obtain rfl := List.mem_singleton.mp early
      exact fault?_eq_none.mpr (schemaChild_of_passes passes (by decide) (by decide))
  | key =>
      rcases List.mem_cons.mp early with rfl | early
      · exact fault?_eq_none.mpr (field_of_passes passes (by decide))
      · obtain rfl := List.mem_singleton.mp early
        exact fault?_eq_none.mpr (child_of_passes passes (by decide) (by decide))

/-- What is loaded as the node of a field is right. -/
theorem passes_of_child (decoded : Value.membersAreDecoded members = true) {node : Node}
    (loaded : (ofMembers members path kind).child name = .ok node)
    (schema : name = "schema" → node.isSchema = true) :
    Passes kind name (Members.get? name members) := by
  obtain ⟨v, held, own⟩ := child_eq_ok.mp loaded
  have plain := Value.isDecoded_of_get? decoded held
  rw [held]
  refine ⟨nofun, fun _ w same => ?_, fun isSchema w same => ?_⟩
  · obtain rfl := Option.some.inj same
    exact tagged_of_loadAt v plain _ node own
  · obtain rfl := Option.some.inj same
    exact names_of_loadAt plain own (isSchema_iff.mp (schema isSchema))

theorem passes_of_field {v : Value} (read : (ofMembers members path kind).field name = .ok v)
    (plain : name ∉ kind.nodeFields) (other : name ≠ "schema") :
    Passes kind name (Members.get? name members) := by
  rw [field_eq_ok.mp read]
  exact ⟨nofun, fun asked => absurd asked plain, fun same => absurd same other⟩

/-- What a field before others holds is right, if it is not refused. -/
theorem passes_of_refusal? (decoded : Value.membersAreDecoded members = true)
    (early : name ∈ kind.fields.dropLast)
    (none : (ofMembers members path kind).refusal? name = none) :
    Passes kind name (Members.get? name members) := by
  cases kind with
  | nominal | constructor | sum | mapping | array | schema => cases early
  | constrained | intersection | enum =>
      obtain rfl := List.mem_singleton.mp early
      obtain ⟨node, loaded⟩ := fault?_eq_none.mp none
      exact passes_of_child decoded loaded fun same => absurd same (by decide)
  | predicate =>
      obtain rfl := List.mem_singleton.mp early
      obtain ⟨v, read⟩ := fault?_eq_none.mp none
      exact passes_of_field read (by decide) (by decide)
  | aggregate =>
      obtain rfl := List.mem_singleton.mp early
      obtain ⟨node, chosen⟩ := fault?_eq_none.mp none
      obtain ⟨loaded, schema⟩ := schemaChild_eq_ok.mp chosen
      exact passes_of_child decoded loaded fun _ => schema
  | key =>
      rcases List.mem_cons.mp early with rfl | early
      · obtain ⟨v, read⟩ := fault?_eq_none.mp none
        exact passes_of_field read (by decide) (by decide)
      · obtain rfl := List.mem_singleton.mp early
        obtain ⟨node, loaded⟩ := fault?_eq_none.mp none
        exact passes_of_child decoded loaded fun same => absurd same (by decide)

end Draft

end Node

end Draftsman
