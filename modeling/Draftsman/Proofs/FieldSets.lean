/-
# Draftsman.Proofs.FieldSets -- field sets joined

A field set is gathered field by field.  Fields of other names than those gathered so far do not
touch them, so a field set that starts with some fields is these fields followed by what it would be
without them (`visitFields_after`).  Joining two finished field sets without a common name comes to
the same: their properties and their required names one after the other (`merge?_fields`).

So two field sets intersected are the field set of all their fields (`visit_intersection_fields`).
A name may come up several times in one of them, and need not be required.
-/
import Draftsman.Proofs.Idempotence
import Draftsman.Proofs.Surroundings

namespace Draftsman

set_option autoImplicit false

open Value Members

/-! ## Dictionaries without a common name -/

namespace Members

/-- Writing a name that the first members do not have leaves them in front. -/
theorem insert_append {key : Value} {name : String} (text : key.text? = some name) (value : Value)
    {first : Members} (fresh : name ∉ first.names) (second : Members) :
    insert key value (first ++ second) = first ++ insert key value second := by
  induction first with
  | nil => rfl
  | cons member rest ih =>
      have differ : ¬key.equal member.1 = true := fun same => by
        rw [equal_of_text? text, beq_iff_eq] at same
        exact fresh (mem_names.mpr ⟨member, List.mem_cons_self, same⟩)
      have later : name ∉ names rest := fun held => by
        obtain ⟨other, there, same⟩ := mem_names.mp held
        exact fresh (mem_names.mpr ⟨other, List.mem_cons_of_mem _ there, same⟩)
      rw [List.cons_append, insert, if_neg differ, ih later, List.cons_append]

end Members

/-- Dictionaries without a common name are joined one after the other. -/
theorem Fragment.merge?_of_disjoint {left right : Members} (named : right.Named)
    (apart : List.Disjoint left.names right.names) : merge? left right = some (left ++ right) := by
  induction right generalizing left with
  | nil => simp [merge?]
  | cons member rest ih =>
      obtain ⟨name, text, fresh⟩ := named.head
      rw [names_cons_of_text text, List.disjoint_cons_right] at apart
      have absent : lookup member.1 left = none := by
        rw [lookup_of_text? text]
        exact get?_eq_none_iff.mpr apart.1
      refine merge?_cons.mpr ⟨member.2, by rw [absent, join?_none], ?_⟩
      have single : names [(member.1, member.2)] = [name] := names_cons_of_text text []
      rw [insert_of_fresh text _ apart.1, ih named.tail, List.append_assoc]
      · rfl
      · rw [names_append, single]
        exact List.disjoint_append_left.mpr ⟨apart.2, by simpa using fresh⟩

/-- Values that differ and can be compared are all kept. -/
theorem unique?_of_different {items : List Value} (quiet : ∀ item ∈ items, item.isQuiet = true)
    (different : Different items) : unique? items = some items := by
  have apart : ([] ++ items).Pairwise fun a b => Value.same? a b = some false :=
    different.imp_of_mem fun held held' differ => by
      rw [same?_of_quiet (quiet _ held) (quiet _ held'), differ]
  exact foldlM_of_apart apart

namespace Node

variable {o : Options} {ctx : Context} {first second found fields : Fields}

/-! ## Field sets one after the other -/

def Fields.append (first second : Fields) : Fields :=
  ⟨first.properties ++ second.properties, first.required ++ second.required⟩

theorem Fields.append_empty (fields : Fields) : fields.append {} = fields := by
  simp [append]

def isNamedKey : Node → Bool
  | key name _ _ _ => name.text?.isSome
  | _ => false

def fieldNames (nodes : List Node) : List String :=
  nodes.filterMap fun node => node.name?.bind Value.text?

theorem exists_key_of_isNamedKey {node : Node} (known : node.isNamedKey = true) :
    ∃ name type required notes own, node = key name type required notes ∧ name.text? = some own := by
  cases node with
  | key name type required notes =>
      obtain ⟨own, text⟩ := Option.isSome_iff_exists.mp known
      exact ⟨name, type, required, notes, own, rfl, text⟩
  | _ => cases known

theorem isKey_of_isNamedKey {node : Node} (known : node.isNamedKey = true) : node.isKey = true := by
  obtain ⟨_, _, _, _, _, rfl, -⟩ := exists_key_of_isNamedKey known
  rfl

/-- A field with a text for its name is always taken. -/
theorem add_key {name : Value} {own : String} (text : name.text? = some own) (fields : Fields)
    (type : Node) (required notes : Value) (fragment : Members) :
    fields.add (key name type required notes) fragment =
      .ok ⟨Members.insert name (.dict fragment) fields.properties,
        if required.truthy then addNew Value.equal fields.required name else fields.required⟩ := by
  simp [Fields.add, name?, required?, present, isKey_of_text? text, bind, Except.bind, pure,
    Except.pure]

/-- Fields of other names leave those in front of them as they are. -/
theorem Fields.Good.append_add (good : found.Good) {node : Node} (known : node.isNamedKey = true)
    (apart : ∀ name ∈ fieldNames [node], name ∉ found.properties.names) (fragment : Members) :
    (found.append fields).add node fragment = (fields.add node fragment).map found.append := by
  obtain ⟨name, type, required, notes, own, rfl, text⟩ := exists_key_of_isNamedKey known
  have fresh : own ∉ found.properties.names := apart own (by simp [fieldNames, name?, text])
  have unlisted : found.required.any (Value.equal · name) = false := by
    refine List.any_eq_false.mpr fun other held same => ?_
    obtain ⟨listed, text', there⟩ := good.listed other held
    rw [equal_of_text? text', text, beq_iff_eq] at same
    exact fresh (Option.some.inj same ▸ there)
  have required' : addNew Value.equal (found.required ++ fields.required) name =
      found.required ++ addNew Value.equal fields.required name := by
    rw [addNew, addNew, List.any_append, unlisted, Bool.false_or]
    split
    · rfl
    · rw [List.append_assoc]
  rw [add_key text, add_key text, append, insert_append text _ fresh, required']
  cases required.truthy <;> rfl

/-- Some fields, added to others of which none has the name of one of them. -/
theorem visitFields_onto (good : found.Good) {nodes : List Node}
    (known : ∀ node ∈ nodes, node.isNamedKey = true)
    (apart : List.Disjoint found.properties.names (fieldNames nodes)) (fields : Fields) :
    visitFields o ctx (found.append fields) nodes =
      visitFields o ctx fields nodes >>= fun next => .ok (found.append next) := by
  induction nodes generalizing fields with
  | nil => rfl
  | cons node rest ih =>
      obtain ⟨own, others⟩ := List.forall_mem_cons.mp known
      have split : fieldNames (node :: rest) = fieldNames [node] ++ fieldNames rest :=
        List.filterMap_append (l := [node])
      rw [split, List.disjoint_append_right] at apart
      rw [visitFields, visitFields]
      cases visit o ctx node with
      | error fault => rfl
      | ok fragment =>
          simp only [bind, Except.bind, good.append_add own fun name held there => apart.1 there held]
          cases added : fields.add node fragment with
          | error fault => rfl
          | ok next => exact ih others apart.2 next

/-- Fields after others of which none has the name of one of them. -/
theorem visitFields_after (good : found.Good) {nodes : List Node}
    (known : ∀ node ∈ nodes, node.isNamedKey = true)
    (apart : List.Disjoint found.properties.names (fieldNames nodes)) :
    visitFields o ctx found nodes =
      visitFields o ctx {} nodes >>= fun next => .ok (found.append next) := by
  rw [← visitFields_onto good known apart {}, Fields.append_empty]

/-- The properties gathered have the names of the fields. -/
theorem names_of_visitFields {nodes : List Node} (known : ∀ node ∈ nodes, node.isNamedKey = true)
    (visited : visitFields o ctx found nodes = .ok fields) :
    ∀ name ∈ fields.properties.names, name ∈ found.properties.names ++ fieldNames nodes := by
  induction nodes generalizing found with
  | nil =>
      obtain rfl := Except.ok.inj visited
      exact fun name held => List.mem_append_left _ held
  | cons node rest ih =>
      obtain ⟨first, others⟩ := List.forall_mem_cons.mp known
      obtain ⟨name, type, required, notes, own, rfl, text⟩ := exists_key_of_isNamedKey first
      simp only [visitFields, bind_eq_ok, add_key text, Except.ok.injEq] at visited
      obtain ⟨fragment, -, _, rfl, later⟩ := visited
      intro other held
      have names : fieldNames (key name type required notes :: rest) = own :: fieldNames rest := by
        simp [fieldNames, name?, text]
      rw [names]
      rcases List.mem_append.mp (ih others later other held) with here | there
      · rw [names_insert text] at here
        split at here
        · exact List.mem_append_left _ here
        · simpa [or_assoc] using Or.inl (List.mem_append.mp here)
      · simp [there]

theorem good_of_visitFields {nodes : List Node} (known : ∀ node ∈ nodes, node.isNamedKey = true)
    (visited : visitFields o ctx {} nodes = .ok fields) : fields.Good :=
  visitFields_good .empty (fun _ _ _ _ held => known _ held) visited

/-! ## Joining -/

/-- The names that two field sets require differ, if no field of one has the name of a field of the
other. -/
theorem Fields.Good.different_append (good : first.Good) (good' : second.Good)
    (apart : List.Disjoint first.properties.names second.properties.names) :
    Different (first.required ++ second.required) := by
  refine List.pairwise_append.mpr ⟨good.different, good'.different, fun own held other held' => ?_⟩
  obtain ⟨name, text, there⟩ := good.listed own held
  obtain ⟨name', text', there'⟩ := good'.listed other held'
  refine equalApart_of_not_equal ?_
  rw [equal_of_text? text, text', beq_eq_false_iff_ne]
  exact fun same => apart there (Option.some.inj same ▸ there')

theorem Fields.Good.required_quiet (good : fields.Good) :
    ∀ name ∈ fields.required, name.isQuiet = true := by
  intro name held
  obtain ⟨own, text, -⟩ := good.listed name held
  exact isQuiet_of_text? (text ▸ rfl)

/-- Field sets without a common name are joined one after the other. -/
theorem merge?_fields (good : first.Good) (good' : second.Good)
    (apart : List.Disjoint first.properties.names second.properties.names) :
    Fragment.merge? first.fragment second.fragment = some (first.append second).fragment := by
  have joined := Fragment.merge?_of_disjoint good'.named apart
  have quiet := List.forall_mem_append.mpr ⟨good.required_quiet, good'.required_quiet⟩
  have kept := unique?_of_different quiet (good.different_append good' apart)
  -- there are two lists to join only if both field sets require something
  by_cases none : first.required = [] <;> by_cases none' : second.required = [] <;>
    simp [Fields.fragment, Fields.append, Fragment.ofKeywords, named, Fragment.merge?,
      Fragment.join?, lookup, Members.insert, equal_str_left, text?, none, none', joined, kept]

/-! ## Intersections -/

/-- A field set without notes, where no reference is in force. -/
theorem visit_bareFieldSet (inlining : ctx.Inlining) (keys : List Node) :
    visit o ctx (schema (.nodes keys) (.dict [])) = (do
      o.allow ctx.depth
      let fields ← visitFields o ctx.inner {} keys
      .ok fields.fragment) := by
  have own : refers (.dict []) (.dict []) = false := rfl
  simp only [visit, unlessReferred_inlining own inlining, visitKeys]
  rfl

/-- Two field sets without a common name, intersected, are the field set of the fields of both. -/
theorem visit_intersection_fields (o : Options) {left right : List Node}
    (known : ∀ node ∈ left ++ right, node.isNamedKey = true)
    (apart : List.Disjoint (fieldNames left) (fieldNames right)) (inlining : ctx.Inlining)
    (unbounded : Unbounded (visit o ctx (intersection (schema (.nodes left) (.dict []))
      (schema (.nodes right) (.dict [])) (.dict []))))
    (unbounded' : Unbounded (visit o ctx (schema (.nodes (left ++ right)) (.dict [])))) :
    visit o ctx (intersection (schema (.nodes left) (.dict [])) (schema (.nodes right) (.dict []))
        (.dict [])) =
      visit o ctx (schema (.nodes (left ++ right)) (.dict [])) := by
  obtain ⟨leftKnown, rightKnown⟩ := List.forall_mem_append.mp known
  have fields {keys : List Node} (named : ∀ node ∈ keys, node.isNamedKey = true) :
      ∀ node ∈ keys, node.isKey = true := fun node held => isKey_of_isNamedKey (named node held)
  have typed : rightOf ctx (schema (.nodes left) (.dict [])) = ctx.ruleFor (.primitive .dict) := rfl
  suffices agree : AgreeUnstopped _ _ from agree unbounded unbounded'
  rw [visit_intersection, typed, visit_bareFieldSet inlining, visit_bareFieldSet inlining.inner,
    visit_bareFieldSet (inlining.ruleFor _), visitFields_append]
  simp only [bind_assoc]
  refine (AgreeUnstopped.refl _).bind_ok fun _ entered => .enter entered ?_ _
  refine (visitFields_elsewhere (fields leftKnown) {}).bind_ok fun first visited => ?_
  have names := names_of_visitFields leftKnown visited
  have around : List.Disjoint first.properties.names (fieldNames right) :=
    fun name held => apart (names name held)
  have good := good_of_visitFields leftKnown visited
  rw [visitFields_after good rightKnown around, bind_assoc]
  refine .enter entered ?_ _
  refine (visitFields_elsewhere (fields rightKnown) {}).bind_ok fun second visited' => ?_
  have joined := merge?_fields good (good_of_visitFields rightKnown visited')
    fun name held held' => around held (names_of_visitFields rightKnown visited' name held')
  simp only [joined, decided, bind, Except.bind]
  exact .refl _

def plainKey (name : String) (primitive : Primitive) (required : Bool) : Node :=
  key (.str name) (nominal (.primitive primitive) (.dict [])) (.bool required) (.dict [])

def nameKeys : List Node :=
  [plainKey "given" .string true, plainKey "family" .string false, plainKey "given" .string false]

def ageKeys : List Node := [plainKey "years" .integer false, plainKey "months" .integer false]

theorem visit_intersection_fields_person :
    visit {} Context.root.element (intersection (schema (.nodes nameKeys) (.dict []))
        (schema (.nodes ageKeys) (.dict [])) (.dict [])) =
      visit {} Context.root.element (schema (.nodes (nameKeys ++ ageKeys)) (.dict [])) :=
  visit_intersection_fields {} (by decide)
    (by simp [nameKeys, ageKeys, plainKey, fieldNames, name?, text?])
    Context.Inlining.root.element (.ok _) (.ok _)

/-- Where both have a field of one name, the two are joined. -/
example :
    visit {} Context.root (intersection (schema (.nodes [plainKey "age" .integer true]) (.dict []))
        (schema (.nodes [plainKey "age" .date true]) (.dict [])) (.dict [])) =
      .ok (Fragment.ofKeywords [("type", .str "object"),
        ("properties", .dict (Members.named [("age",
          .dict (Fragment.ofKeywords [("type", .str "string"), ("format", .str "date")]))])),
        ("required", .list [.str "age"])]) := rfl

end Node

end Draftsman
