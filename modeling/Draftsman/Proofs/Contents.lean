/-
# Draftsman.Proofs.Contents -- what the values in a document are

Operands, notes and names of fields pass from the nodes of a description into fragments, and
from fragments into others.  On its own a visit adds texts, and true as a mark.  So a property
that collections have exactly if their contents have it (`Inherited`) holds of all fragments, if
it holds of what the nodes bring with them (`Node.Brings`): `brought_kept`.

What an operand hands on to its items is handed on to what a document says of it
(`Carried.reading`).
-/
import Draftsman.Proofs.Annotations
import Draftsman.Proofs.Joining
import Draftsman.Proofs.Soundness

namespace Draftsman

set_option autoImplicit false

/-! ## Properties of contents -/

/-- A property of values and one of keys that collections have exactly if their contents have
them, and that what is added to documents has. -/
structure Inherited (fitKey fit : Value → Prop) : Prop extends Fragment.Hereditary fitKey fit where
  textKey : ∀ text, fitKey (.str text)
  text : ∀ text, fit (.str text)
  mark : fit (.bool true)

namespace Inherited

variable {fitKey fit : Value → Prop}

theorem ofKeywords (inherited : Inherited fitKey fit) {members : List (String × Value)}
    (each : ∀ member ∈ members, fit member.2) : fit (.dict (Fragment.ofKeywords members)) := by
  refine (inherited.dict _).mpr fun member held => ?_
  obtain ⟨own, there, rfl⟩ := List.mem_map.mp held
  exact ⟨inherited.textKey own.1, each own there⟩

theorem update (inherited : Inherited fitKey fit) {members others : Members}
    (fits : fit (.dict members)) (othersFit : fit (.dict others)) :
    fit (.dict (Members.update members others)) := by
  induction others generalizing members with
  | nil => exact fits
  | cons member rest ih =>
      obtain ⟨⟨keyFits, valueFits⟩, restFits⟩ :=
        List.forall_mem_cons.mp ((inherited.dict _).mp othersFit)
      exact ih (inherited.insert keyFits valueFits fits) ((inherited.dict _).mpr restFits)

theorem annotations (inherited : Inherited fitKey fit) {notes : Value}
    (each : ∀ {members name v}, notes = .dict members → Members.get? name members = some v → fit v)
    {names : List String} (different : names.Nodup) {own : Members}
    (picked : Draftsman.annotations names notes = some own) : fit (.dict own) := by
  refine (inherited.dict _).mpr fun member held => ?_
  obtain ⟨name, -, key, members, same, found⟩ := mem_annotations different picked held
  exact ⟨key ▸ inherited.textKey name, each same found⟩

theorem without (inherited : Inherited fitKey fit) {hoisted items left : Members}
    (fits : fit (.dict items)) (taken : hoisted.foldlM Node.withoutNote? items = some left) :
    fit (.dict left) := by
  induction hoisted generalizing items with
  | nil => exact Option.some.inj taken ▸ fits
  | cons note rest ih =>
      simp only [List.foldlM_cons, Option.bind_eq_bind, Option.bind_eq_some_iff] at taken
      obtain ⟨next, first, later⟩ := taken
      refine ih ?_ later
      simp only [Node.withoutNote?] at first
      split at first
      · cases first
      · obtain rfl := Option.some.inj first
        split
        · exact fits
        · exact (inherited.dict _).mpr fun member held =>
            (inherited.dict _).mp fits member (Members.mem_erase held)

theorem sum (inherited : Inherited fitKey fit) {topLevel : Bool} {results : List Members}
    (each : ∀ result ∈ results, fit (.dict result)) :
    fit (.dict (Node.sumFragment topLevel results)) := by
  have listed : fit (.dict (Fragment.ofKeywords [("anyOf", .list (results.map Value.dict))])) := by
    refine inherited.ofKeywords (List.forall_mem_singleton.mpr ?_)
    refine (inherited.list _).mpr fun item held => ?_
    obtain ⟨result, there, rfl⟩ := List.mem_map.mp held
    exact each result there
  rcases Node.sumFragment_cases topLevel results with
    only | ⟨-, result, held, marked⟩ | ⟨-, same⟩
  · exact each _ (only ▸ List.mem_singleton_self _)
  · rw [marked]
    exact inherited.insert (inherited.textKey _) inherited.mark (each result held)
  · rw [same]
    exact listed

end Inherited

/-! ## Operands -/

/-- A property that an operand hands on to its items, and to what a document says of it. -/
structure Carried (fit : Value → Prop) : Prop where
  null : fit .null
  int : ∀ n, fit (.int n)
  float : ∀ x, fit (.float x)
  text : ∀ s, fit (.str s)
  list : ∀ {items}, (∀ item ∈ items, fit item) → fit (.list items)
  exclusion : ∀ {items}, fit (.list items) →
    fit (.dict (Fragment.ofKeywords [("enum", .list items)]))
  /-- What is in a collection. -/
  inside : ∀ {items}, fit (.list items) ∨ fit (.tuple items) ∨ fit (.set items) →
    ∀ item ∈ items, fit item
  keys : ∀ {members}, fit (.dict members) → ∀ member ∈ members, fit member.1

namespace Carried

variable {fit : Value → Prop}

theorem number (carried : Carried fit) {operand v : Value} (fits : fit operand)
    (converted : Operand.toNumber operand = .ok v) : fit v := by
  cases operand with
  | decimal d =>
      simp only [Operand.toNumber, Operand.numberOfDecimal] at converted
      split at converted
      · exact Except.ok.inj converted ▸ carried.int _
      · exact Except.ok.inj converted ▸ carried.float _
      · cases converted
  | _ => exact Except.ok.inj converted ▸ fits

theorem numbers (carried : Carried fit) {items converted : List Value}
    (fits : ∀ item ∈ items, fit item) (done : Operand.toNumbers items = .ok converted) :
    ∀ item ∈ converted, fit item := by
  have each := Operand.toNumbers_eq_ok.mp done
  clear done
  induction each with
  | nil => simp
  | cons number _ ih =>
      obtain ⟨own, others⟩ := List.forall_mem_cons.mp fits
      exact List.forall_mem_cons.mpr ⟨carried.number own number, ih others⟩

theorem offered (carried : Carried fit) {operand : Value} {items : List Value} (fits : fit operand)
    (offered : operand.items? = some items) : ∀ item ∈ items, fit item := by
  have ofCharacters (text : String) :
      ∀ item ∈ text.toList.map fun c => Value.str (String.singleton c), fit item := by
    intro item held
    obtain ⟨c, -, rfl⟩ := List.mem_map.mp held
    exact carried.text _
  cases operand with
  | str s => exact Option.some.inj offered ▸ ofCharacters s
  | primitive p => exact Option.some.inj offered ▸ ofCharacters p.name
  | list own => exact Option.some.inj offered ▸ carried.inside (.inl fits)
  | tuple own => exact Option.some.inj offered ▸ carried.inside (.inr (.inl fits))
  | set own => exact Option.some.inj offered ▸ carried.inside (.inr (.inr fits))
  | dict members =>
      obtain rfl := Option.some.inj offered
      intro item held
      obtain ⟨member, there, rfl⟩ := List.mem_map.mp held
      exact carried.keys fits member there
  | _ => cases offered

theorem items (carried : Carried fit) {operand : Value} {converted : List Value}
    (fits : fit operand) (done : Operand.toItems operand = .ok converted) :
    fit (.list converted) := by
  simp only [Operand.toItems] at done
  split at done
  · rename_i items offered
    exact carried.list (carried.numbers (carried.offered fits offered) done)
  · cases done

/-- However it is read, an operand hands on what it has. -/
theorem reading (carried : Carried fit) {reading : Reading} {operand v : Value}
    (fits : fit operand) (applied : reading.apply operand = .ok v) : fit v := by
  cases reading with
  | typeName =>
      obtain rfl := Except.ok.inj applied
      cases operand.toPrimitive? with
      | none => exact carried.null
      | some p => exact carried.text _
  | integer =>
      obtain ⟨n, -, rfl⟩ := map_eq_ok.mp applied
      exact carried.int n
  | number => exact carried.number fits applied
  | patternText =>
      obtain ⟨text, -, rfl⟩ := map_eq_ok.mp applied
      exact carried.text text
  | items =>
      obtain ⟨items, done, rfl⟩ := map_eq_ok.mp applied
      exact carried.items fits done
  | exclusion =>
      obtain ⟨items, done, rfl⟩ := map_eq_ok.mp applied
      exact carried.exclusion (carried.items fits done)
  | fixed text => exact Except.ok.inj applied ▸ carried.text _

end Carried

namespace Node

/-! ## What nodes bring with them -/

/-- A node whose notes, operand and name are fit for the places that they come to.  Only a name
that can be a key comes to a place. -/
structure Brings (fitKey fit : Value → Prop) (node : Node) : Prop where
  note : ∀ {members name v}, node.notes = .dict members → Members.get? name members = some v →
    fit v
  operand : ∀ {name operand notes c v}, node = predicate name operand notes →
    name.text?.bind constraint? = some c → c.reading.apply operand = .ok v → fit v
  fieldName : ∀ {name type required notes}, node = key name type required notes →
    name.isKey = true → fitKey name ∧ fit name

variable {fitKey fit : Value → Prop}

/-- A field set whose names are fit, as keys and in the list of required ones. -/
structure Fields.NamesFit (fitKey fit : Value → Prop) (fields : Fields) : Prop where
  properties : ∀ property ∈ fields.properties, fitKey property.1
  required : ∀ name ∈ fields.required, fit name

theorem Fields.NamesFit.empty : Fields.NamesFit fitKey fit {} := ⟨by simp, by simp⟩

theorem Fields.NamesFit.add {fields next : Fields} {node : Node} {fragment : Members}
    (names : fields.NamesFit fitKey fit) (own : node.Brings fitKey fit)
    (added : fields.add node fragment = .ok next) : next.NamesFit fitKey fit := by
  obtain ⟨name, type, required, notes, rfl, keyed, properties, required'⟩ :=
    Fields.add_eq_ok added
  obtain ⟨keyFits, nameFits⟩ := own.fieldName rfl keyed
  constructor
  · rw [properties]
    intro property held
    rcases Members.mem_insert held with old | ⟨-, key | ⟨old, there, same⟩⟩
    · exact names.properties property old
    · exact key ▸ keyFits
    · exact same ▸ names.properties old there
  · rw [required']
    split
    · intro other held
      rcases addNew_cases fields.required name with same | ⟨same, -⟩
      · exact names.required other (same ▸ held)
      · rw [same] at held
        rcases List.mem_append.mp held with old | new
        · exact names.required other old
        · exact List.mem_singleton.mp new ▸ nameFits
    · exact names.required

theorem visitFields_namesFit {o : Options} {ctx : Context} {nodes : List Node}
    {found fields : Fields} (each : ∀ part ∈ partsOfEach nodes, part.Brings fitKey fit)
    (before : found.NamesFit fitKey fit) (visited : visitFields o ctx found nodes = .ok fields) :
    fields.NamesFit fitKey fit := by
  induction nodes generalizing found with
  | nil =>
      obtain rfl := Except.ok.inj visited
      exact before
  | cons node rest ih =>
      obtain ⟨first, others⟩ := List.forall_mem_append.mp each
      simp only [visitFields, bind_eq_ok] at visited
      obtain ⟨fragment, single, next, added, later⟩ := visited
      have own := first node (mem_parts_self (isNode_of_visit single))
      exact ih others (before.add own added) later

theorem visitKeys_namesFit {o : Options} {ctx : Context} {keys : Children} {fields : Fields}
    (each : ∀ part ∈ partsOfSlot keys, part.Brings fitKey fit)
    (visited : visitKeys o ctx keys = .ok fields) : fields.NamesFit fitKey fit := by
  cases keys with
  | nodes items => exact visitFields_namesFit each Fields.NamesFit.empty visited
  | value v =>
      simp only [visitKeys, bind_eq_ok, pure_eq_ok] at visited
      obtain ⟨-, -, -, -, rfl⟩ := visited
      exact Fields.NamesFit.empty

theorem fragment_fits (inherited : Inherited fitKey fit) {fields : Fields}
    (names : fields.NamesFit fitKey fit)
    (each : ∀ property ∈ fields.properties, ∃ fragment, property.2 = .dict fragment ∧
      fit (.dict fragment)) : fit (.dict fields.fragment) := by
  have properties : fit (.dict fields.properties) :=
    (inherited.dict _).mpr fun property held => by
      obtain ⟨fragment, same, fits⟩ := each property held
      exact ⟨names.properties property held, same ▸ fits⟩
  have required : fit (.list fields.required) := (inherited.list _).mpr names.required
  refine inherited.ofKeywords fun member held => ?_
  rcases List.mem_append.mp held with held | held
  · simp only [List.mem_cons, List.not_mem_nil, or_false] at held
    rcases held with rfl | rfl
    · exact inherited.text _
    · exact properties
  · split at held
    · cases held
    · obtain rfl := List.mem_singleton.mp held
      exact required

/-! ## Fragments -/

theorem typeMembers_fit (inherited : Inherited fitKey fit) (primitive : Value) :
    fit (.dict ((typeMembers? primitive).getD [])) := by
  refine (inherited.dict _).mpr fun member held => ?_
  cases found : primitive.toPrimitive? with
  | none => simp [typeMembers?, found] at held
  | some p =>
      rw [typeMembers?, found, Option.map_some, Option.getD_some] at held
      obtain ⟨own, -, rfl⟩ := List.mem_map.mp held
      exact ⟨inherited.textKey own.1, inherited.text own.2⟩

theorem objectReference_fits (inherited : Inherited fitKey fit) {ref : Value} (fits : fit ref)
    (inArray : Bool) : fit (.dict (objectReference inArray ref)) := by
  cases inArray with
  | true => exact inherited.ofKeywords (List.forall_mem_singleton.mpr fits)
  | false =>
      refine inherited.ofKeywords (List.forall_mem_cons.mpr ⟨inherited.text _, ?_⟩)
      exact List.forall_mem_singleton.mpr fits

/-- Every way in which a visit makes a fragment hands on what the nodes bring with them. -/
theorem brought_kept (inherited : Inherited fitKey fit) (o : Options) :
    Kept o (Brings fitKey fit) fun _ fragment => fit (.dict fragment) where
  nominal _ primitive := typeMembers_fit inherited primitive
  predicate {ctx name operand notes fragment} brings emitted := by
    rcases predicateFragment_cases emitted with rfl | ⟨own, c, v, named, listed, applied, -, rfl⟩
    · exact (inherited.dict _).mpr (by simp)
    · refine inherited.ofKeywords (List.forall_mem_singleton.mpr ?_)
      -- a renamed predicate reads its operand as the one that is named
      have same := lookupName_reading ctx.leftType name
      rw [named, Option.bind_some, listed, Option.map_some, eq_comm, Option.map_eq_some_iff] at same
      obtain ⟨other, found, alike⟩ := same
      exact brings.operand rfl found (alike ▸ applied)
  object _ := inherited.ofKeywords (List.forall_mem_singleton.mpr (inherited.text _))
  wrapped fits := fits
  field _ fits := fits
  joined base extra joins := inherited.merge base extra joins
  sum _ _ each := inherited.sum each
  reference {node ref} _ inArray brings found other := by
    obtain ⟨members, notes, same⟩ := noteOr?_eq_some found
    refine objectReference_fits inherited ?_ inArray
    cases there : Members.get? "$ref" members with
    | none =>
        rw [there, Option.getD_none] at same
        rw [← same] at other
        cases other
    | some v =>
        rw [there, Option.getD_some] at same
        exact same ▸ brings.note notes there
  array {ctx member items fragment} brings fits built := by
    simp only [arrayFragment, bind_eq_ok, typed_eq_ok, decided_eq_ok, pure_eq_ok] at built
    obtain ⟨hoisted, picked, left, taken, rfl⟩ := built
    refine inherited.update (inherited.ofKeywords ?_)
      (inherited.annotations brings.note (by decide) picked)
    refine List.forall_mem_cons.mpr ⟨inherited.text _, List.forall_mem_singleton.mpr ?_⟩
    exact inherited.without fits taken
  schema {ctx keys notes fields} brings listed each := by
    refine fragment_fits inherited
      (visitKeys_namesFit (List.forall_mem_cons.mp brings).2 listed) fun property held => ?_
    obtain ⟨fragment, same, _, _, _, _, -, fits⟩ := each property held
    exact ⟨fragment, same, fits⟩
  noted brings fits noted := by
    obtain ⟨own, picked, rfl⟩ := Option.map_eq_some_iff.mp noted
    exact inherited.update fits (inherited.annotations brings.note (by decide) picked)

/-- A document has what its description brings with it. -/
theorem compile_brought (inherited : Inherited fitKey fit) {o : Options} {node : Node}
    {document : Members} (brings : ∀ part ∈ node.parts, part.Brings fitKey fit)
    (compiled : node.compile o = .ok document) : fit (.dict document) := by
  simp only [compile, bind_eq_ok, pure_eq_ok] at compiled
  obtain ⟨fragment, visited, rfl⟩ := compiled
  have fits := (brought_kept inherited o).visit Context.Within.root brings visited
  split
  · exact inherited.insert (inherited.textKey _) (inherited.text _) fits
  · exact fits

end Node

end Draftsman
