/-
# Draftsman.Proofs.Assembly -- field sets with repeated names

A field set is gathered from its fields one after the other, in two lists with different rules.  A
field whose name has come up before replaces the fragment of the earlier one, in the earlier one's
place.  A name is required once, from the first field on that requires it, and stays so whatever
later fields of the name say.

`Gathered` says what the two lists are, however the fields repeat: it holds before the first field,
and each field that is added keeps it (`Gathered.add`).  So the fragment of a field set is known
from its fields and their fragments alone (`visit_fieldSet`).
-/
import Draftsman.Proofs.FieldSets
import Draftsman.Proofs.Overlays

namespace Draftsman

set_option autoImplicit false

open Value Members

/-- A text at the end of a list is new to it, or does not count. -/
theorem eraseDups_concat (texts : List String) (text : String) :
    (texts ++ [text]).eraseDups =
      if text ∈ texts then texts.eraseDups else texts.eraseDups ++ [text] := by
  rw [List.eraseDups_append, List.removeAll]
  by_cases held : text ∈ texts
  · simp [held]
  · simp [held, List.eraseDups_cons]

namespace Node

/-! ## What is gathered -/

def fieldName? (node : Node) : Option String := node.name?.bind Value.text?

def isRequired (node : Node) : Bool := (node.required?.map Value.truthy).getD false

def lastFragment? (name : String) (taken : List (Node × Members)) : Option Members :=
  ((taken.filter fun field => field.1.fieldName? == some name).getLast?).map Prod.snd

/-- What some fields with their fragments come to. -/
structure Gathered (taken : List (Node × Members)) (fields : Fields) : Prop where
  named : fields.properties.Named
  /-- Every name stands once, in the order in which the names first come. -/
  names : fields.properties.names = (fieldNames (taken.map Prod.fst)).eraseDups
  /-- Under a name stands the fragment of the last field of the name. -/
  last : ∀ name, get? name fields.properties = (lastFragment? name taken).map Value.dict
  /-- The names of the required fields stand once each, in the order in which these first come. -/
  required : fields.required.map Value.text? =
    (fieldNames ((taken.map Prod.fst).filter isRequired)).eraseDups.map some

theorem fieldNames_append (nodes others : List Node) :
    fieldNames (nodes ++ others) = fieldNames nodes ++ fieldNames others :=
  List.filterMap_append

theorem lastFragment?_append (name : String) (taken : List (Node × Members)) (node : Node)
    (fragment : Members) :
    lastFragment? name (taken ++ [(node, fragment)]) =
      if node.fieldName? = some name then some fragment else lastFragment? name taken := by
  by_cases own : node.fieldName? = some name
  · simp [lastFragment?, List.filter_append, own]
  · simp [lastFragment?, List.filter_append, own]

theorem Gathered.empty : Gathered [] {} where
  named := Members.Named.nil
  names := rfl
  last _ := rfl
  required := rfl

/-- A name is among the required ones if its text is among theirs. -/
theorem Gathered.any_required {taken : List (Node × Members)} {fields : Fields}
    (gathered : Gathered taken fields) {name : Value} {own : String}
    (text : name.text? = some own) :
    fields.required.any (Value.equal · name) = true ↔
      own ∈ fieldNames ((taken.map Prod.fst).filter isRequired) := by
  have listed : some own ∈ fields.required.map Value.text? ↔
      own ∈ fieldNames ((taken.map Prod.fst).filter isRequired) := by
    rw [gathered.required]
    simp
  have texts : ∀ other ∈ fields.required, other.text?.isSome = true := by
    intro other held
    have there := List.mem_map_of_mem (f := Value.text?) held
    rw [gathered.required] at there
    obtain ⟨found, -, same⟩ := List.mem_map.mp there
    rw [← same]
    rfl
  rw [List.any_eq_true, ← listed, List.mem_map]
  refine exists_congr fun other => and_congr_right fun held => ?_
  obtain ⟨found, known⟩ := Option.isSome_iff_exists.mp (texts other held)
  rw [equal_of_text? known, text, known, beq_iff_eq]
  exact eq_comm

/-- A field more: its fragment goes to its name, and its name to the required ones if it is
required. -/
theorem Gathered.add {taken : List (Node × Members)} {fields : Fields}
    (gathered : Gathered taken fields) {node : Node} (known : node.isNamedKey = true)
    (fragment : Members) :
    ∃ next, fields.add node fragment = .ok next ∧ Gathered (taken ++ [(node, fragment)]) next := by
  obtain ⟨name, type, required, notes, own, rfl, text⟩ := exists_key_of_isNamedKey known
  refine ⟨_, add_key text fields type required notes fragment, ?_⟩
  have single : fieldNames [key name type required notes] = [own] := by
    simp [fieldNames, name?, text]
  have ownName : (key name type required notes).fieldName? = some own := text
  refine ⟨gathered.named.insert text _, ?_, fun other => ?_, ?_⟩
  · have there : own ∈ fields.properties.names ↔ own ∈ fieldNames (taken.map Prod.fst) := by
      rw [gathered.names, List.mem_eraseDups]
    rw [List.map_append, List.map_singleton, fieldNames_append, single, eraseDups_concat,
      names_insert text, gathered.names]
    simp only [List.mem_eraseDups]
  · rw [get?_insert text, lastFragment?_append, ownName, gathered.last]
    by_cases same : own = other
    · simp [same]
    · simp [same]
  · rw [List.map_append, List.map_singleton, List.filter_append, fieldNames_append]
    by_cases demanded : required.truthy = true
    · have kept : [key name type required notes].filter isRequired =
          [key name type required notes] := by
        simp [isRequired, required?, demanded]
      rw [kept, single, eraseDups_concat, if_pos demanded, addNew]
      simp only [gathered.any_required text]
      split
      · exact gathered.required
      · simp [gathered.required, text]
    · have dropped : [key name type required notes].filter isRequired = [] := by
        simp [isRequired, required?, demanded]
      rw [dropped, if_neg demanded]
      simpa [fieldNames] using gathered.required

/-! ## Visiting field after field -/

/-- Fields are visited in order, and the first that fails decides; if none does, they are gathered
with their fragments. -/
theorem visitFields_gathers (o : Options) (ctx : Context) {nodes : List Node}
    (known : ∀ node ∈ nodes, node.isNamedKey = true) {taken : List (Node × Members)}
    {found : Fields} (gathered : Gathered taken found) :
    Agree (fun fields fragments => Gathered (taken ++ nodes.zip fragments) fields)
      (visitFields o ctx found nodes) (nodes.mapM (visit o ctx)) := by
  induction nodes generalizing taken found with
  | nil =>
      rw [visitFields, List.mapM_nil]
      exact .ok (by simpa using gathered)
  | cons node rest ih =>
      obtain ⟨own, others⟩ := List.forall_mem_cons.mp known
      rw [visitFields, List.mapM_cons]
      refine (Agree.same (visit o ctx node)).bind fun {_ fragment} same => ?_
      subst same
      obtain ⟨next, added, gathered⟩ := gathered.add own fragment
      have later : Agree (fun fields fragments =>
            Gathered (taken ++ (node :: rest).zip fragments) fields)
          (visitFields o ctx next rest >>= pure)
          (rest.mapM (visit o ctx) >>= fun fragments => pure (fragment :: fragments)) :=
        (ih others gathered).bind fun {fields fragments} gathered =>
          .ok (by simpa using gathered)
      rw [bind_pure] at later
      rw [added]
      exact later

/-! ## Field sets -/

/-- The fragment of a field set with notes of its own, from its fields and their fragments. -/
def Assembled (own : Members) (keys : List Node) (whole : Members) (fragments : List Members) :
    Prop :=
  ∃ fields : Fields, Gathered (keys.zip fragments) fields ∧
    whole = update (Fragment.ofKeywords
      ([("type", .str "object"), ("properties", .dict fields.properties)] ++
        if fields.required = [] then [] else [("required", .list fields.required)]))
      (pickedNotes annotationNames own)

/-- Where no reference is in force, a field set compiles exactly where all of its fields do; its
fragment has the last fragment of each name, and the names that are required, each once. -/
theorem visit_fieldSet (o : Options) {ctx : Context} {own : Members} {keys : List Node}
    (known : ∀ key ∈ keys, key.isNamedKey = true)
    (inlining : reference (.dict own) ctx.keyNotes = .ok .null) :
    Agree (Assembled own keys) (visit o ctx (schema (.nodes keys) (.dict own)))
      (o.allow ctx.depth >>= fun _ => keys.mapM (visit o ctx.inner)) := by
  rw [visit]
  refine (Agree.same (o.allow ctx.depth)).bind fun _ => ?_
  have fields := visitFields_gathers o ctx.inner known Gathered.empty
  have finished : Agree (Assembled own keys)
      (visitFields o ctx.inner {} keys >>= fun fields => finish (.dict own) fields.fragment)
      (keys.mapM (visit o ctx.inner) >>= pure) := by
    refine fields.bind fun {fields fragments} gathered => ?_
    rw [finish_dict]
    refine .ok ⟨fields, by simpa using gathered, ?_⟩
    simp only [Fields.fragment, List.isEmpty_iff]
  rw [bind_pure] at finished
  simp only [inlining, bind, Except.bind, isNull, if_true]
  exact finished

/-- Fields of two names, each of which comes up twice. -/
def stayKeys : List Node :=
  [plainKey "until" .date false, plainKey "from" .string true, plainKey "until" .datetime true,
    plainKey "from" .date false]

/-- The last fields of the names tell their fragments, and the first ones their places; both names
are required, in the order in which they first are. -/
theorem visit_fieldSet_stay :
    (∀ key ∈ stayKeys, key.isNamedKey = true) ∧
      reference (.dict []) Context.root.keyNotes = .ok .null ∧
      ∃ whole fragments, stayKeys.mapM (visit {} Context.root.inner) = .ok fragments ∧
        visit {} Context.root (schema (.nodes stayKeys) (.dict [])) = .ok whole ∧
        Assembled [] stayKeys whole fragments ∧
        whole = Members.named [("type", .str "object"),
          ("properties", .dict (Members.named [
            ("until", .dict (Members.named
              [("type", .str "string"), ("format", .str "date-time")])),
            ("from", .dict (Members.named [("type", .str "string"), ("format", .str "date")]))])),
          ("required", .list [.str "from", .str "until"])] := by
  have known : ∀ key ∈ stayKeys, key.isNamedKey = true := by decide
  have inlining : reference (.dict []) Context.root.keyNotes = .ok .null := rfl
  refine ⟨known, inlining, ?_⟩
  have agree := visit_fieldSet {} known inlining
  cases agree with
  | ok assembled => exact ⟨_, _, rfl, rfl, assembled, rfl⟩

end Node

end Draftsman
