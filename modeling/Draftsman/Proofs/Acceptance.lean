/-
# Draftsman.Proofs.Acceptance -- compiled documents are schemas of draft 06

A keyword is clean when its value has a JSON text and the draft has no objection to what
the text reads back as (`Clean`).  A dictionary of clean keywords is a schema
(`accepted_of_clean`).  In a fragment of which every position is good, with clean plain
keywords, the others are clean as well, position by position from the inside out
(`clean_of_sound`).
-/
import Draftsman.Proofs.Settling
import Draftsman.Proofs.Soundness

namespace Draftsman

set_option autoImplicit false

namespace Draft06

/-! ## Faults, keyword by keyword -/

def ruleFaults (rule : Rule) (v : Value) : List Fault :=
  match rule with
  | .schema => faults v
  | .schemas => schemasFaults v
  | .schemaOrSchemas => either (faults v) (schemasFaults v)
  | .schemaMap => mapFaults v
  | .sourceMap => mapFaults v ++ demandSources v.members
  | .dependencies => dependenciesFaults v
  | rule => leafFaults rule v

theorem memberFaults_cons (name : String) (v : Value) (rest : List (Value × Value)) :
    memberFaults ((.str name, v) :: rest) =
      match keywordRules.lookup name with
      | none => memberFaults rest
      | some rule => (name, ruleFaults rule v) :: memberFaults rest := by
  rw [memberFaults]
  cases keywordRules.lookup name with
  | none => rfl
  | some rule => cases rule <;> rfl

/-- A value under a keyword to which there is no objection. -/
def Allowed (name : String) (v : Value) : Prop :=
  ∀ rule, keywordRules.lookup name = some rule → ruleFaults rule v = []

theorem lookup_eq_nil {found : List (String × List Fault)} (clean : ∀ entry ∈ found, entry.2 = [])
    (name : String) : (found.lookup name).getD [] = [] := by
  cases there : found.lookup name with
  | none => rfl
  | some faults =>
      obtain ⟨before, after, whole, -⟩ := List.lookup_eq_some_iff.mp there
      exact clean (name, faults) (by rw [whole]; simp)

/-- A dictionary with names for keys is a schema if there is no objection to any member. -/
theorem faults_dict {members : Members}
    (allowed : ∀ member ∈ members, ∃ name, member.1 = .str name ∧ Allowed name member.2) :
    faults (.dict members) = [] := by
  have clean : ∀ entry ∈ memberFaults members, entry.2 = [] := by
    induction members with
    | nil => simp [memberFaults]
    | cons member rest ih =>
        obtain ⟨⟨name, key, own⟩, others⟩ := List.forall_mem_cons.mp allowed
        obtain ⟨first, v⟩ := member
        subst key
        rw [memberFaults_cons]
        cases ruled : keywordRules.lookup name with
        | none => exact ih others
        | some rule => exact List.forall_mem_cons.mpr ⟨own rule ruled, ih others⟩
  rw [faults, inOrder]
  exact List.flatMap_eq_nil_iff.mpr fun keyword _ => lookup_eq_nil clean keyword.1

theorem eachFaults_eq_nil {items : List Value} (each : ∀ item ∈ items, faults item = []) :
    eachFaults items = [] := by
  induction items with
  | nil => rfl
  | cons item rest ih =>
      obtain ⟨own, others⟩ := List.forall_mem_cons.mp each
      simp [eachFaults, own, ih others]

theorem valuesFaults_eq_nil {members : List (Value × Value)}
    (each : ∀ member ∈ members, faults member.2 = []) : valuesFaults members = [] := by
  induction members with
  | nil => rfl
  | cons member rest ih =>
      obtain ⟨own, others⟩ := List.forall_mem_cons.mp each
      simp [valuesFaults, own, ih others]

theorem texts?_map_str (texts : List String) : texts? (texts.map Value.str) = some texts := by
  induction texts with
  | nil => rfl
  | cons text rest ih => simp [texts?, ih]

/-! ## Clean keywords -/

/-- A value that has a JSON text, to which there is no objection under a keyword. -/
def Clean (name : String) (v : Value) : Prop :=
  ∃ settled, Json.settle v = .ok settled ∧ Allowed name settled

/-- The rules for plain keywords. -/
theorem rule_of_plain {name : String} (listed : name ∈ Document.plainKeywords) {rule : Rule}
    (ruled : keywordRules.lookup name = some rule) :
    rule = .text ∨ rule = .number ∨ rule = .count ∨ rule = .array := by
  have each : ∀ name ∈ Document.plainKeywords, ∀ rule ∈ keywordRules.lookup name,
      rule = .text ∨ rule = .number ∨ rule = .count ∨ rule = .array := by decide
  exact each name listed rule ruled

/-- Joining the values of a plain keyword keeps them clean. -/
theorem Clean.join {name : String} {old new both : Value}
    (listed : name ∈ Document.plainKeywords) (present : Clean name old)
    (incoming : Clean name new) (done : Fragment.join? (some old) new = some both) :
    Clean name both := by
  have writable : Json.Writable both :=
    Json.writable_hereditary.join (fun there same => by
      obtain rfl := Option.some.inj same
      exact present.imp fun _ own => own.1) (incoming.imp fun _ own => own.1) done
  obtain ⟨whole, settled⟩ := writable
  obtain ⟨read, readSettled, allowed⟩ := incoming
  rcases Fragment.join?_cases done with
    ⟨left, right, merged, -, rfl, -, rfl⟩ | ⟨left, right, kept, -, rfl, -, rfl⟩ | rfl
  · -- no rule for plain keywords allows a dictionary
    simp only [Json.settle, bind_eq_ok, pure_eq_ok] at readSettled
    obtain ⟨members, -, rfl⟩ := readSettled
    refine ⟨whole, settled, fun rule ruled => ?_⟩
    have objection := allowed rule ruled
    rcases rule_of_plain listed ruled with rfl | rfl | rfl | rfl <;> cases objection
  · -- the only one that allows a list allows any
    simp only [Json.settle, bind_eq_ok, pure_eq_ok] at readSettled
    obtain ⟨items, -, rfl⟩ := readSettled
    refine ⟨whole, settled, fun rule ruled => ?_⟩
    simp only [Json.settle, bind_eq_ok, pure_eq_ok] at settled
    obtain ⟨kept, -, rfl⟩ := settled
    have objection := allowed rule ruled
    rcases rule_of_plain listed ruled with rfl | rfl | rfl | rfl
    · cases objection
    · cases objection
    · cases objection
    · rfl
  · exact ⟨read, readSettled, allowed⟩

theorem clean_text {name : String} (listed : name ∈ ["format", "title", "description", "$ref", "$schema"])
    {v : Value} (text : v.text?.isSome = true) : Clean name v := by
  have ruled : ∀ name ∈ ["format", "title", "description", "$ref", "$schema"],
      ∀ rule ∈ keywordRules.lookup name, rule = .text := by decide
  obtain ⟨own, found⟩ := Option.isSome_iff_exists.mp text
  refine ⟨.str own, ?_, fun rule there => ?_⟩
  · cases v <;> simp_all [Value.text?, Json.settle, Json.settleAtom]
  · rw [ruled name listed rule there]
    rfl

theorem leaves_clean : Document.Leaves Clean where
  join := Clean.join
  nullable := ⟨.bool true, rfl, fun _ ruled => by cases ruled⟩
  format text := clean_text (by simp) rfl

/-! ## Sound fragments -/

theorem Allowed.of_rule {name : String} {v : Value} (rule : Rule)
    (ruled : keywordRules.lookup name = some rule) (fits : ruleFaults rule v = []) :
    Allowed name v := by
  intro other found
  obtain rfl := Option.some.inj (ruled.symm.trans found)
  exact fits

/-- A dictionary of clean keywords is a schema. -/
theorem accepted_of_clean {members : Members} (named : members.Named)
    (clean : ∀ name v, Members.get? name members = some v → Clean name v) :
    ∃ settled, Json.settle (.dict members) = .ok (.dict settled) ∧ faults (.dict settled) = [] := by
  obtain ⟨settled, whole, allowed⟩ := Json.settle_named (P := Allowed) named
    fun member held name text => clean name member.2 (named.get?_of_mem text held)
  exact ⟨settled, whole, faults_dict allowed⟩

theorem clean_type {typeName : String} (listed : typeName ∈ typeNames) :
    Clean "type" (.str typeName) := by
  refine ⟨.str typeName, rfl, Allowed.of_rule .typeNames (by decide) ?_⟩
  simp [ruleFaults, leafFaults, isTypeNames, demand, listed]

theorem clean_required {names : List Value} (apart : Different names)
    (texts : ∀ own ∈ names, own.text?.isSome = true) : Clean "required" (.list names) := by
  refine ⟨.list ((names.filterMap Value.text?).map Value.str), ?_,
    Allowed.of_rule .names (by decide) ?_⟩
  · simp [Json.settle, Json.settleItems_texts texts, bind, Except.bind, pure, Except.pure]
  · have distinct : (names.filterMap Value.text?).Nodup := by
      refine List.pairwise_filterMap.mpr (apart.imp fun {a b} differ => ?_)
      intro text own other found same
      subst same
      simp [Value.equalApart, Value.equal_of_text? own, Value.holdsMade_of_text? own,
        Value.holdsMade_of_text? found, found] at differ
    simp [ruleFaults, leafFaults, isNames, texts?_map_str, demand, distinct]

theorem clean_exclusion {items : List Value} (clean : Clean "enum" (.list items)) :
    Clean "not" (.dict [(.str "enum", .list items)]) := by
  have named : Members.Named [(.str "enum", .list items)] :=
    Members.Named.cons rfl (by simp [Members.names]) Members.Named.nil
  obtain ⟨settled, whole, fits⟩ := accepted_of_clean named fun name v found => by
    rw [Members.get?_cons] at found
    split at found
    · rename_i same
      obtain rfl : "enum" = name := Option.some.inj same
      obtain rfl := Option.some.inj found
      exact clean
    · cases found
  exact ⟨.dict settled, whole, Allowed.of_rule .schema (by decide) fits⟩

/-- Every keyword of a sound fragment is clean. -/
theorem clean_of_sound {members : Members} (sound : Document.Sound Clean members) {name : String}
    {v : Value} (found : Members.get? name members = some v) : Clean name v := by
  obtain ⟨good, below⟩ := Document.sound_iff.mp sound
  have entry := good.entries found
  -- the schemas in the fragment are schemas of the draft
  have accepted {child : Members} (held : Document.Child members child) :
      ∃ settled, Json.settle (.dict child) = .ok settled ∧ faults settled = [] := by
    have smaller := held.sizeOf_lt
    obtain ⟨settled, whole, fits⟩ := accepted_of_clean (below child held child .refl).named
      fun _ _ there => clean_of_sound (below child held) there
    exact ⟨.dict settled, whole, fits⟩
  rcases List.mem_append.mp entry.known with shaped | plain
  · simp only [Document.shapedKeywords, List.mem_cons, List.not_mem_nil, or_false] at shaped
    rcases shaped with rfl | rfl | rfl | rfl | rfl | rfl
    · obtain ⟨typeName, listed, rfl⟩ := entry.type rfl
      exact clean_type listed
    · obtain ⟨items, rfl, many, -, dicts⟩ := entry.alternatives rfl
      obtain ⟨all, settled, length, fits⟩ := Json.settleItems_each
        (P := fun settled => faults settled = []) fun item held => by
          obtain ⟨inner, rfl⟩ := dicts item held
          exact accepted (.alternative found held)
      refine ⟨.list all, by simp [Json.settle, settled, bind, Except.bind, pure, Except.pure],
        Allowed.of_rule .schemas (by decide) ?_⟩
      cases all with
      | nil => simp [← length] at many
      | cons first rest => exact eachFaults_eq_nil fits
    · obtain ⟨inner, rfl⟩ := entry.element rfl
      obtain ⟨settled, whole, fits⟩ := accepted (.element found)
      refine ⟨settled, whole, Allowed.of_rule .schemaOrSchemas (by decide) ?_⟩
      simp only [Json.settle, bind_eq_ok, pure_eq_ok] at whole
      obtain ⟨all, -, rfl⟩ := whole
      simp [ruleFaults, fits, either, schemasFaults, demand, Fault.isFinal]
    · obtain ⟨fields, rfl, named, dicts⟩ := entry.fields rfl
      obtain ⟨all, whole, fits⟩ := Json.settle_named (P := fun _ settled => faults settled = [])
        named fun member held name text => by
          have there := named.get?_of_mem text held
          obtain ⟨inner, same⟩ := dicts member held
          rw [same] at there ⊢
          exact accepted (.field found there)
      refine ⟨.dict all, whole, Allowed.of_rule .schemaMap (by decide) ?_⟩
      refine valuesFaults_eq_nil fun member held => ?_
      obtain ⟨-, -, clean⟩ := fits member held
      exact clean
    · obtain ⟨names, rfl, -, apart, texts⟩ := entry.required rfl
      exact clean_required apart texts
    · obtain ⟨items, rfl, clean⟩ := entry.exclusion rfl
      exact clean_exclusion clean
  · exact entry.plain plain
termination_by sizeOf members

end Draft06

end Draftsman
