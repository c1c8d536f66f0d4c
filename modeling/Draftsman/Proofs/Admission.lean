/-
# Draftsman.Proofs.Admission -- descriptions whose documents are schemas

A description is admissible when the operands of its predicates are of the types that the
predicates are made for (`WellTyped`), when the notes that reach the document are texts,
when its fields have texts for names and its unions alternatives (`Node.Admissible`).

The main result is `check_compile`: whatever the options, a document that is compiled from
an admissible description is a schema of draft 06.
-/
import Draftsman.Proofs.Acceptance

namespace Draftsman

set_option autoImplicit false

/-- Whether a value is a finite number, and not an integer that is too long.  Decimals
without a fraction are the integers that they stand for; truth values are no numbers. -/
def Value.isBound : Value → Bool
  | .int n => !Numeral.tooLong n
  | .float (.finite _ _ _) => true
  | .decimal d =>
      match d.toExact? with
      | some x => !(x.isIntegral && Numeral.tooLong x.truncate)
      | none => false
  | _ => false

/-- An operand of the type that a predicate is made for. -/
structure WellTyped (name : String) (operand : Value) : Prop where
  size : name ∈ ["min_size?", "max_size?", "min_items?", "max_items?"] →
    ∃ n, Operand.toInteger operand = .ok n ∧ 0 ≤ n ∧ Numeral.tooLong n = false
  bound : name ∈ ["gt?", "gteq?", "lt?", "lteq?"] → operand.isBound = true
  choice : name ∈ ["included_in?", "excluded_from?"] →
    ∃ items, operand = .list items ∧ Value.areJson items = true
  constant : name ∈ ["eql?", "is?"] → operand.isJson = true

namespace Node

/-- A node that brings along what a schema asks for. -/
structure Admissible (node : Node) : Prop where
  operand : ∀ {name operand notes text}, node = predicate name operand notes →
    name.text? = some text → WellTyped text operand
  note : ∀ {members name v}, node.notes = .dict members →
    name ∈ ["title", "description", "format", "$ref"] → Members.get? name members = some v →
    v.text?.isSome = true
  fieldName : ∀ {name type required notes}, node = key name type required notes →
    name.text?.isSome = true
  filled : node.filled = true

end Node

open Draft06

/-! ## Operands -/

/-- Renaming the predicates that bound a size keeps their operands well typed. -/
theorem WellTyped.renamed {name : String} {operand : Value} (typed : WellTyped name operand) :
    WellTyped (sizeRenaming name) operand := by
  by_cases least : name = "min_size?"
  · subst least
    exact ⟨fun _ => typed.size (by simp), by simp [sizeRenaming], by simp [sizeRenaming],
      by simp [sizeRenaming]⟩
  · by_cases most : name = "max_size?"
    · subst most
      exact ⟨fun _ => typed.size (by simp), by simp [sizeRenaming], by simp [sizeRenaming],
        by simp [sizeRenaming]⟩
    · simpa [sizeRenaming, least, most] using typed

theorem clean_count {name : String}
    (ruled : keywordRules.lookup name = some .count) {n : Int} (positive : 0 ≤ n)
    (short : Numeral.tooLong n = false) : Clean name (.int n) := by
  refine ⟨.int n, by simp only [Json.settle, Json.settleAtom, short, Bool.false_eq_true, if_false],
    Allowed.of_rule _ ruled ?_⟩
  simp [ruleFaults, leafFaults, isCount, demand, positive]

theorem clean_number {name : String} (ruled : keywordRules.lookup name = some .number)
    {operand v : Value} (bound : operand.isBound = true)
    (converted : Operand.toNumber operand = .ok v) : Clean name v := by
  have ofInt {n : Int} (short : Numeral.tooLong n = false) : Clean name (.int n) := by
    refine ⟨.int n, by simp only [Json.settle, Json.settleAtom, short, Bool.false_eq_true, if_false],
      Allowed.of_rule _ ruled rfl⟩
  have ofFloat (x : Binary64) : Clean name (.float x) := by
    cases x with
    | nan tag => exact ⟨.float (.nan 0), rfl, Allowed.of_rule _ ruled rfl⟩
    | _ => exact ⟨_, rfl, Allowed.of_rule _ ruled rfl⟩
  cases operand with
  | int n =>
      obtain rfl := Except.ok.inj converted
      exact ofInt (by simpa only [Value.isBound, Bool.not_eq_true'] using bound)
  | float x =>
      obtain rfl := Except.ok.inj converted
      exact ofFloat x
  | decimal d =>
      simp only [Value.isBound] at bound
      split at bound
      · rename_i x exactly
        simp only [Operand.toNumber, Operand.numberOfDecimal, exactly] at converted
        cases integral : x.isIntegral with
        | true =>
            simp only [Option.filter, integral, if_true, Except.ok.injEq] at converted
            subst converted
            exact ofInt (by simpa only [integral, Bool.true_and, Bool.not_eq_true'] using bound)
        | false =>
            simp only [Option.filter, integral, Bool.false_eq_true, if_false] at converted
            split at converted
            · rename_i impossible
              cases impossible
            · obtain rfl := Except.ok.inj converted
              exact ofFloat _
            · cases converted
      · cases bound
  | _ => cases bound

/-- No decimal is among the JSON values. -/
theorem toNumber_json {v : Value} (json : v.isJson = true) : Operand.toNumber v = .ok v := by
  cases v with
  | decimal d => simp only [Value.isJson, Bool.false_eq_true] at json
  | _ => rfl

theorem toNumbers_json {items : List Value} (json : Value.areJson items = true) :
    Operand.toNumbers items = .ok items :=
  Operand.toNumbers_of_unchanged fun item held => toNumber_json (Value.areJson_iff.mp json item held)

/-- The items of a list of JSON values, as they stand under `enum`. -/
theorem clean_items {operand : Value}
    (choice : ∃ items, operand = .list items ∧ Value.areJson items = true) {converted : List Value}
    (done : Operand.toItems operand = .ok converted) : Clean "enum" (.list converted) := by
  obtain ⟨items, rfl, json⟩ := choice
  simp only [Operand.toItems, Value.items?, toNumbers_json json, Except.ok.injEq] at done
  subst done
  obtain ⟨all, settled, -, -⟩ := Json.settleItems_each (P := fun _ => True)
    fun item held => (Json.writable_of_areJson items json item held).imp fun _ own => ⟨own, trivial⟩
  refine ⟨.list all, by simp [Json.settle, settled, bind, Except.bind, pure, Except.pure],
    Allowed.of_rule .array (by decide) rfl⟩

theorem clean_constant {operand v : Value} (json : operand.isJson = true)
    (converted : Operand.toNumber operand = .ok v) : Clean "const" v := by
  obtain rfl := Except.ok.inj ((toNumber_json json).symm.trans converted)
  obtain ⟨settled, whole⟩ := Json.writable_of_isJson _ json
  exact ⟨settled, whole, fun _ ruled => by cases ruled⟩

/-- A well-typed operand becomes a clean value of its keyword. -/
theorem clean_of_wellTyped {own : String} {c : Constraint} {operand v : Value}
    (typed : WellTyped own operand) (listed : constraint? own = some c)
    (applied : c.reading.apply operand = .ok v)
    (plain : c.keyword ∈ Document.plainKeywords) : Clean c.keyword v := by
  have held := Node.mem_constraints listed
  have count {name : String} (size : own ∈ ["min_size?", "max_size?", "min_items?", "max_items?"])
      (ruled : keywordRules.lookup name = some .count)
      (converted : (Operand.toInteger operand).map .int = .ok v) : Clean name v := by
    obtain ⟨n, found, positive, short⟩ := typed.size size
    rw [found] at converted
    obtain rfl := Except.ok.inj converted
    exact clean_count ruled positive short
  simp only [constraints, List.mem_cons, Prod.mk.injEq, List.not_mem_nil, or_false] at held
  rcases held with ⟨rfl, rfl⟩ | ⟨rfl, rfl⟩ | ⟨rfl, rfl⟩ | ⟨rfl, rfl⟩ | ⟨rfl, rfl⟩ | ⟨rfl, rfl⟩ |
    ⟨rfl, rfl⟩ | ⟨rfl, rfl⟩ | ⟨rfl, rfl⟩ | ⟨rfl, rfl⟩ | ⟨rfl, rfl⟩ | ⟨rfl, rfl⟩ | ⟨rfl, rfl⟩ |
    ⟨rfl, rfl⟩ | ⟨rfl, rfl⟩
  · exact absurd plain (by decide)
  · exact count (by simp) (by decide) applied
  · exact count (by simp) (by decide) applied
  · exact count (by simp) (by decide) applied
  · exact count (by simp) (by decide) applied
  · exact clean_number (by decide) (typed.bound (by simp)) applied
  · exact clean_number (by decide) (typed.bound (by simp)) applied
  · exact clean_number (by decide) (typed.bound (by simp)) applied
  · exact clean_number (by decide) (typed.bound (by simp)) applied
  · obtain ⟨text, -, rfl⟩ := map_eq_ok.mp applied
    exact clean_text (by simp) rfl
  · obtain ⟨items, converted, rfl⟩ := map_eq_ok.mp applied
    exact clean_items (typed.choice (by simp)) converted
  · exact absurd plain (by decide)
  · exact clean_constant (typed.constant (by simp)) applied
  · exact clean_constant (typed.constant (by simp)) applied
  · obtain rfl := Except.ok.inj applied
    exact clean_text (by simp) rfl

/-! ## Documents -/

namespace Node

theorem supplied_of_admissible : Supplied Clean Admissible where
  note {node members name v} admissible listed notes found := by
    have each : ∀ name ∈ annotationNames, name ∈ ["title", "description", "format", "$ref"] ∧
        name ∈ ["format", "title", "description", "$ref", "$schema"] := by decide
    exact clean_text (each name listed).2 (admissible.note notes (each name listed).1 found)
  reference admissible found inForce := by
    obtain ⟨members, notes, same⟩ := noteOr?_eq_some found
    cases there : Members.get? "$ref" members with
    | none =>
        simp only [there, Option.getD_none] at same
        simp [← same, Value.isNull] at inForce
    | some v =>
        obtain rfl : v = _ := by simpa [there] using same
        exact clean_text (by simp) (admissible.note notes (by simp) there)
  constraint {name operand notes leftType own c v} admissible named listed applied written := by
    have typed : WellTyped own operand := by
      simp only [lookupName] at named
      split at named
      · obtain ⟨text, found, rfl⟩ := Option.map_eq_some_iff.mp named
        exact (admissible.operand rfl found).renamed
      · exact admissible.operand rfl named
    refine entry_of_constraint listed applied written (clean_of_wellTyped typed listed applied)
      fun items special converted => clean_items (typed.choice ?_) converted
    have each : ∀ entry ∈ constraints, entry.2.keyword = "not" →
        entry.1 ∈ ["included_in?", "excluded_from?"] := by decide
    exact each (own, c) (mem_constraints listed) special
  fieldName admissible := admissible.fieldName rfl
  filled admissible := admissible.filled

/-- A document that is compiled from an admissible description is a schema of draft 06. -/
theorem check_compile {o : Options} {node : Node} {document : Members}
    (admissible : ∀ part ∈ node.parts, part.Admissible)
    (compiled : node.compile o = .ok document) : check (.dict document) = .ok () := by
  simp only [compile, bind_eq_ok, pure_eq_ok] at compiled
  obtain ⟨fragment, visited, rfl⟩ := compiled
  have sound := visit_sound leaves_clean supplied_of_admissible admissible visited
  have named := (sound fragment .refl).named
  have clean : ∀ name v, Members.get? name (if o.root.truthy then
      Members.insert (.str "$schema") (.str dialect) fragment else fragment) = some v →
        Clean name v := by
    intro name v found
    split at found
    · rw [Members.get?_insert rfl] at found
      split at found
      · rename_i same
        obtain rfl := Option.some.inj found
        exact same ▸ clean_text (by simp) rfl
      · exact clean_of_sound sound found
    · exact clean_of_sound sound found
  obtain ⟨settled, whole, fits⟩ := accepted_of_clean (by
    split
    · exact named.insert rfl _
    · exact named) clean
  rw [check, whole]
  simp only [fits]

def nicknameNode : Node :=
  schema (.nodes [key (.str "nickname")
    (sum (.nodes [constrained (nominal (.primitive .string) (.dict []))
        (predicate (.str "min_size?") (.int 3) (.dict [])) (.dict []),
      nominal (.primitive .null) (.dict [])]) (.dict []))
    (.bool true) (.dict (Members.named [("title", .str "Nickname")]))]) (.dict [])

def nicknameDocument : Members :=
  Members.named [("type", .str "object"), ("properties", .dict (Members.named [("nickname",
      .dict (Members.named [("anyOf", .list
          [.dict (Members.named [("type", .str "string"), ("minLength", .int 3)]),
            .dict (Members.named [("type", .str "null")])]),
        ("title", .str "Nickname")]))])),
    ("required", .list [.str "nickname"])]

theorem check_compile_nickname :
    nicknameNode.compile {} = .ok nicknameDocument ∧
      check (.dict nicknameDocument) = .ok () := by
  have compiled : nicknameNode.compile {} = .ok nicknameDocument := rfl
  refine ⟨compiled, check_compile (fun part held => ?_) compiled⟩
  have size : WellTyped "min_size?" (.int 3) :=
    ⟨fun _ => ⟨3, rfl, by decide, by decide +kernel⟩, by simp, by simp, by simp⟩
  have titled {own : Members} {name : String} {v : Value}
      (notes : own = [] ∨ own = Members.named [("title", .str "Nickname")])
      (found : Members.get? name own = some v) : v.text?.isSome = true := by
    rcases notes with rfl | rfl
    · cases found
    · rw [Members.named, List.map_singleton, Members.get?_cons] at found
      split at found
      · rw [← Option.some.inj found]
        rfl
      · cases found
  simp only [nicknameNode, parts, partsOfSlot, partsOfEach, List.cons_append, List.nil_append,
    List.append_nil, List.mem_cons, List.not_mem_nil, or_false] at held
  rcases held with rfl | rfl | rfl | rfl | rfl | rfl | rfl
  all_goals
    refine ⟨fun same text => ?_, fun own listed found => ?_, fun same => ?_, rfl⟩
    · cases same <;> simp_all [Value.text?]
    · exact titled (by cases own; simp) found
    · cases same <;> rfl

end Node

end Draftsman
