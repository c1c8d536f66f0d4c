/-
# Draftsman.Proofs.Keywords -- what every predicate says in its document

A predicate of the table gives one keyword, with what its operand is read as for a value.
Null stands for nothing to say: it is what a `type?` is read as whose operand names no type,
and it is what the predicates that compare (`comparisons`) make of null itself.  In strict mode
a predicate says nothing in these two cases and in no other (`predicateFragment_eq_nil_iff`).

* `compile_keyword`: wherever a predicate is visited on the way to a document in strict mode,
  it is one of the table and gives its keyword, unless it is a `type?` without a type, or
  compares with null;
* `compile_keyword_lost`: a comparison with null is lost on the way to a document.
-/
import Draftsman.Proofs.Sites
import Draftsman.Proofs.Soundness

namespace Draftsman

set_option autoImplicit false

/-! ## Readings of operands -/

/-- The number of a decimal is a number. -/
theorem Operand.isNull_numberOfDecimal {d : Decimal} {v : Value}
    (read : Operand.numberOfDecimal d = .ok v) : v.isNull = false := by
  unfold Operand.numberOfDecimal at read
  split at read
  · obtain rfl := Except.ok.inj read
    rfl
  · obtain rfl := Except.ok.inj read
    rfl
  · cases read

namespace Reading

/-- Whether an operand leaves a reading nothing to say. -/
def isSilent : Reading → Value → Bool
  | typeName, operand => (typeMembers? operand).isNone
  | number, operand => operand.isNull
  | _, _ => false

/-- A reading comes to null exactly where it has nothing to say. -/
theorem isNull_of_apply {reading : Reading} {operand v : Value}
    (applied : reading.apply operand = .ok v) : v.isNull = reading.isSilent operand := by
  cases reading with
  | typeName =>
      obtain rfl := Except.ok.inj applied
      simp only [isSilent, typeMembers?]
      cases operand.toPrimitive? <;> rfl
  | number =>
      cases operand with
      | decimal d => exact Operand.isNull_numberOfDecimal applied
      | _ =>
          obtain rfl := Except.ok.inj applied
          rfl
  | integer | patternText | items | exclusion =>
      obtain ⟨read, -, rfl⟩ := map_eq_ok.mp applied
      rfl
  | fixed text =>
      obtain rfl := Except.ok.inj applied
      rfl

/-- What has nothing to say comes to null. -/
theorem apply_of_isSilent {reading : Reading} {operand : Value}
    (silent : reading.isSilent operand = true) : reading.apply operand = .ok .null := by
  cases reading with
  | typeName =>
      have none : operand.toPrimitive? = none := by
        simpa [isSilent, typeMembers?] using silent
      simp [apply, none]
  | number =>
      cases operand with
      | null => rfl
      | _ => cases silent
  | _ => cases silent

end Reading

namespace Node

/-! ## Predicates of the table -/

/-- The predicates that compare with their operand, which becomes the keyword's value as it
is. -/
def comparisons : List String := ["gt?", "gteq?", "lt?", "lteq?", "eql?", "is?"]

/-- Whether a predicate has nothing to say, by its name and its operand. -/
theorem isSilent_iff {text : String} {c : Constraint} (listed : constraint? text = some c)
    (operand : Value) :
    c.reading.isSilent operand = true ↔
      (text = "type?" ∧ typeMembers? operand = none) ∨
        (text ∈ comparisons ∧ operand = .null) := by
  have each : ∀ entry ∈ constraints,
      (entry.2.reading = .typeName ↔ entry.1 = "type?") ∧
        (entry.2.reading = .number ↔ entry.1 ∈ comparisons) := by decide
  obtain ⟨typed, compared⟩ := each (text, c) (mem_constraints listed)
  simp only at typed compared
  rw [← typed, ← compared]
  cases c.reading with
  | typeName => simp [Reading.isSilent]
  | number => cases operand <;> simp [Reading.isSilent, Value.isNull]
  | _ => simp [Reading.isSilent]

/-- What a predicate of the table gives: one keyword, unless it has nothing to say. -/
theorem predicateFragment_eq_ok {o : Options} {leftType name operand : Value} {fragment : Members}
    {text : String} {c : Constraint} (named : name.text? = some text)
    (looked : (lookupName leftType name).bind constraint? = some c) :
    predicateFragment o leftType name operand = .ok fragment ↔
      ∃ v, c.reading.apply operand = .ok v ∧
        fragment = if c.reading.isSilent operand then [] else
          Fragment.ofKeywords [(c.keyword, v)] := by
  simp only [predicateFragment, Value.isKey_of_text? named, looked, Bool.not_true,
    Bool.false_eq_true, if_false]
  cases applied : c.reading.apply operand with
  | error fault => simp
  | ok v =>
      simp only [Reading.isNull_of_apply applied, Except.ok.injEq, exists_eq_left']
      exact eq_comm

/-- A predicate of the table is looked up with success whatever is on its left, and reads its
operand as under its own name. -/
theorem lookupName_of_listed {name : Value} {text : String} {own : Constraint} (leftType : Value)
    (named : name.text? = some text) (listed : constraint? text = some own) :
    ∃ c, (lookupName leftType name).bind constraint? = some c ∧ c.reading = own.reading := by
  have reading := lookupName_reading leftType name
  rw [named, Option.bind_some, listed, Option.map_some] at reading
  exact Option.map_eq_some_iff.mp reading

/-- In strict mode only a predicate of the table gives a fragment. -/
theorem listed_of_strict {o : Options} {leftType name operand : Value} {fragment : Members}
    (strict : o.loose.truthy = false)
    (emitted : predicateFragment o leftType name operand = .ok fragment) :
    ∃ text own, name.text? = some text ∧ constraint? text = some own := by
  have reading := lookupName_reading leftType name
  cases looked : (lookupName leftType name).bind constraint? with
  | none =>
      simp only [predicateFragment, looked, strict] at emitted
      split at emitted <;> cases emitted
  | some c =>
      rw [looked, Option.map_some] at reading
      obtain ⟨own, known, -⟩ := Option.map_eq_some_iff.mp reading.symm
      obtain ⟨text, named, listed⟩ := Option.bind_eq_some_iff.mp known
      exact ⟨text, own, named, listed⟩

/-- In strict mode a predicate says nothing if it asks for a type and its operand names none,
or if it compares with null, and in no other case. -/
theorem predicateFragment_eq_nil_iff {o : Options} (strict : o.loose.truthy = false)
    (leftType name operand : Value) :
    predicateFragment o leftType name operand = .ok [] ↔
      ∃ text, name.text? = some text ∧
        ((text = "type?" ∧ typeMembers? operand = none) ∨
          (text ∈ comparisons ∧ operand = .null)) := by
  constructor
  · intro emitted
    obtain ⟨text, own, named, listed⟩ := listed_of_strict strict emitted
    obtain ⟨c, looked, reading⟩ := lookupName_of_listed leftType named listed
    obtain ⟨v, -, empty⟩ := (predicateFragment_eq_ok named looked).mp emitted
    refine ⟨text, named, (isSilent_iff listed operand).mp ?_⟩
    by_contra spoken
    rw [reading, if_neg spoken] at empty
    cases empty
  · rintro ⟨text, named, silent⟩
    have known : (constraint? text).isSome = true := by
      rcases silent with ⟨rfl, -⟩ | ⟨compared, -⟩
      · rfl
      · have each : ∀ text ∈ comparisons, (constraint? text).isSome = true := by decide
        exact each text compared
    obtain ⟨own, listed⟩ := Option.isSome_iff_exists.mp known
    obtain ⟨c, looked, reading⟩ := lookupName_of_listed leftType named listed
    have quiet : c.reading.isSilent operand = true := reading ▸ (isSilent_iff listed operand).mpr silent
    refine (predicateFragment_eq_ok named looked).mpr ⟨.null, Reading.apply_of_isSilent quiet, ?_⟩
    rw [if_pos quiet]

/-! ## Predicates of a document -/

/-- In strict mode a predicate that is visited on the way to a document is one of the table.
Unless it compares with null, it gives its keyword with what its operand is read as, to which
its notes are added, and nothing else; only a `type?` whose operand names no type gives
nothing. -/
theorem compile_keyword {o : Options} {node : Node} {document : Members}
    (strict : o.loose.truthy = false) (compiled : node.compile o = .ok document)
    {there : Site} (reached : Site.Reaches ⟨Context.root, node⟩ there)
    {name operand notes : Value} (same : there.node = predicate name operand notes)
    (given : ∀ text ∈ comparisons, name.text? = some text → operand ≠ .null) :
    ∃ text c v fragment, name.text? = some text ∧
      (lookupName there.ctx.leftType name).bind constraint? = some c ∧
      c.reading.apply operand = .ok v ∧ there.visit o = .ok fragment ∧
      finish notes (if text = "type?" ∧ typeMembers? operand = none then []
        else Fragment.ofKeywords [(c.keyword, v)]) = .ok fragment := by
  obtain ⟨whole, compiled, -⟩ := bind_eq_ok.mp compiled
  obtain ⟨fragment, visited⟩ := Site.Reaches.visited reached compiled
  have single : Node.visit o there.ctx (predicate name operand notes) = .ok fragment :=
    same ▸ visited
  simp only [Node.visit, bind_eq_ok] at single
  obtain ⟨-, -, own, emitted, finished⟩ := single
  obtain ⟨text, entry, named, listed⟩ := listed_of_strict strict emitted
  obtain ⟨c, looked, reading⟩ := lookupName_of_listed there.ctx.leftType named listed
  obtain ⟨v, applied, rfl⟩ := (predicateFragment_eq_ok named looked).mp emitted
  refine ⟨text, c, v, fragment, named, looked, applied, visited, ?_⟩
  -- what has nothing to say is a `type?` without a type, for no predicate compares with null
  have silent : c.reading.isSilent operand = true ↔ text = "type?" ∧ typeMembers? operand = none := by
    rw [reading, isSilent_iff listed]
    refine or_iff_left fun lost => ?_
    exact given text lost.1 named lost.2
  simpa only [silent] using finished

def ledgerNode : Node :=
  constrained (array (nominal (.primitive .string) (.dict [])) (.dict []))
    (intersection
      (predicate (.str "min_size?") (.str "2") (.dict (Members.named [("title", .str "Lines")])))
      (predicate (.str "type?") (.host .object) (.dict [])) (.dict [])) (.dict [])

def ledgerBound : Site :=
  ⟨(Context.root.ruleFor (.primitive .list)).inner,
    predicate (.str "min_size?") (.str "2") (.dict (Members.named [("title", .str "Lines")]))⟩

theorem compile_keyword_ledger :
    ledgerNode.compile {} = .ok (Members.named [("type", .str "array"),
        ("items", .dict (Members.named [("type", .str "string")])), ("minItems", .int 2),
        ("title", .str "Lines")]) ∧
      Site.Reaches ⟨Context.root, ledgerNode⟩ ledgerBound ∧
      ∃ text c v fragment, (Value.str "min_size?").text? = some text ∧
        (lookupName ledgerBound.ctx.leftType (.str "min_size?")).bind constraint? = some c ∧
        c.reading.apply (.str "2") = .ok v ∧ ledgerBound.visit {} = .ok fragment ∧
        finish (.dict (Members.named [("title", .str "Lines")]))
          (if text = "type?" ∧ typeMembers? (.str "2") = none then []
            else Fragment.ofKeywords [(c.keyword, v)]) = .ok fragment := by
  have compiled : ledgerNode.compile {} = .ok (Members.named [("type", .str "array"),
      ("items", .dict (Members.named [("type", .str "string")])), ("minItems", .int 2),
      ("title", .str "Lines")]) := rfl
  have reached : Site.Reaches ⟨Context.root, ledgerNode⟩ ledgerBound :=
    .tail (.tail .refl .rule) .left
  refine ⟨compiled, reached, compile_keyword rfl compiled reached rfl fun text compared named => ?_⟩
  intro impossible
  cases impossible

def blankTree : Value :=
  .dict (Members.named [("kind", .str "constrained"),
    ("type", .dict (Members.named [("kind", .str "nominal"), ("primitive", .str "string")])),
    ("rule", .dict (Members.named [("kind", .str "predicate"), ("name", .str "eql?"),
      ("operand", .null)]))])

def blankNode : Node :=
  constrained (nominal (.primitive .string) (.dict [])) (predicate (.str "eql?") .null (.dict []))
    (.dict [])

/-- The comparison with null is visited, its predicate is one of the table and its operand is
read, but it says nothing: the document allows every text. -/
theorem compile_keyword_lost :
    load blankTree = .ok blankNode ∧
      Site.Reaches ⟨Context.root, blankNode⟩
        ⟨Context.root.ruleFor (.primitive .string), predicate (.str "eql?") .null (.dict [])⟩ ∧
      constraint? "eql?" = some ⟨"const", .number⟩ ∧ Reading.number.apply .null = .ok .null ∧
      Site.visit {} ⟨Context.root.ruleFor (.primitive .string),
        predicate (.str "eql?") .null (.dict [])⟩ = .ok [] ∧
      blankNode.compile {} = .ok (Members.named [("type", .str "string")]) :=
  ⟨rfl, .tail .refl .rule, rfl, rfl, rfl, rfl⟩

end Node

end Draftsman
