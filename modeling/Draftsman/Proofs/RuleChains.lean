/-
# Draftsman.Proofs.RuleChains -- rules in any grouping

A rule for the values of a type is one predicate, or several of them at once, and these are
grouped in pairs as it happened (`Grouping`).  The grouping makes no difference: each predicate
gives its own keyword, to the right of the same type (`visit_grouping`), and the fragments are
joined as if one after the other (`ruleFragment_append`).  So a type has one fragment, or one
fault, under all groupings of its rules (`visit_regrouped`).

Three things are asked of the rules, so that what they say under one keyword is of one shape
(`Groupable`): none gives a type, which would be that of the rules to its right; no two of them
give constants; and operands are numbers where they bound an order, and can be compared where
they are enumerated (`visit_regrouped_signaling`).
-/
import Draftsman.Proofs.Fallback
import Draftsman.Proofs.Regrouping
import Draftsman.Proofs.Relocation

namespace Draftsman

set_option autoImplicit false

open Value

namespace Node

/-! ## Rules and their groupings -/

def isNamed (names : List String) (name : Value) : Bool := name.text?.any names.contains

def orderings : List String := ["gt?", "gteq?", "lt?", "lteq?"]

def enumerations : List String := ["included_in?", "excluded_from?"]

def constants : List String := ["eql?", "is?"]

/-- A rule, by its name and its operand, that can be grouped with others. -/
structure Groupable (rule : Value × Value) : Prop where
  untyped : isNamed ["type?"] rule.1 = false
  ordered : isNamed orderings rule.1 = true → rule.2.quantity?.isSome = true
  listed : isNamed enumerations rule.1 = true → ∀ {items}, Operand.toItems rule.2 = .ok items →
    ∀ item ∈ items, item.isQuiet = true

/-- A tree of predicates without notes, in which they stand in some order. -/
inductive Grouping : List (Value × Value) → Node → Prop where
  | single {name operand notes : Value} (bare : notes.truthy = false) :
      Grouping [(name, operand)] (predicate name operand notes)
  | both {first second : List (Value × Value)} {left right : Node} {notes : Value}
      (lefts : Grouping first left) (rights : Grouping second right)
      (bare : notes.truthy = false) :
      Grouping (first ++ second) (intersection left right notes)

theorem isNamed_iff {names : List String} {name : Value} :
    isNamed names name = true ↔ ∃ text ∈ names, name.text? = some text := by
  cases text : name.text? with
  | none => simp [isNamed, text]
  | some own => simp [isNamed, text, and_comm]

/-- Rules that give no type stand for nothing. -/
theorem Grouping.concreteType_eq {rules : List (Value × Value)} {rule : Node}
    (grouping : Grouping rules rule) (groupable : ∀ own ∈ rules, Groupable own) :
    concreteType rule = .null := by
  induction grouping with
  | @single name operand notes bare =>
      have other : ¬name.equal (.str "type?") = true := fun same => by
        have typed : isNamed ["type?"] name = true :=
          isNamed_iff.mpr ⟨"type?", List.mem_singleton_self _, text?_of_equal_str same⟩
        rw [(groupable _ (List.mem_singleton_self _)).untyped] at typed
        cases typed
      rw [concreteType, if_neg other]
  | both _ _ _ leftTyped _ =>
      exact leftTyped (List.forall_mem_append.mp groupable).1

/-! ## What a rule says -/

/-- What stands under a keyword for a rule that gives no constant. -/
inductive Tells (keyword : String) : Value → Prop where
  | enumeration {items : List Value} (own : keyword = "enum")
      (quiet : ∀ item ∈ items, item.isQuiet = true) : Tells keyword (.list items)
  | exclusion {items : List Value} (own : keyword = "not")
      (quiet : ∀ item ∈ items, item.isQuiet = true) :
      Tells keyword (.dict (Fragment.ofKeywords [("enum", .list items)]))
  | other {v : Value} (plain : keyword ∉ ["enum", "not"]) (leaf : v.isLeaf = true) :
      Tells keyword v

/-- What two rules say under one keyword is of one shape. -/
theorem Tells.joinable {keyword : String} {v w : Value} (first : Tells keyword v)
    (second : Tells keyword w) : Fragment.Joinable v w := by
  cases first with
  | enumeration own quiet =>
      cases second with
      | enumeration _ quiet' => exact .lists quiet quiet'
      | exclusion other _ => exact absurd (own.symm.trans other) (by decide)
      | other plain _ => exact absurd (by simp [own]) plain
  | exclusion own quiet =>
      cases second with
      | enumeration other _ => exact absurd (own.symm.trans other) (by decide)
      | exclusion _ quiet' =>
          refine .dicts (.singleton rfl _) (.singleton rfl _) fun _ here there => ?_
          obtain ⟨_, held, -⟩ := Members.exists_mem_of_lookup here
          obtain ⟨_, held', -⟩ := Members.exists_mem_of_lookup there
          obtain ⟨-, rfl⟩ := Prod.mk.inj (List.mem_singleton.mp held)
          obtain ⟨-, rfl⟩ := Prod.mk.inj (List.mem_singleton.mp held')
          exact .lists quiet quiet'
      | other plain _ => exact absurd (by simp [own]) plain
  | other plain leaf =>
      cases second with
      | enumeration own _ | exclusion own _ => exact absurd (by simp [own]) plain
      | other _ leaf' => exact .leaves leaf leaf'

/-- A name that is not that of a bound on a list's size is looked up as it is. -/
theorem text?_of_lookupName {leftType name : Value} {own : String}
    (looked : lookupName leftType name = some own) (other : own ∉ ["min_items?", "max_items?"]) :
    name.text? = some own := by
  simp only [lookupName] at looked
  split at looked
  · obtain ⟨text, named, renamed⟩ := Option.map_eq_some_iff.mp looked
    rcases sizeRenaming_cases text with ⟨-, same⟩ | ⟨-, same⟩ | ⟨-, -, same⟩
    · exact absurd (by simp [← renamed, same]) other
    · exact absurd (by simp [← renamed, same]) other
    · rw [named, ← renamed, same]
  · exact looked

theorem isLeaf_of_toNumber {operand v : Value} (number : operand.quantity?.isSome = true)
    (converted : Operand.toNumber operand = .ok v) : v.isLeaf = true := by
  cases operand with
  | decimal d =>
      simp only [Operand.toNumber, Operand.numberOfDecimal] at converted
      split at converted
      · exact Except.ok.inj converted ▸ rfl
      · exact Except.ok.inj converted ▸ rfl
      · cases converted
  | bool | int | float => exact Except.ok.inj converted ▸ rfl
  | _ => cases number

/-- What the predicates of the table are for, by how they read their operands. -/
theorem constraints_by_reading : ∀ entry ∈ constraints,
    (entry.2.reading = .typeName → entry.1 = "type?") ∧
      (entry.2.reading = .items → entry.2.keyword = "enum" ∧ entry.1 ∈ enumerations) ∧
      (entry.2.reading = .exclusion → entry.2.keyword = "not" ∧ entry.1 ∈ enumerations) ∧
      (entry.2.reading = .number → entry.2.keyword ≠ "const" → entry.1 ∈ orderings) ∧
      (entry.2.keyword = "const" → entry.1 ∈ constants) ∧
      (entry.2.reading ≠ .integer → entry.1 ∉ ["min_items?", "max_items?"]) ∧
      (entry.2.reading ≠ .items → entry.2.reading ≠ .exclusion →
        entry.2.keyword ∉ ["enum", "not"]) := by decide

variable {o : Options} {leftType name operand v : Value} {own : String} {c : Constraint}

/-- Only the rules that give constants have their keyword. -/
theorem isNamed_of_const (looked : lookupName leftType name = some own)
    (listed : constraint? own = some c) (keyword : c.keyword = "const") :
    isNamed constants name = true := by
  obtain ⟨-, -, -, -, constant, -⟩ := constraints_by_reading (own, c) (mem_constraints listed)
  have known := constant keyword
  have each : ∀ text ∈ constants, text ∉ ["min_items?", "max_items?"] := by decide
  exact isNamed_iff.mpr ⟨own, known, text?_of_lookupName looked (each own known)⟩

/-- A rule that gives no constant says what fits its keyword. -/
theorem tells_of_rule (groupable : Groupable (name, operand))
    (looked : lookupName leftType name = some own) (listed : constraint? own = some c)
    (applied : c.reading.apply operand = .ok v) (other : c.keyword ≠ "const") :
    Tells c.keyword v := by
  obtain ⟨typed, enumerated, excluded, compared, -, unsized, plain⟩ :=
    constraints_by_reading (own, c) (mem_constraints listed)
  have named {names : List String} (known : own ∈ names) (whole : c.reading ≠ .integer) :
      isNamed names name = true :=
    isNamed_iff.mpr ⟨own, known, text?_of_lookupName looked (unsized whole)⟩
  cases reading : c.reading with
  | typeName =>
      have typed := named (List.mem_singleton.mpr (typed reading)) (by simp [reading])
      rw [groupable.untyped] at typed
      cases typed
  | items =>
      obtain ⟨keyword, known⟩ := enumerated reading
      rw [reading] at applied
      obtain ⟨items, done, rfl⟩ := map_eq_ok.mp applied
      exact .enumeration keyword (groupable.listed (named known (by simp [reading])) done)
  | exclusion =>
      obtain ⟨keyword, known⟩ := excluded reading
      rw [reading] at applied
      obtain ⟨items, done, rfl⟩ := map_eq_ok.mp applied
      exact .exclusion keyword (groupable.listed (named known (by simp [reading])) done)
  | number =>
      have number := groupable.ordered (named (compared reading other) (by simp [reading]))
      rw [reading] at applied
      exact .other (plain (by simp [reading]) (by simp [reading]))
        (isLeaf_of_toNumber number applied)
  | integer | patternText =>
      rw [reading] at applied
      obtain ⟨read, -, rfl⟩ := map_eq_ok.mp applied
      exact .other (plain (by simp [reading]) (by simp [reading])) rfl
  | fixed =>
      rw [reading] at applied
      obtain rfl := Except.ok.inj applied
      exact .other (plain (by simp [reading]) (by simp [reading])) rfl

theorem keyed_of_rule {fragment : Members}
    (emitted : predicateFragment o leftType name operand = .ok fragment) : fragment.Keyed := by
  rcases predicateFragment_cases emitted with rfl | ⟨own, c, v, -, -, -, -, rfl⟩
  · exact .nil
  · exact .singleton rfl v

/-- The fragments of two rules, of which one at most gives a constant, can be joined. -/
theorem alike_of_rules {rule other : Value × Value} {fragment fragment' : Members}
    (groupable : Groupable rule) (groupable' : Groupable other)
    (apart : ¬(isNamed constants rule.1 = true ∧ isNamed constants other.1 = true))
    (emitted : predicateFragment o leftType rule.1 rule.2 = .ok fragment)
    (emitted' : predicateFragment o leftType other.1 other.2 = .ok fragment') :
    Fragment.Alike fragment fragment' := by
  rcases predicateFragment_cases emitted with rfl | ⟨own, c, v, looked, listed, applied, -, rfl⟩
  · exact .nil (keyed_of_rule emitted')
  rcases predicateFragment_cases emitted' with
    rfl | ⟨own', c', w, looked', listed', applied', -, rfl⟩
  · exact (Fragment.Joinable.nil (keyed_of_rule emitted)).symm
  refine .dicts (.singleton rfl _) (.singleton rfl _) fun {key _ _} _ here there => ?_
  obtain ⟨_, held, same⟩ := Members.exists_mem_of_lookup here
  obtain ⟨_, held', same'⟩ := Members.exists_mem_of_lookup there
  obtain ⟨rfl, rfl⟩ := Prod.mk.inj (List.mem_singleton.mp held)
  obtain ⟨rfl, rfl⟩ := Prod.mk.inj (List.mem_singleton.mp held')
  have keyword : c.keyword = c'.keyword :=
    Option.some.inj ((text?_of_equal_str same).symm.trans (text?_of_equal_str same'))
  have plain : c.keyword ≠ "const" := fun constant =>
    apart ⟨isNamed_of_const looked listed constant,
      isNamed_of_const looked' listed' (keyword ▸ constant)⟩
  have first := tells_of_rule groupable looked listed applied plain
  have second := tells_of_rule groupable' looked' listed' applied' (keyword ▸ plain)
  exact first.joinable (keyword ▸ second)

/-! ## Chains of rules -/

/-- The fragment of some rules: theirs, joined one after the other. -/
def ruleFragment (o : Options) (leftType : Value) (rules : List (Value × Value)) :
    Except CompileFault Members :=
  rules.mapM (fun rule => predicateFragment o leftType rule.1 rule.2) >>= fun fragments =>
    decided (fragments.foldlM Fragment.merge? [])

/-- Rules that can be grouped, of which one at most gives a constant. -/
structure GroupableRules (rules : List (Value × Value)) : Prop where
  each : ∀ rule ∈ rules, Groupable rule
  apart : rules.Pairwise fun rule other =>
    ¬(isNamed constants rule.1 = true ∧ isNamed constants other.1 = true)

/-- Of items of which one at most passes a test, no two pass it. -/
theorem pairwise_of_countP {α : Type} {test : α → Bool} {items : List α}
    (few : items.countP test ≤ 1) :
    items.Pairwise fun a b => ¬(test a = true ∧ test b = true) := by
  induction items with
  | nil => exact List.Pairwise.nil
  | cons item rest ih =>
      rw [List.countP_cons] at few
      refine List.pairwise_cons.mpr ⟨fun other held ⟨own, also⟩ => ?_, ih (by omega)⟩
      have none : rest.countP test = 0 := by
        rw [if_pos own] at few
        omega
      exact List.countP_eq_zero.mp none other held also

namespace GroupableRules

variable {rules first second : List (Value × Value)}

theorem of_countP (each : ∀ rule ∈ rules, Groupable rule)
    (few : rules.countP (fun rule => isNamed constants rule.1) ≤ 1) : GroupableRules rules :=
  ⟨each, pairwise_of_countP few⟩

theorem left (groupable : GroupableRules (first ++ second)) : GroupableRules first :=
  ⟨(List.forall_mem_append.mp groupable.each).1, (List.pairwise_append.mp groupable.apart).1⟩

theorem right (groupable : GroupableRules (first ++ second)) : GroupableRules second :=
  ⟨(List.forall_mem_append.mp groupable.each).2, (List.pairwise_append.mp groupable.apart).2.1⟩

theorem tail {rule : Value × Value} (groupable : GroupableRules (rule :: rules)) :
    GroupableRules rules := @right [rule] rules groupable

/-- The fragments of such rules can be joined in any grouping. -/
theorem alike {fragments : List Members} (groupable : GroupableRules rules)
    (emitted : rules.mapM (fun rule => predicateFragment o leftType rule.1 rule.2) =
      .ok fragments) :
    (∀ fragment ∈ fragments, fragment.Keyed) ∧ fragments.Pairwise Fragment.Alike := by
  have each := mapM_eq_ok.mp emitted
  clear emitted
  induction each with
  | nil => exact ⟨by simp, List.Pairwise.nil⟩
  | @cons rule fragment rest others own later ih =>
      obtain ⟨keyed, pairwise⟩ := ih groupable.tail
      obtain ⟨first, each⟩ := List.forall_mem_cons.mp groupable.each
      obtain ⟨apart, -⟩ := List.pairwise_cons.mp groupable.apart
      refine ⟨List.forall_mem_cons.mpr ⟨keyed_of_rule own, keyed⟩,
        List.pairwise_cons.mpr ⟨fun fragment' held => ?_, pairwise⟩⟩
      obtain ⟨other, there, emitted⟩ := exists_of_matching later held
      exact alike_of_rules first (each other there) (apart other there) own emitted

end GroupableRules

/-- The fragment of some rules is that of the first ones and that of the last ones, joined. -/
theorem ruleFragment_append {first second : List (Value × Value)}
    (groupable : GroupableRules (first ++ second)) :
    ruleFragment o leftType (first ++ second) = (do
      let base ← ruleFragment o leftType first
      let extra ← ruleFragment o leftType second
      decided (Fragment.merge? base extra)) := by
  have joins {fragments : List Members}
      (alike : (∀ fragment ∈ fragments, fragment.Keyed) ∧ fragments.Pairwise Fragment.Alike) :
      ∃ joined, fragments.foldlM Fragment.merge? [] = some joined := by
    obtain ⟨joined, done, -⟩ :=
      Fragment.foldlM_merge?_alike (fun own held => .nil (alike.1 own held)) alike.2
    exact ⟨joined, done⟩
  simp only [ruleFragment, List.mapM_append]
  cases lefts : first.mapM (fun rule => predicateFragment o leftType rule.1 rule.2) with
  | error fault => rfl
  | ok fragments =>
      obtain ⟨base, baseDone⟩ := joins (groupable.left.alike lefts)
      cases rights : second.mapM (fun rule => predicateFragment o leftType rule.1 rule.2) with
      | error fault =>
          simp [baseDone, decided, bind, Except.bind]
      | ok others =>
          obtain ⟨extra, extraDone⟩ := joins (groupable.right.alike rights)
          have all : (first ++ second).mapM
              (fun rule => predicateFragment o leftType rule.1 rule.2) =
                .ok (fragments ++ others) := by
            simp [List.mapM_append, lefts, rights, bind, Except.bind, pure, Except.pure]
          obtain ⟨keyed, pairwise⟩ := groupable.alike all
          have regrouped := Fragment.foldlM_merge?_append keyed pairwise
          simp [regrouped, baseDone, extraDone, decided, bind, Except.bind, pure, Except.pure]

/-- Empty notes leave a fragment as it is. -/
theorem finish_bare {notes : Value} (bare : notes.truthy = false) : finish notes = pure := by
  funext fragment
  simp [finish, overlay, annotations, bare, typed, Members.update, pure, Except.pure]

variable {ctx : Context}

/-- A grouping of some rules has their fragment, unless the limit stops it.  The rules all stand
to the right of one type, as none of them gives a type to those to its own right. -/
theorem visit_grouping {rules : List (Value × Value)} {rule : Node} (grouping : Grouping rules rule)
    (groupable : GroupableRules rules) {depth : Nat} (entered : o.allow depth = .ok ())
    (unbounded : Unbounded (visit o ctx rule)) :
    visit o ctx rule = ruleFragment o ctx.leftType rules := by
  induction grouping generalizing ctx with
  | @single name operand notes bare =>
      rw [visit] at unbounded ⊢
      rw [allow_of_unbounded entered unbounded.first]
      simp only [ruleFragment, List.mapM_cons, List.mapM_nil, bind, Except.bind, pure, Except.pure]
      cases emitted : predicateFragment o ctx.leftType name operand with
      | error fault => rfl
      | ok fragment =>
          simp only [finish_bare bare, List.foldlM_cons,
            Fragment.empty_merge? (keyed_of_rule emitted)]
          rfl
  | @both first second left right notes lefts rights bare ihLeft ihRight =>
      rw [visit_intersection, rightOf_untyped (lefts.concreteType_eq groupable.left.each)]
        at unbounded ⊢
      have allowed := allow_of_unbounded entered unbounded.first
      rw [allowed] at unbounded ⊢
      have inside := unbounded.later
      have base : visit o ctx.inner left = ruleFragment o ctx.leftType first :=
        ihLeft groupable.left inside.first
      rw [base] at inside ⊢
      rw [ruleFragment_append groupable]
      cases baseDone : ruleFragment o ctx.leftType first with
      | error fault => rfl
      | ok fragment =>
          rw [baseDone] at inside
          have extra : visit o ctx.inner right = ruleFragment o ctx.leftType second :=
            ihRight groupable.right inside.later.first
          rw [extra, finish_bare bare]
          simp only [bind_pure]
          rfl

/-- The rules for a type can be grouped in any way.  If no limit stops its visit, the type has the
same fragment, or the same fault, under two groupings of the same rules. -/
theorem visit_regrouped {rules : List (Value × Value)} {rule rule' : Node}
    (grouping : Grouping rules rule) (grouping' : Grouping rules rule')
    (each : ∀ own ∈ rules, Groupable own)
    (few : rules.countP (fun own => isNamed constants own.1) ≤ 1) {type : Node} {notes : Value}
    (unbounded : Unbounded (visit o ctx (constrained type rule notes)))
    (unbounded' : Unbounded (visit o ctx (constrained type rule' notes))) :
    visit o ctx (constrained type rule notes) = visit o ctx (constrained type rule' notes) := by
  have groupable := GroupableRules.of_countP each few
  rw [visit] at unbounded unbounded' ⊢
  rw [visit]
  cases entered : o.allow ctx.depth with
  | error fault => rfl
  | ok _ =>
      rw [entered] at unbounded unbounded'
      cases based : visit o ctx.inner type with
      | error fault => rfl
      | ok base =>
          rw [based] at unbounded unbounded'
          have first := visit_grouping grouping groupable entered unbounded.later.later.first
          have second := visit_grouping grouping' groupable entered unbounded'.later.later.first
          rw [first, second]

def bareRule (rule : Value × Value) : Node := predicate rule.1 rule.2 (.dict [])

def lefthand (first second third : Value × Value) : Node :=
  intersection (intersection (bareRule first) (bareRule second) (.dict [])) (bareRule third)
    (.dict [])

def righthand (first second third : Value × Value) : Node :=
  intersection (bareRule first) (intersection (bareRule second) (bareRule third) (.dict []))
    (.dict [])

theorem grouping_lefthand (first second third : Value × Value) :
    Grouping [first, second, third] (lefthand first second third) :=
  .both (.both (.single rfl) (.single rfl) rfl) (.single rfl) rfl

theorem grouping_righthand (first second third : Value × Value) :
    Grouping [first, second, third] (righthand first second third) :=
  .both (.single rfl) (.both (.single rfl) (.single rfl) rfl) rfl

def listedTexts : Node := array (nominal (.primitive .string) (.dict [])) (.dict [])

def included (items : List Value) : Value × Value := (.str "included_in?", .list items)

theorem visit_regrouped_texts :
    visit {} Context.root (constrained listedTexts
        (lefthand (.str "min_size?", .int 1) (included [.int 1, .int 2]) (included [.int 2]))
        (.dict [])) =
      visit {} Context.root (constrained listedTexts
        (righthand (.str "min_size?", .int 1) (included [.int 1, .int 2]) (included [.int 2]))
        (.dict [])) := by
  have bound : Groupable (.str "min_size?", .int 1) := ⟨rfl, nofun, nofun⟩
  have listed {items : List Value} (plain : Operand.toItems (.list items) = .ok items)
      (quiet : ∀ item ∈ items, item.isQuiet = true) : Groupable (included items) :=
    ⟨rfl, nofun, fun _ {_} done => Except.ok.inj (plain.symm.trans done) ▸ quiet⟩
  refine visit_regrouped (grouping_lefthand _ _ _) (grouping_righthand _ _ _) ?_ (by decide)
    (.ok _) (.ok _)
  simp only [List.forall_mem_cons, List.not_mem_nil, false_implies, implies_true, and_true]
  exact ⟨bound, listed rfl (by decide), listed rfl (by decide)⟩

/-! ### Signaling decimals -/

/-- An item of which the first member cannot be compared. -/
def signalingItem : Value :=
  .dict (Members.named [("a", .decimal (.nan true false 0 0)), ("b", .int 1)])

/-- An item that differs from that one in the second member. -/
def otherItem : Value := .dict (Members.named [("b", .int 2), ("a", .int 5)])

/-- With a signaling decimal in an enumeration, the same three rules have a fragment in one grouping
and none in the other.  The item that holds it is compared with one that is before it, and found
to differ in the other member, or it comes first and cannot be compared with what follows. -/
theorem visit_regrouped_signaling :
    Grouping [included [otherItem], included [signalingItem], included [otherItem]]
        (lefthand (included [otherItem]) (included [signalingItem]) (included [otherItem])) ∧
      Grouping [included [otherItem], included [signalingItem], included [otherItem]]
        (righthand (included [otherItem]) (included [signalingItem]) (included [otherItem])) ∧
      (∀ rule ∈ [included [otherItem], included [signalingItem], included [otherItem]],
        isNamed ["type?"] rule.1 = false ∧ isNamed constants rule.1 = false ∧
          isNamed orderings rule.1 = false) ∧
      visit {} Context.root (constrained (nominal (.primitive .dict) (.dict []))
          (lefthand (included [otherItem]) (included [signalingItem]) (included [otherItem]))
          (.dict [])) =
        .ok (Fragment.ofKeywords
          [("type", .str "object"), ("enum", .list [otherItem, signalingItem])]) ∧
      visit {} Context.root (constrained (nominal (.primitive .dict) (.dict []))
          (righthand (included [otherItem]) (included [signalingItem]) (included [otherItem]))
          (.dict [])) =
        .error .undecided :=
  ⟨grouping_lefthand _ _ _, grouping_righthand _ _ _, by decide, rfl, rfl⟩

end Node

end Draftsman
