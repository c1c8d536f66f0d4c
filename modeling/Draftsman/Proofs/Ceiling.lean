/-
# Draftsman.Proofs.Ceiling -- what the limit on the nesting decides

A limit stops a compilation or leaves it as it is.  Two visits of a node are compared, each
under a limit of its own and at a depth of its own, the second with no less room below it
(`Roomier`): either the limit stops the first one, and then it does so at the first depth
beyond it, or both have the same outcome and no limit is the reason for it (`Eased`).

* `visit_eased`: the comparison, for every node in every context;
* `compile_upTo`: a compilation that its limit does not stop has the same outcome under
  every wider limit, and one that it stops fails at the depth just beyond the limit.

The fault of a limit shows the limit and the depth.  Where one of the two has too many digits
for that, what is told is not that the nesting is too deep (`CompileFault.beyond_told_iff`), and
so it cannot be told that the limit is what has stopped the compilation (`compile_upTo_long`).

A visit goes one step deeper from a node to those below it, and nowhere by two, so that no
depth is left out on the way to the limit (`Roomier.deeper`).
-/
import Draftsman.Proofs.Magnitude
import Draftsman.Proofs.Relocation

namespace Draftsman

set_option autoImplicit false

def Options.upTo (o : Options) (limit : Int) : Options := { o with maxDepth := .int limit }

def CompileFault.beyond (limit : Int) : CompileFault := .tooDeep (limit + 1).toNat (.int limit)

/-- A depth that can be reached under a limit, beside another depth with no less room under
another limit. -/
structure Roomier (limit wider : Int) (depth other : Nat) : Prop where
  reached : depth ≤ (limit + 1).toNat
  room : limit + other ≤ wider + depth

/-- Below a depth within the limit there is room for one more, the first one beyond it. -/
theorem Roomier.deeper {limit wider : Int} {depth other : Nat}
    (roomier : Roomier limit wider depth other) (within : (depth : Int) ≤ limit) :
    Roomier limit wider (depth + 1) (other + 1) := by
  obtain ⟨reached, room⟩ := roomier
  constructor
  · omega
  · omega

/-- Only the fault of a depth is told as one. -/
theorem CompileFault.eq_tooDeep {fault : CompileFault} (told : fault.failure.kind = .tooDeep) :
    ∃ depth limit, fault = .tooDeep depth limit := by
  have shown : fault.failure.kind ≠ .badValue := by rw [told]; decide
  cases fault with
  | tooDeep depth limit => exact ⟨depth, limit, rfl⟩
  | unsupported kind =>
      rw [failure, Failure.showing_eq shown] at told
      cases told
  | unknownPredicate name =>
      rw [failure, Failure.showing_eq shown] at told
      cases told
  | conversion fault => cases fault <;> cases told
  | _ => cases told

/-- A limit that can be shown, as can the integer after it. -/
structure Showable (limit : Int) : Prop where
  own : Numeral.tooLong limit = false
  next : Numeral.tooLong (limit + 1) = false

/-- The fault of the first depth beyond a limit is told as one if the limit can be shown. -/
theorem CompileFault.beyond_told_iff {limit : Int} :
    (beyond limit).failure.kind = .tooDeep ↔ Showable limit := by
  have parts : (Value.list [.int (limit + 1).toNat, .int limit]).isTooLong =
      (Numeral.tooLong (limit + 1).toNat || Numeral.tooLong limit) := by
    simp only [Value.isTooLong, Value.anyTooLong, Bool.or_false]
  -- below zero the depth is zero, and the integer after the limit is no longer than the limit
  have next (short : Numeral.tooLong limit = false) :
      Numeral.tooLong (limit + 1).toNat = Numeral.tooLong (limit + 1) := by
    rcases Int.le_total 0 (limit + 1) with positive | negative
    · rw [Int.toNat_of_nonneg positive]
    · simp only [Numeral.tooLong, decide_eq_false_iff_not] at short
      simp only [Numeral.tooLong, decide_eq_decide]
      omega
  constructor
  · intro told
    have shown : (beyond limit).failure.kind ≠ .badValue := by rw [told]; decide
    have short : (Value.list [.int (limit + 1).toNat, .int limit]).isTooLong = false := by
      refine Bool.eq_false_iff.mpr fun long => shown ?_
      rw [beyond, failure, Failure.showing_of_long long]
      rfl
    rw [parts, Bool.or_eq_false_iff] at short
    exact ⟨short.2, next short.2 ▸ short.1⟩
  · rintro ⟨short, after⟩
    have list : (Value.list [.int (limit + 1).toNat, .int limit]).isTooLong = false := by
      rw [parts, next short, after, short]
      rfl
    rw [beyond, failure, Failure.showing_of_short list]

/-- What is told where a limit cannot be shown. -/
theorem CompileFault.beyond_unshown {limit : Int} (long : ¬Showable limit) :
    (beyond limit).failure = .unshown := by
  cases list : (Value.list [.int (limit + 1).toNat, .int limit]).isTooLong with
  | true => rw [beyond, failure, Failure.showing_of_long list]
  | false =>
      refine absurd (beyond_told_iff.mp ?_) long
      rw [beyond, failure, Failure.showing_of_short list]

/-- A step under a limit beside the same step with more room: the limit stops it, just beyond
itself, or both have one outcome, for which no limit is the reason. -/
inductive Eased (limit : Int) {α : Type} :
    Except CompileFault α → Except CompileFault α → Prop where
  | stopped (roomy : Except CompileFault α) : Eased limit (.error (.beyond limit)) roomy
  | same {step : Except CompileFault α} (unbounded : Unbounded step) : Eased limit step step

namespace Eased

variable {limit wider : Int} {α β : Type}

theorem misfits {step : Except CompileFault α} (misfits : Misfits step) : Eased limit step step :=
  .same (.of_misfits misfits)

theorem bind {step roomy : Except CompileFault α} {next next' : α → Except CompileFault β}
    (first : Eased limit step roomy) (later : ∀ value, Eased limit (next value) (next' value)) :
    Eased limit (step >>= next) (roomy >>= next') := by
  cases first with
  | stopped => exact .stopped _
  | same unbounded =>
      cases step with
      | ok value => exact later value
      | error fault =>
          have failed : Unbounded (.error fault : Except CompileFault β) := by
            rintro depth own ⟨⟩
            exact unbounded depth own rfl
          exact .same failed

/-- A node is entered if its depth is within the limit. -/
theorem enter {o : Options} {depth other : Nat} (roomier : Roomier limit wider depth other)
    {inside roomy : Except CompileFault α}
    (below : Roomier limit wider (depth + 1) (other + 1) → Eased limit inside roomy) :
    Eased limit ((o.upTo limit).allow depth >>= fun _ => inside)
      ((o.upTo wider).allow other >>= fun _ => roomy) := by
  have own : fault? ((o.upTo limit).allow depth) = _ := Options.allow_int rfl depth
  have own' : fault? ((o.upTo wider).allow other) = _ := Options.allow_int rfl other
  by_cases beyond : limit < depth
  · rw [if_pos beyond, fault?_eq_some] at own
    have first : depth = (limit + 1).toNat := by
      have := roomier.reached
      omega
    rw [own, first]
    exact .stopped _
  · have within : ¬ wider < other := by
      have := roomier.room
      omega
    rw [if_neg beyond] at own
    rw [if_neg within] at own'
    obtain ⟨_, allowed⟩ := fault?_eq_none.mp own
    obtain ⟨_, allowed'⟩ := fault?_eq_none.mp own'
    rw [allowed, allowed']
    exact below (roomier.deeper (by omega))

end Eased

namespace Node

variable {limit wider : Int}

/-- A visit under a limit beside the visit with more room. -/
theorem visit_eased (o : Options) (node : Node) (ctx : Context) (other : Nat)
    (roomier : Roomier limit wider ctx.depth other) :
    Eased limit (visit (o.upTo limit) ctx node)
      (visit (o.upTo wider) (ctx.atDepth other) node) := by
  have relocating : Relocating (o.upTo limit) (o.upTo wider) (Roomier limit wider) (Eased limit) := {
    loose := rfl
    same := .same
    bind := .bind
    enter := fun roomier below => .enter roomier below }
  exact relocating.visit node ctx (ctx.atDepth other) roomier (.atDepth ctx other)

/-! ## Compilations -/

theorem compile_eased (o : Options) (node : Node) (room : limit ≤ wider) :
    Eased limit (node.compile (o.upTo limit)) (node.compile (o.upTo wider)) := by
  have roomier : Roomier limit wider Context.root.depth 0 := by
    constructor
    · exact Nat.zero_le _
    · change limit + 0 ≤ wider + 0
      omega
  exact (visit_eased o node Context.root 0 roomier).bind fun _ => .misfits (.ok _)

/-- A limit only limits.  A compilation that it does not stop has the same outcome, document or
fault, under every wider limit; one that it stops fails at the first depth beyond it.  A limit that
cannot be shown may have stopped a compilation that fails to show a value. -/
theorem compile_upTo (o : Options) (node : Node) :
    (∀ limit wider : Int, limit ≤ wider →
      (∀ fault, node.compile (o.upTo limit) = .error fault →
        fault.failure.kind ≠ .tooDeep ∧ (fault.failure = .unshown → Showable limit)) →
      node.compile (o.upTo wider) = node.compile (o.upTo limit)) ∧
    ∀ limit : Int, 0 ≤ limit → ∀ fault, node.compile (o.upTo limit) = .error fault →
      fault.failure.kind = .tooDeep → fault = .tooDeep (limit.toNat + 1) (.int limit) := by
  constructor
  · intro limit wider room unstopped
    have eased := compile_eased o node room
    generalize node.compile (o.upTo limit) = step at eased unstopped
    cases eased with
    | stopped =>
        obtain ⟨untold, shown⟩ := unstopped _ rfl
        have long : ¬Showable limit := fun short => untold (CompileFault.beyond_told_iff.mpr short)
        exact absurd (shown (CompileFault.beyond_unshown long)) long
    | same => rfl
  · intro limit whole fault failed told
    have eased := compile_eased o node (Int.le_refl limit)
    rw [failed] at eased
    have next : (limit + 1).toNat = limit.toNat + 1 := by omega
    cases eased with
    | stopped => rw [CompileFault.beyond, next]
    | same unbounded =>
        obtain ⟨depth, own, rfl⟩ := CompileFault.eq_tooDeep told
        exact absurd rfl (unbounded depth own)

def gridNode : Node :=
  array (array (nominal (.primitive .string) (.dict [])) (.dict [])) (.dict [])

theorem compile_upTo_grid :
    gridNode.compile (Options.upTo {} 7) = gridNode.compile (Options.upTo {} 2) ∧
      gridNode.compile (Options.upTo {} 1) = .error (.tooDeep 2 (.int 1)) := by
  obtain ⟨document, drawn⟩ : ∃ document, gridNode.compile (Options.upTo {} 2) = .ok document :=
    ⟨_, rfl⟩
  have small : Showable 1 := by
    have fits : 1 ≤ Numeral.digitLimit := Nat.le_of_ble_eq_true rfl
    exact ⟨Numeral.not_tooLong_of_lt fits (by decide), Numeral.not_tooLong_of_lt fits (by decide)⟩
  obtain ⟨fault, failed, told⟩ : ∃ fault, gridNode.compile (Options.upTo {} 1) = .error fault ∧
      fault.failure.kind = .tooDeep :=
    ⟨.beyond 1, rfl, CompileFault.beyond_told_iff.mpr small⟩
  obtain ⟨wider, beyond⟩ := compile_upTo {} gridNode
  refine ⟨wider 2 7 (by decide) fun fault failed => ?_, ?_⟩
  · rw [drawn] at failed
    cases failed
  · rw [failed, beyond 1 (by decide) fault failed told]
    rfl

theorem compile_grid_below {limit : Int} (below : limit < 0) :
    gridNode.compile (Options.upTo {} limit) = .error (.tooDeep 0 (.int limit)) := by
  have stopped : fault? ((Options.upTo {} limit).allow 0) = _ := Options.allow_int rfl 0
  rw [if_pos (by simpa using below), fault?_eq_some] at stopped
  have depth : Context.root.depth = 0 := rfl
  simp [gridNode, compile, visit, depth, stopped, bind, Except.bind]

theorem tooDeep_unshown {limit : Int} (long : Numeral.tooLong limit = true) :
    (CompileFault.tooDeep 0 (.int limit)).failure = .unshown := by
  have list : (Value.list [.int (0 : Nat), .int limit]).isTooLong = true := by
    simp only [Value.isTooLong, Value.anyTooLong, long, Bool.true_or, Bool.or_true]
  rw [CompileFault.failure, Failure.showing_of_long list]

/-- The least limit with too many digits to be shown stops a compilation that has a document under a
wider limit; but it is not told that the nesting is too deep. -/
theorem compile_upTo_long :
    let limit : Int := -(tenTo Numeral.digitLimit)
    limit ≤ 100 ∧ (∃ fault, gridNode.compile (Options.upTo {} limit) = .error fault ∧
        fault.failure.kind ≠ .tooDeep) ∧
      ∃ document, gridNode.compile (Options.upTo {} 100) = .ok document := by
  intro limit
  have below : limit < 0 := Int.neg_neg_of_pos (Int.natCast_pos.mpr (tenTo_pos _))
  have long : Numeral.tooLong limit = true := by
    rw [Numeral.tooLong, Int.natAbs_neg, Int.natAbs_natCast]
    exact decide_eq_true (Nat.le_refl _)
  refine ⟨by omega, ⟨_, compile_grid_below below, ?_⟩, _, rfl⟩
  rw [tooDeep_unshown long]
  decide

end Node

end Draftsman
