/-
# Draftsman.Proofs.Steps -- steps that can stop a computation

Everything that can fail is a chain of steps, each an `Except`.  A chain gives a result
exactly when every step does (`bind_eq_ok`); otherwise it has the fault of the first step
that fails (`fault?_bind`).  What may go wrong in every step of a chain is all that may go wrong
in the chain (`FailsWith`).  Two chains whose steps agree one by one agree (`Agree`).

Most steps of a visit can fail in one way only: a value is not what its use asks for
(`Misfits`).  Only the depth of a node, its kind and its predicates give other faults.
-/
import Draftsman.Compile
import Mathlib.Data.List.Forall2

namespace Draftsman

set_option autoImplicit false

variable {ε α β : Type}

/-! ## Results -/

theorem bind_eq_ok {step : Except ε α} {next : α → Except ε β} {result : β} :
    step >>= next = .ok result ↔ ∃ value, step = .ok value ∧ next value = .ok result := by
  cases step <;> simp [bind, Except.bind]

/-- A chain fails where its first step does, or else where the rest does. -/
theorem bind_eq_error {step : Except ε α} {next : α → Except ε β} {fault : ε} :
    step >>= next = .error fault ↔
      step = .error fault ∨ ∃ value, step = .ok value ∧ next value = .error fault := by
  cases step <;> simp [bind, Except.bind]

theorem map_eq_ok {step : Except ε α} {f : α → β} {result : β} :
    step.map f = .ok result ↔ ∃ value, step = .ok value ∧ f value = result := by
  cases step <;> simp [Except.map]

theorem mapError_eq_ok {ε' : Type} {step : Except ε α} {f : ε → ε'} {value : α} :
    step.mapError f = .ok value ↔ step = .ok value := by
  cases step with
  | ok own => exact ⟨fun done => congrArg _ (Except.ok.inj done), fun done => by cases done; rfl⟩
  | error fault => exact ⟨nofun, nofun⟩

theorem pure_eq_ok {value result : α} : (pure value : Except ε α) = .ok result ↔ value = result := by
  simp [pure, Except.pure]

theorem typed_eq_ok {found : Option α} {value : α} : typed found = .ok value ↔ found = some value := by
  cases found <;> simp [typed]

theorem present_eq_ok {found : Option α} {value : α} :
    present found = .ok value ↔ found = some value := by
  cases found <;> simp [present]

theorem decided_eq_ok {found : Option α} {value : α} :
    decided found = .ok value ↔ found = some value := by
  cases found <;> simp [decided]

/-- One step for each of some items gives as many results, if each step does. -/
theorem mapM_eq_ok {f : α → Except ε β} {items : List α} {results : List β} :
    items.mapM f = .ok results ↔
      List.Forall₂ (fun item result => f item = .ok result) items results := by
  induction items generalizing results with
  | nil => simp [pure, Except.pure, eq_comm]
  | cons item rest ih =>
      simp only [List.mapM_cons, bind_eq_ok, pure_eq_ok, ih, List.forall₂_cons_left_iff]
      constructor
      · rintro ⟨result, own, others, later, rfl⟩
        exact ⟨result, others, own, later, rfl⟩
      · rintro ⟨result, others, own, later, rfl⟩
        exact ⟨result, own, others, later, rfl⟩

namespace Operand

theorem toNumbers_eq_mapM (items : List Value) : toNumbers items = items.mapM toNumber := by
  induction items with
  | nil => rfl
  | cons item rest ih =>
      rw [toNumbers, List.mapM_cons, ih]
      cases toNumber item with
      | error _ => rfl
      | ok first => cases rest.mapM toNumber <;> rfl

/-- Several values become numbers each on its own, in order. -/
theorem toNumbers_eq_ok {items numbers : List Value} :
    toNumbers items = .ok numbers ↔
      List.Forall₂ (fun item number => toNumber item = .ok number) items numbers := by
  rw [toNumbers_eq_mapM, mapM_eq_ok]

/-- Values that stay as they are do so among others. -/
theorem toNumbers_of_unchanged {items : List Value}
    (each : ∀ item ∈ items, toNumber item = .ok item) : toNumbers items = .ok items :=
  toNumbers_eq_ok.mpr (List.forall₂_same.mpr each)

end Operand

/-! ## Steps that agree -/

/-- Two steps that fail alike, or have results that are alike. -/
inductive Agree {ε α β : Type} (alike : α → β → Prop) : Except ε α → Except ε β → Prop where
  | ok {first : α} {second : β} (same : alike first second) : Agree alike (.ok first) (.ok second)
  | error (fault : ε) : Agree alike (.error fault) (.error fault)

namespace Agree

variable {ε α β γ δ : Type} {alike : α → β → Prop} {alike' : γ → δ → Prop}

theorem refl {alike : α → α → Prop} (self : ∀ value, alike value value) (step : Except ε α) :
    Agree alike step step := by
  cases step with
  | ok value => exact .ok (self value)
  | error fault => exact .error fault

/-- A step agrees with itself. -/
theorem same (step : Except ε α) : Agree (fun a b => b = a) step step :=
  @refl _ _ (fun a b => b = a) (fun _ => rfl) step

theorem bind {first : Except ε α} {second : Except ε β} {next : α → Except ε γ}
    {next' : β → Except ε δ} (agree : Agree alike first second)
    (later : ∀ {a b}, alike a b → Agree alike' (next a) (next' b)) :
    Agree alike' (first >>= next) (second >>= next') := by
  cases agree with
  | ok same => exact later same
  | error fault => exact .error fault

theorem imp {nearer : α → β → Prop} {first : Except ε α} {second : Except ε β}
    (agree : Agree alike first second)
    (each : ∀ {a b}, first = .ok a → second = .ok b → alike a b → nearer a b) :
    Agree nearer first second := by
  cases agree with
  | ok same => exact .ok (each rfl rfl same)
  | error fault => exact .error fault

theorem mapError {ε' : Type} {first : Except ε α} {second : Except ε β}
    (agree : Agree alike first second) (f : ε → ε') :
    Agree alike (first.mapError f) (second.mapError f) := by
  cases agree with
  | ok same => exact .ok same
  | error fault => exact .error (f fault)

end Agree

/-! ## Faults -/

/-- The fault that a computation ends with, if it does. -/
def fault? : Except ε α → Option ε
  | .ok _ => none
  | .error fault => some fault

@[simp] theorem fault?_ok (value : α) : fault? (.ok value : Except ε α) = none := rfl

@[simp] theorem fault?_error (fault : ε) : fault? (.error fault : Except ε α) = some fault := rfl

/-- A chain has the fault of its first step, or else that of the rest. -/
theorem fault?_bind (step : Except ε α) (next : α → Except ε β) :
    fault? (step >>= next) = (fault? step).or
      (match step with
        | .ok value => fault? (next value)
        | .error _ => none) := by
  cases step <;> rfl

/-- A step after which a result is given in any case. -/
theorem fault?_bind_pure (step : Except ε α) (f : α → β) :
    fault? (step >>= fun value => (pure (f value) : Except ε β)) = fault? step := by
  cases step <;> rfl

/-- Two steps of which the second does not depend on the first. -/
theorem fault?_bind_bind_pure {γ : Type} (first : Except ε α) (second : Except ε β)
    (f : α → β → γ) :
    fault? (first >>= fun a => second >>= fun b => (pure (f a b) : Except ε γ)) =
      (fault? first).or (fault? second) := by
  cases first <;> cases second <;> rfl

theorem fault?_eq_none {step : Except ε α} : fault? step = none ↔ ∃ value, step = .ok value := by
  cases step <;> simp

theorem fault?_eq_some {step : Except ε α} {fault : ε} :
    fault? step = some fault ↔ step = .error fault := by
  cases step <;> simp

/-! ## Faults of a step -/

/-- A step that fails, if it does, with a fault that is allowed. -/
def FailsWith (allowed : ε → Prop) (step : Except ε α) : Prop :=
  ∀ fault, step = .error fault → allowed fault

namespace FailsWith

variable {allowed : ε → Prop} {step : Except ε α} {next : α → Except ε β}

theorem ok (value : α) : FailsWith allowed (.ok value) := by
  intro fault failed
  cases failed

theorem error {fault : ε} (fit : allowed fault) :
    FailsWith allowed (.error fault : Except ε α) := by
  rintro _ ⟨⟩
  exact fit

/-- The rest of a chain is only reached with the value of its first step. -/
theorem bind_ok (first : FailsWith allowed step)
    (rest : ∀ value, step = .ok value → FailsWith allowed (next value)) :
    FailsWith allowed (step >>= next) := by
  cases step with
  | ok value => exact rest value rfl
  | error fault => exact error (first fault rfl)

theorem bind (first : FailsWith allowed step) (rest : ∀ value, FailsWith allowed (next value)) :
    FailsWith allowed (step >>= next) :=
  first.bind_ok fun value _ => rest value

end FailsWith

/-! ## Faults of use -/

def CompileFault.isMisfit : CompileFault → Bool
  | illTyped | noMember | undecided => true
  | tooDeep _ _ | unsupported _ | unknownPredicate _ | conversion _ => false

/-- A step that fails, if it does, for a value that does not fit its use. -/
def Misfits (step : Except CompileFault α) : Prop := FailsWith (CompileFault.isMisfit · = true) step

namespace Misfits

theorem bind {step : Except CompileFault α} {next : α → Except CompileFault β}
    (first : Misfits step) (later : ∀ value, Misfits (next value)) : Misfits (step >>= next) :=
  FailsWith.bind first later

theorem typed (found : Option α) : Misfits (Draftsman.typed found) := by
  cases found with
  | none => exact .error rfl
  | some value => exact .ok value

theorem present (found : Option α) : Misfits (Draftsman.present found) := by
  cases found with
  | none => exact .error rfl
  | some value => exact .ok value

theorem decided (found : Option α) : Misfits (Draftsman.decided found) := by
  cases found with
  | none => exact .error rfl
  | some value => exact .ok value

theorem reference (notes keyNotes : Value) : Misfits (Node.reference notes keyNotes) :=
  bind (present _) fun _ => present _

theorem finish (notes : Value) (fragment : Members) : Misfits (Node.finish notes fragment) :=
  typed _

theorem gather (found : List Members) (fragment : Members) :
    Misfits (Node.gather found fragment) := decided _

theorem arrayFragment (items : Members) (notes : Value) :
    Misfits (Node.arrayFragment items notes) :=
  bind (typed _) fun _ => bind (decided _) fun _ => .ok _

theorem add (fields : Node.Fields) (node : Node) (fragment : Members) :
    Misfits (fields.add node fragment) := by
  refine bind (present _) fun name => ?_
  split
  · exact .error rfl
  · exact bind (present _) fun _ => .ok _

end Misfits

end Draftsman
