/-
# Draftsman.Proofs.Configuration -- which members of a configuration count

A configuration is read member by member.  Four names are those of the options; four others are
attributes that the object behind the options has as any object of the host has.  A member of any
other name leaves the options as they are (`configure_of_unknown`), so a configuration says what
its members of the eight names say, in their order (`configureAll_only`).

Without a member of the host's names it says what it says of the options (`reported_of_known`).
With one it may give no options at all (`ofDict_fails`), or options that do not report themselves
(`reported_unreadable`).
-/
import Draftsman.Options
import Draftsman.Proofs.Dictionary

namespace Draftsman

set_option autoImplicit false

open Members

namespace Members

def only (names : List String) (members : Members) : Members :=
  members.filter fun member => member.1.text?.any names.contains

variable {names : List String} {member : Value × Value} {name : String}

theorem only_cons_of_mem (text : member.1.text? = some name) (listed : name ∈ names)
    (rest : Members) : only names (member :: rest) = member :: only names rest := by
  simp [only, text, listed]

theorem only_cons_of_not_mem (text : member.1.text? = some name) (unlisted : name ∉ names)
    (rest : Members) : only names (member :: rest) = only names rest := by
  simp [only, text, unlisted]

/-- Names that no member has need not be asked for. -/
theorem only_append {others : List String} {members : Members}
    (absent : ∀ name ∈ others, get? name members = none) :
    only (names ++ others) members = only names members := by
  refine List.filter_congr fun member held => ?_
  cases text : member.1.text? with
  | none => rfl
  | some name =>
      have unlisted : name ∉ others := fun listed =>
        get?_eq_none_iff.mp (absent name listed) (mem_names.mpr ⟨member, held, text⟩)
      simp [unlisted]

end Members

namespace Options

def optionNames : List String := ["root", "loose", "max_depth", "output"]

/-- The names of what the object behind the options has besides, as far as it shows. -/
def hostNames : List String := ["to_dict", "__class__", "__weakref__", "__dict__"]

variable {config : Members} {name : String}

theorem ofName?_of_unknown (unknown : name ∉ optionNames ++ hostNames) :
    Attribute.ofName? name = none := by
  simp only [optionNames, hostNames, List.cons_append, List.nil_append, List.mem_cons,
    List.not_mem_nil, or_false, not_or] at unknown
  simp only [Attribute.ofName?, unknown, if_false]

/-- A member of any other name leaves the options as they are. -/
theorem configure_of_unknown {key : Value} (text : key.text? = some name)
    (unknown : name ∉ optionNames ++ hostNames) (o : Options) (v : Value) :
    o.configure key v = .ok o := by
  have other : name ≠ "output" := fun same => unknown (same ▸ by decide)
  simp only [configure, text, if_neg other, assign, ofName?_of_unknown unknown]

/-- Members of other names can be left out, whatever the options are before. -/
theorem configureAll_only (texts : ∀ member ∈ config, member.1.text?.isSome = true) (o : Options) :
    o.configureAll config = o.configureAll (config.only (optionNames ++ hostNames)) := by
  -- a member that counts changes the options, so they are general
  induction config generalizing o with
  | nil => rfl
  | cons member rest ih =>
      obtain ⟨own, others⟩ := List.forall_mem_cons.mp texts
      obtain ⟨name, text⟩ := Option.isSome_iff_exists.mp own
      by_cases known : name ∈ optionNames ++ hostNames
      · rw [only_cons_of_mem text known, configureAll, configureAll]
        exact congrArg _ (funext fun next => ih others next)
      · rw [only_cons_of_not_mem text known, configureAll, configure_of_unknown text known]
        exact ih others o

/-- Two attributes of the host's object cannot be set. -/
theorem assign_fails {o : Options} (fixed : name ∈ ["__class__", "__weakref__"]) (v : Value) :
    ∃ fault, o.assign name v = .error fault := by
  rcases List.mem_pair.mp fixed with rfl | rfl
  · exact ⟨.refused, rfl⟩
  · exact ⟨.fixed, rfl⟩

/-- A configuration that names one of these gives no options. -/
theorem ofDict_fails (fixed : name ∈ ["__class__", "__weakref__"])
    (there : (get? name config).isSome = true) : ∃ fault, ofDict (.dict config) = .error fault := by
  have any (o : Options) : ∃ fault, o.configureAll config = .error fault := by
    induction config generalizing o with
    | nil => cases there
    | cons member rest ih =>
        rw [configureAll]
        cases here : o.configure member.1 member.2 with
        | error fault => exact ⟨fault, rfl⟩
        | ok next =>
            refine ih ?_ next
            rw [get?_cons] at there
            split at there
            · rename_i text
              have other : name ≠ "output" := by rintro rfl; simp at fixed
              obtain ⟨fault, failed⟩ := assign_fails (o := o) fixed member.2
              simp only [configure, text, if_neg other, failed] at here
              cases here
            · exact there
  exact any {}

def reported (config : Members) : Except OptionsFault Value := (ofDict (.dict config)).bind report

/-- Options come from the members of the eight names only, and where none of these is the host's,
from those that name an option: the report is the same, or there is none for the same reason. -/
theorem reported_of_known (texts : ∀ member ∈ config, member.1.text?.isSome = true) :
    reported config = reported (config.only (optionNames ++ hostNames)) ∧
      ((∀ name ∈ hostNames, get? name config = none) →
        reported config = reported (config.only optionNames)) := by
  have known : reported config = reported (config.only (optionNames ++ hostNames)) :=
    congrArg (Except.bind · report) (configureAll_only texts {})
  refine ⟨known, fun absent => ?_⟩
  rw [known, only_append absent]

def deepConfig : Members :=
  named [("roots", .bool true), ("max_depth", .int 7), ("__doc__", .str "deep")]

theorem reported_of_known_deep :
    reported deepConfig = reported (named [("max_depth", .int 7)]) :=
  (@reported_of_known deepConfig (by decide)).2 (by decide)

/-- A member can take the place of the report. -/
theorem reported_unreadable :
    reported (named [("to_dict", .int 1)]) = .error .noReport ∧
      (named [("to_dict", .int 1)]).only optionNames = [] ∧
      ∃ members, reported [] = .ok (.dict members) :=
  ⟨rfl, by decide, _, rfl⟩

end Options

end Draftsman
