/-
# Draftsman.Proofs.Diagnosis -- what compiling a loaded description can fail with

Compiling tells what is wrong with a description: it nests too deep, or a predicate is
unknown.  The notes of a loaded description are dictionaries, its slots hold what they
should, and its values can be compared (`Node.Loaded`), so next to nothing else can go
wrong.  What loading does not look at are the names of predicates and fields and the
operands: a name may be no key, and an operand may be one that its predicate cannot read.
A site with such a name or operand is unfit (`Site.Unfit`).

* `compile_diagnosed`: under a limit that is an integer, a loaded description has a document
  only if no site that the root leads to is unfit; what its compilation fails with otherwise
  is a diagnosis, of which the command line tells unless an integer in it has too many digits to
  be shown, or the fault of such a site, which escapes;
* `compile_undiagnosed`: two loaded descriptions with unfit sites.

Faults are accounted for step by step (`Site.Accounts`): a site accounts for what its visit
fails with, and for all that a site accounts for to which it leads.
-/
import Draftsman.Command
import Draftsman.Proofs.Drafts
import Draftsman.Proofs.Sites

namespace Draftsman

set_option autoImplicit false

/-! ## Loaded descriptions -/

namespace Node

open Value

/-- A formed node without signaling decimals. -/
structure Loaded (node : Node) : Prop where
  formed : node.formed = true
  quiet : node.QuietValues

theorem Loaded.noted {node : Node} (loaded : node.Loaded) : ∃ members, node.notes = .dict members :=
  notes_of_formed loaded.formed

theorem DrawsOn.quietValues {part : Node} (draws : part.DrawsOn fun v => v.isQuiet = true) :
    part.QuietValues where
  notes := draws.notes
  operand same := by
    rcases draws.operand same with rfl | quiet | ⟨-, p, rfl⟩
    · rfl
    · exact quiet
    · rfl
  fieldName same := draws.fieldName same

/-- Every part of a loaded description is formed, and quiet as its tree is. -/
theorem loaded_of_load {tree : Value} {node : Node} (decoded : tree.isDecoded = true)
    (loaded : load tree = .ok node) : ∀ part ∈ node.parts, part.Loaded := by
  intro part held
  have quiet : tree.isQuiet = true := by
    refine decoded_hereditary.imp quiet_hereditary ?_ (fun v leaf plain => ?_) tree decoded
    · rintro _ ⟨text, rfl⟩
      rfl
    · cases v <;> simp_all [isDecoded, isQuiet, isLeaf]
  exact ⟨(load_formed loaded).2 part held,
    (drawsOn_of_part quiet_hereditary quiet loaded held).quietValues⟩

end Node

/-! ## Diagnoses -/

namespace CompileFault

def isDiagnosis : CompileFault → Bool
  | tooDeep _ _ | unsupported _ | unknownPredicate _ => true
  | _ => false

/-- The value that a diagnosis shows. -/
def shown : CompileFault → Value
  | tooDeep depth limit => .list [.int depth, limit]
  | unsupported kind => kind
  | unknownPredicate name => name
  | _ => .null

variable {fault : CompileFault}

/-- A diagnosis that can be shown is of one of three kinds. -/
theorem kind_of_isDiagnosis (diagnosis : fault.isDiagnosis = true)
    (short : fault.shown.isTooLong = false) :
    fault.failure.kind ∈ [.tooDeep, .unsupportedNode, .unknownPredicate] := by
  cases fault with
  | tooDeep | unsupported | unknownPredicate =>
      simp only [shown] at short
      rw [failure, Failure.showing_of_short short]
      simp
  | _ => cases diagnosis

theorem failure_of_long (diagnosis : fault.isDiagnosis = true)
    (long : fault.shown.isTooLong = true) : fault.failure = .unshown := by
  cases fault with
  | tooDeep | unsupported | unknownPredicate => exact Failure.showing_of_long long _
  | _ => cases diagnosis

end CompileFault

/-! ## Unfit sites -/

namespace Site

open Node

/-- A site with a name that is no key where one is needed, or with an operand that its
predicate cannot read; and the fault that this gives. -/
inductive Unfit : Site → CompileFault → Prop where
  | predicateName {ctx : Context} {name operand notes : Value} (unkeyed : name.isKey = false) :
      Unfit ⟨ctx, predicate name operand notes⟩ .illTyped
  | operand {ctx : Context} {name operand notes : Value} {c : Constraint} {fault : ConversionFault}
      (listed : name.text?.bind constraint? = some c)
      (refused : c.reading.apply operand = .error fault) :
      Unfit ⟨ctx, predicate name operand notes⟩ (.conversion fault)
  | fieldName {ctx : Context} {keys : List Node} {notes name required own : Value} {type : Node}
      (held : key name type required own ∈ keys) (inlined : refers notes ctx.keyNotes = false)
      (unkeyed : name.isKey = false) :
      Unfit ⟨ctx, schema (.nodes keys) notes⟩ .illTyped

end Site

namespace Node

/-- Each field of a field set that is visited is added to it. -/
theorem visitFields_added {o : Options} {ctx : Context} {nodes : List Node} {node : Node}
    (held : node ∈ nodes) {found fields : Fields}
    (visited : visitFields o ctx found nodes = .ok fields) :
    ∃ before fragment after, Fields.add before node fragment = .ok after := by
  induction nodes generalizing found with
  | nil => cases held
  | cons first rest ih =>
      simp only [visitFields, bind_eq_ok] at visited
      obtain ⟨fragment, -, next, added, later⟩ := visited
      rcases List.mem_cons.mp held with rfl | held
      · exact ⟨found, fragment, next, added⟩
      · exact ih held later

end Node

namespace Site

open Node

/-- The visit of an unfit site gives no fragment. -/
theorem Unfit.not_visited {site : Site} {fault : CompileFault} (unfit : site.Unfit fault)
    {o : Options} {fragment : Members} : site.visit o ≠ .ok fragment := by
  intro visited
  cases unfit with
  | predicateName unkeyed =>
      simp only [Site.visit, Node.visit, bind_eq_ok] at visited
      obtain ⟨-, -, inner, emitted, -⟩ := visited
      simp [predicateFragment, unkeyed] at emitted
  | @operand ctx name operand notes c fault listed refused =>
      simp only [Site.visit, Node.visit, bind_eq_ok] at visited
      obtain ⟨-, -, inner, emitted, -⟩ := visited
      obtain ⟨text, named, -⟩ := Option.bind_eq_some_iff.mp listed
      have own : fault? (predicateFragment o ctx.leftType name operand) =
          ownDefect? o (predicate name operand notes) :=
        fault?_predicateFragment o ctx.leftType notes (Value.isKey_of_text? named)
      rw [emitted, ownDefect?, listed] at own
      simp [refused] at own
  | fieldName held inlined unkeyed =>
      simp only [Site.visit, Node.visit, bind_eq_ok] at visited
      obtain ⟨-, -, ref, found, visited⟩ := visited
      have null : ref.isNull = true := by simpa [inlined] using refers_of_reference found
      rw [if_pos null, visitKeys] at visited
      obtain ⟨fields, listed, -⟩ := bind_eq_ok.mp visited
      obtain ⟨before, inner, after, added⟩ := visitFields_added held listed
      obtain ⟨name, type, required, notes, same, keyed, -⟩ := Fields.add_eq_ok added
      cases same
      rw [unkeyed] at keyed
      cases keyed

/-! ## Accounting for faults -/

/-- A step whose fault, if it has one, is a diagnosis or that of an unfit site which a site
leads to. -/
def Accounts (here : Site) {α : Type} (step : Except CompileFault α) : Prop :=
  ∀ fault, step = .error fault →
    fault.isDiagnosis = true ∨ ∃ there, Reaches here there ∧ there.Unfit fault

namespace Accounts

variable {α β : Type} {here there : Site} {step : Except CompileFault α}
  {next : α → Except CompileFault β}

theorem of_ok (done : ∃ value, step = .ok value) : here.Accounts step := by
  rintro fault failed
  obtain ⟨value, done⟩ := done
  cases done.symm.trans failed

theorem diagnosed {fault : CompileFault} (diagnosis : fault.isDiagnosis = true) :
    here.Accounts (.error fault : Except CompileFault α) := FailsWith.error (.inl diagnosis)

theorem unfit {fault : CompileFault} (unfit : here.Unfit fault) :
    here.Accounts (.error fault : Except CompileFault α) :=
  FailsWith.error (.inr ⟨here, .refl, unfit⟩)

theorem bind (first : here.Accounts step)
    (rest : ∀ value, step = .ok value → here.Accounts (next value)) :
    here.Accounts (step >>= next) := FailsWith.bind_ok first rest

/-- What is accounted for by a site is accounted for by those that lead to it. -/
theorem lead (leads : Leads here there) (accounts : there.Accounts step) :
    here.Accounts step := by
  intro fault failed
  rcases accounts fault failed with diagnosis | ⟨site, reached, unfit⟩
  · exact .inl diagnosis
  · exact .inr ⟨site, .head leads reached, unfit⟩

/-- A site is looked at once its depth is found to be within the limit. -/
theorem enter {o : Options} {limit : Int} (limited : o.maxDepth = .int limit) {depth : Nat}
    (inside : here.Accounts step) : here.Accounts (o.allow depth >>= fun _ => step) := by
  refine bind (fun fault failed => ?_) fun _ _ => inside
  have own := Options.allow_int limited depth
  rw [failed, fault?_error] at own
  split at own
  · obtain rfl := Option.some.inj own
    exact .inl rfl
  · cases own

end Accounts

end Site

namespace Node

/-! ## Steps of a visit -/

/-- A predicate fails with a diagnosis, or its site is unfit. -/
theorem predicateFragment_accounts (o : Options) (ctx : Context) (name operand notes : Value) :
    Site.Accounts ⟨ctx, predicate name operand notes⟩
      (predicateFragment o ctx.leftType name operand) := by
  by_cases keyed : name.isKey = true
  · intro fault failed
    have own : fault? (predicateFragment o ctx.leftType name operand) =
        ownDefect? o (predicate name operand notes) :=
      fault?_predicateFragment o ctx.leftType notes keyed
    rw [failed, fault?_error, ownDefect?] at own
    split at own
    · split at own
      · cases own
      · obtain rfl := Option.some.inj own
        exact .inl rfl
    · rename_i c listed
      obtain ⟨refusal, refused, rfl⟩ := Option.map_eq_some_iff.mp own.symm
      exact .inr ⟨_, .refl, .operand listed (fault?_eq_some.mp refused)⟩
  · have unkeyed : name.isKey = false := by simpa using keyed
    have failed : predicateFragment o ctx.leftType name operand = .error .illTyped := by
      simp [predicateFragment, unkeyed]
    rw [failed]
    exact .unfit (.predicateName unkeyed)

/-- A field whose name is no key cannot be added. -/
theorem add_unkeyed {name required notes : Value} {type : Node} (unkeyed : name.isKey = false)
    (fields : Fields) (fragment : Members) :
    fields.add (key name type required notes) fragment = .error .illTyped := by
  simp [Fields.add, name?, present, unkeyed, bind, Except.bind]

theorem quiet_loaded (o : Options) : Kept o Loaded fun _ => QuietFragment :=
  (quietValues_kept o).weaken Loaded.quiet

/-- The alternatives of a loaded union are a tuple. -/
theorem slot_of_loaded {types : Children} {notes : Value} (loaded : (sum types notes).Loaded) :
    ∃ items, types = .nodes items := by
  have formed := loaded.formed
  cases types with
  | nodes items => exact ⟨items, rfl⟩
  | value v => cases formed

theorem offersAlternatives_of_loaded {types : Children} {notes : Value}
    (loaded : (sum types notes).Loaded) : offersAlternatives types = true := by
  obtain ⟨items, rfl⟩ := slot_of_loaded loaded
  rfl

/-- The fields of a loaded field set are a tuple of fields. -/
theorem fields_of_loaded {keys : Children} {notes : Value} (loaded : (schema keys notes).Loaded) :
    ∃ items, keys = .nodes items ∧ ∀ item ∈ items, item.isKey = true := by
  have formed := loaded.formed
  cases keys with
  | nodes items =>
      refine ⟨items, rfl, ?_⟩
      cases notes with
      | dict members => exact List.all_eq_true.mp formed
      | _ => cases formed
  | value v => cases formed

/-- An object type is accounted for if what is inside it is where no reference is in force. -/
theorem unlessReferred_accounts {here : Site} {node : Node} {ctx : Context} (own : node.Loaded)
    (within : ctx.Within Loaded) {inside : Except CompileFault Members}
    (accounts : refers node.notes ctx.keyNotes = false → here.Accounts inside)
    (byReference : Value → Members) :
    here.Accounts
      (reference node.notes ctx.keyNotes >>= fun ref =>
        if ref.isNull then inside else finish node.notes (byReference ref)) := by
  obtain ⟨ref, found, inForce⟩ :=
    reference_isNull own.noted (keyNotes_noted Loaded.noted within)
  refine Site.Accounts.bind (.of_ok ⟨ref, found⟩) fun value same => ?_
  obtain rfl : ref = value := Except.ok.inj (found.symm.trans same)
  rw [inForce]
  cases inlined : refers node.notes ctx.keyNotes with
  | true => exact .of_ok (finish_ok own.noted _)
  | false => exact accounts inlined

/-- The field set of an object type, if it has one. -/
theorem visitFieldSet_accounts {o : Options} {here : Site} {ctx : Context} {fields : Node}
    (visited : fields ≠ plain .null → here.Accounts (visit o ctx.inner fields)) :
    here.Accounts (visitFieldSet o ctx fields) := by
  unfold visitFieldSet
  split
  · exact .of_ok ⟨_, rfl⟩
  · rename_i some
    exact visited some

theorem visitPlain_accounts {o : Options} {limit : Int} (limited : o.maxDepth = .int limit)
    (here : Site) (ctx : Context) (v : Value) : here.Accounts (visitPlain o ctx v) :=
  .enter limited (.diagnosed rfl)

/-! ## Visits -/

mutual

/-- The visit of a loaded tree is accounted for by its site. -/
theorem visit_accounts {o : Options} {limit : Int} (limited : o.maxDepth = .int limit) :
    ∀ (node : Node) (ctx : Context), ctx.Within Loaded → (∀ part ∈ node.parts, part.Loaded) →
      Site.Accounts ⟨ctx, node⟩ (visit o ctx node)
  | .nominal primitive notes, ctx, within, loaded => by
      have own := loaded _ List.mem_cons_self
      rw [visit]
      exact .enter limited (.of_ok (finish_ok own.noted _))
  | .constructor type fn notes, ctx, within, loaded => by
      obtain ⟨own, below⟩ := List.forall_mem_cons.mp loaded
      rw [visit]
      refine .enter limited (.bind (.lead .constructor ?_) fun fragment _ => ?_)
      · exact visit_accounts limited type ctx.inner within.inner below
      · exact .of_ok (finish_ok own.noted fragment)
  | .constrained type rule notes, ctx, within, loaded => by
      obtain ⟨own, below⟩ := List.forall_mem_cons.mp loaded
      obtain ⟨typeLoaded, ruleLoaded⟩ := List.forall_mem_append.mp below
      rw [visit]
      refine .enter limited (.bind (.lead .type ?_) fun base baseVisited =>
        .bind (.lead .rule ?_) fun extra visited => ?_)
      · exact visit_accounts limited type ctx.inner within.inner typeLoaded
      · exact visit_accounts limited rule _ (within.ruleFor _) ruleLoaded
      · exact .of_ok (joined_ok own.noted
          ((quiet_loaded o).visit within.inner typeLoaded baseVisited)
          ((quiet_loaded o).visit (within.ruleFor _) ruleLoaded visited))
  | .predicate name operand notes, ctx, within, loaded => by
      have own := loaded _ List.mem_cons_self
      rw [visit]
      refine .enter limited (.bind ?_ fun fragment _ => ?_)
      · exact predicateFragment_accounts o ctx name operand notes
      · exact .of_ok (finish_ok own.noted fragment)
  | .sum types notes, ctx, within, loaded => by
      obtain ⟨own, below⟩ := List.forall_mem_cons.mp loaded
      have enumerated : enumerable types = true :=
        enumerable_of_offers (offersAlternatives_of_loaded own) fun part held _ _ same =>
          offersAlternatives_of_loaded (same ▸ below part held)
      rw [visit, enumerated]
      refine .enter limited (.bind ?_ fun results _ => .of_ok (finish_ok own.noted _))
      exact visitAlternatives_accounts limited types ctx.alternative [] ⟨ctx, sum types notes⟩
        (fun node held => .alternative held) (slot_of_loaded own) within.alternative below (by simp)
  | .intersection left right notes, ctx, within, loaded => by
      obtain ⟨own, below⟩ := List.forall_mem_cons.mp loaded
      obtain ⟨leftLoaded, rightLoaded⟩ := List.forall_mem_append.mp below
      rw [visit]
      refine .enter limited (.bind (.lead .left ?_) fun base baseVisited =>
        .bind (.lead .right ?_) fun extra visited => ?_)
      · exact visit_accounts limited left ctx.inner within.inner leftLoaded
      · exact visit_accounts limited right _ (within.ruleFor _) rightLoaded
      · exact .of_ok (joined_ok own.noted
          ((quiet_loaded o).visit within.inner leftLoaded baseVisited)
          ((quiet_loaded o).visit (within.ruleFor _) rightLoaded visited))
  | .mapping fields notes, ctx, within, loaded => by
      obtain ⟨own, below⟩ := List.forall_mem_cons.mp loaded
      rw [visit_mapping]
      refine .enter limited (unlessReferred_accounts own within (fun inlined => ?_) _)
      refine .bind (visitFieldSet_accounts fun some => .lead (.mapping some inlined) ?_)
        fun fragment _ => .of_ok (finish_ok own.noted fragment)
      exact visit_accounts limited fields ctx.inner within.inner below
  | .aggregate name fields notes, ctx, within, loaded => by
      obtain ⟨own, below⟩ := List.forall_mem_cons.mp loaded
      rw [visit_aggregate]
      refine .enter limited (unlessReferred_accounts own within (fun inlined => ?_) _)
      refine .bind (visitFieldSet_accounts fun some => .lead (.aggregate some inlined) ?_)
        fun fragment _ => .of_ok (finish_ok own.noted fragment)
      exact visit_accounts limited fields ctx.inner within.inner below
  | .array member notes, ctx, within, loaded => by
      obtain ⟨own, below⟩ := List.forall_mem_cons.mp loaded
      rw [visit]
      refine .enter limited (.bind (.lead .element ?_) fun items visited => ?_)
      · exact visit_accounts limited member ctx.element within.element below
      · have memberLoaded := below member (mem_parts_self (isNode_of_visit visited))
        have built := arrayFragment_ok memberLoaded.noted memberLoaded.quiet.notes items
        exact .bind (.of_ok built) fun fragment _ => .of_ok (finish_ok own.noted fragment)
  | .schema keys notes, ctx, within, loaded => by
      obtain ⟨own, below⟩ := List.forall_mem_cons.mp loaded
      rw [visit]
      refine .enter limited (unlessReferred_accounts own within (fun inlined => ?_) _)
      refine .bind ?_ fun fields _ => .of_ok (finish_ok own.noted _)
      exact visitKeys_accounts limited keys ctx notes inlined own within below
  | .key name type required notes, ctx, within, loaded => by
      obtain ⟨own, below⟩ := List.forall_mem_cons.mp loaded
      rw [visit]
      refine .enter limited (.bind (.lead .field ?_) fun fragment _ => ?_)
      · exact visit_accounts limited type (ctx.field name notes) (.field own name) below
      · exact .of_ok (finish_ok own.noted fragment)
  | .enum type values notes, ctx, within, loaded => by
      obtain ⟨own, below⟩ := List.forall_mem_cons.mp loaded
      rw [visit]
      refine .enter limited (.bind (.lead .enum ?_) fun fragment _ => ?_)
      · exact visit_accounts limited type ctx.inner within.inner below
      · exact .of_ok (finish_ok own.noted fragment)
  | .lazy notes, ctx, within, loaded => .enter limited (.diagnosed rfl)
  | .bare notes, ctx, within, loaded => .enter limited (.diagnosed rfl)
  | .plain v, ctx, within, loaded => visitPlain_accounts limited _ ctx v

/-- The visits of alternatives are accounted for by a site that leads to them. -/
theorem visitAlternatives_accounts {o : Options} {limit : Int} (limited : o.maxDepth = .int limit) :
    ∀ (types : Children) (ctx : Context) (found : List Members) (here : Site),
      (∀ node, Alternative types node → Site.Leads here ⟨ctx, node⟩) →
      (∃ items, types = .nodes items) → ctx.Within Loaded →
      (∀ part ∈ partsOfSlot types, part.Loaded) → (∀ result ∈ found, QuietFragment result) →
      here.Accounts (visitAlternatives o ctx found types)
  | .nodes items, ctx, found, here, leads, _, within, loaded, quiet => by
      rw [visitAlternatives]
      exact visitEach_accounts limited items ctx found here leads within loaded quiet
  | .value v, _, _, _, _, slot, _, _, _ => by
      obtain ⟨items, same⟩ := slot
      cases same

/-- The same for some alternatives. -/
theorem visitEach_accounts {o : Options} {limit : Int} (limited : o.maxDepth = .int limit) :
    ∀ (nodes : List Node) (ctx : Context) (found : List Members) (here : Site),
      (∀ node, Alternative (.nodes nodes) node → Site.Leads here ⟨ctx, node⟩) →
      ctx.Within Loaded → (∀ part ∈ partsOfEach nodes, part.Loaded) →
      (∀ result ∈ found, QuietFragment result) → here.Accounts (visitEach o ctx found nodes)
  | [], _, _, _, _, _, _, _ => .of_ok ⟨_, rfl⟩
  | node :: rest, ctx, found, here, leads, within, loaded, quiet => by
      obtain ⟨first, others⟩ := List.forall_mem_append.mp loaded
      -- an alternative that is visited itself can be gathered with those before it
      have gathered (own : ∀ types notes, node = sum types notes → notes.truthy = true) :
          here.Accounts ((visit o ctx node).bind (gather found)) := by
        refine .bind (.lead (leads node (.single List.mem_cons_self own)) ?_)
          fun fragment visited => ?_
        · exact visit_accounts limited node ctx within first
        · exact .of_ok (gather_ok quiet ((quiet_loaded o).visit within first visited))
      have alternative : here.Accounts (visitAlternative o ctx found node) := by
        cases node with
        | sum types notes =>
            obtain ⟨own, below⟩ := List.forall_mem_cons.mp first
            rw [visitAlternative]
            split
            · rename_i noted
              exact gathered fun _ _ same => by cases same; exact noted
            · rename_i bare
              refine visitAlternatives_accounts limited types ctx found here (fun node held => ?_)
                (slot_of_loaded own) within below quiet
              exact leads node (.nested List.mem_cons_self (by simpa using bare) held)
        | _ => exact gathered fun _ _ same => by cases same
      rw [visitEach_cons]
      refine .bind alternative fun next done => ?_
      refine visitEach_accounts limited rest ctx next here (fun node held => leads node held.cons)
        within others ?_
      have single : visitEach o ctx found [node] = .ok next := by
        rw [visitEach_cons, done]
        rfl
      exact (quiet_loaded o).visitEach within (by simpa [partsOfEach] using first) quiet single

/-- The visits of the fields in a slot are accounted for by the field set. -/
theorem visitKeys_accounts {o : Options} {limit : Int} (limited : o.maxDepth = .int limit) :
    ∀ (keys : Children) (ctx : Context) (notes : Value), refers notes ctx.keyNotes = false →
      (schema keys notes).Loaded → ctx.Within Loaded → (∀ part ∈ partsOfSlot keys, part.Loaded) →
      Site.Accounts ⟨ctx, schema keys notes⟩ (visitKeys o ctx.inner keys)
  | .nodes items, ctx, notes, inlined, own, within, loaded => by
      obtain ⟨_, ⟨⟩, fields⟩ := fields_of_loaded own
      rw [visitKeys]
      exact visitFields_accounts limited items ctx.inner {} ⟨ctx, schema (.nodes items) notes⟩
        (fun node held => .member held inlined)
        (fun name type required own held unkeyed => .fieldName held inlined unkeyed)
        fields within.inner loaded
  | .value v, ctx, notes, inlined, own, within, loaded => by
      obtain ⟨_, same, -⟩ := fields_of_loaded own
      cases same

/-- The same for some fields. -/
theorem visitFields_accounts {o : Options} {limit : Int} (limited : o.maxDepth = .int limit) :
    ∀ (nodes : List Node) (ctx : Context) (found : Fields) (here : Site),
      (∀ node ∈ nodes, Site.Leads here ⟨ctx, node⟩) →
      (∀ name type required notes, key name type required notes ∈ nodes → name.isKey = false →
        here.Unfit .illTyped) →
      (∀ node ∈ nodes, node.isKey = true) → ctx.Within Loaded →
      (∀ part ∈ partsOfEach nodes, part.Loaded) → here.Accounts (visitFields o ctx found nodes)
  | [], _, _, _, _, _, _, _, _ => .of_ok ⟨_, rfl⟩
  | node :: rest, ctx, found, here, leads, unfit, fields, within, loaded => by
      obtain ⟨first, others⟩ := List.forall_mem_append.mp loaded
      obtain ⟨field, laterFields⟩ := List.forall_mem_cons.mp fields
      obtain ⟨lead, laterLeads⟩ := List.forall_mem_cons.mp leads
      have added (fragment : Members) : here.Accounts (found.add node fragment) := by
        cases node with
        | key name type required notes =>
            by_cases keyed : name.isKey = true
            · exact .of_ok (add_keyed_ok keyed found fragment)
            · have unkeyed : name.isKey = false := by simpa using keyed
              rw [add_unkeyed unkeyed]
              exact .unfit (unfit name type required notes List.mem_cons_self unkeyed)
        | _ => cases field
      rw [visitFields]
      refine .bind (.lead lead (visit_accounts limited node ctx within first)) fun fragment _ =>
        .bind (added fragment) fun next _ => ?_
      exact visitFields_accounts limited rest ctx next here laterLeads
        (fun name type required notes held =>
          unfit name type required notes (List.mem_cons_of_mem _ held))
        laterFields within others

end

/-! ## Compilations -/

/-- The root of a loaded description accounts for what its compilation fails with. -/
theorem compile_accounts {o : Options} {limit : Int} (limited : o.maxDepth = .int limit)
    {node : Node} (loaded : ∀ part ∈ node.parts, part.Loaded) :
    Site.Accounts ⟨Context.root, node⟩ (node.compile o) :=
  .bind (visit_accounts limited node Context.root Context.Within.root loaded) fun _ _ =>
    .of_ok ⟨_, rfl⟩

/-- What an unfit site gives is no diagnosis, neither by itself nor in the end. -/
theorem not_diagnosis_of_unfit {site : Site} {fault : CompileFault} (unfit : site.Unfit fault) :
    fault.failure.kind.isDiagnosis = false := by
  cases unfit with
  | operand listed refused =>
      rename_i fault
      cases fault <;> rfl
  | predicateName | fieldName => rfl

/-- The command line stops at a fault of the compilation. -/
theorem command_of_error {o : Options} {node : Node} {fault : CompileFault}
    (failed : node.compile o = .error fault) :
    Command.compile ⟨o, node⟩ = .error (.ofFailure fault.failure) := by
  simp [Command.compile, failed, Except.mapError, bind, Except.bind]

/-- A loaded description that has a document has no unfit site.  What the compilation of any
other fails with is a diagnosis, and the user of the command line is told, but for a diagnosis
that cannot be shown; or it is the fault of an unfit site, and that escapes. -/
theorem compile_diagnosed {o : Options} {tree : Value} {node : Node} {limit : Int}
    (decoded : tree.isDecoded = true) (loaded : load tree = .ok node)
    (limited : o.maxDepth = .int limit) :
    (∀ document, node.compile o = .ok document →
        ∀ site fault, Site.Reaches ⟨Context.root, node⟩ site → ¬ site.Unfit fault) ∧
      ∀ fault, node.compile o = .error fault →
        (fault.failure.kind ∈ [.tooDeep, .unsupportedNode, .unknownPredicate] ∧
            Command.compile ⟨o, node⟩ = .error (.told fault.failure.message)) ∨
          (fault.isDiagnosis = true ∧ fault.shown.isTooLong = true ∧
            Command.compile ⟨o, node⟩ = .error (.escaped .unshown)) ∨
          ∃ site, Site.Reaches ⟨Context.root, node⟩ site ∧ site.Unfit fault ∧
            Command.compile ⟨o, node⟩ = .error (.escaped fault.failure) := by
  constructor
  · intro document compiled site fault reached unfit
    obtain ⟨whole, visited, -⟩ := bind_eq_ok.mp compiled
    obtain ⟨fragment, visited⟩ := reached.visited visited
    exact unfit.not_visited visited
  · intro fault failed
    have stopped := command_of_error failed
    rcases compile_accounts limited (loaded_of_load decoded loaded) fault failed with
      diagnosis | ⟨site, reached, unfit⟩
    · by_cases long : fault.shown.isTooLong = true
      · rw [CompileFault.failure_of_long diagnosis long, Command.Stop.ofFailure,
          if_neg (by decide)] at stopped
        exact .inr (.inl ⟨diagnosis, long, stopped⟩)
      · have kind := CompileFault.kind_of_isDiagnosis diagnosis (Bool.eq_false_iff.mpr long)
        have each : ∀ kind ∈ [Failure.Kind.tooDeep, .unsupportedNode, .unknownPredicate],
            kind.isDiagnosis = true := by decide
        rw [Command.Stop.ofFailure, if_pos (each _ kind)] at stopped
        exact .inl ⟨kind, stopped⟩
    · have silent := not_diagnosis_of_unfit unfit
      rw [Command.Stop.ofFailure, if_neg (by simp [silent])] at stopped
      exact .inr (.inr ⟨site, reached, unfit, stopped⟩)

def ruledTree (name operand : Value) : Value :=
  .dict (Members.named [("kind", .str "constrained"),
    ("type", .dict (Members.named [("kind", .str "nominal"), ("primitive", .str "string")])),
    ("rule", .dict (Members.named [("kind", .str "predicate"), ("name", name),
      ("operand", operand)]))])

def ruledNode (name operand : Value) : Node :=
  constrained (nominal (.primitive .string) (.dict [])) (predicate name operand (.dict []))
    (.dict [])

theorem compile_diagnosed_palindrome :
    load (ruledTree (.str "palindrome?") .null) = .ok (ruledNode (.str "palindrome?") .null) ∧
      (ruledNode (.str "palindrome?") .null).compile {} =
        .error (.unknownPredicate (.str "palindrome?")) ∧
      Command.compile ⟨{}, ruledNode (.str "palindrome?") .null⟩ =
        .error (.told "Unknown predicate: palindrome?") := by
  have loaded : load (ruledTree (.str "palindrome?") .null) =
      .ok (ruledNode (.str "palindrome?") .null) := rfl
  have failed : (ruledNode (.str "palindrome?") .null).compile {} =
      .error (.unknownPredicate (.str "palindrome?")) := rfl
  refine ⟨loaded, failed, ?_⟩
  rcases (compile_diagnosed rfl loaded rfl).2 _ failed with
    ⟨-, told⟩ | ⟨-, long, -⟩ | ⟨site, -, unfit, -⟩
  · exact told
  · cases long
  · cases unfit

/-- A name that is no key and an operand that is no numeral pass the loader and are not
diagnosed: what they give escapes. -/
theorem compile_undiagnosed :
    load (ruledTree (.list [.str "palindrome?"]) .null) =
        .ok (ruledNode (.list [.str "palindrome?"]) .null) ∧
      (ruledNode (.list [.str "palindrome?"]) .null).compile {} = .error .illTyped ∧
      Command.compile ⟨{}, ruledNode (.list [.str "palindrome?"]) .null⟩ =
        .error (.escaped ⟨.wrongType, ""⟩) ∧
      load (ruledTree (.str "min_size?") (.str "many")) =
        .ok (ruledNode (.str "min_size?") (.str "many")) ∧
      (ruledNode (.str "min_size?") (.str "many")).compile {} =
        .error (.conversion (.badNumeral (.str "many"))) ∧
      Command.compile ⟨{}, ruledNode (.str "min_size?") (.str "many")⟩ =
        .error (.escaped ⟨.badValue, "invalid literal for int() with base 10: 'many'"⟩) :=
  ⟨rfl, rfl, rfl, rfl, rfl, rfl⟩

end Node

end Draftsman
