/-
# Draftsman.Proofs.Unions -- unions as sets of alternatives

A union without notes is taken over by the union that holds it, so what a union offers is a list
of alternatives (`Node.disjuncts`), each visited in the same context, whatever their grouping
(`visitAlternatives_eq`).  What is kept of their fragments is told without the visit: the first of
each group of equal ones, in order (`FirstSeen`).

So two unions whose alternatives have the same fragments, in any order and any number, keep lists
that can be matched one by one (`FirstSeen.matched`), and have the same fragment but for the order
of its alternatives (`visit_union`).

Signaling decimals are left out: which of two fragments is compared with the other decides whether
the comparison comes upon one of them (`visit_union_signaling`).
-/
import Draftsman.Proofs.Depth
import Draftsman.Proofs.Nesting
import Draftsman.Proofs.Proper
import Draftsman.Proofs.Quiet

namespace Draftsman

set_option autoImplicit false

open Value

namespace Node

/-! ## Alternatives -/

mutual

/-- The alternatives in a slot; a union without notes stands for its own. -/
def disjuncts : Children → List Node
  | .nodes items => disjunctsOfEach items
  | .value v => (v.items?.getD []).map plain

def disjunctsOfEach : List Node → List Node
  | [] => []
  | sum types notes :: rest =>
      (if notes.truthy then [sum types notes] else disjuncts types) ++ disjunctsOfEach rest
  | node :: rest => node :: disjunctsOfEach rest

end

/-- Visits an alternative and adds its fragment to those found so far. -/
def takeIn (o : Options) (ctx : Context) (found : List Members) (node : Node) :
    Except CompileFault (List Members) :=
  visit o ctx node >>= gather found

variable {o : Options} {ctx : Context}

mutual

/-- Visiting what is in a slot is visiting its alternatives one after the other. -/
theorem visitAlternatives_eq (o : Options) (ctx : Context) : ∀ (types : Children)
    (found : List Members), enumerable types = true →
      visitAlternatives o ctx found types = (disjuncts types).foldlM (takeIn o ctx) found
  | .nodes items, found, listed => by
      rw [visitAlternatives, disjuncts]
      exact visitEach_eq o ctx items found listed
  | .value v, found, listed => by
      obtain ⟨items, offered⟩ := Option.isSome_iff_exists.mp listed
      rw [visitAlternatives, disjuncts, offered]
      -- a value that is no node fails, so that none is ever taken in
      cases items with
      | nil => rfl
      | cons item rest =>
          simp only [typed, visitPlains, Option.getD_some, List.map_cons, List.foldlM_cons, takeIn,
            visit, visitPlain, bind, Except.bind, Except.map]
          cases o.allow ctx.depth <;> rfl

theorem visitEach_eq (o : Options) (ctx : Context) : ∀ (nodes : List Node)
    (found : List Members), allEnumerable nodes = true →
      visitEach o ctx found nodes = (disjunctsOfEach nodes).foldlM (takeIn o ctx) found
  | [], found, _ => rfl
  | node :: rest, found, listed => by
      rw [visitEach_cons]
      cases node with
      | sum types notes =>
          obtain ⟨own, later⟩ := Bool.and_eq_true_iff.mp listed
          rw [visitAlternative, disjunctsOfEach, List.foldlM_append]
          by_cases noted : notes.truthy = true
          · simp only [if_pos noted, List.foldlM_cons, List.foldlM_nil, bind_pure]
            exact bind_congr fun next => visitEach_eq o ctx rest next later
          · have flat : enumerable types = true := by simpa [noted] using own
            rw [if_neg noted, if_neg noted, visitAlternatives_eq o ctx types found flat]
            exact bind_congr fun next => visitEach_eq o ctx rest next later
      | _ => exact bind_congr fun next => visitEach_eq o ctx rest next listed

end

mutual

/-- The nodes of an alternative are among those of the slot. -/
theorem parts_of_disjunct : ∀ (types : Children) {node : Node}, node ∈ disjuncts types →
    ∀ part ∈ node.parts, part ∈ partsOfSlot types
  | .nodes items, _, held => parts_of_disjunctOfEach items held
  | .value v, node, held => by
      obtain ⟨item, -, rfl⟩ := List.mem_map.mp held
      exact nofun

theorem parts_of_disjunctOfEach : ∀ (nodes : List Node) {node : Node},
    node ∈ disjunctsOfEach nodes → ∀ part ∈ node.parts, part ∈ partsOfEach nodes
  | [], _, held => nomatch held
  | first :: rest, node, held => by
      intro part there
      rw [partsOfEach, List.mem_append]
      cases first with
      | sum types notes =>
          rcases List.mem_append.mp held with own | later
          · left
            split at own
            · obtain rfl := List.mem_singleton.mp own
              exact there
            · exact List.mem_cons_of_mem _ (parts_of_disjunct types own part there)
          · exact .inr (parts_of_disjunctOfEach rest later part there)
      | _ =>
          rcases List.mem_cons.mp held with rfl | later
          · exact .inl there
          · exact .inr (parts_of_disjunctOfEach rest later part there)

end

/-- What the visit of a slot keeps, once its alternatives have fragments. -/
theorem foldlM_takeIn {nodes : List Node} {fragments : List Members}
    (compiled : nodes.mapM (visit o ctx) = .ok fragments) (found : List Members) :
    nodes.foldlM (takeIn o ctx) found =
      decided (fragments.foldlM (addNew? Fragment.same?) found) := by
  have each := mapM_eq_ok.mp compiled
  clear compiled
  induction each generalizing found with
  | nil => rfl
  | @cons node fragment rest others visited later ih =>
      rw [List.foldlM_cons, List.foldlM_cons, takeIn, visited]
      cases added : addNew? Fragment.same? found fragment with
      | none => simp [gather, added, decided, bind, Except.bind]
      | some next =>
          simp only [gather, added, decided, bind, Except.bind, Option.bind_some]
          exact ih next

/-! ## Different fragments -/

/-- Of each group of equal fragments the first, in order. -/
structure FirstSeen (fragments results : List Members) : Prop where
  ordered : results.Sublist fragments
  apart : results.Pairwise fun a b => Fragment.equalApart a b = false
  /-- Each fragment is kept, or one from before it that counts as the same. -/
  covers : ∀ {before fragment after}, fragments = before ++ fragment :: after →
    fragment ∈ results ∨
      ∃ kept ∈ results, kept ∈ before ∧ Fragment.equalApart kept fragment = true

theorem firstSeen_of_distinct {fragments results : List Members}
    (kept : fragments.foldlM (addNew? Fragment.same?) [] = some results) :
    FirstSeen fragments results where
  ordered := by simpa using foldlM_sublist kept
  apart := (foldlM_pairwise List.Pairwise.nil kept).imp Value.same?_eq_some
  covers := by
    rintro before fragment after rfl
    obtain ⟨own, held, rfl | ⟨there, same⟩⟩ := foldlM_covers kept
    · exact .inl held
    · have earlier : own ∈ before := by simpa using there
      exact .inr ⟨own, held, earlier, Value.same?_eq_some same⟩

/-- Two lists with the same fragments in them: each of either list counts as the same as one of the
other. -/
structure SameSet (fragments fragments' : List Members) : Prop where
  left : ∀ fragment ∈ fragments, ∃ other ∈ fragments', Fragment.equalApart fragment other = true
  right : ∀ fragment ∈ fragments', ∃ other ∈ fragments, Fragment.equalApart fragment other = true

/-- Fragments that can be compared either way round. -/
def ProperFragments (fragments : List Members) : Prop :=
  ∀ fragment ∈ fragments, (dict fragment).isProper = true

theorem equal_flip {a b : Members} (proper : (dict a).isProper = true)
    (proper' : (dict b).isProper = true) : Fragment.equalApart b a = Fragment.equalApart a b := by
  rw [Bool.eq_iff_iff]
  exact ⟨Value.equalApart_symm proper' proper, Value.equalApart_symm proper proper'⟩

namespace FirstSeen

variable {fragments results fragments' results' : List Members}

theorem exists_kept (seen : FirstSeen fragments results) {fragment : Members}
    (held : fragment ∈ fragments) :
    ∃ kept ∈ results, kept = fragment ∨ Fragment.equalApart kept fragment = true := by
  obtain ⟨before, after, same⟩ := List.append_of_mem held
  rcases seen.covers same with own | ⟨kept, there, -, equal⟩
  · exact ⟨fragment, own, .inl rfl⟩
  · exact ⟨kept, there, .inr equal⟩

theorem proper (seen : FirstSeen fragments results) (proper : ProperFragments fragments) :
    ProperFragments results :=
  fun result held => proper result (seen.ordered.subset held)

/-- What is kept of one list has an equal in what is kept of another one with the same set. -/
theorem total (seen : FirstSeen fragments results) (seen' : FirstSeen fragments' results')
    (proper' : ProperFragments fragments')
    (covered : ∀ fragment ∈ fragments, ∃ other ∈ fragments', Fragment.equalApart fragment other = true) :
    ∀ result ∈ results, ∃ other ∈ results', Fragment.equalApart result other = true := by
  intro result held
  obtain ⟨fragment, there, same⟩ := covered result (seen.ordered.subset held)
  obtain ⟨other, kept, rfl | equal⟩ := seen'.exists_kept there
  · exact ⟨other, kept, same⟩
  · have back := equal_flip (seen'.proper proper' other kept) (proper' fragment there)
    exact ⟨other, kept, Value.equalApart_trans same (back.trans equal)⟩

/-- No two of the kept fragments have one equal. -/
theorem unshared (seen : FirstSeen fragments results) (seen' : FirstSeen fragments' results')
    (proper : ProperFragments fragments) (proper' : ProperFragments fragments') :
    results.Pairwise fun a b => ∀ other ∈ results', Fragment.equalApart a other = true →
      ¬Fragment.equalApart b other = true := by
  refine seen.apart.imp_of_mem fun {a b} _ there differ other held one two => ?_
  have back := equal_flip (seen.proper proper b there) (seen'.proper proper' other held)
  have same : Fragment.equalApart a b = true := Value.equalApart_trans one (back.trans two)
  exact Bool.false_ne_true (differ.symm.trans same)

/-- What is kept of two lists with the same set can be matched one by one. -/
theorem matched (seen : FirstSeen fragments results) (seen' : FirstSeen fragments' results')
    (proper : ProperFragments fragments) (proper' : ProperFragments fragments')
    (same : SameSet fragments fragments') :
    ∃ order, order.Perm results' ∧
      List.Forall₂ (fun a b => Fragment.equalApart a b = true) results order := by
  obtain ⟨back, among, matched⟩ := exists_matching (seen'.unshared seen proper' proper)
    (seen'.total seen proper same.right)
  exact exists_whole_matching (seen.unshared seen' proper proper')
    (seen.total seen' proper' same.left) (matched.length_eq ▸ among.length_le)

end FirstSeen

/-! ## The fragment of a union -/

/-- One alternative and the type null, in either order. -/
def BesideNull (results : List Members) (fragment : Members) : Prop :=
  ∃ nothing, Fragment.equalApart nothing nullEntry = true ∧
    (results = [fragment, nothing] ∨ results = [nothing, fragment])

/-- What different alternatives come to: one is itself; one beside null is marked at top level;
else they are listed. -/
inductive UnionOf (topLevel : Bool) (results : List Members) : Members → Prop where
  | single {fragment : Members} (only : results = [fragment]) : UnionOf topLevel results fragment
  | marked {fragment : Members} (top : topLevel = true) (beside : BesideNull results fragment) :
      UnionOf topLevel results (Members.insert (.str "nullable") (.bool true) fragment)
  | listed (many : results.length ≠ 1)
      (plain : topLevel = true → ∀ fragment, ¬BesideNull results fragment) :
      UnionOf topLevel results
        (Fragment.ofKeywords [("anyOf", .list (results.map Value.dict))])

theorem BesideNull.length {results : List Members} {fragment : Members}
    (beside : BesideNull results fragment) : results.length = 2 := by
  obtain ⟨nothing, -, rfl | rfl⟩ := beside <;> rfl

theorem BesideNull.of_pair {a b fragment : Members} (beside : BesideNull [a, b] fragment) :
    Fragment.equalApart a nullEntry = true ∨ Fragment.equalApart b nullEntry = true := by
  obtain ⟨nothing, isNull, same | same⟩ := beside
  · obtain ⟨rfl, rfl⟩ : a = fragment ∧ b = nothing := by simpa using same
    exact .inr isNull
  · obtain ⟨rfl, rfl⟩ : a = nothing ∧ b = fragment := by simpa using same
    exact .inl isNull

theorem unionOf_sumFragment (topLevel : Bool) (results : List Members) :
    UnionOf topLevel results (sumFragment topLevel results) := by
  have listed (many : results.length ≠ 1) (other : results.length ≠ 2) :
      UnionOf topLevel results
        (Fragment.ofKeywords [("anyOf", .list (results.map Value.dict))]) :=
    .listed many fun _ _ beside => other beside.length
  rcases results with _ | ⟨a, _ | ⟨b, _ | ⟨c, rest⟩⟩⟩
  · exact listed (by simp) (by simp)
  · exact .single rfl
  · rw [sumFragment]
    split
    · rename_i marked
      obtain ⟨top, either⟩ := Bool.and_eq_true_iff.mp marked
      split
      · rename_i first
        exact .marked top ⟨a, first, .inr rfl⟩
      · rename_i other
        exact .marked top ⟨b, (Bool.or_eq_true_iff.mp either).resolve_left other, .inl rfl⟩
    · rename_i plain
      refine .listed (by simp) fun top fragment beside => plain ?_
      rw [top, Bool.true_and, Bool.or_eq_true_iff]
      exact beside.of_pair
  · exact listed (by simp) (by simp)

section Matched

variable {results results' : List Members} {fragment other : Members}

/-- What is equal to null is so all round. -/
theorem null_of_equal (proper : (dict fragment).isProper = true)
    (proper' : (dict other).isProper = true) (same : Fragment.equalApart fragment other = true)
    (isNull : Fragment.equalApart fragment nullEntry = true) :
    Fragment.equalApart other nullEntry = true :=
  Value.equalApart_trans ((equal_flip proper proper').trans same) isNull

theorem equal_of_null (proper : (dict other).isProper = true)
    (isNull : Fragment.equalApart fragment nullEntry = true)
    (isNull' : Fragment.equalApart other nullEntry = true) : Fragment.equalApart fragment other = true :=
  Value.equalApart_trans isNull ((equal_flip proper (by decide)).trans isNull')

/-- What stands beside null is not null as well. -/
theorem BesideNull.not_null (apart : results.Pairwise fun a b => Fragment.equalApart a b = false)
    (proper : ProperFragments results) (beside : BesideNull results fragment) :
    ¬Fragment.equalApart fragment nullEntry = true := by
  intro isNull
  obtain ⟨nothing, isNull', rfl | rfl⟩ := beside
  · have differ : Fragment.equalApart fragment nothing = false := by simpa using apart
    have same := equal_of_null (proper nothing (by simp)) isNull isNull'
    exact Bool.false_ne_true (differ.symm.trans same)
  · have differ : Fragment.equalApart nothing fragment = false := by simpa using apart
    have same := equal_of_null (proper fragment (by simp)) isNull' isNull
    exact Bool.false_ne_true (differ.symm.trans same)

/-- If null is one of two alternatives, it is one of two with the same set. -/
theorem BesideNull.transport (proper : ProperFragments results)
    (proper' : ProperFragments results') (size : results.length = results'.length)
    (total : ∀ result ∈ results, ∃ other ∈ results', Fragment.equalApart result other = true)
    (beside : BesideNull results fragment) : ∃ other, BesideNull results' other := by
  obtain ⟨a, b, rfl⟩ := List.length_eq_two.mp (size ▸ beside.length)
  obtain ⟨nothing, isNull, both⟩ := beside
  have held : nothing ∈ results := by rcases both with rfl | rfl <;> simp
  obtain ⟨other, there, same⟩ := total nothing held
  have null := null_of_equal (proper nothing held) (proper' other there) same isNull
  rcases List.mem_pair.mp there with rfl | rfl
  · exact ⟨b, other, null, .inr rfl⟩
  · exact ⟨a, other, null, .inl rfl⟩

theorem BesideNull.mem (beside : BesideNull results fragment) : fragment ∈ results := by
  obtain ⟨nothing, -, rfl | rfl⟩ := beside <;> simp

theorem UnionOf.named {topLevel : Bool} {union : Members} (shape : UnionOf topLevel results union)
    (each : ∀ result ∈ results, result.Named) : union.Named := by
  cases shape with
  | single only => exact each _ (only ▸ List.mem_singleton_self _)
  | marked _ beside => exact (each _ beside.mem).insert rfl _
  | listed _ _ => exact Document.named_ofKeywords (by simp)

/-- What stands beside null is equal to what does so in a list with the same set. -/
theorem BesideNull.equal (apart : results.Pairwise fun a b => Fragment.equalApart a b = false)
    (proper : ProperFragments results) (proper' : ProperFragments results')
    (total : ∀ result ∈ results, ∃ other ∈ results', Fragment.equalApart result other = true)
    (beside : BesideNull results fragment) (beside' : BesideNull results' other) :
    Fragment.equalApart fragment other = true := by
  have held := beside.mem
  obtain ⟨own, there, same⟩ := total fragment held
  have aside : ¬Fragment.equalApart own nullEntry = true := fun isNull =>
    beside.not_null apart proper (null_of_equal (proper' own there) (proper fragment held)
      ((equal_flip (proper fragment held) (proper' own there)).trans same) isNull)
  obtain ⟨nothing, isNull, rfl | rfl⟩ := beside'
  · rcases List.mem_pair.mp there with rfl | rfl
    · exact same
    · exact absurd isNull aside
  · rcases List.mem_pair.mp there with rfl | rfl
    · exact absurd isNull aside
    · exact same

end Matched

/-! ## Up to order -/

/-- A fragment with its alternatives in another order is equal to another fragment. -/
def UpToOrder (first second : Members) : Prop :=
  Fragment.equal first second = true ∨
    ∃ items order, Members.get? "anyOf" second = some (.list items) ∧ order.Perm items ∧
      Fragment.equal first (Members.insert (.str "anyOf") (.list order) second) = true

theorem equal_alternatives {results order : List Members}
    (matched : List.Forall₂ (fun a b => Fragment.equalApart a b = true) results order) :
    (list (results.map Value.dict)).equal (list (order.map Value.dict)) = true := by
  induction matched with
  | nil => rfl
  | cons same _ ih => exact Bool.and_eq_true_iff.mpr ⟨equal_of_equalApart same, ih⟩

theorem upToOrder_of_unionOf {fragments results fragments' results' : List Members}
    (seen : FirstSeen fragments results) (seen' : FirstSeen fragments' results')
    (proper : ProperFragments fragments) (proper' : ProperFragments fragments')
    (named : ∀ fragment ∈ fragments, fragment.Named)
    (named' : ∀ fragment ∈ fragments', fragment.Named)
    (same : SameSet fragments fragments') {topLevel : Bool} {first second : Members}
    (shape : UnionOf topLevel results first) (shape' : UnionOf topLevel results' second) :
    UpToOrder first second := by
  obtain ⟨order, whole, matched⟩ := seen.matched seen' proper proper' same
  have size : results.length = results'.length := matched.length_eq.trans whole.length_eq
  have total := seen.total seen' proper' same.left
  have total' := seen'.total seen proper same.right
  cases shape with
  | single only =>
      subst only
      cases shape' with
      | single only' =>
          subst only'
          obtain rfl := List.perm_singleton.mp whole
          obtain ⟨one, -⟩ := List.forall₂_cons.mp matched
          exact .inl (equal_of_equalApart one)
      | marked _ beside => simp [beside.length] at size
      | listed many _ => exact absurd size.symm many
  | marked top beside =>
      cases shape' with
      | single only' => simp [only', beside.length] at size
      | marked _ beside' =>
          have one :=
            beside.equal seen.apart (seen.proper proper) (seen'.proper proper') total beside'
          have held := seen.ordered.subset beside.mem
          have held' := seen'.ordered.subset beside'.mem
          have byName := (Fragment.equal_iff_sameByName (named _ held) (named' _ held')).mp
            (equal_of_equalApart one)
          exact .inl ((Fragment.equal_iff_sameByName ((named _ held).insert rfl _)
            ((named' _ held').insert rfl _)).mpr (byName.insert "nullable" _))
      | listed _ plain =>
          obtain ⟨other, beside'⟩ :=
            beside.transport (seen.proper proper) (seen'.proper proper') size total
          exact absurd beside' (plain top other)
  | listed many plain =>
      cases shape' with
      | single only' => simp [only', size] at many
      | marked top beside' =>
          obtain ⟨other, beside⟩ :=
            beside'.transport (seen'.proper proper') (seen.proper proper) size.symm total'
          exact absurd beside (plain top other)
      | listed _ _ =>
          refine .inr ⟨_, order.map Value.dict, rfl, whole.map _, ?_⟩
          exact equal_dict_iff.mpr ⟨rfl, fun member held => by
            obtain rfl := List.mem_singleton.mp held
            exact ⟨_, List.mem_singleton_self _, equal_str_self _, equal_alternatives matched⟩⟩

/-- Notes are laid over either of two such fragments. -/
theorem finish_agree {first second : Members} (named : first.Named) (named' : second.Named)
    (same : UpToOrder first second) (notes : Value) :
    Agree UpToOrder (finish notes first) (finish notes second) := by
  rw [finish, finish, overlay, overlay]
  cases picked : annotations annotationNames notes with
  | none => exact .error _
  | some own =>
      have different : annotationNames.Nodup := by decide
      have ownNamed := annotations_named different picked
      have finished := named_annotated different picked named
      have finished' := named_annotated different picked named'
      refine .ok ?_
      rcases same with equal | ⟨items, order, found, whole, equal⟩
      · have byName := (Fragment.equal_iff_sameByName named named').mp equal
        exact .inl ((Fragment.equal_iff_sameByName finished finished').mpr (byName.update ownNamed))
      · have other : "anyOf" ∉ annotationNames := by decide
        have byName := (Fragment.equal_iff_sameByName named (named'.insert rfl _)).mp equal
        have laid : Fragment.SameByName (Members.update first own)
            (Members.insert (.str "anyOf") (.list order) (Members.update second own)) := by
          intro name
          have rel := byName.update ownNamed name
          rw [Members.get?_insert rfl]
          -- the notes say nothing about alternatives
          split
          · rename_i here
            subst here
            rwa [get?_update_annotations different picked other (Members.insert _ _ _),
              Members.get?_insert rfl, if_pos rfl] at rel
          · rename_i there
            rwa [Members.get?_update ownNamed name (Members.insert _ _ _),
              Members.get?_insert rfl, if_neg there, ← Members.get?_update ownNamed] at rel
        refine .inr ⟨items, order, ?_, whole, ?_⟩
        · rw [get?_update_annotations different picked other, found]
        · exact (Fragment.equal_iff_sameByName finished (finished'.insert rfl _)).mpr laid

/-! ## Visiting a union -/

/-- A union whose alternatives have fragments has what the different ones of them come to. -/
theorem visit_sum_eq {types : Children} {fragments results : List Members} (notes : Value)
    (listed : enumerable types = true)
    (compiled : (disjuncts types).mapM (visit o ctx.alternative) = .ok fragments)
    (kept : distinct? Fragment.same? fragments = some results) :
    visit o ctx (sum types notes) =
      o.allow ctx.depth >>= fun _ => finish notes (sumFragment ctx.topLevel results) := by
  have found : visitAlternatives o ctx.alternative [] types = .ok results := by
    rw [visitAlternatives_eq o ctx.alternative types [] listed, foldlM_takeIn compiled]
    exact congrArg decided kept
  simp [visit, listed, found, bind, Except.bind]

/-- What is kept of the nodes that fit is kept of the fragments of alternatives that do. -/
theorem holds_of_disjuncts {fits : Node → Prop} {holds : Context → Members → Prop}
    (kept : Kept o fits holds) {types : Children} {fragments : List Members}
    (outer : fits (bare ctx.keyNotes)) (fit : ∀ part ∈ partsOfSlot types, fits part)
    (compiled : (disjuncts types).mapM (visit o ctx.alternative) = .ok fragments) :
    ∀ fragment ∈ fragments, holds ctx.alternative fragment := by
  intro fragment held
  obtain ⟨node, there, visited⟩ := exists_of_matching (mapM_eq_ok.mp compiled) held
  exact kept.visit (.inr ⟨bare ctx.keyNotes, outer, rfl⟩)
    (fun part inside => fit part (parts_of_disjunct types there part inside)) visited

/-- A node with values as they should be, that can be compared with any others. -/
structure ComparableValues (node : Node) : Prop where
  quiet : node.QuietValues
  proper : node.ProperValues

theorem comparable_bare {notes : Value} (quiet : notes.isQuiet = true)
    (proper : notes.isProper = true) : (bare notes).ComparableValues :=
  ⟨⟨quiet, nofun, nofun⟩, ⟨proper, nofun, nofun⟩⟩

/-- What a union comes to, of which the alternatives have comparable fragments. -/
theorem exists_unionOf {types : Children} {fragments : List Members} (notes : Value)
    (listed : enumerable types = true)
    (compiled : (disjuncts types).mapM (visit o ctx.alternative) = .ok fragments)
    (quiet : ∀ fragment ∈ fragments, QuietFragment fragment) :
    ∃ results, FirstSeen fragments results ∧ visit o ctx (sum types notes) =
      o.allow ctx.depth >>= fun _ => finish notes (sumFragment ctx.topLevel results) := by
  obtain ⟨results, kept⟩ := Option.isSome_iff_exists.mp
    (foldlM_isSome QuietFragment (fun _ _ => Fragment.same?_of_quiet) (List.forall_mem_nil _) quiet)
  exact ⟨results, firstSeen_of_distinct kept, visit_sum_eq notes listed compiled kept⟩

/-- A union depends on the set of the different fragments of its alternatives only, up to the
order in which they are listed. -/
theorem visit_union {types types' : Children} {notes : Value} {fragments fragments' : List Members}
    (fit : ∀ part ∈ partsOfSlot types ++ partsOfSlot types', part.ComparableValues)
    (outer : ctx.keyNotes.isQuiet = true ∧ ctx.keyNotes.isProper = true)
    (listed : enumerable types = true) (listed' : enumerable types' = true)
    (compiled : (disjuncts types).mapM (visit o ctx.alternative) = .ok fragments)
    (compiled' : (disjuncts types').mapM (visit o ctx.alternative) = .ok fragments')
    (same : SameSet fragments fragments') :
    Agree UpToOrder (visit o ctx (sum types notes)) (visit o ctx (sum types' notes)) ∧
      (fragments ≠ [] → (annotations annotationNames notes).isSome = true →
        ∃ whole, visit o ctx (sum types notes) = .ok whole) ∧
      ∃ results union, FirstSeen fragments results ∧ UnionOf ctx.topLevel results union ∧
        visit o ctx (sum types notes) =
          o.allow ctx.depth >>= fun _ => finish notes union := by
  obtain ⟨fits, fits'⟩ := List.forall_mem_append.mp fit
  have around := comparable_bare outer.1 outer.2
  have quiet := (quietValues_kept o).weaken ComparableValues.quiet
  have proper := (proper_kept o).weaken ComparableValues.proper
  have named : Kept o ComparableValues fun _ => Members.Named :=
    (named_kept o).weaken fun _ => trivial
  obtain ⟨results, seen, visited⟩ :=
    exists_unionOf notes listed compiled (holds_of_disjuncts quiet around fits compiled)
  obtain ⟨results', seen', visited'⟩ :=
    exists_unionOf notes listed' compiled' (holds_of_disjuncts quiet around fits' compiled')
  refine ⟨?_, fun some laid => ?_, results, _, seen, unionOf_sumFragment _ _, visited⟩
  · have eachNamed := holds_of_disjuncts named around fits compiled
    have eachNamed' := holds_of_disjuncts named around fits' compiled'
    have shape := upToOrder_of_unionOf seen seen' (holds_of_disjuncts proper around fits compiled)
      (holds_of_disjuncts proper around fits' compiled') eachNamed eachNamed' same
      (unionOf_sumFragment ctx.topLevel results) (unionOf_sumFragment ctx.topLevel results')
    have unionNamed := (unionOf_sumFragment ctx.topLevel results).named
      fun result held => eachNamed result (seen.ordered.subset held)
    have unionNamed' := (unionOf_sumFragment ctx.topLevel results').named
      fun result held => eachNamed' result (seen'.ordered.subset held)
    rw [visited, visited']
    exact (Agree.same (o.allow ctx.depth)).bind fun _ =>
      finish_agree unionNamed unionNamed' shape notes
  · obtain ⟨fragment, held⟩ := List.exists_mem_of_ne_nil _ some
    obtain ⟨node, -, inside⟩ := exists_of_matching (mapM_eq_ok.mp compiled) held
    have below : o.allow (ctx.depth + 1) = .ok () :=
      @Site.allow_of_visit o ⟨ctx.alternative, node⟩ fragment inside
    obtain ⟨own, picked⟩ := Option.isSome_iff_exists.mp laid
    rw [visited, Options.allow_mono (Nat.le_succ _) below]
    exact ⟨_, by simp [finish, overlay, picked, typed, bind, Except.bind]; rfl⟩

def nestedUnion : Children :=
  .nodes [nominal (.primitive .string) (.dict []),
    sum (.nodes [nominal (.primitive .null) (.dict []), nominal (.primitive .string) (.dict [])])
      (.dict [])]

def flatUnion : Children :=
  .nodes [nominal (.primitive .null) (.dict []), nominal (.primitive .string) (.dict [])]

def textEntry : Members := Fragment.ofKeywords [("type", .str "string")]

theorem visit_union_nested :
    (disjuncts nestedUnion).mapM (visit {} Context.root.alternative) =
        .ok [textEntry, nullEntry, textEntry] ∧
      (disjuncts flatUnion).mapM (visit {} Context.root.alternative) = .ok [nullEntry, textEntry] ∧
      Agree UpToOrder (visit {} Context.root (sum nestedUnion (.dict [])))
        (visit {} Context.root (sum flatUnion (.dict []))) := by
  have plain (p : Primitive) : (nominal (.primitive p) (.dict [])).ComparableValues :=
    ⟨⟨rfl, nofun, nofun⟩, ⟨rfl, nofun, nofun⟩⟩
  have around (types : Children) : (sum types (.dict [])).ComparableValues :=
    ⟨⟨rfl, nofun, nofun⟩, ⟨rfl, nofun, nofun⟩⟩
  have fit : ∀ part ∈ partsOfSlot nestedUnion ++ partsOfSlot flatUnion,
      part.ComparableValues := by
    simp [nestedUnion, flatUnion, partsOfSlot, partsOfEach, parts, plain, around]
  exact ⟨rfl, rfl, (visit_union fit ⟨rfl, rfl⟩ rfl rfl rfl rfl
    ⟨by decide, by decide⟩).1⟩

/-! ### Signaling decimals -/

/-- Texts with a title that cannot be compared. -/
def signalingTexts : Node :=
  nominal (.primitive .string) (.dict (Members.named
    [("title", .decimal (.nan true false 0 0)), ("description", .str "a")]))

/-- Texts of which the title comes after the description. -/
def titledTexts : Node :=
  constructor (nominal (.primitive .string) (.dict (Members.named [("description", .str "b")])))
    .null (.dict (Members.named [("title", .int 1)]))

def signalingEntry : Members :=
  Fragment.ofKeywords [("type", .str "string"), ("title", .decimal (.nan true false 0 0)),
    ("description", .str "a")]

def titledEntry : Members :=
  Fragment.ofKeywords [("type", .str "string"), ("description", .str "b"), ("title", .int 1)]

/-- With a signaling decimal in one of them, the same two alternatives have no union in one order
and have one in the other: the description is compared before the title or after it. -/
theorem visit_union_signaling :
    (disjuncts (.nodes [signalingTexts, titledTexts])).mapM (visit {} Context.root.alternative) =
        .ok [signalingEntry, titledEntry] ∧
      (disjuncts (.nodes [titledTexts, signalingTexts])).mapM (visit {} Context.root.alternative) =
        .ok [titledEntry, signalingEntry] ∧
      SameSet [signalingEntry, titledEntry] [titledEntry, signalingEntry] ∧
      visit {} Context.root (sum (.nodes [signalingTexts, titledTexts]) (.dict [])) =
        .error .undecided ∧
      visit {} Context.root (sum (.nodes [titledTexts, signalingTexts]) (.dict [])) =
        .ok (Fragment.ofKeywords [("anyOf", .list [.dict titledEntry, .dict signalingEntry])]) := by
  exact ⟨rfl, rfl, ⟨by decide, by decide⟩, rfl, rfl⟩

end Node

end Draftsman
