/-
# Draftsman.Proofs.Preferences -- which options decide a document

Of the options, a visit asks for the limit on the nesting, and whether it is loose; of what is
around the node, for its depth and for what its context looks like (`visit_of_looksLike`).  The
document is marked if the options say so.  How it is written has no part in it (`compile_congr`).
-/
import Draftsman.Proofs.Relocation

namespace Draftsman

set_option autoImplicit false

namespace Node

variable {o other : Options}

/-- Options under which every visit has the same outcome. -/
structure SameVisits (o other : Options) : Prop where
  maxDepth : other.maxDepth = o.maxDepth
  loose : other.loose = o.loose

namespace SameVisits

theorem allow (same : SameVisits o other) (depth : Nat) : other.allow depth = o.allow depth := by
  simp only [Options.allow, same.maxDepth]

theorem refl (o : Options) : SameVisits o o := ⟨rfl, rfl⟩

/-- At one depth, in contexts that look alike, every visit has the same outcome. -/
theorem visit_of_looksLike (same : SameVisits o other) (node : Node) {ctx ctx' : Context}
    (depth : ctx.depth = ctx'.depth) (looks : ctx.LooksLike ctx') :
    Node.visit o ctx node = Node.visit other ctx' node := by
  have relocating : Relocating o other Eq Eq := {
    loose := same.loose
    same := fun _ => rfl
    bind := fun first later => by rw [first, funext later]
    enter := fun depths below => by rw [← depths, same.allow, below (congrArg _ depths)] }
  exact relocating.visit node ctx ctx' depth looks

theorem visit (same : SameVisits o other) (node : Node) (ctx : Context) :
    Node.visit o ctx node = Node.visit other ctx node :=
  same.visit_of_looksLike node rfl (.refl ctx)

end SameVisits

/-- Two options with the same marking, the same leniency and the same limit give the same
document or the same fault. -/
theorem compile_congr (root : other.root = o.root) (same : SameVisits o other) (node : Node) :
    node.compile other = node.compile o := by
  simp only [compile, root, same.visit]

end Node

end Draftsman
