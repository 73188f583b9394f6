import Inquiry.Proofs.Condition.Collecting
import Inquiry.Proofs.Condition.Dropping

set_option autoImplicit false

namespace Inquiry

namespace Predicate

mutual
-- A tree without what drops of it. Of a conjunction the children that drop are deleted; the greatest
-- subtrees that drop elsewhere are replaced by empty conjunctions.
def pruned : Predicate → Predicate
  | simple l => if l.isValid then simple l else conjunction []
  | conjunction ps => conjunction (prunedKept ps)
  | disjunction ps => if dropsAll ps then conjunction [] else disjunction (prunedEach ps)
  | negation p => negation (pruned p)
def prunedKept : List Predicate → List Predicate
  | [] => []
  | p :: rest => if drops p then prunedKept rest else pruned p :: prunedKept rest
def prunedEach : List Predicate → List Predicate
  | [] => []
  | p :: rest => pruned p :: prunedEach rest
end

mutual
theorem pruned_leaves (p : Predicate) : p.pruned.leaves = p.leaves.filter Leaf.isValid := by
  cases p with
  | simple l => cases valid : l.isValid <;> simp [pruned, leaves, leavesOfAll, valid]
  | conjunction ps => exact pruned_kept_leaves ps
  | disjunction ps =>
      rw [pruned]
      by_cases dropped : dropsAll ps = true
      · rw [if_pos dropped]
        exact (valid_leaves_of_drops_all ps dropped).symm
      · rw [if_neg dropped]
        exact pruned_each_leaves ps
  | negation p => exact pruned_leaves p

theorem pruned_kept_leaves (ps : List Predicate) :
    leavesOfAll (prunedKept ps) = (leavesOfAll ps).filter Leaf.isValid := by
  cases ps with
  | nil => rfl
  | cons p rest =>
      rw [prunedKept, leavesOfAll, List.filter_append]
      by_cases dropped : p.drops = true
      · rw [if_pos dropped, pruned_kept_leaves rest, valid_leaves_of_drops p dropped,
          List.nil_append]
      · rw [if_neg dropped, leavesOfAll, pruned_leaves p, pruned_kept_leaves rest]

theorem pruned_each_leaves (ps : List Predicate) :
    leavesOfAll (prunedEach ps) = (leavesOfAll ps).filter Leaf.isValid := by
  cases ps with
  | nil => rfl
  | cons p rest =>
      rw [prunedEach, leavesOfAll, leavesOfAll, List.filter_append, pruned_leaves p,
        pruned_each_leaves rest]
end

end Predicate

namespace Condition

variable (aliases : AliasMap)

mutual
theorem render_pruned (index : Nat) (p : Predicate) :
    render aliases index p.pruned = render aliases index p := by
  cases p with
  | simple l => cases valid : l.isValid <;> simp [Predicate.pruned, render, renderEach, valid]
  | conjunction ps =>
      rw [Predicate.pruned, render_conjunction, render_conjunction, conjoined, conjoined,
        render_kept_pruned index ps]
  | disjunction ps =>
      rw [Predicate.pruned]
      by_cases dropped : Predicate.dropsAll ps = true
      · have nothing : render aliases index (.disjunction ps) = [] := by
          rw [render, ← Predicate.drops_all_eq_all, if_pos dropped]
        rw [if_pos dropped, nothing]
        rfl
      · -- The children drop alike, since the same is left of them.
        have each := render_each_pruned index ps
        rw [if_neg dropped, render, render, ← Predicate.drops_all_eq_all,
          ← Predicate.drops_all_eq_all, ← render_each_blank aliases index,
          ← render_each_blank aliases index, each]
  | negation p => rw [Predicate.pruned, render, render, render_pruned index p]

theorem render_kept_pruned (index : Nat) (ps : List Predicate) :
    (renderEach aliases index (Predicate.prunedKept ps)).filter (fun f => !Fragment.isBlank f) =
      (renderEach aliases index ps).filter fun f => !Fragment.isBlank f := by
  cases ps with
  | nil => rfl
  | cons p rest =>
      rw [Predicate.prunedKept]
      by_cases dropped : p.drops = true
      · have blank := (render_blank aliases index p).trans dropped
        have unbound := Predicate.bound_values_of_drops p dropped
        rw [if_pos dropped, render_kept_pruned index rest, render_each_cons, unbound,
          List.filter_cons_of_neg (by simp [blank])]
        rfl
      · rw [if_neg dropped, renderEach, renderEach, render_pruned index p, List.filter_cons,
          List.filter_cons, render_kept_pruned _ rest]

theorem render_each_pruned (index : Nat) (ps : List Predicate) :
    renderEach aliases index (Predicate.prunedEach ps) = renderEach aliases index ps := by
  cases ps with
  | nil => rfl
  | cons p rest =>
      rw [Predicate.prunedEach, renderEach, renderEach, render_pruned index p,
        render_each_pruned _ rest]
end

end Condition

namespace Predicate

theorem pruned_drops (p : Predicate) : p.pruned.drops = p.drops := by
  rw [← Condition.render_blank (.new "") 1, Condition.render_pruned, Condition.render_blank]

theorem pruned_values (p : Predicate) : p.pruned.boundValues = p.boundValues := by
  rw [boundValues, boundValues, pruned_leaves, List.filter_filter]
  simp only [Bool.and_self]

end Predicate

namespace Collector

theorem ignored_as_never_written (aliases : AliasMap) (next : Nat) (params : Bindings Nat Value)
    (p : Predicate) :
    let c : Collector := ⟨⟨.ignore, aliases, next⟩, params⟩
    c.compile p.pruned = c.compile p ∧ p.pruned.drops = p.drops ∧
      p.pruned.leaves = p.leaves.filter Leaf.isValid := by
  intro c
  refine ⟨?_, p.pruned_drops, p.pruned_leaves⟩
  rw [c.compile_of_ignore p.pruned rfl, c.compile_of_ignore p rfl, Condition.render_pruned,
    Compiler.advance, Compiler.advance, p.pruned_values]

end Collector

end Inquiry
