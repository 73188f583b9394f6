import Inquiry.Proofs.Condition.Compilation
import Inquiry.Proofs.Condition.Dropping
import Inquiry.Proofs.Predicate.Targets

set_option autoImplicit false

namespace Inquiry

namespace Leaf

structure ReadsAs (aliases others : AliasMap) (l k : Leaf) : Prop where
  aliasName : l.aliasIn aliases = k.aliasIn others
  column : l.column = k.column
  op : l.op = k.op
  operand : l.operand = k.operand

theorem reads_as_valid (aliases others : AliasMap) (l k : Leaf)
    (alike : ReadsAs aliases others l k) : l.isValid = k.isValid := by
  rw [l.valid_eq, k.valid_eq, alike.op, alike.operand]

end Leaf

namespace Condition

theorem render_leaf_reads_as (aliases others : AliasMap) (index : Nat) (l k : Leaf)
    (alike : l.ReadsAs aliases others k) :
    renderLeaf aliases index l = renderLeaf others index k := by
  rw [renderLeaf.eq_def, renderLeaf.eq_def, alike.aliasName, alike.column, alike.op, alike.operand]

section

variable (aliases others : AliasMap) (f g : Leaf → Leaf)

mutual
theorem render_reads_as (index : Nat) (p : Predicate)
    (alike : ∀ l ∈ p.leaves, (f l).ReadsAs aliases others (g l)) :
    render aliases index (p.mapLeaves f) = render others index (p.mapLeaves g) := by
  cases p with
  | simple l =>
      have same := alike l (List.mem_singleton_self l)
      rw [Predicate.mapLeaves, Predicate.mapLeaves, render, render,
        Leaf.reads_as_valid aliases others _ _ same,
        render_leaf_reads_as aliases others index _ _ same]
  | conjunction ps =>
      rw [Predicate.mapLeaves, Predicate.mapLeaves, render_conjunction, render_conjunction,
        render_each_reads_as index ps alike]
  | disjunction ps =>
      have each := render_each_reads_as index ps alike
      -- The children drop alike, since the same is left of them.
      rw [Predicate.mapLeaves, Predicate.mapLeaves, render, render, ← Predicate.drops_all_eq_all,
        ← Predicate.drops_all_eq_all, ← render_each_blank aliases index,
        ← render_each_blank others index, each]
  | negation p =>
      rw [Predicate.mapLeaves, Predicate.mapLeaves, render, render, render_reads_as index p alike]

theorem render_each_reads_as (index : Nat) (ps : List Predicate)
    (alike : ∀ l ∈ Predicate.leavesOfAll ps, (f l).ReadsAs aliases others (g l)) :
    renderEach aliases index (Predicate.mapLeavesOfAll f ps) =
      renderEach others index (Predicate.mapLeavesOfAll g ps) := by
  cases ps with
  | nil => rfl
  | cons p rest =>
      have first := render_reads_as index p fun l member =>
        alike l (List.mem_append_left _ member)
      rw [Predicate.mapLeavesOfAll, Predicate.mapLeavesOfAll, renderEach, renderEach, first,
        render_each_reads_as _ rest fun l member => alike l (List.mem_append_right _ member)]
end

end

end Condition

namespace Compiler

def under (others : AliasMap) (c : Compiler) : Compiler := { c with aliases := others }

theorem compile_under_self (c : Compiler) (p : Predicate) :
    (c.compile p).map (Prod.map id (under c.aliases)) = c.compile p := by
  rw [compile]
  split <;> rfl

theorem compile_eq_of_alike (c : Compiler) (others : AliasMap) (p q : Predicate)
    (refusals : p.firstInvalid?.map refusal = q.firstInvalid?.map refusal)
    (rendered : Condition.render c.aliases c.next p = Condition.render others c.next q) :
    (c.under others).compile q = (c.compile p).map (Prod.map id (under others)) := by
  rw [compile, compile, rendered, under]
  cases invalid : p.firstInvalid? with
  | none =>
      rw [invalid] at refusals
      rw [Option.map_eq_none_iff.mp refusals.symm]
      cases c.policy <;> rfl
  | some l =>
      rw [invalid] at refusals
      obtain ⟨k, invalidToo, same⟩ := Option.map_eq_some_iff.mp refusals.symm
      rw [invalidToo]
      cases c.policy with
      | ignore => rfl
      | reject => exact congrArg Except.error same

theorem compile_under (c : Compiler) (others : AliasMap) (f g : Leaf → Leaf) (p : Predicate)
    (alike : ∀ l ∈ p.leaves, (f l).ReadsAs c.aliases others (g l)) :
    (c.under others).compile (p.mapLeaves g) =
      (c.compile (p.mapLeaves f)).map (Prod.map id (under others)) := by
  have refused (l k : Leaf) (same : l.ReadsAs c.aliases others k) : refusal l = refusal k := by
    rw [refusal, refusal, same.column, same.op]
  have each : List.Forall₂ (Leaf.ReadsAs c.aliases others) (p.leaves.map f) (p.leaves.map g) := by
    rw [List.forall₂_map_left_iff, List.forall₂_map_right_iff]
    exact List.forall₂_same.mpr alike
  apply c.compile_eq_of_alike
  · rw [Predicate.firstInvalid?, Predicate.firstInvalid?, Predicate.leaves_map, Predicate.leaves_map]
    exact first_refusal_alike _ (Leaf.reads_as_valid c.aliases others) refused _ _ each
  · exact Condition.render_reads_as c.aliases others f g c.next p alike

theorem compile_reads_as (c : Compiler) (f g : Leaf → Leaf) (p : Predicate)
    (alike : ∀ l ∈ p.leaves, (f l).ReadsAs c.aliases c.aliases (g l)) :
    c.compile (p.mapLeaves f) = c.compile (p.mapLeaves g) := by
  rw [← c.compile_under_self (p.mapLeaves f)]
  exact (c.compile_under c.aliases f g p alike).symm

end Compiler

end Inquiry
