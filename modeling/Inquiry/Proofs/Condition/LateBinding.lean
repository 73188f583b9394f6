import Inquiry.Condition.Collector
import Inquiry.Proofs.Condition.Retargeting

set_option autoImplicit false

namespace Inquiry

namespace Leaf

theorem entity_reads_as (aliases : AliasMap) (entity : Entity) (l : Leaf) :
    (l.retarget (.entity entity)).ReadsAs aliases aliases
      (l.retarget (.named (aliases.resolve entity))) := by
  by_cases free : l.target = .default
  · rw [l.retarget_of_default _ free, l.retarget_of_default _ free]
    exact ⟨rfl, rfl, rfl, rfl⟩
  · rw [l.retarget_of_targeted _ free, l.retarget_of_targeted _ free]
    exact ⟨rfl, rfl, rfl, rfl⟩

theorem named_reads_as (aliases : AliasMap) (aliasName : String) (l : Leaf)
    (noEntity : ∀ entity, l.target ≠ .entity entity) :
    (l.retarget (.named aliasName)).ReadsAs aliases { aliases with defaultAlias := aliasName } l := by
  obtain ⟨target, column, op, operand⟩ := l
  cases target with
  | default => exact ⟨rfl, rfl, rfl, rfl⟩
  | named a => exact ⟨rfl, rfl, rfl, rfl⟩
  | entity e => exact absurd rfl (noEntity e)

end Leaf

namespace Collector

def under (others : AliasMap) (c : Collector) : Collector :=
  { c with compiler := c.compiler.under others }

theorem compile_congr (c : Collector) (p q : Predicate)
    (same : c.compiler.compile p = c.compiler.compile q) : c.compile p = c.compile q := by
  rw [compile, compile, same]

theorem compile_under (c : Collector) (others : AliasMap) (p q : Predicate)
    (same : (c.compiler.under others).compile q =
      (c.compiler.compile p).map (Prod.map id (Compiler.under others))) :
    (c.under others).compile q = ((c.compile p).1, (c.compile p).2.under others) := by
  rw [compile, compile, under, same]
  cases c.compiler.compile p <;> rfl

theorem late_entity_is_early_alias (p : Predicate) :
    (∀ aliasName, p.Targeted (.named aliasName) (p.withAlias aliasName)) ∧
      (∀ entity, p.Targeted (.entity entity) (p.ofEntity entity)) ∧
      (∀ (c : Collector) entity, c.compile (p.ofEntity entity) =
        c.compile (p.withAlias (c.compiler.aliases.resolve entity))) ∧
      ((∀ l ∈ p.leaves, ∀ entity, l.target ≠ .entity entity) → ∀ (c : Collector) aliasName,
        let others := { c.compiler.aliases with defaultAlias := aliasName }
        let early := c.compile (p.withAlias aliasName)
        (c.under others).compile p = (early.1, early.2.under others)) := by
  refine ⟨?_, ?_, ?_, ?_⟩
  · exact fun aliasName => p.retarget_targeted (.named aliasName) (by rintro ⟨⟩)
  · exact fun entity => p.retarget_targeted (.entity entity) (by rintro ⟨⟩)
  · intro c entity
    apply c.compile_congr
    exact c.compiler.compile_reads_as _ _ p fun l _ => l.entity_reads_as c.compiler.aliases entity
  · intro noEntity c aliasName others early
    apply c.compile_under
    have alike := c.compiler.compile_under others (Leaf.retarget (.named aliasName)) id p
      fun l member => l.named_reads_as c.compiler.aliases aliasName (noEntity l member)
    rwa [Predicate.map_leaves_id] at alike

theorem late_default_of_mixed_leaves :
    let titled := (Predicate.equal "title" (.text "x")).withAlias "b"
    let p : Predicate := .disjunction [.negation (.isNull "born"), titled]
    let c : Collector := .new .reject ((AliasMap.new "_this").bind ⟨"User"⟩ "v") 3
    (∀ l ∈ p.leaves, ∀ entity, l.target ≠ .entity entity) ∧
      ((c.under { c.compiler.aliases with defaultAlias := "u" }).compile p).1 =
        (c.compile (p.withAlias "u")).1 ∧
      (c.compile (p.withAlias "u")).1 = .ok "(NOT (u.born IS NULL) OR b.title = ?3)" := by
  intro titled p c
  have noEntity : ∀ l ∈ p.leaves, ∀ entity, l.target ≠ .entity entity := by
    intro l member
    rcases List.mem_cons.mp member with rfl | last
    · rintro entity ⟨⟩
    · obtain rfl := List.mem_singleton.mp last
      rintro entity ⟨⟩
  have same := (late_entity_is_early_alias p).2.2.2 noEntity c "u"
  exact ⟨noEntity, (Prod.ext_iff.mp same).1, by decide +kernel⟩

end Collector

end Inquiry
