import Inquiry.Proofs.Predicate.Construction
import Mathlib.Data.List.Forall2

set_option autoImplicit false

namespace Inquiry

namespace Predicate

inductive Matches (alike : Leaf → Leaf → Prop) : Predicate → Predicate → Prop
  | simple (l k : Leaf) (same : alike l k) : Matches alike (simple l) (simple k)
  | conjunction (ps qs : List Predicate) (each : List.Forall₂ (Matches alike) ps qs) :
      Matches alike (conjunction ps) (conjunction qs)
  | disjunction (ps qs : List Predicate) (each : List.Forall₂ (Matches alike) ps qs) :
      Matches alike (disjunction ps) (disjunction qs)
  | negation (p q : Predicate) (same : Matches alike p q) :
      Matches alike (negation p) (negation q)

mutual
theorem map_leaves_id (p : Predicate) : p.mapLeaves id = p := by
  cases p with
  | simple l => rfl
  | conjunction ps => exact congrArg conjunction (map_leaves_of_all_id ps)
  | disjunction ps => exact congrArg disjunction (map_leaves_of_all_id ps)
  | negation p => exact congrArg negation (map_leaves_id p)

theorem map_leaves_of_all_id (ps : List Predicate) : mapLeavesOfAll id ps = ps := by
  cases ps with
  | nil => rfl
  | cons p rest => rw [mapLeavesOfAll, map_leaves_id p, map_leaves_of_all_id rest]
end

section

variable (f g : Leaf → Leaf)

mutual
theorem map_leaves_map (p : Predicate) : (p.mapLeaves f).mapLeaves g = p.mapLeaves (g ∘ f) := by
  cases p with
  | simple l => rfl
  | conjunction ps => exact congrArg conjunction (map_leaves_of_all_map ps)
  | disjunction ps => exact congrArg disjunction (map_leaves_of_all_map ps)
  | negation p => exact congrArg negation (map_leaves_map p)

theorem map_leaves_of_all_map (ps : List Predicate) :
    mapLeavesOfAll g (mapLeavesOfAll f ps) = mapLeavesOfAll (g ∘ f) ps := by
  cases ps with
  | nil => rfl
  | cons p rest =>
      rw [mapLeavesOfAll, mapLeavesOfAll, mapLeavesOfAll, map_leaves_map p,
        map_leaves_of_all_map rest]
end

mutual
theorem map_leaves_drops (valid : ∀ l, (f l).isValid = l.isValid) (p : Predicate) :
    (p.mapLeaves f).drops = p.drops := by
  cases p with
  | simple l => rw [mapLeaves, drops, drops, valid l]
  | conjunction ps => exact map_leaves_of_all_drop valid ps
  | disjunction ps => exact map_leaves_of_all_drop valid ps
  | negation p => rfl

theorem map_leaves_of_all_drop (valid : ∀ l, (f l).isValid = l.isValid) (ps : List Predicate) :
    dropsAll (mapLeavesOfAll f ps) = dropsAll ps := by
  cases ps with
  | nil => rfl
  | cons p rest =>
      rw [mapLeavesOfAll, dropsAll, dropsAll, map_leaves_drops valid p,
        map_leaves_of_all_drop valid rest]
end

mutual
theorem map_leaves_matches (alike : Leaf → Leaf → Prop) (each : ∀ l, alike l (f l))
    (p : Predicate) : Matches alike p (p.mapLeaves f) := by
  cases p with
  | simple l => exact .simple l _ (each l)
  | conjunction ps => exact .conjunction ps _ (map_leaves_of_all_match alike each ps)
  | disjunction ps => exact .disjunction ps _ (map_leaves_of_all_match alike each ps)
  | negation p => exact .negation p _ (map_leaves_matches alike each p)

theorem map_leaves_of_all_match (alike : Leaf → Leaf → Prop) (each : ∀ l, alike l (f l))
    (ps : List Predicate) : List.Forall₂ (Matches alike) ps (mapLeavesOfAll f ps) := by
  cases ps with
  | nil => exact .nil
  | cons p rest =>
      exact .cons (map_leaves_matches alike each p) (map_leaves_of_all_match alike each rest)
end

variable (valid : ∀ l, (f l).isValid = l.isValid)
include valid

theorem map_leaves_valid (p : Predicate) : (p.mapLeaves f).isValid = p.isValid := by
  cases p with
  | simple l => exact valid l
  | _ => rfl

theorem map_leaves_empty (p : Predicate) : (p.mapLeaves f).isEmpty = p.isEmpty := by
  cases p with
  | conjunction ps | disjunction ps =>
      rw [mapLeaves, isEmpty, isEmpty, ← drops_all_eq_all, ← drops_all_eq_all,
        map_leaves_of_all_drop f valid ps]
  | _ => rfl

theorem map_leaves_first_invalid (p : Predicate) :
    (p.mapLeaves f).firstInvalid? = p.firstInvalid?.map f := by
  rw [firstInvalid?, firstInvalid?, leaves_map, List.find?_map]
  simp only [Function.comp_def, valid]

end

end Predicate

namespace Leaf

theorem retarget_of_default (target : Target) (l : Leaf) (free : l.target = .default) :
    l.retarget target = { l with target := target } := if_pos free

theorem retarget_of_targeted (target : Target) (l : Leaf) (targeted : l.target ≠ .default) :
    l.retarget target = l := if_neg targeted

theorem retarget_valid (target : Target) (l : Leaf) : (l.retarget target).isValid = l.isValid := by
  rw [retarget]
  split <;> rfl

theorem retarget_column (target : Target) (l : Leaf) : (l.retarget target).column = l.column := by
  rw [retarget]
  split <;> rfl

theorem retarget_retarget (target later : Target) (given : target ≠ .default) (l : Leaf) :
    (l.retarget target).retarget later = l.retarget target := by
  apply retarget_of_targeted
  by_cases free : l.target = .default
  · rwa [l.retarget_of_default target free]
  · rwa [l.retarget_of_targeted target free]

structure Targeted (target : Target) (l k : Leaf) : Prop where
  free : l.target = .default → k = { l with target := target }
  bound : l.target ≠ .default → k = l
  valid : k.isValid = l.isValid

end Leaf

namespace Predicate

structure Targeted (target : Target) (p q : Predicate) : Prop where
  finalAlias : ∀ aliasName, q.withAlias aliasName = q
  finalEntity : ∀ entity, q.ofEntity entity = q
  shape : Matches (Leaf.Targeted target) p q
  valid : q.isValid = p.isValid
  empty : q.isEmpty = p.isEmpty
  firstInvalid : q.firstInvalid?.map Leaf.column = p.firstInvalid?.map Leaf.column

theorem retarget_retarget (target later : Target) (given : target ≠ .default) (p : Predicate) :
    (p.retarget target).retarget later = p.retarget target := by
  have once : Leaf.retarget later ∘ Leaf.retarget target = Leaf.retarget target :=
    funext (Leaf.retarget_retarget target later given)
  rw [retarget, retarget, map_leaves_map, once]

theorem retarget_targeted (target : Target) (given : target ≠ .default) (p : Predicate) :
    p.Targeted target (p.retarget target) where
  finalAlias aliasName := p.retarget_retarget target (.named aliasName) given
  finalEntity entity := p.retarget_retarget target (.entity entity) given
  shape := by
    apply map_leaves_matches
    exact fun l => ⟨l.retarget_of_default target, l.retarget_of_targeted target,
      l.retarget_valid target⟩
  valid := map_leaves_valid _ (Leaf.retarget_valid target) p
  empty := map_leaves_empty _ (Leaf.retarget_valid target) p
  firstInvalid := by
    have columns : Leaf.column ∘ Leaf.retarget target = Leaf.column :=
      funext (Leaf.retarget_column target)
    rw [retarget, map_leaves_first_invalid _ (Leaf.retarget_valid target), Option.map_map, columns]

end Predicate

end Inquiry
