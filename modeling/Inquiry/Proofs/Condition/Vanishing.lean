import Inquiry.Proofs.Condition.Collecting
import Inquiry.Proofs.Condition.Dropping

set_option autoImplicit false

namespace Inquiry

namespace Predicate

inductive Vanishes : Predicate → Prop
  | simple (l : Leaf) (invalid : l.isValid = false) : Vanishes (simple l)
  | conjunction (ps : List Predicate) (each : ∀ p ∈ ps, Vanishes p) : Vanishes (conjunction ps)
  | disjunction (ps : List Predicate) (each : ∀ p ∈ ps, Vanishes p) : Vanishes (disjunction ps)

mutual
theorem drops_iff_vanishes (p : Predicate) : p.drops = true ↔ p.Vanishes := by
  cases p with
  | simple l =>
      rw [drops, Bool.not_eq_true']
      constructor
      · exact .simple l
      · intro vanishes
        cases vanishes with
        | simple _ invalid => exact invalid
  | conjunction ps =>
      rw [drops, drops_all_iff_vanish ps]
      constructor
      · exact .conjunction ps
      · intro vanishes
        cases vanishes with
        | conjunction _ each => exact each
  | disjunction ps =>
      rw [drops, drops_all_iff_vanish ps]
      constructor
      · exact .disjunction ps
      · intro vanishes
        cases vanishes with
        | disjunction _ each => exact each
  | negation p =>
      simp only [drops, Bool.false_eq_true, false_iff]
      intro vanishes
      cases vanishes

theorem drops_all_iff_vanish (ps : List Predicate) :
    dropsAll ps = true ↔ ∀ p ∈ ps, p.Vanishes := by
  cases ps with
  | nil => simp [dropsAll]
  | cons p rest =>
      rw [dropsAll, Bool.and_eq_true, drops_iff_vanishes p, drops_all_iff_vanish rest,
        List.forall_mem_cons]
end

end Predicate

namespace Condition

variable (aliases : AliasMap) (index : Nat)

theorem render_each_empty (ps : List Predicate) :
    List.Forall₂ (fun f p => f.text = "" ↔ p.drops = true) (renderEach aliases index ps) ps := by
  induction ps generalizing index with
  | nil => exact .nil
  | cons p rest ih =>
      rw [renderEach]
      exact .cons (render_text_empty_iff aliases index p) (ih _)

-- The children of a conjunction and of a disjunction are judged alike: by their texts, as the one
-- does, and by what they are, as the other does.
structure JudgesAlike (ps : List Predicate) : Prop where
  each : List.Forall₂ (fun f p => f.text = "" ↔ p.drops = true) (renderEach aliases index ps) ps
  all : (∀ f ∈ renderEach aliases index ps, f.text = "") ↔
    (Predicate.disjunction ps).isEmpty = true
  text : (render aliases index (.conjunction ps)).text = "" ↔
    (render aliases index (.disjunction ps)).text = ""

theorem judges_alike (ps : List Predicate) : JudgesAlike aliases index ps where
  each := render_each_empty aliases index ps
  all := by
    have blank := render_each_blank aliases index ps
    rw [Predicate.drops_all_eq_all] at blank
    rw [Predicate.isEmpty, ← blank, List.all_eq_true]
    simp only [Fragment.is_blank_iff]
  text := by
    rw [render_text_empty_iff, render_text_empty_iff]
    rfl

end Condition

namespace Collector

theorem compile_of_drops (c : Collector) (p : Predicate) (ignore : c.compiler.policy = .ignore)
    (drops : p.drops = true) : c.compile p = (.ok "", c) := by
  rw [c.compile_of_ignore p ignore, (Condition.render_text_empty_iff _ _ p).mpr drops,
    c.compiler.advance_of_drops p drops, p.bound_values_of_drops drops]
  rfl

theorem no_text_iff_drops (aliases : AliasMap) (next : Nat) (params : Bindings Nat Value)
    (p : Predicate) :
    let c : Collector := ⟨⟨.ignore, aliases, next⟩, params⟩
    ((c.compile p).1 = .ok "" ↔ p.drops = true) ∧ (p.drops = true ↔ p.Vanishes) ∧
      (p.drops = true ↔ c.compile p = (.ok "", c)) ∧
      ∀ ps, Condition.JudgesAlike aliases next ps := by
  intro c
  have text : (c.compile p).1 = .ok (Condition.render aliases next p).text := rfl
  have empty : (c.compile p).1 = .ok "" ↔ p.drops = true := by
    rw [text, Except.ok.injEq, Condition.render_text_empty_iff]
  refine ⟨empty, p.drops_iff_vanishes, ?_, Condition.judges_alike aliases next⟩
  constructor
  · exact c.compile_of_drops p rfl
  · intro unchanged
    exact empty.mp (congrArg Prod.fst unchanged)

end Collector

end Inquiry
