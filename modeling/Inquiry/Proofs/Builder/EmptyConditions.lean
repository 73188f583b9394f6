import Inquiry.Proofs.Builder.Discarding

set_option autoImplicit false

namespace Inquiry

namespace Builder

theorem conditions_filled (c : Compiler) (isOpen : Bool) (segments : List Segment)
    (ignore : c.policy = .ignore) :
    conditions c isOpen segments =
      conditions c isOpen (segments.filter fun s => !s.predicate.drops) := by
  induction segments generalizing c isOpen with
  | nil => rfl
  | cons s rest ih =>
      cases drops : s.predicate.drops with
      | true =>
          rw [List.filter_cons_of_neg (by simp [drops]),
            conditions_cons_of_drops c isOpen s rest ignore drops]
          exact ih c isOpen ignore
      | false =>
          rw [List.filter_cons_of_pos (by simp [drops]),
            conditions_cons_of_stays c isOpen s rest ignore drops,
            conditions_cons_of_stays c isOpen s _ ignore drops, ih (c.advance s.predicate) true ignore]

def withSegments (segments : List Segment) (b : Builder) : Builder := { b with segments := segments }

theorem step_apart_from_segments (b : Builder) (segments others : List Segment) (s : Step) :
    ((b.withSegments segments).step s).withSegments others = (b.step s).withSegments others := by
  cases s with
  | filter ps | and ps | or ps => cases ps <;> rfl
  | param position value =>
      rw [step, step, effect_param, effect_param]
      rfl
  | page number size =>
      rw [step, step, effect_page, effect_page]
      rfl
  | _ => rfl

theorem step_with_segments (b : Builder) (segments : List Segment) (s : Step) :
    (b.withSegments segments).step s = (b.step s).withSegments (segments ++ s.segments) :=
  calc
    (b.withSegments segments).step s
      = ((b.withSegments segments).step s).withSegments
          ((b.withSegments segments).step s).segments := rfl
    _ = ((b.withSegments segments).step s).withSegments (segments ++ s.segments) := by
          rw [step_segments]
          rfl
    _ = (b.step s).withSegments (segments ++ s.segments) :=
          b.step_apart_from_segments segments _ s

theorem run_with_segments (b : Builder) (segments : List Segment) (steps : List Step) :
    (b.withSegments segments).run steps =
      (b.run steps).withSegments (segments ++ steps.flatMap Step.segments) := by
  induction steps generalizing b segments with
  | nil =>
      rw [List.flatMap_nil, List.append_nil]
      rfl
  | cons s rest ih =>
      rw [run_cons, step_with_segments, ih, List.flatMap_cons, List.append_assoc, run_cons]

theorem statement_filled (b : Builder) (segments others : List Segment) (purpose : Purpose)
    (ignore : b.nullPolicy = .ignore)
    (same : (segments.filter fun s => !s.predicate.drops) =
      others.filter fun s => !s.predicate.drops) :
    (b.withSegments segments).statement purpose = (b.withSegments others).statement purpose := by
  have clauses : (b.withSegments segments).whereClause = (b.withSegments others).whereClause := by
    have filled (all : List Segment) : (b.withSegments all).whereClause =
        conditions (.new b.nullPolicy b.aliases b.firstIndex) false
          (all.filter fun s => !s.predicate.drops) := conditions_filled _ false all ignore
    rw [filled, filled, same]
  rw [statement, statement, clauses]
  rfl

theorem step_of_condition (b : Builder) (s : Step) (ps : List Predicate)
    (condition : s = .filter ps ∨ s = .and ps ∨ s = .or ps) (begun : b.isBegun = true) :
    b.step s = b.withSegments (b.segments ++ s.segments) := by
  have proper : b.misuse? s = none := by
    rcases condition with rfl | rfl | rfl <;> exact if_pos begun
  rw [step, proper, Option.or_none]
  rcases condition with rfl | rfl | rfl <;>
    exact congrArg (fun c : Builder => { c with misuse := b.misuse }) (b.add_segment_eq _ ps)

theorem condition_without_content (s : Step) (dropped : ∀ p ∈ s.predicates, p.drops = true) :
    (s.segments.filter fun segment => !segment.predicate.drops) = [] := by
  rcases s.segments_cases with ⟨-, empty⟩ | ⟨connective, single⟩
  · rw [empty]
    rfl
  · have drops : (Predicate.conjunction s.predicates).drops = true := by
      rw [Predicate.drops, Predicate.drops_all_eq_all, List.all_eq_true]
      exact dropped
    simp [single, drops]

section

variable (b : Builder) (before after : List Step) (s : Step)

theorem run_with_condition (ps : List Predicate)
    (condition : s = .filter ps ∨ s = .and ps ∨ s = .or ps)
    (begun : (b.run before).isBegun = true) :
    b.run (before ++ s :: after) = (b.run (before ++ after)).withSegments
      ((b.run before).segments ++ s.segments ++ after.flatMap Step.segments) := by
  rw [run_append, run_cons, step_of_condition _ s ps condition begun, run_with_segments, run_append]

theorem run_without_condition :
    b.run (before ++ after) = (b.run (before ++ after)).withSegments
      ((b.run before).segments ++ after.flatMap Step.segments) := by
  rw [run_append, ← run_segments]
  rfl

theorem empty_condition_is_idle (ps : List Predicate)
    (condition : s = .filter ps ∨ s = .and ps ∨ s = .or ps)
    (begun : (b.run before).isBegun = true)
    (nothing : ps = [] ∨
      (b.run (before ++ after)).nullPolicy = .ignore ∧ ∀ p ∈ ps, p.drops = true) :
    SameStatements (b.run (before ++ s :: after)) (b.run (before ++ after)) := by
  have given := run_with_condition b before after s ps condition begun
  have ungiven := run_without_condition b before after
  rcases nothing with rfl | ⟨ignore, dropped⟩
  · have none : s.segments = [] := by
      rcases condition with rfl | rfl | rfl <;> rfl
    rw [none, List.append_nil, ← ungiven] at given
    rw [given]
    exact ⟨rfl, rfl⟩
  · have gives : s.predicates = ps := by
      rcases condition with rfl | rfl | rfl <;> rfl
    have same : ((b.run before).segments ++ s.segments ++ after.flatMap Step.segments).filter
          (fun segment => !segment.predicate.drops) =
        ((b.run before).segments ++ after.flatMap Step.segments).filter
          fun segment => !segment.predicate.drops := by
      rw [List.filter_append, List.filter_append, List.filter_append,
        condition_without_content s (gives ▸ dropped), List.append_nil]
    have statements (purpose : Purpose) : (b.run (before ++ s :: after)).statement purpose =
        (b.run (before ++ after)).statement purpose := by
      rw [given, statement_filled _ _ _ purpose ignore same, ← ungiven]
    exact ⟨statements .rows, statements .count⟩

end

theorem empty_condition_is_idle_between :
    ∃ s, ((new ⟨"User"⟩ .default).run
          [.nullPolicy .reject, .select, .filter [.equal "a" .null],
            .or [.equal "b" .null, .disjunction []],
            .or [.equal "c" (.int 1)], .param 4 (.int 2), .nullPolicy .ignore]).build = .ok s ∧
      s.text = "SELECT _this FROM User _this WHERE (_this.c = ?5)" ∧
      ((new ⟨"User"⟩ .default).run
          [.nullPolicy .reject, .select, .filter [.equal "a" .null],
            .or [.equal "c" (.int 1)], .param 4 (.int 2), .nullPolicy .ignore]).build = .ok s := by
  have idle := empty_condition_is_idle (new ⟨"User"⟩ .default)
    [.nullPolicy .reject, .select, .filter [.equal "a" .null]]
    [.or [.equal "c" (.int 1)], .param 4 (.int 2), .nullPolicy .ignore]
    (.or [.equal "b" .null, .disjunction []]) [.equal "b" .null, .disjunction []]
    (.inr (.inr rfl)) rfl (.inr ⟨rfl, by decide⟩)
  exact ⟨_, rfl, by rfl, idle.1.symm⟩

end Builder

end Inquiry
