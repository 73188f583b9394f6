import Inquiry.Proofs.Builder.Clauses
import Inquiry.Proofs.Builder.Parts

set_option autoImplicit false

namespace Inquiry

namespace Step

def predicates : Step → List Predicate
  | filter ps | and ps | or ps => ps
  | _ => []

def segments : Step → List Segment
  | filter ps | and ps => if ps.isEmpty then [] else [⟨.and, .conjunction ps⟩]
  | or ps => if ps.isEmpty then [] else [⟨.or, .conjunction ps⟩]
  | _ => []

def positional : Step → List (Nat × Value)
  | param position value => [(position, value)]
  | _ => []

theorem segments_cases (s : Step) :
    (s.predicates = [] ∧ s.segments = []) ∨
      ∃ connective, s.segments = [⟨connective, .conjunction s.predicates⟩] := by
  cases s with
  | filter ps | and ps | or ps =>
      cases ps with
      | nil => exact .inl ⟨rfl, rfl⟩
      | cons p rest => exact .inr ⟨_, rfl⟩
  | _ => exact .inl ⟨rfl, rfl⟩

theorem values_of_segments (s : Step) :
    Builder.segmentValues s.segments = s.predicates.flatMap Predicate.boundValues := by
  rcases s.segments_cases with ⟨none, empty⟩ | ⟨connective, single⟩
  · rw [none, empty]
    rfl
  · rw [single]
    have merged := Predicate.bound_values_conjunction s.predicates
    simpa [Builder.segmentValues] using merged

end Step

namespace Builder

def Orderly (b : Builder) : List Step → Prop
  | [] => True
  | s :: rest => b.misuse? s = none ∧ Orderly (b.step s) rest

theorem run_misuse_none_iff (b : Builder) (steps : List Step) :
    (b.run steps).misuse = none ↔ b.misuse = none ∧ b.Orderly steps := by
  induction steps generalizing b with
  | nil => simp [run_nil, Orderly]
  | cons s rest ih => rw [run_cons, ih, step_misuse, Option.or_eq_none_iff, Orderly, and_assoc]

theorem step_segments (b : Builder) (s : Step) :
    (b.step s).segments = b.segments ++ s.segments := by
  cases s with
  | filter ps | and ps | or ps => exact congrArg Builder.segments (b.add_segment_eq _ ps)
  | _ =>
      exact (step_keeps Builder.segments .conditions (fun _ => rfl) b _ (by rintro ⟨⟩)).trans
        (List.append_nil _).symm

theorem run_segments (b : Builder) (steps : List Step) :
    (b.run steps).segments = b.segments ++ steps.flatMap Step.segments := by
  induction steps generalizing b with
  | nil => exact (List.append_nil _).symm
  | cons s rest ih => rw [run_cons, ih, step_segments, List.flatMap_cons, List.append_assoc]

theorem step_positional (b : Builder) (s : Step) (proper : b.misuse? s = none) :
    (b.step s).positional = b.positional.insertAll s.positional := by
  cases s with
  | param position value =>
      have positive : position ≠ 0 := by
        intro zero
        simp [misuse?, zero] at proper
      simp [step, effect, positive, Step.positional, Bindings.insertAll]
  | _ => exact step_keeps Builder.positional .positional (fun _ => rfl) b _ (by rintro ⟨⟩)

def explicitParams (steps : List Step) : List (Nat × Value) := steps.flatMap Step.positional

theorem run_positional (b : Builder) (steps : List Step) (orderly : b.Orderly steps) :
    (b.run steps).positional = b.positional.insertAll (explicitParams steps) := by
  induction steps generalizing b with
  | nil => rfl
  | cons s rest ih =>
      have opened : explicitParams (s :: rest) = s.positional ++ explicitParams rest := rfl
      rw [run_cons, ih (b.step s) orderly.2, step_positional b s orderly.1, opened,
        Bindings.insert_all_append]

def predicateValues (steps : List Step) : List Value :=
  (steps.flatMap Step.predicates).flatMap Predicate.boundValues

theorem run_segment_values (b : Builder) (steps : List Step) :
    segmentValues (b.run steps).segments = segmentValues b.segments ++ predicateValues steps := by
  have each : (fun s : Step => segmentValues s.segments) =
      fun s => s.predicates.flatMap Predicate.boundValues := funext Step.values_of_segments
  rw [run_segments, segmentValues, List.flatMap_append, predicateValues, List.flatMap_assoc,
    List.flatMap_assoc, ← each]
  rfl

theorem fault_none_iff (b : Builder) :
    b.fault? = none ↔ b.misuse = none ∧ b.isBegun = true := by
  rw [fault?, Option.or_eq_none_iff]
  cases begun : b.isBegun <;> simp

theorem orderly_of_built (b : Builder) (steps : List Step) (purpose : Purpose) (s : Statement)
    (built : (b.run steps).statement purpose = .ok s) : b.Orderly steps := by
  obtain ⟨sound, -⟩ := ((b.run steps).statement_ok_iff purpose s).mp built
  have noMisuse := ((b.run steps).fault_none_iff.mp sound).1
  exact ((b.run_misuse_none_iff steps).mp noMisuse).2

end Builder

end Inquiry
