import Inquiry.Proofs.Builder.History
import Mathlib.Data.List.Induction

set_option autoImplicit false

namespace Inquiry

namespace Step

def mode? : Step → Option Mode
  | select | selectAs _ | selectColumns _ => some .select
  | delete => some .delete
  | _ => none

def rawText? : Step → Option String
  | raw text => some text
  | _ => none

def policy? : Step → Option NullPolicy
  | nullPolicy policy => some policy
  | _ => none

end Step

namespace Builder

def firstMode? (steps : List Step) : Option Mode := steps.findSome? Step.mode?

def lastRaw? (steps : List Step) : Option String := steps.reverse.findSome? Step.rawText?

def lastPolicy? (steps : List Step) : Option NullPolicy := steps.reverse.findSome? Step.policy?

theorem run_snoc (b : Builder) (steps : List Step) (s : Step) :
    b.run (steps ++ [s]) = (b.run steps).step s := by
  rw [run_append, run_cons, run_nil]

theorem first_mode_snoc (steps : List Step) (s : Step) :
    firstMode? (steps ++ [s]) = (firstMode? steps).or s.mode? := by
  simp [firstMode?, List.findSome?_append]

theorem last_given_snoc {α : Type} (given? : Step → Option α) (steps : List Step) (s : Step) :
    (steps ++ [s]).reverse.findSome? given? =
      (given? s).or (steps.reverse.findSome? given?) := by
  cases given : given? s <;> simp [given]

theorem step_mode (b : Builder) (s : Step) : (b.step s).mode = b.mode.or s.mode? := by
  cases s with
  | select | selectAs _ | selectColumns _ | delete => rfl
  | source _ _ | join _ _ _ | raw _ => exact Option.or_none.symm
  | _ =>
      exact (step_keeps Builder.mode .head (fun _ => rfl) b _ (by rintro ⟨⟩)).trans Option.or_none.symm

theorem step_raw (b : Builder) (s : Step) : (b.step s).raw = s.rawText?.or b.raw := by
  cases s with
  | select | selectAs _ | selectColumns _ | delete | source _ _ | join _ _ _ | raw _ => rfl
  | _ => exact step_keeps Builder.raw .head (fun _ => rfl) b _ (by rintro ⟨⟩)

theorem step_null_policy (b : Builder) (s : Step) :
    (b.step s).nullPolicy = s.policy?.getD b.nullPolicy := by
  cases s with
  | nullPolicy policy => rfl
  | _ => exact step_keeps Builder.nullPolicy .nullPolicy (fun _ => rfl) b _ (by rintro ⟨⟩)

section

variable (entity : Entity) (config : Config) (steps : List Step)

theorem new_run_mode : ((new entity config).run steps).mode = firstMode? steps := by
  induction steps using List.reverseRecOn with
  | nil => rfl
  | append_singleton steps s ih => rw [run_snoc, step_mode, ih, first_mode_snoc]

theorem new_run_raw : ((new entity config).run steps).raw = lastRaw? steps := by
  induction steps using List.reverseRecOn with
  | nil => rfl
  | append_singleton steps s ih =>
      rw [run_snoc, step_raw, ih]
      exact (last_given_snoc Step.rawText? steps s).symm

theorem new_run_null_policy :
    ((new entity config).run steps).nullPolicy = (lastPolicy? steps).getD config.nullPolicy := by
  induction steps using List.reverseRecOn with
  | nil => rfl
  | append_singleton steps s ih =>
      rw [run_snoc, step_null_policy, ih, lastPolicy?, lastPolicy?, last_given_snoc]
      cases s.policy? <;> rfl

theorem new_run_begun :
    ((new entity config).run steps).isBegun = true ↔
      firstMode? steps ≠ none ∨ lastRaw? steps ≠ none := by
  rw [isBegun, isRaw, new_run_mode, new_run_raw, Bool.or_eq_true, Option.isSome_iff_ne_none,
    Option.isSome_iff_ne_none]

end

end Builder

end Inquiry
