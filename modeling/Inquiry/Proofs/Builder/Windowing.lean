import Inquiry.Proofs.Builder.Failures

set_option autoImplicit false

namespace Inquiry

namespace Step

def windowing? : Step → Option Windowing
  | page (some number) (some size) =>
      if Windowing.IsPage number size then some (.page number size) else none
  | limit (some offset) (some count) => some (.limit offset count)
  | _ => none

def call? : Step → Option Paginator.Call
  | page number size => some (.page number size)
  | limit offset count => some (.limit offset count)
  | _ => none

theorem windowing_eq (s : Step) : s.windowing? = s.call?.bind Paginator.Call.windowing? := by
  cases s with
  | page number size => cases number <;> cases size <;> rfl
  | limit offset count => cases offset <;> cases count <;> rfl
  | _ => rfl

end Step

def Paginator.Call.step : Paginator.Call → Step
  | page number size => .page number size
  | limit offset count => .limit offset count

namespace Builder

def lastWindowing? (steps : List Step) : Option Windowing :=
  steps.reverse.findSome? Step.windowing?

theorem last_windowing_page (steps : List Step) (number size : UInt64)
    (paged : lastWindowing? steps = some (.page number size)) :
    Windowing.IsPage number size := by
  obtain ⟨s, -, chosen⟩ := List.exists_of_findSome?_eq_some paged
  rw [s.windowing_eq] at chosen
  obtain ⟨c, -, chooses⟩ := Option.bind_eq_some_iff.mp chosen
  exact c.page_of_windowing number size chooses

theorem step_after (b : Builder) (s : Step) :
    (b.step s).paginator = (s.call?.map b.paginator.after).getD b.paginator := by
  cases s with
  | page number size => exact congrArg Builder.paginator (b.effect_page number size)
  | limit offset count => rfl
  | _ => exact step_keeps Builder.paginator .window (fun _ => rfl) b _ (by rintro ⟨⟩)

theorem step_paginator (b : Builder) (s : Step) :
    (b.step s).paginator = (s.windowing?.map Windowing.paginator).getD b.paginator := by
  rw [step_after, s.windowing_eq]
  cases s.call? with
  | none => rfl
  | some c => exact b.paginator.after_eq c

theorem step_of_accepted (b : Builder) (c : Paginator.Call) (p : Paginator)
    (accepted : b.paginator.call c = .ok p) : b.step c.step = { b with paginator := p } := by
  cases c with
  | page number size =>
      have chosen : b.paginator.page number size = .ok p := accepted
      simp only [step, Paginator.Call.step, effect, misuse?, chosen, Option.or_none]
  | limit offset count =>
      obtain rfl := Except.ok.inj accepted
      simp only [step, Paginator.Call.step, effect, misuse?, Option.or_none]

theorem step_of_refused (b : Builder) (c : Paginator.Call) (m : Misuse)
    (refused : b.paginator.call c = .error m) :
    b.step c.step = { b with misuse := b.misuse.or (some m) } := by
  cases c with
  | page number size =>
      have failed : b.paginator.page number size = .error m := refused
      simp only [step, Paginator.Call.step, effect, misuse?, failed]
  | limit offset count => cases refused

theorem run_after (b : Builder) (steps : List Step) :
    (b.run steps).paginator = b.paginator.afterAll (steps.filterMap Step.call?) := by
  induction steps generalizing b with
  | nil => rfl
  | cons s rest ih =>
      rw [run_cons, ih, step_after, List.filterMap_cons]
      cases s.call? <;> rfl

section

variable (entity : Entity) (config : Config) (steps : List Step)

theorem new_run_paginator :
    ((new entity config).run steps).paginator =
      ((lastWindowing? steps).map Windowing.paginator).getD .empty := by
  induction steps using List.reverseRecOn with
  | nil => rfl
  | append_singleton steps s ih =>
      rw [run_snoc, step_paginator, ih, lastWindowing?, lastWindowing?, last_given_snoc]
      cases s.windowing? <;> rfl

theorem new_run_page_iff (number size : UInt64) :
    ((new entity config).run steps).paginator.pageNumber = some number ∧
        ((new entity config).run steps).paginator.pageSize = some size ↔
      lastWindowing? steps = some (.page number size) := by
  rw [new_run_paginator]
  cases lastWindowing? steps with
  | none => simp [Paginator.empty]
  | some w =>
      cases w with
      | limit offset count => simp [Windowing.paginator, Windowing.number?]
      | page given givenSize =>
          simp [Windowing.paginator, Windowing.number?, Paginator.pageSize, Paginator.isPaged,
            Windowing.window]

end

structure Unmoved (b : Builder) (c : Paginator.Call) : Prop where
  isPartial : c.IsPartial → b.paginator.call c = .ok b.paginator ∧ b.step c.step = b
  refused : ∀ m, b.paginator.call c = .error m →
    b.paginator.after c = b.paginator ∧ b.step c.step = { b with misuse := b.misuse.or (some m) }
  refuses : (∃ m, b.paginator.call c = .error m) ↔
    ∃ number size, c = .page (some number) (some size) ∧ ¬ Windowing.IsPage number size

theorem unmoved (b : Builder) (c : Paginator.Call) : Unmoved b c where
  isPartial isPartial := by
    have accepted := b.paginator.call_partial c isPartial
    exact ⟨accepted, b.step_of_accepted c b.paginator accepted⟩
  refused m refused := by
    have kept : b.paginator.after c = b.paginator := by rw [Paginator.after, refused]; rfl
    exact ⟨kept, b.step_of_refused c m refused⟩
  refuses := b.paginator.call_error_iff c

theorem last_effective_call_decides (entity : Entity) (config : Config) :
    (∀ calls, Paginator.Reflects calls (Paginator.empty.afterAll calls)) ∧
      (∀ steps, Paginator.Reflects (steps.filterMap Step.call?)
        ((new entity config).run steps).paginator) ∧
      ∀ b c, Unmoved b c := by
  refine ⟨Paginator.after_all_reflects, ?_, unmoved⟩
  intro steps
  rw [run_after]
  exact Paginator.after_all_reflects (steps.filterMap Step.call?)

end Builder

end Inquiry
