import Inquiry.Proofs.Builder.Failures
import Inquiry.Proofs.Builder.Parts

set_option autoImplicit false

namespace Inquiry

namespace Builder

theorem eq_of_parts (b c : Builder) (parts : ∀ p, b.only p = c.only p)
    (misuse : b.misuse = c.misuse) : b = c := by
  have field {α : Type} (f : Builder → α) (p : Part) (held : ∀ b, f (b.only p) = f b) :
      f b = f c := field_of_part f p held b c (parts p)
  have entity := field Builder.entity .head fun _ => rfl
  have mode := field Builder.mode .head fun _ => rfl
  have projection := field Builder.projection .head fun _ => rfl
  have source := field Builder.source .head fun _ => rfl
  have join := field Builder.join .head fun _ => rfl
  have aliases := field Builder.aliases .head fun _ => rfl
  have raw := field Builder.raw .head fun _ => rfl
  have segments := field Builder.segments .conditions fun _ => rfl
  have orderings := field Builder.orderings .orderings fun _ => rfl
  have groupings := field Builder.groupings .groupings fun _ => rfl
  have positional := field Builder.positional .positional fun _ => rfl
  have named := field Builder.named .named fun _ => rfl
  have config := field Builder.config .nullPolicy fun _ => rfl
  have distinct := field Builder.distinct .distinct fun _ => rfl
  have paginator := field Builder.paginator .window fun _ => rfl
  obtain ⟨_, _, _, _, _, _, _, _, _, _, _, _, _, _, _, _⟩ := b
  obtain ⟨_, _, _, _, _, _, _, _, _, _, _, _, _, _, _, _⟩ := c
  dsimp only at *
  subst entity mode projection source join aliases raw segments orderings groupings positional named
    config distinct paginator misuse
  rfl

-- What a step does to its own part depends on that part alone.
theorem step_own_part (b : Builder) (s : Step) :
    (b.step s).only s.part = ((b.only s.part).step s).only s.part := by
  cases s with
  | filter ps | and ps | or ps => cases ps <;> rfl
  | param position value =>
      exact (congrArg (only .positional) (b.effect_param position value)).trans
        (congrArg (only .positional) ((b.only .positional).effect_param position value)).symm
  | page number size =>
      exact (congrArg (only .window) (b.effect_page number size)).trans
        (congrArg (only .window) ((b.only .window).effect_page number size)).symm
  | _ => rfl

theorem run_part (p : Part) (b c : Builder) (same : b.only p = c.only p) (steps : List Step) :
    (b.run steps).only p = (c.run (steps.filter fun s => s.part = p)).only p := by
  induction steps generalizing b c with
  | nil => exact same
  | cons s rest ih =>
      rw [List.filter_cons]
      by_cases own : s.part = p
      · subst own
        rw [if_pos (by simp)]
        refine ih (b.step s) (c.step s) ?_
        rw [b.step_own_part, c.step_own_part, same]
      · rw [if_neg (by simpa using own)]
        exact ih (b.step s) c ((b.step_other_part s p own).trans same)

section

variable (entity : Entity) (config : Config) (steps others : List Step)

theorem independent_steps_commute
    (alike : ∀ p, steps.filter (fun s => s.part = p) = others.filter fun s => s.part = p)
    (clean : Clean steps) (cleanToo : Clean others) :
    ((new entity config).run steps).build = ((new entity config).run others).build ∧
      ((new entity config).run steps).buildCount = ((new entity config).run others).buildCount := by
  have parts (p : Part) :
      ((new entity config).run steps).only p = ((new entity config).run others).only p := by
    rw [run_part p _ _ rfl steps, run_part p _ _ rfl others, alike p]
  have misuse : ((new entity config).run steps).misuse = ((new entity config).run others).misuse :=
    ((new_run_misuse_none entity config steps).mpr clean).trans
      ((new_run_misuse_none entity config others).mpr cleanToo).symm
  rw [eq_of_parts _ _ parts misuse]
  exact ⟨rfl, rfl⟩

end

theorem mixed_steps_commute :
    ∃ s, s.text = "SELECT _this FROM Book b WHERE (b.name = ?5)" ∧
      ((new ⟨"User"⟩ .default).run
        [.select, .filter [(Predicate.equal "name" (.text "x")).ofEntity ⟨"Book"⟩,
            .equal "sort" .null], .source ⟨"Book"⟩ "b", .param 4 (.int 1), .nullPolicy .ignore,
          .page (some 2) (some 3)]).build = .ok s ∧
      ((new ⟨"User"⟩ .default).run
        [.page (some 2) (some 3), .nullPolicy .ignore, .param 4 (.int 1), .select,
          .source ⟨"Book"⟩ "b", .filter [(Predicate.equal "name" (.text "x")).ofEntity ⟨"Book"⟩,
            .equal "sort" .null]]).build = .ok s := by
  have commute := independent_steps_commute ⟨"User"⟩ .default
    [.select, .filter [(Predicate.equal "name" (.text "x")).ofEntity ⟨"Book"⟩,
        .equal "sort" .null], .source ⟨"Book"⟩ "b", .param 4 (.int 1), .nullPolicy .ignore,
      .page (some 2) (some 3)]
    [.page (some 2) (some 3), .nullPolicy .ignore, .param 4 (.int 1), .select,
      .source ⟨"Book"⟩ "b", .filter [(Predicate.equal "name" (.text "x")).ofEntity ⟨"Book"⟩,
        .equal "sort" .null]]
    (fun p => by cases p <;> rfl) ((new_run_misuse_none ⟨"User"⟩ .default _).mp rfl)
    ((new_run_misuse_none ⟨"User"⟩ .default _).mp rfl)
  exact ⟨_, by rfl, rfl, commute.1.symm⟩

end Builder

end Inquiry
