import Inquiry.Proofs.Builder.Aliases
import Mathlib.Data.List.TakeWhile

set_option autoImplicit false

namespace Inquiry

def Step.unprojected : Step → Step
  | selectColumns _ => select
  | s => s

namespace Builder

def cleared (b : Builder) : Builder :=
  { b with source := none, join := none, aliases := b.aliases.clear }

def unprojected (b : Builder) : Builder := { b with projection := .entity }

def undeclaring (steps : List Step) : List Step := steps.filter fun s => s.declared?.isNone

theorem step_default_alias (b : Builder) (s : Step) :
    (b.step s).defaultAlias = b.defaultAlias := by
  cases s with
  | select | selectAs _ | selectColumns _ | delete | source _ _ | join _ _ _ | raw _ => rfl
  | _ => exact step_keeps Builder.defaultAlias .head (fun _ => rfl) b _ (by rintro ⟨⟩)

theorem run_default_alias (b : Builder) (steps : List Step) :
    (b.run steps).defaultAlias = b.defaultAlias := by
  induction steps generalizing b with
  | nil => rfl
  | cons s rest ih => rw [run_cons, ih, step_default_alias]

theorem step_cleared (b : Builder) (s : Step) (silent : s.declared? = none) :
    (b.step s).cleared = b.cleared.step s := by
  cases s with
  | source _ _ | join _ _ _ => cases silent
  | filter ps | and ps | or ps => cases ps <;> rfl
  | param position value =>
      rw [step, step, effect_param, effect_param]
      rfl
  | page number size =>
      rw [step, step, effect_page, effect_page]
      rfl
  | _ => rfl

-- A declaration leaves no trace but what was declared, unless it is a misuse.
theorem declaration_cleared (b : Builder) (s : Step) (declares : s.declared? ≠ none)
    (proper : b.misuse? s = none) : (b.step s).cleared = b.cleared := by
  rw [step, proper, Option.or_none]
  cases s with
  | source _ _ | join _ _ _ => rfl
  | _ => exact absurd rfl declares

theorem run_cleared (b : Builder) (steps : List Step) (orderly : b.Orderly steps) :
    (b.run steps).cleared = b.cleared.run (undeclaring steps) := by
  induction steps generalizing b with
  | nil => rfl
  | cons s rest ih =>
      obtain ⟨proper, later⟩ := orderly
      rw [run_cons, ih (b.step s) later]
      by_cases silent : s.declared? = none
      · have kept : undeclaring (s :: rest) = s :: undeclaring rest :=
          List.filter_cons_of_pos (by rw [silent]; rfl)
        rw [step_cleared b s silent, kept, run_cons]
      · have removed : undeclaring (s :: rest) = undeclaring rest :=
          List.filter_cons_of_neg (by simpa using silent)
        rw [declaration_cleared b s silent proper, removed]

theorem step_raw_of_cleared (b : Builder) (text : String) :
    b.step (.raw text) = b.cleared.step (.raw text) := rfl

theorem step_unprojected (b : Builder) (s : Step) :
    (b.step s).unprojected = b.unprojected.step s.unprojected := by
  cases s with
  | filter ps | and ps | or ps => cases ps <;> rfl
  | param position value =>
      change _ = b.unprojected.step (.param position value)
      rw [step, step, effect_param, effect_param]
      rfl
  | page number size =>
      change _ = b.unprojected.step (.page number size)
      rw [step, step, effect_page, effect_page]
      rfl
  | _ => rfl

theorem run_unprojected (b : Builder) (steps : List Step) :
    (b.run steps).unprojected = b.unprojected.run (steps.map Step.unprojected) := by
  induction steps generalizing b with
  | nil => rfl
  | cons s rest ih => rw [run_cons, ih, step_unprojected, List.map_cons, run_cons]

theorem statement_unprojected (b : Builder) (text : String) (raw : b.raw = some text)
    (purpose : Purpose) : b.unprojected.statement purpose = b.statement purpose := by
  have heads : b.unprojected.head purpose = b.head purpose := by
    cases purpose with
    | rows => rw [(b.head_of_raw text raw).1, (b.unprojected.head_of_raw text raw).1]
    | count => rw [(b.head_of_raw text raw).2, (b.unprojected.head_of_raw text raw).2]
  rw [statement, statement, heads]
  rfl

theorem since_raw_split (before after : List Step) (text : String)
    (last : ∀ s ∈ after, s.rawText? = none) :
    sinceRaw (before ++ .raw text :: after) = sinceRaw after := by
  have silent : ∀ s ∈ after.reverse, s.rawText?.isNone = true := by
    intro s member
    rw [last s (List.mem_reverse.mp member)]
    rfl
  rw [sinceRaw, sinceRaw, List.reverse_append, List.reverse_cons, List.append_assoc,
    List.takeWhile_append_of_pos silent, List.takeWhile_eq_self_iff.mpr silent]
  exact List.append_nil _

theorem headed_by_raw (b : Builder) (text : String) (raw : b.raw = some text) :
    b.HeadedBy text :=
  b.headed_by_head text (b.head_of_raw text raw).1 (by simp [joinText, isRaw, raw])

def SameStatements (b c : Builder) : Prop := b.build = c.build ∧ b.buildCount = c.buildCount

theorem same_statements_unprojected (b : Builder) (text : String) (raw : b.raw = some text) :
    b.unprojected.SameStatements b :=
  ⟨b.statement_unprojected text raw .rows, b.statement_unprojected text raw .count⟩

section

variable (entity : Entity) (config : Config) (before after : List Step) (text : String)

theorem new_run_undeclaring (clean : Clean (before ++ .raw text :: after)) :
    (new entity config).run (undeclaring before ++ .raw text :: after) =
      (new entity config).run (before ++ .raw text :: after) := by
  have sound := (new_run_misuse_none entity config _).mpr clean
  rw [run_append, run_misuse_none_iff] at sound
  have orderly := ((new entity config).run_misuse_none_iff before).mp sound.1
  have kept := run_cleared (new entity config) before orderly.2
  rw [run_append, run_append, run_cons, run_cons, step_raw_of_cleared ((new entity config).run before),
    kept]
  rfl

theorem new_run_last_raw (last : ∀ s ∈ after, s.rawText? = none) :
    ((new entity config).run (before ++ .raw text :: after)).raw = some text := by
  have silent : after.reverse.findSome? Step.rawText? = none := by
    rw [List.findSome?_eq_none_iff]
    exact fun s member => last s (List.mem_reverse.mp member)
  rw [new_run_raw, lastRaw?, List.reverse_append, List.reverse_cons, List.append_assoc,
    List.findSome?_append, silent]
  rfl

theorem new_run_resolves (last : ∀ s ∈ after, s.rawText? = none) (e : Entity) :
    ((new entity config).run (before ++ .raw text :: after)).aliases.resolve e =
      (lastAlias? after e.name).getD config.defaultAlias := by
  have fallback := run_default_alias (new entity config) (before ++ .raw text :: after)
  obtain ⟨-, -, bound⟩ := new_run_declared entity config (before ++ .raw text :: after)
  rw [AliasMap.resolve, bound, lastAlias?, since_raw_split before after text last, ← lastAlias?]
  exact congrArg _ fallback

theorem raw_text_discards (steps : List Step) (split : steps = before ++ .raw text :: after)
    (last : ∀ s ∈ after, s.rawText? = none) (clean : Clean steps) :
    ((new entity config).run steps).HeadedBy text ∧
      SameStatements ((new entity config).run (undeclaring before ++ .raw text :: after))
        ((new entity config).run steps) ∧
      SameStatements ((new entity config).run (steps.map Step.unprojected))
        ((new entity config).run steps) ∧
      SameStatements
        ((new entity config).run ((undeclaring before ++ .raw text :: after).map Step.unprojected))
        ((new entity config).run steps) ∧
      ∀ e, ((new entity config).run steps).aliases.resolve e =
        (lastAlias? after e.name).getD config.defaultAlias := by
  subst split
  have raw := new_run_last_raw entity config before after text last
  have undeclared := new_run_undeclaring entity config before after text clean
  have unprojected := same_statements_unprojected _ text raw
  have blank : (new entity config).unprojected = new entity config := rfl
  refine ⟨headed_by_raw _ text raw, ?_, ?_, ?_,
    new_run_resolves entity config before after text last⟩
  · rw [undeclared]
    exact ⟨rfl, rfl⟩
  · rw [run_unprojected, blank] at unprojected
    exact unprojected
  · rw [← undeclared, run_unprojected, blank] at unprojected
    rw [undeclared] at unprojected
    exact unprojected

end

theorem raw_text_discards_alias :
    ∃ s, ((new ⟨"Book"⟩ .default).run
          [.selectColumns ["u.id"], .source ⟨"User"⟩ "u", .join ⟨"Person"⟩ "owner" "p",
            .filter [(Predicate.equal "name" (.text "x")).ofEntity ⟨"User"⟩],
            .raw "SELECT m FROM Book m", .join ⟨"Person"⟩ "owner" "q",
            .or [(Predicate.isNull "age").ofEntity ⟨"Person"⟩]]).build = .ok s ∧
      s.text = "SELECT m FROM Book m WHERE (_this.name = ?1) OR (q.age IS NULL)" ∧
      ((new ⟨"Book"⟩ .default).run
          [.select, .filter [(Predicate.equal "name" (.text "x")).ofEntity ⟨"User"⟩],
            .raw "SELECT m FROM Book m", .join ⟨"Person"⟩ "owner" "q",
            .or [(Predicate.isNull "age").ofEntity ⟨"Person"⟩]]).build = .ok s := by
  obtain ⟨-, -, -, same, -⟩ := raw_text_discards ⟨"Book"⟩ .default
    [.selectColumns ["u.id"], .source ⟨"User"⟩ "u", .join ⟨"Person"⟩ "owner" "p",
      .filter [(Predicate.equal "name" (.text "x")).ofEntity ⟨"User"⟩]]
    [.join ⟨"Person"⟩ "owner" "q", .or [(Predicate.isNull "age").ofEntity ⟨"Person"⟩]]
    "SELECT m FROM Book m" _ rfl (by simp [Step.rawText?])
    ((new_run_misuse_none ⟨"Book"⟩ .default _).mp rfl)
  exact ⟨_, rfl, by rfl, same.1⟩

end Builder

end Inquiry
