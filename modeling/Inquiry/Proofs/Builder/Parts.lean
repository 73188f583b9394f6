import Inquiry.Builder.Step

set_option autoImplicit false

namespace Inquiry

inductive Part where
  | head
  | conditions
  | orderings
  | groupings
  | positional
  | named
  | nullPolicy
  | distinct
  | window
deriving DecidableEq, Repr

def Step.part : Step → Part
  | select | selectAs _ | selectColumns _ | delete | source _ _ | join _ _ _ | raw _ => .head
  | filter _ | and _ | or _ => .conditions
  | orderBy _ _ => .orderings
  | groupBy _ => .groupings
  | param _ _ => .positional
  | paramNamed _ _ => .named
  | nullPolicy _ => .nullPolicy
  | distinct => .distinct
  | page _ _ | limit _ _ => .window

namespace Builder

def blank : Builder := new ⟨""⟩ .default

def only (p : Part) (b : Builder) : Builder :=
  match p with
  | .head =>
      { blank with
        entity := b.entity
        mode := b.mode
        projection := b.projection
        source := b.source
        join := b.join
        aliases := b.aliases
        raw := b.raw }
  | .conditions => { blank with segments := b.segments }
  | .orderings => { blank with orderings := b.orderings }
  | .groupings => { blank with groupings := b.groupings }
  | .positional => { blank with positional := b.positional }
  | .named => { blank with named := b.named }
  | .nullPolicy => { blank with config := b.config }
  | .distinct => { blank with distinct := b.distinct }
  | .window => { blank with paginator := b.paginator }

theorem field_of_part {α : Type} (field : Builder → α) (p : Part)
    (held : ∀ b : Builder, field (b.only p) = field b) (b c : Builder) (same : b.only p = c.only p) :
    field b = field c := by
  rw [← held b, same, held c]

theorem add_segment_eq (b : Builder) (connective : Connective) (ps : List Predicate) :
    b.addSegment connective ps = { b with
      segments := b.segments ++ if ps.isEmpty then [] else [⟨connective, .conjunction ps⟩] } := by
  cases ps with
  | nil => simp [addSegment]
  | cons p rest => rfl

theorem effect_param (b : Builder) (position : Nat) (value : Value) :
    b.effect (.param position value) = { b with
      positional := if position = 0 then b.positional
        else b.positional.insert position value } := by
  by_cases zero : position = 0 <;> simp [effect, zero]

theorem effect_page (b : Builder) (number size : Option UInt64) :
    b.effect (.page number size) = { b with
      paginator := (b.paginator.page number size).toOption.getD b.paginator } := by
  cases chosen : b.paginator.page number size <;> simp [effect, chosen, Except.toOption]

theorem step_other_part (b : Builder) (s : Step) (p : Part) (other : s.part ≠ p) :
    (b.step s).only p = b.only p := by
  cases s with
  | select | selectAs _ | selectColumns _ | delete | source _ _ | join _ _ _ | raw _ =>
      cases p with
      | head => exact absurd rfl other
      | _ => rfl
  | filter ps | and ps | or ps =>
      refine (congrArg (only p) (b.add_segment_eq _ ps)).trans ?_
      cases p with
      | conditions => exact absurd rfl other
      | _ => rfl
  | orderBy _ _ =>
      cases p with
      | orderings => exact absurd rfl other
      | _ => rfl
  | groupBy _ =>
      cases p with
      | groupings => exact absurd rfl other
      | _ => rfl
  | param position value =>
      refine (congrArg (only p) (b.effect_param position value)).trans ?_
      cases p with
      | positional => exact absurd rfl other
      | _ => rfl
  | paramNamed _ _ =>
      cases p with
      | named => exact absurd rfl other
      | _ => rfl
  | nullPolicy _ =>
      cases p with
      | nullPolicy => exact absurd rfl other
      | _ => rfl
  | distinct =>
      cases p with
      | distinct => exact absurd rfl other
      | _ => rfl
  | page number size =>
      refine (congrArg (only p) (b.effect_page number size)).trans ?_
      cases p with
      | window => exact absurd rfl other
      | _ => rfl
  | limit _ _ =>
      cases p with
      | window => exact absurd rfl other
      | _ => rfl

theorem step_keeps {α : Type} (field : Builder → α) (p : Part)
    (held : ∀ b : Builder, field (b.only p) = field b) (b : Builder) (s : Step)
    (other : s.part ≠ p) : field (b.step s) = field b :=
  field_of_part field p held (b.step s) b (b.step_other_part s p other)

end Builder

end Inquiry
