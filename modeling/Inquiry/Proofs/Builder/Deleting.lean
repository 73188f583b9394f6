import Inquiry.Proofs.Builder.Failures
import Inquiry.Proofs.Condition.Retargeting

set_option autoImplicit false

namespace Inquiry

namespace Leaf

def qualified (aliasName : String) (l : Leaf) : Leaf :=
  match l.target with
  | .named _ => l
  | _ => { l with target := .named aliasName }

theorem alias_in_unbound (aliasName : String) (l : Leaf) (unnamed : ∀ a, l.target ≠ .named a) :
    l.aliasIn (.new aliasName) = aliasName := by
  rw [aliasIn]
  cases target : l.target with
  | default => rfl
  | named a => exact absurd target (unnamed a)
  | entity e => rfl

theorem qualified_reads_as (aliasName : String) (l : Leaf) :
    (l.qualified aliasName).ReadsAs (.new aliasName) (.new aliasName) l := by
  obtain ⟨target, column, op, operand⟩ := l
  cases target <;> exact ⟨rfl, rfl, rfl, rfl⟩

end Leaf

def Segment.qualified (aliasName : String) (s : Segment) : Segment :=
  { s with predicate := s.predicate.mapLeaves (Leaf.qualified aliasName) }

namespace Builder

theorem conditions_qualified (aliasName : String) (c : Compiler) (isOpen : Bool)
    (segments : List Segment) (unbound : c.aliases = .new aliasName) :
    conditions c isOpen (segments.map (Segment.qualified aliasName)) =
      conditions c isOpen segments := by
  induction segments generalizing c isOpen with
  | nil => rfl
  | cons s rest ih =>
      have compiled : c.compile (s.qualified aliasName).predicate = c.compile s.predicate := by
        have alike := c.compile_reads_as (Leaf.qualified aliasName) id s.predicate fun l _ => by
          rw [unbound]
          exact l.qualified_reads_as aliasName
        rwa [Predicate.map_leaves_id] at alike
      rw [List.map_cons, conditions, conditions, compiled]
      cases outcome : c.compile s.predicate with
      | error e => rfl
      | ok answer =>
          obtain ⟨f, d⟩ := answer
          obtain ⟨-, -, rfl⟩ := (c.compile_ok_iff d s.predicate f).mp outcome
          have later (isOpen : Bool) := ih (c.advance s.predicate) isOpen unbound
          simp only [bind, Except.bind, later]
          rfl

structure Undeclared (entity : Entity) (aliasName : String) (b : Builder) : Prop where
  entity : b.entity = entity
  source : b.source = none
  join : b.join = none
  aliases : b.aliases = .new aliasName

-- Whoever neither selects nor has a raw text has declared nothing.
def Reserved (entity : Entity) (aliasName : String) (b : Builder) : Prop :=
  b.raw = none → b.mode ≠ some .select → b.Undeclared entity aliasName

section

variable (entity : Entity) (aliasName : String)

theorem placed_in_selection (b : Builder) (clause : Clause) (proper : b.misplaced? clause = none) :
    b.raw ≠ none ∨ b.mode = some .select := by
  rw [misplaced?, early?, isBegun, isRaw] at proper
  cases mode : b.mode with
  | none =>
      cases raw : b.raw with
      | none => simp [mode, raw] at proper
      | some text => exact .inl (by rintro ⟨⟩)
  | some m =>
      cases m with
      | select => exact .inr rfl
      | delete => simp [mode] at proper

theorem step_reserved (b : Builder) (s : Step) (proper : b.misuse? s = none)
    (reserved : b.Reserved entity aliasName) : (b.step s).Reserved entity aliasName := by
  by_cases own : s.part = .head
  · intro structural unselected
    cases s with
    | select | selectAs _ | selectColumns _ =>
        have modeless : b.mode = none := Option.map_eq_none_iff.mp proper
        rw [step_mode, modeless] at unselected
        exact absurd rfl unselected
    | delete =>
        have modeless : b.mode = none := Option.map_eq_none_iff.mp proper
        obtain ⟨same, source, join, aliases⟩ := reserved structural (by rw [modeless]; rintro ⟨⟩)
        exact ⟨same, source, join, aliases⟩
    | source _ _ | join _ _ _ =>
        rcases b.placed_in_selection _ proper with raw | selecting
        · exact absurd structural raw
        · exact absurd selecting unselected
    | raw text => cases structural
    | _ => cases own
  · have kept {α : Type} (field : Builder → α) (held : ∀ b, field (b.only .head) = field b) :
        field (b.step s) = field b := step_keeps field .head held b s own
    intro structural unselected
    rw [kept Builder.raw fun _ => rfl] at structural
    rw [kept Builder.mode fun _ => rfl] at unselected
    obtain ⟨same, source, join, aliases⟩ := reserved structural unselected
    exact ⟨(kept Builder.entity fun _ => rfl).trans same,
      (kept Builder.source fun _ => rfl).trans source, (kept Builder.join fun _ => rfl).trans join,
      (kept Builder.aliases fun _ => rfl).trans aliases⟩

theorem run_reserved (b : Builder) (steps : List Step) (orderly : b.Orderly steps)
    (reserved : b.Reserved entity aliasName) : (b.run steps).Reserved entity aliasName := by
  induction steps generalizing b with
  | nil => exact reserved
  | cons s rest ih =>
      exact ih (b.step s) orderly.2 (step_reserved entity aliasName b s orderly.1 reserved)

structure DeletesOnly (b : Builder) : Prop where
  source : b.source = none
  join : b.join = none
  unbound : ∀ a, b.aliases.isBoundAlias a = false
  text : b.HeadedBy ("DELETE FROM " ++ entity.name ++ " " ++ aliasName)
  resolved : ∀ l : Leaf, (∀ a, l.target ≠ .named a) → l.aliasIn b.aliases = aliasName
  qualified : b.whereClause =
    { b with segments := b.segments.map (Segment.qualified aliasName) }.whereClause

theorem deletes_only_of_undeclared (b : Builder) (undeclared : b.Undeclared entity aliasName)
    (deleting : b.mode = some .delete) (structural : b.raw = none) :
    b.DeletesOnly entity aliasName where
  source := undeclared.source
  join := undeclared.join
  unbound a := by rw [undeclared.aliases]; rfl
  text := by
    have headed := (b.head_of_delete structural deleting).1
    rw [undeclared.entity, defaultAlias, undeclared.aliases] at headed
    exact b.headed_by_head _ headed (by simp [joinText, deleting])
  resolved l unnamed := by
    rw [undeclared.aliases]
    exact l.alias_in_unbound aliasName unnamed
  qualified := (conditions_qualified aliasName _ false b.segments undeclared.aliases).symm

end

section

variable (entity : Entity) (config : Config) (steps : List Step)

theorem delete_addresses_primary (clean : Clean steps)
    (deleting : ((new entity config).run steps).mode = some .delete)
    (structural : ((new entity config).run steps).raw = none) :
    ((new entity config).run steps).DeletesOnly entity config.defaultAlias := by
  have sound := (new_run_misuse_none entity config steps).mpr clean
  have orderly := ((new entity config).run_misuse_none_iff steps).mp sound
  have reserved := run_reserved entity config.defaultAlias (new entity config) steps orderly.2
    fun _ _ => ⟨rfl, rfl, rfl, rfl⟩
  have undeclared := reserved structural (by rw [deleting]; rintro ⟨⟩)
  exact deletes_only_of_undeclared entity config.defaultAlias _ undeclared deleting structural

end

theorem delete_of_named_aliases :
    ((new ⟨"User"⟩ .default).run
        [.nullPolicy .reject, .delete,
          .filter [(Predicate.equal "title" (.text "x")).ofEntity ⟨"Book"⟩,
            (Predicate.isNull "owner").withAlias "o"],
          .groupBy ⟨none, "id"⟩]).DeletesOnly ⟨"User"⟩ "_this" ∧
      ∃ s, ((new ⟨"User"⟩ .default).run
          [.nullPolicy .reject, .delete,
            .filter [(Predicate.equal "title" (.text "x")).ofEntity ⟨"Book"⟩,
              (Predicate.isNull "owner").withAlias "o"],
            .groupBy ⟨none, "id"⟩]).build = .ok s ∧
        s.text = "DELETE FROM User _this WHERE (_this.title = ?1 AND o.owner IS NULL) " ++
          "GROUP BY _this.id" := by
  refine ⟨delete_addresses_primary ⟨"User"⟩ .default _ ?_ rfl rfl, _, rfl, by rfl⟩
  exact (new_run_misuse_none ⟨"User"⟩ .default _).mp rfl

end Builder

end Inquiry
