import Inquiry.Proofs.Builder.Independence

set_option autoImplicit false

namespace Inquiry

namespace Step

def source? : Step → Option Aliased
  | source entity aliasName => some ⟨entity, aliasName⟩
  | _ => none

def join? : Step → Option Join
  | join entity column aliasName => some ⟨⟨entity, aliasName⟩, column⟩
  | _ => none

def declared? (s : Step) : Option Aliased := s.source?.or (s.join?.map Join.target)

def aliasFor? (name : String) (s : Step) : Option String :=
  s.declared?.bind fun d => if name = d.entity.name then some d.aliasName else none

end Step

namespace AliasMap

def Ordered (m : AliasMap) : Prop := m.bound.keys.Pairwise (· < ·)

theorem new_ordered (defaultAlias : String) : (new defaultAlias).Ordered := .nil

theorem clear_ordered (m : AliasMap) : m.clear.Ordered := .nil

theorem bind_ordered (m : AliasMap) (entity : Entity) (aliasName : String) (ordered : m.Ordered) :
    (m.bind entity aliasName).Ordered := by
  rw [Ordered, bind, Bindings.keys_insert]
  exact Bindings.insert_key_ascending entity.name m.bound.keys ordered

theorem bound_iff (m : AliasMap) (ordered : m.Ordered) (aliasName : String) :
    m.isBoundAlias aliasName = true ↔ ∃ name, m.bound.get? name = some aliasName := by
  rw [isBoundAlias, List.any_eq_true]
  constructor
  · rintro ⟨⟨name, bound⟩, member, same⟩
    obtain rfl : bound = aliasName := by simpa using same
    exact ⟨name, (Bindings.mem_entries_iff m.bound ordered name bound).mp member⟩
  · rintro ⟨name, found⟩
    exact ⟨(name, aliasName), (Bindings.mem_entries_iff m.bound ordered name aliasName).mpr found,
      by simp⟩

end AliasMap

namespace Builder

-- The steps behind the last raw text, all if there is none, and the latest one first.
def sinceRaw (steps : List Step) : List Step :=
  steps.reverse.takeWhile fun s => s.rawText?.isNone

def lastSource? (steps : List Step) : Option Aliased := (sinceRaw steps).findSome? Step.source?

def lastJoin? (steps : List Step) : Option Join := (sinceRaw steps).findSome? Step.join?

def lastAlias? (steps : List Step) (name : String) : Option String :=
  (sinceRaw steps).findSome? (Step.aliasFor? name)

theorem since_raw_snoc (steps : List Step) (s : Step) :
    sinceRaw (steps ++ [s]) = if s.rawText?.isNone then s :: sinceRaw steps else [] := by
  rw [sinceRaw, List.reverse_append, List.reverse_singleton, List.singleton_append,
    List.takeWhile_cons, ← sinceRaw]

theorem last_since_raw_snoc {α : Type} (given? : Step → Option α) (steps : List Step) (s : Step)
    (structural : s.rawText? = none) :
    (sinceRaw (steps ++ [s])).findSome? given? =
      (given? s).or ((sinceRaw steps).findSome? given?) := by
  rw [since_raw_snoc, structural]
  cases given : given? s <;> simp [given]

theorem declared_of_part (s : Step) (other : s.part ≠ .head) : s.source? = none ∧ s.join? = none := by
  cases s with
  | source entity aliasName => exact absurd rfl other
  | join entity column aliasName => exact absurd rfl other
  | _ => exact ⟨rfl, rfl⟩

theorem step_declares (b : Builder) (s : Step) (structural : s.rawText? = none) :
    (b.step s).source = s.source?.or b.source ∧ (b.step s).join = s.join?.or b.join ∧
      (b.step s).aliases = match s.declared? with
        | some d => b.aliases.bind d.entity d.aliasName
        | none => b.aliases := by
  by_cases own : s.part = .head
  · cases s with
    | raw text => cases structural
    | select | selectAs _ | selectColumns _ | delete | source _ _ | join _ _ _ =>
        exact ⟨rfl, rfl, rfl⟩
    | _ => cases own
  · obtain ⟨noSource, noJoin⟩ := declared_of_part s own
    rw [Step.declared?, noSource, noJoin]
    exact ⟨step_keeps Builder.source .head (fun _ => rfl) b s own,
      step_keeps Builder.join .head (fun _ => rfl) b s own,
      step_keeps Builder.aliases .head (fun _ => rfl) b s own⟩

theorem step_raw_clears (b : Builder) (s : Step) (given : s.rawText? ≠ none) :
    (b.step s).source = none ∧ (b.step s).join = none ∧ (b.step s).aliases = b.aliases.clear := by
  cases s with
  | raw text => exact ⟨rfl, rfl, rfl⟩
  | _ => exact absurd rfl given

theorem step_bound (b : Builder) (s : Step) (structural : s.rawText? = none) (name : String) :
    (b.step s).aliases.bound.get? name = (s.aliasFor? name).or (b.aliases.bound.get? name) := by
  rw [(b.step_declares s structural).2.2, Step.aliasFor?]
  cases s.declared? with
  | none => rfl
  | some d =>
      dsimp only [AliasMap.bind]
      rw [Bindings.get_insert]
      by_cases same : name = d.entity.name <;> simp [same]

theorem step_ordered (b : Builder) (s : Step) (ordered : b.aliases.Ordered) :
    (b.step s).aliases.Ordered := by
  by_cases structural : s.rawText? = none
  · rw [(b.step_declares s structural).2.2]
    cases s.declared? with
    | none => exact ordered
    | some d => exact b.aliases.bind_ordered d.entity d.aliasName ordered
  · rw [(b.step_raw_clears s structural).2.2]
    exact b.aliases.clear_ordered

theorem run_ordered (b : Builder) (steps : List Step) (ordered : b.aliases.Ordered) :
    (b.run steps).aliases.Ordered := by
  induction steps generalizing b with
  | nil => exact ordered
  | cons s rest ih => exact ih (b.step s) (b.step_ordered s ordered)

def firstSegment (column : String) : String := String.ofList (column.toList.takeWhile (· ≠ '.'))

theorem qualify_passes_iff (aliases : AliasMap) (column : String) :
    qualify aliases column = column ↔
      '.' ∈ column.toList ∧ aliases.isBoundAlias (firstSegment column) = true := by
  have longer : aliases.defaultAlias ++ "." ++ column ≠ column := by
    intro same
    have lengths := congrArg String.length same
    rw [String.length_append, String.length_append] at lengths
    have dot : ".".length = 1 := rfl
    omega
  rw [qualify, ← firstSegment, ← List.contains_iff_mem, ← Bool.and_eq_true]
  by_cases passes : (column.toList.contains '.' && aliases.isBoundAlias (firstSegment column)) = true
  · rw [if_pos passes]
    exact iff_of_true rfl passes
  · rw [if_neg passes]
    exact iff_of_false longer passes

def Declared (steps : List Step) (aliasName : String) : Prop :=
  (∃ d, lastSource? steps = some d ∧ d.aliasName = aliasName) ∨
    ∃ j, lastJoin? steps = some j ∧ j.target.aliasName = aliasName

def LastBound (steps : List Step) (aliasName : String) : Prop :=
  ∃ name, lastAlias? steps name = some aliasName

-- A step of a run that declares an entity, and the steps behind it, the latest one first.
def Declaration (steps later : List Step) (s : Step) (d : Aliased) : Prop :=
  (∃ earlier, sinceRaw steps = later ++ s :: earlier) ∧ s.declared? = some d

def Replaced (later : List Step) (s : Step) : Prop := ∃ t ∈ later, t.clause? = s.clause?

def Redeclared (later : List Step) (d : Aliased) : Prop :=
  ∃ t ∈ later, ∃ e, t.declared? = some e ∧ e.entity.name = d.entity.name

-- The slots forget what was replaced and the bound aliases what was redeclared. Where one of the two
-- happens without the other, the alias has to be that of another declaration.
structure InStep (steps : List Step) : Prop where
  replaced : ∀ later s d, Declaration steps later s d → Replaced later s → ¬ Redeclared later d →
    ∃ after t e, Declaration steps after t e ∧ ¬ Replaced after t ∧ e.aliasName = d.aliasName
  redeclared : ∀ later s d, Declaration steps later s d → ¬ Replaced later s → Redeclared later d →
    ∃ after t e, Declaration steps after t e ∧ ¬ Redeclared after e ∧ e.aliasName = d.aliasName

def Distinct (steps : List Step) : Prop :=
  (((sinceRaw steps).filterMap Step.declared?).map Aliased.aliasName).Nodup

structure Settled (steps : List Step) : Prop where
  source : ∀ s ∈ sinceRaw steps, ∀ d, s.source? = some d → lastSource? steps = some d
  join : ∀ s ∈ sinceRaw steps, ∀ j, s.join? = some j → lastJoin? steps = some j
  apart : ∀ d j, lastSource? steps = some d → lastJoin? steps = some j →
    d.entity.name = j.target.entity.name → d.aliasName = j.target.aliasName

theorem alias_for_iff (s : Step) (name aliasName : String) :
    s.aliasFor? name = some aliasName ↔
      ∃ d, s.declared? = some d ∧ d.entity.name = name ∧ d.aliasName = aliasName := by
  rw [Step.aliasFor?, Option.bind_eq_some_iff]
  simp [eq_comm]

theorem declared_iff (s : Step) (d : Aliased) :
    s.declared? = some d ↔ s.source? = some d ∨ ∃ j, s.join? = some j ∧ j.target = d := by
  cases s <;> simp [Step.declared?, Step.source?, Step.join?]

theorem declared_of_clause (s : Step) :
    (s.clause? = some .source ↔ s.source? ≠ none) ∧ (s.clause? = some .join ↔ s.join? ≠ none) := by
  cases s <;> simp [Step.clause?, Step.source?, Step.join?]

theorem standing_iff {α : Type} (given? : Step → Option α) (clause : Clause)
    (takes : ∀ s, s.clause? = some clause ↔ given? s ≠ none) (steps : List Step) (x : α) :
    (sinceRaw steps).findSome? given? = some x ↔
      ∃ later s earlier, sinceRaw steps = later ++ s :: earlier ∧ given? s = some x ∧
        ¬ Replaced later s := by
  have standing (later : List Step) (s : Step) (given : given? s = some x) :
      ¬ Replaced later s ↔ ∀ t ∈ later, given? t = none := by
    have own : s.clause? = some clause := (takes s).mpr (by simp [given])
    simp [Replaced, own, takes]
  rw [List.findSome?_eq_some_iff]
  constructor
  · rintro ⟨later, s, earlier, split, given, none⟩
    exact ⟨later, s, earlier, split, given, (standing later s given).mpr none⟩
  · rintro ⟨later, s, earlier, split, given, stands⟩
    exact ⟨later, s, earlier, split, given, (standing later s given).mp stands⟩

theorem bound_of_declared (steps : List Step) (s : Step) (member : s ∈ sinceRaw steps)
    (d : Aliased) (declared : s.declared? = some d) :
    ∃ aliasName, lastAlias? steps d.entity.name = some aliasName := by
  have given := (alias_for_iff s d.entity.name d.aliasName).mpr ⟨d, declared, rfl, rfl⟩
  rw [← Option.isSome_iff_exists, lastAlias?, List.findSome?_isSome_iff]
  exact ⟨s, member, by rw [given]; rfl⟩

theorem bound_iff_standing (steps : List Step) (aliasName : String) :
    LastBound steps aliasName ↔
      ∃ later s d, Declaration steps later s d ∧ ¬ Redeclared later d ∧ d.aliasName = aliasName := by
  have standing (later : List Step) (d : Aliased) :
      ¬ Redeclared later d ↔ ∀ t ∈ later, t.aliasFor? d.entity.name = none := by
    simp only [Redeclared, not_exists, not_and, Option.eq_none_iff_forall_ne_some, ne_eq,
      alias_for_iff]
    exact ⟨fun free t member _ e given named _ => free t member e given named,
      fun free t member e given named => free t member e.aliasName e given named rfl⟩
  constructor
  · rintro ⟨name, bound⟩
    obtain ⟨later, s, earlier, split, given, free⟩ := List.findSome?_eq_some_iff.mp bound
    obtain ⟨d, declared, rfl, aliased⟩ := (alias_for_iff s name aliasName).mp given
    exact ⟨later, s, d, ⟨⟨earlier, split⟩, declared⟩, (standing later d).mpr free, aliased⟩
  · rintro ⟨later, s, d, ⟨⟨earlier, split⟩, declared⟩, stands, aliased⟩
    exact ⟨d.entity.name, List.findSome?_eq_some_iff.mpr ⟨later, s, earlier, split,
      (alias_for_iff s _ aliasName).mpr ⟨d, declared, rfl, aliased⟩, (standing later d).mp stands⟩⟩

theorem declared_iff_standing (steps : List Step) (aliasName : String) :
    Declared steps aliasName ↔
      ∃ later s d, Declaration steps later s d ∧ ¬ Replaced later s ∧ d.aliasName = aliasName := by
  have sources := standing_iff Step.source? .source (fun s => (declared_of_clause s).1) steps
  have joins := standing_iff Step.join? .join (fun s => (declared_of_clause s).2) steps
  constructor
  · rintro (⟨d, last, aliased⟩ | ⟨j, last, aliased⟩)
    · obtain ⟨later, s, earlier, split, given, stands⟩ := (sources d).mp last
      exact ⟨later, s, d, ⟨⟨earlier, split⟩, (declared_iff s d).mpr (.inl given)⟩, stands, aliased⟩
    · obtain ⟨later, s, earlier, split, given, stands⟩ := (joins j).mp last
      exact ⟨later, s, j.target, ⟨⟨earlier, split⟩, (declared_iff s _).mpr (.inr ⟨j, given, rfl⟩)⟩,
        stands, aliased⟩
  · rintro ⟨later, s, d, ⟨⟨earlier, split⟩, declared⟩, stands, aliased⟩
    rcases (declared_iff s d).mp declared with given | ⟨j, given, rfl⟩
    · exact .inl ⟨d, (sources d).mpr ⟨later, s, earlier, split, given, stands⟩, aliased⟩
    · exact .inr ⟨j, (joins j).mpr ⟨later, s, earlier, split, given, stands⟩, aliased⟩

theorem in_step_iff (steps : List Step) :
    (∀ aliasName, LastBound steps aliasName ↔ Declared steps aliasName) ↔ InStep steps := by
  simp only [bound_iff_standing, declared_iff_standing]
  constructor
  · intro same
    refine ⟨fun later s d declares _ bound => ?_, fun later s d declares stands _ => ?_⟩
    · exact (same d.aliasName).mp ⟨later, s, d, declares, bound, rfl⟩
    · exact (same d.aliasName).mpr ⟨later, s, d, declares, stands, rfl⟩
  · intro inStep aliasName
    constructor
    · rintro ⟨later, s, d, declares, bound, rfl⟩
      by_cases replaced : Replaced later s
      · exact inStep.replaced later s d declares replaced bound
      · exact ⟨later, s, d, declares, replaced, rfl⟩
    · rintro ⟨later, s, d, declares, stands, rfl⟩
      by_cases redeclared : Redeclared later d
      · exact inStep.redeclared later s d declares stands redeclared
      · exact ⟨later, s, d, declares, redeclared, rfl⟩

theorem aliases_apart (steps later between earlier : List Step) (s t : Step) (d e : Aliased)
    (distinct : Distinct steps) (split : sinceRaw steps = later ++ s :: (between ++ t :: earlier))
    (given : s.declared? = some d) (again : t.declared? = some e) : d.aliasName ≠ e.aliasName := by
  rw [Distinct, split, List.filterMap_append, List.filterMap_cons_some given, List.filterMap_append,
    List.filterMap_cons_some again, List.map_append, List.map_cons, List.map_append,
    List.map_cons] at distinct
  have apart := (List.nodup_cons.mp (List.nodup_append.mp distinct).2.1).1
  exact fun same => apart (List.mem_append_right _ (by rw [same]; exact List.mem_cons_self))

theorem declaration_of_alias (steps later after : List Step) (s t : Step) (d e : Aliased)
    (distinct : Distinct steps) (one : Declaration steps later s d)
    (other : Declaration steps after t e) (same : d.aliasName = e.aliasName) :
    later = after ∧ s = t ∧ d = e := by
  obtain ⟨⟨before, split⟩, given⟩ := one
  obtain ⟨⟨earlier, splitAgain⟩, again⟩ := other
  rcases List.append_eq_append_iff.mp (split.symm.trans splitAgain) with
    ⟨between, rfl, rest⟩ | ⟨between, rfl, rest⟩
  · cases between with
    | nil =>
        obtain ⟨rfl, -⟩ := List.cons.inj rest
        exact ⟨(List.append_nil later).symm, rfl, Option.some.inj (given.symm.trans again)⟩
    | cons u between =>
        obtain ⟨rfl, rfl⟩ := List.cons.inj rest
        exact absurd same (aliases_apart steps later between earlier s t d e distinct split given again)
  · cases between with
    | nil =>
        obtain ⟨rfl, -⟩ := List.cons.inj rest
        exact ⟨List.append_nil after, rfl, Option.some.inj (given.symm.trans again)⟩
    | cons u between =>
        obtain ⟨rfl, rfl⟩ := List.cons.inj rest
        exact absurd same.symm
          (aliases_apart steps after between before t s e d distinct splitAgain again given)

theorem in_step_of_distinct (steps : List Step) (distinct : Distinct steps) :
    InStep steps ↔
      ∀ later s d, Declaration steps later s d → (Replaced later s ↔ Redeclared later d) := by
  constructor
  · intro inStep later s d declares
    constructor
    · intro replaced
      by_contra bound
      obtain ⟨after, t, e, other, stands, same⟩ :=
        inStep.replaced later s d declares replaced bound
      obtain ⟨rfl, rfl, rfl⟩ :=
        declaration_of_alias steps later after s t d e distinct declares other same.symm
      exact stands replaced
    · intro redeclared
      by_contra stands
      obtain ⟨after, t, e, other, bound, same⟩ :=
        inStep.redeclared later s d declares stands redeclared
      obtain ⟨rfl, rfl, rfl⟩ :=
        declaration_of_alias steps later after s t d e distinct declares other same.symm
      exact bound redeclared
  · intro together
    exact ⟨fun later s d declares replaced bound =>
        absurd ((together later s d declares).mp replaced) bound,
      fun later s d declares stands redeclared =>
        absurd ((together later s d declares).mpr redeclared) stands⟩

theorem standing_of_settled (steps : List Step) (settled : Settled steps) (s : Step)
    (member : s ∈ sinceRaw steps) (d : Aliased) (declared : s.declared? = some d) :
    lastSource? steps = some d ∨ ∃ j, lastJoin? steps = some j ∧ j.target = d := by
  rcases (declared_iff s d).mp declared with source | ⟨j, join, target⟩
  · exact .inl (settled.source s member d source)
  · exact .inr ⟨j, settled.join s member j join, target⟩

theorem alias_of_settled (steps : List Step) (settled : Settled steps) (d e : Aliased)
    (one : lastSource? steps = some d ∨ ∃ j, lastJoin? steps = some j ∧ j.target = d)
    (other : lastSource? steps = some e ∨ ∃ j, lastJoin? steps = some j ∧ j.target = e)
    (same : d.entity.name = e.entity.name) : d.aliasName = e.aliasName := by
  rcases one with source | ⟨j, join, rfl⟩
  · rcases other with again | ⟨i, again, rfl⟩
    · rw [Option.some.inj (source.symm.trans again)]
    · exact settled.apart d i source again same
  · rcases other with again | ⟨i, again, rfl⟩
    · exact (settled.apart e j again join same.symm).symm
    · rw [Option.some.inj (join.symm.trans again)]

theorem bound_iff_of_settled (steps : List Step) (settled : Settled steps) (aliasName : String) :
    LastBound steps aliasName ↔ Declared steps aliasName := by
  constructor
  · rintro ⟨name, bound⟩
    obtain ⟨s, member, given⟩ := List.exists_of_findSome?_eq_some bound
    obtain ⟨d, declared, -, aliased⟩ := (alias_for_iff s name aliasName).mp given
    rcases standing_of_settled steps settled s member d declared with source | ⟨j, join, rfl⟩
    · exact .inl ⟨d, source, aliased⟩
    · exact .inr ⟨j, join, aliased⟩
  · intro stands
    obtain ⟨later, s, d, ⟨⟨earlier, split⟩, declared⟩, -, rfl⟩ :=
      (declared_iff_standing steps aliasName).mp stands
    have member : s ∈ sinceRaw steps := by simp [split]
    obtain ⟨bound, found⟩ := bound_of_declared steps s member d declared
    obtain ⟨t, other, given⟩ := List.exists_of_findSome?_eq_some found
    obtain ⟨e, again, same, rfl⟩ := (alias_for_iff t d.entity.name bound).mp given
    refine ⟨d.entity.name, found.trans (congrArg some ?_)⟩
    exact alias_of_settled steps settled e d (standing_of_settled steps settled t other e again)
      (standing_of_settled steps settled s member d declared) same

section

variable (entity : Entity) (config : Config) (steps : List Step)

theorem new_run_declared :
    ((new entity config).run steps).source = lastSource? steps ∧
      ((new entity config).run steps).join = lastJoin? steps ∧
      ∀ name, ((new entity config).run steps).aliases.bound.get? name = lastAlias? steps name := by
  induction steps using List.reverseRecOn with
  | nil => exact ⟨rfl, rfl, fun _ => rfl⟩
  | append_singleton steps s ih =>
      obtain ⟨source, join, bound⟩ := ih
      rw [run_snoc]
      by_cases structural : s.rawText? = none
      · obtain ⟨stepSource, stepJoin, -⟩ :=
          step_declares ((new entity config).run steps) s structural
        refine ⟨?_, ?_, fun name => ?_⟩
        · rw [stepSource, source, lastSource?, lastSource?,
            last_since_raw_snoc _ _ _ structural]
        · rw [stepJoin, join, lastJoin?, lastJoin?,
            last_since_raw_snoc _ _ _ structural]
        · rw [step_bound _ s structural, bound, lastAlias?, lastAlias?,
            last_since_raw_snoc _ _ _ structural]
      · obtain ⟨noSource, noJoin, cleared⟩ :=
          step_raw_clears ((new entity config).run steps) s structural
        have emptied : sinceRaw (steps ++ [s]) = [] := by
          rw [since_raw_snoc, if_neg (by simpa using structural)]
        rw [noSource, noJoin, cleared, lastSource?, lastJoin?, emptied]
        refine ⟨rfl, rfl, fun name => ?_⟩
        rw [lastAlias?, emptied]
        rfl

theorem new_run_bound_iff (aliasName : String) :
    ((new entity config).run steps).aliases.isBoundAlias aliasName = true ↔
      LastBound steps aliasName := by
  have ordered := run_ordered (new entity config) steps (AliasMap.new_ordered _)
  obtain ⟨-, -, bound⟩ := new_run_declared entity config steps
  rw [AliasMap.bound_iff _ ordered, LastBound]
  simp only [bound]

theorem bound_aliases_in_step_iff :
    ((new entity config).run steps).source = lastSource? steps ∧
      ((new entity config).run steps).join = lastJoin? steps ∧
      (∀ aliasName, ((new entity config).run steps).aliases.isBoundAlias aliasName = true ↔
        LastBound steps aliasName) ∧
      (∀ column, qualify ((new entity config).run steps).aliases column = column ↔
        '.' ∈ column.toList ∧ LastBound steps (firstSegment column)) ∧
      ((∀ aliasName, ((new entity config).run steps).aliases.isBoundAlias aliasName = true ↔
        Declared steps aliasName) ↔ InStep steps) ∧
      (Settled steps → InStep steps) ∧
      (Distinct steps → (InStep steps ↔
        ∀ later s d, Declaration steps later s d → (Replaced later s ↔ Redeclared later d))) := by
  obtain ⟨source, join, -⟩ := new_run_declared entity config steps
  have bound := new_run_bound_iff entity config steps
  refine ⟨source, join, bound, fun column => ?_, ?_, fun settled => ?_,
    in_step_of_distinct steps⟩
  · rw [qualify_passes_iff, bound]
  · simp only [bound]
    exact in_step_iff steps
  · exact (in_step_iff steps).mp (bound_iff_of_settled steps settled)

end

theorem joined_run_in_step :
    Settled [.selectColumns ["u.id"], .source ⟨"Book"⟩ "b", .join ⟨"User"⟩ "user" "u"] ∧
      Distinct [.selectColumns ["u.id"], .source ⟨"Book"⟩ "b", .join ⟨"User"⟩ "user" "u"] ∧
      InStep [.selectColumns ["u.id"], .source ⟨"Book"⟩ "b", .join ⟨"User"⟩ "user" "u"] ∧
      (∀ later s d, Declaration [.selectColumns ["u.id"], .source ⟨"Book"⟩ "b",
        .join ⟨"User"⟩ "user" "u"] later s d → (Replaced later s ↔ Redeclared later d)) ∧
      (((new ⟨"Book"⟩ .default).run [.selectColumns ["u.id"], .source ⟨"Book"⟩ "b",
        .join ⟨"User"⟩ "user" "u"]).aliases.isBoundAlias "u" = true ↔
        Declared [.selectColumns ["u.id"], .source ⟨"Book"⟩ "b", .join ⟨"User"⟩ "user" "u"] "u") := by
  obtain ⟨-, -, -, -, inStep, settles, together⟩ := bound_aliases_in_step_iff ⟨"Book"⟩ .default
    [.selectColumns ["u.id"], .source ⟨"Book"⟩ "b", .join ⟨"User"⟩ "user" "u"]
  have settled :
      Settled [.selectColumns ["u.id"], .source ⟨"Book"⟩ "b", .join ⟨"User"⟩ "user" "u"] := by
    refine ⟨by decide, by decide, ?_⟩
    intro d j source join same
    obtain rfl := Option.some.inj source
    obtain rfl := Option.some.inj join
    exact absurd same (by decide)
  have distinct :
      Distinct [.selectColumns ["u.id"], .source ⟨"Book"⟩ "b", .join ⟨"User"⟩ "user" "u"] := by
    rw [Distinct]
    decide
  have inStepHere := settles settled
  exact ⟨settled, distinct, inStepHere, (together distinct).mp inStepHere, inStep.mpr inStepHere "u"⟩

-- An entity joined to itself loses the alias of the source, and the alias of a replaced join stays
-- bound.
theorem bound_aliases_out_of_step :
    (Clean [.selectColumns ["a.name"], .source ⟨"User"⟩ "a", .join ⟨"User"⟩ "friend" "b"] ∧
      Declared [.selectColumns ["a.name"], .source ⟨"User"⟩ "a", .join ⟨"User"⟩ "friend" "b"] "a" ∧
      ((new ⟨"User"⟩ .default).run [.selectColumns ["a.name"], .source ⟨"User"⟩ "a",
        .join ⟨"User"⟩ "friend" "b"]).aliases.isBoundAlias "a" = false ∧
      ∃ s, ((new ⟨"User"⟩ .default).run [.selectColumns ["a.name"], .source ⟨"User"⟩ "a",
          .join ⟨"User"⟩ "friend" "b"]).build = .ok s ∧
        s.text = "SELECT _this.a.name FROM User a JOIN a.friend b") ∧
    Clean [.selectColumns ["u.id"], .join ⟨"User"⟩ "user" "u", .join ⟨"Person"⟩ "owner" "p"] ∧
      ¬ Declared [.selectColumns ["u.id"], .join ⟨"User"⟩ "user" "u",
        .join ⟨"Person"⟩ "owner" "p"] "u" ∧
      ((new ⟨"Book"⟩ .default).run [.selectColumns ["u.id"], .join ⟨"User"⟩ "user" "u",
        .join ⟨"Person"⟩ "owner" "p"]).aliases.isBoundAlias "u" = true ∧
      ∃ s, ((new ⟨"Book"⟩ .default).run [.selectColumns ["u.id"], .join ⟨"User"⟩ "user" "u",
          .join ⟨"Person"⟩ "owner" "p"]).build = .ok s ∧
        s.text = "SELECT u.id FROM Book _this JOIN _this.owner p" := by
  refine ⟨⟨(new_run_misuse_none ⟨"User"⟩ .default _).mp rfl, .inl ⟨_, rfl, rfl⟩, by decide, _, rfl,
    by rfl⟩, (new_run_misuse_none ⟨"Book"⟩ .default _).mp rfl, ?_, by decide, _, rfl, by rfl⟩
  rintro (⟨d, source, -⟩ | ⟨j, join, aliased⟩)
  · cases source
  · obtain rfl := Option.some.inj join
    exact absurd aliased (by decide)

end Builder

end Inquiry
