import Inquiry.Proofs.Builder.Counting
import Inquiry.Proofs.Builder.Modes
import Inquiry.Proofs.Paging.Windowing

set_option autoImplicit false

namespace Inquiry

namespace Step

def clause? : Step → Option Clause
  | source _ _ => some .source
  | join _ _ _ => some .join
  | filter _ => some .filter
  | and _ => some .and
  | or _ => some .or
  | orderBy _ _ => some .orderBy
  | groupBy _ => some .groupBy
  | _ => none

theorem clause_none_of_mode (s : Step) (requested : Mode) (asks : s.mode? = some requested) :
    s.clause? = none := by
  cases s with
  | select | selectAs entity | selectColumns columns | delete => rfl
  | _ => cases asks

theorem leaves_of_segments (s : Step) :
    Builder.segmentLeaves s.segments = s.predicates.flatMap Predicate.leaves := by
  have all (ps : List Predicate) : Predicate.leavesOfAll ps = ps.flatMap Predicate.leaves := by
    induction ps with
    | nil => rfl
    | cons p rest ih => rw [Predicate.leavesOfAll, ih, List.flatMap_cons]
  rcases s.segments_cases with ⟨none, empty⟩ | ⟨connective, single⟩
  · rw [none, empty]
    rfl
  · rw [single]
    simp [Builder.segmentLeaves, Predicate.leaves, all]

end Step

namespace Builder

def SelectOnly (clause : Clause) : Prop := clause = .source ∨ clause = .join

inductive Violation (before : List Step) : Step → Misuse → Prop
  | early (s : Step) (clause : Clause) (adds : s.clause? = some clause)
      (modeless : firstMode? before = none) (structural : lastRaw? before = none) :
      Violation before s (.beforeMode clause)
  | inDelete (s : Step) (clause : Clause) (adds : s.clause? = some clause)
      (selectOnly : SelectOnly clause) (deleting : firstMode? before = some .delete) :
      Violation before s (.inDelete clause)
  | modeTaken (s : Step) (requested current : Mode) (asks : s.mode? = some requested)
      (taken : firstMode? before = some current) :
      Violation before s (.modeTaken requested current)
  | positionZero (value : Value) : Violation before (.param 0 value) .positionZero
  | pageBelowOne (size : UInt64) :
      Violation before (.page (some 0) (some size)) (.pageBelowOne 0)
  | sizeBelowOne (page : UInt64) (positive : page ≠ 0) :
      Violation before (.page (some page) (some 0)) (.sizeBelowOne 0)
  | windowOverflow (page size : UInt64) (positive : page ≠ 0) (filled : size ≠ 0)
      (exceeds : UInt64.size ≤ (page.toNat - 1) * size.toNat) :
      Violation before (.page (some page) (some size)) .windowOverflow

def Clean (steps : List Step) : Prop :=
  ∀ before s after m, steps = before ++ s :: after → ¬ Violation before s m

def FirstViolation (steps : List Step) (m : Misuse) : Prop :=
  ∃ before s after, steps = before ++ s :: after ∧ Clean before ∧ Violation before s m

def firstInvalidLeaf? (steps : List Step) : Option Leaf :=
  ((steps.flatMap Step.predicates).flatMap Predicate.leaves).find? fun leaf => !leaf.isValid

inductive Uncountable (steps : List Step) : QueryError → Prop
  | ofDelete (structural : lastRaw? steps = none) (deleting : firstMode? steps = some .delete) :
      Uncountable steps (.illegalState Misuse.countOfDelete.message)
  | ofRaw (text detail : String) (given : lastRaw? steps = some text)
      (underivable : Count.derive text = .error (.malformedRawQuery detail)) :
      Uncountable steps (.malformedRawQuery detail)

-- How a run fails for a purpose. Of the constructors at most one applies, as each but the first
-- asks that those above it do not.
inductive Failure (config : Config) (steps : List Step) (purpose : Purpose) : QueryError → Prop
  | misuse (m : Misuse) (first : FirstViolation steps m) :
      Failure config steps purpose (.illegalState m.message)
  | nothingGiven (clean : Clean steps) (modeless : firstMode? steps = none)
      (structural : lastRaw? steps = none) :
      Failure config steps purpose (.illegalState Misuse.nothingGiven.message)
  | uncountable (clean : Clean steps) (counting : purpose = .count) (e : QueryError)
      (why : Uncountable steps e) : Failure config steps purpose e
  | refused (clean : Clean steps) (begun : firstMode? steps ≠ none ∨ lastRaw? steps ≠ none)
      (headed : purpose = .count → ∀ e, ¬ Uncountable steps e)
      (strict : (lastPolicy? steps).getD config.nullPolicy = .reject) (leaf : Leaf)
      (invalid : firstInvalidLeaf? steps = some leaf) :
      Failure config steps purpose (.invalidPredicate leaf.column
        ("null value for operator " ++ leaf.op.keyword))

theorem split_snoc_iff {α : Type} (items before after : List α) (last x : α) :
    items ++ [last] = before ++ x :: after ↔
      (items = before ∧ last = x ∧ after = []) ∨
        ∃ shorter, after = shorter ++ [last] ∧ items = before ++ x :: shorter := by
  constructor
  · intro eq
    rcases List.eq_nil_or_concat after with rfl | ⟨shorter, final, rfl⟩
    · obtain ⟨same, ends⟩ := List.append_inj' eq rfl
      exact .inl ⟨same, List.cons.inj ends |>.1, rfl⟩
    · have split : items ++ [last] = (before ++ x :: shorter) ++ [final] := by simpa using eq
      obtain ⟨same, ends⟩ := List.append_inj' split rfl
      obtain rfl := (List.cons.inj ends).1
      exact .inr ⟨shorter, List.concat_eq_append, same⟩
  · rintro (⟨rfl, rfl, rfl⟩ | ⟨shorter, rfl, rfl⟩)
    · rfl
    · simp

theorem clean_nil : Clean [] := by
  intro before s after m eq
  simp at eq

theorem clean_snoc_iff (steps : List Step) (s : Step) :
    Clean (steps ++ [s]) ↔ Clean steps ∧ ∀ m, ¬ Violation steps s m := by
  constructor
  · intro clean
    constructor
    · intro before t after m eq
      apply clean before t (after ++ [s]) m
      simp [eq]
    · intro m
      exact clean steps s [] m rfl
  · rintro ⟨clean, last⟩ before t after m eq
    rcases (split_snoc_iff steps before after s t).mp eq with ⟨rfl, rfl, -⟩ | ⟨shorter, -, earlier⟩
    · exact last m
    · exact clean before t shorter m earlier

theorem first_violation_nil (m : Misuse) : ¬ FirstViolation [] m := by
  rintro ⟨before, s, after, eq, -⟩
  simp at eq

theorem first_violation_snoc_iff (steps : List Step) (s : Step) (m : Misuse) :
    FirstViolation (steps ++ [s]) m ↔
      FirstViolation steps m ∨ Clean steps ∧ Violation steps s m := by
  constructor
  · rintro ⟨before, t, after, eq, clean, wrong⟩
    rcases (split_snoc_iff steps before after s t).mp eq with ⟨rfl, rfl, -⟩ | ⟨shorter, -, earlier⟩
    · exact .inr ⟨clean, wrong⟩
    · exact .inl ⟨before, t, shorter, earlier, clean, wrong⟩
  · rintro (⟨before, t, after, rfl, clean, wrong⟩ | ⟨clean, wrong⟩)
    · exact ⟨before, t, after ++ [s], by simp, clean, wrong⟩
    · exact ⟨steps, s, [], rfl, clean, wrong⟩

theorem early_iff (b : Builder) (clause : Clause) (m : Misuse) :
    b.early? clause = some m ↔ b.mode = none ∧ b.raw = none ∧ m = .beforeMode clause := by
  rw [early?, isBegun, isRaw]
  cases b.mode <;> cases b.raw <;> simp [eq_comm]

theorem misplaced_iff (b : Builder) (clause : Clause) (m : Misuse) :
    b.misplaced? clause = some m ↔
      (b.mode = some .delete ∧ m = .inDelete clause) ∨
        (b.mode = none ∧ b.raw = none ∧ m = .beforeMode clause) := by
  rw [misplaced?]
  by_cases deleting : b.mode = some .delete
  · simp [deleting, eq_comm]
  · simp [deleting, early_iff]

theorem taken_iff (b : Builder) (requested : Mode) (m : Misuse) :
    b.taken? requested = some m ↔
      ∃ current, b.mode = some current ∧ m = .modeTaken requested current := by
  rw [taken?, Option.map_eq_some_iff]
  simp only [eq_comm]

theorem misuse_of_page (b : Builder) (page size : UInt64) (m : Misuse) :
    b.misuse? (.page (some page) (some size)) = some m ↔
      Paginator.pageWindow page size = .error m := by
  rw [misuse?, Paginator.page]
  cases Paginator.pageWindow page size <;> simp [Except.map]

section

variable (before : List Step) (m : Misuse)

theorem violation_of_clause_iff (s : Step) (clause : Clause) (adds : s.clause? = some clause) :
    Violation before s m ↔
      (SelectOnly clause ∧ firstMode? before = some .delete ∧ m = .inDelete clause) ∨
        (firstMode? before = none ∧ lastRaw? before = none ∧ m = .beforeMode clause) := by
  constructor
  · intro wrong
    cases wrong with
    | early _ other otherAdds modeless structural =>
        obtain rfl := Option.some.inj (adds.symm.trans otherAdds)
        exact .inr ⟨modeless, structural, rfl⟩
    | inDelete _ other otherAdds selectOnly deleting =>
        obtain rfl := Option.some.inj (adds.symm.trans otherAdds)
        exact .inl ⟨selectOnly, deleting, rfl⟩
    | modeTaken _ requested current asks taken =>
        rw [Step.clause_none_of_mode s requested asks] at adds
        cases adds
    | _ => cases adds
  · rintro (⟨selectOnly, deleting, rfl⟩ | ⟨modeless, structural, rfl⟩)
    · exact .inDelete s clause adds selectOnly deleting
    · exact .early s clause adds modeless structural

theorem violation_of_mode_iff (s : Step) (requested : Mode) (asks : s.mode? = some requested) :
    Violation before s m ↔
      ∃ current, firstMode? before = some current ∧ m = .modeTaken requested current := by
  constructor
  · intro wrong
    cases wrong with
    | modeTaken _ other current otherAsks taken =>
        obtain rfl := Option.some.inj (asks.symm.trans otherAsks)
        exact ⟨current, taken, rfl⟩
    | early _ clause adds =>
        rw [Step.clause_none_of_mode s requested asks] at adds
        cases adds
    | inDelete _ clause adds =>
        rw [Step.clause_none_of_mode s requested asks] at adds
        cases adds
    | _ => cases asks
  · rintro ⟨current, taken, rfl⟩
    exact .modeTaken s requested current asks taken

theorem violation_of_page_iff (page size : UInt64) :
    Violation before (.page (some page) (some size)) m ↔
      Paginator.pageWindow page size = .error m := by
  rw [Paginator.page_window_error_iff]
  constructor
  · intro wrong
    cases wrong with
    | pageBelowOne => exact .inl ⟨rfl, rfl⟩
    | sizeBelowOne _ positive => exact .inr (.inl ⟨positive, rfl, rfl⟩)
    | windowOverflow _ _ positive filled exceeds =>
        exact .inr (.inr ⟨positive, filled, exceeds, rfl⟩)
    | early _ _ adds => cases adds
    | inDelete _ _ adds => cases adds
    | modeTaken _ _ _ asks => cases asks
  · rintro (⟨rfl, rfl⟩ | ⟨positive, rfl, rfl⟩ | ⟨positive, filled, exceeds, rfl⟩)
    · exact .pageBelowOne size
    · exact .sizeBelowOne page positive
    · exact .windowOverflow page size positive filled exceeds

theorem violation_of_free (s : Step) (clauseless : s.clause? = none) (modeless : s.mode? = none)
    (positive : ∀ value, s ≠ .param 0 value)
    (windowless : ∀ page size, s ≠ .page (some page) (some size)) : ¬ Violation before s m := by
  intro wrong
  cases wrong with
  | early _ clause adds => simp [clauseless] at adds
  | inDelete _ clause adds => simp [clauseless] at adds
  | modeTaken _ requested current asks => simp [modeless] at asks
  | positionZero value => exact positive value rfl
  | pageBelowOne size => exact windowless 0 size rfl
  | sizeBelowOne page => exact windowless page 0 rfl
  | windowOverflow page size => exact windowless page size rfl

theorem misuse_iff_violation (b : Builder) (s : Step) (mode : b.mode = firstMode? before)
    (raw : b.raw = lastRaw? before) : b.misuse? s = some m ↔ Violation before s m := by
  have ofMode (s : Step) (requested : Mode) (asks : s.mode? = some requested) :
      b.taken? requested = some m ↔ Violation before s m := by
    rw [violation_of_mode_iff before m s requested asks, taken_iff, mode]
  have ofEarly (s : Step) (clause : Clause) (adds : s.clause? = some clause)
      (anywhere : ¬ SelectOnly clause) : b.early? clause = some m ↔ Violation before s m := by
    rw [violation_of_clause_iff before m s clause adds, early_iff, mode, raw]
    simp [anywhere]
  have ofSelectOnly (s : Step) (clause : Clause) (adds : s.clause? = some clause)
      (selectOnly : SelectOnly clause) : b.misplaced? clause = some m ↔ Violation before s m := by
    rw [violation_of_clause_iff before m s clause adds, misplaced_iff, mode, raw]
    simp [selectOnly]
  have ofFree (s : Step) (right : b.misuse? s = none) (clauseless : s.clause? = none)
      (modeless : s.mode? = none) (positive : ∀ value, s ≠ .param 0 value)
      (windowless : ∀ page size, s ≠ .page (some page) (some size)) :
      b.misuse? s = some m ↔ Violation before s m := by
    simp [right, violation_of_free before m s clauseless modeless positive windowless]
  cases s with
  | select => exact ofMode _ .select rfl
  | selectAs entity => exact ofMode _ .select rfl
  | selectColumns columns => exact ofMode _ .select rfl
  | delete => exact ofMode _ .delete rfl
  | source entity aliasName => exact ofSelectOnly _ .source rfl (.inl rfl)
  | join entity column aliasName => exact ofSelectOnly _ .join rfl (.inr rfl)
  | filter ps => exact ofEarly _ .filter rfl (by simp [SelectOnly])
  | and ps => exact ofEarly _ .and rfl (by simp [SelectOnly])
  | or ps => exact ofEarly _ .or rfl (by simp [SelectOnly])
  | orderBy column direction => exact ofEarly _ .orderBy rfl (by simp [SelectOnly])
  | groupBy column => exact ofEarly _ .groupBy rfl (by simp [SelectOnly])
  | param position value =>
      by_cases zero : position = 0
      · subst zero
        constructor
        · intro wrong
          cases wrong
          exact .positionZero value
        · intro wrong
          cases wrong with
          | positionZero => rfl
          | early _ _ adds => cases adds
          | inDelete _ _ adds => cases adds
          | modeTaken _ _ _ asks => cases asks
      · exact ofFree _ (if_neg zero) rfl rfl (by simp [zero]) (by simp)
  | page number size =>
      cases number with
      | none => exact ofFree _ rfl rfl rfl (by simp) (by simp)
      | some page =>
          cases size with
          | none => exact ofFree _ rfl rfl rfl (by simp) (by simp)
          | some size => rw [misuse_of_page, violation_of_page_iff]
  | _ => exact ofFree _ rfl rfl rfl (by simp) (by simp)

end

section

variable (entity : Entity) (config : Config) (steps : List Step)

theorem clean_iff_no_first : Clean steps ↔ ∀ m, ¬ FirstViolation steps m := by
  constructor
  · rintro clean m ⟨before, s, after, eq, -, wrong⟩
    exact clean before s after m eq wrong
  · induction steps using List.reverseRecOn with
    | nil => exact fun _ => clean_nil
    | append_singleton steps s ih =>
        intro none
        have clean := ih fun m first =>
          none m ((first_violation_snoc_iff steps s m).mpr (.inl first))
        refine (clean_snoc_iff steps s).mpr ⟨clean, fun m wrong => none m ?_⟩
        exact (first_violation_snoc_iff steps s m).mpr (.inr ⟨clean, wrong⟩)

theorem none_iff_clean (recorded : Option Misuse)
    (first : ∀ m, recorded = some m ↔ FirstViolation steps m) : recorded = none ↔ Clean steps := by
  rw [clean_iff_no_first, Option.eq_none_iff_forall_ne_some]
  exact forall_congr' fun m => not_congr (first m)

theorem new_run_misuse (m : Misuse) :
    ((new entity config).run steps).misuse = some m ↔ FirstViolation steps m := by
  induction steps using List.reverseRecOn generalizing m with
  | nil => simp [first_violation_nil, run_nil, new]
  | append_singleton steps s ih =>
      rw [run_snoc, step_misuse, Option.or_eq_some_iff, ih, none_iff_clean steps _ ih,
        first_violation_snoc_iff,
        misuse_iff_violation steps m _ s (new_run_mode entity config steps)
          (new_run_raw entity config steps)]

theorem new_run_misuse_none :
    ((new entity config).run steps).misuse = none ↔ Clean steps :=
  none_iff_clean steps _ (new_run_misuse entity config steps)

theorem new_run_leaves :
    (segmentLeaves ((new entity config).run steps).segments).find? (fun leaf => !leaf.isValid) =
      firstInvalidLeaf? steps := by
  have each : (fun s : Step => segmentLeaves s.segments) =
      fun s => s.predicates.flatMap Predicate.leaves := funext Step.leaves_of_segments
  have opened : segmentLeaves ((new entity config).run steps).segments =
      steps.flatMap fun s => segmentLeaves s.segments := by
    rw [run_segments]
    exact List.flatMap_assoc
  rw [opened, each, firstInvalidLeaf?, List.flatMap_assoc]

theorem new_run_fault (m : Misuse) :
    ((new entity config).run steps).fault? = some m ↔
      FirstViolation steps m ∨
        Clean steps ∧ firstMode? steps = none ∧ lastRaw? steps = none ∧ m = .nothingGiven := by
  have begun := new_run_begun entity config steps
  rw [← not_and_or] at begun
  rw [fault?, Option.or_eq_some_iff, new_run_misuse, new_run_misuse_none]
  apply or_congr_right
  apply and_congr_right
  intro clean
  by_cases given : ((new entity config).run steps).isBegun = true
  · have some := begun.mp given
    simp only [if_pos given, reduceCtorEq, false_iff]
    rintro ⟨modeless, structural, -⟩
    exact some ⟨modeless, structural⟩
  · obtain ⟨modeless, structural⟩ := Classical.not_not.mp (given ∘ begun.mpr)
    simp [given, modeless, structural, eq_comm]

theorem new_run_fault_none :
    ((new entity config).run steps).fault? = none ↔
      Clean steps ∧ (firstMode? steps ≠ none ∨ lastRaw? steps ≠ none) := by
  rw [fault_none_iff, new_run_misuse_none, new_run_begun]

theorem new_run_head_count_error (e : QueryError) :
    ((new entity config).run steps).head .count = .error e ↔ Uncountable steps e := by
  have raw := new_run_raw entity config steps
  have mode := new_run_mode entity config steps
  constructor
  · intro failed
    rcases head_count_error _ e failed with ⟨deleting, structural, rfl⟩ | ⟨text, given, failed⟩
    · exact .ofDelete (raw.symm.trans structural) (mode.symm.trans deleting)
    · obtain ⟨detail, rfl⟩ := derive_error text e failed
      exact .ofRaw text detail (raw.symm.trans given) failed
  · intro why
    cases why with
    | ofDelete structural deleting =>
        exact (head_of_delete _ (raw.trans structural) (mode.trans deleting)).2
    | ofRaw text detail given underivable =>
        exact (head_of_raw _ text (raw.trans given)).2.trans underivable

theorem new_run_head_ok (purpose : Purpose) :
    (∃ head, ((new entity config).run steps).head purpose = .ok head) ↔
      (purpose = .count → ∀ e, ¬ Uncountable steps e) := by
  cases purpose with
  | rows => simp [head_rows_ok]
  | count =>
      simp only [forall_const, ← new_run_head_count_error entity config steps]
      cases ((new entity config).run steps).head .count <;> simp

theorem new_run_where_error (e : QueryError) :
    ((new entity config).run steps).whereClause = .error e ↔
      (lastPolicy? steps).getD config.nullPolicy = .reject ∧
        ∃ leaf, firstInvalidLeaf? steps = some leaf ∧ e = Compiler.refusal leaf := by
  rw [whereClause, conditions_error_iff, new_run_leaves, ← new_run_null_policy entity]
  rfl

theorem failure_of_error (purpose : Purpose) (e : QueryError)
    (failed : ((new entity config).run steps).statement purpose = .error e) :
    Failure config steps purpose e := by
  rcases (statement_error_iff _ purpose e).mp failed with
    ⟨m, fault, rfl⟩ | ⟨sound, headFailed | ⟨headed, whereFailed⟩⟩
  · rcases (new_run_fault entity config steps m).mp fault with
      first | ⟨clean, modeless, structural, rfl⟩
    · exact .misuse m first
    · exact .nothingGiven clean modeless structural
  · obtain ⟨clean, -⟩ := (new_run_fault_none entity config steps).mp sound
    cases purpose with
    | rows =>
        obtain ⟨head, headed⟩ := ((new entity config).run steps).head_rows_ok
        rw [headed] at headFailed
        cases headFailed
    | count =>
        have why := (new_run_head_count_error entity config steps e).mp headFailed
        exact .uncountable clean rfl e why
  · obtain ⟨clean, begun⟩ := (new_run_fault_none entity config steps).mp sound
    obtain ⟨strict, leaf, invalid, rfl⟩ :=
      (new_run_where_error entity config steps e).mp whereFailed
    exact .refused clean begun ((new_run_head_ok entity config steps purpose).mp headed) strict leaf
      invalid

theorem error_of_failure (purpose : Purpose) (e : QueryError)
    (failure : Failure config steps purpose e) :
    ((new entity config).run steps).statement purpose = .error e := by
  apply (statement_error_iff _ purpose e).mpr
  cases failure with
  | misuse m first => exact .inl ⟨m, (new_run_fault entity config steps m).mpr (.inl first), rfl⟩
  | nothingGiven clean modeless structural =>
      refine .inl ⟨.nothingGiven, ?_, rfl⟩
      exact (new_run_fault entity config steps _).mpr (.inr ⟨clean, modeless, structural, rfl⟩)
  | uncountable clean counting _ why =>
      subst counting
      have begun : firstMode? steps ≠ none ∨ lastRaw? steps ≠ none := by
        cases why with
        | ofDelete _ deleting => simp [deleting]
        | ofRaw _ _ given => simp [given]
      have sound := (new_run_fault_none entity config steps).mpr ⟨clean, begun⟩
      exact .inr ⟨sound, .inl ((new_run_head_count_error entity config steps e).mpr why)⟩
  | refused clean begun headed strict leaf invalid =>
      have sound := (new_run_fault_none entity config steps).mpr ⟨clean, begun⟩
      have refused := (new_run_where_error entity config steps _).mpr ⟨strict, leaf, invalid, rfl⟩
      exact .inr ⟨sound, .inr ⟨(new_run_head_ok entity config steps purpose).mpr headed, refused⟩⟩

theorem run_fails_in_order :
    ((new entity config).run steps).mode = firstMode? steps ∧
      (∀ e, ((new entity config).run steps).build = .error e ↔ Failure config steps .rows e) ∧
      ∀ e, ((new entity config).run steps).buildCount = .error e ↔
        Failure config steps .count e := by
  have fails (purpose : Purpose) (e : QueryError) :
      ((new entity config).run steps).statement purpose = .error e ↔
        Failure config steps purpose e :=
    ⟨failure_of_error entity config steps purpose e, error_of_failure entity config steps purpose e⟩
  exact ⟨new_run_mode entity config steps, fails .rows, fails .count⟩

end

end Builder

end Inquiry
