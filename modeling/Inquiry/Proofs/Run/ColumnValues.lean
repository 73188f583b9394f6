import Inquiry.Proofs.Builder.Parts
import Inquiry.Proofs.Run.Calls
import Inquiry.Repository

set_option autoImplicit false

namespace Inquiry

variable {σ : Type}

namespace Builder

theorem qualify_unbound (aliasName column : String) :
    qualify (.new aliasName) column = aliasName ++ "." ++ column := by
  have unbound (head : String) : (AliasMap.new aliasName).isBoundAlias head = false := rfl
  rw [qualify, unbound, Bool.and_false]
  rfl

end Builder

namespace Repository

variable (entity : Entity) (config : Config) (column : String) (ps : List Predicate)

def recorded (query : Statement → σ → Outcome (List Row) × σ)
    (execute : Statement → σ → Outcome UInt64 × σ) : Repository (σ × List Sent) :=
  ⟨entity, config, .recorded query execute⟩

def valuesBuilder : Builder := (Builder.new entity config).run (columnSteps column ps)

def mergedSegments : List Segment := if ps.isEmpty then [] else [⟨.and, .conjunction ps⟩]

theorem values_builder_eq : valuesBuilder entity config column ps = { Builder.new entity config with
    mode := some .select
    projection := .columns [column]
    segments := mergedSegments ps
    groupings := [⟨none, column⟩] } := by
  cases ps <;> rfl

def selected : String := config.defaultAlias ++ "." ++ column

theorem values_head : (valuesBuilder entity config column ps).head .rows =
    .ok ("SELECT " ++ selected config column ++ " FROM " ++ entity.name ++ " " ++
      config.defaultAlias) := by
  rw [values_builder_eq, Builder.head_of_select _ rfl (by simp)]
  change Except.ok ("SELECT " ++ Builder.qualify (.new config.defaultAlias) column ++ " FROM " ++
    (entity.name ++ " " ++ config.defaultAlias)) = _
  rw [Builder.qualify_unbound, selected]
  simp only [String.append_assoc]

theorem values_tail : (valuesBuilder entity config column ps).tailText .rows =
    " GROUP BY " ++ selected config column := by
  rw [values_builder_eq]
  change " GROUP BY " ++ selected config column ++ "" = _
  rw [String.append_empty]

theorem merged_leaves : Builder.segmentLeaves (mergedSegments ps) = Predicate.leavesOfAll ps := by
  cases ps with
  | nil => rfl
  | cons p rest => exact List.append_nil _

theorem values_where : (valuesBuilder entity config column ps).whereClause =
    Builder.conditions ⟨config.nullPolicy, .new config.defaultAlias, 1⟩ false
      (mergedSegments ps) := by
  rw [values_builder_eq]
  rfl

def whereText : String :=
  if ps.all Predicate.drops then ""
  else " WHERE " ++ (Condition.render (.new config.defaultAlias) 1 (.conjunction ps)).text

theorem where_accepted
    (accepted : config.nullPolicy = .reject → ∀ l ∈ Predicate.leavesOfAll ps, l.isValid = true) :
    ∃ w, (valuesBuilder entity config column ps).whereClause = .ok w ∧
      w.text = whereText config ps := by
  rw [values_where, whereText, mergedSegments]
  cases ps with
  | nil => exact ⟨[], rfl, rfl⟩
  | cons p rest =>
      have blank := Condition.render_blank (.new config.defaultAlias) 1 (.conjunction (p :: rest))
      rw [Predicate.drops, Predicate.drops_all_eq_all] at blank
      have valid := fun reject =>
        ((Predicate.conjunction (p :: rest)).first_invalid_none_iff).mpr (accepted reject)
      simp only [List.isEmpty_cons, Bool.false_eq_true, if_false,
        Builder.conditions_cons_ok_iff, Builder.conditions_nil_ok_iff, blank]
      split
      · exact ⟨[], ⟨valid, rfl⟩, rfl⟩
      · refine ⟨_, ⟨valid, [], rfl, rfl⟩, ?_⟩
        rw [List.append_nil, Fragment.text_word]
        rfl

theorem where_refused (l : Leaf) (reject : config.nullPolicy = .reject)
    (first : (Predicate.conjunction ps).FirstInvalid l) :
    (valuesBuilder entity config column ps).whereClause = .error (Compiler.refusal l) := by
  rw [values_where, Builder.conditions_error_iff, merged_leaves]
  exact ⟨reject, l, ((Predicate.conjunction ps).first_invalid_iff l).mpr first, rfl⟩

theorem values_sound : (valuesBuilder entity config column ps).fault? = none := by
  rw [values_builder_eq]
  rfl

theorem values_built
    (accepted : config.nullPolicy = .reject → ∀ l ∈ Predicate.leavesOfAll ps, l.isValid = true) :
    ∃ t, (valuesBuilder entity config column ps).build = .ok t ∧ t.window = none ∧
      t.text = "SELECT " ++ selected config column ++ " FROM " ++ entity.name ++ " " ++
        config.defaultAlias ++ whereText config ps ++ " GROUP BY " ++ selected config column := by
  obtain ⟨w, built, text⟩ := where_accepted entity config column ps accepted
  refine ⟨_, (Builder.statement_ok_iff _ .rows _).mpr ⟨values_sound entity config column ps, _, w,
    values_head entity config column ps, built, rfl⟩, ?_, ?_⟩
  · rw [values_builder_eq]
    rfl
  · have unjoined : (valuesBuilder entity config column ps).joinText = "" := by
      rw [values_builder_eq]
      rfl
    rw [Builder.assemble, unjoined, text, values_tail, String.append_empty, ← String.append_assoc]

theorem values_refused (l : Leaf) (reject : config.nullPolicy = .reject)
    (first : (Predicate.conjunction ps).FirstInvalid l) :
    (valuesBuilder entity config column ps).build = .error (Compiler.refusal l) :=
  (Builder.statement_error_iff _ .rows _).mpr (.inr ⟨values_sound entity config column ps, .inr
    ⟨⟨_, values_head entity config column ps⟩,
      where_refused entity config column ps l reject first⟩⟩)

theorem column_values_group_what_they_select (query : Statement → σ → Outcome (List Row) × σ)
    (execute : Statement → σ → Outcome UInt64 × σ) (store : σ) (sent : List Sent)
    (events : List Event) :
    (config.nullPolicy = .reject → (∃ l ∈ Predicate.leavesOfAll ps, l.isValid = false) →
      ∃ l, (Predicate.conjunction ps).FirstInvalid l ∧
        (recorded entity config query execute).columnValues column ps ⟨(store, sent), events⟩ =
          (.error (.invalidPredicate l.column ("null value for operator " ++ l.op.keyword)),
            ⟨(store, sent), events⟩)) ∧
    ((config.nullPolicy = .reject → ∀ l ∈ Predicate.leavesOfAll ps, l.isValid = true) →
      ∃ t : Statement, t.window = none ∧
        t.text = "SELECT " ++ selected config column ++ " FROM " ++ entity.name ++ " " ++
          config.defaultAlias ++ whereText config ps ++ " GROUP BY " ++ selected config column ∧
        (recorded entity config query execute).columnValues column ps ⟨(store, sent), events⟩ =
          ((query t store).1, ⟨((query t store).2, sent ++ [.query t]),
            events ++ [.ofStatement config .select t]⟩)) := by
  constructor
  · rintro reject ⟨l, inside, invalid⟩
    obtain ⟨first, isFirst⟩ := Predicate.first_invalid_exists (.conjunction ps) l inside invalid
    refine ⟨first, isFirst, ?_⟩
    exact Builder.rows_failed query execute _ store sent events _
      (values_refused entity config column ps first reject isFirst)
  · intro accepted
    obtain ⟨t, built, window, text⟩ := values_built entity config column ps accepted
    refine ⟨t, window, text, ?_⟩
    have kept : (valuesBuilder entity config column ps).config = config := by
      rw [values_builder_eq]
      rfl
    have ran := Builder.rows_ran query execute _ store sent events t built _ _ rfl
    rw [Builder.told, kept] at ran
    exact ran

def oneCity (_ : Statement) (state : Unit) : Outcome (List Row) × Unit :=
  (.ok [.scalar "city" (.text "Ghent")], state)

def nothingDone (_ : Statement) (state : Unit) : Outcome UInt64 × Unit := (.ok 0, state)

def unnamedAdults : List Predicate := [.greaterThan "age" (.int 17), .equal "name" .null]

theorem column_values_of_dotted_column :
    (recorded ⟨"User"⟩ (Config.default.withNullPolicy .reject) oneCity nothingDone).columnValues
        "home.city" unnamedAdults ⟨((), []), []⟩ =
      (.error (.invalidPredicate "name" "null value for operator ="), ⟨((), []), []⟩) ∧
    ∃ t : Statement,
      t.text = "SELECT _this.home.city FROM User _this WHERE (_this.age > ?1) " ++
        "GROUP BY _this.home.city" ∧
      (recorded ⟨"User"⟩ .default oneCity nothingDone).columnValues
          "home.city" unnamedAdults ⟨((), []), []⟩ =
        (.ok [.scalar "city" (.text "Ghent")],
          ⟨((), [.query t]), [.ofStatement .default .select t]⟩) := by
  constructor
  · obtain ⟨refused, -⟩ := column_values_group_what_they_select ⟨"User"⟩
      (Config.default.withNullPolicy .reject) "home.city" unnamedAdults oneCity nothingDone () [] []
    obtain ⟨l, first, ran⟩ := refused rfl
      ⟨.new "name" .equal (.single .null), List.mem_of_getLast? rfl, rfl⟩
    have found : (Predicate.conjunction unnamedAdults).firstInvalid? =
      some (.new "name" .equal (.single .null)) := rfl
    obtain rfl := Option.some.inj (found.symm.trans ((Predicate.first_invalid_iff _ l).mpr first))
    exact ran
  · obtain ⟨-, sends⟩ := column_values_group_what_they_select ⟨"User"⟩ .default "home.city"
      unnamedAdults oneCity nothingDone () [] []
    obtain ⟨t, -, text, ran⟩ := sends (by decide)
    exact ⟨t, text, ran⟩

end Repository

end Inquiry
