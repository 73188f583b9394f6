import Inquiry.Proofs.Run.Exchange

set_option autoImplicit false

namespace Inquiry

variable {σ τ α κ ρ : Type}

inductive Call (α : Type) : Type → Type → Type where
  | count : Call α (List Row) Int64
  | hasResult : Call α (List Row) Bool
  | hasNoResult : Call α (List Row) Bool
  | execute : Call α UInt64 UInt64
  | singleResult : Call α (List Row) Row
  | firstRow : Call α (List Row) (Option Row)
  | firstResult (decode : RowDecoder α) : Call α (List Row) (Option α)
  | resultList (decode : RowDecoder α) : Call α (List Row) (List α)
  | rows : Call α (List Row) (List Row)

def Executor.guarded (exec : Executor τ) (guard : {β : Type} → Action τ β → Action τ β) :
    Executor τ := { exec with snapshot := guard }

namespace Call

def run (exec : Executor τ) (b : Builder) : Call α κ ρ → Action τ ρ
  | count => b.count exec
  | hasResult => b.hasResult exec
  | hasNoResult => b.hasNoResult exec
  | execute => b.execute exec
  | singleResult => b.singleResult exec
  | firstRow => b.firstRow exec
  | firstResult decode => b.firstResult exec decode
  | resultList decode => b.resultList exec decode
  | rows => b.rows exec

def purpose : Call α κ ρ → Purpose
  | count | hasResult | hasNoResult => .count
  | _ => .rows

def errand : Call α κ ρ → Errand
  | count | hasResult | hasNoResult => .count
  | execute => .execute
  | _ => .select

def window (b : Builder) : Call α κ ρ → Option RowWindow
  | count | hasResult | hasNoResult => none
  | firstRow | firstResult _ => some ⟨0, 1⟩
  | _ => b.paginator.window

def sent (t : Statement) : Call α κ ρ → Sent
  | execute => .execute t
  | _ => .query t

def ask (query : Statement → σ → Outcome (List Row) × σ)
    (execute : Statement → σ → Outcome UInt64 × σ) (t : Statement) (store : σ) :
    Call α κ ρ → Outcome κ × σ
  | .execute => execute t store
  | count | hasResult | hasNoResult => query t store
  | singleResult | firstRow | firstResult _ | resultList _ | rows => query t store

def shape : Call α κ ρ → κ → Outcome ρ
  | count, found => countIn (.ok found)
  | hasResult, found => (countIn (.ok found)).map (· != 0)
  | hasNoResult, found => (countIn (.ok found)).map (· == 0)
  | execute, affected => .ok affected
  | singleResult, found => onlyRow found
  | firstRow, found => .ok found.head?
  | firstResult decode, found => found.head?.mapM decode
  | resultList decode, found => found.mapM decode
  | rows, found => .ok found

theorem run_guarded (exec : Executor τ) (guard : {β : Type} → Action τ β → Action τ β)
    (b : Builder) (call : Call α κ ρ) : call.run (exec.guarded guard) b = call.run exec b := by
  cases call <;> rfl

end Call

theorem count_in_bind (answer : Outcome (List Row)) :
    countIn answer = answer.bind fun found => countIn (.ok found) := by
  cases answer <;> rfl

theorem count_in_bind_map (f : Int64 → ρ) (answer : Outcome (List Row)) :
    ((countIn answer).bind fun n => .ok (f n)) =
      answer.bind fun found => (countIn (.ok found)).map f := by
  cases answer with
  | error e => rfl
  | ok found =>
      change _ = (countIn (.ok found)).map f
      cases countIn (.ok found) <;> rfl

namespace Builder

variable (query : Statement → σ → Outcome (List Row) × σ)
  (execute : Statement → σ → Outcome UInt64 × σ) (b : Builder) (store : σ) (sent : List Sent)
  (events : List Event)

theorem statement_windowed (purpose : Purpose) (s : Statement)
    (built : b.statement purpose = .ok s) :
    b.statement purpose = .ok (s.withWindow (b.windowFor purpose)) := by
  obtain ⟨-, head, w, -, -, rfl⟩ := (b.statement_ok_iff purpose s).mp built
  exact built

theorem build_with_paginator (p : Paginator) (s : Statement) (built : b.build = .ok s) :
    { b with paginator := p }.build = .ok (s.withWindow p.window) := by
  obtain ⟨sound, head, w, headBuilt, whereBuilt, rfl⟩ := (b.statement_ok_iff .rows s).mp built
  exact (statement_ok_iff _ .rows _).mpr ⟨sound, head, w, headBuilt, whereBuilt, rfl⟩

theorem build_with_paginator_failed (p : Paginator) (e : QueryError) (failed : b.build = .error e) :
    { b with paginator := p }.build = .error e := by
  rcases (b.statement_error_iff .rows e).mp failed with
    ⟨m, fault, same⟩ | ⟨sound, headFailed | ⟨headBuilt, whereFailed⟩⟩
  · exact (statement_error_iff _ .rows e).mpr (.inl ⟨m, fault, same⟩)
  · exact (statement_error_iff _ .rows e).mpr (.inr ⟨sound, .inl headFailed⟩)
  · exact (statement_error_iff _ .rows e).mpr (.inr ⟨sound, .inr ⟨headBuilt, whereFailed⟩⟩)

theorem count_map_ran (f : Int64 → ρ) (s : Statement) (built : b.buildCount = .ok s)
    (answer : Outcome (List Row)) (after : σ) (answered : query s store = (answer, after)) :
    (b.count (.recorded query execute) >>= fun n => Action.ofOutcome (.ok (f n)))
        ⟨(store, sent), events⟩ =
      (answer.bind fun found => (countIn (.ok found)).map f,
        ⟨(after, sent ++ [.query s]), b.told events .count s⟩) := by
  rw [← count_in_bind_map]
  exact Action.bind_outcome _ (fun n => .ok (f n)) _ _ _
    (b.count_ran query execute store sent events s built answer after answered)

theorem rows_failed (e : QueryError) (failed : b.build = .error e) :
    b.rows (.recorded query execute) ⟨(store, sent), events⟩ =
      (.error e, ⟨(store, sent), events⟩) := by
  rw [rows, Action.bind_error _ _ _ _ e
    (b.prepared_failed query execute store sent events .select .rows e failed)]

theorem first_row_failed (e : QueryError) (failed : b.build = .error e) :
    b.firstRow (.recorded query execute) ⟨(store, sent), events⟩ =
      (.error e, ⟨(store, sent), events⟩) := by
  have unbuilt := b.build_with_paginator_failed (b.paginator.limit (some 0) (some 1)) e failed
  rw [firstRow, Action.bind_error _ _ _ _ e
    (rows_failed query execute _ store sent events e unbuilt)]

theorem execute_ran (s : Statement) (built : b.build = .ok s) (answer : Outcome UInt64) (after : σ)
    (answered : execute s store = (answer, after)) :
    b.execute (.recorded query execute) ⟨(store, sent), events⟩ =
      (answer, ⟨(after, sent ++ [.execute s]), b.told events .execute s⟩) := by
  rw [Builder.execute, Action.bind_ok _ _ _ _ s
    (b.prepared_ran query execute store sent events .execute .rows s built)]
  change ((execute s store).1,
    (⟨((execute s store).2, _), _⟩ : Session (σ × List Sent))) = _
  rw [answered]

theorem single_result_ran (s : Statement) (built : b.build = .ok s) (answer : Outcome (List Row))
    (after : σ) (answered : query s store = (answer, after)) :
    b.singleResult (.recorded query execute) ⟨(store, sent), events⟩ =
      (answer.bind onlyRow, ⟨(after, sent ++ [.query s]), b.told events .select s⟩) := by
  rw [singleResult, Action.bind_ok _ _ _ _ s
    (b.prepared_ran query execute store sent events .select .rows s built)]
  exact query_one_ran query execute store sent (b.told events .select s) s answer after answered

theorem first_row_ran (s : Statement) (built : b.build = .ok s) (answer : Outcome (List Row))
    (after : σ) (answered : query (s.withWindow (some ⟨0, 1⟩)) store = (answer, after)) :
    b.firstRow (.recorded query execute) ⟨(store, sent), events⟩ =
      (answer.bind fun found => .ok found.head?,
        ⟨(after, sent ++ [.query (s.withWindow (some ⟨0, 1⟩))]),
          b.told events .select (s.withWindow (some ⟨0, 1⟩))⟩) := by
  have first := b.build_with_paginator (b.paginator.limit (some 0) (some 1)) s built
  exact Action.bind_outcome _ (fun found => .ok found.head?) _ _ answer
    (rows_ran query execute _ store sent events _ first answer after answered)

theorem first_result_eq (exec : Executor τ) (decode : RowDecoder α) :
    b.firstResult exec decode =
      (b.firstRow exec >>= fun first => Action.ofOutcome (first.mapM decode)) := by
  refine congrArg (b.firstRow exec >>= ·) (funext fun first => ?_)
  cases first with
  | none => rfl
  | some row =>
      funext session
      change Action.andThen _ _ session = Action.ofOutcome (some <$> decode row) session
      cases decode row <;> rfl

end Builder

namespace Call

variable (query : Statement → σ → Outcome (List Row) × σ)
  (execute : Statement → σ → Outcome UInt64 × σ) (b : Builder) (store : σ) (sent : List Sent)
  (events : List Event)

theorem run_unbuilt (call : Call α κ ρ) (e : QueryError)
    (failed : b.statement call.purpose = .error e) :
    call.run (.recorded query execute) b ⟨(store, sent), events⟩ =
      (.error e, ⟨(store, sent), events⟩) := by
  have prepared := b.prepared_failed query execute store sent events call.errand call.purpose e failed
  cases call with
  | count => exact b.count_failed query execute store sent events e failed
  | hasResult =>
      exact Action.bind_error _ _ _ _ e (b.count_failed query execute store sent events e failed)
  | hasNoResult =>
      exact Action.bind_error _ _ _ _ e (b.count_failed query execute store sent events e failed)
  | execute => exact Action.bind_error _ _ _ _ e prepared
  | singleResult => exact Action.bind_error _ _ _ _ e prepared
  | firstRow => exact b.first_row_failed query execute store sent events e failed
  | firstResult decode =>
      exact Action.bind_error _ _ _ _ e (b.first_row_failed query execute store sent events e failed)
  | resultList decode =>
      exact Action.bind_error _ _ _ _ e (b.rows_failed query execute store sent events e failed)
  | rows => exact b.rows_failed query execute store sent events e failed

theorem run_built (call : Call α κ ρ) (s : Statement) (built : b.statement call.purpose = .ok s)
    (answer : Outcome κ) (after : σ)
    (answered : call.ask query execute (s.withWindow (call.window b)) store = (answer, after)) :
    call.run (.recorded query execute) b ⟨(store, sent), events⟩ =
      (answer.bind call.shape,
        ⟨(after, sent ++ [call.sent (s.withWindow (call.window b))]),
          b.told events call.errand (s.withWindow (call.window b))⟩) := by
  -- The statement has the window of the call already, if the call is not for a first row.
  have windowed := b.statement_windowed call.purpose s built
  cases call with
  | count =>
      have counted := b.count_ran query execute store sent events _ windowed answer after answered
      rw [count_in_bind] at counted
      exact counted
  | hasResult =>
      exact b.count_map_ran query execute store sent events (· != 0) _ windowed answer after answered
  | hasNoResult =>
      exact b.count_map_ran query execute store sent events (· == 0) _ windowed answer after answered
  | execute =>
      have ran := b.execute_ran query execute store sent events _ windowed answer after answered
      refine ran.trans ?_
      cases answer <;> rfl
  | singleResult =>
      exact b.single_result_ran query execute store sent events _ windowed answer after answered
  | firstRow => exact b.first_row_ran query execute store sent events s built answer after answered
  | firstResult decode =>
      have first := b.first_row_ran query execute store sent events s built answer after answered
      have decoded := Action.bind_outcome _ (fun first => first.mapM decode) _ _ _ first
      rw [← b.first_result_eq (.recorded query execute) decode] at decoded
      refine decoded.trans ?_
      cases answer <;> rfl
  | resultList decode =>
      exact b.result_list_ran query execute store sent events decode _ windowed answer after answered
  | rows =>
      have ran := b.rows_ran query execute store sent events _ windowed answer after answered
      refine ran.trans ?_
      cases answer <;> rfl

theorem sends_one_statement
    (guard : {β : Type} → Action (σ × List Sent) β → Action (σ × List Sent) β)
    (call : Call α κ ρ) :
    (∀ e, b.statement call.purpose = .error e →
      call.run ((Executor.recorded query execute).guarded guard) b ⟨(store, sent), events⟩ =
        (.error e, ⟨(store, sent), events⟩)) ∧
    (∀ s, b.statement call.purpose = .ok s → ∃ t : Statement,
      t.text = s.text ∧ t.positional = s.positional ∧ t.named = s.named ∧
      t.window = call.window b ∧
      (∀ e after, call.ask query execute t store = (.error e, after) →
        call.run ((Executor.recorded query execute).guarded guard) b ⟨(store, sent), events⟩ =
          (.error e, ⟨(after, sent ++ [call.sent t]), b.told events call.errand t⟩)) ∧
      ∀ answer after, call.ask query execute t store = (.ok answer, after) →
        call.run ((Executor.recorded query execute).guarded guard) b ⟨(store, sent), events⟩ =
          (call.shape answer, ⟨(after, sent ++ [call.sent t]), b.told events call.errand t⟩)) ∧
    ∀ rows : List Row,
      (∀ t w state, t.window = some w → (query t state).1 = .ok (w.apply rows)) →
      ∀ s, b.build = .ok s →
        (b.firstRow ((Executor.recorded query execute).guarded guard)
          ⟨(store, sent), events⟩).1 = .ok rows.head? := by
  rw [run_guarded]
  refine ⟨call.run_unbuilt query execute b store sent events, ?_, ?_⟩
  · intro s built
    refine ⟨s.withWindow (call.window b), rfl, rfl, rfl, rfl, ?_, ?_⟩
    · intro e after answered
      exact call.run_built query execute b store sent events s built (.error e) after answered
    · intro answer after answered
      exact call.run_built query execute b store sent events s built (.ok answer) after answered
  · intro rows windows s built
    have answered := windows (s.withWindow (some ⟨0, 1⟩)) ⟨0, 1⟩ store rfl
    have ran := b.first_row_ran query execute store sent events s built _ _ rfl
    rw [answered] at ran
    have first : (RowWindow.apply ⟨0, 1⟩ rows).head? = rows.head? := by
      cases rows <;> rfl
    change (b.firstRow (.recorded query execute) _).1 = _
    rw [ran, ← first]
    rfl

def fixedRows (rows : List Row) (t : Statement) (state : Unit) : Outcome (List Row) × Unit :=
  match t.window with
  | some w => (.ok (w.apply rows), state)
  | none => (.ok rows, state)

theorem fixed_rows_windowed (rows : List Row) (t : Statement) (w : RowWindow) (state : Unit)
    (chosen : t.window = some w) : (fixedRows rows t state).1 = .ok (w.apply rows) := by
  rw [fixedRows, chosen]

theorem first_row_before_chosen_page :
    ∃ s, ((Builder.new ⟨"User"⟩ .default).run [.select, .page (some 3) (some 2)]).build = .ok s ∧
      s.window = some ⟨4, 2⟩ ∧
      (((Builder.new ⟨"User"⟩ .default).run [.select, .page (some 3) (some 2)]).firstRow
          ((Executor.recorded
            (fixedRows [.scalar "name" (.text "alice"), .scalar "name" (.text "bob")])
            fun _ state => (.ok 0, state)).guarded id) ⟨((), []), []⟩).1 =
        .ok (some (.scalar "name" (.text "alice"))) := by
  obtain ⟨-, -, first⟩ := sends_one_statement
    (fixedRows [.scalar "name" (.text "alice"), .scalar "name" (.text "bob")])
    (fun _ state => (.ok 0, state))
    ((Builder.new ⟨"User"⟩ .default).run [.select, .page (some 3) (some 2)]) () [] [] id
    (firstRow : Call Row _ _)
  exact ⟨_, rfl, rfl, first _ (fixed_rows_windowed _) _ rfl⟩

end Call

end Inquiry
