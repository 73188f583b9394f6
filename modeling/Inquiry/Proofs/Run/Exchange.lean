import Inquiry.Proofs.Builder.Clauses
import Inquiry.Run.Terminal
import Mathlib.Data.List.Forall2

set_option autoImplicit false

namespace Inquiry

variable {σ τ α κ ρ : Type}

theorem Action.bind_outcome (first : Action τ κ) (f : κ → Outcome ρ) (before after : Session τ)
    (answer : Outcome κ) (ran : first before = (answer, after)) :
    (first >>= fun a => Action.ofOutcome (f a)) before = (answer.bind f, after) := by
  cases answer with
  | error e => rw [Action.bind_error _ _ _ _ e ran]; rfl
  | ok a => rw [Action.bind_ok _ _ _ _ a ran]; rfl

inductive Sent where
  | query (s : Statement)
  | execute (s : Statement)

def Executor.recorded (query : Statement → σ → Outcome (List Row) × σ)
    (execute : Statement → σ → Outcome UInt64 × σ) : Executor (σ × List Sent) :=
  .ofAnswers
    (fun s store => ((query s store.1).1, (query s store.1).2, store.2 ++ [.query s]))
    (fun s store => ((execute s store.1).1, (execute s store.1).2, store.2 ++ [.execute s]))

def countIn (answer : Outcome (List Row)) : Outcome Int64 := do
  let row ← answer.bind onlyRow
  row.tryGet (.position 0)

def rowsFault (number : Nat) : String :=
  if number = 0 then "query returned no rows"
  else "query returned " ++ toString number ++ " rows, expected exactly one"

theorem only_row_other (rows : List Row) (other : rows.length ≠ 1) :
    onlyRow rows = .error (.store (rowsFault rows.length)) := by
  cases rows with
  | nil => rfl
  | cons row rest =>
      cases rest with
      | nil => exact absurd rfl other
      | cons next rest => rfl

theorem count_in_other (rows : List Row) (other : rows.length ≠ 1) :
    countIn (.ok rows) = .error (.store (rowsFault rows.length)) := by
  have failed : (Except.ok rows).bind onlyRow = .error (.store (rowsFault rows.length)) :=
    only_row_other rows other
  rw [countIn, failed]
  rfl

theorem count_in_row (row : Row) : countIn (.ok [row]) = row.tryGet (.position 0) := rfl

theorem first_count_iff (row : Row) (n : Int64) :
    row.tryGet (.position 0) = .ok n ↔ row.values.head? = some (.int n) := by
  have first : row.lookup? (.position 0) = row.values.head? := by
    rw [List.head?_eq_getElem?]
    rfl
  rw [Row.tryGet, Row.decodeWith, first]
  cases row.values.head? with
  | none => simp
  | some v => cases v <;> simp [fromValue]

theorem decode_all_ok_iff (decode : RowDecoder α) (rows : List Row) (data : List α) :
    rows.mapM decode = .ok data ↔
      List.Forall₂ (fun row item => decode row = .ok item) rows data := by
  induction rows generalizing data with
  | nil => cases data <;> simp [pure, Except.pure]
  | cons row rest ih =>
      rw [List.mapM_cons, Outcome.bind_ok_iff]
      constructor
      · rintro ⟨item, first, next⟩
        obtain ⟨items, later, same⟩ := (Outcome.bind_ok_iff _ _ _).mp next
        obtain rfl := Except.ok.inj same
        exact .cons first ((ih items).mp later)
      · rintro (_ | ⟨first, later⟩)
        refine ⟨_, first, (Outcome.bind_ok_iff _ _ _).mpr ⟨_, (ih _).mpr later, rfl⟩⟩

theorem decode_all_error_iff (decode : RowDecoder α) (rows : List Row) (e : QueryError) :
    rows.mapM decode = .error e ↔
      ∃ before row after, rows = before ++ row :: after ∧
        (∀ earlier ∈ before, ∃ item, decode earlier = .ok item) ∧ decode row = .error e := by
  induction rows with
  | nil => simp [pure, Except.pure]
  | cons row rest ih =>
      rw [List.mapM_cons, Outcome.bind_error_iff]
      constructor
      · rintro (failed | ⟨item, first, next⟩)
        · exact ⟨[], row, rest, rfl, by simp, failed⟩
        · rcases (Outcome.bind_error_iff _ _ _).mp next with failed | ⟨items, -, absurd⟩
          · obtain ⟨before, wrong, after, rfl, earlier, failed⟩ := ih.mp failed
            exact ⟨row :: before, wrong, after, rfl,
              List.forall_mem_cons.mpr ⟨⟨item, first⟩, earlier⟩, failed⟩
          · cases absurd
      · rintro ⟨before, wrong, after, split, earlier, failed⟩
        cases before with
        | nil =>
            obtain ⟨rfl, rfl⟩ := List.cons.inj split
            exact .inl failed
        | cons first before =>
            obtain ⟨rfl, rfl⟩ := List.cons.inj split
            obtain ⟨⟨item, decoded⟩, others⟩ := List.forall_mem_cons.mp earlier
            refine .inr ⟨item, decoded, (Outcome.bind_error_iff _ _ _).mpr (.inl ?_)⟩
            exact ih.mpr ⟨before, wrong, after, rfl, others, failed⟩

namespace Builder

variable (query : Statement → σ → Outcome (List Row) × σ)
  (execute : Statement → σ → Outcome UInt64 × σ) (b : Builder) (store : σ) (sent : List Sent)
  (events : List Event)

def told (errand : Errand) (s : Statement) : List Event :=
  events ++ [.ofStatement b.config errand s]

theorem query_ran (s : Statement) (answer : Outcome (List Row)) (after : σ)
    (answered : query s store = (answer, after)) :
    Action.ofStore ((Executor.recorded query execute).query s) ⟨(store, sent), events⟩ =
      (answer, ⟨(after, sent ++ [.query s]), events⟩) := by
  change ((query s store).1, (⟨((query s store).2, _), events⟩ : Session (σ × List Sent))) = _
  rw [answered]

theorem query_one_ran (s : Statement) (answer : Outcome (List Row)) (after : σ)
    (answered : query s store = (answer, after)) :
    Action.ofStore ((Executor.recorded query execute).queryOne s) ⟨(store, sent), events⟩ =
      (answer.bind onlyRow, ⟨(after, sent ++ [.query s]), events⟩) := by
  change ((query s store).1.bind onlyRow,
    (⟨((query s store).2, _), events⟩ : Session (σ × List Sent))) = _
  rw [answered]

theorem prepared_ran (errand : Errand) (purpose : Purpose) (s : Statement)
    (built : b.statement purpose = .ok s) :
    b.prepared (.recorded query execute) errand purpose ⟨(store, sent), events⟩ =
      (.ok s, ⟨(store, sent), b.told events errand s⟩) := by
  rw [prepared, Action.bind_ok _ _ _ ⟨(store, sent), events⟩ s (by rw [built]; rfl)]
  rfl

theorem prepared_failed (errand : Errand) (purpose : Purpose) (e : QueryError)
    (failed : b.statement purpose = .error e) :
    b.prepared (.recorded query execute) errand purpose ⟨(store, sent), events⟩ =
      (.error e, ⟨(store, sent), events⟩) := by
  rw [prepared, Action.bind_error _ _ _ ⟨(store, sent), events⟩ e (by rw [failed]; rfl)]

theorem count_failed (e : QueryError) (failed : b.buildCount = .error e) :
    b.count (.recorded query execute) ⟨(store, sent), events⟩ =
      (.error e, ⟨(store, sent), events⟩) := by
  rw [count, Action.bind_error _ _ _ _ e
    (b.prepared_failed query execute store sent events .count .count e failed)]

theorem count_ran (s : Statement) (built : b.buildCount = .ok s)
    (answer : Outcome (List Row)) (after : σ) (answered : query s store = (answer, after)) :
    b.count (.recorded query execute) ⟨(store, sent), events⟩ =
      (countIn answer, ⟨(after, sent ++ [.query s]), b.told events .count s⟩) := by
  rw [count, Action.bind_ok _ _ _ _ s
    (b.prepared_ran query execute store sent events .count .count s built)]
  exact Action.bind_outcome _ (Row.tryGet (.position 0)) _ _ (answer.bind onlyRow)
    (query_one_ran query execute store sent (b.told events .count s) s answer after answered)

theorem rows_ran (s : Statement) (built : b.build = .ok s)
    (answer : Outcome (List Row)) (after : σ) (answered : query s store = (answer, after)) :
    b.rows (.recorded query execute) ⟨(store, sent), events⟩ =
      (answer, ⟨(after, sent ++ [.query s]), b.told events .select s⟩) := by
  rw [rows, Action.bind_ok _ _ _ _ s
    (b.prepared_ran query execute store sent events .select .rows s built)]
  exact query_ran query execute store sent (b.told events .select s) s answer after answered

theorem result_list_ran (decode : RowDecoder α) (s : Statement) (built : b.build = .ok s)
    (answer : Outcome (List Row)) (after : σ) (answered : query s store = (answer, after)) :
    b.resultList (.recorded query execute) decode ⟨(store, sent), events⟩ =
      (answer.bind (·.mapM decode), ⟨(after, sent ++ [.query s]), b.told events .select s⟩) :=
  Action.bind_outcome _ (List.mapM decode) _ _ answer
    (b.rows_ran query execute store sent events s built answer after answered)

end Builder

end Inquiry
