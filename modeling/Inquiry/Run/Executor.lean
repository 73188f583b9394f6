import Inquiry.Row
import Inquiry.Run.Trace

set_option autoImplicit false

namespace Inquiry

structure Session (σ : Type) where
  store : σ
  events : List Event

def Action (σ α : Type) : Type := Session σ → Outcome α × Session σ

namespace Action

variable {σ α β : Type}

def done (a : α) : Action σ α := fun session => (.ok a, session)

def ofOutcome (outcome : Outcome α) : Action σ α := fun session => (outcome, session)

def fail (e : QueryError) : Action σ α := ofOutcome (.error e)

def andThen (first : Action σ α) (next : α → Action σ β) : Action σ β := fun session =>
  match first session with
  | (.ok a, session) => next a session
  | (.error e, session) => (.error e, session)

instance : Monad (Action σ) where
  pure := done
  bind := andThen

theorem bind_ok (first : Action σ α) (next : α → Action σ β) (before after : Session σ) (a : α)
    (ran : first before = (.ok a, after)) : (first >>= next) before = next a after := by
  change andThen first next before = next a after
  simp [andThen, ran]

theorem bind_error (first : Action σ α) (next : α → Action σ β) (before after : Session σ)
    (e : QueryError) (ran : first before = (.error e, after)) :
    (first >>= next) before = (.error e, after) := by
  change andThen first next before = (.error e, after)
  simp [andThen, ran]

def ofStore (answer : σ → Outcome α × σ) : Action σ α := fun session =>
  let (outcome, store) := answer session.store
  (outcome, { session with store := store })

def emit (e : Event) : Action σ Unit := fun session =>
  (.ok (), { session with events := session.events ++ [e] })

end Action

def onlyRow : List Row → Outcome Row
  | [] => .error (.store "query returned no rows")
  | [row] => .ok row
  | rows => .error (.store s!"query returned {rows.length} rows, expected exactly one")

-- How a store with states `σ` runs statements. Where it has no way of its own, statements are
-- prepared as they are, one row is the only one of all, and a snapshot runs its action unguarded.
structure Executor (σ : Type) where
  query : Statement → σ → Outcome (List Row) × σ
  execute : Statement → σ → Outcome UInt64 × σ
  prepare : Statement → σ → Outcome Statement × σ := fun s store => (.ok s, store)
  queryOne : Statement → σ → Outcome Row × σ := fun s store =>
    let (outcome, store) := query s store
    (outcome.bind onlyRow, store)
  snapshot : {α : Type} → Action σ α → Action σ α := fun action => action

namespace Executor

variable {σ : Type}

def ofAnswers (query : Statement → σ → Outcome (List Row) × σ)
    (execute : Statement → σ → Outcome UInt64 × σ) : Executor σ where
  query := query
  execute := execute

end Executor

end Inquiry
