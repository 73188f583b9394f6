import Inquiry.Paging.Page
import Inquiry.Run.Executor

set_option autoImplicit false

namespace Inquiry.Builder

variable {σ α : Type}

def prepared (exec : Executor σ) (errand : Errand) (purpose : Purpose) (b : Builder) :
    Action σ Statement := do
  let built ← Action.ofOutcome (b.statement purpose)
  let ready ← Action.ofStore (exec.prepare (built.withWindow none))
  let statement := ready.withWindow built.window
  Action.emit (.ofStatement b.config errand statement)
  return statement

def count (exec : Executor σ) (b : Builder) : Action σ Int64 := do
  let statement ← b.prepared exec .count .count
  let row ← Action.ofStore (exec.queryOne statement)
  Action.ofOutcome (row.tryGet (.position 0))

def hasResult (exec : Executor σ) (b : Builder) : Action σ Bool := do
  return (← b.count exec) != 0

def hasNoResult (exec : Executor σ) (b : Builder) : Action σ Bool := do
  return (← b.count exec) == 0

def execute (exec : Executor σ) (b : Builder) : Action σ UInt64 := do
  let statement ← b.prepared exec .execute .rows
  Action.ofStore (exec.execute statement)

def rows (exec : Executor σ) (b : Builder) : Action σ (List Row) := do
  let statement ← b.prepared exec .select .rows
  Action.ofStore (exec.query statement)

def singleResult (exec : Executor σ) (b : Builder) : Action σ Row := do
  let statement ← b.prepared exec .select .rows
  Action.ofStore (exec.queryOne statement)

def firstRow (exec : Executor σ) (b : Builder) : Action σ (Option Row) := do
  let rows ← { b with paginator := b.paginator.limit (some 0) (some 1) }.rows exec
  return rows.head?

def firstResult (exec : Executor σ) (decode : RowDecoder α) (b : Builder) :
    Action σ (Option α) := do
  match ← b.firstRow exec with
  | none => return none
  | some row => return some (← Action.ofOutcome (decode row))

def resultList (exec : Executor σ) (decode : RowDecoder α) (b : Builder) : Action σ (List α) := do
  let rows ← b.rows exec
  Action.ofOutcome (rows.mapM decode)

def total (count : Int64) : Outcome UInt64 :=
  if 0 ≤ count.toInt then .ok (UInt64.ofNat count.toInt.toNat)
  else .error (.decode "count" (DecodeFault.negativeCount count).message)

def pagedResult (exec : Executor σ) (decode : RowDecoder α) (b : Builder) : Action σ (Page α) :=
  match b.fault?, b.paginator.pageNumber, b.paginator.pageSize with
  | some m, _, _ => Action.fail m.error
  | none, some page, some size => exec.snapshot do
      let count ← b.count exec
      let total ← Action.ofOutcome (total count)
      let data ← b.resultList exec decode
      return Page.new page size total data
  | none, _, _ => Action.fail .notPaginated

end Inquiry.Builder
