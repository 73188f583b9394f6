import Inquiry.Run.Terminal

set_option autoImplicit false

namespace Inquiry

structure Repository (σ : Type) where
  entity : Entity
  config : Config
  executor : Executor σ

namespace Repository

variable {σ α : Type}

def new (entity : Entity) (executor : Executor σ) : Repository σ := ⟨entity, .default, executor⟩

def beginQuery (r : Repository σ) : Builder := .new r.entity r.config

def totalCount (r : Repository σ) : Action σ Int64 :=
  (r.beginQuery.step .select).count r.executor

def findAll (r : Repository σ) (decode : RowDecoder α) : Action σ (List α) :=
  (r.beginQuery.step .select).resultList r.executor decode

def columnSteps (column : String) (predicates : List Predicate) : List Step :=
  [.selectColumns [column], .filter predicates, .groupBy ⟨none, column⟩]

def columnValues (r : Repository σ) (column : String) (predicates : List Predicate) :
    Action σ (List Row) :=
  (r.beginQuery.run (columnSteps column predicates)).rows r.executor

end Repository

end Inquiry
