import Inquiry.Error

set_option autoImplicit false

namespace Inquiry

inductive Mode where
  | select
  | delete
deriving DecidableEq, Repr

def Mode.name : Mode → String
  | select => "Select"
  | delete => "Delete"

inductive Clause where
  | source
  | join
  | filter
  | and
  | or
  | orderBy
  | groupBy
deriving DecidableEq, Repr

def Clause.name : Clause → String
  | source => "from"
  | join => "join"
  | filter => "filter"
  | and => "and"
  | or => "or"
  | orderBy => "order_by"
  | groupBy => "group_by"

inductive Misuse where
  | beforeMode (clause : Clause)
  | inDelete (clause : Clause)
  | modeTaken (requested current : Mode)
  | positionZero
  | pageBelowOne (page : UInt64)
  | sizeBelowOne (size : UInt64)
  | windowOverflow
  | nothingGiven
  | countOfDelete
deriving DecidableEq, Repr

namespace Misuse

def message : Misuse → String
  | beforeMode clause => s!"{clause.name}() called before select() or delete()"
  | inDelete clause => s!"{clause.name}() is not supported in Delete mode"
  | modeTaken requested current =>
      s!"{requested.name} mode requested but builder is already in {current.name} mode"
  | positionZero => "positional parameters are 1-based, got ?0"
  | pageBelowOne page => s!"page must be >= 1, got {page.toNat}"
  | sizeBelowOne size => s!"page size must be >= 1, got {size.toNat}"
  | windowOverflow => "page window overflows"
  | nothingGiven => "no select(), delete() or query() given"
  | countOfDelete => "count() is not available for delete queries"

def error (m : Misuse) : QueryError := .illegalState m.message

end Misuse

end Inquiry
