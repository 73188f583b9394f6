import Inquiry.Config
import Inquiry.Paging.Window
import Inquiry.Predicate.Build

set_option autoImplicit false

namespace Inquiry

inductive Connective where
  | and
  | or
deriving DecidableEq, Repr

def Connective.text : Connective → String
  | and => " AND "
  | or => " OR "

structure Segment where
  connective : Connective
  predicate : Predicate

inductive Direction where
  | ascending
  | descending
deriving DecidableEq, Repr

def Direction.keyword : Direction → String
  | ascending => "ASC"
  | descending => "DESC"

structure ColumnRef where
  aliasName : Option String
  column : String
deriving DecidableEq, Repr

structure Join where
  target : Aliased
  column : String
deriving DecidableEq, Repr

inductive Projection where
  | entity
  | columns (names : List String)
deriving DecidableEq, Repr

structure Builder where
  config : Config
  entity : Entity
  mode : Option Mode
  projection : Projection
  distinct : Bool
  -- What stands in the FROM clause in place of the entity.
  source : Option Aliased
  join : Option Join
  aliases : AliasMap
  raw : Option String
  segments : List Segment
  orderings : List (ColumnRef × Direction)
  groupings : List ColumnRef
  positional : Bindings Nat Value
  named : Bindings String Value
  paginator : Paginator
  misuse : Option Misuse

namespace Builder

def new (entity : Entity) (config : Config) : Builder where
  config := config
  entity := entity
  mode := none
  projection := .entity
  distinct := false
  source := none
  join := none
  aliases := .new config.defaultAlias
  raw := none
  segments := []
  orderings := []
  groupings := []
  positional := .empty
  named := .empty
  paginator := .empty
  misuse := none

def defaultAlias (b : Builder) : String := b.aliases.defaultAlias

def nullPolicy (b : Builder) : NullPolicy := b.config.nullPolicy

def isPaged (b : Builder) : Bool := b.paginator.isPaged

def isRaw (b : Builder) : Bool := b.raw.isSome

def isBegun (b : Builder) : Bool := b.mode.isSome || b.isRaw

end Builder

end Inquiry
