import Inquiry.Builder.State

set_option autoImplicit false

namespace Inquiry

inductive Step where
  | select
  | selectAs (entity : Entity)
  | selectColumns (columns : List String)
  | delete
  | source (entity : Entity) (aliasName : String)
  | join (entity : Entity) (column aliasName : String)
  | distinct
  | filter (predicates : List Predicate)
  | and (predicates : List Predicate)
  | or (predicates : List Predicate)
  | orderBy (column : ColumnRef) (direction : Direction)
  | groupBy (column : ColumnRef)
  | raw (text : String)
  /-- Gives the value of a position. Positions are unbounded here; as 64-bit words they have the
  bound that `Builder.firstIndex` states. -/
  | param (position : Nat) (value : Value)
  | paramNamed (name : String) (value : Value)
  | nullPolicy (policy : NullPolicy)
  | page (number size : Option UInt64)
  | limit (offset count : Option UInt64)

namespace Builder

def early? (b : Builder) (clause : Clause) : Option Misuse :=
  if b.isBegun then none else some (.beforeMode clause)

def misplaced? (b : Builder) (clause : Clause) : Option Misuse :=
  if b.mode = some .delete then some (.inDelete clause) else b.early? clause

def taken? (b : Builder) (requested : Mode) : Option Misuse := b.mode.map (.modeTaken requested)

def misuse? (b : Builder) : Step → Option Misuse
  | .select | .selectAs _ | .selectColumns _ => b.taken? .select
  | .delete => b.taken? .delete
  | .source _ _ => b.misplaced? .source
  | .join _ _ _ => b.misplaced? .join
  | .filter _ => b.early? .filter
  | .and _ => b.early? .and
  | .or _ => b.early? .or
  | .orderBy _ _ => b.early? .orderBy
  | .groupBy _ => b.early? .groupBy
  | .param position _ => if position = 0 then some .positionZero else none
  | .page number size =>
      match b.paginator.page number size with
      | .ok _ => none
      | .error m => some m
  | .distinct | .raw _ | .paramNamed _ _ | .nullPolicy _ | .limit _ _ => none

def withMode (mode : Mode) (b : Builder) : Builder := { b with mode := b.mode.or (some mode) }

def addSegment (connective : Connective) (predicates : List Predicate) (b : Builder) : Builder :=
  if predicates.isEmpty then b
  else { b with segments := b.segments ++ [⟨connective, .conjunction predicates⟩] }

def effect (b : Builder) : Step → Builder
  | .select => b.withMode .select
  | .selectAs entity => { b with entity := entity }.withMode .select
  | .selectColumns columns => { b with projection := .columns columns }.withMode .select
  | .delete => b.withMode .delete
  | .source entity aliasName =>
      { b with
        aliases := b.aliases.bind entity aliasName
        source := some ⟨entity, aliasName⟩ }
  | .join entity column aliasName =>
      { b with
        aliases := b.aliases.bind entity aliasName
        join := some ⟨⟨entity, aliasName⟩, column⟩ }
  | .distinct => { b with distinct := true }
  | .filter predicates => b.addSegment .and predicates
  | .and predicates => b.addSegment .and predicates
  | .or predicates => b.addSegment .or predicates
  | .orderBy column direction => { b with orderings := b.orderings ++ [(column, direction)] }
  | .groupBy column => { b with groupings := b.groupings ++ [column] }
  | .raw text =>
      { b with
        raw := some text
        projection := .entity
        source := none
        join := none
        aliases := b.aliases.clear }
  | .param position value =>
      if position = 0 then b else { b with positional := b.positional.insert position value }
  | .paramNamed name value => { b with named := b.named.insert name value }
  | .nullPolicy policy => { b with config := b.config.withNullPolicy policy }
  | .page number size =>
      match b.paginator.page number size with
      | .ok p => { b with paginator := p }
      | .error _ => b
  | .limit offset count => { b with paginator := b.paginator.limit offset count }

-- A step that comes at a wrong time is recorded and takes effect all the same. Of several misuses
-- the first one is kept.
def step (b : Builder) (s : Step) : Builder :=
  { b.effect s with misuse := b.misuse.or (b.misuse? s) }

def run (b : Builder) (steps : List Step) : Builder := steps.foldl step b

theorem step_misuse (b : Builder) (s : Step) :
    (b.step s).misuse = b.misuse.or (b.misuse? s) := rfl

theorem run_nil (b : Builder) : b.run [] = b := rfl

theorem run_cons (b : Builder) (s : Step) (steps : List Step) :
    b.run (s :: steps) = (b.step s).run steps := rfl

theorem run_append (b : Builder) (before after : List Step) :
    b.run (before ++ after) = (b.run before).run after := by
  simp [run]

def select (entity : Entity) : Builder := (new entity .default).step .select

def delete (entity : Entity) : Builder := (new entity .default).step .delete

def ofRaw (entity : Entity) (text : String) : Builder := (new entity .default).step (.raw text)

end Builder

end Inquiry
