import Inquiry.Builder.Step
import Inquiry.Count

set_option autoImplicit false

namespace Inquiry

structure Statement where
  text : String
  positional : Bindings Nat Value
  named : Bindings String Value
  window : Option RowWindow

namespace Statement

def withWindow (window : Option RowWindow) (s : Statement) : Statement := { s with window := window }

def paramCount (s : Statement) : Nat := s.positional.size + s.named.size

end Statement

inductive Purpose where
  | rows
  | count
deriving DecidableEq, Repr

namespace Builder

def fault? (b : Builder) : Option Misuse :=
  b.misuse.or (if b.isBegun then none else some .nothingGiven)

-- A dotted column stands as it is behind a bound alias. The default alias is not among these, so that
-- a column behind it is qualified once more.
def qualify (aliases : AliasMap) (column : String) : String :=
  let head := column.toList.takeWhile (· ≠ '.')
  if column.toList.contains '.' && aliases.isBoundAlias (String.ofList head) then column
  else aliases.defaultAlias ++ "." ++ column

def projectionText (b : Builder) : String :=
  match b.projection with
  | .entity => b.aliases.resolve b.entity
  | .columns names => String.intercalate ", " (names.map (qualify b.aliases))

def selectedText (b : Builder) (purpose : Purpose) : String :=
  let selected := if b.distinct then "DISTINCT " ++ b.projectionText else b.projectionText
  match purpose with
  | .rows => selected
  | .count => "count(" ++ selected ++ ")"

def sourceText (b : Builder) : String :=
  match b.source with
  | some source => source.entity.name ++ " " ++ source.aliasName
  | none => b.entity.name ++ " " ++ b.defaultAlias

def head (b : Builder) (purpose : Purpose) : Outcome String :=
  match b.raw, b.mode, purpose with
  | some text, _, .rows => .ok text
  | some text, _, .count => Count.derive text
  | none, some .delete, .rows => .ok ("DELETE FROM " ++ b.entity.name ++ " " ++ b.defaultAlias)
  | none, some .delete, .count => .error Misuse.countOfDelete.error
  | none, _, _ => .ok ("SELECT " ++ b.selectedText purpose ++ " FROM " ++ b.sourceText)

def joinText (b : Builder) : String :=
  if b.isRaw || b.mode = some .delete then ""
  else match b.join with
    | none => ""
    | some join =>
        let aliasName := (b.source.map Aliased.aliasName).getD b.defaultAlias
        " JOIN " ++ aliasName ++ "." ++ join.column ++ " " ++ join.target.aliasName

/-- The number of the first placeholder of the conditions, behind the highest position given by hand.
Positions and numbers are unbounded here. As 64-bit words they are the same as long as the highest
position and the number of values in the conditions add up to less than 2^64 - 1; a position of
2^64 - 1 leaves no number behind it. -/
def firstIndex (b : Builder) : Nat :=
  match b.positional.last? with
  | some entry => entry.1 + 1
  | none => 1

-- A condition of which nothing is left does not open the clause; the next one does.
def conditions (c : Compiler) (isOpen : Bool) : List Segment → Outcome Fragment
  | [] => .ok []
  | s :: rest => do
      let (f, c) ← c.compile s.predicate
      if f.isBlank then conditions c isOpen rest
      else
        let tail ← conditions c true rest
        return .word (if isOpen then s.connective.text else " WHERE ") :: f ++ tail

def whereClause (b : Builder) : Outcome Fragment :=
  conditions (.new b.nullPolicy b.aliases b.firstIndex) false b.segments

def refText (b : Builder) (ref : ColumnRef) : String :=
  ref.aliasName.getD b.defaultAlias ++ "." ++ ref.column

def groupText (b : Builder) : String :=
  if b.groupings.isEmpty then ""
  else " GROUP BY " ++ String.intercalate ", " (b.groupings.map b.refText)

def orderText (b : Builder) : String :=
  if b.orderings.isEmpty then ""
  else " ORDER BY " ++ String.intercalate ", "
    (b.orderings.map fun (ref, direction) => b.refText ref ++ " " ++ direction.keyword)

def tailText (b : Builder) : Purpose → String
  | .rows => b.groupText ++ b.orderText
  | .count => b.groupText

def windowFor (b : Builder) : Purpose → Option RowWindow
  | .rows => b.paginator.window
  | .count => none

def statement (b : Builder) (purpose : Purpose) : Outcome Statement :=
  match b.fault? with
  | some m => .error m.error
  | none => do
      let head ← b.head purpose
      let condition ← b.whereClause
      return {
        text := head ++ b.joinText ++ condition.text ++ b.tailText purpose
        positional := b.positional.insertAll condition.bindings
        named := b.named
        window := b.windowFor purpose }

def build (b : Builder) : Outcome Statement := b.statement .rows

def buildCount (b : Builder) : Outcome Statement := b.statement .count

end Builder

end Inquiry
