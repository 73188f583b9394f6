import Inquiry.Alias
import Inquiry.Predicate.Operator
import Inquiry.Value

set_option autoImplicit false

namespace Inquiry

inductive Operand where
  | none
  | single (value : Value)
  | pair (low high : Value)
  | list (values : Value)

namespace Operand

-- Nulls inside a list do not count.
def hasNull : Operand → Bool
  | none => false
  | single v => v.isNull
  | pair a b => a.isNull || b.isNull
  | list v => v.isNull

def values : Operand → List Value
  | none => []
  | single v => [v]
  | pair a b => [a, b]
  | list (.list items) => items
  | list v => [v]

def fits : Operand → Arity → Bool
  | none, .none => true
  | single _, .one => true
  | pair _ _, .two => true
  | list _, .list => true
  | _, _ => false

end Operand

inductive Target where
  | default
  | named (aliasName : String)
  | entity (entity : Entity)
deriving DecidableEq, Repr

-- Whether a leaf is valid is settled when it is made, and kept with it.
structure Leaf where
  target : Target
  column : String
  op : Operator
  operand : Operand
  isValid : Bool
  valid_eq : isValid = (op.nullSafe || !operand.hasNull)

namespace Leaf

def new (column : String) (op : Operator) (operand : Operand) : Leaf :=
  ⟨.default, column, op, operand, op.nullSafe || !operand.hasNull, rfl⟩

def retarget (target : Target) (l : Leaf) : Leaf :=
  if l.target = .default then { l with target := target } else l

def aliasIn (l : Leaf) (aliases : AliasMap) : String :=
  match l.target with
  | .default => aliases.defaultAlias
  | .named aliasName => aliasName
  | .entity entity => aliases.resolve entity

end Leaf

end Inquiry
