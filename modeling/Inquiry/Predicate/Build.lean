import Inquiry.Predicate.Tree

set_option autoImplicit false

namespace Inquiry.Predicate

def compare (column : String) (op : Operator) (operand : Operand) : Predicate :=
  simple (Leaf.new column op operand)

def equal (column : String) (value : Value) : Predicate := compare column .equal (.single value)

def notEqual (column : String) (value : Value) : Predicate :=
  compare column .notEqual (.single value)

def greaterThan (column : String) (value : Value) : Predicate :=
  compare column .greaterThan (.single value)

def greaterOrEqual (column : String) (value : Value) : Predicate :=
  compare column .greaterOrEqual (.single value)

def lessThan (column : String) (value : Value) : Predicate :=
  compare column .lessThan (.single value)

def lessOrEqual (column : String) (value : Value) : Predicate :=
  compare column .lessOrEqual (.single value)

def like (column : String) (pattern : Value) : Predicate := compare column .like (.single pattern)

def notLike (column : String) (pattern : Value) : Predicate :=
  compare column .notLike (.single pattern)

-- A null in place of the sequence makes the comparison invalid.
def inList (column : String) (values : Value) : Predicate := compare column .isIn (.list values)

def notIn (column : String) (values : Value) : Predicate := compare column .notIn (.list values)

def between (column : String) (low high : Value) : Predicate :=
  compare column .between (.pair low high)

def isNull (column : String) : Predicate := compare column .isNull .none

def isNotNull (column : String) : Predicate := compare column .isNotNull .none

-- A single list or null given to a membership test is the whole sequence.
def operandOf? : Arity → List Value → Option Operand
  | .none, [] => some .none
  | .one, [v] => some (.single v)
  | .two, [a, b] => some (.pair a b)
  | .list, [.list items] => some (.list (.list items))
  | .list, [.null] => some (.list .null)
  | .list, vs => some (.list (.list vs))
  | _, _ => none

def ofValues (column : String) (op : Operator) (values : List Value) : Outcome Predicate :=
  match operandOf? op.arity values with
  | some operand => .ok (compare column op operand)
  | none => .error (.invalidPredicate column
      s!"operator {op.keyword} expects {op.arity.name} operand(s), got {values.length}")

def parse (column operator : String) (values : List Value) : Outcome Predicate :=
  match Operator.parse operator with
  | .ok op => ofValues column op values
  | .error e => .error e

end Inquiry.Predicate
