import Inquiry.Error
import Inquiry.Text.Blank

set_option autoImplicit false

namespace Inquiry

inductive Operator where
  | equal
  | notEqual
  | greaterThan
  | greaterOrEqual
  | lessThan
  | lessOrEqual
  | like
  | notLike
  | isIn
  | notIn
  | between
  | isNull
  | isNotNull
deriving DecidableEq, Repr

inductive Arity where
  | none
  | one
  | two
  | list
deriving DecidableEq, Repr

def Arity.name : Arity → String
  | none => "None"
  | one => "One"
  | two => "Two"
  | list => "List"

namespace Operator

def keyword : Operator → String
  | equal => "="
  | notEqual => "<>"
  | greaterThan => ">"
  | greaterOrEqual => ">="
  | lessThan => "<"
  | lessOrEqual => "<="
  | like => "LIKE"
  | notLike => "NOT LIKE"
  | isIn => "IN"
  | notIn => "NOT IN"
  | between => "BETWEEN"
  | isNull => "IS NULL"
  | isNotNull => "IS NOT NULL"

def arity : Operator → Arity
  | isNull | isNotNull => .none
  | between => .two
  | isIn | notIn => .list
  | _ => .one

def nullSafe (op : Operator) : Bool := op.arity = .none

def ofWords? : List String → Option Operator
  | ["="] | ["=="] | ["eq"] | ["equal"] => some equal
  | ["<>"] | ["!="] | ["ne"] | ["not", "equal"] => some notEqual
  | [">"] | ["gt"] => some greaterThan
  | [">="] | ["gte"] | ["ge"] => some greaterOrEqual
  | ["<"] | ["lt"] => some lessThan
  | ["<="] | ["lte"] | ["le"] => some lessOrEqual
  | ["like"] => some like
  | ["not", "like"] => some notLike
  | ["in"] => some isIn
  | ["not", "in"] => some notIn
  | ["between"] => some between
  | ["is", "null"] | ["null"] => some isNull
  | ["is", "not", "null"] | ["not", "null"] => some isNotNull
  | _ => Option.none

def separates (c : Char) : Bool := Text.isBlank c || c = '_'

def wordsOf (text : String) : List String :=
  (Text.words separates text.toList).map fun word => String.ofList (word.map Char.toLower)

def parse (text : String) : Outcome Operator :=
  match ofWords? (wordsOf text) with
  | some op => .ok op
  | Option.none => .error (.unsupportedOperator text)

end Operator

end Inquiry
