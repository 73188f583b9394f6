set_option autoImplicit false

namespace Inquiry

inductive QueryError where
  | invalidPredicate (column reason : String)
  | malformedRawQuery (detail : String)
  | notPaginated
  | unsupportedOperator (text : String)
  | illegalState (message : String)
  | decode (column message : String)
  | config (message : String)
  | store (message : String)
deriving DecidableEq, Repr

namespace QueryError

def message : QueryError → String
  | invalidPredicate column reason => s!"Invalid predicate on column '{column}': {reason}"
  | malformedRawQuery detail => s!"Malformed raw query: {detail}"
  | notPaginated => "Query is not paged, call page() first"
  | unsupportedOperator text => s!"Unsupported predicate kind: {text}"
  | illegalState text => s!"Illegal builder state: {text}"
  | decode column text => s!"Decode error on column '{column}': {text}"
  | config text => s!"Configuration error: {text}"
  | store text => text

def isInvalidPredicate : QueryError → Bool
  | invalidPredicate _ _ => true
  | _ => false

def isNotPaginated : QueryError → Bool
  | notPaginated => true
  | _ => false

def isStore : QueryError → Bool
  | store _ => true
  | _ => false

end QueryError

abbrev Outcome (α : Type) := Except QueryError α

end Inquiry
