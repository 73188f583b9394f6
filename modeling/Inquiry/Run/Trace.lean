import Inquiry.Builder.Statement
import Inquiry.Text.Truncation

set_option autoImplicit false

namespace Inquiry

inductive Errand where
  | select
  | count
  | execute
deriving DecidableEq, Repr

def Errand.name : Errand → String
  | select => "select"
  | count => "count"
  | execute => "execute"

structure Event where
  level : Level
  errand : Errand
  paramCount : Nat
  window : Option RowWindow
  query : String
deriving DecidableEq, Repr

namespace Event

def target : String := "fluentq.query"

def queryText (c : Config) (text : String) : String :=
  match c.maxLength with
  | none => text
  | some max => if max < text.utf8ByteSize then Text.truncate max text ++ "..." else text

def ofStatement (c : Config) (errand : Errand) (s : Statement) : Event where
  level := c.effectiveLevel
  errand := errand
  paramCount := s.paramCount
  window := s.window
  query := queryText c s.text

end Event

end Inquiry
