import Inquiry.Error
import Inquiry.Text.Bytes

set_option autoImplicit false

namespace Inquiry.Count

inductive Fault where
  | noSelect
  | noFrom
  | nothingSelected
  | notDelimited
deriving DecidableEq, Repr

def Fault.reason : Fault → String
  | noSelect => "no SELECT keyword"
  | noFrom => "no FROM keyword"
  | nothingSelected => "nothing selected between SELECT and FROM"
  | notDelimited => "selected expression is not delimited by spaces"

def keywordAt? (keyword : String) (raw : List Char) : Option Nat :=
  Text.find? keyword.toList (raw.map Char.toLower)

-- The text between the keywords at bytes `select` and `source`, less one byte on each side.
def selection? (raw : List Char) (select source : Nat) : Option (List Char) :=
  if select + 8 < source then Text.slice? (select + 7) (source - 1) raw else none

def spaced (cs : List Char) : List Char := ' ' :: cs ++ [' ']

def wrapped (cs : List Char) : List Char := "count(".toList ++ cs ++ [')']

def ofChars (raw : List Char) : Except Fault (List Char) :=
  match keywordAt? "select" raw, keywordAt? "from" raw with
  | none, _ => .error .noSelect
  | some _, none => .error .noFrom
  | some select, some source =>
      match selection? raw select source with
      | none => .error .nothingSelected
      | some content =>
          match Text.replaceFirst? (spaced content) (spaced (wrapped content)) raw with
          | none => .error .notDelimited
          | some counted => .ok counted

def derive (raw : String) : Outcome String :=
  match ofChars raw.toList with
  | .ok counted => .ok (String.ofList counted)
  | .error fault => .error (.malformedRawQuery s!"{fault.reason}: {raw}")

end Inquiry.Count
