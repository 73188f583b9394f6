import Inquiry.Calendar
import Inquiry.Json
import Inquiry.Uuid

set_option autoImplicit false

namespace Inquiry

inductive Value where
  | null
  | bool (b : Bool)
  | int (n : Int64)
  | float (x : Float)
  | text (s : String)
  | uuid (u : Uuid)
  | timestamp (t : Timestamp)
  | date (d : Date)
  | json (j : Json)
  | list (items : List Value)

instance : Inhabited Value := ⟨.null⟩

inductive Kind where
  | null
  | bool
  | int
  | float
  | text
  | uuid
  | timestamp
  | date
  | json
  | list
deriving DecidableEq, Repr

def Kind.name : Kind → String
  | null => "null"
  | bool => "bool"
  | int => "int"
  | float => "float"
  | text => "text"
  | uuid => "uuid"
  | timestamp => "timestamp"
  | date => "date"
  | json => "json"
  | list => "list"

namespace Value

def kind : Value → Kind
  | null => .null
  | bool _ => .bool
  | int _ => .int
  | float _ => .float
  | text _ => .text
  | uuid _ => .uuid
  | timestamp _ => .timestamp
  | date _ => .date
  | json _ => .json
  | list _ => .list

def isNull : Value → Bool
  | null => true
  | _ => false

def numberLayout : Decimal.Layout where
  positional := none
  wholeZero := false
  tie := .up
  notANumber := "NaN"
  infinity := "inf"
  negativeInfinity := "-inf"

mutual
def display : Value → String
  | null => "NULL"
  | bool b => if b then "true" else "false"
  | int n => toString n.toInt
  | float x => numberLayout.render x
  | text s => "'" ++ s ++ "'"
  | uuid u => u.text
  | timestamp t => t.offsetText
  | date d => d.text
  | json j => j.compact
  | list items => "[" ++ String.intercalate ", " (displayEach items) ++ "]"
def displayEach : List Value → List String
  | [] => []
  | item :: rest => display item :: displayEach rest
end

mutual
def toJson : Value → Json
  | null => .null
  | bool b => .bool b
  | int n => .integer n.toInt
  | float x => .real x
  | text s => .text s
  | uuid u => .text u.text
  | timestamp t => .text t.zuluText
  | date d => .text d.text
  | json j => j
  | list items => .array (toJsonEach items)
def toJsonEach : List Value → List Json
  | [] => []
  | item :: rest => toJson item :: toJsonEach rest
end

mutual
def same : Value → Value → Bool
  | null, null => true
  | bool a, bool b => a == b
  | int a, int b => a == b
  | float a, float b => a == b
  | text a, text b => a == b
  | uuid a, uuid b => a == b
  | timestamp a, timestamp b => a == b
  | date a, date b => a == b
  | json a, json b => a.same b
  | list a, list b => sameEach a b
  | _, _ => false
def sameEach : List Value → List Value → Bool
  | [], [] => true
  | a :: as, b :: bs => same a b && sameEach as bs
  | _, _ => false
end

end Value

end Inquiry
