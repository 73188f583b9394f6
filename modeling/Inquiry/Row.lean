import Inquiry.Error
import Inquiry.Value.Codec

set_option autoImplicit false

namespace Inquiry

-- A row may have more column names than values, or fewer.
structure Row where
  columns : List String
  values : List Value

inductive Column where
  | position (n : Nat)
  | name (s : String)
deriving DecidableEq, Repr

def Column.text : Column → String
  | position n => toString n
  | name s => s

namespace Row

variable {α : Type}

def scalar (column : String) (value : Value) : Row := ⟨[column], [value]⟩

def size (r : Row) : Nat := r.values.length

def isEmpty (r : Row) : Bool := r.values.isEmpty

def get? (r : Row) (position : Nat) : Option Value := r.values[position]?

def positionOf? (r : Row) (name : String) : Option Nat := r.columns.findIdx? (· = name)

def getNamed? (r : Row) (name : String) : Option Value := (r.positionOf? name).bind r.get?

def lookup? (r : Row) : Column → Option Value
  | .position n => r.get? n
  | .name s => r.getNamed? s

def decodeWith (decode : Value → Except DecodeFault α) (column : Column) (r : Row) : Outcome α :=
  match r.lookup? column with
  | none => .error (.decode column.text DecodeFault.noSuchColumn.message)
  | some v => match decode v with
      | .ok a => .ok a
      | .error fault => .error (.decode column.text fault.message)

def tryGet [FromValue α] (column : Column) (r : Row) : Outcome α := r.decodeWith fromValue column

end Row

abbrev RowDecoder (α : Type) := Row → Outcome α

structure Field (α : Type) where
  column : Column
  decode : Value → Except DecodeFault α

namespace RowDecoder

variable {α β γ δ : Type}

def row : RowDecoder Row := .ok

def map (f : α → β) (d : RowDecoder α) : RowDecoder β := fun r => (d r).map f

def fields (fs : List (Field α)) : RowDecoder (List α) := fun r =>
  fs.mapM fun f => r.decodeWith f.decode f.column

def first [FromValue α] : RowDecoder α := Row.tryGet (.position 0)

def pair [FromValue α] [FromValue β] : RowDecoder (α × β) := fun r => do
  let a ← r.tryGet (.position 0)
  let b ← r.tryGet (.position 1)
  return (a, b)

def triple [FromValue α] [FromValue β] [FromValue γ] : RowDecoder (α × β × γ) := fun r => do
  let a ← r.tryGet (.position 0)
  let b ← r.tryGet (.position 1)
  let c ← r.tryGet (.position 2)
  return (a, b, c)

def quadruple [FromValue α] [FromValue β] [FromValue γ] [FromValue δ] :
    RowDecoder (α × β × γ × δ) := fun r => do
  let a ← r.tryGet (.position 0)
  let b ← r.tryGet (.position 1)
  let c ← r.tryGet (.position 2)
  let d ← r.tryGet (.position 3)
  return (a, b, c, d)

end RowDecoder

end Inquiry
