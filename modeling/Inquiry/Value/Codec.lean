import Inquiry.Value

set_option autoImplicit false

namespace Inquiry

class ToValue (α : Type) where
  toValue : α → Value

export ToValue (toValue)

instance : ToValue Value := ⟨id⟩
instance : ToValue Bool := ⟨.bool⟩
instance : ToValue Int8 := ⟨fun n => .int n.toInt64⟩
instance : ToValue Int16 := ⟨fun n => .int n.toInt64⟩
instance : ToValue Int32 := ⟨fun n => .int n.toInt64⟩
instance : ToValue Int64 := ⟨.int⟩
instance : ToValue UInt8 := ⟨fun n => .int (Int64.ofNat n.toNat)⟩
instance : ToValue UInt16 := ⟨fun n => .int (Int64.ofNat n.toNat)⟩
instance : ToValue UInt32 := ⟨fun n => .int (Int64.ofNat n.toNat)⟩
instance : ToValue Float32 := ⟨fun x => .float x.toFloat⟩
instance : ToValue Float := ⟨.float⟩
instance : ToValue String := ⟨.text⟩
instance : ToValue Uuid := ⟨.uuid⟩
instance : ToValue Timestamp := ⟨.timestamp⟩
instance : ToValue Date := ⟨.date⟩
instance : ToValue Json := ⟨.json⟩

instance {α : Type} [ToValue α] : ToValue (Option α) where
  toValue
    | none => .null
    | some a => toValue a

instance {α : Type} [ToValue α] : ToValue (List α) := ⟨fun items => .list (items.map toValue)⟩

inductive DecodeFault where
  | noSuchColumn
  | mismatch (expected got : Kind)
  | outOfRange
  | notUuid
  | negativeCount (count : Int64)
  -- What a type from elsewhere says of a value that it does not read.
  | refused (reason : String)
deriving DecidableEq, Repr

def DecodeFault.message : DecodeFault → String
  | noSuchColumn => "no such column"
  | mismatch expected got => s!"expected {expected.name}, got {got.name}"
  | outOfRange => "out of range integral type conversion attempted"
  | notUuid => "no form of a UUID"
  | negativeCount count => s!"negative row count {count.toInt}"
  | refused reason => reason

class FromValue (α : Type) where
  fromValue : Value → Except DecodeFault α

export FromValue (fromValue)

instance : FromValue Value := ⟨.ok⟩

instance : FromValue Int64 where
  fromValue
    | .int n => .ok n
    | v => .error (.mismatch .int v.kind)

instance : FromValue Int32 where
  fromValue v := do
    let n : Int64 ← fromValue v
    if Int32.minValue.toInt ≤ n.toInt ∧ n.toInt ≤ Int32.maxValue.toInt then
      .ok (Int32.ofInt n.toInt)
    else .error .outOfRange

instance : FromValue UInt64 where
  fromValue v := do
    let n : Int64 ← fromValue v
    if 0 ≤ n.toInt then .ok (UInt64.ofNat n.toInt.toNat) else .error .outOfRange

instance : FromValue Float where
  fromValue
    | .float x => .ok x
    | .int n => .ok n.toFloat
    | v => .error (.mismatch .float v.kind)

instance : FromValue Bool where
  fromValue
    | .bool b => .ok b
    | v => .error (.mismatch .bool v.kind)

instance : FromValue String where
  fromValue
    | .text s => .ok s
    | v => .error (.mismatch .text v.kind)

instance : FromValue Uuid where
  fromValue
    | .uuid u => .ok u
    | .text s => match Uuid.parse? s with
        | some u => .ok u
        | none => .error .notUuid
    | v => .error (.mismatch .uuid v.kind)

instance : FromValue Timestamp where
  fromValue
    | .timestamp t => .ok t
    | v => .error (.mismatch .timestamp v.kind)

instance : FromValue Date where
  fromValue
    | .date d => .ok d
    | v => .error (.mismatch .date v.kind)

instance : FromValue Json where
  fromValue
    | .json j => .ok j
    | v => .error (.mismatch .json v.kind)

instance {α : Type} [FromValue α] : FromValue (Option α) where
  fromValue
    | .null => .ok none
    | v => (fromValue v).map some

end Inquiry
