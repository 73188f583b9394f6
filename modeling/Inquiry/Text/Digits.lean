set_option autoImplicit false

namespace Inquiry.Text

def digitValue? (c : Char) : Option Nat :=
  if '0' ≤ c && c ≤ '9' then some (c.toNat - '0'.toNat)
  else if 'a' ≤ c && c ≤ 'f' then some (c.toNat - 'a'.toNat + 10)
  else if 'A' ≤ c && c ≤ 'F' then some (c.toNat - 'A'.toNat + 10)
  else none

def number? (base : Nat) (digits : List Char) : Option Nat :=
  digits.foldl (fun sum c => do
    let high ← sum
    let low ← digitValue? c
    if low < base then some (high * base + low) else none) (some 0)

end Inquiry.Text
