import Inquiry.Decimal.Shortest

set_option autoImplicit false

namespace Inquiry.Decimal

structure Layout where
  -- The exponents of the leading digit that are written without an exponent; all when absent.
  positional : Option (Int × Int)
  wholeZero : Bool
  tie : Tie
  notANumber : String
  infinity : String
  negativeInfinity : String

def zeros (n : Nat) : List Char := List.replicate n '0'

def positionalText (layout : Layout) (d : Decimal) : List Char :=
  let size : Int := d.digits.length
  if d.point ≤ 0 then "0.".toList ++ zeros (-d.point).toNat ++ d.digits
  else if size ≤ d.point then
    d.digits ++ zeros (d.point - size).toNat ++ (if layout.wholeZero then ".0".toList else [])
  else d.digits.take d.point.toNat ++ '.' :: d.digits.drop d.point.toNat

def scientificText (d : Decimal) : List Char :=
  let exponent := d.point - 1
  let tail := d.digits.drop 1
  d.digits.take 1 ++ (if tail.isEmpty then [] else '.' :: tail) ++
    (if exponent < 0 then ['e', '-'] else ['e', '+']) ++ (toString exponent.natAbs).toList

def Layout.isPositional (layout : Layout) (d : Decimal) : Bool :=
  match layout.positional with
  | none => true
  | some (least, greatest) => least ≤ d.point - 1 && d.point - 1 ≤ greatest

def Layout.render (layout : Layout) (x : Float) : String :=
  let bits := x.toBits
  let negative := bits >>> 63 = 1
  let magnitude := bits &&& 0x7FFFFFFFFFFFFFFF
  if magnitude > 0x7FF0000000000000 then layout.notANumber
  else if magnitude = 0x7FF0000000000000 then
    (if negative then layout.negativeInfinity else layout.infinity)
  else
    let body :=
      if magnitude = 0 then '0' :: (if layout.wholeZero then ".0".toList else [])
      else
        let d := shortest (intervalOfBits magnitude) layout.tie
        if layout.isPositional d then positionalText layout d else scientificText d
    String.ofList (if negative then '-' :: body else body)

end Inquiry.Decimal
