import Inquiry.Text.Digits

set_option autoImplicit false

namespace Inquiry

structure Uuid where
  bits : BitVec 128
deriving DecidableEq, Repr

namespace Uuid

def ofSimple? (cs : List Char) : Option Uuid :=
  if cs.length = 32 then (Text.number? 16 cs).map fun n => ⟨BitVec.ofNat 128 n⟩ else none

def ofHyphenated? (cs : List Char) : Option Uuid :=
  if cs.length = 36 && [8, 13, 18, 23].all (fun i => cs[i]? = some '-') then
    ofSimple? (cs.take 8 ++ (cs.drop 9).take 4 ++ (cs.drop 14).take 4 ++ (cs.drop 19).take 4 ++
      cs.drop 24)
  else none

def ofBraced? (cs : List Char) : Option Uuid :=
  if cs.head? = some '\x7b' && cs.getLast? = some '\x7d' then ofHyphenated? ((cs.drop 1).dropLast)
  else none

def ofUrn? (cs : List Char) : Option Uuid :=
  if (cs.take 9).map Char.toLower = "urn:uuid:".toList then ofHyphenated? (cs.drop 9) else none

def parse? (text : String) : Option Uuid :=
  let cs := text.toList
  (ofSimple? cs).or ((ofHyphenated? cs).or ((ofBraced? cs).or (ofUrn? cs)))

def text (u : Uuid) : String :=
  let digits := Nat.toDigits 16 u.bits.toNat
  let all := List.replicate (32 - digits.length) '0' ++ digits
  String.ofList (all.take 8 ++ '-' :: (all.drop 8).take 4 ++ '-' :: (all.drop 12).take 4 ++
    '-' :: (all.drop 16).take 4 ++ '-' :: all.drop 20)

end Uuid

end Inquiry
