set_option autoImplicit false

namespace Inquiry.Text

def byteSize : List Char → Nat
  | [] => 0
  | c :: rest => c.utf8Size + byteSize rest

def splitBytes? : Nat → List Char → Option (List Char × List Char)
  | 0, cs => some ([], cs)
  | _ + 1, [] => none
  | n + 1, c :: rest =>
      if c.utf8Size ≤ n + 1 then
        (splitBytes? (n + 1 - c.utf8Size) rest).map fun (before, after) => (c :: before, after)
      else none

def slice? (start stop : Nat) (cs : List Char) : Option (List Char) :=
  (splitBytes? start cs).bind fun (_, after) =>
    (splitBytes? (stop - start) after).map fun (inside, _) => inside

def find? (pattern : List Char) : List Char → Option Nat
  | [] => if pattern.isEmpty then some 0 else none
  | c :: rest =>
      if pattern.isPrefixOf (c :: rest) then some 0
      else (find? pattern rest).map fun position => c.utf8Size + position

def replaceFirst? (pattern replacement : List Char) : List Char → Option (List Char)
  | [] => if pattern.isEmpty then some replacement else none
  | c :: rest =>
      if pattern.isPrefixOf (c :: rest) then some (replacement ++ (c :: rest).drop pattern.length)
      else (replaceFirst? pattern replacement rest).map fun tail => c :: tail

theorem byte_size_append (a b : List Char) : byteSize (a ++ b) = byteSize a + byteSize b := by
  induction a with
  | nil => simp [byteSize]
  | cons c rest ih => simp [byteSize, ih, Nat.add_assoc]

end Inquiry.Text
