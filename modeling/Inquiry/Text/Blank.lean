set_option autoImplicit false

namespace Inquiry.Text

def inRanges (ranges : List (Nat × Nat)) (point : Nat) : Bool :=
  ranges.any fun range => range.1 ≤ point && point ≤ range.2

-- The code points with the property White_Space, as closed ranges, ascending and apart.
def blankRanges : List (Nat × Nat) :=
  [(0x09, 0x0D), (0x20, 0x20), (0x85, 0x85), (0xA0, 0xA0), (0x1680, 0x1680), (0x2000, 0x200A),
   (0x2028, 0x2029), (0x202F, 0x202F), (0x205F, 0x205F), (0x3000, 0x3000)]

def isBlank (c : Char) : Bool := inRanges blankRanges c.toNat

def words (separator : Char → Bool) : List Char → List (List Char)
  | [] => []
  | c :: rest =>
      if separator c then words separator rest
      else match rest.head?, words separator rest with
        | some next, word :: tail =>
            if separator next then [c] :: word :: tail else (c :: word) :: tail
        | _, tail => [c] :: tail

theorem words_nil (separator : Char → Bool) : words separator [] = [] := rfl

theorem words_separator (separator : Char → Bool) (c : Char) (rest : List Char)
    (h : separator c = true) : words separator (c :: rest) = words separator rest := by
  simp [words, h]

end Inquiry.Text
