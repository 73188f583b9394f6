import Inquiry.Value

set_option autoImplicit false

namespace Inquiry

inductive Piece where
  | word (text : String)
  | placeholder (index : Nat) (value : Value)

namespace Piece

def text : Piece → String
  | word s => s
  | placeholder index _ => "?" ++ toString index

def isBlank : Piece → Bool
  | word s => s.isEmpty
  | placeholder _ _ => false

def binding? : Piece → Option (Nat × Value)
  | word _ => none
  | placeholder index value => some (index, value)

end Piece

abbrev Fragment := List Piece

namespace Fragment

def text (f : Fragment) : String := String.join (f.map Piece.text)

def isBlank (f : Fragment) : Bool := f.all Piece.isBlank

def bindings (f : Fragment) : List (Nat × Value) := f.filterMap Piece.binding?

def join (separator : String) (fs : List Fragment) : Fragment :=
  List.intercalate [.word separator] fs

def bindFrom (index : Nat) : List Value → List Fragment
  | [] => []
  | v :: rest => [.placeholder index v] :: bindFrom (index + 1) rest

theorem bindings_append (f g : Fragment) : bindings (f ++ g) = bindings f ++ bindings g := by
  simp [bindings]

theorem bindings_word (s : String) (f : Fragment) : bindings (.word s :: f) = bindings f := rfl

end Fragment

end Inquiry
