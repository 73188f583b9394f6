import Inquiry.Text.Digits

set_option autoImplicit false

namespace Inquiry.Toml

def scalar? (digits : List Char) : Option Char :=
  (Text.number? 16 digits).bind fun n => if n.isValidChar then some (Char.ofNat n) else none

def shortEscape? : Char → Option Char
  | 'b' => some '\x08'
  | 't' => some '\t'
  | 'n' => some '\n'
  | 'f' => some '\x0c'
  | 'r' => some '\r'
  | 'e' => some '\x1b'
  | '"' => some '"'
  | '\\' => some '\\'
  | _ => none

def isSpace (c : Char) : Bool := c = ' ' || c = '\t'

def isFolded (c : Char) : Bool := isSpace c || c = '\n' || c = '\r'

def atLineEnd : List Char → Bool
  | '\n' :: _ => true
  | '\r' :: '\n' :: _ => true
  | _ => false

-- A backslash at the end of a line leaves out everything up to the next character that is no blank.
def unescape (cs : List Char) : Option (List Char) :=
  match cs with
  | [] => some []
  | ['\\'] => none
  | '\\' :: 'x' :: a :: b :: rest => do
      let c ← scalar? [a, b]
      return c :: (← unescape rest)
  | '\\' :: 'u' :: a :: b :: c :: d :: rest => do
      let c ← scalar? [a, b, c, d]
      return c :: (← unescape rest)
  | '\\' :: 'U' :: a :: b :: c :: d :: e :: f :: g :: h :: rest => do
      let c ← scalar? [a, b, c, d, e, f, g, h]
      return c :: (← unescape rest)
  | '\\' :: c :: rest =>
      match shortEscape? c with
      | some plain => (unescape rest).map fun tail => plain :: tail
      | none =>
          if isFolded c && atLineEnd ((c :: rest).dropWhile isSpace) then
            unescape (rest.dropWhile isFolded)
          else none
  | c :: rest => (unescape rest).map fun tail => c :: tail
termination_by cs.length
decreasing_by
  all_goals try (have bound := (List.dropWhile_suffix isFolded (l := rest)).length_le)
  all_goals simp only [List.length_cons]
  all_goals omega

def untilQuote (quote : Char) (escapes : Bool) : List Char → Option (List Char × List Char)
  | [] => none
  | '\\' :: c :: rest =>
      if escapes then
        if c = '\n' then none
        else (untilQuote quote escapes rest).map fun (body, after) => ('\\' :: c :: body, after)
      else (untilQuote quote escapes (c :: rest)).map fun (body, after) => ('\\' :: body, after)
  | c :: rest =>
      if c = quote then some ([], rest)
      else if c = '\n' then none
      else (untilQuote quote escapes rest).map fun (body, after) => (c :: body, after)

-- One or two more quotes right before the closing ones belong to the text.
def untilTriple (quote : Char) (escapes : Bool) : List Char → Option (List Char × List Char)
  | [] => none
  | '\\' :: c :: rest =>
      if escapes then
        (untilTriple quote escapes rest).map fun (body, after) => ('\\' :: c :: body, after)
      else (untilTriple quote escapes (c :: rest)).map fun (body, after) => ('\\' :: body, after)
  | c :: rest =>
      if (List.replicate 3 quote).isPrefixOf (c :: rest) then
        let inside := ((rest.drop 2).take 2).takeWhile (· = quote)
        some (inside, rest.drop (2 + inside.length))
      else (untilTriple quote escapes rest).map fun (body, after) => (c :: body, after)

theorem until_quote_shorter (quote : Char) (escapes : Bool) (cs body after : List Char)
    (found : untilQuote quote escapes cs = some (body, after)) : after.length < cs.length := by
  fun_induction untilQuote quote escapes cs generalizing body after with
  | case1 => simp at found
  | case2 => simp at found
  | case3 c rest _ _ ih =>
      obtain ⟨inner, got, same⟩ := Option.map_eq_some_iff.mp found
      obtain ⟨rfl, rfl⟩ := Prod.mk.inj same
      have bound := ih inner.1 inner.2 got
      simp only [List.length_cons]
      omega
  | case4 c rest _ ih =>
      obtain ⟨inner, got, same⟩ := Option.map_eq_some_iff.mp found
      obtain ⟨rfl, rfl⟩ := Prod.mk.inj same
      have bound := ih inner.1 inner.2 got
      simp only [List.length_cons] at bound ⊢
      omega
  | case5 => simp_all
  | case6 => simp at found
  | case7 c rest _ _ _ ih =>
      obtain ⟨inner, got, same⟩ := Option.map_eq_some_iff.mp found
      obtain ⟨rfl, rfl⟩ := Prod.mk.inj same
      have bound := ih inner.1 inner.2 got
      simp only [List.length_cons]
      omega

theorem until_triple_shorter (quote : Char) (escapes : Bool) (cs body after : List Char)
    (found : untilTriple quote escapes cs = some (body, after)) : after.length < cs.length := by
  fun_induction untilTriple quote escapes cs generalizing body after with
  | case1 => simp at found
  | case2 c rest _ ih =>
      obtain ⟨inner, got, same⟩ := Option.map_eq_some_iff.mp found
      obtain ⟨rfl, rfl⟩ := Prod.mk.inj same
      have bound := ih inner.1 inner.2 got
      simp only [List.length_cons]
      omega
  | case3 c rest _ ih =>
      obtain ⟨inner, got, same⟩ := Option.map_eq_some_iff.mp found
      obtain ⟨rfl, rfl⟩ := Prod.mk.inj same
      have bound := ih inner.1 inner.2 got
      simp only [List.length_cons] at bound ⊢
      omega
  | case4 c rest _ _ inside =>
      obtain ⟨rfl, rfl⟩ := Prod.mk.inj (Option.some.inj found)
      simp only [List.length_drop, List.length_cons]
      omega
  | case5 c rest _ _ ih =>
      obtain ⟨inner, got, same⟩ := Option.map_eq_some_iff.mp found
      obtain ⟨rfl, rfl⟩ := Prod.mk.inj same
      have bound := ih inner.1 inner.2 got
      simp only [List.length_cons]
      omega

def dropFirstBreak : List Char → List Char
  | '\n' :: rest => rest
  | '\r' :: '\n' :: rest => rest
  | cs => cs

theorem drop_first_break_bound (cs : List Char) : (dropFirstBreak cs).length ≤ cs.length := by
  unfold dropFirstBreak
  split
  · simp only [List.length_cons]
    omega
  · simp only [List.length_cons]
    omega
  · exact Nat.le_refl _

def meaning (quote : Char) (body : List Char) : Option String :=
  (if quote = '"' then unescape body else some body).map String.ofList

end Inquiry.Toml
