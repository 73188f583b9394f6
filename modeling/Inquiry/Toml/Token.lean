import Inquiry.Toml.Quote

set_option autoImplicit false

namespace Inquiry.Toml

inductive Token where
  | word (cs : List Char)
  | text (s : String)
  | block (s : String)
  | equals
  | dot
  | comma
  | openBracket
  | closeBracket
  | openBrace
  | closeBrace
  | lineEnd
deriving DecidableEq, Repr

def isWordChar (c : Char) : Bool := c.isAlphanum || c = '_' || c = '-' || c = '+'

def mark? : Char → Option Token
  | '=' => some .equals
  | '.' => some .dot
  | ',' => some .comma
  | '[' => some .openBracket
  | ']' => some .closeBracket
  | '\x7b' => some .openBrace
  | '\x7d' => some .closeBrace
  | '\n' => some .lineEnd
  | _ => none

def quoted? (quote : Char) (rest : List Char) : Option (Token × List Char) :=
  if [quote, quote].isPrefixOf rest then do
    let (body, after) ← untilTriple quote (quote = '"') (dropFirstBreak (rest.drop 2))
    return (.block (← meaning quote body), after)
  else do
    let (body, after) ← untilQuote quote (quote = '"') rest
    return (.text (← meaning quote body), after)

theorem quoted_shorter (quote : Char) (rest after : List Char) (token : Token)
    (found : quoted? quote rest = some (token, after)) : after.length < rest.length := by
  unfold quoted? at found
  split at found
  · obtain ⟨inner, got, found⟩ := Option.bind_eq_some_iff.mp found
    obtain ⟨text, _, found⟩ := Option.bind_eq_some_iff.mp found
    obtain ⟨rfl, rfl⟩ := Prod.mk.inj (Option.some.inj found)
    have shorter := until_triple_shorter quote (quote = '"') _ inner.1 inner.2 got
    have bound := drop_first_break_bound (rest.drop 2)
    simp only [List.length_drop] at bound
    omega
  · obtain ⟨inner, got, found⟩ := Option.bind_eq_some_iff.mp found
    obtain ⟨text, _, found⟩ := Option.bind_eq_some_iff.mp found
    obtain ⟨rfl, rfl⟩ := Prod.mk.inj (Option.some.inj found)
    exact until_quote_shorter quote (quote = '"') rest inner.1 inner.2 got

def next? (c : Char) (rest : List Char) : Option (Option Token × List Char) :=
  if isSpace c || c = '\r' then some (none, rest)
  else if c = '#' then some (none, rest.dropWhile (· ≠ '\n'))
  else if c = '"' || c = '\'' then (quoted? c rest).map fun (token, after) => (some token, after)
  else if isWordChar c then
    some (some (.word (c :: rest.takeWhile isWordChar)), rest.dropWhile isWordChar)
  else (mark? c).map fun token => (some token, rest)

theorem next_bound (c : Char) (rest after : List Char) (token : Option Token)
    (found : next? c rest = some (token, after)) : after.length ≤ rest.length := by
  unfold next? at found
  split at found
  · obtain ⟨rfl, rfl⟩ := Prod.mk.inj (Option.some.inj found)
    exact Nat.le_refl _
  · split at found
    · obtain ⟨rfl, rfl⟩ := Prod.mk.inj (Option.some.inj found)
      exact (List.dropWhile_suffix _).length_le
    · split at found
      · obtain ⟨inner, got, same⟩ := Option.map_eq_some_iff.mp found
        obtain ⟨rfl, rfl⟩ := Prod.mk.inj same
        exact Nat.le_of_lt (quoted_shorter c rest inner.2 inner.1 got)
      · split at found
        · obtain ⟨rfl, rfl⟩ := Prod.mk.inj (Option.some.inj found)
          exact (List.dropWhile_suffix _).length_le
        · obtain ⟨inner, got, same⟩ := Option.map_eq_some_iff.mp found
          obtain ⟨rfl, rfl⟩ := Prod.mk.inj same
          exact Nat.le_refl _

def tokens : List Char → Option (List Token)
  | [] => some []
  | c :: rest =>
      match _found : next? c rest with
      | none => none
      | some (token, after) => (tokens after).map fun tail => token.toList ++ tail
termination_by cs => cs.length
decreasing_by
  have bound := next_bound c rest after token _found
  simp only [List.length_cons]
  omega

-- Control characters have no place in a document, except for tabs and the ends of lines, and a
-- carriage return only stands before a line feed.
def isClean : List Char → Bool
  | [] => true
  | '\r' :: rest => rest.head? = some '\n' && isClean rest
  | c :: rest => (c = '\t' || c = '\n' || (32 ≤ c.toNat && c.toNat ≠ 127)) && isClean rest

end Inquiry.Toml
