import Inquiry.Toml.Item
import Inquiry.Toml.Token

/-
Reading TOML documents of texts, whole numbers, truth values, arrays and tables. Fractions, times
and headers of table lists are refused.
-/

set_option autoImplicit false

namespace Inquiry.Toml

def digits? (base : Nat) : List Char → Option (List Char)
  | [] => none
  | [c] => if (Text.number? base [c]).isSome then some [c] else none
  | c :: '_' :: rest =>
      if (Text.number? base [c]).isSome then (digits? base rest).map fun tail => c :: tail else none
  | c :: rest =>
      if (Text.number? base [c]).isSome then (digits? base rest).map fun tail => c :: tail else none

def natural? (base : Nat) (cs : List Char) : Option Nat :=
  (digits? base cs).bind (Text.number? base)

def decimal? (cs : List Char) : Option Nat :=
  if cs.head? = some '0' && cs.length ≠ 1 then none else natural? 10 cs

def integer? : List Char → Option Int
  | '0' :: 'x' :: rest => (natural? 16 rest).map Int.ofNat
  | '0' :: 'o' :: rest => (natural? 8 rest).map Int.ofNat
  | '0' :: 'b' :: rest => (natural? 2 rest).map Int.ofNat
  | '+' :: rest => (decimal? rest).map Int.ofNat
  | '-' :: rest => (decimal? rest).map fun n => -Int.ofNat n
  | cs => (decimal? cs).map Int.ofNat

def word? (cs : List Char) : Option Item :=
  if cs = "true".toList then some (.boolean true)
  else if cs = "false".toList then some (.boolean false)
  else (integer? cs).map .integer

def name? : Token → Option String
  | .word cs => if cs.contains '+' then none else some (String.ofList cs)
  | .text s => some s
  | _ => none

def path? : List Token → Option (List String × List Token)
  | token :: .dot :: rest => do
      let name ← name? token
      let (names, rest) ← path? rest
      return (name :: names, rest)
  | token :: rest => (name? token).map fun name => ([name], rest)
  | [] => none

def skipLines : List Token → List Token := List.dropWhile (· = .lineEnd)

mutual
def item? : Nat → List Token → Option (Item × List Token)
  | _, .text s :: rest => some (.text s, rest)
  | _, .block s :: rest => some (.text s, rest)
  | _, .word cs :: rest => (word? cs).map fun item => (item, rest)
  | depth + 1, .openBracket :: rest =>
      (items? depth (skipLines rest)).map fun (items, rest) => (.array items, rest)
  | depth + 1, .openBrace :: rest =>
      (members? depth [] (skipLines rest)).map fun (members, rest) => (.table .inline members, rest)
  | _, _ => none
def items? : Nat → List Token → Option (List Item × List Token)
  | _, .closeBracket :: rest => some ([], rest)
  | depth + 1, tokens => do
      let (item, rest) ← item? depth tokens
      match skipLines rest with
      | .comma :: rest =>
          (items? depth (skipLines rest)).map fun (items, rest) => (item :: items, rest)
      | .closeBracket :: rest => some ([item], rest)
      | _ => none
  | 0, _ => none
-- Between braces the ends of lines count as blanks, also around the sign that follows a key.
def members? : Nat → Members → List Token → Option (Members × List Token)
  | _, members, .closeBrace :: rest => some (members, rest)
  | depth + 1, members, tokens => do
      let (path, rest) ← path? tokens
      match skipLines rest with
      | .equals :: rest =>
          let (item, rest) ← item? depth (skipLines rest)
          let members ← members.set path item
          match skipLines rest with
          | .comma :: rest => members? depth members (skipLines rest)
          | .closeBrace :: rest => some (members, rest)
          | _ => none
      | _ => none
  | 0, _, _ => none
end

inductive Statement where
  | setting (path : List String) (item : Item)
  | header (path : List String)

def lineEnd? : List Token → Option (List Token)
  | [] => some []
  | .lineEnd :: rest => some rest
  | _ => none

def statement? (depth : Nat) : List Token → Option (Option Statement × List Token)
  | [] => some (none, [])
  | .lineEnd :: rest => some (none, rest)
  | .openBracket :: rest => do
      let (path, rest) ← path? rest
      match rest with
      | .closeBracket :: rest => (lineEnd? rest).map fun rest => (some (.header path), rest)
      | _ => none
  | tokens => do
      let (path, rest) ← path? tokens
      match rest with
      | .equals :: rest =>
          let (item, rest) ← item? depth rest
          (lineEnd? rest).map fun rest => (some (.setting path item), rest)
      | _ => none

def statementsWithin : Nat → List Token → Option (List Statement)
  | _, [] => some []
  | 0, _ => none
  | bound + 1, tokens => do
      let (statement, rest) ← statement? bound tokens
      (statementsWithin bound rest).map fun tail => statement.toList ++ tail

-- A line takes at least one token and an item goes at most two deeper with each of its own, so that
-- twice the number of tokens bounds both.
def statements (tokens : List Token) : Option (List Statement) :=
  statementsWithin (2 * tokens.length + 2) tokens

def assemble : List String → Members → List Statement → Option Members
  | _, members, [] => some members
  | here, members, .setting path item :: rest => do
      assemble here (← members.within here (Members.set path item)) rest
  | _, members, .header path :: rest => do
      assemble path (← members.openTable path) rest

def dropByteOrderMark : List Char → List Char
  | '\uFEFF' :: rest => rest
  | cs => cs

def read? (text : String) : Option Members := do
  let cs := dropByteOrderMark text.toList
  if isClean cs then assemble [] [] (← statements (← tokens cs)) else none

end Inquiry.Toml
