import Inquiry.Builder.State

set_option autoImplicit false

namespace Inquiry

def Connective.apply : Connective → Bool → Bool → Bool
  | and => Bool.and
  | or => Bool.or

namespace Chain

inductive Token where
  | operand (text : String) (value : Bool)
  | connective (c : Connective)

def Token.text : Token → String
  | operand text _ => text
  | connective c => c.text

def text (tokens : List Token) : String := String.join (tokens.map Token.text)

inductive ReadsConjunction : List Token → Bool → Prop
  | operand (text : String) (value : Bool) : ReadsConjunction [.operand text value] value
  | and (left : List Token) (u : Bool) (text : String) (value : Bool)
      (before : ReadsConjunction left u) :
      ReadsConjunction (left ++ [.connective .and, .operand text value]) (u && value)

inductive Reads : List Token → Bool → Prop
  | conjunction (tokens : List Token) (value : Bool) (only : ReadsConjunction tokens value) :
      Reads tokens value
  | or (left right : List Token) (u v : Bool) (first : ReadsConjunction left u)
      (rest : Reads right v) : Reads (left ++ .connective .or :: right) (u || v)

structure Link where
  connective : Connective
  text : String
  value : Bool

def Link.tokens (l : Link) : List Token := [.connective l.connective, .operand l.text l.value]

def tokens (first : Link) (rest : List Link) : List Token :=
  .operand first.text first.value :: rest.flatMap Link.tokens

end Chain

end Inquiry
