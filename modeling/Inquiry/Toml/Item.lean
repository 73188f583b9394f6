set_option autoImplicit false

namespace Inquiry.Toml

inductive Origin where
  | inline
  | dotted
  | header
  -- On the way to a table with a header, and without one so far.
  | implied
deriving DecidableEq, Repr

inductive Item where
  | text (s : String)
  | integer (n : Int)
  | boolean (b : Bool)
  | array (items : List Item)
  | table (origin : Origin) (members : List (String × Item))

instance : Inhabited Item := ⟨.array []⟩

abbrev Members := List (String × Item)

namespace Members

def alter (name : String) (change : Option Item → Option Item) : Members → Option Members
  | [] => (change none).map fun item => [(name, item)]
  | (other, held) :: rest =>
      if other = name then (change (some held)).map fun item => (name, item) :: rest
      else (alter name change rest).map fun rest => (other, held) :: rest

def set : List String → Item → Members → Option Members
  | [], _, _ => none
  | [name], item, members =>
      members.alter name fun
        | none => some item
        | some _ => none
  | name :: path, item, members =>
      members.alter name fun
        | none => (set path item []).map (.table .dotted)
        | some (.table .dotted inner) => (set path item inner).map (.table .dotted)
        | some _ => none

def openTable : List String → Members → Option Members
  | [], _ => none
  | [name], members =>
      members.alter name fun
        | none => some (.table .header [])
        | some (.table .implied inner) => some (.table .header inner)
        | some _ => none
  | name :: path, members =>
      members.alter name fun
        | none => (openTable path []).map (.table .implied)
        | some (.table .inline _) => none
        | some (.table origin inner) => (openTable path inner).map (.table origin)
        | some _ => none

def within : List String → (Members → Option Members) → Members → Option Members
  | [], change, members => change members
  | name :: path, change, members =>
      members.alter name fun
        | some (.table origin inner) => (within path change inner).map (.table origin)
        | _ => none

end Members

end Inquiry.Toml
