import Inquiry.Bindings

set_option autoImplicit false

namespace Inquiry

structure Entity where
  name : String
deriving DecidableEq, Repr

structure Aliased where
  entity : Entity
  aliasName : String
deriving DecidableEq, Repr

structure AliasMap where
  defaultAlias : String
  bound : Bindings String String

namespace AliasMap

def new (defaultAlias : String) : AliasMap := ⟨defaultAlias, .empty⟩

def bind (m : AliasMap) (entity : Entity) (aliasName : String) : AliasMap :=
  { m with bound := m.bound.insert entity.name aliasName }

def resolve (m : AliasMap) (entity : Entity) : String :=
  (m.bound.get? entity.name).getD m.defaultAlias

def isBoundAlias (m : AliasMap) (aliasName : String) : Bool :=
  m.bound.entries.any fun entry => entry.2 = aliasName

def clear (m : AliasMap) : AliasMap := { m with bound := .empty }

end AliasMap

end Inquiry
