import Inquiry.Json

set_option autoImplicit false

namespace Inquiry

structure Page (α : Type) where
  page : UInt64
  max : UInt64
  total : UInt64
  totalPages : UInt64
  dataSize : Nat
  data : List α
deriving DecidableEq

namespace Page

variable {α β : Type}

def pagesFor (total max : UInt64) : UInt64 :=
  if max = 0 then 0 else if total % max = 0 then total / max else total / max + 1

def new (page max total : UInt64) (data : List α) : Page α :=
  ⟨page, max, total, pagesFor total max, data.length, data⟩

def map (f : α → β) (p : Page α) : Page β :=
  ⟨p.page, p.max, p.total, p.totalPages, p.dataSize, p.data.map f⟩

def isEmpty (p : Page α) : Bool := p.data.isEmpty

def hasNext (p : Page α) : Bool := p.page < p.totalPages

def hasPrevious (p : Page α) : Bool := 1 < p.page

def toJson (item : α → Json) (p : Page α) : Json :=
  .object [("page", .integer p.page.toNat), ("max", .integer p.max.toNat),
    ("total", .integer p.total.toNat), ("totalPages", .integer p.totalPages.toNat),
    ("dataSize", .integer p.dataSize), ("data", .array (p.data.map item))]

end Page

end Inquiry
