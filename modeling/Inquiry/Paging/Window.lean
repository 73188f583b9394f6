import Inquiry.Json
import Inquiry.Misuse

set_option autoImplicit false

namespace Inquiry

structure RowWindow where
  offset : UInt64
  limit : UInt64
deriving DecidableEq, Repr

namespace RowWindow

def apply {α : Type} (w : RowWindow) (rows : List α) : List α :=
  (rows.drop w.offset.toNat).take w.limit.toNat

def toJson (w : RowWindow) : Json :=
  .object [("offset", .integer w.offset.toNat), ("limit", .integer w.limit.toNat)]

end RowWindow

structure Paginator where
  window : Option RowWindow
  pageNumber : Option UInt64
deriving DecidableEq, Repr

namespace Paginator

def empty : Paginator := ⟨none, none⟩

def pageWindow (page size : UInt64) : Except Misuse RowWindow :=
  if page < 1 then .error (.pageBelowOne page)
  else if size < 1 then .error (.sizeBelowOne size)
  else if (page.toNat - 1) * size.toNat < UInt64.size then
    .ok ⟨UInt64.ofNat ((page.toNat - 1) * size.toNat), size⟩
  else .error .windowOverflow

def page (p : Paginator) : Option UInt64 → Option UInt64 → Except Misuse Paginator
  | some page, some size => (pageWindow page size).map fun w => ⟨some w, some page⟩
  | _, _ => .ok p

def limit (p : Paginator) : Option UInt64 → Option UInt64 → Paginator
  | some offset, some count => ⟨some ⟨offset, count⟩, none⟩
  | _, _ => p

def isPaged (p : Paginator) : Bool := p.pageNumber.isSome

def pageSize (p : Paginator) : Option UInt64 :=
  if p.isPaged then p.window.map RowWindow.limit else none

end Paginator

end Inquiry
