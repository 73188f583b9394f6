import Inquiry.Builder.State

set_option autoImplicit false

namespace Inquiry

namespace Summary

def record (name : String) (fields : List (String × String)) : String :=
  name ++ " \x7b " ++ String.intercalate ", " (fields.map fun (field, text) => field ++ ": " ++ text)
    ++ " \x7d"

def optional {α : Type} (text : α → String) : Option α → String
  | none => "None"
  | some a => "Some(" ++ text a ++ ")"

def ofBool (b : Bool) : String := if b then "true" else "false"

def ofList {α : Type} (text : α → String) (items : List α) : String :=
  "[" ++ String.intercalate ", " (items.map text) ++ "]"

def ofEntity (e : Entity) : String := record "EntityRef" [("name", Text.quoted e.name)]

def ofAliased (a : Aliased) : String :=
  record "AliasedEntity" [("entity", ofEntity a.entity), ("alias", Text.quoted a.aliasName)]

def ofJoin (j : Join) : String :=
  record "JoinSpec" [("entity", ofAliased j.target), ("column", Text.quoted j.column)]

def ofProjection : Projection → String
  | .entity => "Entity"
  | .columns names => "Columns(" ++ ofList Text.quoted names ++ ")"

def ofWindow (w : RowWindow) : String :=
  record "RowWindow" [("offset", toString w.offset.toNat), ("limit", toString w.limit.toNat)]

end Summary

open Summary

def Builder.summary (b : Builder) : String :=
  record "QueryBuilder" [
    ("mode", optional Mode.name b.mode),
    ("projection", ofProjection b.projection),
    ("distinct", ofBool b.distinct),
    ("from", optional ofAliased b.source),
    ("join", optional ofJoin b.join),
    ("raw", optional Text.quoted b.raw),
    ("segments", toString b.segments.length),
    ("window", optional ofWindow b.paginator.window),
    ("build_error", optional (fun m => Text.quoted (Misuse.message m)) b.misuse)]

end Inquiry
