import Inquiry.Run.Executor

set_option autoImplicit false

namespace Inquiry

structure Script where
  columns : List String
  rows : List (List Value)
  counts : Option (List (List Value))
  affected : UInt64
  failure : Option String
  failAt : Nat
  counting : Bool

structure ScriptedStore where
  script : Script
  statements : List Statement
  snapshots : Nat

namespace ScriptedStore

def new (script : Script) : ScriptedStore := ⟨script, [], 0⟩

def receive (s : Statement) (store : ScriptedStore) : Outcome Unit × ScriptedStore :=
  let after := { store with statements := store.statements ++ [s] }
  match store.script.failure with
  | some text =>
      if store.script.failAt ≤ store.statements.length then (.error (.store text), after)
      else (.ok (), after)
  | none => (.ok (), after)

-- The store reads a statement for nothing but to tell whether it counts.
def isCount (text : String) : Bool := (Text.find? "count(".toList text.toList).isSome

def countRows (script : Script) : List Row :=
  (script.counts.getD [[.int (Int64.ofNat script.rows.length)]]).map fun values => ⟨["count"], values⟩

def answer (script : Script) (s : Statement) : List Row :=
  if isCount s.text then countRows script
  else
    let rows := script.rows.map fun values => ⟨script.columns, values⟩
    match s.window with
    | some w => w.apply rows
    | none => rows

def query (s : Statement) (store : ScriptedStore) : Outcome (List Row) × ScriptedStore :=
  let (outcome, after) := store.receive s
  (outcome.map fun _ => answer store.script s, after)

def execute (s : Statement) (store : ScriptedStore) : Outcome UInt64 × ScriptedStore :=
  let (outcome, after) := store.receive s
  (outcome.map fun _ => store.script.affected, after)

def enter (store : ScriptedStore) : ScriptedStore :=
  if store.script.counting then { store with snapshots := store.snapshots + 1 } else store

def executor : Executor ScriptedStore where
  query := query
  execute := execute
  snapshot := fun action session => action { session with store := session.store.enter }

end ScriptedStore

end Inquiry
