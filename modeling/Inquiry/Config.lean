import Inquiry.Condition.Compiler
import Inquiry.Text.Quoted
import Inquiry.Toml.Document

set_option autoImplicit false

namespace Inquiry

inductive Level where
  | error
  | warn
  | info
  | debug
  | trace
deriving DecidableEq, Repr

def Level.label : Level → String
  | error => "ERROR"
  | warn => "WARN"
  | info => "INFO"
  | debug => "DEBUG"
  | trace => "TRACE"

def Level.ofWord? : String → Option Level
  | "error" => some error
  | "warn" => some warn
  | "info" => some info
  | "debug" => some debug
  | "trace" => some trace
  | _ => none

def NullPolicy.ofWord? : String → Option NullPolicy
  | "ignore" => some ignore
  | "reject" => some reject
  | _ => none

structure Config where
  defaultAlias : String
  nullPolicy : NullPolicy
  showQuery : Bool
  logLevel : Level
  maxLength : Option Nat
deriving DecidableEq, Repr

namespace Config

def default : Config where
  defaultAlias := "_this"
  nullPolicy := .ignore
  showQuery := false
  logLevel := .debug
  maxLength := some 200

instance : Inhabited Config := ⟨default⟩

def withDefaultAlias (aliasName : String) (c : Config) : Config := { c with defaultAlias := aliasName }

def withNullPolicy (policy : NullPolicy) (c : Config) : Config := { c with nullPolicy := policy }

def withShowQuery (shown : Bool) (c : Config) : Config := { c with showQuery := shown }

def withLogLevel (level : Level) (c : Config) : Config := { c with logLevel := level }

def withMaxLength (bytes : Nat) (c : Config) : Config := { c with maxLength := some bytes }

def withoutMaxLength (c : Config) : Config := { c with maxLength := none }

def effectiveLevel (c : Config) : Level := if c.showQuery then .info else c.logLevel

inductive Fault where
  | notReadable
  | unknownSetting (name : String)
  | unusableItem (name : String)
  | badAlias (given : String)
deriving DecidableEq, Repr

def Fault.message : Fault → String
  | notReadable => "the document cannot be read"
  | unknownSetting name => s!"there is no setting {name}"
  | unusableItem name => s!"the item cannot be used for {name}"
  | badAlias given => s!"default_alias must be a non-empty identifier, got {Text.quoted given}"

-- One of a fixed set of words: as text, or as the name of an empty table or array.
def choice? : Toml.Item → Option String
  | .text word => some word
  | .table _ [(word, .table _ [])] => some word
  | .table _ [(word, .array [])] => some word
  | _ => none

def setting? (c : Config) (name : String) (item : Toml.Item) : Option Config :=
  match name, item with
  | "default_alias", .text aliasName => some (c.withDefaultAlias aliasName)
  | "null_policy", item => (choice? item >>= NullPolicy.ofWord?).map c.withNullPolicy
  | "show_query", .boolean b => some (c.withShowQuery b)
  | "log_level", item => (choice? item >>= Level.ofWord?).map c.withLogLevel
  | "max_logged_query_length", .integer n =>
      if 0 ≤ n ∧ n.toNat < UInt64.size then some (c.withMaxLength n.toNat) else none
  | _, _ => none

def settings : List String :=
  ["default_alias", "null_policy", "show_query", "log_level", "max_logged_query_length"]

def addSettings (c : Config) : Toml.Members → Except Fault Config
  | [] => .ok c
  | (name, item) :: rest =>
      match c.setting? name item with
      | some c => addSettings c rest
      | none => .error (if name ∈ settings then .unusableItem name else .unknownSetting name)

def isIdentifier (s : String) : Bool :=
  !s.isEmpty && s.toList.all fun c => c.isAlphanum || c = '_'

def checked (c : Config) : Except Fault Config :=
  if isIdentifier c.defaultAlias then .ok c else .error (.badAlias c.defaultAlias)

def ofDocument (text : String) : Except Fault Config :=
  match Toml.read? text with
  | none => .error .notReadable
  | some members => (addSettings default members).bind checked

def parse (text : String) : Outcome Config :=
  match ofDocument text with
  | .ok c => .ok c
  | .error fault => .error (.config fault.message)

def load (path : String) : Option String → Outcome Config
  | none => .error (.config
      s!"failed to read config file {path}: No such file or directory (os error 2)")
  | some text =>
      match ofDocument text with
      | .ok c => .ok c
      | .error fault => .error (.config s!"failed to parse config file {path}: {fault.message}")

end Config

end Inquiry
