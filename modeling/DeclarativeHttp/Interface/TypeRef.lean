import DeclarativeHttp.Text.Basic

/-!
# Types of an interface

The types that methods take and give, as far as their names tell. The type of a
parameter decides how its argument is used.
-/

namespace DeclarativeHttp

inductive TypeRef where
  | named (name : String) (args : List TypeRef)
  | var (name : String)
  | wildcard
  deriving BEq, Repr, Inhabited

namespace TypeRef

def simple (name : String) : TypeRef := .named name []

def void : TypeRef := simple "Void"

def rawName : TypeRef → String
  | named name _ => name
  | var name => name
  | wildcard => "?"

def args : TypeRef → List TypeRef
  | named _ args => args
  | _ => []

def isNamed (raw : String) : TypeRef → Bool
  | named name _ => name == raw
  | _ => false

def isString (t : TypeRef) : Bool := t.isNamed "String"
def isUri (t : TypeRef) : Bool := t.isNamed "Uri"
def isOptions (t : TypeRef) : Bool := t.isNamed "Options"
def isVoid (t : TypeRef) : Bool := t.isNamed "Void"
def isBytes (t : TypeRef) : Bool := t.isNamed "Bytes"
def isResponse (t : TypeRef) : Bool := t.isNamed "Response"
def isOptional (t : TypeRef) : Bool := t.isNamed "Optional"

def isMap (t : TypeRef) : Bool := ["Map", "HashMap", "BTreeMap"].any (t.isNamed ·)

def isCollection (t : TypeRef) : Bool :=
  ["List", "Vec", "Set", "HashSet", "BTreeSet"].contains t.rawName

def mapKey? (t : TypeRef) : Option TypeRef := if t.isMap then t.args.head? else none

mutual

def text : TypeRef → String
  | named name [] => name
  | named name (a :: r) => name ++ "<" ++ ", ".intercalate (texts (a :: r)) ++ ">"
  | var name => name
  | wildcard => "?"

def texts : List TypeRef → List String
  | [] => []
  | t :: r => t.text :: texts r

end

abbrev Bindings := String → Option TypeRef

mutual

/-- Puts types in place of variables, all at once and at every depth. -/
def resolve (bindings : Bindings) : TypeRef → TypeRef
  | named name args => named name (resolveAll bindings args)
  | var name => (bindings name).getD (var name)
  | wildcard => wildcard

def resolveAll (bindings : Bindings) : List TypeRef → List TypeRef
  | [] => []
  | t :: r => t.resolve bindings :: resolveAll bindings r

end

mutual

def hasVariable : TypeRef → Bool
  | named _ args => anyVariable args
  | var _ => true
  | wildcard => false

def anyVariable : List TypeRef → Bool
  | [] => false
  | t :: r => t.hasVariable || anyVariable r

end

/-- Of two arguments for one parameter the later counts. -/
def Bindings.ofLists : List String → List TypeRef → Bindings
  | p :: ps, a :: as => fun name =>
    match Bindings.ofLists ps as name with
    | some t => some t
    | none => if name = p then some a else none
  | _, _ => fun _ => none

end TypeRef

end DeclarativeHttp
