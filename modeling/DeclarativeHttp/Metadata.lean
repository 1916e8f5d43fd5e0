import DeclarativeHttp.Interface.Basic
import DeclarativeHttp.Template.Request

/-!
# Method metadata

What a contract learned about one method: the skeleton of its request and the part
that each parameter plays in it.
-/

namespace DeclarativeHttp

abbrev IndexMap (α : Type) := List (Nat × α)

namespace IndexMap

variable {α : Type}

/-- Changes the value at an index; `none` means that there is none yet. -/
def alter (i : Nat) (f : Option α → α) : IndexMap α → IndexMap α
  | [] => [(i, f none)]
  | (j, a) :: r =>
    if i = j then (i, f (some a)) :: r
    else if i < j then (i, f none) :: (j, a) :: r
    else (j, a) :: alter i f r

def get? (i : Nat) (m : IndexMap α) : Option α := m.lookup i

def contains (i : Nat) (m : IndexMap α) : Bool := (get? i m).isSome

end IndexMap

structure Metadata where
  configKey : String
  methodName : String
  returnType : TypeRef
  paramTypes : List TypeRef
  template : RequestTemplate
  /-- The placeholders that each parameter fills. -/
  names : IndexMap (List String)
  expanders : IndexMap Expander
  /-- The parameter that is the body, with its type. -/
  bodyIndex : Option Nat
  bodyType : Option TypeRef
  formParams : List String
  urlIndex : Option Nat
  queryMapIndex : Option Nat
  queryMapEncoded : Bool
  headerMapIndex : Option Nat
  /-- An ignored method cannot be called. -/
  ignored : Bool
  ignoredParams : List Nat
  warnings : List String

namespace Metadata

def new (configKey methodName : String) (returnType : TypeRef) (paramTypes : List TypeRef) :
    Metadata :=
  { configKey, methodName, returnType, paramTypes, template := RequestTemplate.empty, names := [],
    expanders := [], bodyIndex := none, bodyType := none, formParams := [], urlIndex := none,
    queryMapIndex := none, queryMapEncoded := false, headerMapIndex := none, ignored := false,
    ignoredParams := [], warnings := [] }

def addOnce (name : String) (names : List String) : List String :=
  if names.contains name then names else names ++ [name]

def nameParam (i : Nat) (name : String) (m : Metadata) : Metadata :=
  { m with names := m.names.alter i fun names => addOnce name (names.getD []) }

def setExpander (i : Nat) (e : Expander) (m : Metadata) : Metadata :=
  { m with expanders := m.expanders.alter i fun _ => e }

def setBodyIndex (i : Nat) (type : TypeRef) (m : Metadata) : Metadata :=
  { m with bodyIndex := some i, bodyType := some type }

def addFormParam (name : String) (m : Metadata) : Metadata :=
  { m with formParams := addOnce name m.formParams }

def setUrlIndex (i : Nat) (m : Metadata) : Metadata := { m with urlIndex := some i }

def setQueryMapIndex (i : Nat) (encoded : Bool) (m : Metadata) : Metadata :=
  { m with queryMapIndex := some i, queryMapEncoded := encoded }

def setHeaderMapIndex (i : Nat) (m : Metadata) : Metadata := { m with headerMapIndex := some i }

def ignoreMethod (m : Metadata) : Metadata := { m with ignored := true }

def ignoreParam (i : Nat) (m : Metadata) : Metadata :=
  if m.ignoredParams.contains i then m else { m with ignoredParams := i :: m.ignoredParams }

def warn (text : String) (m : Metadata) : Metadata := { m with warnings := m.warnings ++ [text] }

def updateTemplate (f : RequestTemplate → RequestTemplate) (m : Metadata) : Metadata :=
  { m with template := f m.template }

def isIgnored (i : Nat) (m : Metadata) : Bool := m.ignoredParams.contains i

def isProcessed (i : Nat) (m : Metadata) : Bool :=
  m.names.contains i || m.isIgnored i || m.urlIndex == some i || m.queryMapIndex == some i ||
    m.headerMapIndex == some i || m.bodyIndex == some i

def warningsText (m : Metadata) : String :=
  if m.warnings.isEmpty then "" else "\nWarnings:\n- " ++ "\n- ".intercalate m.warnings

end Metadata

end DeclarativeHttp
