import DeclarativeHttp.Interface.Attribute
import DeclarativeHttp.Interface.TypeRef

/-!
# Interfaces

An interface is described by its methods, each with parameters, types and attributes.
It may extend another one and bind the type parameters of that.
-/

namespace DeclarativeHttp

structure Parameter where
  name : Option String
  type : TypeRef
  attributes : List Attribute

inductive MethodKind where
  | abstract
  | default
  | static
  | identity
  deriving DecidableEq, Repr

def MethodKind.names : List (String × MethodKind) :=
  [("abstract", abstract), ("default", default), ("static", static), ("identity", identity)]

/-- A method of an interface. Only the abstract ones become requests. -/
structure Operation where
  name : String
  kind : MethodKind
  attributes : List Attribute
  params : List Parameter
  returns : TypeRef

inductive Interface where
  | mk (name : String) (typeParams : List String) (parents : List (Interface × List TypeRef))
    (attributes : List Attribute) (operations : List Operation)

namespace Interface

def name : Interface → String
  | mk name _ _ _ _ => name

def typeParams : Interface → List String
  | mk _ typeParams _ _ _ => typeParams

def parents : Interface → List (Interface × List TypeRef)
  | mk _ _ parents _ _ => parents

def attributes : Interface → List Attribute
  | mk _ _ _ attributes _ => attributes

def operations : Interface → List Operation
  | mk _ _ _ _ operations => operations

end Interface

namespace Operation

def resolve (bindings : TypeRef.Bindings) (m : Operation) : Operation :=
  { m with returns := m.returns.resolve bindings
           params := m.params.map fun p => { p with type := p.type.resolve bindings } }

def configKey (interface : String) (m : Operation) : String :=
  let types := ",".intercalate (m.params.map fun p => p.type.rawName)
  s!"{interface}#{m.name}({types})"

end Operation

end DeclarativeHttp
