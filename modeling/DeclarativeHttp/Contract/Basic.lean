import DeclarativeHttp.Metadata

/-!
# Contracts

A contract reads the attributes of an interface. What all dialects share is the order
in which attributes are looked at and the rules for what a method may be: the dialect
says only what each attribute means.
-/

namespace DeclarativeHttp

/-- What attributes mean. `parameter` also tells whether the parameter is bound to the
request, so that it cannot be the body. -/
structure Dialect where
  interface : Interface → Metadata → Except Error Metadata
  operation : Attribute → Operation → Metadata → Except Error Metadata
  parameter : Parameter → Nat → Metadata → Except Error (Bool × Metadata)

namespace Dialect

/-! ## Rules for methods -/

def bodyWithForm (m : Metadata) : Error :=
  .configuration s!"Body parameters cannot be used with form parameters.{m.warningsText}"

/-- A body and form parameters exclude each other, whichever came first. -/
def checkBodyAndForm (m : Metadata) : Except Error Unit :=
  if m.bodyIndex.isSome && !m.formParams.isEmpty then .error (bodyWithForm m) else .ok ()

def unresolvedType? (op : Operation) : Option TypeRef :=
  (op.returns :: op.params.map Parameter.type).find? TypeRef.hasVariable

def checkResolved (i : Interface) (op : Operation) : Except Error Unit :=
  match unresolvedType? op with
  | some t => .error (.configuration s!"Unresolved type variable in {i.name}#{op.name}: {t.text}")
  | none => .ok ()

/-- The keys of a map of queries or headers are strings, as far as they are known. -/
def checkMapKeys (kind : String) (type : TypeRef) (mustBeMap : Bool) : Except Error Unit :=
  if !type.isMap then
    if mustBeMap then .error (.configuration s!"{kind} parameter must be a Map: {type.text}")
    else .ok ()
  else
    match type.mapKey? with
    | some (.named name args) =>
      if (TypeRef.named name args).isString then .ok ()
      else .error (.configuration s!"{kind} key must be a String: {(TypeRef.named name args).text}")
    | _ => .ok ()

def readParameter (d : Dialect) (p : Parameter) (i : Nat) (m : Metadata) :
    Except Error (Bool × Metadata) :=
  if p.attributes.isEmpty then .ok (false, m) else d.parameter p i m

/-- The place of a parameter whose attributes were read. What none of them binds is the body. -/
def assignParameter (bound : Bool) (p : Parameter) (i : Nat) (m : Metadata) :
    Except Error Metadata :=
  if p.type.isUri then .ok (m.setUrlIndex i)
  else if bound || p.type.isOptions then .ok m
  else if m.isProcessed i then (checkBodyAndForm m).map fun _ => m
  else if !m.formParams.isEmpty then .error (bodyWithForm m)
  else if m.bodyIndex.isSome then
    .error (.configuration s!"Method has too many Body parameters: {m.configKey}{m.warningsText}")
  else .ok (m.setBodyIndex i p.type)

def placeParameter (d : Dialect) (p : Parameter) (i : Nat) (m : Metadata) :
    Except Error Metadata := do
  let (bound, m) ← d.readParameter p i m
  assignParameter bound p i m

def placeParameters (d : Dialect) : Nat → List Parameter → Metadata → Except Error Metadata
  | _, [], m => .ok m
  | i, p :: ps, m => do placeParameters d (i + 1) ps (← d.placeParameter p i m)

def operationAttributes (d : Dialect) (op : Operation) :
    List Attribute → Metadata → Except Error Metadata
  | [], m => .ok m
  | a :: as, m => do operationAttributes d op as (← d.operation a op m)

def readAttributes (d : Dialect) (i : Interface) (op : Operation) : Except Error Metadata := do
  let m := Metadata.new (op.configKey i.name) op.name op.returns (op.params.map Parameter.type)
  let m ← match i.parents with
    | (parent, _) :: _ => d.interface parent m
    | [] => pure m
  let m ← d.interface i m
  d.operationAttributes op op.attributes m

def checkMaps (op : Operation) (m : Metadata) : Except Error Unit := do
  if let some p := m.headerMapIndex.bind (op.params[·]?) then checkMapKeys "HeaderMap" p.type true
  if let some p := m.queryMapIndex.bind (op.params[·]?) then checkMapKeys "QueryMap" p.type false

def parseOperation (d : Dialect) (i : Interface) (op : Operation) : Except Error Metadata := do
  let m ← d.readAttributes i op
  if m.ignored then return m
  if m.template.method.isNone then
    throw (.configuration
      s!"Method {op.name} not annotated with HTTP method type (ex. GET, POST){m.warningsText}")
  let m ← d.placeParameters 0 op.params m
  checkBodyAndForm m
  checkMaps op m
  return m

/-! ## Rules for interfaces -/

def allOperations (i : Interface) : Except Error (List Operation) := do
  if !i.typeParams.isEmpty then
    throw (.configuration s!"Parameterized types unsupported: {i.name}")
  match i.parents with
  | [] => return i.operations
  | _ :: _ :: _ => throw (.configuration s!"Only single inheritance supported: {i.name}")
  | [(parent, args)] =>
    if !parent.parents.isEmpty then
      throw (.configuration s!"Only single-level inheritance supported: {i.name}")
    if parent.typeParams.length != args.length then
      throw (.configuration (s!"{i.name} binds {args.length} type arguments but {parent.name}" ++
        s!" declares {parent.typeParams.length}"))
    let bindings := TypeRef.Bindings.ofLists parent.typeParams args
    return parent.operations.map (Operation.resolve bindings) ++ i.operations

def parseOperations (d : Dialect) (i : Interface) :
    List Metadata → List Operation → Except Error (List Metadata)
  | done, [] => .ok done
  | done, op :: ops => do
    checkResolved i op
    let m ← d.parseOperation i op
    if done.any fun n => n.configKey == m.configKey then
      throw (.configuration s!"Overrides unsupported: {m.configKey}")
    parseOperations d i (done ++ [m]) ops

def parse (d : Dialect) (i : Interface) : Except Error (List Metadata) := do
  let ops ← allOperations i
  d.parseOperations i [] (ops.filter fun op => op.kind == .abstract)

end Dialect

end DeclarativeHttp
