import DeclarativeHttp.Contract.Rules

/-!
# The default dialect

Request lines, headers, bodies, parameters, and maps of queries and headers.
-/

namespace DeclarativeHttp.DefaultDialect

/-! ## Lines -/

def headerGroups : List String → Multimap String → Except Error (Multimap String)
  | [], groups => .ok groups
  | line :: lines, groups =>
    match Text.splitFirst ':' line.toList with
    | none =>
      .error (.configuration
        s!"Headers annotation value must be in the form 'Name: value': {line}")
    | some (name, value) =>
      headerGroups lines (groups.extend Text.caseKey (String.ofList (Text.trim name))
        [String.ofList (Text.trim value)])

def requestLine (line : String) (operation : String) : Except Error (Method × List Char) :=
  let line := Text.trim line.toList
  if line.isEmpty then
    .error (.configuration s!"RequestLine annotation was empty on method {operation}.")
  else
    let verb : Method := ⟨String.ofList (line.takeWhile Char.isUpper)⟩
    if Method.verbs.contains verb then .ok (verb, Text.trim (line.dropWhile Char.isUpper))
    else
      .error (.configuration
        s!"RequestLine annotation didn't start with an HTTP verb on method {operation}")

/-! ## Rules -/

/-- Headers of an interface replace those of its parent, name by name. -/
def interfaceHeaders (lines : List String) (i : Interface) (m : Metadata) :
    Except Error Metadata := do
  if lines.isEmpty then
    throw (.configuration s!"Headers annotation was empty on type {i.name}.")
  let groups ← headerGroups lines []
  return m.updateTemplate fun t =>
    groups.foldl (fun t (name, values) => (t.removeHeader name).header name values) t

def operationHeaders (lines : List String) (op : Operation) (m : Metadata) :
    Except Error Metadata := do
  if lines.isEmpty then
    throw (.configuration s!"Headers annotation was empty on method {op.name}.")
  let groups ← headerGroups lines []
  return m.updateTemplate fun t => groups.foldl (fun t (name, values) => t.header name values) t

def operationLine (line : String) (decodeSlash : Bool) (format : CollectionFormat)
    (op : Operation) (m : Metadata) : Except Error Metadata := do
  let (verb, uri) ← requestLine line op.name
  return m.updateTemplate fun t =>
    (((t.setMethod verb).appendUri uri).setDecodeSlash decodeSlash).setFormat format

def operationBody (text : String) (m : Metadata) : Metadata :=
  m.updateTemplate fun t =>
    if text.toList.contains '\x7b' then t.setBodyTemplate text.toList
    else t.setBody (Utf8.ofString text)

/-- A name that neither path, query nor header has is that of a form parameter. -/
def parameterName (name : String) (expander : Option Expander) (i : Nat) (m : Metadata) :
    Except Error Metadata :=
  if (Text.trim name.toList).isEmpty then
    .error (.configuration s!"Param annotation was empty on param {i}.")
  else
    let m := m.nameParam i name
    let m := match expander with
      | some e => m.setExpander i e
      | none => m
    .ok (if m.template.hasRequestPlaceholder name then m else m.addFormParam name)

def queryMap (encoded : Bool) (i : Nat) (m : Metadata) : Except Error Metadata :=
  if m.queryMapIndex.isSome then
    .error (.configuration "QueryMap annotation was present on multiple parameters.")
  else .ok (m.setQueryMapIndex i encoded)

def headerMap (i : Nat) (m : Metadata) : Except Error Metadata :=
  if m.headerMapIndex.isSome then
    .error (.configuration "HeaderMap annotation was present on multiple parameters.")
  else .ok (m.setHeaderMapIndex i)

def interfaceRule : InterfaceRule := fun a i =>
  match a with
  | .headers lines => some (interfaceHeaders lines i)
  | _ => none

def operationRule : OperationRule := fun a op =>
  match a with
  | .requestLine line decodeSlash format => some (operationLine line decodeSlash format op)
  | .body text => some fun m => .ok (operationBody text m)
  | .headers lines => some (operationHeaders lines op)
  | _ => none

def parameterRule : ParameterRule := fun a i =>
  match a with
  | .param name expander => some (parameterName name expander i)
  | .queryMap encoded => some (queryMap encoded i)
  | .headerMap => some (headerMap i)
  | _ => none

def table : RuleTable := ⟨"DefaultContract", [interfaceRule], [operationRule], [parameterRule]⟩

def dialect : Dialect := table.dialect

end DeclarativeHttp.DefaultDialect
