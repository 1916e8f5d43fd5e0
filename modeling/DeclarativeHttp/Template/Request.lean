import DeclarativeHttp.Error
import DeclarativeHttp.Http.Request
import DeclarativeHttp.Template.Expansion
import DeclarativeHttp.Url.Parser

/-!
# Request templates

A request with placeholders in its path, queries, headers and body. It is filled in
step by step, resolved once against the values of a call, and then made a request.
-/

namespace DeclarativeHttp

inductive Payload where
  | none
  | literal (bytes : Bytes)
  | template (t : Template)
  deriving DecidableEq, Repr

structure RequestTemplate where
  method : Option Method
  /-- Scheme and authority, perhaps with a path, which the path is appended to. -/
  target : Option (List Char)
  uri : Template
  queries : Multimap Template
  headers : Multimap Template
  payload : Payload
  /-- Are slashes in the values of a path kept? -/
  decodeSlash : Bool
  format : CollectionFormat
  resolved : Bool
  deriving DecidableEq, Repr

namespace RequestTemplate

def empty : RequestTemplate :=
  ⟨none, none, Template.empty, [], [], .none, true, .exploded, false⟩

/-! ## What a template holds -/

def path (t : RequestTemplate) : List Char := t.uri.chars

def queryPieces (t : RequestTemplate) : List (List Char) :=
  t.queries.flatMap fun (name, values) =>
    if values.isEmpty then [name.toList]
    else values.map fun v => name.toList ++ '=' :: v.chars

def queryLine (t : RequestTemplate) : List Char := List.intercalate ['&'] t.queryPieces

/-- Target, path and query line; an empty query line leaves no question mark. -/
def url (t : RequestTemplate) : List Char :=
  t.target.getD [] ++ t.path ++
    (if t.queryLine.isEmpty then [] else '?' :: t.queryLine)

def queryTexts (t : RequestTemplate) : List (String × List String) :=
  t.queries.map fun (name, values) => (name, values.map Template.text)

def headerTexts (t : RequestTemplate) : Headers :=
  t.headers.foldl (fun h (name, values) => h.extend name (values.map Template.text)) Headers.empty

def body? (t : RequestTemplate) : Option Bytes :=
  match t.payload with
  | .literal bytes => some bytes
  | _ => none

def bodyTemplate? (t : RequestTemplate) : Option Template :=
  match t.payload with
  | .template b => some b
  | _ => none

def requestParts (t : RequestTemplate) : List Template :=
  t.uri :: (t.queries ++ t.headers).flatMap Prod.snd

def hasRequestPlaceholder (name : String) (t : RequestTemplate) : Bool :=
  t.requestParts.any fun p => p.placeholders.contains name

def distinct : List String → List String → List String
  | seen, [] => seen
  | seen, n :: r => distinct (if seen.contains n then seen else seen ++ [n]) r

def placeholders (t : RequestTemplate) : List String :=
  distinct [] ((t.requestParts ++ t.bodyTemplate?.toList).flatMap Template.placeholders)

/-! ## Filling in -/

def setMethod (m : Method) (t : RequestTemplate) : RequestTemplate := { t with method := some m }

def addQueryLine (line : List Char) (t : RequestTemplate) : RequestTemplate :=
  { t with queries :=
      ((line.splitOn '&').filter (!·.isEmpty)).foldl (fun qs piece =>
        match Text.splitFirst '=' piece with
        | some (name, value) => qs.extend id (String.ofList name) [Template.parse value]
        | none => qs.extend id (String.ofList piece) []) t.queries }

def absolute? (uri : List Char) : Option (List Char × List Char) :=
  match "http://".toList.isPrefixOf? uri with
  | some r => some ("http://".toList, r)
  | none => ("https://".toList.isPrefixOf? uri).map ("https://".toList, ·)

def isAbsolute (uri : List Char) : Bool := (absolute? uri).isSome

def splitBase (uri : List Char) : Option (List Char) × List Char :=
  match absolute? uri with
  | some (scheme, r) =>
    let inAuthority (c : Char) := c != '/' && c != '?'
    (some (scheme ++ r.takeWhile inAuthority), r.dropWhile inAuthority)
  | none => (none, uri)

def splitQuery (uri : List Char) : List Char × Option (List Char) :=
  match Text.splitFirst '?' uri with
  | some (path, query) => (path, some query)
  | none => (uri, none)

/-- Adds to the path. A query is taken off, and so is the base of an absolute URI when
there is no path yet. -/
def appendUri (uri : List Char) (t : RequestTemplate) : RequestTemplate :=
  let (base, rest) := if t.uri.isEmpty then splitBase uri else (none, uri)
  let (path, query) := splitQuery rest
  let t := { t with target := base.orElse fun _ => t.target
                    uri := Template.parse (t.uri.chars ++ path) }
  match query with
  | some q => t.addQueryLine q
  | none => t

def setUri (uri : List Char) (t : RequestTemplate) : RequestTemplate :=
  { t with uri := Template.empty }.appendUri uri

def dropFinalSlash (s : List Char) : List Char :=
  if s.getLast? = some '/' then s.dropLast else s

/-- Sets what the path is appended to. Its query joins the others. -/
def setTarget (target : List Char) (t : RequestTemplate) : RequestTemplate :=
  let (base, query) := splitQuery target
  let base := dropFinalSlash base
  let t := { t with target := if base.isEmpty then none else some base }
  match query with
  | some q => t.addQueryLine q
  | none => t

def removeQuery (name : String) (t : RequestTemplate) : RequestTemplate :=
  { t with queries := t.queries.erase id name }

/-- Adds values to a query; none at all removes it. -/
def query (name : String) (values : List String) (t : RequestTemplate) : RequestTemplate :=
  if values.isEmpty then t.removeQuery name
  else { t with queries := t.queries.extend id name (values.map Template.ofString) }

def removeHeader (name : String) (t : RequestTemplate) : RequestTemplate :=
  { t with headers := t.headers.erase Text.caseKey name }

def header (name : String) (values : List String) (t : RequestTemplate) : RequestTemplate :=
  if values.isEmpty then t.removeHeader name
  else { t with headers := t.headers.extend Text.caseKey name (values.map Template.ofString) }

def setBody (bytes : Bytes) (t : RequestTemplate) : RequestTemplate :=
  { t with payload := .literal bytes }

def setBodyTemplate (text : List Char) (t : RequestTemplate) : RequestTemplate :=
  { t with payload := .template (Template.parse text) }

def setDecodeSlash (keep : Bool) (t : RequestTemplate) : RequestTemplate :=
  { t with decodeSlash := keep }

def setFormat (format : CollectionFormat) (t : RequestTemplate) : RequestTemplate :=
  { t with format := format }

/-! ## Resolution -/

/-- The values of parameters. One without values is kept; one that loses all is dropped. -/
def resolveParams (vars : Variables) (place : Place) (format : CollectionFormat)
    (params : Multimap Template) : Multimap Template :=
  params.filterMap fun (name, values) =>
    if values.isEmpty then some (name, values)
    else
      let texts := values.flatMap fun t => t.expandValues vars place format
      let resolved := texts.map Template.literal
      if resolved.isEmpty then none else some (name, resolved)

/-- The template with every placeholder replaced. Values are text from then on, whatever
braces they hold. -/
def resolve (vars : Variables) (t : RequestTemplate) : RequestTemplate :=
  { t with
    uri := Template.literal (t.uri.expand vars (.path t.decodeSlash) t.format)
    queries := resolveParams vars .query t.format t.queries
    headers := resolveParams vars .raw t.format t.headers
    payload := match t.payload with
      | .template b => .literal (Utf8.encode (b.unescaped.expandRaw vars))
      | p => p
    resolved := true }

/-! ## The request -/

def request (t : RequestTemplate) : Except Error Request :=
  match t.method with
  | none => .error (.configuration s!"no HTTP method set for {String.ofList t.url}")
  | some m =>
    match Url.parseChars t.url with
    | .ok url => .ok ⟨m, url, t.headerTexts, t.body?⟩
    | .error e => .error (.invalidUrl e)

end RequestTemplate

end DeclarativeHttp
