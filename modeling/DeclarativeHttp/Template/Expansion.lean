import DeclarativeHttp.Template.Basic
import DeclarativeHttp.Text.Percent

/-!
# Expanding templates

Placeholders give way to the values of variables, escaped as the place demands. A
list of values is joined, or, in a query or a header, becomes as many values.
-/

namespace DeclarativeHttp

inductive Variable where
  | one (value : String)
  | many (values : List String)
  deriving DecidableEq, Repr

abbrev Variables := String → Option Variable

namespace Variables

def empty : Variables := fun _ => none

def insert (name : String) (v : Variable) (vars : Variables) : Variables :=
  fun n => if n = name then some v else vars n

def ofList (pairs : List (String × Variable)) : Variables :=
  pairs.foldl (fun vars p => vars.insert p.1 p.2) empty

/-- What a name stands for; an empty list is nothing. -/
def value? (vars : Variables) (name : String) : Option Variable :=
  match vars name with
  | some (.many []) => none
  | v => v

end Variables

inductive CollectionFormat where
  /-- One value for each element, where that is possible; else with commas. -/
  | exploded
  | csv
  | ssv
  | tsv
  | pipes
  deriving DecidableEq, Repr

def CollectionFormat.names : List (String × CollectionFormat) :=
  [("exploded", exploded), ("csv", csv), ("ssv", ssv), ("tsv", tsv), ("pipes", pipes)]

def CollectionFormat.separator : CollectionFormat → String
  | exploded | csv => ","
  | ssv => " "
  | tsv => "\t"
  | pipes => "|"

inductive Place where
  /-- In a path, where slashes may be kept. -/
  | path (keepSlash : Bool)
  | query
  /-- In headers and bodies nothing is escaped. -/
  | raw
  deriving DecidableEq, Repr

namespace Place

def pathSet : Percent.EscapeSet := fun c =>
  Percent.controls c || " \"#%<>?[\\]^`\x7b|\x7d".toList.contains c

def segmentSet : Percent.EscapeSet := fun c => pathSet c || c == '/'

def querySet : Percent.EscapeSet := fun c => pathSet c || "&=+/".toList.contains c

def encode : Place → List Char → List Char
  | .path true => Percent.encode pathSet
  | .path false => Percent.encode segmentSet
  | .query => Percent.encode querySet
  | .raw => id

end Place

namespace Template

def valueChars (place : Place) (format : CollectionFormat) : Variable → List Char
  | .one value => place.encode value.toList
  | .many values =>
    List.intercalate (place.encode format.separator.toList)
      (values.map fun v => place.encode v.toList)

def expandChunk (vars : Variables) (place : Place) (format : CollectionFormat) :
    Chunk → List Char
  | .literal text => text
  | .expression name =>
    match vars.value? name with
    | some v => valueChars place format v
    | none => []

def expand (t : Template) (vars : Variables) (place : Place) (format : CollectionFormat) :
    List Char :=
  t.chunks.flatMap (expandChunk vars place format)

def expandRaw (t : Template) (vars : Variables) : List Char := t.expand vars .raw .exploded

def isUnresolved (t : Template) (vars : Variables) : Bool :=
  !t.placeholders.isEmpty && t.placeholders.all fun n => (vars.value? n).isNone

/-- The list that a template consists of, where lists are taken apart. -/
def exploded? (t : Template) (vars : Variables) (format : CollectionFormat) :
    Option (List String) :=
  match t.chunks, format with
  | [.expression name], .exploded =>
    match vars name with
    | some (.many values) => some values
    | _ => none
  | _, _ => none

/-- The values of a query or header; there are none when no placeholder stands for
anything. -/
def expandValues (t : Template) (vars : Variables) (place : Place) (format : CollectionFormat) :
    List (List Char) :=
  match t.exploded? vars format with
  | some values => values.map fun v => place.encode v.toList
  | none => if t.isUnresolved vars then [] else [t.expand vars place format]

def unescapeBraces : List Char → List Char
  | '%' :: '7' :: 'B' :: r => '\x7b' :: unescapeBraces r
  | '%' :: '7' :: 'D' :: r => '\x7d' :: unescapeBraces r
  | c :: r => c :: unescapeBraces r
  | [] => []

def unescaped (t : Template) : Template :=
  ⟨t.chunks.map fun
    | .literal text => .literal (unescapeBraces text)
    | c => c⟩

end Template

end DeclarativeHttp
