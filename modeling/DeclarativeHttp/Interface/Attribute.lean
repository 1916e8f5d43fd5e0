import DeclarativeHttp.Json.Printer
import DeclarativeHttp.Template.Expansion

/-!
# Attributes

What interfaces, methods and parameters are marked with. The default dialect knows
six attributes; any other is a name with a text.
-/

namespace DeclarativeHttp

namespace Json

/-- The value as it stands in a URL: strings bare, `null` as nothing, all else as JSON. -/
def plainText : Json → String
  | .str s => s
  | .null => ""
  | v => v.text

end Json

structure Expander where
  expand : Json → String

inductive Attribute where
  | requestLine (line : String) (decodeSlash : Bool) (format : CollectionFormat)
  | headers (lines : List String)
  | body (text : String)
  | param (name : String) (expander : Option Expander)
  | queryMap (encoded : Bool)
  | headerMap
  | other (name : String) (text : String)

namespace Attribute

def name : Attribute → String
  | requestLine .. => "RequestLine"
  | headers _ => "Headers"
  | body _ => "Body"
  | param .. => "Param"
  | queryMap _ => "QueryMap"
  | headerMap => "HeaderMap"
  | other name _ => name

def text : Attribute → String
  | requestLine line _ _ => line
  | headers lines => "\n".intercalate lines
  | body text => text
  | param name _ => name
  | other _ text => text
  | queryMap _ | headerMap => ""

end Attribute

end DeclarativeHttp
