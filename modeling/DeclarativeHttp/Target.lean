import DeclarativeHttp.Interface.Basic
import DeclarativeHttp.Template.Request

/-!
# Targets

Where the requests of an interface go. A template whose URL is absolute is left as it
is; any other is put behind the base URL, if there is one.
-/

namespace DeclarativeHttp

inductive Target where
  /-- A base URL under a name. -/
  | fixed (interface : Interface) (name url : String)
  /-- No base URL: each call brings its own. -/
  | unbound (interface : Interface)

namespace Target

def interface : Target → Interface
  | fixed interface _ _ => interface
  | unbound interface => interface

def name : Target → String
  | fixed _ name _ => name
  | unbound interface => s!"empty:{interface.name}"

def url : Target → String
  | fixed _ _ url => url
  | unbound _ => ""

def place (t : Target) (r : RequestTemplate) : Except Error RequestTemplate :=
  if RequestTemplate.isAbsolute r.url then .ok r
  else
    match t with
    | fixed _ _ url => .ok (r.setTarget url.toList)
    | unbound _ =>
      .error (.invalidArgument
        s!"Request with non-absolute URL not supported with empty target: {String.ofList r.url}")

def apply (t : Target) (r : RequestTemplate) : Except Error Request := do
  (← t.place r).request

end Target

end DeclarativeHttp
