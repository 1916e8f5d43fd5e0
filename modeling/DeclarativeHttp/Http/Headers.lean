import DeclarativeHttp.Multimap
import DeclarativeHttp.Text.Basic

/-!
# Request headers

An ordered multimap whose names are compared without regard to case. A name keeps
the spelling with which it was first added.
-/

namespace DeclarativeHttp

structure Headers where
  entries : Multimap String
  deriving DecidableEq, Repr

namespace Headers

def empty : Headers := ⟨[]⟩

/-- Adds values to a name, even none at all. -/
def extend (name : String) (values : List String) (h : Headers) : Headers :=
  ⟨h.entries.extend Text.caseKey name values⟩

def append (name value : String) (h : Headers) : Headers := h.extend name [value]

def insert (name : String) (values : List String) (h : Headers) : Headers :=
  ⟨h.entries.set Text.caseKey name values⟩

def erase (name : String) (h : Headers) : Headers := ⟨h.entries.erase Text.caseKey name⟩

def get? (name : String) (h : Headers) : Option (List String) := h.entries.get? Text.caseKey name

def remove (name : String) (h : Headers) : Option (List String) × Headers := (h.get? name, h.erase name)

def first? (name : String) (h : Headers) : Option String := (h.get? name).bind List.head?

def contains (name : String) (h : Headers) : Bool := h.entries.contains Text.caseKey name

end Headers

end DeclarativeHttp
