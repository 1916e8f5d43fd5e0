/-!
# Ordered multimaps

Lists of values under names, in the order in which the names were first added. What
makes two names one is a key that each operation is given.
-/

namespace DeclarativeHttp

abbrev Multimap (α : Type) := List (String × List α)

namespace Multimap

variable {α κ : Type} [DecidableEq κ] (key : String → κ)

/-- Adds values behind those of the name; a new name goes to the end. -/
def extend (name : String) (values : List α) : Multimap α → Multimap α
  | [] => [(name, values)]
  | (n, vs) :: r =>
    if key n = key name then (n, vs ++ values) :: r else (n, vs) :: extend name values r

def set (name : String) (values : List α) : Multimap α → Multimap α
  | [] => [(name, values)]
  | (n, vs) :: r => if key n = key name then (n, values) :: r else (n, vs) :: set name values r

def erase (name : String) : Multimap α → Multimap α
  | [] => []
  | (n, vs) :: r => if key n = key name then r else (n, vs) :: erase name r

def get? (name : String) : Multimap α → Option (List α)
  | [] => none
  | (n, vs) :: r => if key n = key name then some vs else get? name r

def contains (name : String) (m : Multimap α) : Bool := (get? key name m).isSome

end Multimap

end DeclarativeHttp
