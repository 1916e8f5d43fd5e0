import DeclarativeHttp.Number.Binary

/-!
# JSON values

The members of an object are kept in the order of their names, one for each name.
-/

namespace DeclarativeHttp

/-- A number: an integer of 64 bits keeps its exact value, any other is binary64.
`negative n` is `-n`. -/
inductive Json.Number where
  | natural (n : Nat)
  | negative (n : Nat)
  | binary (x : Binary)
  deriving DecidableEq, Repr

inductive Json where
  | null
  | bool (b : Bool)
  | num (n : Json.Number)
  | str (s : String)
  | arr (items : List Json)
  | obj (members : List (String × Json))
  deriving BEq, Repr, Inhabited

namespace Json

def Number.round (f : BinaryFormat) : Number → Option Binary
  | natural n => f.round false n 1
  | negative n => f.round true n 1
  | binary x => x.round f

abbrev Members := List (String × Json)

def Members.insert (name : String) (value : Json) : Members → Members
  | [] => [(name, value)]
  | (n, v) :: r =>
    if name = n then (name, value) :: r
    else if name < n then (name, value) :: (n, v) :: r
    else (n, v) :: Members.insert name value r

/-- The object of some members; of two with one name the later stays. -/
def object (members : List (String × Json)) : Json :=
  .obj (members.foldl (fun ms (n, v) => Members.insert n v ms) [])

def get? (name : String) : Json → Option Json
  | .obj ms => ms.lookup name
  | _ => none

def nat (n : Nat) : Json := .num (.natural n)

def int (n : Int) : Json := if n < 0 then .num (.negative n.natAbs) else nat n.natAbs

def strs (ss : List String) : Json := .arr (ss.map .str)

def isNull : Json → Bool
  | .null => true
  | _ => false

end Json

end DeclarativeHttp
