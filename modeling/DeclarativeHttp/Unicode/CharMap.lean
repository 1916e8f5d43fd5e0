import DeclarativeHttp.Unicode.CharSet

/-!
# Maps of characters

A map gives some characters a text that stands for them. A table of one is written in lines of
items: `D8-DE:F8` takes `D8` to `F8`, `D9` to `F9` and so on, `100-12E/2:101` every second
character only, `132:69+6A` one character to two, and an item without a colon goes on with the
character after the last one. Each line begins with an item that has a colon.
-/

namespace DeclarativeHttp

/-- The characters of a range that stand `step` apart. The first becomes `target`; the others
become the same moved on by as much as they stand behind it. -/
structure CharRule where
  range : CodeRange
  step : Nat
  target : List Nat
  deriving DecidableEq, Repr

namespace CharRule

def covers (r : CharRule) (n : Nat) : Bool :=
  r.range.contains n && (n - r.range.first) % r.step == 0

def apply (r : CharRule) (n : Nat) : List Char :=
  r.target.map fun m => Char.ofNat (m + (n - r.range.first))

def targetOfText (s : List Char) : List Nat := (s.splitOn '+').map hexNumber

/-- The rule of an item; one without a colon is for the character `next`. -/
def ofText (next : Nat) (s : List Char) : CharRule :=
  match Text.splitFirst ':' s with
  | none => ⟨⟨next, next⟩, 1, targetOfText s⟩
  | some (head, target) =>
    match Text.splitFirst '/' head with
    | none => ⟨CodeRange.ofText head, 1, targetOfText target⟩
    | some (range, step) => ⟨CodeRange.ofText range, hexNumber step, targetOfText target⟩

def ofItems : Nat → List (List Char) → List CharRule
  | _, [] => []
  | next, s :: items =>
    let r := ofText next s
    r :: ofItems (r.range.last + 1) items

end CharRule

structure CharMap where
  rules : List CharRule
  deriving DecidableEq, Repr

namespace CharMap

def lookup (m : CharMap) (c : Char) : Option (List Char) :=
  (m.rules.find? (·.covers c.toNat)).map (·.apply c.toNat)

def preimage? (m : CharMap) (s : List Char) : Option Char :=
  (m.rules.find? fun r => r.target == s.map Char.toNat).map fun r => Char.ofNat r.range.first

def ofLines (lines : List String) : CharMap :=
  ⟨lines.flatMap fun l => CharRule.ofItems 0 (l.toList.splitOn ' ')⟩

end CharMap

end DeclarativeHttp
