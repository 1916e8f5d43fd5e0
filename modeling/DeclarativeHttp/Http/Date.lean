import DeclarativeHttp.Text.Basic

/-!
# Dates of HTTP

The three forms in which a date may stand in a header. A date counts only when it is
a day of the calendar, from 1970 on, and has the right day of the week.
-/

namespace DeclarativeHttp

structure HttpDate where
  year : Nat
  month : Nat
  day : Nat
  hour : Nat
  minute : Nat
  second : Nat
  /-- Monday is 1 and Sunday is 7. -/
  weekday : Nat
  deriving DecidableEq, Repr

namespace HttpDate

/-! ## Calendar -/

def isLeap (y : Nat) : Bool := (y % 4 == 0 && y % 100 != 0) || y % 400 == 0

def monthLengths (y : Nat) : List Nat :=
  [31, if isLeap y then 29 else 28, 31, 30, 31, 30, 31, 31, 30, 31, 30, 31]

def daysBeforeYear (y : Nat) : Nat :=
  let p := y - 1
  365 * (y - 1970) + (p / 4 - p / 100 + p / 400) - (1969 / 4 - 1969 / 100 + 1969 / 400)

def days (d : HttpDate) : Nat :=
  daysBeforeYear d.year + ((monthLengths d.year).take (d.month - 1)).foldl (· + ·) 0 + (d.day - 1)

def seconds (d : HttpDate) : Nat := d.days * 86400 + d.hour * 3600 + d.minute * 60 + d.second

/-- The first of January 1970 was a Thursday. -/
def weekdayOf (d : HttpDate) : Nat := (d.days + 3) % 7 + 1

def isReal (d : HttpDate) : Bool :=
  1970 ≤ d.year && d.year ≤ 9999 && 1 ≤ d.month && d.month ≤ 12 && 1 ≤ d.day &&
    d.day ≤ (monthLengths d.year).getD (d.month - 1) 0 && d.hour < 24 && d.minute < 60 &&
    d.second < 60 && d.weekday == d.weekdayOf

/-! ## Forms -/

def months : List String :=
  ["Jan", "Feb", "Mar", "Apr", "May", "Jun", "Jul", "Aug", "Sep", "Oct", "Nov", "Dec"]

def weekdays : List String :=
  ["Monday", "Tuesday", "Wednesday", "Thursday", "Friday", "Saturday", "Sunday"]

def wordIndex? (words : List (List Char)) (s : List Char) : Option (Nat × List Char) :=
  match words with
  | [] => none
  | w :: ws =>
    match w.isPrefixOf? s with
    | some r => some (1, r)
    | none => (wordIndex? ws s).map fun (i, r) => (i + 1, r)

def month? (s : List Char) : Option (Nat × List Char) := wordIndex? (months.map String.toList) s

def shortWeekday? (s : List Char) : Option (Nat × List Char) :=
  wordIndex? (weekdays.map fun w => w.toList.take 3) s

def digits? : Nat → Nat → List Char → Option (Nat × List Char)
  | 0, acc, s => some (acc, s)
  | _ + 1, _, [] => none
  | n + 1, acc, c :: r => if c.isDigit then digits? n (acc * 10 + (c.toNat - 0x30)) r else none

def literal? (t : String) (s : List Char) : Option (List Char) := t.toList.isPrefixOf? s

def time? (s : List Char) : Option ((Nat × Nat × Nat) × List Char) := do
  let (h, s) ← digits? 2 0 s
  let s ← literal? ":" s
  let (m, s) ← digits? 2 0 s
  let s ← literal? ":" s
  let (sec, s) ← digits? 2 0 s
  return ((h, m, sec), s)

def atEnd (d : HttpDate) (s : List Char) : Option HttpDate := if s.isEmpty then some d else none

/-- As in `Sun, 06 Nov 1994 08:49:37 GMT`. -/
def fixed? (s : List Char) : Option HttpDate := do
  let (w, s) ← shortWeekday? s
  let s ← literal? ", " s
  let (d, s) ← digits? 2 0 s
  let s ← literal? " " s
  let (mon, s) ← month? s
  let s ← literal? " " s
  let (y, s) ← digits? 4 0 s
  let s ← literal? " " s
  let ((h, m, sec), s) ← time? s
  let s ← literal? " GMT" s
  atEnd ⟨y, mon, d, h, m, sec, w⟩ s

/-- As in `Sunday, 06-Nov-94 08:49:37 GMT`; years below 70 are those of 2000. Any one
character may stand before the time. -/
def dashed? (s : List Char) : Option HttpDate := do
  let (w, s) ← wordIndex? (weekdays.map String.toList) s
  let s ← literal? ", " s
  let (d, s) ← digits? 2 0 s
  let s ← literal? "-" s
  let (mon, s) ← month? s
  let s ← literal? "-" s
  let (y, s) ← digits? 2 0 s
  let ((h, m, sec), s) ← time? (s.drop 1)
  let s ← literal? " GMT" s
  atEnd ⟨if y < 70 then y + 2000 else y + 1900, mon, d, h, m, sec, w⟩ s

/-- As in `Sun Nov  6 08:49:37 1994`. -/
def plain? (s : List Char) : Option HttpDate := do
  let (w, s) ← shortWeekday? s
  let s ← literal? " " s
  let (mon, s) ← month? s
  let s ← literal? " " s
  let (d, s) ← match s with
    | ' ' :: r => digits? 1 0 r
    | r => digits? 2 0 r
  let s ← literal? " " s
  let ((h, m, sec), s) ← time? s
  let s ← literal? " " s
  let (y, s) ← digits? 4 0 s
  atEnd ⟨y, mon, d, h, m, sec, w⟩ s

def parse? (s : List Char) : Option HttpDate :=
  match (fixed? s).orElse fun _ => (dashed? s).orElse fun _ => plain? s with
  | some d => if d.isReal then some d else none
  | none => none

end HttpDate

end DeclarativeHttp
