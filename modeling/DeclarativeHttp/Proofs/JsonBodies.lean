import DeclarativeHttp.Proofs.Patterns

/-!
# JSON bodies

The braces of a JSON document open no placeholders: behind one stands a name in quotes, or nothing
up to its closing brace. So the only placeholders in the text of a document are those that its
strings hold (`json_body`). The documents are those of the JSON grammar, as they are written.
-/

namespace DeclarativeHttp

/-! ## The grammar -/

namespace JsonText

structure Space where
  chars : List Char
  blank : ∀ c ∈ chars, c = ' ' ∨ c = '\t' ∨ c = '\n' ∨ c = '\r'

def IsDigits (s : List Char) : Prop := s ≠ [] ∧ ∀ c ∈ s, c.isDigit = true

def IsWhole (s : List Char) : Prop := s = ['0'] ∨ IsDigits s ∧ s.head? ≠ some '0'

def IsFraction (s : List Char) : Prop := s = [] ∨ ∃ digits, IsDigits digits ∧ s = '.' :: digits

def IsExponent (s : List Char) : Prop :=
  s = [] ∨ ∃ e sign digits, e ∈ ['e', 'E'] ∧ sign ∈ [[], ['+'], ['-']] ∧ IsDigits digits ∧
    s = e :: sign ++ digits

inductive IsScalar : List Char → Prop where
  | null : IsScalar ['n', 'u', 'l', 'l']
  | true : IsScalar ['t', 'r', 'u', 'e']
  | false : IsScalar ['f', 'a', 'l', 's', 'e']
  | number {sign whole fraction exponent : List Char} (hsign : sign ∈ [[], ['-']])
    (hwhole : IsWhole whole)
    (hfraction : IsFraction fraction) (hexponent : IsExponent exponent) :
    IsScalar (sign ++ whole ++ fraction ++ exponent)

def isPlain (c : Char) : Bool := 0x20 ≤ c.toNat && c != '"' && c != '\\'

/-- What may stand between the quotes of a string. -/
inductive IsContent : List Char → Prop where
  | nil : IsContent []
  | plain {c : Char} {s : List Char} (hc : isPlain c = true) (hs : IsContent s) : IsContent (c :: s)
  | escape {c : Char} {s : List Char} (hc : c ∈ ['"', '\\', '/', 'b', 'f', 'n', 'r', 't'])
    (hs : IsContent s) :
    IsContent ('\\' :: c :: s)
  | unicode {digits s : List Char} (hlength : digits.length = 4)
    (hdigits : ∀ c ∈ digits, (Percent.hexValue? c.toNat).isSome = true) (hs : IsContent s) :
    IsContent ('\\' :: 'u' :: digits ++ s)

theorem IsContent.of_plain {s : List Char} (h : s.all isPlain = true) : IsContent s := by
  induction s with
  | nil => exact .nil
  | cons c s ih =>
    rw [List.all_cons, Bool.and_eq_true] at h
    exact .plain h.1 (ih h.2)

/-- A string, with the name of the placeholder that
is put into it in place of its content, if any is. -/
structure Literal where
  content : List Char
  wellFormed : IsContent content
  name? : Option {name : List Char // Template.isName name = true}

namespace Literal

def names (l : Literal) : List String := l.name?.toList.map fun n => String.ofList n.1

def filled (l : Literal) : List Char :=
  match l.name? with
  | some n => '\x7b' :: n.1 ++ ['\x7d']
  | none => l.content

end Literal

inductive Part where
  | value | item | member
  /-- Parts of a kind with commas between them; there is always one. -/
  | list (p : Part)

inductive Tree : Part → Type where
  | scalar (text : List Char) (wellFormed : IsScalar text) : Tree .value
  | string (l : Literal) : Tree .value
  | emptyArray (space : Space) : Tree .value
  | array (items : Tree (.list .item)) : Tree .value
  | emptyObject (space : Space) : Tree .value
  | object (members : Tree (.list .member)) : Tree .value
  | item (before : Space) (value : Tree .value) (after : Space) : Tree .item
  | member (before : Space) (key : Literal) (colon inner : Space) (value : Tree .value)
    (after : Space) : Tree .member
  | last {p : Part} (d : Tree p) : Tree (.list p)
  | more {p : Part} (d : Tree p) (rest : Tree (.list p)) : Tree (.list p)

namespace Tree

/-- The text of a part whose strings have the given texts between their quotes. -/
def write (f : Literal → List Char) : {p : Part} → Tree p → List Char
  | _, scalar text _ => text
  | _, string l => '"' :: f l ++ ['"']
  | _, emptyArray space => '[' :: space.chars ++ [']']
  | _, array items => '[' :: items.write f ++ [']']
  | _, emptyObject space => '\x7b' :: space.chars ++ ['\x7d']
  | _, object members => '\x7b' :: members.write f ++ ['\x7d']
  | _, item before value after => before.chars ++ value.write f ++ after.chars
  | _, member before key colon inner value after =>
    before.chars ++ '"' :: f key ++ '"' :: colon.chars ++ ':' :: inner.chars ++ value.write f ++ after.chars
  | _, last d => d.write f
  | _, more d rest => d.write f ++ ',' :: rest.write f

/-- Strings and keys from left to right. -/
def literals : {p : Part} → Tree p → List Literal
  | _, scalar _ _ | _, emptyArray _ | _, emptyObject _ => []
  | _, string l => [l]
  | _, array items => items.literals
  | _, object members => members.literals
  | _, item _ value _ => value.literals
  | _, member _ key _ _ value _ => key :: value.literals
  | _, last d => d.literals
  | _, more d rest => d.literals ++ rest.literals

end Tree

structure Document where
  before : Space
  value : Tree .value
  after : Space

namespace Document

def write (f : Literal → List Char) (d : Document) : List Char :=
  d.before.chars ++ d.value.write f ++ d.after.chars

def text (d : Document) : List Char := d.write Literal.content

def filled (d : Document) : List Char := d.write Literal.filled

def literals (d : Document) : List Literal := d.value.literals

def names (d : Document) : List String := d.literals.flatMap Literal.names

end Document

end JsonText

/-! ## Braces -/

namespace JsonText.Space

variable (space : Space)

theorem not_mem {c : Char} (hc : c ≠ ' ' ∧ c ≠ '\t' ∧ c ≠ '\n' ∧ c ≠ '\r') : c ∉ space.chars := by
  intro h
  rcases space.blank c h with rfl | rfl | rfl | rfl <;> simp at hc

theorem trim_eq : Text.trim space.chars = [] := by
  have hblank : ∀ c ∈ space.chars, Text.isBlank c = true := by
    intro c hc
    rcases space.blank c hc with rfl | rfl | rfl | rfl <;> decide
  have hstart : Text.trimStart space.chars = [] := List.dropWhile_eq_nil_iff.mpr hblank
  rw [Text.trim, hstart]
  rfl

/-- The brace of an empty object is none of a placeholder. -/
theorem placeholder?_close (rest : List Char) :
    Template.placeholder? (space.chars ++ '\x7d' :: rest) = none := by
  have hcolon : space.chars.takeWhile (· != ':') = space.chars :=
    Text.takeWhile_ne_of_not_mem (space.not_mem (by decide))
  rw [Template.placeholder?_eq_none (space.not_mem (by decide)), Template.expressionName?_eq,
    hcolon, trim_eq]
  rfl

theorem placeholder?_quote (rest : List Char) :
    Template.placeholder? (space.chars ++ '"' :: rest) = none := by
  have hclose : '\x7d' ∉ space.chars ++ ['"'] := by simpa using space.not_mem (by decide)
  have hcolon : ∀ c ∈ space.chars ++ ['"'], (c != ':') = true := by
    intro c hc
    have hne : c ≠ ':' := by
      rintro rfl
      rw [List.mem_append] at hc
      exact hc.elim (space.not_mem (by decide)) (by decide)
    simpa using hne
  rw [List.append_cons]
  unfold Template.placeholder?
  rw [Text.splitFirst_append_left hclose]
  cases Text.splitFirst '\x7d' rest with
  | none => rfl
  | some q =>
    have hquote : '"' ∈ (space.chars ++ ['"'] ++ q.1).takeWhile (· != ':') := by
      rw [List.takeWhile_append_of_pos hcolon]
      simp
    simp only [Option.map_some, Template.expressionName?_eq_none hquote (by decide) (by decide),
      Option.map_none]

end JsonText.Space

namespace JsonText

theorem IsDigits.not_mem {s : List Char} (h : IsDigits s) : '\x7b' ∉ s := by
  intro hmem
  exact absurd (h.2 _ hmem) (by decide)

theorem IsWhole.not_mem {s : List Char} (h : IsWhole s) : '\x7b' ∉ s := by
  rcases h with rfl | ⟨hdigits, -⟩
  · decide
  · exact hdigits.not_mem

theorem IsFraction.not_mem {s : List Char} (h : IsFraction s) : '\x7b' ∉ s := by
  rcases h with rfl | ⟨digits, hdigits, rfl⟩
  · exact List.not_mem_nil
  · simpa using hdigits.not_mem

theorem IsExponent.not_mem {s : List Char} (h : IsExponent s) : '\x7b' ∉ s := by
  rcases h with rfl | ⟨e, sign, digits, he, hsign, hdigits, rfl⟩
  · exact List.not_mem_nil
  · have he : '\x7b' ≠ e := by
      rintro rfl
      revert he
      decide
    have hclear : ∀ sign ∈ [[], ['+'], ['-']], '\x7b' ∉ sign := by decide
    simp [he, hclear sign hsign, hdigits.not_mem]

theorem IsScalar.not_mem {s : List Char} (h : IsScalar s) : '\x7b' ∉ s := by
  cases h with
  | null | true | false => decide
  | number hsign hwhole hfraction hexponent =>
    simp only [List.mem_cons, List.not_mem_nil, or_false] at hsign
    rcases hsign with rfl | rfl <;> simp [hwhole.not_mem, hfraction.not_mem, hexponent.not_mem]

open Template (parse placeholder? placeholders_cons placeholders_brace placeholders_parse_append)

theorem Space.placeholders_append (space : Space) (s : List Char) :
    (parse (space.chars ++ s)).placeholders = (parse s).placeholders :=
  placeholders_parse_append (space.not_mem (by decide)) s

namespace Tree

variable {p : Part} {f : Literal → List Char} {g : Literal → List String}

theorem placeholder?_members (d : Tree (.list .member)) (rest : List Char) :
    placeholder? (d.write f ++ rest) = none := by
  have hmember : ∀ (m : Tree .member) rest, placeholder? (m.write f ++ rest) = none := by
    intro m rest
    cases m with
    | member before =>
      simp only [write, List.append_assoc, List.cons_append]
      exact before.placeholder?_quote _
  cases d with
  | last m => exact hmember m rest
  | more m more =>
    rw [write, List.append_assoc]
    exact hmember m _

/-- The placeholders of a part are those of its strings,
if none of them depends on what comes behind it. -/
theorem placeholders_write (d : Tree p)
    (hf : ∀ l ∈ d.literals, ∀ rest, (parse (f l ++ rest)).placeholders = g l ++ (parse rest).placeholders)
    (rest : List Char) :
    (parse (d.write f ++ rest)).placeholders = d.literals.flatMap g ++ (parse rest).placeholders := by
  induction d generalizing rest with
  | scalar text wellFormed => exact placeholders_parse_append wellFormed.not_mem rest
  | string l =>
    have hl := hf l List.mem_cons_self
    simp only [write, literals, List.append_assoc, List.cons_append, List.nil_append]
    rw [placeholders_cons (by decide), hl, placeholders_cons (by decide), List.flatMap_singleton]
  | emptyArray space =>
    simp only [write, List.append_assoc, List.cons_append, List.nil_append]
    rw [placeholders_cons (by decide), space.placeholders_append, placeholders_cons (by decide)]
    rfl
  | array items ih =>
    simp only [write, List.append_assoc, List.cons_append, List.nil_append]
    rw [placeholders_cons (by decide), ih hf, placeholders_cons (by decide)]
    rfl
  | emptyObject space =>
    simp only [write, List.append_assoc, List.cons_append, List.nil_append]
    rw [placeholders_brace (space.placeholder?_close rest), space.placeholders_append, placeholders_cons (by decide)]
    rfl
  | object members ih =>
    simp only [write, List.append_assoc, List.cons_append, List.nil_append]
    rw [placeholders_brace (placeholder?_members members _), ih hf, placeholders_cons (by decide)]
    rfl
  | item before value after ih =>
    simp only [write, List.append_assoc]
    rw [before.placeholders_append, ih hf, after.placeholders_append]
    rfl
  | member before key colon inner value after ih =>
    obtain ⟨hkey, hvalue⟩ := List.forall_mem_cons.mp hf
    simp only [write, literals, List.append_assoc, List.cons_append, List.flatMap_cons]
    rw [before.placeholders_append, placeholders_cons (by decide), hkey, placeholders_cons (by decide),
      colon.placeholders_append, placeholders_cons (by decide),
      inner.placeholders_append, ih hvalue, after.placeholders_append]
  | last d ih => exact ih hf rest
  | more d more ih ihMore =>
    obtain ⟨hd, hmore⟩ := List.forall_mem_append.mp hf
    simp only [write, literals, List.append_assoc, List.cons_append, List.flatMap_append]
    rw [ih hd, placeholders_cons (by decide), ihMore hmore]

end Tree

namespace Document

variable {d : Document} {f : Literal → List Char} {g : Literal → List String}

theorem placeholders_write
    (hf : ∀ l ∈ d.literals, ∀ rest, (parse (f l ++ rest)).placeholders = g l ++ (parse rest).placeholders) :
    (parse (d.write f)).placeholders = d.literals.flatMap g := by
  have hend : (parse d.after.chars).placeholders = [] := by
    rw [← List.append_nil d.after.chars, d.after.placeholders_append, parse, Template.parseChunks]
    rfl
  rw [write, List.append_assoc, d.before.placeholders_append, d.value.placeholders_write hf, hend,
    List.append_nil]
  rfl

theorem placeholders_text (h : ∀ l ∈ d.literals, '\x7b' ∉ l.content) :
    (parse d.text).placeholders = [] := by
  rw [text, placeholders_write (g := fun _ => []) fun l hl => placeholders_parse_append (h l hl)]
  simp

theorem placeholders_filled (h : ∀ l ∈ d.literals, '\x7b' ∉ l.content) :
    (parse d.filled).placeholders = d.names := by
  refine placeholders_write fun l hl rest => ?_
  unfold Literal.filled Literal.names
  split
  · rename_i n hn
    rw [hn, List.cons_append, List.cons_append, List.append_assoc, List.singleton_append, parse,
      Template.parseChunks_placeholder (Template.placeholder?_name n.2 rest)]
    rfl
  · rename_i hn
    rw [hn]
    exact placeholders_parse_append (h l hl) rest

end Document

end JsonText

/-! ## Bodies -/

theorem Template.unescapeBraces_eq {s : List Char} (hopen : ¬ "%7B".toList <:+: s)
    (hclose : ¬ "%7D".toList <:+: s) :
    unescapeBraces s = s := by
  induction s using unescapeBraces.induct with
  | case1 r ih => exact absurd ⟨[], r, rfl⟩ hopen
  | case2 r ih => exact absurd ⟨[], r, rfl⟩ hclose
  | case3 c r h₁ h₂ ih =>
    rw [unescapeBraces, ih (fun h => hopen (List.infix_cons h)) fun h => hclose (List.infix_cons h)]
    · exact h₁
    · exact h₂
  | case4 => rfl

theorem Template.unescaped_literal {s : List Char} (h : unescapeBraces s = s) :
    (literal s).unescaped = literal s := by
  unfold literal
  split
  · rfl
  · exact congrArg (fun text => Template.mk [.literal text]) h

namespace RequestTemplate

theorem distinct_eq (seen names : List String) :
    distinct seen names = seen ++ (names.filter fun n => !seen.contains n).eraseDups := by
  induction names generalizing seen with
  | nil => simp [distinct]
  | cons n names ih =>
    rw [distinct, ih, List.filter_cons]
    by_cases hn : n ∈ seen
    · simp [hn]
    · simp [hn, List.eraseDups_cons, beq_eq_decide, Bool.and_comm]

theorem placeholders_setBodyTemplate (text : List Char) :
    (empty.setBodyTemplate text).placeholders = (Template.parse text).placeholders.eraseDups := by
  have hparts : (empty.setBodyTemplate text).placeholders =
      distinct [] ((Template.parse text).placeholders ++ []) := rfl
  rw [hparts, distinct_eq]
  simp

/-- A JSON document needs no escapes for its braces: as long as its strings
have no opening braces, it is a body template without placeholders.
Placeholders in place of strings are those of the body, each in its place. -/
theorem json_body (d : JsonText.Document) (h : ∀ l ∈ d.literals, '\x7b' ∉ l.content) :
    (Template.parse d.text).placeholders = [] ∧
      (¬ "%7B".toList <:+: d.text → ¬ "%7D".toList <:+: d.text → ∀ (t : RequestTemplate) (vars : Variables),
        ((t.setBodyTemplate d.text).resolve vars).body? = some (Utf8.encode d.text)) ∧
      (Template.parse d.filled).placeholders = d.names ∧
      (empty.setBodyTemplate d.filled).placeholders = d.names.eraseDups := by
  have htext := JsonText.Document.placeholders_text h
  have hfilled := JsonText.Document.placeholders_filled h
  refine ⟨htext, fun hopen hclose t vars => ?_, hfilled, ?_⟩
  · have hparse : Template.parse d.text = Template.literal d.text :=
      Template.parse_of_plain ((Template.placeholders_parseChunks_iff _).mp htext)
    have hsame := Template.unescapeBraces_eq hopen hclose
    simp only [setBodyTemplate, resolve, body?, hparse, Template.unescaped_literal hsame,
      Template.expandRaw]
    rw [Template.expand_of_placeholders_nil (hparse ▸ htext), Template.chars_literal]
  · rw [placeholders_setBodyTemplate, hfilled]

/-- A placeholder in two strings, one in a list, and an empty object. -/
theorem json_body_note :
    let tight : JsonText.Space := ⟨[], by simp⟩
    let wide : JsonText.Space := ⟨[' '], by simp⟩
    let literal (s : String) (h : s.toList.all JsonText.isPlain = true)
      (name? : Option {name : List Char // Template.isName name = true}) : JsonText.Literal :=
      ⟨s.toList, .of_plain h, name?⟩
    let name : JsonText.Literal := literal "ada" (by decide) (some ⟨"name".toList, by decide⟩)
    let d : JsonText.Document := ⟨tight, .object (.more
      (.member tight (literal "by" (by decide) none) tight wide (.string name) tight) (.more
      (.member wide (literal "to" (by decide) none) tight wide (.array (.more
        (.item tight (.string (literal "eve" (by decide) (some ⟨"who".toList, by decide⟩))) tight)
        (.last (.item wide (.emptyObject wide) tight)))) tight) (.last
      (.member wide (literal "cc" (by decide) none) tight wide (.string name) tight)))), tight⟩
    (∀ l ∈ d.literals, '\x7b' ∉ l.content) ∧
      d.text = "\x7b\"by\": \"ada\", \"to\": [\"eve\", \x7b \x7d], \"cc\": \"ada\"\x7d".toList ∧
      (Template.parse d.text).placeholders = [] ∧
      (∀ t vars, ((setBodyTemplate d.text t).resolve vars).body? = some (Utf8.encode d.text)) ∧
      d.filled =
        "\x7b\"by\": \"\x7bname\x7d\", \"to\": [\"\x7bwho\x7d\", \x7b \x7d], \"cc\": \"\x7bname\x7d\"\x7d".toList ∧
      (empty.setBodyTemplate d.filled).placeholders = ["name", "who"] := by
  intro tight wide literal name d
  have h : ∀ l ∈ d.literals, '\x7b' ∉ l.content := by decide
  obtain ⟨htext, hbody, -, hfilled⟩ := json_body d h
  exact ⟨h, rfl, htext, hbody (by decide) (by decide), rfl, hfilled⟩

end RequestTemplate

end DeclarativeHttp
