import DeclarativeHttp.Template.Request
import Mathlib.Data.List.Basic

/-!
# Laws of templates

A template that is parsed is read here from its first character on; text that is taken literally has
no placeholders, whatever braces it holds.
-/

namespace DeclarativeHttp

namespace Text

theorem takeWhile_append_of_head {α : Type} {p : α → Bool} {l r : List α}
    (h : ∀ a ∈ r.head?, p a = false) :
    (l ++ r).takeWhile p = l.takeWhile p := by
  have hr : r.takeWhile p = [] := by
    cases r with
    | nil => rfl
    | cons a r => rw [List.takeWhile_cons, h a rfl]; rfl
  induction l with
  | nil => exact hr
  | cons a l ih => rw [List.cons_append, List.takeWhile_cons, List.takeWhile_cons, ih]

end Text

/-- The values that a name stands for, none of them if it is undefined. -/
def Variables.texts (vars : Variables) (name : String) : List String :=
  match vars name with
  | some (.one text) => [text]
  | some (.many texts) => texts
  | none => []

namespace Template

theorem chars_consLiteral (c : Char) (cs : List Chunk) :
    (consLiteral c cs).flatMap chunkChars = c :: cs.flatMap chunkChars := by
  cases cs with
  | nil => rfl
  | cons d cs => cases d <;> rfl

theorem parseChunks_text {c : Char} (hc : c ≠ '\x7b') (r : List Char) :
    parseChunks (c :: r) = consLiteral c (parseChunks r) := by
  rw [parseChunks, if_neg hc]

theorem parseChunks_placeholder {r rest : List Char} {name : String}
    (hr : placeholder? r = some (name, rest)) :
    parseChunks ('\x7b' :: r) = .expression name :: parseChunks rest := by
  rw [parseChunks, if_pos rfl]
  split
  · rename_i hr'
    rw [hr] at hr'
    cases hr'
    rfl
  · rename_i hr'
    rw [hr] at hr'
    cases hr'

theorem parseChunks_brace {r : List Char} (hr : placeholder? r = none) :
    parseChunks ('\x7b' :: r) = consLiteral '\x7b' (parseChunks r) := by
  rw [parseChunks, if_pos rfl]
  split
  · rename_i hr'
    rw [hr] at hr'
    cases hr'
  · rfl

@[simp] theorem chars_literal (s : List Char) : (literal s).chars = s := by
  unfold literal
  split
  · rename_i h; rw [List.isEmpty_iff.mp h]; rfl
  · simp [chars, chunkChars]

/-! ## Expanding -/

theorem expandChunk_expression (vars : Variables) (place : Place) (format : CollectionFormat)
    (name : String) :
    expandChunk vars place format (.expression name) =
      (place.encode format.separator.toList).intercalate ((vars.texts name).map fun x => place.encode x.toList) := by
  rw [expandChunk, Variables.value?, Variables.texts]
  cases vars name with
  | none => rfl
  | some v =>
    cases v with
    | one text => exact List.intercalate_singleton.symm
    | many texts => cases texts <;> rfl

/-- Only the texts that the placeholders stand for are looked up. -/
theorem expand_congr {t : Template} {vars vars' : Variables}
    (h : ∀ n ∈ t.placeholders, vars.texts n = vars'.texts n) (place : Place)
    (format : CollectionFormat) : t.expand vars place format = t.expand vars' place format := by
  refine congrArg List.flatten (List.map_congr_left fun c hc => ?_)
  cases c with
  | literal text => rfl
  | expression name =>
    rw [expandChunk_expression, expandChunk_expression, h name (List.mem_filterMap.mpr ⟨_, hc, rfl⟩)]

theorem expandValues_placeholder (vars : Variables) (place : Place) (name : String) :
    (Template.mk [.expression name]).expandValues vars place .exploded =
      (vars.texts name).map fun x => place.encode x.toList := by
  cases hv : vars name with
  | none => simp [expandValues, exploded?, isUnresolved, placeholders, Variables.value?,
      Variables.texts, hv]
  | some v =>
    cases v with
    | one text =>
      simp [expandValues, exploded?, isUnresolved, placeholders, expand, expandChunk, valueChars,
        Variables.value?, Variables.texts, hv]
    | many texts => simp [expandValues, exploded?, Variables.texts, hv]

theorem expand_of_placeholders_nil {t : Template} (h : t.placeholders = []) (vars : Variables)
    (place : Place) (format : CollectionFormat) : t.expand vars place format = t.chars := by
  obtain ⟨chunks⟩ := t
  induction chunks with
  | nil => rfl
  | cons c cs ih =>
    cases c with
    | literal text => exact congrArg (text ++ ·) (ih h)
    | expression name => cases h

/-! ## Paths that begin with a slash -/

/-- The template is empty or begins with a slash, whatever its placeholders stand for. -/
def Rooted (t : Template) : Prop := ∀ c ∈ t.chunks.head?, ∃ r, c = .literal ('/' :: r)

theorem rooted_parse {s : List Char} (h : ∀ c ∈ s.head?, c = '/') : (parse s).Rooted := by
  cases s with
  | nil => intro c hc; rw [parse, parseChunks] at hc; cases hc
  | cons c r =>
    obtain rfl := h c rfl
    intro d hd
    rw [parse, parseChunks_text (by decide)] at hd
    cases hr : parseChunks r with
    | nil => rw [hr] at hd; cases hd; exact ⟨_, rfl⟩
    | cons e cs => rw [hr] at hd; cases e <;> (cases hd; exact ⟨_, rfl⟩)

theorem Rooted.head_chars {t : Template} (h : t.Rooted) : ∀ c ∈ t.chars.head?, c = '/' := by
  obtain ⟨chunks⟩ := t
  cases chunks with
  | nil => intro c hc; cases hc
  | cons d cs =>
    obtain ⟨r, rfl⟩ := h d rfl
    intro c hc
    cases hc
    rfl

theorem Rooted.head_expand {t : Template} (h : t.Rooted) (vars : Variables) (place : Place)
    (format : CollectionFormat) :
    ∀ c ∈ (t.expand vars place format).head?, c = '/' := by
  obtain ⟨chunks⟩ := t
  cases chunks with
  | nil => intro c hc; cases hc
  | cons d cs =>
    obtain ⟨r, rfl⟩ := h d rfl
    intro c hc
    cases hc
    rfl

end Template

namespace RequestTemplate

/-! ## What operations leave alone -/

theorem appendUri_frame (uri : List Char) (t : RequestTemplate) :
    t.appendUri uri = { t with
      target := (t.appendUri uri).target
      uri := (t.appendUri uri).uri
      queries := (t.appendUri uri).queries } := by
  simp only [appendUri]
  split <;> rfl

theorem setTarget_frame (target : List Char) (t : RequestTemplate) : t.setTarget target =
    { t with target := (t.setTarget target).target, queries := (t.setTarget target).queries } := by
  simp only [setTarget]
  split <;> rfl

theorem query_frame (name : String) (values : List String) (t : RequestTemplate) :
    t.query name values = { t with queries := (t.query name values).queries } := by
  rw [query]
  split <;> rfl

theorem header_frame (name : String) (values : List String) (t : RequestTemplate) :
    t.header name values = { t with headers := (t.header name values).headers } := by
  rw [header]
  split <;> rfl

/-! ## The placeholders of a request -/

theorem mem_distinct {n : String} (seen names : List String) :
    n ∈ distinct seen names ↔ n ∈ seen ∨ n ∈ names := by
  induction names generalizing seen with
  | nil => simp [distinct]
  | cons name names ih =>
    rw [distinct, ih]
    split
    · rename_i hseen
      have hname : name ∈ seen := by simpa using hseen
      rw [List.mem_cons]
      exact ⟨Or.imp_right .inr, fun h => h.elim .inl fun h => h.elim (fun he => .inl (he ▸ hname)) .inr⟩
    · rw [List.mem_append, List.mem_singleton, List.mem_cons, or_assoc]

theorem mem_placeholders {n : String} {t : RequestTemplate} :
    n ∈ t.placeholders ↔ t.hasRequestPlaceholder n = true ∨
      ∃ b, t.bodyTemplate? = some b ∧ n ∈ b.placeholders := by
  rw [placeholders, mem_distinct, List.flatMap_append, List.mem_append, hasRequestPlaceholder,
    List.any_eq_true]
  simp only [List.not_mem_nil, false_or, List.mem_flatMap, Option.mem_toList, List.contains_iff_mem]

/-! ## Resolving parameters -/

/-- A name without values stays; any other has the values
that its own stand for, and goes if there are none. -/
theorem resolveParams_cons (vars : Variables) (place : Place) (format : CollectionFormat)
    (name : String) (values : List Template) (params : Multimap Template) :
    resolveParams vars place format ((name, values) :: params) =
      if values.isEmpty then (name, []) :: resolveParams vars place format params
      else match values.flatMap fun v => v.expandValues vars place format with
        | [] => resolveParams vars place format params
        | x :: xs => (name, (x :: xs).map Template.literal) :: resolveParams vars place format params := by
  cases values with
  | nil => rfl
  | cons v values =>
    rw [resolveParams, List.filterMap_cons]
    dsimp only
    generalize ((v :: values).flatMap fun v => v.expandValues vars place format) = texts
    cases texts <;> rfl

/-! ## Pieces of URLs -/

def Local (uri : List Char) : Prop := ∀ c ∈ uri.head?, c = '/' ∨ c = '?'

instance : (uri : List Char) → Decidable (Local uri)
  | [] => isTrue fun _ h => nomatch h
  | c :: _ => decidable_of_iff (c = '/' ∨ c = '?') ⟨fun h _ hd => Option.some.inj hd ▸ h,
      fun h => h c rfl⟩

theorem dropFinalSlash_subset {s : List Char} {c : Char} (h : c ∈ dropFinalSlash s) : c ∈ s := by
  unfold dropFinalSlash at h
  split at h
  · exact List.dropLast_subset s h
  · exact h

theorem dropFinalSlash_append {a b : List Char} (hb : b ≠ []) :
    dropFinalSlash (a ++ b) = a ++ dropFinalSlash b := by
  obtain rfl | ⟨b, c, rfl⟩ := List.eq_nil_or_concat b
  · exact absurd rfl hb
  · unfold dropFinalSlash
    rw [List.concat_eq_append, ← List.append_assoc, List.getLast?_concat, List.getLast?_concat,
      List.dropLast_concat, List.dropLast_concat]
    split
    · rfl
    · rw [List.append_assoc]

theorem absolute?_eq {uri scheme rest : List Char} (h : absolute? uri = some (scheme, rest)) :
    uri = scheme ++ rest ∧ (scheme = "http://".toList ∨ scheme = "https://".toList) := by
  unfold absolute? at h
  split at h
  · rename_i r hr
    cases h
    exact ⟨(List.isPrefixOf?_eq_some_iff_append_eq.mp hr).symm, .inl rfl⟩
  · obtain ⟨r, hr, heq⟩ := Option.map_eq_some_iff.mp h
    cases heq
    exact ⟨(List.isPrefixOf?_eq_some_iff_append_eq.mp hr).symm, .inr rfl⟩

end RequestTemplate

end DeclarativeHttp
