import DeclarativeHttp.Proofs.Placement
import DeclarativeHttp.Proofs.QueryLine

/-!
# URIs as arguments

A URI that is passed to a call takes the place of the base URL, as far as its text goes: it is cut
at its question mark, and what is left is put in front of the path. `placed_uri_argument`: the path
follows the URI unless the URI has a fragment, or is spelled otherwise than with `http://` or
`https://`, when the base URL of the target takes its place.
-/

namespace DeclarativeHttp

namespace Url

/-- A URL up to its query or its fragment. -/
def stem (s : List Char) : List Char := s.takeWhile fun c => !endsPath c

theorem stem_append {a : List Char} (b : List Char) (ha : ∀ c ∈ a, endsPath c = false) :
    stem (a ++ b) = a ++ stem b := by
  apply List.takeWhile_append_of_pos
  intro c hc
  rw [ha c hc]
  rfl

theorem not_endsPath_of_mem_stem {s : List Char} {c : Char} (h : c ∈ stem s) :
    endsPath c = false := by
  simpa using List.mem_takeWhile_imp h

theorem stem_of_head {s : List Char} (h : ∀ c ∈ s.head?, c = '?') : stem s = [] := by
  cases s with
  | nil => rfl
  | cons c r => rw [h c rfl]; rfl

theorem authority?_hostless {p : Nat} {s : List Char} (h : ∀ c ∈ s.head?, c = '?') :
    authority? (.web p) s = .error .emptyHost := by
  have hnone := authority?_append (p := p) (a := []) (b := s) (by simp) (fun c hc => by rw [h c hc]; rfl)
  rwa [List.nil_append] at hnone

theorem cleanEnd_head {s : List Char} (h : ∀ c ∈ s.head?, c = '?') :
    ∀ c ∈ (cleanEnd s).head?, c = '?' := by
  cases s with
  | nil => intro c hc; cases hc
  | cons d r =>
    obtain rfl := h d rfl
    rw [cleanEnd_cons rfl rfl]
    intro c hc
    cases hc
    rfl

theorem parseChars_hostless {scheme slashes rest : List Char} {p : Nat}
    (hk : kindOf scheme = .web p) (hs : ∀ r, scheme? (scheme ++ ':' :: r) = some (scheme, r))
    (hplain : ∀ c ∈ scheme, 0x20 < c.toNat) (hslashes : ∀ c ∈ slashes, c = '/')
    (hrest : ∀ c ∈ rest.head?, c = '?') (u : Url) :
    parseChars (scheme ++ ':' :: slashes ++ rest) ≠ .ok u := by
  have hfront : ∀ c ∈ scheme ++ ':' :: slashes, 0x20 < c.toNat := by
    intro c hc
    rw [List.mem_append, List.mem_cons] at hc
    obtain hc | rfl | hc := hc
    · exact hplain c hc
    · decide
    · rw [hslashes c hc]
      decide
  have hend := cleanEnd_head hrest
  have hclean := clean_append rest hfront (by simp)
  generalize cleanEnd rest = rest' at hclean hend
  have hscheme : scheme? (clean (scheme ++ ':' :: slashes ++ rest)) =
      some (scheme, slashes ++ rest') := by
    rw [hclean, List.append_assoc]
    exact hs _
  have hdrop : (slashes ++ rest').dropWhile isSlash = rest' := by
    rw [List.dropWhile_append_of_pos fun c hc => by rw [hslashes c hc]; rfl]
    cases rest' with
    | nil => rfl
    | cons d r => rw [hend d rfl]; rfl
  rw [parseChars_web hscheme hk, hdrop, authority?_hostless hend]
  intro h
  cases h

end Url

theorem Template.expand_slash (r : List Char) (vars : Variables) (place : Place)
    (format : CollectionFormat) :
    ∃ r', (parse ('/' :: r)).expand vars place format = '/' :: r' := by
  rw [parse, parseChunks_text (by decide)]
  cases parseChunks r with
  | nil => exact ⟨[], rfl⟩
  | cons c cs => cases c <;> exact ⟨_, rfl⟩

namespace RequestTemplate

/-! ## Texts that begin with a scheme -/

theorem isAbsolute_iff {s : List Char} :
    isAbsolute s = true ↔ "http://".toList <+: s ∨ "https://".toList <+: s := by
  have hdrop : ∀ start r : List Char, start.isPrefixOf? (start ++ r) = some r :=
    fun start r => List.isPrefixOf?_eq_some_iff_append_eq.mpr rfl
  constructor
  · intro h
    obtain ⟨⟨start, r⟩, hr⟩ := Option.isSome_iff_exists.mp h
    obtain ⟨rfl, rfl | rfl⟩ := absolute?_eq hr
    · exact .inl ⟨r, rfl⟩
    · exact .inr ⟨r, rfl⟩
  · unfold isAbsolute absolute?
    rintro (⟨r, rfl⟩ | ⟨r, rfl⟩)
    · rw [hdrop]
      rfl
    · split
      · rfl
      · rw [hdrop]
        rfl

theorem isAbsolute_of_prefix {a b : List Char} (h : isAbsolute a = true) (hab : a <+: b) :
    isAbsolute b = true := by
  rw [isAbsolute_iff] at h ⊢
  exact h.imp (·.trans hab) (·.trans hab)

theorem splitQuery_append (u : List Char) :
    ∃ rest, u = (splitQuery u).1 ++ rest ∧ ∀ c ∈ rest.head?, c = '?' := by
  refine ⟨u.dropWhile (· != '?'), ?_, fun c hc => ?_⟩
  · rw [splitQuery_fst, List.takeWhile_append_dropWhile]
  · have hnot := List.head?_dropWhile_not (· != '?') u
    rw [hc] at hnot
    simpa using hnot

theorem query_not_mem_base (u : List Char) : '?' ∉ (splitQuery u).1 := by
  rw [splitQuery_fst]
  intro h
  simpa using List.mem_takeWhile_imp h

theorem eq_of_dropFinalSlash (s : List Char) :
    s = dropFinalSlash s ∨ s = dropFinalSlash s ++ ['/'] := by
  unfold dropFinalSlash
  split
  · rename_i h
    obtain ⟨r, rfl⟩ := List.getLast?_eq_some_iff.mp h
    exact .inr (by rw [List.dropLast_concat])
  · exact .inl rfl

theorem prefix_dropFinalSlash (s : List Char) : dropFinalSlash s <+: s := by
  obtain h | h := eq_of_dropFinalSlash s
  · exact ⟨[], by rw [List.append_nil, ← h]⟩
  · exact ⟨['/'], h.symm⟩

theorem base_ne_hostless {scheme slashes u : List Char}
    (hscheme : scheme = "http".toList ∨ scheme = "https".toList) (hslashes : ∀ c ∈ slashes, c = '/')
    {v : Url} (hparse : Url.parseChars u = .ok v) :
    (splitQuery u).1 ≠ scheme ++ ':' :: slashes := by
  intro h
  obtain ⟨rest, hu, hrest⟩ := splitQuery_append u
  rw [h] at hu
  rw [hu] at hparse
  obtain rfl | rfl := hscheme
  · exact Url.parseChars_hostless (p := 80) (by decide) (fun _ => rfl) (by simp) hslashes hrest v hparse
  · exact Url.parseChars_hostless (p := 443) (by decide) (fun _ => rfl) (by simp) hslashes hrest v hparse

theorem dropFinalSlash_base_ne_hostless {scheme slashes u : List Char}
    (hscheme : scheme = "http".toList ∨ scheme = "https".toList)
    (hslashes : ∀ c ∈ slashes, c = '/') {v : Url} (hparse : Url.parseChars u = .ok v) :
    dropFinalSlash (splitQuery u).1 ≠ scheme ++ ':' :: slashes := by
  intro h
  obtain he | he := eq_of_dropFinalSlash (splitQuery u).1
  · rw [h] at he
    exact base_ne_hostless hscheme hslashes hparse he
  · rw [h, List.append_assoc] at he
    have hmore : ∀ c ∈ slashes ++ ['/'], c = '/' := by
      intro c hc
      rw [List.mem_append] at hc
      exact hc.elim (hslashes c) List.mem_singleton.mp
    exact base_ne_hostless hscheme hmore hparse he

/-- Cut off at its question mark and its last slash, a URL keeps the slashes of its scheme. -/
theorem scheme_prefix_base {scheme u : List Char}
    (hscheme : scheme = "http".toList ∨ scheme = "https".toList) {v : Url}
    (hparse : Url.parseChars u = .ok v) (h : scheme ++ [':', '/', '/'] <+: u) :
    scheme ++ [':', '/', '/'] <+: dropFinalSlash (splitQuery u).1 := by
  obtain ⟨b, hb⟩ := h
  have hpast : ∀ c ∈ scheme ++ [':', '/', '/'], (c != '?') = true := by
    obtain rfl | rfl := hscheme <;> simp
  have hsplit : (splitQuery u).1 = scheme ++ [':', '/', '/'] ++ b.takeWhile (· != '?') := by
    rw [splitQuery_fst, ← hb, List.takeWhile_append_of_pos hpast]
  have hne : b.takeWhile (· != '?') ≠ [] := by
    intro hnil
    rw [hnil, List.append_nil] at hsplit
    exact base_ne_hostless hscheme (by simp) hparse hsplit
  rw [hsplit, dropFinalSlash_append hne]
  exact List.prefix_append _ _

/-- A slash that is put behind a text may bring a scheme to its end, but only where the text was a
scheme and slashes before. -/
theorem prefix_of_slash {scheme front r : List Char} (hscheme : '/' ∉ scheme)
    (h : scheme ++ [':', '/', '/'] <+: front ++ '/' :: r) :
    scheme ++ [':', '/', '/'] <+: front ∨
      ∃ slashes, (∀ c ∈ slashes, c = '/') ∧ front = scheme ++ ':' :: slashes := by
  obtain hw | ⟨y, hy⟩ := List.prefix_or_prefix_of_prefix h (List.prefix_append front ('/' :: r))
  · exact .inl hw
  rw [← hy, List.prefix_append_right_inj] at h
  cases y with
  | nil => exact .inl ⟨[], by rw [← hy, List.append_nil, List.append_nil]⟩
  | cons d y =>
    obtain rfl : d = '/' := by
      obtain ⟨z, hz⟩ := h
      exact (List.cons.inj hz).1
    have hsplit : front ++ '/' :: y = (scheme ++ [':']) ++ ['/', '/'] := by
      rw [hy, List.append_assoc]
      rfl
    right
    obtain ⟨a, ha, hd⟩ | ⟨a, ha, hd⟩ := List.append_eq_append_iff.mp hsplit
    · cases a with
      | nil => exact ⟨[], by simp, by rw [List.append_nil] at ha; exact ha.symm⟩
      | cons e a =>
        obtain rfl : '/' = e := (List.cons.inj hd).1
        have hmem : '/' ∈ scheme ++ [':'] := by rw [ha]; simp
        rw [List.mem_append] at hmem
        exact absurd (hmem.resolve_right (by decide)) hscheme
    · refine ⟨a, fun c hc => ?_, by rw [ha, List.append_assoc]; rfl⟩
      have hmem : c ∈ ['/', '/'] := by rw [hd]; exact List.mem_append_left _ hc
      simpa using hmem

theorem isAbsolute_base_append {u : List Char} {v : Url} (hparse : Url.parseChars u = .ok v)
    (r : List Char) :
    isAbsolute (dropFinalSlash (splitQuery u).1 ++ '/' :: r) = isAbsolute u := by
  have hbase : (splitQuery u).1 <+: u := by
    obtain ⟨rest, hu, -⟩ := splitQuery_append u
    exact ⟨rest, hu.symm⟩
  have hfront : dropFinalSlash (splitQuery u).1 <+: u := (prefix_dropFinalSlash _).trans hbase
  rw [Bool.eq_iff_iff]
  constructor
  · intro h
    have hfrom : ∀ scheme, scheme = "http".toList ∨ scheme = "https".toList →
        scheme ++ [':', '/', '/'] <+: dropFinalSlash (splitQuery u).1 ++ '/' :: r →
        scheme ++ [':', '/', '/'] <+: u := by
      intro scheme hscheme hprefix
      have hslash : '/' ∉ scheme := by obtain rfl | rfl := hscheme <;> decide
      obtain hw | ⟨slashes, hslashes, hfront'⟩ := prefix_of_slash hslash hprefix
      · exact hw.trans hfront
      · exact absurd hfront' (dropFinalSlash_base_ne_hostless hscheme hslashes hparse)
    rw [isAbsolute_iff] at h ⊢
    exact h.imp (hfrom _ (.inl rfl)) (hfrom _ (.inr rfl))
  · intro h
    rw [isAbsolute_iff] at h
    apply isAbsolute_of_prefix _ (List.prefix_append _ ('/' :: r))
    rw [isAbsolute_iff]
    exact h.imp (scheme_prefix_base (.inl rfl) hparse) (scheme_prefix_base (.inr rfl) hparse)

/-! ## Target, path and query -/

theorem url_split (t : RequestTemplate) :
    ∃ rest, t.url = t.target.getD [] ++ t.path ++ rest ∧ ∀ c ∈ rest.head?, c = '?' := by
  refine ⟨_, rfl, fun c hc => ?_⟩
  split at hc
  · cases hc
  · cases hc
    rfl

theorem getD_target_setTarget (t : RequestTemplate) (s : List Char) :
    (t.setTarget s).target.getD [] = dropFinalSlash (splitQuery s).1 := by
  have htarget : (t.setTarget s).target =
      if (dropFinalSlash (splitQuery s).1).isEmpty then none else some (dropFinalSlash (splitQuery s).1) := by
    unfold setTarget
    cases splitQuery s with
    | mk base query => cases query <;> rfl
  rw [htarget]
  split
  · rename_i h
    exact (List.isEmpty_iff.mp h).symm
  · rfl

theorem uri_setTarget (t : RequestTemplate) (s : List Char) : (t.setTarget s).uri = t.uri := by
  unfold setTarget
  cases splitQuery s with
  | mk base query => cases query <;> rfl

theorem path_setTarget (t : RequestTemplate) (s : List Char) : (t.setTarget s).path = t.path :=
  congrArg Template.chars (t.uri_setTarget s)

/-- The URL of the template is made of the URI, up to its query or its fragment and less a slash at
its end, and of the path, and neither of them is a part of a fragment. -/
structure Follows (uri path : List Char) (t : RequestTemplate) : Prop where
  target : t.target.getD [] = dropFinalSlash (Url.stem uri)
  stem : Url.stem t.url = dropFinalSlash (Url.stem uri) ++ path

theorem follows_iff (uri : List Char) {t : RequestTemplate} (hpath : '?' ∉ t.path) :
    Follows uri t.path t ↔ t.target.getD [] = dropFinalSlash (Url.stem uri) ∧ '#' ∉ t.path := by
  obtain ⟨rest, hurl, hrest⟩ := t.url_split
  have hfront : ∀ c ∈ dropFinalSlash (Url.stem uri), Url.endsPath c = false :=
    fun c hc => Url.not_endsPath_of_mem_stem (dropFinalSlash_subset hc)
  have hstem : t.target.getD [] = dropFinalSlash (Url.stem uri) →
      Url.stem t.url = dropFinalSlash (Url.stem uri) ++ Url.stem (t.path ++ rest) := by
    intro htarget
    rw [hurl, htarget, List.append_assoc, Url.stem_append _ hfront]
  constructor
  · rintro ⟨htarget, h⟩
    refine ⟨htarget, fun hmem => ?_⟩
    rw [hstem htarget] at h
    rw [← List.append_cancel_left h] at hmem
    exact absurd (Url.not_endsPath_of_mem_stem hmem) (by decide)
  · rintro ⟨htarget, hnumber⟩
    have hplain : ∀ c ∈ t.path, Url.endsPath c = false := by
      intro c hc
      simp only [Url.endsPath, Bool.or_eq_false_iff, beq_eq_false_iff_ne]
      exact ⟨fun h => hpath (h ▸ hc), fun h => hnumber (h ▸ hc)⟩
    refine ⟨htarget, ?_⟩
    rw [hstem htarget, Url.stem_append _ hplain, Url.stem_of_head hrest, List.append_nil]

/-- The base of a URI is all that stands before its fragment, if it has none before its query. -/
theorem dropFinalSlash_base_iff (u : List Char) :
    dropFinalSlash (splitQuery u).1 = dropFinalSlash (Url.stem u) ↔ '#' ∉ (splitQuery u).1 := by
  obtain ⟨rest, hu, hrest⟩ := splitQuery_append u
  have hquery := query_not_mem_base u
  generalize (splitQuery u).1 = base at hu hquery
  constructor
  · intro h hmem
    obtain ⟨a, b, rfl, -⟩ := List.eq_append_cons_of_mem hmem
    have hkept : '#' ∈ dropFinalSlash (a ++ '#' :: b) := by
      rw [dropFinalSlash_append (by simp)]
      obtain hb | hb := eq_of_dropFinalSlash ('#' :: b)
      · rw [← hb]
        simp
      · cases hd : dropFinalSlash ('#' :: b) with
        | nil => rw [hd] at hb; cases hb
        | cons c d => rw [hd] at hb; rw [(List.cons.inj hb).1]; simp
    rw [h] at hkept
    exact absurd (Url.not_endsPath_of_mem_stem (dropFinalSlash_subset hkept)) (by decide)
  · intro hnumber
    have hplain : ∀ c ∈ base, Url.endsPath c = false := by
      intro c hc
      simp only [Url.endsPath, Bool.or_eq_false_iff, beq_eq_false_iff_ne]
      exact ⟨fun h => hquery (h ▸ hc), fun h => hnumber (h ▸ hc)⟩
    rw [hu, Url.stem_append rest hplain, Url.stem_of_head hrest, List.append_nil]

end RequestTemplate

open RequestTemplate

/-! ## Methods with a URI among their parameters -/

namespace DefaultDialect

variable {i : Interface} {op : Operation} {m m' : Metadata} {t : RequestTemplate}

/-- The path of a skeleton is read from a text of its own, which the request lines make. -/
theorem Skeleton.path_text (h : Skeleton op t) (huris : ∀ uri ∈ op.uris, uri.head? = some '/') :
    ∃ s, t.uri = Template.parse s ∧ '?' ∉ s ∧ (∀ c ∈ s.head?, c = '/') ∧
      (t.method.isSome = true → s ≠ []) := by
  induction h with
  | empty => exact ⟨[], by rw [Template.parse, Template.parseChunks]; rfl, by simp, by simp, fun hm => by cases hm⟩
  | removeHeader name _ ih => exact ih
  | @header t name values _ ih => unfold RequestTemplate.header; split <;> exact ih
  | @line t verb uri keep format huri _ ih =>
    obtain ⟨s, hs, hquery, hhead, -⟩ := ih
    have huri := huris uri huri
    have hlocal : Local uri := by
      intro c hc
      rw [huri] at hc
      cases hc
      exact .inl rfl
    have hbase : (splitQuery uri).1.head? = some '/' := by
      rw [splitQuery_fst]
      cases uri with
      | nil => cases huri
      | cons d r => cases huri; rfl
    refine ⟨s ++ (splitQuery uri).1, ?_, ?_, ?_, fun _ hnil => ?_⟩
    · show ((t.setMethod verb).appendUri uri).uri = _
      rw [(appendUri_relative (not_isAbsolute_of_local hlocal) _).2]
      show Template.parse (t.uri.chars ++ _) = _
      rw [hs]
      exact congrArg Template.mk (Template.parseChunks_chars_append s _)
    · rw [List.mem_append]
      exact fun hmem => hmem.elim hquery (query_not_mem_base uri)
    · intro c hc
      cases s with
      | nil => rw [List.nil_append, hbase] at hc; cases hc; rfl
      | cons d r => exact hhead c hc
    · rw [(List.append_eq_nil_iff.mp hnil).2] at hbase
      cases hbase
  | body bytes _ ih => exact ih
  | bodyTemplate text _ ih => exact ih

end DefaultDialect

/-! ## Calls -/

section
variable {i : Interface} {op : Operation} {m : Metadata} {encoder : Encoder}
  {queries : QueryMapEncoder} {args : List Arg} {s s' : Session} {t : RequestTemplate}

/-- The URI is in front of the path of the template of a
call, which begins with a slash and has no question mark. -/
theorem created_uri_argument (hreads : DefaultDialect.dialect.Reads i op m) {k : Nat}
    {p : Parameter} (hp : op.params[k]? = some p) (huri : p.type.isUri = true)
    (honly : ∀ l q, op.params[l]? = some q → q.type.isUri = true → l = k)
    (huris : ∀ uri ∈ op.uris, uri.head? = some '/') (hencoder : encoder.KeepsUrl)
    (hcreate : (Binding.create encoder queries m args).on s = (.ok t, s')) :
    ∃ a u, args[k]? = some a ∧ a.uri? = some u ∧
      t.target.getD [] = dropFinalSlash (splitQuery u.toList).1 ∧ (∃ r, t.path = '/' :: r) ∧
      '?' ∉ t.path := by
  obtain ⟨m₀, -, hplaced, hmethod, -⟩ := DefaultDialect.parseOperation_ok hreads.read
  have hlast : ∀ l q, k < l → op.params[l]? = some q → q.type.isUri = false := by
    intro l q hl hq
    by_contra hquri
    have hlk := honly l q hq (by simpa using hquri)
    omega
  have hindex := DefaultDialect.urlIndex_of_last hplaced hp huri hlast
  rw [Nat.zero_add] at hindex
  obtain ⟨text, htext, hquery, hhead, hne⟩ :=
    (DefaultDialect.skeleton_of_reads hreads).path_text huris
  obtain ⟨bound, vars, hbound, htarget, hexpanded⟩ :=
    (Binding.created_of_create hcreate).target_uri hencoder
  obtain ⟨-, ⟨hnone, -⟩ | ⟨j, a, u, hj, ha, hu, rfl⟩⟩ := Binding.bindUri_ok hbound
  · rw [hindex] at hnone
    cases hnone
  rw [hindex] at hj
  cases hj
  rw [uri_setTarget, htext] at hexpanded
  have hpath : t.path = (Template.parse text).expand vars (.path (m.template.setTarget u.toList).decodeSlash)
      (m.template.setTarget u.toList).format := by
    rw [path, hexpanded, Template.chars_literal]
  refine ⟨a, u, ha, hu, by rw [htarget, getD_target_setTarget], ?_, ?_⟩
  · cases text with
    | nil => exact absurd rfl (hne hmethod)
    | cons c r =>
      obtain rfl := hhead c rfl
      obtain ⟨r', hr'⟩ := Template.expand_slash r vars (.path (m.template.setTarget u.toList).decodeSlash)
        (m.template.setTarget u.toList).format
      exact ⟨r', hpath.trans hr'⟩
  · rw [hpath]
    have hescaped : ∀ keep, (Place.path keep).escapes '?' = true := by decide
    exact Template.not_mem_expand (hescaped _) (by decide) fun _ hliteral hmem =>
      hquery (Template.mem_of_literal hliteral hmem)

/-- The path follows the URI that is passed exactly if it has no number sign, and if the URI begins
with `http://` or `https://` and has no fragment before its query. A URI that is spelled otherwise
is passed over for the base URL of the target. -/
theorem placed_uri_argument (j : Interface) (name url : String)
    (hreads : DefaultDialect.dialect.Reads i op m) {k : Nat} {p : Parameter}
    (hp : op.params[k]? = some p) (huri : p.type.isUri = true)
    (honly : ∀ l q, op.params[l]? = some q → q.type.isUri = true → l = k)
    (huris : ∀ uri ∈ op.uris, uri.head? = some '/') (hencoder : encoder.KeepsUrl)
    (hcreate : (Binding.create encoder queries m args).on s = (.ok t, s')) :
    ∃ a u t', args[k]? = some a ∧ a.uri? = some u ∧ (Target.fixed j name url).place t = .ok t' ∧
      t'.path = t.path ∧
      ∀ v, Url.parse u = .ok v →
        (isAbsolute u.toList = true → t' = t ∧ t'.target.getD [] = dropFinalSlash (splitQuery u.toList).1 ∧
          (Follows u.toList t.path t' ↔ '#' ∉ (splitQuery u.toList).1 ∧ '#' ∉ t.path)) ∧
        (isAbsolute u.toList = false → t' = t.setTarget url.toList ∧
          t'.target.getD [] = dropFinalSlash (splitQuery url.toList).1 ∧
          (Follows u.toList t.path t' ↔
            dropFinalSlash (splitQuery url.toList).1 = dropFinalSlash (Url.stem u.toList) ∧
            '#' ∉ t.path)) := by
  obtain ⟨a, u, ha, hu, htarget, ⟨r, hslash⟩, hquery⟩ :=
    created_uri_argument hreads hp huri honly huris hencoder hcreate
  have hplaced : ∃ t', (Target.fixed j name url).place t = .ok t' ∧
      t' = if isAbsolute t.url then t else t.setTarget url.toList := by
    unfold Target.place
    split
    · exact ⟨t, rfl, rfl⟩
    · exact ⟨_, rfl, rfl⟩
  obtain ⟨t', hplace, ht'⟩ := hplaced
  have hpath : t'.path = t.path := by
    rw [ht']
    split
    · rfl
    · exact path_setTarget _ _
  refine ⟨a, u, t', ha, hu, hplace, hpath, fun v hparse => ?_⟩
  have habsolute : isAbsolute t.url = isAbsolute u.toList := by
    obtain ⟨rest, hurl, -⟩ := t.url_split
    rw [hurl, htarget, hslash, List.append_assoc]
    exact isAbsolute_base_append hparse _
  have hfollows := follows_iff u.toList (t := t') (hpath ▸ hquery)
  rw [hpath] at hfollows
  rw [habsolute] at ht'
  constructor
  · intro hu
    rw [hu, if_pos rfl] at ht'
    subst ht'
    exact ⟨rfl, htarget, by rw [hfollows, htarget, dropFinalSlash_base_iff]⟩
  · intro hu
    rw [hu] at ht'
    simp only [Bool.false_eq_true, if_false] at ht'
    have htarget' : t'.target.getD [] = dropFinalSlash (splitQuery url.toList).1 := by
      rw [ht', getD_target_setTarget]
    exact ⟨ht', htarget', by rw [hfollows, htarget']⟩

/-- A URI with a query: the path goes in front of the query. -/
theorem placed_uri_argument_users :
    let id : Parameter := ⟨none, .simple "String", [.param "id" none]⟩
    let uri : Parameter := ⟨none, .simple "Uri", []⟩
    let op : Operation := ⟨"get", .abstract, [.requestLine "GET /users/\x7bid\x7d" true .exploded],
      [id, uri], .void⟩
    let i : Interface := .mk "Api" [] [] [] [op]
    let args : List Arg := [.value (.str "#7"), .value (.str "https://api.example/v1/?key=1")]
    let s : Session := ⟨0, 0, [], 0, fun _ => false, fun n => n, []⟩
    ∃ m t t' s' v, DefaultDialect.dialect.Reads i op m ∧ op.params[1]? = some uri ∧
      uri.type.isUri = true ∧
      (∀ l q, op.params[l]? = some q → q.type.isUri = true → l = 1) ∧
        (∀ uri ∈ op.uris, uri.head? = some '/') ∧
      Encoder.plain.KeepsUrl ∧ (Binding.create .plain .members m args).on s = (.ok t, s') ∧
      Url.parse "https://api.example/v1/?key=1" = .ok v ∧
      (Target.fixed i "api" "http://base.example").place t = .ok t' ∧
      Follows "https://api.example/v1/?key=1".toList t.path t' := by
  intro id uri op i args s
  obtain ⟨m, t, s', hreads, hcreate, hpath⟩ := DefaultDialect.exists_of_creates
    (rfl : Dialect.allOperations i = .ok [op])
    (show DefaultDialect.creates i .plain .members args s (fun _ t => !t.path.contains '#') = true by decide +kernel)
  have honly : ∀ l q, op.params[l]? = some q → q.type.isUri = true → l = 1 := by
    rintro (_ | _ | j) q hq huri
    · cases hq
      cases huri
    · rfl
    · cases hq
  have huris : ∀ uri ∈ op.uris, uri.head? = some '/' := by
    have hline : op.uris = ["/users/\x7bid\x7d".toList] := by decide +kernel
    rw [hline]
    decide
  obtain ⟨a, u, t', ha, hu, hplace, -, hfollows⟩ :=
    placed_uri_argument i "api" "http://base.example" hreads
    (rfl : op.params[1]? = some uri) rfl honly huris Encoder.Stock.plain.keepsUrl hcreate
  cases ha
  cases hu
  cases hparse : Url.parse "https://api.example/v1/?key=1" with
  | error e =>
    have hok : (Url.parse "https://api.example/v1/?key=1").isOk = true := by decide +kernel
    rw [hparse] at hok
    cases hok
  | ok v =>
    obtain ⟨-, -, hiff⟩ := (hfollows v hparse).1 (by decide)
    have hpath : '#' ∉ t.path := by simpa using hpath
    exact ⟨m, t, t', s', v, hreads, rfl, rfl, honly, huris, Encoder.Stock.plain.keepsUrl,
      hcreate, rfl, hplace, hiff.mpr ⟨by decide, hpath⟩⟩

/-- A URI with a fragment takes the path into it, and
one whose scheme is in capitals is passed over. -/
theorem placed_uri_argument_lost :
    let uri : Parameter := ⟨none, .simple "Uri", []⟩
    let op : Operation := ⟨"status", .abstract, [.requestLine "GET /status" true .exploded], [uri], .void⟩
    let i : Interface := .mk "Api" [] [] [] [op]
    let target := Target.fixed i "api" "http://base.example"
    let s : Session := ⟨0, 0, [], 0, fun _ => false, id, []⟩
    let sends (u url : String) : Prop := (Url.parse u).isOk = true ∧ ∃ m t t' s',
      DefaultDialect.dialect.Reads i op m ∧
      (Binding.create .plain .members m [.value (.str u)]).on s = (.ok t, s') ∧
      target.place t = .ok t' ∧ t'.url = url.toList ∧ ¬ Follows u.toList t.path t'
    sends "http://api.example/v1#frag" "http://api.example/v1#frag/status" ∧
      sends "HTTP://api.example/v1" "http://base.example/status" := by
  intro uri op i target s sends
  have hsends : ∀ u url : String, (Url.parse u).isOk = true →
      DefaultDialect.creates i .plain .members [.value (.str u)] s (fun _ t =>
        t.path == "/status".toList &&
        (target.place t).toOption.map RequestTemplate.url == some url.toList) = true →
      Url.stem url.toList ≠ dropFinalSlash (Url.stem u.toList) ++ "/status".toList →
        sends u url := by
    intro u url hparse hcreates hne
    obtain ⟨m, t, s', hreads, hcreate, ht⟩ := DefaultDialect.exists_of_creates
      (rfl : Dialect.allOperations i = .ok [op]) hcreates
    simp only [Bool.and_eq_true, beq_iff_eq] at ht
    obtain ⟨hpath, hurl⟩ := ht
    cases hplace : target.place t with
    | error e => rw [hplace] at hurl; cases hurl
    | ok t' =>
      rw [hplace] at hurl
      have hurl : t'.url = url.toList := Option.some.inj hurl
      refine ⟨hparse, m, t, t', s', hreads, hcreate, hplace, hurl, fun hfollows => hne ?_⟩
      rw [← hurl, hfollows.stem, hpath]
  exact ⟨hsends _ _ (by decide +kernel) (by decide +kernel) (by decide),
    hsends _ _ (by decide +kernel) (by decide +kernel) (by decide)⟩

end

end DeclarativeHttp
