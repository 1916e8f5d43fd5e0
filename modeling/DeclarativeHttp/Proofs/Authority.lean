import DeclarativeHttp.Proofs.Templates
import Mathlib.Data.List.TakeWhile

/-!
# The authority of a URL

The scheme and the authority of a web URL are read off the text up to the first slash, question mark
or number sign. What is put behind a base URL there cannot change them (`parseChars_continued`).
-/

namespace DeclarativeHttp

namespace Url

/-! ## Reading an authority -/

section
variable {p : Nat} {a b : List Char}

theorem splitUserinfo_append (ha : ∀ c ∈ a, (Kind.web p).endsAuthority c = false)
    (hb : ∀ c ∈ b.head?, (Kind.web p).endsAuthority c = true) :
    splitUserinfo (.web p) (a ++ b) = ((splitUserinfo (.web p) a).1, (splitUserinfo (.web p) a).2 ++ b) := by
  have htake : (a ++ b).takeWhile (fun c => !(Kind.web p).endsAuthority c) = a := by
    rw [Text.takeWhile_append_of_head fun c hc => by rw [hb c hc]; rfl]
    exact List.takeWhile_eq_self_iff.mpr fun c hc => by rw [ha c hc]; rfl
  have hself : a.takeWhile (fun c => !(Kind.web p).endsAuthority c) = a :=
    List.takeWhile_eq_self_iff.mpr fun c hc => by rw [ha c hc]; rfl
  simp only [splitUserinfo, htake, hself]
  split
  · rfl
  · rename_i host before hs
    have hlen : before.length + 1 ≤ a.length := by
      have := congrArg List.length (Text.splitFirst_eq hs)
      simp only [List.length_reverse, List.length_append, List.length_cons] at this
      omega
    rw [List.drop_append_of_le_length hlen]

theorem splitUserinfo_subset : ∀ c ∈ (splitUserinfo (.web p) a).2, c ∈ a := by
  unfold splitUserinfo
  intro c hc
  simp only at hc
  split at hc
  · exact hc
  · exact List.mem_of_mem_drop hc

theorem hostText_append (inside : Bool) (hb : ∀ c ∈ b.head?, (Kind.web p).endsAuthority c = true) :
    hostText (.web p) inside (a ++ b) =
      ((hostText (.web p) inside a).1, (hostText (.web p) inside a).2 ++ b) := by
  induction a generalizing inside with
  | nil =>
    cases b with
    | nil => rfl
    | cons c r => simp [hostText, hb c rfl]
  | cons c r ih =>
    simp only [List.cons_append, hostText, ih]
    split <;> rfl

theorem hostText_subset (inside : Bool) : ∀ c ∈ (hostText (.web p) inside a).2, c ∈ a := by
  induction a generalizing inside with
  | nil => simp [hostText]
  | cons c r ih =>
    unfold hostText
    split
    · exact fun c hc => hc
    · exact fun d hd => List.mem_cons_of_mem c (ih _ d hd)

theorem portDigits_append (port : Option Nat) (ha : ∀ c ∈ a, (Kind.web p).endsAuthority c = false)
    (hb : ∀ c ∈ b.head?, (Kind.web p).endsAuthority c = true) :
    portDigits (.web p) port (a ++ b) = (portDigits (.web p) port a).map fun (q, r) =>
      (q, r ++ b) := by
  induction a generalizing port with
  | nil =>
    cases b with
    | nil => rfl
    | cons c r =>
      have hc : c = '/' ∨ c = '?' ∨ c = '#' ∨ c = '\\' := by
        simpa [Kind.endsAuthority, Kind.isSpecial, or_assoc] using hb c rfl
      obtain rfl | rfl | rfl | rfl := hc <;> rfl
  | cons c r ih =>
    simp only [List.cons_append, portDigits]
    split
    · split
      · rfl
      · exact ih _ fun d hd => ha d (by simp [hd])
    · split <;> rfl

theorem port?_append (ha : ∀ c ∈ a, (Kind.web p).endsAuthority c = false)
    (hb : ∀ c ∈ b.head?, (Kind.web p).endsAuthority c = true) :
    port? (.web p) (a ++ b) = (port? (.web p) a).map fun (q, r) => (q, r ++ b) := by
  unfold port?
  rw [portDigits_append none ha hb]
  cases portDigits (.web p) none a with
  | error e => rfl
  | ok q => obtain ⟨_ | q, r⟩ := q <;> rfl

theorem portOf_append (ha : ∀ c ∈ a, (Kind.web p).endsAuthority c = false)
    (hb : ∀ c ∈ b.head?, (Kind.web p).endsAuthority c = true) :
    portOf (.web p) (a ++ b) = (portOf (.web p) a).map fun (q, r) => (q, r ++ b) := by
  cases a with
  | nil =>
    cases b with
    | nil => rfl
    | cons c r =>
      have hc : c ≠ ':' := by rintro rfl; cases hb ':' rfl
      simp [portOf, hc, Except.map]
  | cons c r =>
    by_cases hc : c = ':'
    · subst hc
      exact port?_append (fun d hd => ha d (by simp [hd])) hb
    · simp [portOf, hc, Except.map]

theorem authority?_append (ha : ∀ c ∈ a, (Kind.web p).endsAuthority c = false)
    (hb : ∀ c ∈ b.head?, (Kind.web p).endsAuthority c = true) :
    authority? (.web p) (a ++ b) = (authority? (.web p) a).map fun (q, r) => (q, r ++ b) := by
  have hsub := splitUserinfo_subset (p := p) (a := a)
  unfold authority?
  rw [splitUserinfo_append ha hb]
  generalize splitUserinfo (.web p) a = q at hsub ⊢
  obtain ⟨userinfo, r⟩ := q
  simp only [hostText_append false hb]
  cases r with
  | nil =>
    -- without a host there is no authority, whatever comes first
    have hempty : hostOf (.web p) [] = .error .emptyHost := rfl
    simp only [hostText, hempty, List.nil_append, List.head?_nil]
    split <;> simp [bind, Except.bind, Except.map]
  | cons c r =>
    have hc := ha c (hsub c (by simp))
    have hrest : ∀ d ∈ (hostText (.web p) false (c :: r)).2, (Kind.web p).endsAuthority d = false :=
      fun d hd => ha d (hsub d (hostText_subset false d hd))
    have hcolon : (((hostText (.web p) false (c :: r)).2 ++ b).head? == some ':') =
        ((hostText (.web p) false (c :: r)).2.head? == some ':') := by
      cases (hostText (.web p) false (c :: r)).2 with
      | nil =>
        cases b with
        | nil => rfl
        | cons d s =>
          have hd : d ≠ ':' := by rintro rfl; cases hb ':' rfl
          simp [hd]
      | cons d s => rfl
    simp only [List.cons_append, List.head?_cons, Option.map_some, Option.getD_some, hc,
      Bool.and_false, Bool.false_eq_true, if_false, hcolon, portOf_append hrest hb]
    cases hostOf (.web p) (hostText (.web p) false (c :: r)).1 with
    | error e => rfl
    | ok host =>
      simp only [bind, Except.bind]
      split
      · rfl
      · cases portOf (.web p) (hostText (.web p) false (c :: r)).2 with
        | error e => rfl
        | ok q => simp only [Except.map]; split <;> rfl

/-- Which authority is read depends only on the text up to the character that ends it. -/
theorem authority?_fst (s : List Char) : (authority? (.web p) s).map Prod.fst =
    (authority? (.web p) (s.takeWhile fun c => !(Kind.web p).endsAuthority c)).map Prod.fst := by
  generalize ha : (s.takeWhile fun c => !(Kind.web p).endsAuthority c) = a
  generalize hb : (s.dropWhile fun c => !(Kind.web p).endsAuthority c) = b
  have hs : s = a ++ b := by rw [← ha, ← hb, List.takeWhile_append_dropWhile]
  have htake : ∀ c ∈ a, (Kind.web p).endsAuthority c = false := by
    intro c hc
    rw [← ha] at hc
    simpa using List.mem_takeWhile_imp hc
  have hdrop : ∀ c ∈ b.head?, (Kind.web p).endsAuthority c = true := by
    intro c hc
    have hnot := List.head?_dropWhile_not (fun c => !(Kind.web p).endsAuthority c) s
    rw [hb, hc] at hnot
    simpa using hnot
  rw [hs, authority?_append htake hdrop]
  cases authority? (.web p) a with
  | error e => rfl
  | ok q => rfl

end

/-! ## Continuing a base URL -/

theorem parseChars_web {s scheme r : List Char} {p : Nat}
    (hs : scheme? (clean s) = some (scheme, r)) (hk : kindOf scheme = .web p) : parseChars s =
      (authority? (.web p) (r.dropWhile isSlash)).map
        fun q => finish (.web p) scheme (some q.1) q.2 (hierarchicalPath (.web p)) := by
  unfold parseChars
  rw [hs]
  simp only [hk]
  cases authority? (.web p) (r.dropWhile isSlash) <;> rfl

def isEdge (c : Char) : Bool := decide (c.toNat ≤ 0x20)

def isKept (c : Char) : Bool := c != '\t' && c != '\n' && c != '\r'

def cleanEnd (s : List Char) : List Char := (s.reverse.dropWhile isEdge).reverse.filter isKept

theorem clean_eq (s : List Char) : clean s = cleanEnd (s.dropWhile isEdge) := rfl

theorem cleanEnd_cons {c : Char} {r : List Char} (hc : isEdge c = false) (hk : isKept c = true) :
    cleanEnd (c :: r) = c :: cleanEnd r := by
  unfold cleanEnd
  rw [List.reverse_cons, List.dropWhile_append]
  split
  · rename_i hempty
    rw [List.isEmpty_iff.mp hempty]
    simp [hc, hk]
  · simp [hk]

theorem cleanEnd_local {s : List Char} (h : RequestTemplate.Local s) :
    RequestTemplate.Local (cleanEnd s) := by
  cases s with
  | nil => exact h
  | cons c r =>
    have hc := h c rfl
    rw [cleanEnd_cons (by obtain rfl | rfl := hc <;> rfl) (by obtain rfl | rfl := hc <;> rfl)]
    intro d hd
    cases hd
    exact hc

theorem clean_append {s : List Char} (rest : List Char) (hs : ∀ c ∈ s, 0x20 < c.toNat)
    (hne : s ≠ []) :
    clean (s ++ rest) = s ++ cleanEnd rest := by
  have hplain : ∀ c ∈ s, isEdge c = false ∧ isKept c = true := by
    intro c hc
    have h := hs c hc
    refine ⟨by simp only [isEdge, decide_eq_false_iff_not]; omega, ?_⟩
    simp only [isKept, Bool.and_eq_true, bne_iff_ne]
    refine ⟨⟨?_, ?_⟩, ?_⟩ <;> rintro rfl <;> revert h <;> decide
  have hstart : (s ++ rest).dropWhile isEdge = s ++ rest := by
    cases s with
    | nil => exact absurd rfl hne
    | cons c s => rw [List.cons_append, List.dropWhile_cons_of_neg (by simp [(hplain c (by simp)).1])]
  rw [clean_eq, hstart]
  clear hstart hne hs
  induction s with
  | nil => rfl
  | cons c s ih =>
    obtain ⟨hedge, hkept⟩ := hplain c (by simp)
    rw [List.cons_append, cleanEnd_cons hedge hkept, ih fun d hd => hplain d (by simp [hd])]
    rfl

theorem absolute_web {s : List Char} (h : RequestTemplate.isAbsolute s = true) :
    ∃ scheme p b, s = scheme ++ ':' :: '/' :: '/' :: b ∧ kindOf scheme = .web p ∧
      ∀ r, scheme? (scheme ++ ':' :: r) = some (scheme, r) := by
  obtain ⟨⟨start, b⟩, hb⟩ := Option.isSome_iff_exists.mp h
  obtain ⟨rfl, rfl | rfl⟩ := RequestTemplate.absolute?_eq hb
  · exact ⟨"http".toList, 80, b, rfl, by decide, fun r => rfl⟩
  · exact ⟨"https".toList, 443, b, rfl, by decide, fun r => rfl⟩

/-- The text that the authority of a web URL is read from; more slashes than two are passed over. -/
def authorityText (p : Nat) (b : List Char) : List Char :=
  (b.dropWhile isSlash).takeWhile fun c => !(Kind.web p).endsAuthority c

theorem authorityText_dropFinalSlash {p : Nat} {b : List Char}
    (hb : b.dropWhile isSlash ≠ []) :
    authorityText p (RequestTemplate.dropFinalSlash b) = authorityText p b ∧
      (RequestTemplate.dropFinalSlash b).dropWhile isSlash ≠ [] := by
  unfold RequestTemplate.dropFinalSlash
  split
  · rename_i hlast
    obtain ⟨c, rfl⟩ := List.getLast?_eq_some_iff.mp hlast
    rw [List.dropWhile_append] at hb
    unfold authorityText
    rw [List.dropLast_concat, List.dropWhile_append]
    split at hb
    · exact absurd rfl hb
    · rename_i hne
      rw [if_neg hne, Text.takeWhile_append_of_head (by intro d hd; cases hd; rfl)]
      exact ⟨rfl, fun h => hne (List.isEmpty_iff.mpr h)⟩
  · exact ⟨rfl, hb⟩

theorem parseChars_authority {scheme b : List Char} {p : Nat} (rest : List Char)
    (hk : kindOf scheme = .web p) (hs : ∀ r, scheme? (scheme ++ ':' :: r) = some (scheme, r))
    (hrest : RequestTemplate.Local rest)
    (hplain : ∀ c ∈ scheme ++ ':' :: '/' :: '/' :: b, 0x20 < c.toNat)
    (hb : b.dropWhile isSlash ≠ []) :
    (parseChars (scheme ++ ':' :: '/' :: '/' :: b ++ rest)).map (fun u => (u.scheme, u.authority)) =
      (authority? (.web p) (authorityText p b)).map fun q => (scheme, some q.1) := by
  have hclean := clean_append rest hplain (by simp)
  have hlocal := cleanEnd_local hrest
  generalize cleanEnd rest = rest' at hclean hlocal
  have hscheme : scheme? (clean (scheme ++ ':' :: '/' :: '/' :: b ++ rest)) =
      some (scheme, '/' :: '/' :: (b ++ rest')) := by
    rw [hclean, List.append_assoc]
    exact hs _
  have hdrop : ('/' :: '/' :: (b ++ rest')).dropWhile isSlash =
      b.dropWhile isSlash ++ rest' := by
    show ((b ++ rest').dropWhile _) = _
    rw [List.dropWhile_append, if_neg (by simpa using hb)]
  have htake : ((b.dropWhile isSlash ++ rest').takeWhile
      fun c => !(Kind.web p).endsAuthority c) = authorityText p b := by
    refine Text.takeWhile_append_of_head fun c hc => ?_
    obtain rfl | rfl := hlocal c hc <;> rfl
  have hfst := authority?_fst (p := p) (b.dropWhile isSlash ++ rest')
  rw [htake] at hfst
  rw [parseChars_web hscheme hk, hdrop]
  generalize authority? (.web p) (b.dropWhile isSlash ++ rest') = x at hfst ⊢
  generalize authority? (.web p) (authorityText p b) = y at hfst ⊢
  cases x <;> cases y <;> simp_all [Except.map, finish]

/-- What is put behind a base URL keeps its scheme and its authority. -/
theorem parseChars_continued {base rest : List Char} {u₀ : Url}
    (habsolute : RequestTemplate.isAbsolute base = true) (hplain : ∀ c ∈ base, 0x20 < c.toNat)
    (hbase : parseChars base = .ok u₀) (hrest : RequestTemplate.Local rest) :
    ∃ u, parseChars (RequestTemplate.dropFinalSlash base ++ rest) = .ok u ∧
      u.scheme = u₀.scheme ∧ u.authority = u₀.authority := by
  obtain ⟨scheme, p, b, rfl, hk, hs⟩ := absolute_web habsolute
  have hb : b.dropWhile isSlash ≠ [] := by
    -- without a host the base would be no URL
    intro hb
    have hclean : clean (scheme ++ ':' :: '/' :: '/' :: b) = scheme ++ ':' :: '/' :: '/' :: b := by
      simpa [cleanEnd] using clean_append [] hplain (by simp)
    have hscheme := hs ('/' :: '/' :: b)
    rw [← hclean] at hscheme
    have hparse := parseChars_web hscheme hk
    have hnone : ('/' :: '/' :: b).dropWhile isSlash = [] := hb
    rw [hbase, hnone] at hparse
    cases hparse
  obtain ⟨htext, hb'⟩ := authorityText_dropFinalSlash (p := p) hb
  have hne : b ≠ [] := by rintro rfl; exact hb rfl
  have hdrop : RequestTemplate.dropFinalSlash (scheme ++ ':' :: '/' :: '/' :: b) =
      scheme ++ ':' :: '/' :: '/' :: RequestTemplate.dropFinalSlash b := by
    have := RequestTemplate.dropFinalSlash_append (a := scheme ++ [':', '/', '/']) hne
    simpa using this
  have hplain' : ∀ c ∈ scheme ++ ':' :: '/' :: '/' :: RequestTemplate.dropFinalSlash b,
      0x20 < c.toNat := by
    rw [← hdrop]
    exact fun c hc => hplain c (RequestTemplate.dropFinalSlash_subset hc)
  have hold := parseChars_authority [] hk hs (by intro c hc; cases hc) hplain hb
  have hnew := parseChars_authority rest hk hs hrest hplain' hb'
  rw [htext, ← hold, List.append_nil, hbase] at hnew
  rw [hdrop]
  cases hu : parseChars (scheme ++ ':' :: '/' :: '/' :: RequestTemplate.dropFinalSlash b ++ rest) with
  | error e => rw [hu] at hnew; cases hnew
  | ok u =>
    rw [hu] at hnew
    simp only [Except.map, Except.ok.injEq, Prod.mk.injEq] at hnew
    exact ⟨u, rfl, hnew⟩

end Url

end DeclarativeHttp
