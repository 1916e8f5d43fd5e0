import DeclarativeHttp.Proofs.Segments
import DeclarativeHttp.Proofs.UriArgument

/-!
# Reading a path below a base URL

The path of a web URL is made of the segments that are written in it
(`path_of_parseChars`), and those of a path that is put below a base
are read one by one, behind those of the base (`Below.written_eq`).
-/

namespace DeclarativeHttp

namespace Url

/-! ## Cleaning -/

theorem cleanEnd_append {c : Char} (hc : isEdge c = false) (hk : isKept c = true)
    (a b : List Char) :
    cleanEnd (a ++ c :: b) = a.filter isKept ++ c :: cleanEnd b := by
  rw [← cleanEnd_cons hc hk]
  have hne : ((c :: b).reverse.dropWhile isEdge).isEmpty = false := by
    rw [List.reverse_cons, List.dropWhile_append]
    split <;> simp [hc]
  rw [cleanEnd, cleanEnd, List.reverse_append, List.dropWhile_append, hne, if_neg (by decide),
    List.reverse_append, List.reverse_reverse, List.filter_append]

theorem clean_append_cons {c : Char} (hc : isEdge c = false) (hk : isKept c = true)
    (a b : List Char) :
    clean (a ++ c :: b) = (a.dropWhile isEdge).filter isKept ++ c :: cleanEnd b := by
  have hstart : (a ++ c :: b).dropWhile isEdge = a.dropWhile isEdge ++ c :: b := by
    rw [List.dropWhile_append]
    split
    · rename_i h
      rw [List.isEmpty_iff.mp h, List.dropWhile_cons_of_neg (by simp [hc])]
      rfl
    · rfl
  rw [clean_eq, hstart, cleanEnd_append hc hk]

theorem exists_filter_eq (s : List Char) : ∃ blanks, s.filter isKept = cleanEnd s ++ blanks := by
  refine ⟨((s.reverse.takeWhile isEdge).reverse).filter isKept, ?_⟩
  rw [cleanEnd, ← List.filter_append, ← List.reverse_append, List.takeWhile_append_dropWhile,
    List.reverse_reverse]

/-! ## Schemes and authorities -/

theorem scheme?_eq_some {s scheme r : List Char} (h : scheme? s = some (scheme, r)) :
    ∃ front, s = front ++ ':' :: r ∧ (∀ c ∈ front, isSchemeChar c = true) ∧
      ∀ r', scheme? (front ++ ':' :: r') = some (scheme, r') := by
  cases s with
  | nil => cases h
  | cons c s =>
    unfold scheme? at h
    dsimp only at h
    split at h
    · cases h
    · rename_i halpha
      split at h
      · rename_i rest hrest
        cases h
        have hsplit : c :: s = (c :: s).takeWhile isSchemeChar ++ ':' :: r := by
          rw [← hrest, List.takeWhile_append_dropWhile]
        have hfront : ∀ d ∈ (c :: s).takeWhile isSchemeChar, isSchemeChar d = true :=
          fun d hd => List.mem_takeWhile_imp hd
        have hcons : ∃ front, (c :: s).takeWhile isSchemeChar = c :: front := by
          have hc : isSchemeChar c = true := by
            simp only [isSchemeChar, Char.isAlphanum]
            simp at halpha
            simp [halpha]
          exact ⟨_, List.takeWhile_cons_of_pos hc⟩
        refine ⟨_, hsplit, hfront, fun r' => ?_⟩
        obtain ⟨front, hcons⟩ := hcons
        rw [hcons] at hfront ⊢
        have htake : (c :: front ++ ':' :: r').takeWhile isSchemeChar = c :: front := by
          rw [List.takeWhile_append_of_pos hfront, List.takeWhile_cons_of_neg (by decide),
            List.append_nil]
        have hdrop : (c :: front ++ ':' :: r').dropWhile isSchemeChar = ':' :: r' := by
          rw [List.dropWhile_append_of_pos hfront, List.dropWhile_cons_of_neg (by decide)]
        unfold scheme?
        rw [List.cons_append] at htake hdrop ⊢
        dsimp only
        rw [if_neg halpha, hdrop, htake]
        rfl
      · cases h

theorem scheme_of_fileUrl {scheme r : List Char} {u : Url} (h : fileUrl scheme r = .ok u) :
    u.scheme = scheme := by
  unfold fileUrl at h
  split at h
  · unfold hostedFileUrl at h
    dsimp only at h
    split at h
    · cases h; rfl
    · split at h
      · cases h; rfl
      · cases hhost : Host.parse ((r.drop 2).takeWhile fun c => !isSlash c && !endsPath c) with
        | error e => rw [hhost] at h; cases h
        | ok host =>
          rw [hhost] at h
          simp only [bind, Except.bind] at h
          split at h <;> (cases h; rfl)
  · cases h; rfl

theorem scheme_of_parseChars {s : List Char} {u : Url} (h : parseChars s = .ok u) :
    ∃ r, scheme? (clean s) = some (u.scheme, r) := by
  unfold parseChars at h
  split at h
  · cases h
  · rename_i scheme r hs
    have hscheme : u.scheme = scheme := by
      split at h
      · exact scheme_of_fileUrl h
      · rename_i p _
        dsimp only at h
        cases ha : authority? (.web p) (r.dropWhile isSlash) with
        | error e => rw [ha] at h; cases h
        | ok q => rw [ha] at h; cases h; rfl
      · split at h
        · rename_i r'
          cases ha : authority? .other r' with
          | error e => rw [ha] at h; cases h
          | ok q => rw [ha] at h; cases h; rfl
        · cases h; rfl
        · cases h; rfl
    exact ⟨r, by rw [hs, hscheme]⟩

theorem dropWhile_slashes {a b : List Char} (h : a.dropWhile isSlash = []) :
    (a ++ b).dropWhile isSlash = b.dropWhile isSlash := by
  rw [List.dropWhile_append, h]
  rfl

/-- A character that no scheme has stands behind the colon of the scheme. -/
theorem exists_scheme_before {base front r r' : List Char} {c : Char} (hedge : isEdge c = false)
    (hkept : isKept c = true) (hscheme : isSchemeChar c = false) (hcolon : c ≠ ':')
    (hfront : ∀ d ∈ front, isSchemeChar d = true)
    (hclean : clean (base ++ c :: r') = front ++ ':' :: r) :
    ∃ a, (base.dropWhile isEdge).filter isKept = front ++ ':' :: a ∧ r = a ++ c :: cleanEnd r' := by
  rw [clean_append_cons hedge hkept] at hclean
  obtain ⟨x, hx, hr⟩ | ⟨x, hx, hr⟩ := List.append_eq_append_iff.mp hclean
  · cases x with
    | nil => exact absurd (List.cons.inj hr).1 hcolon
    | cons d x =>
      obtain ⟨rfl, -⟩ := List.cons.inj hr
      have hmem := hfront c (by rw [hx]; simp)
      rw [hscheme] at hmem
      cases hmem
  · cases x with
    | nil => exact absurd (List.cons.inj hr).1.symm hcolon
    | cons d x =>
      obtain ⟨rfl, htail⟩ := List.cons.inj hr
      exact ⟨x, hx, htail⟩

/-- Up to its query and less a slash at its end, a web URL still
has its scheme, and something that is no slash behind it. -/
theorem exists_scheme_of_base {u : List Char} {v : Url} {p : Nat} (hparse : parseChars u = .ok v)
    (hk : kindOf v.scheme = .web p) :
    ∃ front a, ((RequestTemplate.dropFinalSlash (RequestTemplate.splitQuery u).1).dropWhile isEdge).filter isKept =
        front ++ ':' :: a ∧
      (∀ r, scheme? (front ++ ':' :: r) = some (v.scheme, r)) ∧ a.dropWhile isSlash ≠ [] := by
  obtain ⟨r, hscheme⟩ := scheme_of_parseChars hparse
  obtain ⟨front, hclean, hfront, hs⟩ := scheme?_eq_some hscheme
  have hhost : ∀ s : List Char, (∀ c ∈ s.head?, c = '?') → r.dropWhile isSlash ≠ s := by
    intro s hs h
    rw [parseChars_web hscheme hk, h, authority?_hostless hs] at hparse
    cases hparse
  obtain ⟨rest, hu, hrest⟩ := RequestTemplate.splitQuery_append u
  have hbase := RequestTemplate.eq_of_dropFinalSlash (RequestTemplate.splitQuery u).1
  generalize RequestTemplate.dropFinalSlash (RequestTemplate.splitQuery u).1 = base at hbase ⊢
  -- the base ends the URL, or a question mark or a slash is behind it
  obtain hbase | hbase := hbase
  · rw [hbase] at hu
    cases rest with
    | nil =>
      obtain ⟨blanks, hblanks⟩ := exists_filter_eq (base.dropWhile isEdge)
      rw [List.append_nil] at hu
      rw [hu, clean_eq] at hclean
      rw [hclean, List.append_assoc] at hblanks
      refine ⟨front, r ++ blanks, hblanks, hs, fun hslashes => hhost [] (by simp) ?_⟩
      rw [List.dropWhile_eq_nil_iff] at hslashes ⊢
      exact fun c hc => hslashes c (List.mem_append_left _ hc)
    | cons d r' =>
      obtain rfl := hrest d rfl
      rw [hu] at hclean
      obtain ⟨a, ha, hr⟩ := exists_scheme_before rfl rfl rfl (by decide) hfront hclean
      refine ⟨front, a, ha, hs, fun hslashes => hhost ('?' :: cleanEnd r') (by simp) ?_⟩
      rw [hr, dropWhile_slashes hslashes]
      rfl
  · have hu : u = base ++ '/' :: rest := by
      rw [hu, hbase, List.append_assoc]
      rfl
    rw [hu] at hclean
    obtain ⟨a, ha, hr⟩ := exists_scheme_before rfl rfl rfl (by decide) hfront hclean
    have hend := cleanEnd_head hrest
    refine ⟨front, a, ha, hs, fun hslashes => hhost (cleanEnd rest) hend ?_⟩
    rw [hr, dropWhile_slashes hslashes, List.dropWhile_cons_of_pos rfl]
    cases hc : cleanEnd rest with
    | nil => rfl
    | cons d s =>
      obtain rfl := hend d (by rw [hc]; rfl)
      rfl

/-! ## What is left behind an authority -/

section
variable {p : Nat} {a r : List Char}

theorem hostText_rest (ha : ∀ c ∈ a, (Kind.web p).endsAuthority c = false) (inside : Bool) :
    ∀ c ∈ (hostText (.web p) inside a).2.head?, c = ':' := by
  induction a generalizing inside with
  | nil => intro c hc; cases hc
  | cons c a ih =>
    unfold hostText
    rw [ha c (by simp), Bool.false_or]
    split
    · rename_i hcolon
      intro d hd
      cases hd
      simp only [Bool.and_eq_true, beq_iff_eq] at hcolon
      exact hcolon.1
    · exact ih (fun d hd => ha d (by simp [hd])) _

theorem portDigits_rest {port q : Option Nat} (ha : ∀ c ∈ a, (Kind.web p).endsAuthority c = false)
    (h : portDigits (.web p) port a = .ok (q, r)) : r = [] := by
  induction a generalizing port with
  | nil => cases h; rfl
  | cons c a ih =>
    rw [portDigits] at h
    split at h
    · dsimp only at h
      split at h
      · cases h
      · exact ih (fun d hd => ha d (by simp [hd])) h
    · split at h
      · rename_i hc
        have hend := ha c (by simp)
        simp only [Kind.endsAuthority, Kind.isSpecial, Bool.or_eq_false_iff, beq_eq_false_iff_ne,
          Bool.and_true] at hend
        simp [hend] at hc
      · cases h

theorem portOf_rest {q : Option Nat} (ha : ∀ c ∈ a, (Kind.web p).endsAuthority c = false)
    (hcolon : ∀ c ∈ a.head?, c = ':') (h : portOf (.web p) a = .ok (q, r)) : r = [] := by
  cases a with
  | nil => cases h; rfl
  | cons c a =>
    obtain rfl := hcolon c rfl
    rw [portOf, port?] at h
    cases hp : portDigits (.web p) none a with
    | error e => rw [hp] at h; cases h
    | ok x =>
      obtain ⟨port, rest⟩ := x
      obtain rfl := portDigits_rest (fun d hd => ha d (by simp [hd])) hp
      rw [hp] at h
      cases port <;> (cases h; rfl)

theorem authority?_rest {q : Authority} (ha : ∀ c ∈ a, (Kind.web p).endsAuthority c = false)
    (h : authority? (.web p) a = .ok (q, r)) : r = [] := by
  have hsub := splitUserinfo_subset (p := p) (a := a)
  unfold authority? at h
  generalize splitUserinfo (.web p) a = x at hsub h
  obtain ⟨userinfo, b⟩ := x
  have hb : ∀ c ∈ b, (Kind.web p).endsAuthority c = false := fun c hc => ha c (hsub c hc)
  have hrest : ∀ c ∈ (hostText (.web p) false b).2, (Kind.web p).endsAuthority c = false :=
    fun c hc => hb c (hostText_subset false c hc)
  have hcolon := hostText_rest hb false
  dsimp only at h
  split at h
  · cases h
  · cases hhost : hostOf (.web p) (hostText (.web p) false b).1 with
    | error e => rw [hhost] at h; cases h
    | ok host =>
      rw [hhost] at h
      simp only [bind, Except.bind] at h
      split at h
      · cases h
      · cases hport : portOf (.web p) (hostText (.web p) false b).2 with
        | error e => rw [hport] at h; cases h
        | ok y =>
          obtain ⟨port, rest⟩ := y
          obtain rfl := portOf_rest hrest hcolon hport
          rw [hport] at h
          simp only at h
          split at h <;> cases h
          rfl

theorem endsAuthority_head_dropWhile (s : List Char) :
    ∀ c ∈ (s.dropWhile fun c => !(Kind.web p).endsAuthority c).head?,
      (Kind.web p).endsAuthority c = true := by
  intro c hc
  have hend := List.head?_dropWhile_not (fun c => !(Kind.web p).endsAuthority c) s
  rw [hc] at hend
  simpa using hend

theorem authority?_below (ha : ∀ c ∈ a, (Kind.web p).endsAuthority c = false)
    (hr : ∀ c ∈ r.head?, (Kind.web p).endsAuthority c = true) :
    authority? (.web p) (a ++ r) = (authority? (.web p) a).map fun q => (q.1, r) := by
  rw [authority?_append ha hr]
  cases h : authority? (.web p) a with
  | error e => rfl
  | ok q =>
    obtain ⟨q, rest⟩ := q
    obtain rfl := authority?_rest ha h
    rfl

theorem authority?_split (s : List Char) : authority? (.web p) s =
    (authority? (.web p) (s.takeWhile fun c => !(Kind.web p).endsAuthority c)).map
      fun q => (q.1, s.dropWhile fun c => !(Kind.web p).endsAuthority c) := by
  have htake : ∀ c ∈ s.takeWhile fun c => !(Kind.web p).endsAuthority c,
      (Kind.web p).endsAuthority c = false :=
    fun c hc => by simpa using List.mem_takeWhile_imp hc
  have hsplit := authority?_below htake (endsAuthority_head_dropWhile s)
  rwa [List.takeWhile_append_dropWhile] at hsplit

theorem slash_of_endsAuthority {c : Char} (h : (Kind.web p).endsAuthority c = true)
    (hc : endsPath c = false) :
    c = '/' ∨ c = '\\' := by
  simp only [endsPath, Bool.or_eq_false_iff, beq_eq_false_iff_ne] at hc
  simp only [Kind.endsAuthority, Kind.isSpecial, Bool.and_true, Bool.or_eq_true, beq_iff_eq, hc.1,
    hc.2, or_false] at h
  exact h

end

/-! ## Segments as they are written -/

def pathPieces (text : List Char) : List (List Char) :=
  ((text.map fun c => if c = '\\' then '/' else c).splitOn '/').map (Percent.encode pathSet)

/-- The path of a web URL, in segments as they are written: with its dot segments. -/
def written (s : List Char) : List (List Char) :=
  match scheme? (clean s) with
  | none => []
  | some (scheme, r) =>
    match authority? (kindOf scheme) (r.dropWhile isSlash) with
    | .error _ => []
    | .ok (_, r) => pathPieces ((r.takeWhile fun c => !endsPath c).drop 1)

theorem hierarchicalPath_eq {c : Char} {p : Nat} (hc : c = '/' ∨ c = '\\') (r : List Char) :
    hierarchicalPath (.web p) (c :: r) = .segments (pushSegments (.web p) [] (pathPieces r)).reverse := by
  obtain rfl | rfl := hc <;> rfl

/-- The path of a web URL is what is left of its segments when the dot segments are taken out. -/
theorem path_of_parseChars {s : List Char} {u : Url} {p : Nat} (h : parseChars s = .ok u)
    (hk : kindOf u.scheme = .web p) :
    u.path = .segments (pushSegments (.web p) [] (written s)).reverse := by
  obtain ⟨r, hscheme⟩ := scheme_of_parseChars h
  rw [parseChars_web hscheme hk] at h
  have hwritten : ∀ q, authority? (.web p) (r.dropWhile isSlash) = .ok q →
      written s = pathPieces ((q.2.takeWhile fun c => !endsPath c).drop 1) := by
    intro q hq
    unfold written
    rw [hscheme]
    dsimp only
    rw [hk, hq]
  have hsplit := authority?_split (p := p) (r.dropWhile isSlash)
  have hend := endsAuthority_head_dropWhile (p := p) (r.dropWhile isSlash)
  generalize (r.dropWhile isSlash).dropWhile (fun c => !(Kind.web p).endsAuthority c) =
    path at hsplit hend
  cases ha : authority? (.web p) ((r.dropWhile isSlash).takeWhile fun c => !(Kind.web p).endsAuthority c) with
  | error e =>
    rw [hsplit, ha] at h
    cases h
  | ok q =>
    rw [ha] at hsplit
    rw [hsplit] at h
    have hpath : u.path = hierarchicalPath (.web p) (path.takeWhile fun c => !endsPath c) :=
      (congrArg Url.path (Except.ok.inj h)).symm
    rw [hpath, hwritten _ hsplit]
    cases path with
    | nil => rfl
    | cons c path =>
      by_cases hc : endsPath c = true
      · rw [List.takeWhile_cons_of_neg (by simp [hc])]
        rfl
      · rw [List.takeWhile_cons_of_pos (by simp [hc])]
        exact hierarchicalPath_eq (slash_of_endsAuthority (hend c rfl) (by simpa using hc)) _

/-- What cleaning leaves of a part of a URL, which may be its end. -/
def cleaned (ended : Bool) (s : List Char) : List Char :=
  if ended then cleanEnd s else s.filter isKept

theorem cleaned_append (ended : Bool) (a b : List Char) :
    cleaned ended (a ++ '/' :: b) = a.filter isKept ++ '/' :: cleaned ended b := by
  cases ended with
  | true => exact cleanEnd_append rfl rfl a b
  | false => exact List.filter_append ..

theorem mem_of_mem_cleaned {ended : Bool} {s : List Char} {c : Char} (h : c ∈ cleaned ended s) :
    c ∈ s := by
  cases ended with
  | true =>
    have hmem := List.mem_reverse.mp (List.mem_of_mem_filter h)
    exact List.mem_reverse.mp ((List.dropWhile_sublist _).subset hmem)
  | false => exact List.mem_of_mem_filter h

theorem cleanEnd_path_append (path : List Char) {rest : List Char}
    (hrest : ∀ c ∈ rest.head?, c = '?') :
    cleanEnd (path ++ rest) = cleaned rest.isEmpty path ++ cleanEnd rest := by
  cases rest with
  | nil =>
    rw [List.append_nil]
    exact (List.append_nil _).symm
  | cons c r =>
    obtain rfl := hrest c rfl
    rw [cleanEnd_append rfl rfl, cleanEnd_cons rfl rfl]
    rfl

def readSegments (ended : Bool) : List (List Char) → List (List Char)
  | [] => []
  | [s] => [Percent.encode pathSet (cleaned ended s)]
  | s :: t :: rest => Percent.encode pathSet (s.filter isKept) :: readSegments ended (t :: rest)

theorem map_encode_splitOn_cleaned (ended : Bool) (s : List Char) :
    ((cleaned ended s).splitOn '/').map (Percent.encode pathSet) =
      readSegments ended (s.splitOn '/') := by
  induction s using Text.pieces_induction '/' with
  | piece s hs =>
    rw [List.splitOn_eq_singleton hs, List.splitOn_eq_singleton fun h => hs (mem_of_mem_cleaned h)]
    rfl
  | step a b ha ih =>
    have ha' : '/' ∉ a.filter isKept := fun h => ha (List.mem_of_mem_filter h)
    obtain ⟨q, qs, hq⟩ := List.exists_cons_of_ne_nil (List.splitOn_ne_nil '/' b)
    rw [cleaned_append, List.splitOn_append_cons_self, List.splitOn_append_cons_self, List.splitOn_eq_singleton ha',
      List.splitOn_eq_singleton ha, List.map_append, ih, hq]
    rfl

theorem length_readSegments (ended : Bool) (segments : List (List Char)) :
    (readSegments ended segments).length = segments.length := by
  induction segments with
  | nil => rfl
  | cons s rest ih =>
    cases rest with
    | nil => rfl
    | cons t rest => rw [readSegments, List.length_cons, ih]; rfl

/-- How a segment is read depends on nothing but its own text and whether it is the last. -/
theorem getElem?_readSegments (ended : Bool) {segments segments' : List (List Char)} {k : Nat}
    (hlength : segments.length = segments'.length) (hk : segments[k]? = segments'[k]?) :
    (readSegments ended segments)[k]? = (readSegments ended segments')[k]? := by
  induction segments generalizing segments' k with
  | nil =>
    obtain rfl := List.length_eq_zero_iff.mp hlength.symm
    rfl
  | cons s rest ih =>
    cases segments' with
    | nil => cases hlength
    | cons s' rest' =>
      have hlength : rest.length = rest'.length := Nat.succ.inj hlength
      cases rest with
      | nil =>
        obtain rfl := List.length_eq_zero_iff.mp hlength.symm
        cases k with
        | zero => rw [Option.some.inj hk]
        | succ k => rfl
      | cons t rest =>
        cases rest' with
        | nil => cases hlength
        | cons t' rest' =>
          cases k with
          | zero =>
            obtain rfl : s = s' := Option.some.inj hk
            rfl
          | succ k => exact ih hlength hk

theorem getElem?_append_readSegments (start : List (List Char)) (ended : Bool)
    {segments segments' : List (List Char)} {k : Nat} (hlength : segments.length = segments'.length)
    (hk : segments[k]? = segments'[k]?) :
    (start ++ readSegments ended segments)[start.length + k]? =
      (start ++ readSegments ended segments')[start.length + k]? := by
  rw [List.getElem?_append_right (Nat.le_add_right _ _), List.getElem?_append_right (Nat.le_add_right _ _)]
  exact getElem?_readSegments ended hlength (by rwa [Nat.add_sub_cancel_left])

/-! ## Paths below a base -/

theorem takeWhile_path {a b : List Char} (ha : ∀ c ∈ a, endsPath c = false)
    (hb : ∀ c ∈ b.head?, c = '?') :
    (a ++ b).takeWhile (fun c => !endsPath c) = a := by
  have hstem := stem_append b ha
  rwa [stem_of_head hb, List.append_nil] at hstem

theorem pathPieces_of_not_mem {text : List Char} (h : '\\' ∉ text) :
    pathPieces text = (text.splitOn '/').map (Percent.encode pathSet) := by
  have hmap : (text.map fun c => if c = '\\' then '/' else c) = text := by
    have hsame : ∀ c ∈ text, (if c = '\\' then '/' else c) = c := by
      intro c hc
      exact if_neg fun he : c = '\\' => h (he ▸ hc)
    rw [List.map_congr_left hsame, List.map_id']
  rw [pathPieces, hmap]

/-- A base URL, up to its query and less a slash at its end, as the reader of a URL takes it apart:
scheme, authority and path. -/
structure Below (base scheme authority path : List Char) (p : Nat) : Prop where
  web : kindOf scheme = .web p
  scheme : ∃ front a, (base.dropWhile isEdge).filter isKept = front ++ ':' :: a ∧
    (∀ r, scheme? (front ++ ':' :: r) = some (scheme, r)) ∧
    ∀ r, (a ++ '/' :: r).dropWhile isSlash = authority ++ (path ++ '/' :: r)
  authority : ∀ c ∈ authority, (Kind.web p).endsAuthority c = false
  head : ∀ c ∈ path.head?, c = '/'
  plain : ∀ c ∈ path, endsPath c = false ∧ c ≠ '\\'

theorem exists_below {u : List Char} {v : Url} {p : Nat} (hparse : parseChars u = .ok v)
    (hk : kindOf v.scheme = .web p) (hnumber : '#' ∉ u) (hback : '\\' ∉ u) :
    ∃ authority path, Below (RequestTemplate.dropFinalSlash (RequestTemplate.splitQuery u).1) v.scheme authority path p := by
  obtain ⟨front, a, hfront, hscheme, hne⟩ := exists_scheme_of_base hparse hk
  have ha : ∀ c ∈ a, endsPath c = false ∧ c ≠ '\\' := by
    intro c hc
    have hmem : c ∈ ((RequestTemplate.dropFinalSlash (RequestTemplate.splitQuery u).1).dropWhile isEdge).filter
        isKept := by
      rw [hfront]
      simp [hc]
    have hbase : c ∈ (RequestTemplate.splitQuery u).1 := RequestTemplate.dropFinalSlash_subset
      ((List.dropWhile_sublist _).subset (List.mem_of_mem_filter hmem))
    have hu : c ∈ u := by
      rw [RequestTemplate.splitQuery_fst] at hbase
      exact (List.takeWhile_sublist _).subset hbase
    have hquery : c ≠ '?' := fun h => RequestTemplate.query_not_mem_base u (h ▸ hbase)
    have hnumber : c ≠ '#' := fun h => hnumber (h ▸ hu)
    exact ⟨by simp [endsPath, hquery, hnumber], fun h => hback (h ▸ hu)⟩
  have hpath : ∀ c ∈ (a.dropWhile isSlash).dropWhile fun c => !(Kind.web p).endsAuthority c,
      endsPath c = false ∧ c ≠ '\\' :=
    fun c hc => ha c ((List.dropWhile_sublist _).subset ((List.dropWhile_sublist _).subset hc))
  refine ⟨(a.dropWhile isSlash).takeWhile fun c => !(Kind.web p).endsAuthority c,
    (a.dropWhile isSlash).dropWhile fun c => !(Kind.web p).endsAuthority c, hk,
    ⟨front, a, hfront, hscheme, fun r => ?_⟩, fun c hc => ?_, fun c hc => ?_, fun c hc => ?_⟩
  · rw [List.dropWhile_append, if_neg (by simpa using hne), ← List.append_assoc, List.takeWhile_append_dropWhile]
  · simpa using List.mem_takeWhile_imp hc
  · obtain ⟨hplain, hback⟩ := hpath c (List.mem_of_mem_head? hc)
    exact (slash_of_endsAuthority (endsAuthority_head_dropWhile _ c hc) hplain).resolve_right hback
  · exact hpath c hc

def basePieces (path : List Char) : List (List Char) :=
  if path.isEmpty then [] else (path.tail.splitOn '/').map (Percent.encode pathSet)

section
variable {base scheme authority path s below rest : List Char} {p : Nat}

theorem Below.scheme_clean (h : Below base scheme authority path p)
    (hs : s = base ++ '/' :: below ++ rest) (hrest : ∀ c ∈ rest.head?, c = '?') :
    ∃ r, scheme? (clean s) = some (scheme, r) ∧
      r.dropWhile isSlash = authority ++ (path ++ '/' :: (cleaned rest.isEmpty below ++ cleanEnd rest)) := by
  obtain ⟨front, a, hfront, hscheme, hdrop⟩ := h.scheme
  refine ⟨a ++ '/' :: (cleaned rest.isEmpty below ++ cleanEnd rest), ?_, hdrop _⟩
  have hclean : clean s = front ++ ':' :: (a ++ '/' :: (cleaned rest.isEmpty below ++ cleanEnd rest)) := by
    rw [hs, List.append_assoc, List.cons_append, clean_append_cons rfl rfl, hfront, cleanEnd_path_append below hrest,
      List.append_assoc]
    rfl
  rw [hclean]
  exact hscheme _

theorem Below.authority_ok (h : Below base scheme authority path p) (r : List Char) :
    authority? (.web p) (authority ++ (path ++ '/' :: r)) =
      (authority? (.web p) authority).map fun q => (q.1, path ++ '/' :: r) := by
  apply authority?_below h.authority
  intro c hc
  have hslash : c = '/' := by
    cases path with
    | nil => cases hc; rfl
    | cons d path => exact h.head c hc
  rw [hslash]
  rfl

theorem Below.pathPieces_eq (h : Below base scheme authority path p)
    (hbelow : ∀ c ∈ below, c ≠ '\\') :
    pathPieces ((path ++ '/' :: below).drop 1) =
      basePieces path ++ (below.splitOn '/').map (Percent.encode pathSet) := by
  cases path with
  | nil => exact pathPieces_of_not_mem fun hmem => hbelow _ hmem rfl
  | cons d path =>
    have hplain : '\\' ∉ path ++ '/' :: below := by
      intro hmem
      obtain hmem | hmem := List.mem_append.mp hmem
      · exact (h.plain _ (List.mem_cons_of_mem _ hmem)).2 rfl
      · obtain hmem | hmem := List.mem_cons.mp hmem
        · cases hmem
        · exact hbelow _ hmem rfl
    show pathPieces (path ++ '/' :: below) = _
    rw [pathPieces_of_not_mem hplain, List.splitOn_append_cons_self, List.map_append]
    rfl

/-- Whether a path can be put below a base does not depend on the path. -/
theorem Below.isOk_parseChars (h : Below base scheme authority path p)
    (hs : s = base ++ '/' :: below ++ rest) (hrest : ∀ c ∈ rest.head?, c = '?') :
    (parseChars s).isOk = (authority? (.web p) authority).isOk := by
  obtain ⟨r, hscheme, hdrop⟩ := h.scheme_clean hs hrest
  rw [parseChars_web hscheme h.web, hdrop, h.authority_ok]
  cases authority? (.web p) authority <;> rfl

/-- The segments of the base and those of the path are read one after the other. -/
theorem Below.written_eq (h : Below base scheme authority path p)
    (hs : s = base ++ '/' :: below ++ rest) (hrest : ∀ c ∈ rest.head?, c = '?')
    (hbelow : ∀ c ∈ below, endsPath c = false ∧ c ≠ '\\')
    (hok : (authority? (.web p) authority).isOk = true) :
    written s = basePieces path ++ readSegments rest.isEmpty (below.splitOn '/') := by
  obtain ⟨r, hscheme, hdrop⟩ := h.scheme_clean hs hrest
  have hcleaned : ∀ c ∈ cleaned rest.isEmpty below, endsPath c = false ∧ c ≠ '\\' :=
    fun c hc => hbelow c (mem_of_mem_cleaned hc)
  have hplain : ∀ c ∈ path ++ '/' :: cleaned rest.isEmpty below, endsPath c = false := by
    intro c hc
    obtain hc | hc := List.mem_append.mp hc
    · exact (h.plain c hc).1
    · obtain rfl | hc := List.mem_cons.mp hc
      · rfl
      · exact (hcleaned c hc).1
  have htake : (path ++ '/' :: (cleaned rest.isEmpty below ++ cleanEnd rest)).takeWhile (fun c => !endsPath c) =
      path ++ '/' :: cleaned rest.isEmpty below := by
    rw [← List.cons_append, ← List.append_assoc]
    exact takeWhile_path hplain (cleanEnd_head hrest)
  cases ha : authority? (.web p) authority with
  | error e =>
    rw [ha] at hok
    cases hok
  | ok q =>
    unfold written
    rw [hscheme]
    dsimp only
    rw [h.web, hdrop, h.authority_ok, ha]
    dsimp only [Except.map]
    rw [htake, h.pathPieces_eq fun c hc => (hcleaned c hc).2, map_encode_splitOn_cleaned]

theorem Below.path_of_parseChars (h : Below base scheme authority path p)
    (hs : s = base ++ '/' :: below ++ rest) (hrest : ∀ c ∈ rest.head?, c = '?') {u : Url}
    (hparse : parseChars s = .ok u) :
    u.path = .segments (pushSegments (.web p) [] (written s)).reverse := by
  obtain ⟨r, hscheme, -⟩ := h.scheme_clean hs hrest
  obtain ⟨r', hscheme'⟩ := scheme_of_parseChars hparse
  rw [hscheme] at hscheme'
  cases hscheme'
  exact Url.path_of_parseChars hparse h.web

end

def baseSegments (base : List Char) : List (List Char) :=
  (written (RequestTemplate.dropFinalSlash (RequestTemplate.splitQuery base).1 ++ ['/'])).dropLast

theorem Below.baseSegments_eq {base scheme authority path : List Char} {p : Nat}
    (h : Below (RequestTemplate.dropFinalSlash (RequestTemplate.splitQuery base).1) scheme authority path p)
    (hok : (authority? (.web p) authority).isOk = true) : baseSegments base = basePieces path := by
  rw [baseSegments, h.written_eq (List.append_nil _).symm (by simp) (by simp) hok]
  exact List.dropLast_concat

end Url

end DeclarativeHttp
