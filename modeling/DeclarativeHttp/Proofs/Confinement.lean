import DeclarativeHttp.Proofs.UrlPath

/-!
# Values in their segments

Where slashes in values are escaped, a value stays in its segment of the path, unless the segment
that it makes is a dot segment, which the reader of the URL takes out (`confined_segments`).
-/

namespace DeclarativeHttp

/-! ## Templates below a base URL -/

namespace RequestTemplate

/-- The template as it is resolved, but with a letter for each placeholder of its path. -/
def lettered (vars : Variables) (t : RequestTemplate) : RequestTemplate :=
  { t.resolve vars with
    uri := Template.literal (t.uri.expand (fun _ => some (.one "x")) (.path t.decodeSlash) t.format) }

def queryEnd (t : RequestTemplate) : List Char :=
  if t.queryLine.isEmpty then [] else '?' :: t.queryLine

variable {t t' : RequestTemplate} {below : List Char}

theorem queryEnd_head (t : RequestTemplate) : ∀ c ∈ t.queryEnd.head?, c = '?' := by
  intro c hc
  unfold queryEnd at hc
  split at hc <;> cases hc
  rfl

theorem queryEnd_setTarget (h : t.queries = t'.queries) (base : List Char) :
    (t.setTarget base).queryEnd = (t'.setTarget base).queryEnd := by
  have hqueries : (t.setTarget base).queries = (t'.setTarget base).queries := by
    unfold setTarget
    cases splitQuery base with
    | mk base query => cases query <;> simp [addQueryLine, h]
  have hline : (t.setTarget base).queryLine = (t'.setTarget base).queryLine := by
    unfold queryLine queryPieces
    rw [hqueries]
  rw [queryEnd, queryEnd, hline]

theorem url_setTarget_below (base : List Char) (hpath : t.path = '/' :: below) :
    (t.setTarget base).url = dropFinalSlash (splitQuery base).1 ++ '/' :: below ++ (t.setTarget base).queryEnd := by
  rw [← hpath, ← path_setTarget t base, ← getD_target_setTarget t base]
  rfl

theorem place_below (i : Interface) (name base : String) (ht : t.target = none)
    (hpath : t.path = '/' :: below) :
    (Target.fixed i name base).place t = .ok (t.setTarget base.toList) := by
  have hlocal : Local t.url := local_url ht fun c hc => by rw [hpath] at hc; cases hc; rfl
  unfold Target.place
  rw [not_isAbsolute_of_local hlocal]
  rfl

theorem method_setTarget (t : RequestTemplate) (base : List Char) :
    (t.setTarget base).method = t.method := by
  unfold setTarget
  cases splitQuery base with
  | mk base query => cases query <;> rfl

theorem isOk_request (t : RequestTemplate) :
    t.request.isOk = (t.method.isSome && (Url.parseChars t.url).isOk) := by
  unfold request
  cases t.method with
  | none => rfl
  | some m => cases Url.parseChars t.url <;> rfl

/-- A template that begins with a slash has a path
of its own below a base, whatever the values are. -/
theorem exists_path_below {uri : List Char} {path : Template}
    (hread : path = Template.parse (splitQuery uri).1) (huri : uri.head? = some '/')
    (hliteral : ∀ text, .literal text ∈ path.chunks → '#' ∉ text ∧ '\\' ∉ text) (values : Variables)
    (format : CollectionFormat) :
    ∃ below, path.expand values (.path false) format = '/' :: below ∧
      (∀ c ∈ below, Url.endsPath c = false ∧ c ≠ '\\') ∧
      below.splitOn '/' = path.segments.tail.map fun s => s.expand values (.path false) format := by
  have hexpand : ∃ below, path.expand values (.path false) format = '/' :: below := by
    rw [hread]
    cases uri with
    | nil => cases huri
    | cons d r =>
      obtain rfl : d = '/' := Option.some.inj huri
      rw [splitQuery_fst, List.takeWhile_cons_of_pos (by decide)]
      exact Template.expand_slash _ values _ format
  obtain ⟨below, hbelow⟩ := hexpand
  have hplain : ∀ c ∈ below, c ≠ '?' ∧ c ≠ '#' ∧ c ≠ '\\' := by
    intro c hc
    have hmem : c ∈ path.expand values (.path false) format := by
      rw [hbelow]
      exact List.mem_cons_of_mem _ hc
    refine ⟨?_, ?_, ?_⟩ <;> rintro rfl
    · refine Template.not_mem_expand (by decide) (by decide) (fun text htext hquery => ?_) hmem
      rw [hread] at htext
      exact query_not_mem_base uri (Template.mem_of_literal htext hquery)
    · exact Template.not_mem_expand (by decide) (by decide) (fun text htext => (hliteral text htext).1) hmem
    · exact Template.not_mem_expand (by decide) (by decide) (fun text htext => (hliteral text htext).2) hmem
  refine ⟨below, hbelow, fun c hc => ?_, ?_⟩
  · obtain ⟨hquery, hnumber, hback⟩ := hplain c hc
    exact ⟨by simp [Url.endsPath, hquery, hnumber], hback⟩
  · have hsplit : (path.expand values (.path false) format).splitOn '/' = _ := path.splitOn_expand
    rw [hbelow, List.splitOn_cons_eq_if_modifyHead, if_pos (by simp)] at hsplit
    rw [List.map_tail, ← hsplit]
    rfl

theorem written_setTarget {base scheme authority path : List Char} {p : Nat}
    (h : Url.Below (dropFinalSlash (splitQuery base).1) scheme authority path p)
    (hok : (Url.authority? (.web p) authority).isOk = true) (hpath : t.path = '/' :: below)
    (hbelow : ∀ c ∈ below, Url.endsPath c = false ∧ c ≠ '\\') :
    Url.written (t.setTarget base).url = Url.baseSegments base ++
      Url.readSegments (t.setTarget base).queryEnd.isEmpty (below.splitOn '/') := by
  rw [h.written_eq (url_setTarget_below base hpath) (queryEnd_head _) hbelow hok, h.baseSegments_eq hok]

theorem apply_below (i : Interface) (name base : String) (ht : t.target = none)
    (hpath : t.path = '/' :: below) :
    (Target.fixed i name base).apply t = (t.setTarget base.toList).request := by
  unfold Target.apply
  rw [place_below i name base ht hpath]
  rfl

theorem exists_request_below {base scheme authority path b b' : List Char} {p : Nat}
    {request : Request} (h : Url.Below (dropFinalSlash (splitQuery base).1) scheme authority path p)
    (hpath : t.path = '/' :: b) (hpath' : t'.path = '/' :: b') (hmethod : t'.method = t.method)
    (hrequest : (t.setTarget base).request = .ok request) :
    ∃ request', (t'.setTarget base).request = .ok request' := by
  have hok := isOk_request (t.setTarget base)
  have hok' := isOk_request (t'.setTarget base)
  rw [hrequest, method_setTarget, h.isOk_parseChars (url_setTarget_below base hpath) (queryEnd_head _)] at hok
  rw [method_setTarget, hmethod, h.isOk_parseChars (url_setTarget_below base hpath') (queryEnd_head _), ← hok] at hok'
  cases hsent : (t'.setTarget base).request with
  | error e => rw [hsent] at hok'; cases hok'
  | ok request' => exact ⟨request', rfl⟩

end RequestTemplate

open RequestTemplate

section
variable {i : Interface} {name base uri : String} {t : RequestTemplate} {vars : Variables} {u : Url}
  {request : Request}

/-- Where slashes are escaped, the path of the URL has as many segments as the base and the template
have, exactly if none of them is a dot segment when the values are in place, but for a last one that
takes no other away. Then each segment without a placeholder is where it is when the placeholders
are letters, if it is no dot segment itself. -/
theorem confined_segments (ht : t.target = none) (hdecode : t.decodeSlash = false)
    (hread : t.uri = Template.parse (splitQuery uri.toList).1) (huri : uri.toList.head? = some '/')
    (hliteral : ∀ text, .literal text ∈ t.uri.chunks → '#' ∉ text ∧ '\\' ∉ text)
    (hbase : Url.parse base = .ok u)
    (hscheme : u.scheme = "http".toList ∨ u.scheme = "https".toList) (hnumber : '#' ∉ base.toList) (hback : '\\' ∉ base.toList) (happly : (Target.fixed i name base).apply (t.resolve vars) = .ok request) :
    let letters := Url.written ((t.lettered vars).setTarget base.toList).url
    let values := Url.written ((t.resolve vars).setTarget base.toList).url
    let start := (Url.baseSegments base.toList).length
    letters.length = start + t.uri.segments.tail.length ∧
      (∃ sample, (Target.fixed i name base).apply (t.lettered vars) = .ok sample ∧
        ((∀ s ∈ letters, Url.isDot s = false) → sample.url.path = .segments letters)) ∧
      ∃ segments, request.url.path = .segments segments ∧
        (segments.length = letters.length ↔ Url.Unbroken values) ∧
        (Url.Unbroken values → ∀ k segment, t.uri.segments.tail[k]? = some segment →
          segment.placeholders = [] →
          ∃ s, letters[start + k]? = some s ∧
            (Url.isDot s = false → segments[start + k]? = some s)) := by
  intro letters values start
  obtain ⟨p, hk⟩ : ∃ p, Url.kindOf u.scheme = .web p := by
    obtain h | h := hscheme <;> rw [h]
    · exact ⟨80, rfl⟩
    · exact ⟨443, rfl⟩
  obtain ⟨authority, path, hbelow⟩ := Url.exists_below hbase hk hnumber hback
  -- values and letters both put a path of its own below the base
  obtain ⟨b, hb, hbplain, hbsplit⟩ := exists_path_below hread huri hliteral vars t.format
  obtain ⟨b', hb', hbplain', hbsplit'⟩ :=
    exists_path_below hread huri hliteral (fun _ => some (.one "x")) t.format
  have hpath : (t.resolve vars).path = '/' :: b := by
    show (Template.literal (t.uri.expand vars (.path t.decodeSlash) t.format)).chars = _
    rw [Template.chars_literal, hdecode, hb]
  have hpath' : (t.lettered vars).path = '/' :: b' := by
    show (Template.literal (t.uri.expand _ (.path t.decodeSlash) t.format)).chars = _
    rw [Template.chars_literal, hdecode, hb']
  have hplace := apply_below i name base (t := t.resolve vars) ht hpath
  have hplace' := apply_below i name base (t := t.lettered vars) ht hpath'
  rw [hplace] at happly
  have hurl := url_setTarget_below base.toList hpath
  have hurl' := url_setTarget_below base.toList hpath'
  have hok : (Url.authority? (.web p) authority).isOk = true := by
    rw [← hbelow.isOk_parseChars hurl (queryEnd_head _), parseChars_of_request happly]
    rfl
  have hletters : letters = _ := written_setTarget hbelow hok hpath' hbplain'
  have hvalues : values = _ := written_setTarget hbelow hok hpath hbplain
  have hqueries : (t.lettered vars).queries = (t.resolve vars).queries := rfl
  have hended := queryEnd_setTarget hqueries base.toList
  have hcount : (b.splitOn '/').length = (b'.splitOn '/').length := by
    rw [hbsplit, hbsplit', List.length_map, List.length_map]
  have hlength : values.length = letters.length := by
    rw [hletters, hvalues, List.length_append, List.length_append, Url.length_readSegments,
      Url.length_readSegments, hcount]
  obtain ⟨sample, hsample⟩ := exists_request_below hbelow hpath hpath' rfl happly
  refine ⟨?_, ⟨sample, hplace'.trans hsample, ?_⟩, (Url.pushSegments (.web p) [] values).reverse, ?_, ?_, ?_⟩
  · rw [hletters, List.length_append, Url.length_readSegments, hbsplit', List.length_map]
  · intro hdots
    rw [hbelow.path_of_parseChars hurl' (queryEnd_head _) (parseChars_of_request hsample),
      Url.pushSegments_of_no_dots hdots]
  · exact hbelow.path_of_parseChars hurl (queryEnd_head _) (parseChars_of_request happly)
  · rw [List.length_reverse, ← hlength]
    exact Url.length_pushSegments_iff values
  · intro hunbroken k segment hsegment hplaceholders
    have hsame : (b.splitOn '/')[k]? = (b'.splitOn '/')[k]? := by
      rw [hbsplit, hbsplit', List.getElem?_map, List.getElem?_map, hsegment, Option.map_some,
        Option.map_some, Template.expand_of_placeholders_nil hplaceholders,
        Template.expand_of_placeholders_nil hplaceholders]
    have hletter : letters[start + k]? = values[start + k]? := by
      rw [hletters, hvalues, hended]
      exact (Url.getElem?_append_readSegments _ _ hcount hsame).symm
    have hlt : start + k < letters.length := by
      have hk := (List.getElem?_eq_some_iff.mp hsegment).1
      rw [hletters, List.length_append, Url.length_readSegments, hbsplit', List.length_map]
      omega
    obtain ⟨s, hs⟩ : ∃ s, letters[start + k]? = some s := ⟨_, List.getElem?_eq_getElem hlt⟩
    exact ⟨s, hs, Url.getElem?_pushSegments hunbroken (hletter ▸ hs)⟩

/-- A slash in a value does not make a segment of its own. -/
theorem confined_segments_posts :
    let uri := "/users/\x7bid\x7d/posts"
    let t := ((RequestTemplate.empty.setMethod .get).setUri uri.toList).setDecodeSlash false
    let vars := Variables.empty.insert "id" (.one "a/b")
    let target := Target.fixed (.mk "Api" [] [] [] []) "api" "http://api.example/v1/"
    ∃ request segments, target.apply (t.resolve vars) = .ok request ∧
      request.url.path = .segments segments ∧
      segments.length = 4 ∧ segments[1]? = some "users".toList ∧
      segments[3]? = some "posts".toList := by
  intro uri t vars target
  have hletters : Url.written ((t.lettered vars).setTarget target.url.toList).url =
      ["v1".toList, "users".toList, "x".toList, "posts".toList] := by decide +kernel
  have hvalues : Url.written ((t.resolve vars).setTarget target.url.toList).url =
      ["v1".toList, "users".toList, "a%2Fb".toList, "posts".toList] := by decide +kernel
  have hchunks : t.uri.chunks = [.literal "/users/".toList, .expression "id", .literal "/posts".toList] := by
    decide +kernel
  have hliteral : ∀ text, .literal text ∈ t.uri.chunks → '#' ∉ text ∧ '\\' ∉ text := by
    rw [hchunks]
    intro text htext
    simp only [List.mem_cons, Chunk.literal.injEq, reduceCtorEq, List.not_mem_nil, or_false,
      false_or] at htext
    obtain rfl | rfl := htext <;> decide
  have hsegments : t.uri.segments.tail = [⟨[.literal "users".toList]⟩,
      ⟨[.literal [], .expression "id", .literal []]⟩,
      ⟨[.literal "posts".toList]⟩] := by decide +kernel
  have hread : t.uri = Template.parse (splitQuery uri.toList).1 := by decide +kernel
  have hunbroken : Url.Unbroken (Url.written ((t.resolve vars).setTarget target.url.toList).url) := by
    rw [hvalues]
    exact ⟨by decide, by decide⟩
  obtain ⟨u, hbase, hscheme⟩ : ∃ u, Url.parse target.url = .ok u ∧ u.scheme = "http".toList := by
    have hok : ((Url.parse target.url).toOption.map Url.scheme) = some "http".toList := by
      decide +kernel
    cases h : Url.parse target.url with
    | error e => rw [h] at hok; cases hok
    | ok u => rw [h] at hok; exact ⟨u, rfl, Option.some.inj hok⟩
  obtain ⟨request, happly⟩ : ∃ request, target.apply (t.resolve vars) = .ok request := by
    have hok : (target.apply (t.resolve vars)).isOk = true := by decide +kernel
    cases h : target.apply (t.resolve vars) with
    | error e => rw [h] at hok; cases hok
    | ok request => exact ⟨request, rfl⟩
  have hstart : (Url.baseSegments target.url.toList).length = 1 := by decide +kernel
  have htarget : t.target = none := by decide +kernel
  obtain ⟨-, -, segments, hpath, hcount, hplaced⟩ :=
    confined_segments htarget rfl hread (by decide) hliteral hbase
    (.inl hscheme) (by decide) (by decide) happly
  have hlength := hcount.mpr hunbroken
  rw [hletters] at hlength
  have hplaced := hplaced hunbroken
  rw [hsegments, hstart, hletters] at hplaced
  obtain ⟨s, hs, husers⟩ := hplaced 0 _ rfl rfl
  obtain ⟨s', hs', hposts⟩ := hplaced 2 _ rfl rfl
  cases hs
  cases hs'
  exact ⟨request, segments, happly, hpath, hlength, husers (by decide), hposts (by decide)⟩

/-- A value of two dots takes its own segment away and the one before. -/
theorem confined_segments_lost :
    let t := ((RequestTemplate.empty.setMethod .get).setUri "/users/\x7bid\x7d/posts".toList).setDecodeSlash false
    let vars := Variables.empty.insert "id" (.one "..")
    let target := Target.fixed (.mk "Api" [] [] [] []) "api" "http://api.example"
    t.target = none ∧ t.uri.chunks = [.literal "/users/".toList, .expression "id", .literal "/posts".toList] ∧
      ∃ sample request, target.apply (t.lettered vars) = .ok sample ∧
        target.apply (t.resolve vars) = .ok request ∧
        sample.url.path = .segments ["users".toList, "x".toList, "posts".toList] ∧
        request.url.path = .segments ["posts".toList] := by
  intro t vars target
  have hpath : ∀ (r : RequestTemplate) (path : Url.Path),
      (target.apply r).toOption.map (·.url.path) = some path → ∃ request,
        target.apply r = .ok request ∧
        request.url.path = path := by
    intro r path h
    cases happly : target.apply r with
    | error e => rw [happly] at h; cases h
    | ok request =>
      rw [happly] at h
      exact ⟨request, rfl, Option.some.inj h⟩
  obtain ⟨sample, hsample, hletters⟩ :=
    hpath (t.lettered vars) (.segments ["users".toList, "x".toList, "posts".toList])
    (by decide +kernel)
  obtain ⟨request, hrequest, hvalues⟩ :=
    hpath (t.resolve vars) (.segments ["posts".toList]) (by decide +kernel)
  exact ⟨by decide +kernel, by decide +kernel, sample, request, hsample, hrequest, hletters, hvalues⟩

end

end DeclarativeHttp
