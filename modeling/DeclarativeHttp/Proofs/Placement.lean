import DeclarativeHttp.Client.Basic
import DeclarativeHttp.Proofs.Authority
import DeclarativeHttp.Proofs.Binding
import DeclarativeHttp.Proofs.Reading
import DeclarativeHttp.Proofs.Templates

/-!
# Where a request goes

A fixed target puts its URL in front of what a call made of the path. That the two meet at a slash
or a question mark is up to the request line: where its URI begins with one of them, or is empty, no
argument can change the scheme or the authority that the request is sent to.
-/

namespace DeclarativeHttp

namespace RequestTemplate

/-- The text goes on from a base URL, less a slash at its end, with nothing, a path or a query. -/
def Continues (base uri : List Char) : Prop :=
  ∃ rest, uri = dropFinalSlash base ++ rest ∧ Local rest

theorem not_isAbsolute_of_local {uri : List Char} (h : Local uri) : isAbsolute uri = false := by
  cases uri with
  | nil => rfl
  | cons c r => obtain rfl | rfl := h c rfl <;> rfl

theorem splitQuery_of_notMem {uri : List Char} (h : '?' ∉ uri) : splitQuery uri = (uri, none) := by
  unfold splitQuery
  split
  · rename_i path query hs
    rw [Text.splitFirst_eq hs] at h
    exact absurd (by simp) h
  · rfl

theorem head_splitQuery {uri : List Char} (h : Local uri) :
    ∀ c ∈ (splitQuery uri).1.head?, c = '/' := by
  cases uri with
  | nil => intro c hc; cases hc
  | cons c r =>
    obtain rfl | rfl := h c rfl
    · intro d hd
      unfold splitQuery at hd
      rw [Text.splitFirst, if_neg (by decide)] at hd
      cases hr : Text.splitFirst '?' r with
      | none => rw [hr] at hd; cases hd; rfl
      | some q => rw [hr] at hd; cases hd; rfl
    · intro d hd; cases hd

theorem appendUri_relative {uri : List Char} (h : isAbsolute uri = false) (t : RequestTemplate) :
    (t.appendUri uri).target = t.target ∧
      (t.appendUri uri).uri = Template.parse (t.uri.chars ++ (splitQuery uri).1) := by
  have hsplit : (if t.uri.isEmpty then splitBase uri else (none, uri)) = (none, uri) := by
    have hnone : absolute? uri = none := by simpa [isAbsolute] using h
    split
    · unfold splitBase; rw [hnone]
    · rfl
  unfold appendUri
  rw [hsplit]
  cases hq : splitQuery uri with
  | mk path query => cases query <;> simp [hq, addQueryLine]

/-! ## Putting a base in front -/

variable {base : List Char} {t : RequestTemplate}

theorem dropFinalSlash_ne_nil (h : isAbsolute base = true) : dropFinalSlash base ≠ [] := by
  obtain ⟨scheme, p, b, rfl, -, -⟩ := Url.absolute_web h
  have hsplit : scheme ++ ':' :: '/' :: '/' :: b = (scheme ++ [':']) ++ ('/' :: '/' :: b) := by simp
  rw [hsplit, dropFinalSlash_append (by simp)]
  simp

theorem url_setTarget (h : isAbsolute base = true) (hq : '?' ∉ base) (ht : t.target = none) :
    (t.setTarget base).url = dropFinalSlash base ++ t.url := by
  have hne : (dropFinalSlash base).isEmpty = false := by simpa using dropFinalSlash_ne_nil h
  unfold setTarget
  simp only [splitQuery_of_notMem hq, hne]
  unfold url
  rw [ht]
  simp [path, queryLine, queryPieces]

theorem local_url (ht : t.target = none) (hpath : ∀ c ∈ t.path.head?, c = '/') : Local t.url := by
  unfold url
  rw [ht]
  cases hp : t.path with
  | nil =>
    intro c hc
    split at hc
    · cases hc
    · cases hc; exact .inr rfl
  | cons d r =>
    rw [hp] at hpath
    intro c hc
    cases hc
    exact .inl (hpath d rfl)

theorem parseChars_of_request {r : Request} (h : t.request = .ok r) :
    Url.parseChars t.url = .ok r.url := by
  unfold request at h
  split at h
  · cases h
  · split at h <;> cases h
    assumption

/-- What a fixed target makes of the URL: it continues the base if it was local, or if it was
absolute and continued the base already. -/
theorem continues_place_iff (i : Interface) (name url : String) (h : isAbsolute url.toList = true)
    (hq : '?' ∉ url.toList) (ht : t.target = none) :
    ∃ t', (Target.fixed i name url).place t = .ok t' ∧
      (Continues url.toList t'.url ↔ Local t.url ∨ isAbsolute t.url = true ∧ Continues url.toList t.url) := by
  unfold Target.place
  by_cases habsolute : isAbsolute t.url = true
  · rw [if_pos habsolute]
    refine ⟨t, rfl, fun hc => .inr ⟨habsolute, hc⟩, ?_⟩
    rintro (hlocal | ⟨-, hc⟩)
    · rw [not_isAbsolute_of_local hlocal] at habsolute
      cases habsolute
    · exact hc
  · rw [if_neg habsolute]
    refine ⟨t.setTarget url.toList, rfl, ?_⟩
    unfold Continues
    rw [url_setTarget h hq ht]
    constructor
    · rintro ⟨rest, hrest, hlocal⟩
      rw [List.append_cancel_left hrest]
      exact .inl hlocal
    · rintro (hlocal | ⟨hc, -⟩)
      · exact ⟨t.url, rfl, hlocal⟩
      · exact absurd hc habsolute

end RequestTemplate

open RequestTemplate

/-! ## From the request line to the URL -/

section
variable {i : Interface} {op : Operation} {m : Metadata} {t : RequestTemplate}

theorem DefaultDialect.Skeleton.target_eq_none (h : DefaultDialect.Skeleton op t)
    (huris : ∀ uri ∈ op.uris, isAbsolute uri = false) : t.target = none := by
  induction h with
  | empty => rfl
  | removeHeader name _ ih => exact ih
  | @header t name values _ ih => unfold RequestTemplate.header; split <;> exact ih
  | @line t verb uri keep format huri _ ih =>
    exact ((appendUri_relative (huris uri huri) _).1).trans ih
  | body bytes _ ih => exact ih
  | bodyTemplate text _ ih => exact ih

theorem DefaultDialect.Skeleton.rooted (h : DefaultDialect.Skeleton op t)
    (huris : ∀ uri ∈ op.uris, Local uri) :
    t.uri.Rooted := by
  induction h with
  | empty => intro c hc; cases hc
  | removeHeader name _ ih => exact ih
  | @header t name values _ ih => unfold RequestTemplate.header; split <;> exact ih
  | @line t verb uri keep format huri _ ih =>
    have huri := huris uri huri
    show ((t.setMethod verb).appendUri uri).uri.Rooted
    rw [(appendUri_relative (not_isAbsolute_of_local huri) _).2]
    refine Template.rooted_parse fun c hc => ?_
    cases hchars : t.uri.chars with
    | nil =>
      have hnil : (t.setMethod verb).uri.chars = [] := hchars
      rw [hnil] at hc
      exact head_splitQuery huri c hc
    | cons d r =>
      have hcons : (t.setMethod verb).uri.chars = d :: r := hchars
      rw [hcons] at hc
      cases hc
      exact ih.head_chars c (by rw [hchars]; rfl)
  | body bytes _ ih => exact ih
  | bodyTemplate text _ ih => exact ih

theorem Dialect.Reads.urlIndex_eq_none (h : DefaultDialect.dialect.Reads i op m)
    (hparams : ∀ p ∈ op.params, p.type.isUri = false) : m.urlIndex = none := by
  obtain ⟨m₀, hfills, hplaced, -⟩ := DefaultDialect.parseOperation_ok h.read
  rw [DefaultDialect.placeParameters_urlIndex hplaced hparams, hfills.frame]
  rfl

end

/-! ## Calls -/

section
variable {i : Interface} {op : Operation} {m : Metadata} {encoder : Encoder}
  {queries : QueryMapEncoder} {args : List Arg} {s s' : Session} {t : RequestTemplate}

/-- A method without a parameter that is a URI, and with relative URIs in its request line, is sent
below the target exactly when the URL of its template is local (or repeats the target). It is local
whenever the URIs of the request line are, whatever the arguments; and a request that is sent below
the target has its scheme and its authority. -/
theorem placed_url_continues (j : Interface) (name url : String)
    (hreads : DefaultDialect.dialect.Reads i op m) (hparams : ∀ p ∈ op.params, p.type.isUri = false)
    (huris : ∀ uri ∈ op.uris, isAbsolute uri = false) (hencoder : encoder.KeepsUrl)
    (habsolute : isAbsolute url.toList = true) (hquery : '?' ∉ url.toList)
    (hcreate : (Binding.create encoder queries m args).on s = (.ok t, s')) :
    ((∀ uri ∈ op.uris, Local uri) → Local t.url) ∧
    ∃ t', (Target.fixed j name url).place t = .ok t' ∧
      (Continues url.toList t'.url ↔ Local t.url ∨ isAbsolute t.url = true ∧ Continues url.toList t.url) ∧
      ∀ u₀ request, Continues url.toList t'.url → (∀ c ∈ url.toList, 0x20 < c.toNat) →
        Url.parse url = .ok u₀ → (Target.fixed j name url).apply t = .ok request →
        request.url.scheme = u₀.scheme ∧ request.url.authority = u₀.authority := by
  obtain ⟨bound, vars, hbound, htarget, huri⟩ :=
    (Binding.created_of_create hcreate).target_uri hencoder
  obtain ⟨-, ⟨-, rfl⟩ | ⟨k, a, u, hk, -⟩⟩ := Binding.bindUri_ok hbound
  · have hskeleton := DefaultDialect.skeleton_of_reads hreads
    have hnone : t.target = none := htarget.trans (hskeleton.target_eq_none huris)
    refine ⟨fun hlocal => local_url hnone ?_, ?_⟩
    · have hroot := (hskeleton.rooted hlocal).head_expand vars (.path m.template.decodeSlash) m.template.format
      unfold RequestTemplate.path
      rwa [huri, Template.chars_literal]
    · obtain ⟨t', hplace, hiff⟩ := continues_place_iff j name url habsolute hquery hnone
      refine ⟨t', hplace, hiff, ?_⟩
      rintro u₀ request ⟨rest, hrest, hlocal⟩ hplain hu₀ happly
      rw [Target.apply, hplace] at happly
      obtain ⟨u, hu, hsame⟩ := Url.parseChars_continued habsolute hplain hu₀ hlocal
      rw [← hrest, parseChars_of_request happly] at hu
      cases hu
      exact hsame
  · rw [hreads.urlIndex_eq_none hparams] at hk
    cases hk

/-- A path below a fixed segment: the argument stays below the target. -/
theorem placed_url_continues_users :
    let id : Parameter := ⟨none, .simple "String", [.param "id" none]⟩
    let op : Operation := ⟨"get", .abstract, [.requestLine "GET /users/\x7bid\x7d" true .exploded], [id], .void⟩
    let i : Interface := .mk "Api" [] [] [] [op]
    let url := "http://api.example/v1/"
    let s : Session := ⟨0, 0, [], 0, fun _ => false, fun n => n, []⟩
    ∃ m t t' s', DefaultDialect.dialect.Reads i op m ∧ (∀ p ∈ op.params, p.type.isUri = false) ∧
      (∀ uri ∈ op.uris, isAbsolute uri = false) ∧ Encoder.plain.KeepsUrl ∧
        isAbsolute url.toList = true ∧
      '?' ∉ url.toList ∧ (Binding.create .plain .members m [.value (.str "@evil.example")]).on s = (.ok t, s') ∧
      (Target.fixed i "api" url).place t = .ok t' ∧ Continues url.toList t'.url := by
  intro id op i url s
  obtain ⟨m, t, s', hreads, hcreate, -⟩ := DefaultDialect.exists_of_creates
    (rfl : Dialect.allOperations i = .ok [op])
    (show DefaultDialect.creates i .plain .members [.value (.str "@evil.example")] s (fun _ _ => true) = true by
      decide +kernel)
  obtain ⟨hlocal, t', hplace, hiff, -⟩ := placed_url_continues i "api" url hreads (by decide)
    (by decide +kernel) Encoder.Stock.plain.keepsUrl (by decide) (by decide) hcreate
  have huris : op.uris = ["/users/\x7bid\x7d".toList] := by decide +kernel
  have hbelow : Local t.url := hlocal (by rw [huris]; decide)
  exact ⟨m, t, t', s', hreads, by decide, by decide +kernel, Encoder.Stock.plain.keepsUrl, by decide, by decide, hcreate,
    hplace, hiff.mpr (.inl hbelow)⟩

/-- A path that is a placeholder and nothing else: its argument goes on with the authority. -/
theorem placed_url_escapes :
    let path : Parameter := ⟨none, .simple "String", [.param "path" none]⟩
    let op : Operation := ⟨"get", .abstract, [.requestLine "GET \x7bpath\x7d" true .exploded],
      [path], .void⟩
    let i : Interface := .mk "Api" [] [] [] [op]
    let url := "http://api.example"
    let s : Session := ⟨0, 0, [], 0, fun _ => false, id, []⟩
    ∃ m t t' s' request, DefaultDialect.dialect.Reads i op m ∧
      (∀ p ∈ op.params, p.type.isUri = false) ∧
      (∀ uri ∈ op.uris, isAbsolute uri = false) ∧ isAbsolute url.toList = true ∧
      '?' ∉ url.toList ∧ '#' ∉ url.toList ∧
      (Binding.create .plain .members m [.value (.str "@evil.example")]).on s = (.ok t, s') ∧
      (Target.fixed i "api" url).place t = .ok t' ∧ ¬ Continues url.toList t'.url ∧
      (Target.fixed i "api" url).apply t = .ok request ∧
      request.url.authority.map Url.Authority.host = some (.domain "evil.example".toList) := by
  intro path op i url s
  obtain ⟨m, t, s', hreads, hcreate, ht⟩ := DefaultDialect.exists_of_creates
    (rfl : Dialect.allOperations i = .ok [op])
    (show DefaultDialect.creates i .plain .members [.value (.str "@evil.example")] s
      (fun _ t => t.target.isNone && t.url == "@evil.example".toList &&
        ((Target.fixed i "api" url).apply t).toOption.any fun r =>
          r.url.authority.map Url.Authority.host == some (.domain "evil.example".toList)) = true by
      decide +kernel)
  simp only [Bool.and_eq_true, Option.isNone_iff_eq_none, beq_iff_eq] at ht
  obtain ⟨⟨htarget, hurl⟩, hsent⟩ := ht
  obtain ⟨t', hplace, hiff⟩ := continues_place_iff i "api" url (by decide) (by decide) htarget
  have hout : ¬ Continues url.toList t'.url := by
    rw [hiff, hurl]
    rintro (hlocal | ⟨habsolute, -⟩)
    · obtain h | h := hlocal '@' rfl <;> cases h
    · revert habsolute
      decide
  cases happly : (Target.fixed i "api" url).apply t with
  | error e =>
    rw [happly] at hsent
    cases hsent
  | ok request =>
    rw [happly] at hsent
    exact ⟨m, t, t', s', request, hreads, by decide, by decide +kernel, by decide, by decide,
      by decide, hcreate, hplace, hout, happly, beq_iff_eq.mp hsent⟩

end

end DeclarativeHttp
