import DeclarativeHttp.Proofs.Rereading

/-!
# Resolution

What resolution leaves is text in every part, and so it is final: values are not
looked at again, whatever braces they have. Nor does anything decide on it but
the texts that the placeholders of the template stand for (`resolve_of_texts`),
so a list of one value is like the value itself, and an empty one is like none.
-/

namespace DeclarativeHttp

def Variables.erase (name : String) (vars : Variables) : Variables :=
  fun n => if n = name then none else vars n

namespace Template

variable {t : Template} {vars vars' : Variables}

/-! ## Text -/

def IsText (t : Template) : Prop := t = literal t.chars

theorem isText_literal (s : List Char) : (literal s).IsText := by rw [IsText, chars_literal]

theorem IsText.placeholders_eq (h : t.IsText) : t.placeholders = [] := by
  rw [h, literal]
  split <;> rfl

/-! ## Agreeing variables -/

theorem isNone_value? (vars : Variables) (n : String) :
    (vars.value? n).isNone = (vars.texts n).isEmpty := by
  rw [Variables.value?, Variables.texts]
  cases vars n with
  | none => rfl
  | some v =>
    cases v with
    | one text => rfl
    | many texts => cases texts <;> rfl

theorem exploded?_eq_none {format : CollectionFormat}
    (h : ∀ name, t.chunks = [.expression name] → format ≠ .exploded) (vars : Variables) :
    t.exploded? vars format = none := by
  unfold exploded?
  split
  · rename_i name hchunks
    exact absurd rfl (h name hchunks)
  · rfl

section

variable (h : ∀ n ∈ t.placeholders, vars.texts n = vars'.texts n)
include h

theorem isUnresolved_congr : t.isUnresolved vars = t.isUnresolved vars' := by
  have hall : (t.placeholders.all fun n => (vars.value? n).isNone) = t.placeholders.all fun n =>
      (vars'.value? n).isNone := by
    rw [Bool.eq_iff_iff, List.all_eq_true, List.all_eq_true]
    refine forall₂_congr fun n hn => ?_
    rw [isNone_value?, isNone_value?, h n hn]
  rw [isUnresolved, isUnresolved, hall]

theorem expandValues_congr (place : Place) (format : CollectionFormat) :
    t.expandValues vars place format = t.expandValues vars' place format := by
  -- a list is taken apart only where it is all that the template has
  by_cases hsingle : ∃ name, t.chunks = [.expression name] ∧ format = .exploded
  · obtain ⟨name, hchunks, rfl⟩ := hsingle
    obtain rfl : t = ⟨[.expression name]⟩ := congrArg Template.mk hchunks
    rw [expandValues_placeholder, expandValues_placeholder, h name (by simp [placeholders])]
  · have hwhole : ∀ name, t.chunks = [.expression name] → format ≠ .exploded :=
      fun name hchunks hformat => hsingle ⟨name, hchunks, hformat⟩
    rw [expandValues, expandValues, exploded?_eq_none hwhole, exploded?_eq_none hwhole, isUnresolved_congr h,
      expand_congr h]

end

/-! ## One value -/

/-- Where one chunk is exchanged, the text is made of pieces
that are there before, with the new text in between. -/
theorem exists_pieces (c : Chunk) (f : Chunk → List Char) (cs : List Chunk) :
    ∃ pieces : List (List Char), pieces ≠ [] ∧
    ∀ value, (cs.flatMap fun d => if d = c then value else f d) = value.intercalate pieces := by
  induction cs with
  | nil => exact ⟨[[]], by simp, fun value => List.intercalate_singleton.symm⟩
  | cons d cs ih =>
    obtain ⟨pieces, hne, hpieces⟩ := ih
    obtain ⟨p, ps, rfl⟩ := List.exists_cons_of_ne_nil hne
    by_cases hd : d = c
    · refine ⟨[] :: p :: ps, by simp, fun value => ?_⟩
      rw [List.flatMap_cons, if_pos hd, hpieces, List.intercalate_cons_cons, List.nil_append]
    · refine ⟨(f d ++ p) :: ps, by simp, fun value => ?_⟩
      rw [List.flatMap_cons, if_neg hd, hpieces]
      cases ps with
      | nil => simp
      | cons q ps => rw [List.intercalate_cons_cons, List.intercalate_cons_cons]; simp

variable {name : String}

theorem value?_insert (vars : Variables) (n : String) (x : String) :
    (vars.insert name (.one x)).value? n = if n = name then some (.one x) else vars.value? n := by
  unfold Variables.value? Variables.insert
  by_cases hn : n = name
  · rw [if_pos hn, if_pos hn]
  · rw [if_neg hn, if_neg hn]

theorem exists_pieces_expand (t : Template) (name : String) (vars : Variables) (place : Place)
    (format : CollectionFormat) :
    ∃ pieces, ∀ x : String,
      t.expand (vars.insert name (.one x)) place format =
        (place.encode x.toList).intercalate pieces := by
  obtain ⟨pieces, -, hpieces⟩ :=
    exists_pieces (.expression name) (expandChunk vars place format) t.chunks
  refine ⟨pieces, fun x => (Eq.trans ?_ (hpieces (place.encode x.toList)))⟩
  refine congrArg List.flatten (List.map_congr_left fun c _ => ?_)
  cases c with
  | literal text => rfl
  | expression n =>
    rw [expandChunk, value?_insert]
    by_cases hn : n = name
    · simp [hn, valueChars]
    · simp [hn, expandChunk]

theorem exploded?_insert (t : Template) (vars : Variables) (format : CollectionFormat)
    (x y : String) :
    t.exploded? (vars.insert name (.one x)) format =
      t.exploded? (vars.insert name (.one y)) format := by
  unfold exploded? Variables.insert
  split
  · rename_i n hchunks
    by_cases hn : n = name <;> simp [hn]
  · rfl

theorem isUnresolved_insert (t : Template) (vars : Variables) (x y : String) :
    t.isUnresolved (vars.insert name (.one x)) = t.isUnresolved (vars.insert name (.one y)) := by
  have hvalue : ∀ n, ((vars.insert name (.one x)).value? n).isNone =
      ((vars.insert name (.one y)).value? n).isNone := by
    intro n
    rw [value?_insert, value?_insert]
    split <;> rfl
  unfold isUnresolved
  simp only [hvalue]

theorem exists_pieces_expandValues (t : Template) (name : String) (vars : Variables) (place : Place)
    (format : CollectionFormat) : ∃ shapes : List (List (List Char)), ∀ x : String,
      t.expandValues (vars.insert name (.one x)) place format =
        shapes.map fun pieces => (place.encode x.toList).intercalate pieces := by
  obtain ⟨pieces, hpieces⟩ := exists_pieces_expand t name vars place format
  cases hexploded : t.exploded? (vars.insert name (.one "")) format with
  | some values =>
    refine ⟨values.map fun v => [place.encode v.toList], fun x => ?_⟩
    rw [expandValues, exploded?_insert t vars format x "", hexploded, List.map_map]
    refine List.map_congr_left fun v _ => ?_
    exact List.intercalate_singleton.symm
  | none =>
    cases hunresolved : t.isUnresolved (vars.insert name (.one "")) with
    | true =>
      refine ⟨[], fun x => ?_⟩
      rw [expandValues, exploded?_insert t vars format x "", hexploded, isUnresolved_insert t vars x "", hunresolved]
      rfl
    | false =>
      refine ⟨[pieces], fun x => ?_⟩
      rw [expandValues, exploded?_insert t vars format x "", hexploded, isUnresolved_insert t vars x "", hunresolved,
        hpieces]
      rfl

theorem placeholders_unescaped (t : Template) : t.unescaped.placeholders = t.placeholders := by
  rw [placeholders, unescaped, List.filterMap_map]
  refine List.filterMap_congr fun c _ => ?_
  cases c <;> rfl

end Template

namespace RequestTemplate

variable {t : RequestTemplate} {params : Multimap Template} {vars vars' : Variables} {place : Place}
  {format : CollectionFormat} {u : Template}

/-! ## Parameters -/

theorem isText_of_mem_resolveParams :
    ∀ u ∈ (resolveParams vars place format params).flatMap Prod.snd, u.IsText := by
  induction params with
  | nil => simp [resolveParams]
  | cons p params ih =>
    rw [resolveParams_cons]
    split
    · exact ih
    · split
      · exact ih
      · rw [List.flatMap_cons, List.forall_mem_append]
        refine ⟨fun u hu => ?_, ih⟩
        obtain ⟨text, -, rfl⟩ := List.mem_map.mp hu
        exact Template.isText_literal text

theorem map_literal_expandValues {values : List Template} (h : ∀ u ∈ values, u.IsText) :
    (values.flatMap fun u => u.expandValues vars place format).map Template.literal = values := by
  induction values with
  | nil => rfl
  | cons u values ih =>
    obtain ⟨hu, hvalues⟩ := List.forall_mem_cons.mp h
    rw [List.flatMap_cons, Template.expandValues_of_literal hu.placeholders_eq, List.singleton_append, List.map_cons,
      ih hvalues, ← hu]

theorem resolveParams_of_isText (h : ∀ u ∈ params.flatMap Prod.snd, u.IsText) :
    resolveParams vars place format params = params := by
  induction params with
  | nil => rfl
  | cons p params ih =>
    obtain ⟨hvalues, hparams⟩ := List.forall_mem_append.mp h
    have hsame : (p.2.flatMap fun u => u.expandValues vars place format).map Template.literal =
        p.2 :=
      map_literal_expandValues hvalues
    rw [resolveParams_cons, ih hparams]
    split
    · rename_i hempty
      rw [← List.isEmpty_iff.mp hempty]
    · rename_i hfull
      split
      · rename_i hnone
        rw [hnone] at hsame
        rw [← hsame] at hfull
        exact absurd rfl hfull
      · rename_i hsome
        rw [← hsome, hsame]

theorem resolveParams_congr
    (h : ∀ u ∈ params.flatMap Prod.snd, ∀ n ∈ u.placeholders, vars.texts n = vars'.texts n) :
    resolveParams vars place format params = resolveParams vars' place format params := by
  induction params with
  | nil => rfl
  | cons p params ih =>
    obtain ⟨hvalues, hparams⟩ := List.forall_mem_append.mp h
    have hsame : (p.2.flatMap fun u => u.expandValues vars place format) =
        p.2.flatMap fun u => u.expandValues vars' place format :=
      congrArg List.flatten (List.map_congr_left fun u hu => Template.expandValues_congr (hvalues u hu) place format)
    rw [resolveParams_cons, resolveParams_cons, hsame, ih hparams]

/-! ## Parts -/

theorem mem_requestParts : u ∈ t.requestParts ↔
    u = t.uri ∨ u ∈ t.queries.flatMap Prod.snd ∨ u ∈ t.headers.flatMap Prod.snd := by
  rw [requestParts, List.mem_cons, List.flatMap_append, List.mem_append]

theorem payload_resolve (vars : Variables) (t : RequestTemplate) : (t.resolve vars).payload =
    match t.bodyTemplate? with
    | some b => .literal (Utf8.encode (b.unescaped.expandRaw vars))
    | none => t.payload := by
  unfold resolve bodyTemplate?
  cases t.payload <;> rfl

structure Settled (t : RequestTemplate) : Prop where
  parts : ∀ u ∈ t.requestParts, u.IsText
  body : t.bodyTemplate? = none
  resolved : t.resolved = true

theorem settled_resolve (vars : Variables) (t : RequestTemplate) : (t.resolve vars).Settled where
  parts u hu := by
    obtain rfl | hu | hu := mem_requestParts.mp hu
    · exact Template.isText_literal _
    · exact isText_of_mem_resolveParams u hu
    · exact isText_of_mem_resolveParams u hu
  body := by
    unfold bodyTemplate? resolve
    cases t.payload <;> rfl
  resolved := rfl

theorem Settled.placeholders_eq (h : t.Settled) : t.placeholders = [] := by
  refine List.eq_nil_iff_forall_not_mem.mpr fun n hn => ?_
  obtain hn | ⟨b, hb, -⟩ := mem_placeholders.mp hn
  · obtain ⟨u, hu, hn⟩ := List.any_eq_true.mp hn
    rw [(h.parts u hu).placeholders_eq] at hn
    cases hn
  · rw [h.body] at hb
    cases hb

theorem Settled.resolve_eq (h : t.Settled) (vars : Variables) : t.resolve vars = t := by
  have huri : Template.literal (t.uri.expand vars (.path t.decodeSlash) t.format) = t.uri := by
    have htext := h.parts t.uri (mem_requestParts.mpr (.inl rfl))
    rw [Template.expand_of_placeholders_nil htext.placeholders_eq, ← htext]
  have hqueries : resolveParams vars .query t.format t.queries = t.queries :=
    resolveParams_of_isText fun u hu => h.parts u (mem_requestParts.mpr (.inr (.inl hu)))
  have hheaders : resolveParams vars .raw t.format t.headers = t.headers :=
    resolveParams_of_isText fun u hu => h.parts u (mem_requestParts.mpr (.inr (.inr hu)))
  have hpayload : (t.resolve vars).payload = t.payload := by rw [payload_resolve, h.body]
  calc t.resolve vars = { t with
        uri := .literal (t.uri.expand vars (.path t.decodeSlash) t.format)
        queries := resolveParams vars .query t.format t.queries
        headers := resolveParams vars .raw t.format t.headers
        payload := (t.resolve vars).payload
        resolved := true } := rfl
    _ = t := by rw [huri, hqueries, hheaders, hpayload, ← h.resolved]

/-! ## Values -/

/-- Values under names, each made of pieces with a text in between. -/
def fillIn (text : List Char) (shape : Multimap (List (List Char))) : Multimap Template :=
  shape.map fun p => (p.1, p.2.map fun pieces => Template.literal (text.intercalate pieces))

/-- What a name stands for goes into a resolved template as it is, apart from the escapes of its
place: all else is there before. -/
structure Verbatim (name : String) (vars : Variables) (t : RequestTemplate) : Prop where
  path : ∃ pieces, ∀ x : String, (t.resolve (vars.insert name (.one x))).path =
    (Place.encode (.path t.decodeSlash) x.toList).intercalate pieces
  queries : ∃ shape, ∀ x : String, (t.resolve (vars.insert name (.one x))).queries =
    fillIn (Place.encode .query x.toList) shape
  headers : ∃ shape, ∀ x : String, (t.resolve (vars.insert name (.one x))).headers =
    fillIn x.toList shape
  body : ∀ b, t.bodyTemplate? = some b → ∃ pieces, ∀ x : String,
    (t.resolve (vars.insert name (.one x))).body? = some (Utf8.encode (x.toList.intercalate pieces))

theorem exists_shape (name : String) (vars : Variables) (place : Place) (format : CollectionFormat)
    (params : Multimap Template) : ∃ shape, ∀ x : String,
      resolveParams (vars.insert name (.one x)) place format params =
        fillIn (place.encode x.toList) shape := by
  have hvalues : ∀ values : List Template, ∃ shapes : List (List (List Char)), ∀ x : String,
      (values.flatMap fun u => u.expandValues (vars.insert name (.one x)) place format) =
        shapes.map fun pieces => (place.encode x.toList).intercalate pieces := by
    intro values
    induction values with
    | nil => exact ⟨[], fun x => rfl⟩
    | cons u values ih =>
      obtain ⟨shapes, hshapes⟩ := u.exists_pieces_expandValues name vars place format
      obtain ⟨rest, hrest⟩ := ih
      exact ⟨shapes ++ rest, fun x => by rw [List.flatMap_cons, hshapes, hrest, List.map_append]⟩
  induction params with
  | nil => exact ⟨[], fun x => rfl⟩
  | cons p params ih =>
    obtain ⟨n, values⟩ := p
    obtain ⟨shape, hshape⟩ := ih
    obtain ⟨shapes, hshapes⟩ := hvalues values
    simp only [resolveParams_cons, hshape, hshapes]
    by_cases hempty : values.isEmpty = true
    · exact ⟨(n, []) :: shape, fun x => if_pos hempty⟩
    · cases shapes with
      | nil => exact ⟨shape, fun x => if_neg hempty⟩
      | cons pieces shapes =>
        refine ⟨(n, pieces :: shapes) :: shape, fun x => (if_neg hempty).trans ?_⟩
        simp [fillIn]

theorem resolve_verbatim (name : String) (vars : Variables) (t : RequestTemplate) :
    t.Verbatim name vars where
  path := by
    obtain ⟨pieces, hpieces⟩ := t.uri.exists_pieces_expand name vars (.path t.decodeSlash) t.format
    exact ⟨pieces, fun x => (Template.chars_literal _).trans (hpieces x)⟩
  queries := exists_shape name vars .query t.format t.queries
  headers := exists_shape name vars .raw t.format t.headers
  body := by
    intro b hb
    obtain ⟨pieces, hpieces⟩ := b.unescaped.exists_pieces_expand name vars .raw .exploded
    refine ⟨pieces, fun x => ?_⟩
    have hpayload := payload_resolve (vars.insert name (.one x)) t
    rw [body?, hpayload, hb]
    exact congrArg (fun text => some (Utf8.encode text)) (hpieces x)

/-- A template that is resolved has no placeholders left and stays as it is, whatever it is resolved
against: all its parts are text, and its body is bytes. Already in the first resolution no value is
read, whatever braces it has: it is put between pieces that do not depend on it. -/
theorem resolve_final (t : RequestTemplate) (vars vars' : Variables) :
    (t.resolve vars).resolve vars' = t.resolve vars ∧ (t.resolve vars).placeholders = [] ∧
    (t.resolve vars).Settled ∧
      ∀ name, t.Verbatim name vars := by
  have hsettled := settled_resolve vars t
  exact ⟨hsettled.resolve_eq vars', hsettled.placeholders_eq, hsettled, fun name => resolve_verbatim name vars t⟩

/-! ## What is looked up -/

theorem resolve_of_texts (h : ∀ n ∈ t.placeholders, vars.texts n = vars'.texts n) :
    t.resolve vars = t.resolve vars' := by
  have hpart : ∀ u ∈ t.requestParts, ∀ n ∈ u.placeholders, vars.texts n = vars'.texts n :=
    fun u hu n hn =>
      h n (mem_placeholders.mpr (.inl (List.any_eq_true.mpr ⟨u, hu, List.contains_iff_mem.mpr hn⟩)))
  have huri := Template.expand_congr (hpart t.uri (mem_requestParts.mpr (.inl rfl))) (.path t.decodeSlash) t.format
  have hqueries : resolveParams vars .query t.format t.queries =
      resolveParams vars' .query t.format t.queries :=
    resolveParams_congr fun u hu => hpart u (mem_requestParts.mpr (.inr (.inl hu)))
  have hheaders : resolveParams vars .raw t.format t.headers =
      resolveParams vars' .raw t.format t.headers :=
    resolveParams_congr fun u hu => hpart u (mem_requestParts.mpr (.inr (.inr hu)))
  have hbody : ∀ b, t.bodyTemplate? = some b →
      b.unescaped.expandRaw vars = b.unescaped.expandRaw vars' := by
    intro b hb
    refine Template.expand_congr (fun n hn => h n (mem_placeholders.mpr (.inr ⟨b, hb, ?_⟩))) .raw .exploded
    rwa [Template.placeholders_unescaped] at hn
  have hpayload : (t.resolve vars).payload = (t.resolve vars').payload := by
    rw [payload_resolve, payload_resolve]
    split
    · rename_i b hb
      rw [hbody b hb]
    · rfl
  calc t.resolve vars = { t.resolve vars' with
        uri := .literal (t.uri.expand vars (.path t.decodeSlash) t.format)
        queries := resolveParams vars .query t.format t.queries
        headers := resolveParams vars .raw t.format t.headers
        payload := (t.resolve vars).payload } := rfl
    _ = t.resolve vars' := by rw [huri, hqueries, hheaders, hpayload]; rfl

theorem resolve_congr (h : ∀ n ∈ t.placeholders, vars n = vars' n) :
    t.resolve vars = t.resolve vars' :=
  resolve_of_texts fun n hn => by rw [Variables.texts, Variables.texts, h n hn]

def withoutBodyTemplate (t : RequestTemplate) : RequestTemplate :=
  { t with payload := match t.payload with
      | .none => .none
      | .literal bytes => .literal bytes
      | .template _ => .none }

theorem bodyTemplate?_withoutBodyTemplate (t : RequestTemplate) :
    t.withoutBodyTemplate.bodyTemplate? = none := by
  unfold bodyTemplate? withoutBodyTemplate
  cases t.payload <;> rfl

/-- Variables that agree on the placeholders of a template resolve it alike; and the placeholders of
its path, queries and headers are those that it has without its body template. -/
theorem resolve_reads_placeholders (t : RequestTemplate) :
    (∀ vars vars' : Variables, (∀ n ∈ t.placeholders, vars n = vars' n) → t.resolve vars = t.resolve vars') ∧
    ∀ n, t.hasRequestPlaceholder n = true ↔ n ∈ t.withoutBodyTemplate.placeholders := by
  refine ⟨fun vars vars' h => resolve_congr h, fun n => ?_⟩
  have hparts : t.withoutBodyTemplate.hasRequestPlaceholder n = t.hasRequestPlaceholder n := rfl
  rw [mem_placeholders, bodyTemplate?_withoutBodyTemplate, hparts]
  simp

/-- What the call keeps to itself does not show: neither path nor body ask for it. -/
theorem resolve_reads_placeholders_greeting :
    let t := ((empty.setUri "/users/{id}?q={q:[a-z]+}".toList).header "X-Note" ["{note}"]).setBodyTemplate
      "%7B\"name\": \"{name}\"%7D".toList
    let vars := Variables.ofList [("id", .one "1"), ("name", .one "{secret}"), ("q", .many []),
      ("secret", .one "s")]
    let vars' := Variables.ofList [("id", .one "1"), ("name", .one "{secret}"), ("q", .many [])]
    (∀ n ∈ t.placeholders, vars n = vars' n) ∧ vars "secret" ≠ vars' "secret" ∧
      t.resolve vars = t.resolve vars' ∧
      (t.hasRequestPlaceholder "name" = true ↔ "name" ∈ t.withoutBodyTemplate.placeholders) := by
  intro t vars vars'
  have hagree : ∀ n ∈ t.placeholders, vars n = vars' n := by decide +kernel
  obtain ⟨hcongr, hnames⟩ := resolve_reads_placeholders t
  exact ⟨hagree, by decide, hcongr vars vars' hagree, hnames "name"⟩

/-! ## Lists of values -/

/-- A list of one value resolves as the value alone, and an empty list as no value at all. -/
theorem resolve_collections (t : RequestTemplate) (vars : Variables) (name x : String) :
    t.resolve (vars.insert name (.many [x])) = t.resolve (vars.insert name (.one x)) ∧
    t.resolve (vars.insert name (.many [])) = t.resolve (vars.erase name) := by
  refine ⟨resolve_of_texts fun n _ => ?_, resolve_of_texts fun n _ => ?_⟩
  · unfold Variables.texts Variables.insert
    by_cases hn : n = name
    · rw [if_pos hn, if_pos hn]
    · rw [if_neg hn, if_neg hn]
  · unfold Variables.texts Variables.insert Variables.erase
    by_cases hn : n = name
    · rw [if_pos hn, if_pos hn]
    · rw [if_neg hn, if_neg hn]

end RequestTemplate

end DeclarativeHttp
