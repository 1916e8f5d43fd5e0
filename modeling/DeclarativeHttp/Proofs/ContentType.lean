import DeclarativeHttp.Proofs.FormBodies
import DeclarativeHttp.Proofs.Resolution

/-!
# Content types

An encoder that writes JSON or a form says so, unless the method declares a content type of its own,
in whatever case it spells the name. It looks at the template before the placeholders are filled in,
so a method whose declared types all stand for nothing sends its body without any.
-/

namespace DeclarativeHttp

/-! ## Values that survive -/

/-- A value survives if it has no placeholders, or one of them stands for something. -/
def Template.Survives (texts : String → List String) (v : Template) : Prop :=
  v.placeholders = [] ∨ ∃ n ∈ v.placeholders, texts n ≠ []

namespace Template

theorem isUnresolved_iff {v : Template} {vars : Variables} :
    v.isUnresolved vars = true ↔ ¬ v.Survives vars.texts := by
  simp [isUnresolved, Survives, isNone_value?]

theorem expandValues_eq_nil_iff {v : Template} {vars : Variables} (place : Place)
    (format : CollectionFormat) :
    v.expandValues vars place format = [] ↔ ¬ v.Survives vars.texts := by
  by_cases hsingle : ∃ name, v.chunks = [.expression name] ∧ format = .exploded
  · obtain ⟨name, hchunks, rfl⟩ := hsingle
    obtain rfl : v = ⟨[.expression name]⟩ := congrArg Template.mk hchunks
    rw [expandValues_placeholder]
    simp [Survives, placeholders]
  · have hwhole : ∀ name, v.chunks = [.expression name] → format ≠ .exploded :=
      fun name hchunks hformat => hsingle ⟨name, hchunks, hformat⟩
    rw [expandValues, exploded?_eq_none hwhole, ← isUnresolved_iff]
    dsimp only
    split <;> simp_all

theorem expandValues_ofString {text : String} (h : '\x7b' ∉ text.toList) (vars : Variables)
    (place : Place) (format : CollectionFormat) :
    (ofString text).expandValues vars place format = [text.toList] := by
  have hliteral : ofString text = literal text.toList := parse_of_not_mem h
  rw [expandValues_of_literal (by rw [hliteral, (isText_literal _).placeholders_eq]), hliteral,
    chars_literal]

end Template

theorem Variables.texts_eq (vars : Variables) (n : String) :
    vars.texts n = ((vars n).map Variable.texts).getD [] := by
  unfold texts
  cases vars n with
  | none => rfl
  | some v => cases v <;> rfl

namespace RequestTemplate

variable {t : RequestTemplate}

theorem get?_resolveParams {κ : Type} [DecidableEq κ] {key : String → κ}
    {params : Multimap Template} (hdistinct : params.Distinct key) (hfull : params.Full)
    (vars : Variables) (place : Place) (format : CollectionFormat) (n : String) :
    (resolveParams vars place format params).get? key n =
      let texts := ((params.get? key n).getD []).flatMap fun v => v.expandValues vars place format
      if texts = [] then none else some (texts.map Template.literal) := by
  induction params with
  | nil => rfl
  | cons p params ih =>
    obtain ⟨hnew, hrest⟩ := List.nodup_cons.mp hdistinct
    obtain ⟨hp, hfull⟩ := List.forall_mem_cons.mp hfull
    have ih := ih hrest hfull
    rw [resolveParams_cons, if_neg (by simpa using hp), Multimap.get?]
    by_cases hn : key p.1 = key n
    · have hnone : Multimap.get? key n params = none :=
        Multimap.get?_eq_none_of_not_mem (show key n ∉ params.map fun p => key p.1 from hn ▸ hnew)
      rw [hnone] at ih
      rw [if_pos hn, Option.getD_some]
      cases p.2.flatMap fun v => v.expandValues vars place format with
      | nil => exact ih
      | cons x xs => rw [Multimap.get?, if_pos hn]; rfl
    · rw [if_neg hn]
      cases p.2.flatMap fun v => v.expandValues vars place format with
      | nil => exact ih
      | cons x xs => rw [Multimap.get?, if_neg hn, ih]

theorem Built.headerValues_resolve (h : t.Built) (vars : Variables) (name : String) :
    (t.resolve vars).headerValues name =
      (((t.headers.get? Text.caseKey name).getD []).flatMap fun v => v.expandValues vars .raw t.format).map
        String.ofList := by
  have htext : Template.text ∘ Template.literal = String.ofList := by
    funext s
    rw [Function.comp_apply, Template.text, Template.chars_literal]
  have hheaders : (t.resolve vars).headers = resolveParams vars .raw t.format t.headers := rfl
  rw [(h.resolve vars).headerValues_eq, hheaders, get?_resolveParams h.distinct h.full]
  generalize (((t.headers.get? Text.caseKey name).getD []).flatMap fun v => v.expandValues vars .raw t.format) = texts
  dsimp only
  split
  · simp_all
  · rw [Option.getD_some, List.map_map, htext]

end RequestTemplate

/-! ## Encoders -/

inductive Metadata.Encodes (m : Metadata) : Encoder → String → Prop where
  | json (h : m.bodyEncoding = .object) : m.Encodes .json Encoder.jsonType
  | form (other : Encoder) (h : m.bodyEncoding = .form) : m.Encodes (.form other) Encoder.formType

theorem Metadata.Encodes.brace_not_mem {m : Metadata} {encoder : Encoder} {type : String}
    (h : m.Encodes encoder type) :
    '\x7b' ∉ type.toList := by
  cases h <;> decide

def RequestTemplate.contentTypes (t : RequestTemplate) : List Template :=
  (t.headers.get? Text.caseKey Encoder.contentType).getD []

theorem Encoder.contentTypes_declareType {t : RequestTemplate} (h : t.Built) (type : String) :
    (declareType type t).contentTypes =
      if t.contentTypes = [] then [Template.ofString type] else t.contentTypes := by
  unfold declareType RequestTemplate.contentTypes
  rw [Headers.contains, Multimap.contains, ← Headers.get?, h.headerTexts_get?]
  cases hget : t.headers.get? Text.caseKey contentType with
  | none =>
    have hheaders : (t.header contentType [type]).headers =
        t.headers.extend Text.caseKey contentType [Template.ofString type] := rfl
    rw [Option.getD_none, if_pos rfl, if_neg (by simp), hheaders, Multimap.get?_extend_self rfl, hget]
    rfl
  | some values =>
    have hfull : values ≠ [] := h.full.of_get? hget
    rw [Option.getD_some, if_neg hfull, if_pos (by simp), hget]
    rfl

namespace Binding

variable {encoder : Encoder} {queries : QueryMapEncoder} {m : Metadata} {args : List Arg}
  {s s' : Session} {t t' : RequestTemplate} {vars : Variables} {type : String}

theorem bindBody_declares (hencodes : m.Encodes encoder type)
    (hbody : m.bodyIndex.isSome = m.bodyType.isSome)
    (h : (bindBody encoder m args vars t).on s = (.ok t', s')) :
    ∃ bytes, t' = (Encoder.declareType type t).setBody bytes := by
  cases hencodes with
  | form other hform =>
    rw [bindBody, hform] at h
    have hencoded := encodeBody_ok h
    cases hencoded
    exact ⟨_, rfl⟩
  | json hobject =>
    have hindex : m.bodyIndex.isSome = true := by
      unfold Metadata.bodyEncoding at hobject
      split at hobject
      · cases hobject
      · split at hobject
        · assumption
        · cases hobject
    obtain ⟨i, hi⟩ := Option.isSome_iff_exists.mp hindex
    obtain ⟨bodyType, htype⟩ := Option.isSome_iff_exists.mp (hbody ▸ hindex)
    rw [bindBody, hobject, hi, htype] at h
    obtain ⟨a, u, ha, hrest⟩ := Run.bind_eq_ok h
    by_cases hnull : a.isNull = true
    · rw [if_pos hnull] at hrest
      cases hrest
    · rw [if_neg hnull] at hrest
      have hencoded := encodeBody_ok hrest
      cases a with
      | uri | options => cases hencoded
      | value | bytes | absent =>
        cases hencoded
        exact ⟨_, rfl⟩

theorem mergeMap_of_isNull {index : Option Nat}
    {merge : Arg → RequestTemplate → Run RequestTemplate}
    (hnull : ∀ k a, index = some k → args[k]? = some a → a.isNull = true)
    (h : (mergeMap args index merge t).on s = (.ok t', s')) : t' = t := by
  cases index with
  | none => cases h; rfl
  | some k =>
    obtain ⟨a, u, ha, -⟩ := Run.bind_eq_ok h
    have hk := (argument_ok ha).1
    rw [on_mergeMap_some hk, if_pos (hnull k a rfl hk)] at h
    cases h
    rfl

/-- The values at the end are those that the encoder leaves, with the placeholders filled in: only
queries are merged after that. -/
theorem contentTypes_of_create {i : Interface} {op : Operation}
    (hreads : DefaultDialect.dialect.Reads i op m) (hencodes : m.Encodes encoder type)
    (hmap : ∀ k a, m.headerMapIndex = some k → args[k]? = some a → a.isNull = true)
    (h : (create encoder queries m args).on s = (.ok t, s')) :
    ∃ vars : Variables, vars.texts = m.formTexts op args ∧
      t.headerValues Encoder.contentType =
        ((if m.template.contentTypes = [] then [Template.ofString type] else m.template.contentTypes).flatMap
          fun v => v.expandValues vars .raw m.template.format).map String.ofList ∧
      t.headerTexts.get? Encoder.contentType = if t.headerValues Encoder.contentType = [] then none
        else some (t.headerValues Encoder.contentType) := by
  obtain @⟨bound, bodied, merged, _, vars, s₁, s₂, -, huri, hvars, hbody, hquery, hheader⟩ :=
    created_of_create h
  have hbuilt := (DefaultDialect.skeleton_of_reads hreads).built
  obtain ⟨hbound, hheaders, hformat⟩ : bound.Built ∧ bound.headers = m.template.headers ∧
      bound.format = m.template.format := by
    obtain ⟨-, ⟨-, rfl⟩ | ⟨k, a, u, -, -, -, rfl⟩⟩ := bindUri_ok huri
    · exact ⟨hbuilt, rfl, rfl⟩
    · exact ⟨hbuilt.setTarget _, by rw [RequestTemplate.setTarget_frame], by rw [RequestTemplate.setTarget_frame]⟩
  obtain ⟨bytes, rfl⟩ := bindBody_declares hencodes (DefaultDialect.safe_of_parseOperation hreads.read).indexed.bodyType hbody
  obtain rfl := mergeMap_of_isNull hmap hheader
  have hencoded : ((Encoder.declareType type bound).setBody bytes).Built :=
    (Encoder.declareType_built hbound type).setBody bytes
  have hsame : t.headerTexts = (((Encoder.declareType type bound).setBody bytes).resolve vars).headerTexts := by
    rw [mergeQueryMap_frame hquery]
    rfl
  have htypes : bound.contentTypes = m.template.contentTypes := by
    rw [RequestTemplate.contentTypes, hheaders, RequestTemplate.contentTypes]
  have hkept : ((Encoder.declareType type bound).setBody bytes).format = m.template.format := by
    rw [Encoder.declareType_frame, ← hformat]
    rfl
  refine ⟨vars, funext fun n => (vars.texts_eq n).trans (formTexts_eq hreads hvars n).symm, ?_, ?_⟩
  · rw [RequestTemplate.headerValues, hsame, ← RequestTemplate.headerValues, hencoded.headerValues_resolve, hkept,
      ← htypes, ← Encoder.contentTypes_declareType hbound]
    rfl
  · rw [RequestTemplate.headerValues, hsame]
    exact (hencoded.resolve vars).get?_eq_headerValues _

/-- The encoder's type is that of the body just if the method declares none; else the body has the
types that the declared ones stand for, and none if no declared one survives. -/
theorem content_type {i : Interface} {op : Operation} (hreads : DefaultDialect.dialect.Reads i op m)
    (hencodes : m.Encodes encoder type)
    (hmap : ∀ k a, m.headerMapIndex = some k → args[k]? = some a → a.isNull = true)
    (h : (create encoder queries m args).on s = (.ok t, s')) :
    (m.template.contentTypes = [] → t.headerTexts.get? Encoder.contentType = some [type]) ∧
    (m.template.contentTypes ≠ [] → ∃ vars : Variables, vars.texts = m.formTexts op args ∧
      t.headerValues Encoder.contentType =
        (m.template.contentTypes.flatMap fun v => v.expandValues vars .raw m.template.format).map String.ofList) ∧
    (t.headerTexts.get? Encoder.contentType = none ↔
      m.template.contentTypes ≠ [] ∧
        ∀ v ∈ m.template.contentTypes, ¬ v.Survives (m.formTexts op args)) := by
  obtain ⟨vars, htexts, hvalues, hget⟩ := contentTypes_of_create hreads hencodes hmap h
  by_cases hnone : m.template.contentTypes = []
  · rw [if_pos hnone, List.flatMap_singleton, Template.expandValues_ofString hencodes.brace_not_mem,
      List.map_singleton, String.ofList_toList] at hvalues
    rw [hvalues, if_neg (List.cons_ne_nil _ _)] at hget
    exact ⟨fun _ => hget, fun hsome => absurd hnone hsome, by simp [hget, hnone]⟩
  · rw [if_neg hnone] at hvalues
    refine ⟨fun h => absurd h hnone, fun _ => ⟨vars, htexts, hvalues⟩, ?_⟩
    rw [hget, hvalues, ← htexts, and_iff_right hnone]
    simp only [ite_eq_left_iff, List.map_eq_nil_iff, List.flatMap_eq_nil_iff, Template.expandValues_eq_nil_iff,
      reduceCtorEq, imp_false, not_not]

/-- Of two declared types the one that stands for something stays. -/
theorem content_type_kept :
    let op : Operation := ⟨"save", .abstract,
      [.headers ["content-type: {kind}", "Content-Type: text/{sub}"], .requestLine "POST /notes" true .exploded],
      [⟨none, .simple "String", [.param "kind" none]⟩, ⟨none, .simple "String", [.param "sub" none]⟩,
        ⟨none, .simple "Note", []⟩], .void⟩
    let i : Interface := .mk "Api" [] [] [] [op]
    let args : List Arg := [.absent, .value (.str "plain"), .value (.obj [("id", .bool true)])]
    let s : Session := ⟨0, 0, [], 0, fun _ => false, id, []⟩
    ∃ m t s', DefaultDialect.dialect.Reads i op m ∧ m.Encodes .json Encoder.jsonType ∧
      (∀ k a, m.headerMapIndex = some k → args[k]? = some a → a.isNull = true) ∧
      (create .json .members m args).on s = (.ok t, s') ∧
      t.headerTexts.get? Encoder.contentType = some ["text/plain"] ∧
      ∃ v ∈ m.template.contentTypes, v.Survives (m.formTexts op args) := by
  intro op i args s
  obtain ⟨m, t, s', hreads, hcreate, hm⟩ := DefaultDialect.exists_of_creates
    (rfl : Dialect.allOperations i = .ok [op])
    (show DefaultDialect.creates i .json .members args s (fun m t => m.bodyEncoding == .object &&
      m.headerMapIndex == none && t.headerTexts.get? Encoder.contentType == some ["text/plain"] &&
      m.template.contentTypes != []) = true by decide +kernel)
  simp only [Bool.and_eq_true, beq_iff_eq, bne_iff_ne] at hm
  obtain ⟨⟨⟨hobject, hindex⟩, htypes⟩, hdeclared⟩ := hm
  have hmap : ∀ k a, m.headerMapIndex = some k → args[k]? = some a → a.isNull = true := by
    rw [hindex]
    exact nofun
  obtain ⟨-, -, hlost⟩ := content_type hreads (.json hobject) hmap hcreate
  refine ⟨m, t, s', hreads, .json hobject, hmap, hcreate, htypes, ?_⟩
  by_contra hnone
  have hget := hlost.mpr ⟨hdeclared, fun v hv hsurvives => hnone ⟨v, hv, hsurvives⟩⟩
  rw [htypes] at hget
  cases hget

/-- A type is declared, but the argument for it is null: the document goes out without any. -/
theorem content_type_lost :
    let op : Operation := ⟨"save", .abstract,
      [.headers ["Content-Type: {type}"], .requestLine "POST /notes" true .exploded],
      [⟨none, .simple "String", [.param "type" none]⟩, ⟨none, .simple "Note", []⟩], .void⟩
    let i : Interface := .mk "Api" [] [] [] [op]
    let args : List Arg := [.absent, .value (.obj [("id", .bool true)])]
    let s : Session := ⟨0, 0, [], 0, fun _ => false, id, []⟩
    ∃ m t s', DefaultDialect.dialect.Reads i op m ∧ m.Encodes .json Encoder.jsonType ∧
      m.headerMapIndex = none ∧
      (create .json .members m args).on s = (.ok t, s') ∧
      t.headerTexts.get? Encoder.contentType = none := by
  intro op i args s
  obtain ⟨m, t, s', hreads, hcreate, hm⟩ := DefaultDialect.exists_of_creates
    (rfl : Dialect.allOperations i = .ok [op])
    (show DefaultDialect.creates i .json .members args s (fun m t => m.bodyEncoding == .object &&
      m.headerMapIndex == none && t.headerTexts.get? Encoder.contentType == none) =
        true by decide +kernel)
  simp only [Bool.and_eq_true, beq_iff_eq] at hm
  exact ⟨m, t, s', hreads, .json hm.1.1, hm.1.2, hcreate, hm.2⟩

end Binding

end DeclarativeHttp
