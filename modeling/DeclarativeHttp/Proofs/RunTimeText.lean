import DeclarativeHttp.Proofs.Built
import Mathlib.Data.List.DropRight

/-!
# Text that is given at run time

Maps of headers and queries, and the query of a URI that is an argument,
go through the reader of templates on their way. What becomes of each
text there is told here, and with it when it stays as it was given.
-/

namespace DeclarativeHttp

namespace Multimap

variable {α κ : Type} [DecidableEq κ] {key : String → κ} {m : Multimap α} {name : String}
  {values : List α}

def Shows (m : Multimap α) (name : String) (values : List α) : Prop :=
  ∃ l r, (name, l ++ values ++ r) ∈ m

theorem Shows.extend (h : m.Shows name values) (n : String) (more : List α) :
    (Multimap.extend key n more m).Shows name values := by
  induction m with
  | nil => obtain ⟨l, r, hmem⟩ := h; cases hmem
  | cons p m ih =>
    obtain ⟨l, r, hmem⟩ := h
    rw [Multimap.extend]
    obtain rfl | hmem := List.mem_cons.mp hmem
    · split
      · exact ⟨l, r ++ more, by simp only [List.append_assoc]; exact List.mem_cons_self⟩
      · exact ⟨l, r, List.mem_cons_self⟩
    · split
      · exact ⟨l, r, List.mem_cons_of_mem _ hmem⟩
      · obtain ⟨l', r', hmem'⟩ := ih ⟨l, r, hmem⟩
        exact ⟨l', r', List.mem_cons_of_mem _ hmem'⟩

theorem shows_extend (name : String) (values : List α) (m : Multimap α) :
    (Multimap.extend id name values m).Shows name values := by
  induction m with
  | nil => exact ⟨[], [], by simp [Multimap.extend]⟩
  | cons p m ih =>
    rw [Multimap.extend]
    split
    · rename_i hname
      exact ⟨p.2, [], by rw [List.append_nil]; exact (congrArg (·, p.2 ++ values) hname) ▸ List.mem_cons_self⟩
    · obtain ⟨l, r, hmem⟩ := ih
      exact ⟨l, r, List.mem_cons_of_mem _ hmem⟩

end Multimap

namespace RequestTemplate

variable {t : RequestTemplate} {name : String} {values : List Template}

/-- What stands under a name of the queries stands so in the query line. -/
theorem queryPieces_of_shows (h : t.queries.Shows name values) :
    ∃ before after, t.queryPieces = before ++ values.map (fun v => name.toList ++ '=' :: v.chars) ++ after := by
  obtain ⟨l, r, hmem⟩ := h
  obtain ⟨qs, qs', hqs⟩ := List.append_of_mem hmem
  by_cases hempty : l ++ values ++ r = []
  · obtain rfl : values = [] := (List.append_eq_nil_iff.mp (List.append_eq_nil_iff.mp hempty).1).2
    exact ⟨t.queryPieces, [], by simp⟩
  · rw [queryPieces, hqs, List.flatMap_append, List.flatMap_cons]
    dsimp only
    rw [if_neg (by simpa using hempty), List.map_append, List.map_append]
    simp only [List.append_assoc]
    rw [← List.append_assoc]
    exact ⟨_, _, rfl⟩

theorem shows_query {texts : List String} (h : texts ≠ []) (name : String) (t : RequestTemplate) :
    (t.query name texts).queries.Shows name (texts.map Template.ofString) := by
  rw [query, if_neg (by simpa using h)]
  exact Multimap.shows_extend name _ _

theorem shows_addQueryLine {line piece n v : List Char} (hpiece : piece ∈ line.splitOn '&')
    (hsplit : Text.splitFirst '=' piece = some (n, v)) (t : RequestTemplate) :
    (t.addQueryLine line).queries.Shows (String.ofList n) [Template.parse v] := by
  have hne : piece ∈ (line.splitOn '&').filter (!·.isEmpty) := by
    refine List.mem_filter.mpr ⟨hpiece, ?_⟩
    rw [Text.splitFirst_eq hsplit]
    simp
  obtain ⟨before, after, heq⟩ := List.append_of_mem hne
  simp only [addQueryLine, heq, List.foldl_append, List.foldl_cons, hsplit]
  refine List.foldlRecOn (motive := fun (qs : Multimap Template) => qs.Shows (String.ofList n) [Template.parse v]) after _
    (Multimap.shows_extend _ _ _) fun qs hqs p _ => ?_
  split
  · exact hqs.extend _ _
  · exact hqs.extend _ _

theorem shows_resolveParams {params : Multimap Template} {v : Template} (h : params.Shows name [v])
    {vars : Variables} {place : Place} {format : CollectionFormat}
    (hv : v.expandValues vars place format ≠ []) :
    (resolveParams vars place format params).Shows name
      ((v.expandValues vars place format).map Template.literal) := by
  obtain ⟨l, r, hmem⟩ := h
  have hresolved : (name, ((l ++ [v] ++ r).flatMap fun w => w.expandValues vars place format).map Template.literal) ∈
      resolveParams vars place format params := by
    refine List.mem_filterMap.mpr ⟨_, hmem, ?_⟩
    dsimp only
    rw [if_neg (by simp), if_neg (by simp [hv])]
  rw [List.flatMap_append, List.flatMap_append, List.flatMap_singleton, List.map_append,
    List.map_append] at hresolved
  exact ⟨_, _, hresolved⟩

end RequestTemplate

namespace Binding

variable {members after : List (String × Json)} {p : String × Json} {texts : List String}
  {name : String} {t u : RequestTemplate}

/-! ## Header maps -/

/-- A member without values takes the header away that it names. -/
def Clears (name : String) (p : String × Json) : Prop :=
  Text.caseKey p.1 = Text.caseKey name ∧ memberTexts p.2 = some []

instance (name : String) (p : String × Json) : Decidable (Clears name p) :=
  inferInstanceAs (Decidable (_ ∧ _))

theorem mergeHeader_of_texts (h : memberTexts p.2 = some texts) (t : RequestTemplate) :
    mergeHeader t p = t.header p.1 texts := by
  unfold mergeHeader
  split
  · rename_i hnone
    rw [h] at hnone
    cases hnone
  · rename_i texts' hsome
    rw [h] at hsome
    cases hsome
    rfl

def addedTo (name : String) (p : String × Json) : List String :=
  if Text.caseKey p.1 = Text.caseKey name then ((memberTexts p.2).getD []).map Template.reread else []

theorem headerValues_mergeHeader (hu : u.Built) (name : String) (p : String × Json) :
    (mergeHeader u p).headerValues name = if Clears name p then [] else u.headerValues name ++ addedTo name p := by
  cases htexts : memberTexts p.2 with
  | none =>
    have hkeeps : ¬ Clears name p := fun h => by rw [h.2] at htexts; cases htexts
    have hnone : addedTo name p = [] := by
      rw [addedTo, htexts]
      exact ite_self _
    rw [if_neg hkeeps, mergeHeader, htexts, hnone, List.append_nil]
  | some texts =>
    rw [mergeHeader_of_texts htexts, addedTo, htexts, Option.getD_some]
    by_cases hkey : Text.caseKey p.1 = Text.caseKey name
    · cases texts with
      | nil => rw [if_pos ⟨hkey, htexts⟩, hu.headerValues_header_nil hkey.symm]
      | cons text texts =>
        have hkeeps : ¬ Clears name p := fun h => by rw [h.2] at htexts; cases htexts
        rw [if_neg hkeeps, if_pos hkey, hu.headerValues_header (List.cons_ne_nil text texts) hkey.symm]
    · rw [if_neg fun h => hkey h.1, if_neg hkey, hu.headerValues_header_other texts (Ne.symm hkey),
        List.append_nil]

theorem mergeHeaders_append_cons (before : List (String × Json)) (p : String × Json)
    (after : List (String × Json)) (t : RequestTemplate) :
    mergeHeaders (before ++ p :: after) t = mergeHeaders after (mergeHeader (mergeHeaders before t) p) :=
  List.foldl_append

/-- The members behind the last one that takes the header away, or else all of them. -/
def kept (name : String) (members : List (String × Json)) : List (String × Json) :=
  members.rtakeWhile fun p => ¬ Clears name p

theorem kept_concat (name : String) (members : List (String × Json)) (p : String × Json) :
    kept name (members ++ [p]) = if Clears name p then [] else kept name members ++ [p] := by
  simp only [kept, List.rtakeWhile_concat, decide_eq_true_eq, ite_not]

theorem exists_clears_concat (name : String) (members : List (String × Json)) (p : String × Json) :
    (∃ q ∈ members ++ [p], Clears name q) ↔ (∃ q ∈ members, Clears name q) ∨ Clears name p := by
  simp only [List.mem_append, List.mem_singleton, or_and_right, exists_or, exists_eq_left]

theorem headerValues_mergeHeaders_eq (ht : t.Built) (name : String)
    (members : List (String × Json)) :
    (mergeHeaders members t).headerValues name =
      (if ∃ p ∈ members, Clears name p then [] else t.headerValues name) ++
        (kept name members).flatMap (addedTo name) := by
  -- the last member decides whether the others count
  induction members using List.reverseRecOn with
  | nil => simp [mergeHeaders, kept]
  | append_singleton members p ih =>
    have hlast : mergeHeaders (members ++ [p]) t = mergeHeader (mergeHeaders members t) p :=
      mergeHeaders_append_cons members p [] t
    rw [hlast, headerValues_mergeHeader (mergeHeaders_built members ht), ih, kept_concat]
    simp only [exists_clears_concat]
    by_cases hp : Clears name p
    · rw [if_pos hp, if_pos hp, if_pos (.inr hp)]
      rfl
    · rw [if_neg hp, if_neg hp, List.flatMap_append, List.flatMap_singleton, List.append_assoc]
      simp only [hp, or_false]

theorem headerValues_mergeHeaders (hu : u.Built) (h : ∀ q ∈ members, ¬ Clears name q) :
    (mergeHeaders members u).headerValues name =
      u.headerValues name ++ members.flatMap (addedTo name) := by
  have hkept : kept name members = members :=
    List.rtakeWhile_eq_self_iff.mpr fun q hq => by simpa using h q hq
  have hnone : ¬ ∃ q ∈ members, Clears name q := fun ⟨q, hq, hclears⟩ => h q hq hclears
  rw [headerValues_mergeHeaders_eq hu, if_neg hnone, hkept]

/-- The texts of a member stand in its header as they are
read again, unless a later member takes the header away. -/
theorem headerValues_of_member {before : List (String × Json)} (ht : t.Built)
    (hp : memberTexts p.2 = some texts) (hafter : ∀ q ∈ after, ¬ Clears p.1 q) :
    ∃ old new, (mergeHeaders (before ++ p :: after) t).headerValues p.1 =
      old ++ texts.map Template.reread ++ new := by
  have hbefore := mergeHeaders_built before ht
  have hrest := headerValues_mergeHeaders (mergeHeader_built hbefore p) hafter
  rw [mergeHeaders_append_cons, hrest, headerValues_mergeHeader hbefore]
  split
  · rename_i hclears
    obtain rfl : texts = [] := Option.some.inj (hp.symm.trans hclears.2)
    exact ⟨[], after.flatMap (addedTo p.1), by rw [List.map_nil, List.append_nil]⟩
  · have hadded : addedTo p.1 p = texts.map Template.reread := by
      rw [addedTo, if_pos rfl, hp, Option.getD_some]
    exact ⟨(mergeHeaders before t).headerValues p.1, after.flatMap (addedTo p.1), by rw [hadded]⟩

/-- After a member that takes a header away, it is as if only the later ones had been given. -/
theorem headerValues_of_cleared {before : List (String × Json)} (ht : t.Built)
    (hp : Clears name p) :
    (mergeHeaders (before ++ p :: after) t).headerValues name =
      (mergeHeaders after RequestTemplate.empty).headerValues name := by
  have hbefore := mergeHeaders_built before ht
  rw [mergeHeaders_append_cons, headerValues_mergeHeaders_eq (mergeHeader_built hbefore p),
    headerValues_mergeHeaders_eq .empty, headerValues_mergeHeader hbefore, if_pos hp]
  rfl

/-! ## Query maps -/

theorem shows_mergeQuery {values : List Template} (h : t.queries.Shows name values) (encoded : Bool)
    (p : String × Json) :
    (mergeQuery encoded t p).queries.Shows name values := by
  unfold mergeQuery
  split
  · exact h
  · exact h
  · rename_i texts hne _
    rw [RequestTemplate.query, if_neg (by simpa using hne)]
    exact h.extend _ _

theorem shows_mergeQueries {values : List Template} (h : t.queries.Shows name values)
    (encoded : Bool) (pairs : List (String × Json)) :
    (mergeQueries encoded pairs t).queries.Shows name values :=
  List.foldlRecOn (motive := fun (u : RequestTemplate) => u.queries.Shows name values) pairs _ h
    fun _ hu p _ => shows_mergeQuery hu encoded p

theorem shows_of_pair {pairs : List (String × Json)} (hp : p ∈ pairs)
    (htexts : memberTexts p.2 = some texts) (hne : texts ≠ []) (t : RequestTemplate) :
    (mergeQueries true pairs t).queries.Shows p.1 (texts.map Template.ofString) := by
  obtain ⟨before, after, rfl⟩ := List.append_of_mem hp
  have hmerge : ∀ u, mergeQuery true u p = u.query p.1 texts := by
    intro u
    have hkept : texts.map (queryText true) = texts := List.map_id texts
    unfold mergeQuery
    rw [htexts]
    cases texts with
    | nil => exact absurd rfl hne
    | cons text texts => exact congrArg (u.query p.1) hkept
  rw [mergeQueries, List.foldl_append, List.foldl_cons, hmerge]
  exact shows_mergeQueries (RequestTemplate.shows_query hne p.1 _) true after

/-! ## Calls -/

variable {encoder : Encoder} {queries : QueryMapEncoder} {m : Metadata} {args : List Arg}
  {s s' : Session}

theorem on_mergeMap_some {i : Nat} {a : Arg} {merge : Arg → RequestTemplate → Run RequestTemplate}
    (hi : args[i]? = some a) (t : RequestTemplate) (s : Session) :
    (mergeMap args (some i) merge t).on s = (if a.isNull then pure t else merge a t : Run RequestTemplate).on s := by
  have harg : (argument args i).on s = (.ok a, s) := by
    unfold argument
    rw [hi]
    rfl
  rw [mergeMap, Run.on_bind_ok harg]

theorem on_mergeMap {i : Nat} {a : Arg} {merge : Arg → RequestTemplate → Run RequestTemplate}
    (hi : args[i]? = some a) (ha : a.isNull = false) (t : RequestTemplate) (s : Session) :
    (mergeMap args (some i) merge t).on s = (merge a t).on s := by
  rw [on_mergeMap_some hi, ha]
  rfl

theorem Created.merged (h : Created encoder queries m args s t s') (hm : m.template.Built)
    (hencoder : encoder.Builds) :
    ∃ merged, merged.Built ∧ (mergeMap args m.headerMapIndex addHeaderMap merged).on s' =
      (.ok t, s') := by
  obtain @⟨bound, bodied, merged, _, vars, s₁, s₂, -, huri, -, hbody, hquery, hheader⟩ := h
  have hbound : bound.Built := by
    obtain ⟨-, ⟨-, rfl⟩ | ⟨k, a, u, -, -, -, rfl⟩⟩ := bindUri_ok huri
    · exact hm
    · exact hm.setTarget _
  have hbodied : bodied.Built := by
    obtain ⟨rfl, -⟩ | ⟨a, type, hencode⟩ := bindBody_ok hbody
    · exact hbound
    · exact hencoder a type bound s bodied s₁ hencode hbound
  refine ⟨merged, ?_, hheader⟩
  obtain ⟨rfl, -⟩ | ⟨k, a, -, -, hmerge⟩ := mergeMap_ok hquery
  · exact hbodied.resolve vars
  · obtain ⟨pairs, rfl, -⟩ := addQueryMap_ok hmerge
    exact mergeQueries_built _ pairs (hbodied.resolve vars)

theorem Created.built (h : Created encoder queries m args s t s') (hm : m.template.Built)
    (hencoder : encoder.Builds) :
    t.Built := by
  obtain ⟨merged, hmerged, hheader⟩ := h.merged hm hencoder
  obtain ⟨rfl, -⟩ | ⟨k, a, -, -, hmerge⟩ := mergeMap_ok hheader
  · exact hmerged
  · obtain ⟨members, -, rfl, -⟩ := addHeaderMap_ok hmerge
    exact mergeHeaders_built members hmerged

theorem Created.headerMap (h : Created encoder queries m args s t s') (hm : m.template.Built)
    (hencoder : encoder.Builds) {k : Nat} (hk : m.headerMapIndex = some k)
    (hargs : args[k]? = some (.value (.obj members))) :
    ∃ merged, merged.Built ∧ t = mergeHeaders members merged := by
  obtain ⟨merged, hmerged, hheader⟩ := h.merged hm hencoder
  rw [hk, on_mergeMap hargs rfl] at hheader
  obtain ⟨_, heq, ht, -⟩ := addHeaderMap_ok hheader
  cases heq
  exact ⟨merged, hmerged, ht⟩

theorem Created.queryMap (h : Created encoder queries m args s t s') {k : Nat} {a : Arg}
    (hk : m.queryMapIndex = some k) (hargs : args[k]? = some a) (ha : a.isNull = false) :
    ∃ pairs u, (a = .value (.obj pairs) ∨ ∃ v s₁, a = .value v ∧ (queries.encode v).on s₁ = (.ok pairs, s')) ∧
      t.queries = (mergeQueries m.queryMapEncoded pairs u).queries := by
  obtain @⟨bound, bodied, merged, _, vars, s₁, s₂, -, -, -, -, hquery, hheader⟩ := h
  rw [hk, on_mergeMap hargs ha] at hquery
  obtain ⟨pairs, rfl, hpairs⟩ := addQueryMap_ok hquery
  refine ⟨pairs, bodied.resolve vars, ?_, by rw [mergeHeaderMap_frame hheader]⟩
  obtain ⟨hobj, -⟩ | ⟨v, hv, hencode⟩ := hpairs
  · exact .inl hobj
  · exact .inr ⟨v, s₁, hv, hencode⟩

theorem Created.uri (h : Created encoder queries m args s t s') (hkeeps : encoder.KeepsUrl)
    {k : Nat} {a : Arg} {uri : String} (hk : m.urlIndex = some k) (hargs : args[k]? = some a)
    (ha : a.uri? = some uri) {base line piece n v : List Char}
    (hline : RequestTemplate.splitQuery uri.toList = (base, some line))
    (hpiece : piece ∈ line.splitOn '&') (hsplit : Text.splitFirst '=' piece = some (n, v)) :
    ∃ vars, (namedVariables m args m.names Variables.empty).on s = (.ok vars, s) ∧
      ((Template.parse v).expandValues vars .query m.template.format ≠ [] →
        t.queries.Shows (String.ofList n)
          (((Template.parse v).expandValues vars .query m.template.format).map Template.literal)) := by
  obtain @⟨bound, bodied, merged, _, vars, s₁, s₂, -, huri, hvars, hbody, hquery, hheader⟩ := h
  refine ⟨vars, hvars, fun hne => ?_⟩
  have hbound : bound.queries.Shows (String.ofList n) [Template.parse v] ∧
      bound.format = m.template.format := by
    obtain ⟨-, ⟨hnone, -⟩ | ⟨k', a', u, hk', hargs', hu, rfl⟩⟩ := bindUri_ok huri
    · rw [hk] at hnone
      cases hnone
    · rw [hk] at hk'
      cases hk'
      rw [hargs] at hargs'
      cases hargs'
      rw [ha] at hu
      cases hu
      simp only [RequestTemplate.setTarget, hline]
      exact ⟨RequestTemplate.shows_addQueryLine hpiece hsplit _, rfl⟩
  have hbodied : bodied.queries = bound.queries ∧ bodied.format = bound.format := by
    rw [bindBody_frame hkeeps hbody]
    exact ⟨rfl, rfl⟩
  have hresolved : (bodied.resolve vars).queries.Shows (String.ofList n)
      (((Template.parse v).expandValues vars .query m.template.format).map Template.literal) := by
    simp only [RequestTemplate.resolve, hbodied, hbound.2]
    exact RequestTemplate.shows_resolveParams hbound.1 hne
  rw [mergeHeaderMap_frame hheader]
  obtain ⟨rfl, -⟩ | ⟨k, a, -, -, hmerge⟩ := mergeMap_ok hquery
  · exact hresolved
  · obtain ⟨pairs, rfl, -⟩ := addQueryMap_ok hmerge
    exact shows_mergeQueries hresolved _ pairs

/-- Texts that are given at run time are read as templates and written again, and stay as they are
just if they are steady. So it is with header maps, where besides a member without values takes away
what was given before it, with encoded query maps, and with headers that are added later. The pairs
in the query of a URI are read before the template is resolved, and stay just if they are plain. -/
theorem run_time_text {i : Interface} {op : Operation}
    (hreads : DefaultDialect.dialect.Reads i op m) (hencoder : encoder.Builds)
    (h : (create encoder queries m args).on s = (.ok t, s')) :
    (∀ texts : List String, texts.map Template.reread = texts ↔ ∀ text ∈ texts, Template.Steady text.toList) ∧
    (∀ k members, m.headerMapIndex = some k → args[k]? = some (.value (.obj members)) →
      ∀ before p after texts, members = before ++ p :: after → memberTexts p.2 = some texts →
        ((∀ q ∈ after, ¬ Clears p.1 q) →
          ∃ old new, t.headerValues p.1 = old ++ texts.map Template.reread ++ new) ∧
        ∀ mid q rest, after = mid ++ q :: rest → Clears p.1 q →
          t.headerValues p.1 = (mergeHeaders rest RequestTemplate.empty).headerValues p.1) ∧
    (∀ k a, m.queryMapIndex = some k → args[k]? = some a → a.isNull = false → m.queryMapEncoded = true →
      ∃ pairs, (a = .value (.obj pairs) ∨ ∃ v s₁, a = .value v ∧ (queries.encode v).on s₁ = (.ok pairs, s')) ∧
        ∀ p ∈ pairs, ∀ texts, memberTexts p.2 = some texts → ∃ before after, t.queryPieces =
          before ++ (texts.map Template.reread).map (fun v => p.1.toList ++ '=' :: v.toList) ++ after) ∧
    (∀ k a uri base line, m.urlIndex = some k → args[k]? = some a → a.uri? = some uri →
      encoder.KeepsUrl → RequestTemplate.splitQuery uri.toList = (base, some line) →
      ∀ piece ∈ line.splitOn '&', ∀ name v, Text.splitFirst '=' piece = some (name, v) →
        ∃ vars written,
        (namedVariables m args m.names Variables.empty).on s = (.ok vars, s) ∧
        written = (Template.parse v).expandValues vars .query m.template.format ∧
        (∃ before after, t.queryPieces = before ++ written.map (fun v => name ++ '=' :: v) ++ after) ∧
        (v ∈ written ↔ Template.Plain v)) ∧
    t.Built ∧ ∀ u : RequestTemplate, u.Built → ∀ name values, values ≠ [] →
      (u.header name values).headerValues name =
        u.headerValues name ++ values.map Template.reread := by
  have hm := (DefaultDialect.skeleton_of_reads hreads).built
  have hcreated := created_of_create h
  refine ⟨Template.map_reread_eq_iff, ?_, ?_, ?_, hcreated.built hm hencoder, fun u hu name values hne => ?_⟩
  · rintro k members hk hargs before p after texts rfl htexts
    obtain ⟨merged, hmerged, rfl⟩ := hcreated.headerMap hm hencoder hk hargs
    refine ⟨headerValues_of_member hmerged htexts, ?_⟩
    rintro mid q rest rfl hq
    rw [← List.cons_append, ← List.append_assoc]
    exact headerValues_of_cleared hmerged hq
  · intro k a hk hargs ha hencoded
    obtain ⟨pairs, u, hpairs, hqueries⟩ := hcreated.queryMap hk hargs ha
    refine ⟨pairs, hpairs, fun p hp texts htexts => ?_⟩
    cases texts with
    | nil => exact ⟨t.queryPieces, [], by simp⟩
    | cons text texts =>
      have hshows : t.queries.Shows p.1 ((text :: texts).map Template.ofString) := by
        rw [hqueries, hencoded]
        exact shows_of_pair hp htexts (by simp) u
      obtain ⟨before, after, hpieces⟩ := RequestTemplate.queryPieces_of_shows hshows
      refine ⟨before, after, hpieces.trans ?_⟩
      simp only [List.map_map, Function.comp_def, Template.reread, Template.text, String.toList_ofList]
  · intro k a uri base line hk hargs ha hkeeps hline piece hpiece name v hsplit
    obtain ⟨vars, hvars, hshows⟩ := hcreated.uri hkeeps hk hargs ha hline hpiece hsplit
    refine ⟨vars, _, hvars, rfl, ?_, Template.mem_expandValues_iff v vars _⟩
    by_cases hne : (Template.parse v).expandValues vars .query m.template.format = []
    · exact ⟨t.queryPieces, [], by rw [hne]; simp⟩
    · obtain ⟨before, after, hpieces⟩ := RequestTemplate.queryPieces_of_shows (hshows hne)
      refine ⟨before, after, hpieces.trans ?_⟩
      simp only [List.map_map, Function.comp_def, Template.chars_literal, String.toList_ofList]
  · exact hu.headerValues_header hne rfl

/-- A note without braces stays in its header as it is. -/
theorem run_time_text_note :
    let map : TypeRef := .named "Map" [.simple "String", .simple "String"]
    let op : Operation := ⟨"list", .abstract, [.requestLine "GET /items" true .exploded],
      [⟨none, map, [.headerMap]⟩], .void⟩
    let i : Interface := .mk "Api" [] [] [] [op]
    let members : List (String × Json) := [("X-Note", .str "as it is")]
    let s : Session := ⟨0, 0, [], 0, fun _ => false, id, []⟩
    ∃ m t s', DefaultDialect.dialect.Reads i op m ∧ Encoder.plain.Builds ∧
      (create .plain .members m [.value (.obj members)]).on s = (.ok t, s') ∧ t.Built ∧
      ∃ old new, t.headerValues "X-Note" = old ++ ["as it is"] ++ new := by
  intro map op i members s
  obtain ⟨m, t, s', hreads, hcreate, hm⟩ := DefaultDialect.exists_of_creates
    (rfl : Dialect.allOperations i = .ok [op])
    (show DefaultDialect.creates i .plain .members [.value (.obj members)] s
      (fun m _ => m.headerMapIndex == some 0) = true by decide +kernel)
  obtain ⟨-, hheaders, -, -, hbuilt, -⟩ := run_time_text hreads Encoder.Stock.plain.builds hcreate
  have hnote := (hheaders 0 members (beq_iff_eq.mp hm) rfl [] _ [] ["as it is"] rfl rfl).1 fun q hq => by cases hq
  rw [show ["as it is"].map Template.reread = ["as it is"] by decide +kernel] at hnote
  exact ⟨m, t, s', hreads, Encoder.Stock.plain.builds, hcreate, hbuilt, hnote⟩

/-- Blanks and patterns between braces get lost, and so
does a header that is given again without values. -/
theorem run_time_text_changed :
    let map : TypeRef := .named "Map" [.simple "String", .simple "String"]
    let op : Operation := ⟨"list", .abstract, [.requestLine "GET /items" true .exploded],
      [⟨none, map, [.headerMap]⟩, ⟨none, map, [.queryMap true]⟩, ⟨none, .simple "Uri", []⟩], .void⟩
    let i : Interface := .mk "Api" [] [] [] [op]
    let members : List (String × Json) :=
  [("Keep", .str "kept"), ("X-Note", .str "\x7b id \x7d"), ("keep", .arr [])]
    let args : List Arg := [.value (.obj members), .value (.obj [("q", .str "\x7ba:b\x7d")]),
      .value (.str "http://api.example/?x=\x7by\x7d&z=1")]
    let s : Session := ⟨0, 0, [], 0, fun _ => false, id, []⟩
    ∃ m t s', DefaultDialect.dialect.Reads i op m ∧
      (create .plain .members m args).on s = (.ok t, s') ∧
      t.resolved = true ∧ t.headerValues "X-Note" = ["\x7bid\x7d"] ∧ t.headerValues "Keep" = [] ∧
      t.queryLine = "z=1&q=\x7ba\x7d".toList ∧
      (t.header "X-Trace" ["\x7b on \x7d"]).headerValues "X-Trace" = ["\x7bon\x7d"] := by
  intro map op i members args s
  obtain ⟨m, t, s', hreads, hcreate, ht⟩ := DefaultDialect.exists_of_creates
    (rfl : Dialect.allOperations i = .ok [op])
    (show DefaultDialect.creates i .plain .members args s (fun _ t => t.resolved &&
      t.headerValues "X-Note" == ["\x7bid\x7d"] && t.headerValues "Keep" == [] &&
      t.queryLine == "z=1&q=\x7ba\x7d".toList &&
      (t.header "X-Trace" ["\x7b on \x7d"]).headerValues "X-Trace" == ["\x7bon\x7d"]) =
        true by decide +kernel)
  simp only [Bool.and_eq_true, beq_iff_eq] at ht
  obtain ⟨⟨⟨⟨hresolved, hnote⟩, hkeep⟩, hline⟩, htrace⟩ := ht
  exact ⟨m, t, s', hreads, hcreate, hresolved, hnote, hkeep, hline, htrace⟩

end Binding

end DeclarativeHttp
