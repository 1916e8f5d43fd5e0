import DeclarativeHttp.Proofs.Decoding
import DeclarativeHttp.Proofs.RunTimeText
import Mathlib.Data.List.Lex
import Mathlib.Tactic.SplitIfs

/-!
# Query maps

The members of an object go into the queries of a resolved template one by one, escaped, in the
order of their names. `query_map_merges` says what the queries are after that: those that were there
keep their places and their values, and what came in is read back as it was.
-/

namespace DeclarativeHttp

/-! ## The order of names -/

namespace Utf8

theorem cons_lt_cons {a b : Nat} {x y : Bytes} (hb : b < 256) (h : a ≤ b) (hrest : a = b → x < y) :
    UInt8.ofNat a :: x < UInt8.ofNat b :: y := by
  obtain h | rfl := Nat.lt_or_eq_of_le h
  · refine List.Lex.rel (UInt8.lt_iff_toNat_lt.mpr ?_)
    simp only [UInt8.toNat_ofNat']
    omega
  · exact List.Lex.cons (hrest rfl)

theorem utf8EncodeChar_append_lt {c d : Char} (h : c < d) (x y : Bytes) :
    String.utf8EncodeChar c ++ x < String.utf8EncodeChar d ++ y := by
  have hlt : c.val.toNat < d.val.toNat := h
  have hd : d.val.toNat < 0xD800 ∨ 0xDFFF < d.val.toNat ∧ d.val.toNat < 0x110000 := d.valid
  rw [String.utf8EncodeChar, String.utf8EncodeChar]
  generalize c.val.toNat = v at hlt
  generalize d.val.toNat = w at hlt hd
  -- characters of different lengths differ in their first bytes,
  -- characters of one length in one byte or another
  split
  · split_ifs <;> exact cons_lt_cons (by omega) (by omega) fun he => absurd he (by omega)
  split
  · split_ifs
    · omega
    · exact cons_lt_cons (by omega) (by omega) fun _ => cons_lt_cons (by omega) (by omega) fun he =>
        absurd he (by omega)
    all_goals exact cons_lt_cons (by omega) (by omega) fun he => absurd he (by omega)
  split
  · split_ifs
    · omega
    · omega
    · exact cons_lt_cons (by omega) (by omega) fun _ => cons_lt_cons (by omega) (by omega) fun _ =>
        cons_lt_cons (by omega) (by omega) fun he => absurd he (by omega)
    · exact cons_lt_cons (by omega) (by omega) fun he => absurd he (by omega)
  · split_ifs
    · omega
    · omega
    · omega
    · exact cons_lt_cons (by omega) (by omega) fun _ => cons_lt_cons (by omega) (by omega) fun _ =>
        cons_lt_cons (by omega) (by omega) fun _ => cons_lt_cons (by omega) (by omega) fun he =>
          absurd he (by omega)

/-- Texts are ordered as their bytes are. -/
theorem encode_lt {s t : List Char} (h : s < t) : encode s < encode t := by
  induction h with
  | nil =>
    rename_i d t
    obtain ⟨b, bs, hb⟩ := List.exists_cons_of_ne_nil (String.utf8EncodeChar_ne_nil (c := d))
    rw [encode, encode, List.flatMap_cons, hb]
    exact List.Lex.nil
  | cons _ ih => exact List.Lex.append_left _ ih _
  | rel h => exact utf8EncodeChar_append_lt h _ _

end Utf8

namespace Json

variable {name : String} {value : Json} {members : Members}

/-- The names are in the order of their bytes, and so no two are the same. -/
def Members.Ordered (members : Members) : Prop :=
  members.Pairwise fun p q => Utf8.ofString p.1 < Utf8.ofString q.1

theorem Members.mem_insert {p : String × Json} (h : p ∈ members.insert name value) :
    p.1 = name ∨ p ∈ members := by
  induction members with
  | nil => exact .inl (congrArg Prod.fst (List.mem_singleton.mp h))
  | cons q members ih =>
    rw [Members.insert] at h
    split at h
    · obtain rfl | h := List.mem_cons.mp h
      · exact .inl rfl
      · exact .inr (List.mem_cons_of_mem q h)
    · split at h
      · obtain rfl | h := List.mem_cons.mp h
        · exact .inl rfl
        · exact .inr h
      · obtain rfl | h := List.mem_cons.mp h
        · exact .inr List.mem_cons_self
        · exact (ih h).imp_right (List.mem_cons_of_mem q)

theorem Members.pairwise_insert (h : members.Pairwise fun p q => p.1 < q.1) :
    (members.insert name value).Pairwise fun p q => p.1 < q.1 := by
  induction members with
  | nil => exact List.pairwise_singleton _ _
  | cons q members ih =>
    obtain ⟨hq, hrest⟩ := List.pairwise_cons.mp h
    rw [Members.insert]
    split
    · rename_i hname
      exact List.pairwise_cons.mpr ⟨fun p hp => hname ▸ hq p hp, hrest⟩
    · rename_i hname
      split
      · rename_i hlt
        exact List.pairwise_cons.mpr ⟨List.forall_mem_cons.mpr ⟨hlt, fun p hp => String.lt_trans hlt (hq p hp)⟩, h⟩
      · rename_i hge
        have hlt : q.1 < name :=
          String.not_le.mp fun hle => hname (String.le_antisymm hle (String.not_lt.mp hge))
        refine List.pairwise_cons.mpr ⟨fun p hp => ?_, ih hrest⟩
        obtain hp | hp := Members.mem_insert hp
        · exact hp ▸ hlt
        · exact hq p hp

theorem exists_members (fields : List (String × Json)) :
    ∃ members : Members, object fields = .obj members ∧ members.Ordered := by
  refine ⟨_, rfl, List.Pairwise.imp (fun h => Utf8.encode_lt h) ?_⟩
  exact List.foldlRecOn (motive := fun (ms : Members) => ms.Pairwise fun p q => p.1 < q.1) fields _ .nil
    fun _ hms _ _ => Members.pairwise_insert hms

/-- The values that a member stands for, without nulls:
the elements of a list, or else the value itself. -/
def present : Json → List Json
  | .null => []
  | .arr items => items.filter (!·.isNull)
  | v => [v]

end Json

/-! ## Escapes -/

namespace Place

theorem text?_encode_query (s : List Char) : Percent.text? (query.encode s) = some s :=
  Percent.text?_encode (by decide) s

theorem encode_query_inj {s s' : List Char} (h : query.encode s = query.encode s') : s = s' := by
  have htext := congrArg Percent.text? h
  rwa [text?_encode_query, text?_encode_query, Option.some.injEq] at htext

end Place

namespace Template

theorem ofString_escaped (s : List Char) :
    ofString (String.ofList (Place.query.encode s)) = literal (Place.query.encode s) := by
  rw [ofString, String.toList_ofList]
  exact parse_of_not_mem (Place.not_mem_encode (by decide) (by decide) s)

end Template

/-! ## Merging -/

namespace Binding

variable {encoder : Encoder} {queries : QueryMapEncoder} {m : Metadata} {args : List Arg}
  {s s' : Session} {t : RequestTemplate} {members : Json.Members}

def escapedMember (p : String × Json) : String × List Template :=
  (String.ofList (Place.query.encode p.1.toList),
    p.2.present.map fun v => Template.literal (Place.query.encode v.plainText.toList))

def escapedMembers (members : Json.Members) : Multimap Template :=
  (members.filter fun p => !p.2.present.isEmpty).map escapedMember

theorem escapedMembers_distinct (h : members.Ordered) : (escapedMembers members).Distinct id := by
  rw [Multimap.Distinct, escapedMembers, List.map_map]
  refine List.pairwise_map.mpr ((List.Pairwise.filter _ h).imp fun {p q} hlt he => ?_)
  have hname : p.1 = q.1 := String.toList_inj.mp (Place.encode_query_inj (String.ofList_inj.mp he))
  rw [hname] at hlt
  exact List.lt_irrefl _ hlt

theorem memberTexts_eq (v : Json) : (memberTexts v).getD [] = v.present.map Json.plainText := by
  cases v <;> rfl

theorem mergeQuery_of_absent {p : String × Json} (h : p.2.present = []) (t : RequestTemplate) :
    mergeQuery false t p = t := by
  have htexts := memberTexts_eq p.2
  rw [h, List.map_nil] at htexts
  unfold mergeQuery
  split
  · rfl
  · rfl
  · rename_i texts hne hsome
    rw [hsome] at htexts
    exact absurd htexts hne

theorem mergeQuery_of_present {p : String × Json} (h : p.2.present ≠ []) (t : RequestTemplate) :
    mergeQuery false t p = { t with queries := t.queries.extend id (escapedMember p).1 (escapedMember p).2 } := by
  have htexts := memberTexts_eq p.2
  have hne : p.2.present.map Json.plainText ≠ [] := by simpa using h
  unfold mergeQuery
  split
  · rename_i hnone
    rw [hnone] at htexts
    exact absurd htexts.symm hne
  · rename_i hnil
    rw [hnil] at htexts
    exact absurd htexts.symm hne
  · rename_i texts _ hsome
    rw [hsome, Option.getD_some] at htexts
    subst htexts
    have hvalues : ((p.2.present.map Json.plainText).map (queryText false)).map Template.ofString =
        p.2.present.map fun v => Template.literal (Place.query.encode v.plainText.toList) := by
      rw [List.map_map, List.map_map]
      exact List.map_congr_left fun v _ => Template.ofString_escaped v.plainText.toList
    rw [RequestTemplate.query, if_neg (by simpa using h), hvalues]
    rfl

theorem mergeQueries_eq (members : Json.Members) (t : RequestTemplate) :
    mergeQueries false members t =
      { t with queries := (escapedMembers members).foldl (fun qs q => qs.extend id q.1 q.2) t.queries } := by
  induction members generalizing t with
  | nil => rfl
  | cons p members ih =>
    have hstep : mergeQueries false (p :: members) t =
        mergeQueries false members (mergeQuery false t p) := rfl
    rw [hstep, ih]
    by_cases hp : p.2.present = []
    · have hmembers : escapedMembers (p :: members) = escapedMembers members := by
        rw [escapedMembers, List.filter_cons, if_neg (by simp [hp])]
        rfl
      rw [mergeQuery_of_absent hp, hmembers]
    · have hmembers : escapedMembers (p :: members) =
          escapedMember p :: escapedMembers members := by
        rw [escapedMembers, List.filter_cons, if_pos (by simp [hp])]
        rfl
      rw [mergeQuery_of_present hp, hmembers]
      rfl

/-- The members of an object go into the queries of the template that the call makes without its
maps, in the order of their names. The queries that are there keep their places and their values,
with the values of the member of their name behind them; the other members follow. What was put in
is read back as it was, and nothing else is touched, except that a header map may come after. -/
theorem query_map_merges (hm : m.template.Built) (hencoder : encoder.Builds) {k : Nat}
    {fields : List (String × Json)} (hk : m.queryMapIndex = some k)
    (hencoded : m.queryMapEncoded = false) (harg : args[k]? = some (.value (Json.object fields)))
    (h : (create encoder queries m args).on s = (.ok t, s')) :
    ∃ (members : Json.Members) (before merged : RequestTemplate),
      Json.object fields = .obj members ∧ members.Ordered ∧
      (create encoder queries { m with queryMapIndex := none, headerMapIndex := none } args).on s =
        (.ok before, s') ∧
      (create encoder queries { m with headerMapIndex := none } args).on s = (.ok merged, s') ∧
      merged = { before with queries := before.queries.merge id (escapedMembers members) } ∧
      (escapedMembers members).map (fun p => (Percent.text? p.1.toList, p.2.map fun v => Percent.text? v.chars)) =
        (members.filter fun p => !p.2.present.isEmpty).map (fun p =>
          (some p.1.toList, p.2.present.map fun v => some v.plainText.toList)) ∧
      t = { merged with headers := t.headers } ∧ (m.headerMapIndex = none → t = merged) := by
  obtain ⟨before, merged, s₁, hbefore, hmerged, hquery, hheader⟩ := (created_of_create h).unmerged
  obtain ⟨members, hfields, hordered⟩ := Json.exists_members fields
  rw [hk, on_mergeMap (hfields ▸ harg) rfl] at hquery
  cases hquery
  have hbuilt : before.Built := (created_of_create hbefore).built hm hencoder
  refine ⟨members, before, _, hfields, hordered, hbefore, hmerged, ?_, ?_, mergeHeaderMap_frame hheader, fun hnone => ?_⟩
  · rw [hencoded, mergeQueries_eq,
      Multimap.foldl_extend_eq hbuilt.queries_distinct (escapedMembers_distinct hordered)]
  · simp only [escapedMembers, escapedMember, List.map_map, Function.comp_def, String.toList_ofList,
      Template.chars_literal, Place.text?_encode_query]
  · rw [hnone] at hheader
    cases hheader
    rfl

/-- A list with a null and a list in it joins the query of its name, a name with braces follows
behind, and what is null or has only nulls is left out. -/
theorem query_map_merges_items :
    let map : TypeRef := .named "Map" [.simple "String", .wildcard]
    let op : Operation := ⟨"list", .abstract, [.requestLine "GET /items?tag=a&q=b" true .exploded],
      [⟨none, map, [.queryMap false]⟩], .void⟩
    let i : Interface := .mk "Api" [] [] [] [op]
    let fields : List (String × Json) :=
      [("tag", .arr [.str "x&y", .null, .arr []]), ("b \x7bc\x7d", .str "ü"), ("gone", .null),
        ("empty", .arr [.null])]
    let args : List Arg := [.value (Json.object fields)]
    let s : Session := ⟨0, 0, [], 0, fun _ => false, id, []⟩
    ∃ m t s' before members, DefaultDialect.dialect.Reads i op m ∧ m.template.Built ∧
      Encoder.plain.Builds ∧
      m.queryMapIndex = some 0 ∧ m.queryMapEncoded = false ∧
      (create .plain .members m args).on s = (.ok t, s') ∧
      (create .plain .members { m with queryMapIndex := none, headerMapIndex := none } args).on s =
        (.ok before, s') ∧
      Json.object fields = .obj members ∧
      t.queries = before.queries.merge id (escapedMembers members) ∧
      t.queryLine = "tag=a&tag=x%26y&tag=%5B%5D&q=b&b%20%7Bc%7D=%C3%BC".toList := by
  intro map op i fields args s
  obtain ⟨m, t, s', hreads, hcreate, hm⟩ := DefaultDialect.exists_of_creates
    (rfl : Dialect.allOperations i = .ok [op])
    (show DefaultDialect.creates i .plain .members args s (fun m t => m.queryMapIndex == some 0 &&
      m.queryMapEncoded == false &&
      t.queryLine == "tag=a&tag=x%26y&tag=%5B%5D&q=b&b%20%7Bc%7D=%C3%BC".toList) = true by
      decide +kernel)
  simp only [Bool.and_eq_true, beq_iff_eq] at hm
  obtain ⟨⟨hindex, hencoded⟩, hline⟩ := hm
  have hbuilt := (DefaultDialect.skeleton_of_reads hreads).built
  obtain ⟨members, before, merged, hfields, -, hbefore, -, hmerged, -, ht, -⟩ :=
    query_map_merges hbuilt Encoder.Stock.plain.builds hindex hencoded rfl hcreate
  refine ⟨m, t, s', before, members, hreads, hbuilt, Encoder.Stock.plain.builds, hindex, hencoded,
    hcreate, hbefore, hfields, ?_, hline⟩
  rw [ht, hmerged]

end Binding

end DeclarativeHttp
