import DeclarativeHttp.Proofs.RunTimeText

/-!
# Header maps

A header map comes after everything else. A member of it adds to the header of its name, in whatever
case the name is, except that one whose list has no texts takes the header away. So the map only
adds to headers, unless such a member names one of them (`header_map_adds`).
-/

namespace DeclarativeHttp

def Arg.members : Arg → List (String × Json)
  | .value (.obj members) => members
  | _ => []

theorem Arg.members_of_isNull {a : Arg} (ha : a.isNull = true) : a.members = [] := by
  cases a with
  | value v =>
    cases v with
    | null => rfl
    | _ => cases ha
  | _ => rfl

/-- Every header is still there, and its values come first. -/
def RequestTemplate.HeadersGrow (t t' : RequestTemplate) : Prop :=
  ∀ name values, t.headerTexts.get? name = some values →
    ∃ more, t'.headerTexts.get? name = some (values ++ more)

namespace Binding

variable {encoder : Encoder} {queries : QueryMapEncoder} {m : Metadata} {args : List Arg}
  {s s' : Session} {t before : RequestTemplate}

theorem mergeMap_headers {k : Nat} {a : Arg} (hi : args[k]? = some a)
    (h : (mergeMap args (some k) addHeaderMap before).on s = (.ok t, s')) :
    t = mergeHeaders a.members before := by
  rw [on_mergeMap_some hi] at h
  split at h
  · rename_i hnull
    rw [Arg.members_of_isNull hnull]
    cases h
    rfl
  · obtain ⟨members, rfl, rfl, -⟩ := addHeaderMap_ok h
    rfl

/-- To grow, the headers need nothing from members that only add; where a member takes a header
away, the members behind have to bring its values back. -/
theorem headersGrow_iff (hbefore : before.Built) (members : List (String × Json)) :
    before.HeadersGrow (mergeHeaders members before) ↔
      ∀ name values, before.headerTexts.get? name = some values → (∃ p ∈ members, Clears name p) →
        values <+: (kept name members).flatMap (addedTo name) := by
  have hafter := mergeHeaders_built members hbefore
  refine ⟨fun hgrow name values hvalues hclears => ?_, fun hback name values hvalues => ?_⟩
  · obtain ⟨more, hmore⟩ := hgrow name values hvalues
    have hall := (hafter.get?_eq_some_iff.mp hmore).1
    rw [headerValues_mergeHeaders_eq hbefore, if_pos hclears, List.nil_append] at hall
    exact ⟨more, hall.symm⟩
  · obtain ⟨hold, hne⟩ := hbefore.get?_eq_some_iff.mp hvalues
    have hgrown : ∃ more, (mergeHeaders members before).headerValues name = values ++ more := by
      rw [headerValues_mergeHeaders_eq hbefore]
      by_cases hclears : ∃ p ∈ members, Clears name p
      · obtain ⟨more, hmore⟩ := hback name values hvalues hclears
        exact ⟨more, by rw [if_pos hclears, hmore, List.nil_append]⟩
      · exact ⟨_, by rw [if_neg hclears, hold]⟩
    obtain ⟨more, hmore⟩ := hgrown
    exact ⟨more, hafter.get?_eq_some_iff.mpr ⟨hmore, by simp [hne]⟩⟩

/-- A header map changes the headers only. Of a header whose name no member takes away, the values
stay, with what members of its name bring behind them; otherwise it has what the members behind the
last such one bring, and is gone if they bring nothing. So the map only adds, just if what a member
takes away comes back behind it. -/
theorem header_map_adds {i : Interface} {op : Operation}
    (hreads : DefaultDialect.dialect.Reads i op m) (hencoder : encoder.Builds) {k : Nat} {a : Arg}
    (hk : m.headerMapIndex = some k) (harg : args[k]? = some a)
    (h : (create encoder queries m args).on s = (.ok t, s')) :
    ∃ before, (create encoder queries { m with headerMapIndex := none } args).on s = (.ok before, s') ∧
      t = { before with headers := t.headers } ∧
      (∀ name,
        let values := (if ∃ p ∈ a.members, Clears name p then [] else before.headerValues name) ++
          (kept name a.members).flatMap (addedTo name)
        t.headerTexts.get? name = if values = [] then none else some values) ∧
      (before.HeadersGrow t ↔ ∀ name values, before.headerTexts.get? name = some values →
        (∃ p ∈ a.members, Clears name p) →
          values <+: (kept name a.members).flatMap (addedTo name)) := by
  obtain ⟨-, before, -, -, hbefore, -, hheader⟩ := (created_of_create h).unmerged
  have hbuilt : before.Built :=
    (created_of_create hbefore).built (DefaultDialect.skeleton_of_reads hreads).built hencoder
  have hframe := mergeHeaderMap_frame hheader
  rw [hk] at hheader
  obtain rfl := mergeMap_headers harg hheader
  refine ⟨before, hbefore, hframe, fun name => ?_, headersGrow_iff hbuilt a.members⟩
  rw [(mergeHeaders_built a.members hbuilt).get?_eq_headerValues, headerValues_mergeHeaders_eq hbuilt]

/-- A text joins the header of its name; what takes away a header that is not there does no harm. -/
theorem header_map_adds_keep :
    let map : TypeRef := .named "Map" [.simple "String", .wildcard]
    let op : Operation := ⟨"list", .abstract, [.headers ["X-Keep: kept"], .requestLine "GET /items" true .exploded],
      [⟨none, map, [.headerMap]⟩], .void⟩
    let i : Interface := .mk "Api" [] [] [] [op]
    let members : List (String × Json) :=
  [("X-Gone", .arr [.null]), ("X-None", .null), ("x-keep", .str "more")]
    let args : List Arg := [.value (.obj members)]
    let s : Session := ⟨0, 0, [], 0, fun _ => false, id, []⟩
    ∃ m before t s', DefaultDialect.dialect.Reads i op m ∧ Encoder.plain.Builds ∧
      m.headerMapIndex = some 0 ∧
      args[0]? = some (.value (.obj members)) ∧ (create .plain .members m args).on s = (.ok t, s') ∧
      (create .plain .members { m with headerMapIndex := none } args).on s = (.ok before, s') ∧
      before.headerTexts.get? "X-Keep" = some ["kept"] ∧
      t.headerTexts.get? "X-Keep" = some ["kept", "more"] ∧
      before.HeadersGrow t := by
  intro map op i members args s
  obtain ⟨m, t, s', hreads, hcreate, hm⟩ := DefaultDialect.exists_of_creates
    (rfl : Dialect.allOperations i = .ok [op])
    (show DefaultDialect.creates i .plain .members args s (fun m _ => m.headerMapIndex == some 0 &&
      ((create .plain .members { m with headerMapIndex := none } args).on s).1.toOption.map
        (·.headerTexts.entries) == some [("X-Keep", ["kept"])]) = true by decide +kernel)
  simp only [Bool.and_eq_true, beq_iff_eq] at hm
  obtain ⟨hindex, hentries⟩ := hm
  obtain ⟨before, hbefore, -, hvalues, hgrow⟩ :=
    header_map_adds (a := .value (.obj members)) hreads Encoder.Stock.plain.builds hindex rfl hcreate
  rw [hbefore] at hentries
  have hentries : before.headerTexts.entries = [("X-Keep", ["kept"])] := Option.some.inj hentries
  have hget : ∀ name, before.headerTexts.get? name =
      if Text.caseKey "X-Keep" = Text.caseKey name then some ["kept"] else none := fun name => by
    rw [Headers.get?, hentries]
    rfl
  have hkeep : before.headerValues "X-Keep" = ["kept"] := by
    rw [RequestTemplate.headerValues, hget, if_pos rfl]
    rfl
  refine ⟨m, before, t, s', hreads, Encoder.Stock.plain.builds, hindex, rfl, hcreate, hbefore, ?_,
    ?_, hgrow.mpr ?_⟩
  · rw [hget, if_pos rfl]
  · rw [hvalues "X-Keep", hkeep]
    decide +kernel
  · rintro name values hheader ⟨p, hp, hname, hclears⟩
    rw [hget] at hheader
    have hgone : p.1 = "X-Gone" := by
      simp only [Arg.members, members, List.mem_cons, List.not_mem_nil, or_false] at hp
      obtain rfl | rfl | rfl := hp
      · rfl
      · cases hclears
      · cases hclears
    rw [← hname, hgone, if_neg (by decide +kernel)] at hheader
    cases hheader

/-- A list without texts takes the header of its
name away, though it was written in another case. -/
theorem header_map_takes_away :
    let map : TypeRef := .named "Map" [.simple "String", .simple "String"]
    let op : Operation := ⟨"list", .abstract, [.headers ["X-Keep: kept"], .requestLine "GET /items" true .exploded],
      [⟨none, map, [.headerMap]⟩], .void⟩
    let i : Interface := .mk "Api" [] [] [] [op]
    let args : List Arg := [.value (.obj [("x-keep", .arr [])])]
    let s : Session := ⟨0, 0, [], 0, fun _ => false, id, []⟩
    ∃ m before t s', DefaultDialect.dialect.Reads i op m ∧ m.headerMapIndex = some 0 ∧
      (create .plain .members { m with headerMapIndex := none } args).on s = (.ok before, s') ∧
      (create .plain .members m args).on s = (.ok t, s') ∧
      before.headerTexts.get? "X-Keep" = some ["kept"] ∧ t.headerTexts.get? "X-Keep" = none ∧
      ¬ before.HeadersGrow t := by
  intro map op i args s
  obtain ⟨m, t, s', hreads, hcreate, hm⟩ := DefaultDialect.exists_of_creates
    (rfl : Dialect.allOperations i = .ok [op])
    (show DefaultDialect.creates i .plain .members args s (fun m t => m.headerMapIndex == some 0 &&
      ((create .plain .members { m with headerMapIndex := none } args).on s).1.toOption.map
        (·.headerTexts.get? "X-Keep") == some (some ["kept"]) &&
        t.headerTexts.get? "X-Keep" == none) = true by
      decide +kernel)
  simp only [Bool.and_eq_true, beq_iff_eq] at hm
  obtain ⟨⟨hindex, hkeep⟩, hgone⟩ := hm
  obtain ⟨-, before, -, -, hbefore, -, -⟩ := (created_of_create hcreate).unmerged
  rw [hbefore] at hkeep
  have hkeep : before.headerTexts.get? "X-Keep" = some ["kept"] := Option.some.inj hkeep
  refine ⟨m, before, t, s', hreads, hindex, hbefore, hcreate, hkeep, hgone, fun hgrow => ?_⟩
  obtain ⟨more, hmore⟩ := hgrow "X-Keep" ["kept"] hkeep
  rw [hgone] at hmore
  cases hmore

end Binding

end DeclarativeHttp
