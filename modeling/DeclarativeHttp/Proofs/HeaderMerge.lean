import DeclarativeHttp.Proofs.Agreement
import DeclarativeHttp.Proofs.Built

/-!
# Headers of interfaces and methods

Parent, interface and method declare headers line by line, and one header may stand in many lines
and spellings. Name by name it is simple: the values of the interface take the place of those of its
parent, if there are any, and those of the method come behind (`headers_merge`).
-/

namespace DeclarativeHttp

open Multimap (Distinct Full)

/-! ## Lines -/

def headerLine? (line : String) : Option (String × String) :=
  (Text.splitFirst ':' line.toList).map fun (name, value) =>
    (String.ofList (Text.trim name), String.ofList (Text.trim value))

/-- The values that lines give to a header; each one is read as a template. -/
def declared (name : String) (lines : List String) : List String :=
  lines.filterMap fun line => (headerLine? line).bind fun p =>
    if Text.caseKey p.1 = Text.caseKey name then some (Template.reread p.2) else none

theorem declared_append (name : String) (lines lines' : List String) :
    declared name (lines ++ lines') = declared name lines ++ declared name lines' :=
  List.filterMap_append

def Attribute.headerLines : Attribute → List String
  | headers lines => lines
  | _ => []

def Attribute.isHeaders : Attribute → Bool
  | headers _ => true
  | _ => false

def headerLines (as : List Attribute) : List String := as.flatMap Attribute.headerLines

def nearer (own inherited : List String) : List String := if own = [] then inherited else own

namespace DefaultDialect

variable {lines : List String} {groups groups' : Multimap String}

theorem headerGroups_ok (h : headerGroups lines groups = .ok groups')
    (hdistinct : groups.Distinct Text.caseKey) (hfull : groups.Full) :
    groups'.Distinct Text.caseKey ∧ groups'.Full ∧
      ∀ n, ((groups'.get? Text.caseKey n).getD []).map Template.reread =
        ((groups.get? Text.caseKey n).getD []).map Template.reread ++ declared n lines := by
  induction lines generalizing groups with
  | nil =>
    cases h
    exact ⟨hdistinct, hfull, fun n => (List.append_nil _).symm⟩
  | cons line lines ih =>
    rw [headerGroups] at h
    split at h
    · cases h
    · rename_i name value hsplit
      obtain ⟨hdistinct', hfull', hvalues⟩ := ih h (hdistinct.extend _ _) (hfull.extend (List.cons_ne_nil _ []))
      refine ⟨hdistinct', hfull', fun n => ?_⟩
      have hline : headerLine? line = some (String.ofList (Text.trim name), String.ofList (Text.trim value)) := by
        rw [headerLine?, hsplit]
        rfl
      rw [hvalues, declared, declared, List.filterMap_cons, hline, Option.bind_some]
      by_cases hn : Text.caseKey n = Text.caseKey (String.ofList (Text.trim name))
      · rw [Multimap.get?_extend_self hn, if_pos hn.symm, Option.getD_some, List.map_append,
          List.append_assoc]
        rfl
      · rw [Multimap.get?_extend_other hn, if_neg (Ne.symm hn)]

end DefaultDialect

/-! ## Templates -/

structure RequestTemplate.Declares (table : String → List String) (t : RequestTemplate) : Prop where
  built : t.Built
  full : t.headers.Full
  values : ∀ n, t.headerValues n = table n

namespace RequestTemplate.Declares

variable {table : String → List String} {t t' : RequestTemplate} {name : String}
  {values : List String} {groups : Multimap String}

theorem of_headers (h : t.Declares table) (hbuilt : t'.Built) (hheaders : t'.headers = t.headers) :
    t'.Declares table where
  built := hbuilt
  full := hbuilt.full
  values n := by rw [hbuilt.headerValues_eq, hheaders, ← h.built.headerValues_eq, h.values]

theorem of_table {table' : String → List String} (h : t.Declares table)
    (htable : ∀ n, table' n = table n) :
    t.Declares table' where
  built := h.built
  full := h.full
  values n := by rw [htable, h.values]

theorem get? (h : t.Declares table) (n : String) :
    t.headerTexts.get? n = if table n = [] then none else some (table n) := by
  rw [← h.values, h.built.get?_eq_headerValues]

theorem header (h : t.Declares table) (name : String) (hvalues : values ≠ []) :
    (t.header name values).Declares fun n =>
      if Text.caseKey n = Text.caseKey name then table n ++ values.map Template.reread else table n where
  built := h.built.header name values
  full := (h.built.header name values).full
  values n := by
    by_cases hn : Text.caseKey n = Text.caseKey name
    · rw [if_pos hn, h.built.headerValues_header hvalues hn, h.values]
    · rw [if_neg hn, h.built.headerValues_header_other values hn, h.values]

theorem removeHeader (h : t.Declares table) (name : String) :
    (t.removeHeader name).Declares fun n => if Text.caseKey n = Text.caseKey name then [] else table n where
  built := h.built.removeHeader name
  full := (h.built.removeHeader name).full
  values n := by
    by_cases hn : Text.caseKey n = Text.caseKey name
    · rw [if_pos hn]
      exact h.built.headerValues_header_nil hn
    · rw [if_neg hn, ← h.values]
      exact h.built.headerValues_header_other [] hn

theorem appended (h : t.Declares table) (hdistinct : groups.Distinct Text.caseKey)
    (hfull : groups.Full) :
    (groups.foldl (fun t p => t.header p.1 p.2) t).Declares fun n =>
      table n ++ ((groups.get? Text.caseKey n).getD []).map Template.reread := by
  induction groups generalizing t table with
  | nil => simpa [Multimap.get?] using h
  | cons p groups ih =>
    obtain ⟨hp, hrest⟩ := List.forall_mem_cons.mp hfull
    obtain ⟨hnew, hdistinct⟩ := List.nodup_cons.mp hdistinct
    -- the groups behind are of other names, so they do not touch what was just added
    refine (ih (h.header p.1 hp) hdistinct hrest).of_table fun n => ?_
    rw [Multimap.get?]
    by_cases hn : Text.caseKey n = Text.caseKey p.1
    · rw [if_pos hn, if_pos hn.symm, Multimap.get?_eq_none_of_not_mem (hn ▸ hnew)]
      simp
    · rw [if_neg hn, if_neg (Ne.symm hn)]

theorem replaced (h : t.Declares table) (hdistinct : groups.Distinct Text.caseKey)
    (hfull : groups.Full) :
    (groups.foldl (fun t p => (t.removeHeader p.1).header p.1 p.2) t).Declares fun n =>
      nearer (((groups.get? Text.caseKey n).getD []).map Template.reread) (table n) := by
  induction groups generalizing t table with
  | nil => simpa [Multimap.get?, nearer] using h
  | cons p groups ih =>
    obtain ⟨hp, hrest⟩ := List.forall_mem_cons.mp hfull
    obtain ⟨hnew, hdistinct⟩ := List.nodup_cons.mp hdistinct
    refine (ih ((h.removeHeader p.1).header p.1 hp) hdistinct hrest).of_table fun n => ?_
    rw [Multimap.get?]
    by_cases hn : Text.caseKey n = Text.caseKey p.1
    · rw [if_pos hn, if_pos hn, if_pos hn.symm, Multimap.get?_eq_none_of_not_mem (hn ▸ hnew)]
      simp [nearer, hp]
    · rw [if_neg hn, if_neg hn, if_neg (Ne.symm hn)]

end RequestTemplate.Declares

/-! ## Attributes -/

theorem headerLines_eq_nil {a : Attribute} (h : a.isHeaders = false) : a.headerLines = [] := by
  cases a with
  | headers _ => cases h
  | _ => rfl

theorem foldl_nearer (name : String) (values : List String) {as : List Attribute}
    (h : as.countP Attribute.isHeaders ≤ 1) :
    as.foldl (fun values a => nearer (declared name a.headerLines) values) values =
      nearer (declared name (headerLines as)) values := by
  induction as generalizing values with
  | nil => rfl
  | cons a as ih =>
    rw [List.foldl_cons, headerLines, List.flatMap_cons]
    cases ha : a.isHeaders with
    | false =>
      rw [List.countP_cons_of_neg (by simp [ha])] at h
      rw [headerLines_eq_nil ha, ih _ h]
      rfl
    | true =>
      rw [List.countP_cons_of_pos ha] at h
      have hrest : headerLines as = [] := List.flatMap_eq_nil_iff.mpr fun b hb =>
        headerLines_eq_nil (by simpa using List.countP_eq_zero.mp (Nat.le_zero.mp (Nat.le_of_succ_le_succ h)) b hb)
      rw [ih _ (Nat.le_of_succ_le h), ← headerLines, hrest, List.append_nil]
      rfl

namespace DefaultDialect

variable {table : String → List String} {i : Interface} {op : Operation} {m m' : Metadata}
  {as : List Attribute} {lines : List String} {a : Attribute}

theorem groups_of_lines {groups : Multimap String} (h : headerGroups lines [] = .ok groups) :
    groups.Distinct Text.caseKey ∧ groups.Full ∧
      ∀ n, ((groups.get? Text.caseKey n).getD []).map Template.reread = declared n lines :=
  headerGroups_ok h List.nodup_nil fun _ hp => (List.not_mem_nil hp).elim

theorem interfaceRules_declares
    (h : RuleTable.run (as.filterMap fun a => interfaceRule a i) m = .ok m')
    (hm : m.template.Declares table) :
    m'.template.Declares fun n => as.foldl (fun values a => nearer (declared n a.headerLines) values) (table n) := by
  induction as generalizing m table with
  | nil => cases h; exact hm
  | cons a as ih =>
    rw [List.filterMap_cons] at h
    cases hrule : interfaceRule a i with
    | none =>
      rw [hrule] at h
      have hquiet : a.isHeaders = false := by
        cases a with
        | headers _ => cases hrule
        | _ => rfl
      exact (ih h hm).of_table fun n => by rw [List.foldl_cons, headerLines_eq_nil hquiet]; rfl
    | some f =>
      rw [hrule] at h
      obtain ⟨m₁, hm₁, hrest⟩ := Error.bind_eq_ok h
      obtain ⟨e, he⟩ | ⟨lines, groups, rfl, hread, hput⟩ := interfaceRule_some hrule
      · cases (he m).symm.trans hm₁
      · cases (hput m).symm.trans hm₁
        obtain ⟨hdistinct, hfull, hvalues⟩ := groups_of_lines hread
        refine ih hrest ((hm.replaced hdistinct hfull).of_table fun n => ?_)
        rw [hvalues]
        rfl

/-- Of several header attributes of an interface each
takes the place of those before it, name by name. -/
theorem interface_declares (h : dialect.interface i m = .ok m') (hm : m.template.Declares table) :
    m'.template.Declares fun n =>
      i.attributes.foldl (fun values a => nearer (declared n a.headerLines) values) (table n) := by
  obtain ⟨m₁, hrun, hend⟩ := interface_ok h
  have hdeclares := interfaceRules_declares hrun hm
  obtain rfl | ⟨text, rfl⟩ := hend <;> exact hdeclares

theorem operation_declares (h : dialect.operation a op m = .ok m')
    (hm : m.template.Declares table) :
    m'.template.Declares fun n => table n ++ declared n a.headerLines := by
  have hquiet : a.isHeaders = false → m'.template.Built → m'.template.headers = m.template.headers →
      m'.template.Declares fun n => table n ++ declared n a.headerLines := fun ha hbuilt hheaders =>
    (hm.of_headers hbuilt hheaders).of_table fun n => by rw [headerLines_eq_nil ha]; exact List.append_nil _
  obtain ⟨hnone, text, rfl⟩ | ⟨g, hg, rfl⟩ := operation_ok h
  · have ha : a.isHeaders = false := by
      cases a with
      | headers _ => cases hnone
      | _ => rfl
    exact hquiet ha hm.built rfl
  · cases hg with
    | line keep format =>
      refine hquiet rfl ((((hm.built.setMethod _).appendUri _).setDecodeSlash keep).setFormat format) ?_
      show (RequestTemplate.appendUri _ _).headers = _
      rw [RequestTemplate.appendUri_frame]
      rfl
    | body text =>
      refine hquiet rfl ?_ ?_
      · show RequestTemplate.Built (if text.toList.contains '\x7b' then _ else _)
        split
        · exact hm.built.setBodyTemplate _
        · exact hm.built.setBody _
      · show RequestTemplate.headers (if text.toList.contains '\x7b' then _ else _) = _
        split <;> rfl
    | headers hread =>
      obtain ⟨hdistinct, hfull, hvalues⟩ := groups_of_lines hread
      exact (hm.appended hdistinct hfull).of_table fun n => by rw [hvalues]; rfl

theorem operationAttributes_declares (h : dialect.operationAttributes op as m = .ok m')
    (hm : m.template.Declares table) :
    m'.template.Declares fun n => table n ++ declared n (headerLines as) := by
  induction as generalizing m table with
  | nil =>
    cases h
    exact hm.of_table fun n => List.append_nil _
  | cons a as ih =>
    obtain ⟨m₁, hm₁, hrest⟩ := Error.bind_eq_ok h
    refine (ih hrest (operation_declares hm₁ hm)).of_table fun n => ?_
    rw [List.append_assoc, ← declared_append]
    rfl

end DefaultDialect

/-- The values of a header are those that the interface declares for it, or else its parent, and
those of the method behind them; the template has no other headers, and each one once. -/
theorem headers_merge {i : Interface} {op : Operation} {m : Metadata}
    (hreads : DefaultDialect.dialect.Reads i op m)
    (hown : i.attributes.countP Attribute.isHeaders ≤ 1)
    (hparents : ∀ p ∈ i.parents, p.1.attributes.countP Attribute.isHeaders ≤ 1) :
    m.template.headerTexts.entries.Distinct Text.caseKey ∧ ∀ name,
      let inherited := declared name (i.parents.flatMap fun p => headerLines p.1.attributes)
      let own := declared name (headerLines i.attributes)
      let values := nearer own inherited ++ declared name (headerLines op.attributes)
      m.template.headerTexts.get? name = if values = [] then none else some values := by
  obtain ⟨ops, hops, -⟩ := hreads.declared
  obtain ⟨m₀, hread, hplaced, -⟩ := DefaultDialect.parseOperation_placed hreads.read
  rw [DefaultDialect.readAttributes_eq] at hread
  obtain ⟨m₁, hm₁, hread⟩ := Error.bind_eq_ok hread
  obtain ⟨m₂, hm₂, hread⟩ := Error.bind_eq_ok hread
  have hempty : RequestTemplate.empty.Declares fun _ => [] :=
    ⟨.empty, fun _ hp => (List.not_mem_nil hp).elim, fun _ => rfl⟩
  have hinherited : m₁.template.Declares fun n => declared n (i.parents.flatMap fun p => headerLines p.1.attributes) := by
    obtain ⟨hnone, -⟩ | ⟨parent, args, -, hone, -⟩ := Dialect.allOperations_ok hops
    · rw [hnone] at hm₁ ⊢
      cases hm₁
      exact hempty
    · rw [hone] at hm₁ hparents ⊢
      refine (DefaultDialect.interface_declares hm₁ hempty).of_table fun n => ?_
      rw [foldl_nearer n [] (hparents _ (List.mem_singleton_self _)), List.flatMap_singleton, nearer]
      split
      · assumption
      · rfl
  have hmerged := DefaultDialect.operationAttributes_declares hread (DefaultDialect.interface_declares hm₂ hinherited)
  rw [DefaultDialect.placeParameters_template hplaced]
  refine ⟨?_, fun name => ?_⟩
  · rw [hmerged.built.headerTexts_entries, Distinct, List.map_map]
    exact hmerged.built.distinct
  · rw [hmerged.get?]
    simp only [foldl_nearer name _ hown]

/-- Spellings of a name count as one name on all three sides, and a value that is a template is
written without its blanks. -/
theorem headers_merge_get :
    let base : Interface := .mk "Base" [] [] [.headers ["Accept: text/plain", "X-Tag: base", "x-tag: more"]] []
    let get : Operation := ⟨"get", .abstract, [.headers ["accept: */*"], .requestLine "GET /" true .exploded,
      .headers ["X-Trace : on"]], [], .void⟩
    let i : Interface := .mk "Api" [] [(base, [])] [.headers ["ACCEPT: application/json", "Accept: { kind }"]] [get]
    ∃ m, DefaultDialect.dialect.Reads i get m ∧ i.attributes.countP Attribute.isHeaders ≤ 1 ∧
      (∀ p ∈ i.parents, p.1.attributes.countP Attribute.isHeaders ≤ 1) ∧
      m.template.headerTexts.get? "Accept" = some ["application/json", "{kind}", "*/*"] ∧
      m.template.headerTexts.get? "X-TAG" = some ["base", "more"] ∧
      m.template.headerTexts.get? "x-trace" = some ["on"] ∧
      m.template.headerTexts.get? "Host" = none := by
  intro base get i
  obtain ⟨m, -, -, hreads, -, -⟩ :=
    DefaultDialect.exists_of_creates (rfl : Dialect.allOperations i = .ok [get])
    (show DefaultDialect.creates i .plain .members [] ⟨0, 0, [], 0, fun _ => false, fun n => n, []⟩
      (fun _ _ => true) = true by decide +kernel)
  have hown : i.attributes.countP Attribute.isHeaders ≤ 1 := by decide
  have hparents : ∀ p ∈ i.parents, p.1.attributes.countP Attribute.isHeaders ≤ 1 :=
    List.forall_mem_singleton.mpr (by decide)
  have hmerge := (headers_merge hreads hown hparents).2
  refine ⟨m, hreads, hown, hparents, (hmerge "Accept").trans ?_, (hmerge "X-TAG").trans ?_,
    (hmerge "x-trace").trans ?_, (hmerge "Host").trans ?_⟩ <;> decide +kernel

end DeclarativeHttp
