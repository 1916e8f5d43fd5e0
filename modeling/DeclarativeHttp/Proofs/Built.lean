import DeclarativeHttp.Proofs.Reading
import DeclarativeHttp.Proofs.Rereading
import Mathlib.Data.List.Nodup

/-!
# Templates as they are built

A request template comes about by its operations only, so no two of its headers have one name. Hence
what a header has is the list of values under its name, and every operation on headers can be told
from what it does to that list.
-/

namespace DeclarativeHttp

/-! ## Multimaps -/

namespace Multimap

variable {α β κ : Type} [DecidableEq κ] {key : String → κ} {m : Multimap α} {n name : String}
  {values : List α}

def Distinct (key : String → κ) (m : Multimap α) : Prop := (m.map fun p => key p.1).Nodup

omit [DecidableEq κ] in
theorem Distinct.key_ne {p : String × List α} (h : Distinct key (p :: m))
    (hp : key p.1 = key name) :
    ∀ q ∈ m, key q.1 ≠ key name :=
  fun q hq hqn => (List.nodup_cons.mp h).1 (List.mem_map.mpr ⟨q, hq, hqn.trans hp.symm⟩)

theorem keys_extend (name : String) (values : List α) (m : Multimap α) :
    (extend key name values m).map (fun p => key p.1) =
      if key name ∈ m.map (fun p => key p.1) then m.map fun p => key p.1
      else (m.map fun p => key p.1) ++ [key name] := by
  induction m with
  | nil => simp [extend]
  | cons p m ih =>
    rw [extend]
    by_cases hp : key p.1 = key name
    · simp [hp]
    · simp only [if_neg hp, List.map_cons, ih]
      by_cases hm : key name ∈ m.map fun p => key p.1
      · rw [if_pos hm, if_pos (List.mem_cons_of_mem _ hm)]
      · rw [if_neg hm, if_neg (List.not_mem_cons_of_ne_of_not_mem (Ne.symm hp) hm), List.cons_append]

theorem mem_names_extend {n : String} (name : String) (values : List α) (m : Multimap α) :
    n ∈ (extend id name values m).map Prod.fst ↔ n ∈ m.map Prod.fst ∨ n = name := by
  induction m with
  | nil => simp [extend]
  | cons p m ih =>
    rw [extend]
    split
    · rename_i hp
      have hp : p.1 = name := hp
      simp only [List.map_cons, List.mem_cons, hp]
      exact ⟨.inl, fun h => h.elim id .inl⟩
    · simp only [List.map_cons, List.mem_cons, ih, or_assoc]

theorem mem_values_extend {v : α} (name : String) (values : List α) (m : Multimap α) :
    v ∈ (extend key name values m).flatMap Prod.snd ↔ v ∈ m.flatMap Prod.snd ∨ v ∈ values := by
  induction m with
  | nil => simp [extend]
  | cons p m ih =>
    rw [extend]
    split
    · simp only [List.flatMap_cons, List.mem_append]
      exact or_right_comm
    · simp only [List.flatMap_cons, List.mem_append, ih, or_assoc]

theorem Distinct.extend (h : m.Distinct key) (name : String) (values : List α) :
    (Multimap.extend key name values m).Distinct key := by
  rw [Distinct, keys_extend]
  split
  · exact h
  · rename_i hnew
    exact List.Nodup.append h (List.nodup_singleton _) (by simpa using hnew)

theorem erase_sublist (name : String) (m : Multimap α) : (erase key name m).Sublist m := by
  induction m with
  | nil => exact .refl _
  | cons p m ih =>
    rw [erase]
    split
    · exact List.sublist_cons_self p m
    · exact ih.cons_cons p

theorem Distinct.erase (h : m.Distinct key) (name : String) :
    (Multimap.erase key name m).Distinct key :=
  h.sublist ((erase_sublist name m).map _)

theorem get?_extend_self (h : key n = key name) :
    get? key n (extend key name values m) = some ((get? key n m).getD [] ++ values) := by
  induction m with
  | nil => simp [extend, get?, h]
  | cons p m ih =>
    rw [extend]
    by_cases hp : key p.1 = key name
    · simp [get?, hp, h]
    · rw [if_neg hp, get?, get?, if_neg (h ▸ hp), if_neg (h ▸ hp), ih]

theorem get?_extend_other (h : key n ≠ key name) :
    get? key n (extend key name values m) = get? key n m := by
  induction m with
  | nil => simp [extend, get?, Ne.symm h]
  | cons p m ih =>
    rw [extend]
    by_cases hp : key p.1 = key name
    · simp [get?, hp, Ne.symm h]
    · rw [if_neg hp, get?, get?, ih]

theorem get?_eq_none_of_not_mem (h : key n ∉ m.map fun p => key p.1) : get? key n m = none := by
  induction m with
  | nil => rfl
  | cons p m ih =>
    rw [List.map_cons, List.mem_cons, not_or] at h
    rw [get?, if_neg (Ne.symm h.1), ih h.2]

theorem get?_erase_self (hm : m.Distinct key) (h : key n = key name) :
    get? key n (erase key name m) = none := by
  induction m with
  | nil => rfl
  | cons p m ih =>
    obtain ⟨hp, hrest⟩ := List.nodup_cons.mp hm
    rw [erase]
    by_cases hname : key p.1 = key name
    · rw [if_pos hname]
      exact get?_eq_none_of_not_mem (by rw [h, ← hname]; exact hp)
    · rw [if_neg hname, get?, if_neg (h ▸ hname), ih hrest]

theorem get?_erase_other (h : key n ≠ key name) : get? key n (erase key name m) = get? key n m := by
  induction m with
  | nil => rfl
  | cons p m ih =>
    rw [erase]
    by_cases hp : key p.1 = key name
    · rw [if_pos hp, get?, if_neg fun hn => h (hn.symm.trans hp)]
    · rw [if_neg hp, get?, get?, ih]

theorem get?_map (f : List α → List β) (n : String) (m : Multimap α) :
    get? key n (m.map fun p => (p.1, f p.2)) = (get? key n m).map f := by
  induction m with
  | nil => rfl
  | cons p m ih =>
    rw [List.map_cons, get?, get?]
    split
    · rfl
    · exact ih

theorem extend_of_not_mem (h : key name ∉ m.map fun p => key p.1) :
    extend key name values m = m ++ [(name, values)] := by
  induction m with
  | nil => rfl
  | cons p m ih =>
    rw [List.map_cons, List.mem_cons, not_or] at h
    rw [extend, if_neg (Ne.symm h.1), ih h.2, List.cons_append]

theorem extend_of_mem (hm : m.Distinct key) (h : key name ∈ m.map fun p => key p.1) :
    extend key name values m = m.map fun p => if key p.1 = key name then (p.1, p.2 ++ values) else p := by
  induction m with
  | nil => cases h
  | cons p m ih =>
    rw [extend, List.map_cons]
    by_cases hname : key p.1 = key name
    · rw [if_pos hname, if_pos hname, List.map_congr_left fun q hq => if_neg (hm.key_ne hname q hq), List.map_id']
    · rw [List.map_cons, List.mem_cons] at h
      rw [if_neg hname, if_neg hname, ih (List.nodup_cons.mp hm).2 (h.resolve_left fun he => hname he.symm)]

/-- The values of `r` behind those of `m`: names that are there already keep their places, the
others follow in their order. -/
def merge (key : String → κ) (m r : Multimap α) : Multimap α :=
  m.map (fun p => (p.1, p.2 ++ (get? key p.1 r).getD [])) ++ r.filter fun p =>
    key p.1 ∉ m.map fun q => key q.1

theorem foldl_extend_eq {r : Multimap α} (hm : m.Distinct key) (hr : r.Distinct key) :
    r.foldl (fun (m : Multimap α) p => extend key p.1 p.2 m) m = merge key m r := by
  induction r generalizing m with
  | nil => simp [merge, get?]
  | cons p r ih =>
    obtain ⟨hnew, hrest⟩ := List.nodup_cons.mp hr
    have hnone : ∀ q : String × List α, key q.1 = key p.1 → get? key q.1 r = none := fun q hq =>
      get?_eq_none_of_not_mem (hq ▸ hnew)
    rw [List.foldl_cons, ih (hm.extend p.1 p.2) hrest, merge, merge, keys_extend, List.filter_cons]
    by_cases hp : key p.1 ∈ m.map fun q => key q.1
    · rw [if_pos hp, if_neg (by simpa using hp), extend_of_mem hm hp, List.map_map]
      congr 1
      refine List.map_congr_left fun q _ => ?_
      by_cases hq : key q.1 = key p.1
      · simp [get?, hq, hnone q hq]
      · simp [get?, hq, Ne.symm hq]
    · rw [if_neg hp, if_pos (by simpa using hp), extend_of_not_mem hp, List.map_append, List.append_assoc,
        List.map_singleton, hnone p rfl]
      congr 1
      · refine List.map_congr_left fun q hq => ?_
        rw [get?, if_neg fun he => hp (List.mem_map.mpr ⟨q, hq, he.symm⟩)]
      · have hkept : r.filter (fun q => key q.1 ∉ (m.map fun q => key q.1) ++ [key p.1]) =
            r.filter fun q => key q.1 ∉ m.map fun q => key q.1 := by
          refine List.filter_congr fun q hq => ?_
          have hne : key q.1 ≠ key p.1 := fun he => hnew (List.mem_map.mpr ⟨q, hq, he⟩)
          simp [hne]
        rw [hkept]
        simp

theorem foldl_extend (f : α → β) {m : Multimap α} (h : m.Distinct key) :
    m.foldl (fun (r : Multimap β) p => extend key p.1 (p.2.map f) r) [] =
      m.map fun p => (p.1, p.2.map f) := by
  have hmapped : Distinct key (m.map fun p => (p.1, p.2.map f)) := by
    rw [Distinct, List.map_map]
    exact h
  have hfold := foldl_extend_eq (show Distinct key ([] : Multimap β) from List.nodup_nil) hmapped
  rw [List.foldl_map] at hfold
  simpa [merge] using hfold

/-! ### Names with values -/

def Full (m : Multimap α) : Prop := ∀ p ∈ m, p.2 ≠ []

theorem Full.extend (h : m.Full) (hvalues : values ≠ []) :
    (Multimap.extend key name values m).Full := by
  induction m with
  | nil => exact List.forall_mem_singleton.mpr hvalues
  | cons p m ih =>
    obtain ⟨hp, hrest⟩ := List.forall_mem_cons.mp h
    rw [Multimap.extend]
    split
    · exact List.forall_mem_cons.mpr ⟨fun hnil => hp (List.append_eq_nil_iff.mp hnil).1, hrest⟩
    · exact List.forall_mem_cons.mpr ⟨hp, ih hrest⟩

theorem Full.erase (h : m.Full) (name : String) : (Multimap.erase key name m).Full :=
  fun p hp => h p ((erase_sublist name m).subset hp)

theorem Full.of_get? (h : m.Full) (hget : get? key n m = some values) : values ≠ [] := by
  induction m with
  | nil => cases hget
  | cons p m ih =>
    obtain ⟨hp, hrest⟩ := List.forall_mem_cons.mp h
    rw [get?] at hget
    split at hget
    · exact Option.some.inj hget ▸ hp
    · exact ih hrest hget

end Multimap

/-! ## Operations -/

namespace RequestTemplate

/-- What the operations make of an empty template. -/
inductive Built : RequestTemplate → Prop where
  | empty : Built RequestTemplate.empty
  | setMethod {t : RequestTemplate} (method : Method) : Built t → Built (t.setMethod method)
  | appendUri {t : RequestTemplate} (uri : List Char) : Built t → Built (t.appendUri uri)
  | setUri {t : RequestTemplate} (uri : List Char) : Built t → Built (t.setUri uri)
  | setTarget {t : RequestTemplate} (target : List Char) : Built t → Built (t.setTarget target)
  | query {t : RequestTemplate} (name : String) (values : List String) : Built t →
      Built (t.query name values)
  | removeQuery {t : RequestTemplate} (name : String) : Built t → Built (t.removeQuery name)
  | header {t : RequestTemplate} (name : String) (values : List String) : Built t →
      Built (t.header name values)
  | removeHeader {t : RequestTemplate} (name : String) : Built t → Built (t.removeHeader name)
  | setBody {t : RequestTemplate} (bytes : Bytes) : Built t → Built (t.setBody bytes)
  | setBodyTemplate {t : RequestTemplate} (text : List Char) : Built t →
      Built (t.setBodyTemplate text)
  | setDecodeSlash {t : RequestTemplate} (keep : Bool) : Built t → Built (t.setDecodeSlash keep)
  | setFormat {t : RequestTemplate} (format : CollectionFormat) : Built t →
      Built (t.setFormat format)
  | resolve {t : RequestTemplate} (vars : Variables) : Built t → Built (t.resolve vars)

variable {t : RequestTemplate} {name n : String}

theorem resolveParams_distinct {κ : Type} [DecidableEq κ] {key : String → κ}
    {params : Multimap Template} (h : params.Distinct key) (vars : Variables) (place : Place)
    (format : CollectionFormat) :
    (resolveParams vars place format params).Distinct key := by
  refine List.Nodup.sublist ?_ h
  clear h
  induction params with
  | nil => exact .refl _
  | cons p params ih =>
    rw [resolveParams_cons]
    split
    · exact ih.cons_cons _
    · split
      · exact ih.cons _
      · exact ih.cons_cons _

theorem resolveParams_full {params : Multimap Template} (h : params.Full) (vars : Variables)
    (place : Place) (format : CollectionFormat) :
    (resolveParams vars place format params).Full := by
  induction params with
  | nil => exact h
  | cons p params ih =>
    obtain ⟨hp, hrest⟩ := List.forall_mem_cons.mp h
    rw [resolveParams_cons, if_neg (by simpa using hp)]
    split
    · exact ih hrest
    · exact List.forall_mem_cons.mpr ⟨List.cons_ne_nil _ _, ih hrest⟩

/-! ### Invariants -/

section

variable {p : Multimap Template → Prop} (h : t.Built) (nil : p [])
include h nil

/-- What is true of no headers and kept by every change
of headers is true of the headers of a template. -/
theorem Built.headers_induction
    (extend : ∀ m name values, values ≠ [] → p m → p (m.extend Text.caseKey name values))
    (erase : ∀ m name, p m → p (m.erase Text.caseKey name))
    (resolve : ∀ m vars format, p m → p (resolveParams vars .raw format m)) : p t.headers := by
  induction h with
  | empty => exact nil
  | setMethod _ _ ih => exact ih
  | appendUri uri _ ih => rw [appendUri_frame]; exact ih
  | setUri uri _ ih => rw [RequestTemplate.setUri, appendUri_frame]; exact ih
  | setTarget target _ ih => rw [setTarget_frame]; exact ih
  | query name values _ ih => rw [query_frame]; exact ih
  | removeQuery _ _ ih => exact ih
  | header name values _ ih =>
    rw [RequestTemplate.header]
    split
    · exact erase _ name ih
    · rename_i hvalues
      exact extend _ name _ (by simpa using hvalues) ih
  | removeHeader name _ ih => exact erase _ name ih
  | setBody _ _ ih => exact ih
  | setBodyTemplate _ _ ih => exact ih
  | setDecodeSlash _ _ ih => exact ih
  | setFormat _ _ ih => exact ih
  | resolve vars _ ih => exact resolve _ vars _ ih

theorem Built.queries_induction (extend : ∀ m name values, p m → p (m.extend id name values))
    (erase : ∀ m name, p m → p (m.erase id name))
    (resolve : ∀ m vars format, p m → p (resolveParams vars .query format m)) : p t.queries := by
  have hline : ∀ {u : RequestTemplate} (line : List Char), p u.queries →
      p (u.addQueryLine line).queries := by
    intro u line hu
    refine List.foldlRecOn (motive := fun qs => p qs) _ _ hu fun qs hqs piece _ => ?_
    split
    · exact extend qs _ _ hqs
    · exact extend qs _ _ hqs
  have happend : ∀ {u : RequestTemplate} (uri : List Char), p u.queries →
      p (u.appendUri uri).queries := by
    intro u uri hu
    simp only [RequestTemplate.appendUri]
    split
    · exact hline _ hu
    · exact hu
  induction h with
  | empty => exact nil
  | setMethod _ _ ih => exact ih
  | appendUri uri _ ih => exact happend uri ih
  | setUri uri _ ih => exact happend uri ih
  | setTarget target _ ih =>
    simp only [RequestTemplate.setTarget]
    split
    · exact hline _ ih
    · exact ih
  | query name values _ ih =>
    rw [RequestTemplate.query]
    split
    · exact erase _ name ih
    · exact extend _ name _ ih
  | removeQuery name _ ih => exact erase _ name ih
  | header name values _ ih =>
    rw [RequestTemplate.header]
    split <;> exact ih
  | removeHeader _ _ ih => exact ih
  | setBody _ _ ih => exact ih
  | setBodyTemplate _ _ ih => exact ih
  | setDecodeSlash _ _ ih => exact ih
  | setFormat _ _ ih => exact ih
  | resolve vars _ ih => exact resolve _ vars _ ih

end

theorem Built.distinct (h : t.Built) : t.headers.Distinct Text.caseKey :=
  h.headers_induction List.nodup_nil (fun _ name values _ hm => hm.extend name values) (fun _ name hm => hm.erase name)
    fun _ vars format hm => resolveParams_distinct hm vars .raw format

theorem Built.full (h : t.Built) : t.headers.Full :=
  h.headers_induction (fun _ hp => (List.not_mem_nil hp).elim) (fun _ _ _ hvalues hm => hm.extend hvalues)
    (fun _ name hm => hm.erase name) fun _ vars format hm => resolveParams_full hm vars .raw format

theorem Built.queries_distinct (h : t.Built) : t.queries.Distinct id :=
  h.queries_induction List.nodup_nil (fun _ name values hm => hm.extend name values) (fun _ name hm => hm.erase name)
    fun _ vars format hm => resolveParams_distinct hm vars .query format

/-! ## Values of a header -/

def headerValues (name : String) (t : RequestTemplate) : List String :=
  (t.headerTexts.get? name).getD []

theorem Built.headerTexts_entries (h : t.Built) :
    t.headerTexts.entries = t.headers.map fun p => (p.1, p.2.map Template.text) := by
  rw [← Multimap.foldl_extend Template.text h.distinct, headerTexts]
  exact (List.foldl_hom Headers.entries fun _ _ => rfl).symm

theorem Built.headerTexts_get? (h : t.Built) (name : String) :
    t.headerTexts.get? name = (t.headers.get? Text.caseKey name).map (List.map Template.text) := by
  rw [Headers.get?, h.headerTexts_entries, Multimap.get?_map]

theorem Built.headerValues_eq (h : t.Built) (name : String) :
    t.headerValues name = ((t.headers.get? Text.caseKey name).getD []).map Template.text := by
  rw [headerValues, h.headerTexts_get?]
  cases t.headers.get? Text.caseKey name <;> rfl

theorem Built.get?_eq_headerValues (h : t.Built) (name : String) :
    t.headerTexts.get? name = if t.headerValues name = [] then none else some (t.headerValues name) := by
  rw [h.headerValues_eq, h.headerTexts_get?]
  cases hvalues : t.headers.get? Text.caseKey name with
  | none => rfl
  | some values =>
    have hfull : values ≠ [] := h.full.of_get? hvalues
    rw [Option.getD_some, if_neg (by simpa using hfull)]
    rfl

theorem Built.get?_eq_some_iff (h : t.Built) {values : List String} :
    t.headerTexts.get? name = some values ↔ t.headerValues name = values ∧ values ≠ [] := by
  rw [h.get?_eq_headerValues]
  by_cases hnil : t.headerValues name = []
  · rw [if_pos hnil, hnil]
    exact ⟨nofun, fun hv => (hv.2 hv.1.symm).elim⟩
  · rw [if_neg hnil, Option.some_inj]
    exact ⟨fun hv => ⟨hv, hv ▸ hnil⟩, And.left⟩

theorem Built.headerValues_header (h : t.Built) {values : List String} (hvalues : values ≠ [])
    (hn : Text.caseKey n = Text.caseKey name) :
    (t.header name values).headerValues n = t.headerValues n ++ values.map Template.reread := by
  have hheaders : (t.header name values).headers =
      t.headers.extend Text.caseKey name (values.map Template.ofString) := by
    rw [RequestTemplate.header, if_neg (by simpa using hvalues)]
  rw [(h.header name values).headerValues_eq, h.headerValues_eq, hheaders, Multimap.get?_extend_self hn,
    Option.getD_some, List.map_append, List.map_map]
  rfl

theorem Built.headerValues_header_nil (h : t.Built) (hn : Text.caseKey n = Text.caseKey name) :
    (t.header name []).headerValues n = [] := by
  have hheaders : (t.header name []).headers = t.headers.erase Text.caseKey name := rfl
  rw [(h.header name []).headerValues_eq, hheaders, Multimap.get?_erase_self h.distinct hn]
  rfl

theorem Built.headerValues_header_other (h : t.Built) (values : List String)
    (hn : Text.caseKey n ≠ Text.caseKey name) :
    (t.header name values).headerValues n = t.headerValues n := by
  rw [(h.header name values).headerValues_eq, h.headerValues_eq, RequestTemplate.header]
  split
  · exact congrArg (fun vs => (Option.getD vs []).map Template.text) (Multimap.get?_erase_other hn)
  · exact congrArg (fun vs => (Option.getD vs []).map Template.text) (Multimap.get?_extend_other hn)

end RequestTemplate

/-! ## Calls -/

def Encoder.Builds (e : Encoder) : Prop :=
  ∀ a type t s t' s', (e.encode a type t).on s = (.ok t', s') → t.Built → t'.Built

namespace Encoder

theorem declareType_built {t : RequestTemplate} (h : t.Built) (type : String) :
    (declareType type t).Built := by
  unfold declareType
  split
  · exact h
  · exact h.header _ _

theorem Stock.builds {e : Encoder} (h : e.Stock) : e.Builds := by
  intro a type t s t' s' hencode ht
  obtain ⟨bs, rfl | ⟨name, rfl⟩⟩ := h.encode_ok hencode
  · exact ht.setBody bs
  · exact (declareType_built ht name).setBody bs

end Encoder

theorem DefaultDialect.Skeleton.built {op : Operation} {t : RequestTemplate} (h : Skeleton op t) :
    t.Built := by
  induction h with
  | empty => exact .empty
  | removeHeader name _ ih => exact ih.removeHeader name
  | header name values _ ih => exact ih.header name values
  | line verb uri keep format _ _ ih =>
    exact (((ih.setMethod verb).appendUri uri).setDecodeSlash keep).setFormat format
  | body bytes _ ih => exact ih.setBody bytes
  | bodyTemplate text _ ih => exact ih.setBodyTemplate text

namespace Binding

variable {encoder : Encoder} {queries : QueryMapEncoder} {m : Metadata} {args : List Arg}
  {s s' : Session} {t : RequestTemplate}

theorem mergeQuery_built (encoded : Bool) (h : t.Built) (p : String × Json) :
    (mergeQuery encoded t p).Built := by
  unfold mergeQuery
  split
  · exact h
  · exact h
  · exact h.query _ _

theorem mergeQueries_built (encoded : Bool) (pairs : List (String × Json)) (h : t.Built) :
    (mergeQueries encoded pairs t).Built :=
  List.foldlRecOn pairs _ h fun _ hu p _ => mergeQuery_built encoded hu p

theorem mergeHeader_built (h : t.Built) (p : String × Json) : (mergeHeader t p).Built := by
  unfold mergeHeader
  split
  · exact h
  · exact h.header _ _

theorem mergeHeaders_built (members : List (String × Json)) (h : t.Built) :
    (mergeHeaders members t).Built :=
  List.foldlRecOn members _ h fun _ hu p _ => mergeHeader_built hu p

end Binding

end DeclarativeHttp
