import DeclarativeHttp.Proofs.Parts
import DeclarativeHttp.Proofs.QueryLine
import DeclarativeHttp.Proofs.QueryMap
import DeclarativeHttp.Proofs.Roles
import Mathlib.Data.List.Sort

/-!
# Form bodies

A form is read as its receiver reads it: cut at `&`, each piece at its first `=`, and unescaped.
What is read from the body of a call are its form parameters, in the order of the bytes of their
names, each as often as it has values (`form_body_decodes`).
-/

namespace DeclarativeHttp

/-! ## Reading forms -/

namespace Form

variable {c : Char}

def readText? (s : List Char) : Option String :=
  (Percent.text? (s.map fun c => if c = '+' then ' ' else c)).map String.ofList

/-- A piece without `=` is a name with an empty value. -/
def readPair? (piece : List Char) : Option (String × String) :=
  let (name, value) := (Text.splitFirst '=' piece).getD (piece, [])
  match readText? name, readText? value with
  | some n, some v => some (n, v)
  | _, _ => none

def decode? (bytes : Bytes) : Option (List (String × String)) :=
  (Utf8.decode? bytes).bind fun s => (RequestTemplate.pieces s).mapM readPair?

/-- With `+` read as the space again, a form escapes what is not plain, but not the space. -/
def escapes : Percent.EscapeSet := fun c => !isPlain c && c != ' '

theorem not_mem_encode (hplain : isPlain c = false) (hplus : c ≠ '+') (hpercent : c ≠ '%')
    (hhex : ∀ n < 16, c ≠ Percent.hexDigit n) (s : List Char) : c ∉ encode s := by
  intro h
  obtain ⟨d, -, hd⟩ := List.mem_flatMap.mp h
  unfold encodeChar at hd
  split at hd
  · exact hplus (List.mem_singleton.mp hd)
  · have hset : (!isPlain c) = true := by simp [hplain]
    have hclear : c ∉ Percent.encode (fun c => !isPlain c) [d] :=
      Percent.not_mem_encode hset hpercent hhex
    rw [Percent.encode, List.flatMap_singleton] at hclear
    exact hclear hd

theorem encodeChar_unplus (c : Char) :
    (encodeChar c).map (fun c => if c = '+' then ' ' else c) = Percent.encodeChar escapes c := by
  by_cases hc : c = ' '
  · subst hc
    decide
  · have hsame : encodeChar c = Percent.encodeChar escapes c := by
      simp [encodeChar, Percent.encodeChar, escapes, hc]
    have hplus : '+' ∉ Percent.encodeChar escapes c := by
      have hclear := Percent.not_mem_encode (s := [c]) (show escapes '+' = true by decide) (by decide) (by decide)
      rwa [Percent.encode, List.flatMap_singleton] at hclear
    rw [hsame]
    refine (List.map_congr_left fun d hd => if_neg ?_).trans (List.map_id _)
    rintro rfl
    exact hplus hd

theorem readText?_encode (s : String) : readText? (encode s.toList) = some s := by
  have hunplus : (encode s.toList).map (fun c => if c = '+' then ' ' else c) = Percent.encode escapes s.toList := by
    rw [encode, List.map_flatMap]
    exact congrArg (List.flatMap · s.toList) (funext encodeChar_unplus)
  rw [readText?, hunplus, Percent.text?_encode (by decide), Option.map_some, String.ofList_toList]

theorem readPair?_encode (p : String × String) :
    readPair? (encode p.1.toList ++ '=' :: encode p.2.toList) = some p := by
  have hname : '=' ∉ encode p.1.toList :=
    not_mem_encode (by decide) (by decide) (by decide) (by decide) _
  simp [readPair?, Text.splitFirst_append hname, readText?_encode]

theorem decode?_encodePairs (pairs : List (String × String)) :
    decode? (Utf8.encode (encodePairs pairs)) = some pairs := by
  have hclear : ∀ piece ∈ pairs.map (fun p => encode p.1.toList ++ '=' :: encode p.2.toList),
      '&' ∉ piece ∧ piece ≠ [] := by
    intro piece hpiece
    obtain ⟨p, -, rfl⟩ := List.mem_map.mp hpiece
    have hencode : ∀ s, '&' ∉ encode s :=
      not_mem_encode (by decide) (by decide) (by decide) (by decide)
    simp [hencode]
  rw [decode?, Utf8.decode?_encode, Option.bind_some, encodePairs, RequestTemplate.pieces_intercalate hclear]
  clear hclear
  induction pairs with
  | nil => rfl
  | cons p pairs ih => rw [List.map_cons, List.mapM_cons, readPair?_encode, ih]; rfl

end Form

/-! ## Members in the order of their names -/

namespace Json

variable {name : String} {value : Json} {members : Members} {p : String × Json}

theorem Members.mem_insert_iff (h : ∀ q ∈ members, q.1 = name → q.2 = value) :
    p ∈ members.insert name value ↔ p = (name, value) ∨ p ∈ members := by
  induction members with
  | nil => simp [Members.insert]
  | cons q members ih =>
    rw [Members.insert]
    split
    · rename_i hname
      obtain rfl : q = (name, value) := Prod.ext hname.symm (h q (by simp) hname.symm)
      simp
    · split
      · simp
      · rw [List.mem_cons, ih fun r hr => h r (List.mem_cons_of_mem q hr), List.mem_cons]
        exact or_left_comm

section
variable {f : String → Option Json} {fields : List (String × Json)}
  (hf : ∀ q ∈ fields, f q.1 = some q.2)
include hf

theorem Members.mem_foldl_insert {ms : Members} (hms : ∀ q ∈ ms, f q.1 = some q.2) :
    p ∈ fields.foldl (fun ms (n, v) => Members.insert n v ms) ms ↔ p ∈ ms ∨ p ∈ fields := by
  induction fields generalizing ms with
  | nil => simp
  | cons q fields ih =>
    have hq : f q.1 = some q.2 := hf q (by simp)
    have hinsert : ∀ r, r ∈ ms.insert q.1 q.2 ↔ r = q ∨ r ∈ ms := by
      intro r
      apply Members.mem_insert_iff
      intro r' hr' hname
      have hvalue := hms r' hr'
      rw [hname, hq] at hvalue
      exact (Option.some.inj hvalue).symm
    rw [List.foldl_cons, ih (fun r hr => hf r (List.mem_cons_of_mem q hr)), hinsert, List.mem_cons]
    · rw [or_comm (a := p = q), or_assoc]
    · intro r hr
      rcases (hinsert r).mp hr with rfl | hr
      · exact hq
      · exact hms r hr

/-- If the names determine the values, an object has the members that it is made of. -/
theorem mem_object (h : object fields = .obj members) : p ∈ members ↔ p ∈ fields := by
  cases h
  rw [Members.mem_foldl_insert hf (by simp)]
  simp

end

theorem Members.Ordered.nodup (h : members.Ordered) : members.Nodup :=
  List.Pairwise.imp (fun hlt he => by rw [he] at hlt; exact List.lt_irrefl _ hlt) h

theorem Members.Ordered.eq {members' : Members} (h : members.Ordered) (h' : members'.Ordered)
    (hmem : ∀ p, p ∈ members ↔ p ∈ members') : members = members' :=
  List.Perm.eq_of_pairwise (fun _ _ _ _ hlt hgt => absurd (List.lt_trans hlt hgt) (List.lt_irrefl _)) h h'
    ((List.perm_ext_iff_of_nodup h.nodup h'.nodup).mpr hmem)

theorem exists_sorted (names : List String) (f : String → Option Json) :
    ∃ sorted : List String, sorted.Pairwise (fun a b => Utf8.ofString a < Utf8.ofString b) ∧
      (∀ n, n ∈ sorted ↔ n ∈ names) ∧
      object (names.filterMap fun n => (f n).map (n, ·)) =
        .obj (sorted.filterMap fun n => (f n).map (n, ·)) := by
  -- an object that has all names, whatever they stand for, puts them in order
  obtain ⟨listed, hlisted, hordered⟩ := exists_members (names.map (·, .null))
  obtain ⟨members, hmembers, hordered'⟩ :=
    exists_members (names.filterMap fun n => (f n).map (n, ·))
  have hsorted : ∀ n, n ∈ listed.map Prod.fst ↔ n ∈ names := by
    intro n
    have hmem : ∀ p, p ∈ listed ↔ p ∈ names.map (·, .null) := fun p =>
      mem_object (f := fun _ => some .null) (by simp) hlisted
    simp [hmem]
  refine ⟨listed.map Prod.fst, List.pairwise_map.mpr hordered, hsorted, hmembers.trans (congrArg Json.obj ?_)⟩
  refine hordered'.eq ?_ fun p => ?_
  · refine List.pairwise_filterMap.mpr (List.pairwise_map.mpr (List.Pairwise.imp (fun {a b} hlt p hp q hq => ?_) hordered))
    obtain ⟨v, -, rfl⟩ := Option.map_eq_some_iff.mp hp
    obtain ⟨w, -, rfl⟩ := Option.map_eq_some_iff.mp hq
    exact hlt
  · rw [mem_object (f := f) (fun q hq => ?_) hmembers]
    · simp only [List.mem_filterMap, hsorted]
    · obtain ⟨n, -, hn⟩ := List.mem_filterMap.mp hq
      obtain ⟨v, hv, rfl⟩ := Option.map_eq_some_iff.mp hn
      exact hv

end Json

/-! ## What the arguments say under a name -/

def Arg.texts? (expander : Option Expander) : Arg → Option (List String)
  | .absent | .value .null | .options _ => none
  | .value (.arr items) => some ((items.filter (!·.isNull)).map (Binding.expand expander))
  | .value v => some [Binding.expand expander v]
  | .bytes bs => some [Utf8.toStringLossy bs]
  | .uri u => some [u.text]

def Operation.givers (op : Operation) (n : String) : List Nat :=
  (op.params.zipIdx.filter fun q => n ∈ q.1.paramNames).map Prod.snd

/-- The texts that go under a name. The last argument that
is not null decides; without any there are no texts. -/
def Metadata.formTexts (m : Metadata) (op : Operation) (args : List Arg)
    (n : String) : List String :=
  ((op.givers n).filterMap fun k => args[k]?.bind (·.texts? (m.expanders.get? k))).getLast?.getD []

def Variable.texts : Variable → List String
  | .one value => [value]
  | .many values => values

theorem Variables.foldl_insert (names : List String) (v : Variable) (vars : Variables)
    (n : String) :
    names.foldl (fun vars n => vars.insert n v) vars n = if n ∈ names then some v else vars n := by
  induction names generalizing vars with
  | nil => simp
  | cons name names ih =>
    rw [List.foldl_cons, ih]
    by_cases hn : n ∈ names
    · simp [hn]
    · by_cases hname : n = name <;> simp [hn, hname, insert]

theorem Arg.texts?_eq (expander : Option Expander) (a : Arg) :
    a.texts? expander = (Binding.argumentVariable? expander a).map Variable.texts := by
  cases a with
  | value v => cases v <;> rfl
  | _ => rfl

namespace Binding

variable {encoder other : Encoder} {queries : QueryMapEncoder} {m : Metadata} {args : List Arg}
  {s s' : Session} {t t' : RequestTemplate} {vars vars' : Variables}

/-- Of the arguments for a name the last one that is not null decides. -/
theorem namedVariables_eq {names : IndexMap (List String)}
    (h : (namedVariables m args names vars).on s = (.ok vars', s')) (n : String) :
    vars' n = (((names.filter fun q => n ∈ q.2).map Prod.fst).filterMap fun k =>
      args[k]?.bind (argumentVariable? (m.expanders.get? k))).getLast?.or (vars n) := by
  induction names generalizing vars s with
  | nil => cases h; rfl
  | cons p names ih =>
    obtain ⟨a, s₁, ha, hrest⟩ := Run.bind_eq_ok h
    have hget := (argument_ok ha).1
    rw [ih hrest, List.filter_cons]
    by_cases hn : n ∈ p.2
    · cases hv : argumentVariable? (m.expanders.get? p.1) a with
      | none => simp [hn, hget, hv]
      | some v => simp [hn, hget, hv, Variables.foldl_insert, List.getLast?_cons]
    · cases argumentVariable? (m.expanders.get? p.1) a <;> simp [hn, Variables.foldl_insert]

theorem bindBody_form {members : Json.Members} (hform : m.bodyEncoding = .form)
    (hmembers : Json.object (formMembers vars m.formParams) = .obj members)
    (h : (bindBody (.form other) m args vars t).on s = (.ok t', s')) :
    t'.payload = .literal (Utf8.encode (Form.encodePairs (members.flatMap fun p => Encoder.formPairs p.1 p.2))) := by
  rw [bindBody, hform, hmembers] at h
  simp only [encodeBody, Run.on_mapError] at h
  cases h
  rfl

end Binding

/-! ## Accepted methods -/

namespace Variable

def json : Variable → Json
  | .one value => .str value
  | .many values => Json.strs values

theorem formPairs_json (n : String) (v : Variable) :
    Encoder.formPairs n v.json = v.texts.map (n, ·) := by
  cases v with
  | one value => rfl
  | many values =>
    have hfilter : (values.map Json.str).filter (!·.isNull) = values.map Json.str :=
      List.filter_eq_self.mpr (by simp [Json.isNull])
    rw [json, Json.strs, Encoder.formPairs, hfilter, List.map_map]
    rfl

theorem formMembers_eq (vars : Variables) (names : List String) :
    Binding.formMembers vars names = names.filterMap fun n => ((vars n).map json).map (n, ·) := by
  refine congrArg (List.filterMap · names) (funext fun n => ?_)
  cases vars n with
  | none => rfl
  | some v => cases v <;> rfl

theorem flatMap_formPairs (vars : Variables) (names : List String) :
    (names.filterMap fun n => ((vars n).map json).map (n, ·)).flatMap (fun p => Encoder.formPairs p.1 p.2) =
      names.flatMap fun n => (((vars n).map texts).getD []).map (n, ·) := by
  rw [List.filterMap_eq_flatMap_toList, List.flatMap_assoc]
  refine congrArg (List.flatMap · names) (funext fun n => ?_)
  cases vars n with
  | none => rfl
  | some v => exact (List.append_nil _).trans (formPairs_json n v)

end Variable

theorem Operation.mem_givers {op : Operation} {n : String} {k : Nat} :
    k ∈ op.givers n ↔ ∃ p, op.params[k]? = some p ∧ n ∈ p.paramNames := by
  simp [givers, List.mem_zipIdx_iff_getElem?]

theorem Operation.givers_pairwise (op : Operation) (n : String) :
    (op.givers n).Pairwise (· < ·) := by
  refine List.pairwise_map.mpr (List.Pairwise.filter _ ?_)
  have hplaces := List.pairwise_lt_range' (s := 0) (n := op.params.length) 1
  rw [← List.zipIdx_map_snd] at hplaces
  exact List.pairwise_map.mp hplaces

theorem Parameter.givenNames_placed (k : Nat) (ps : List Parameter) :
    givenNames (placed attributes k ps) = ps.flatMap paramNames := by
  induction ps generalizing k with
  | nil => rfl
  | cons p ps ih =>
    rw [placed_cons, givenNames_append, ih, List.flatMap_cons, givenNames, List.filterMap_map]
    refine congrArg (· ++ _) (congrArg (List.filterMap · p.attributes) (funext fun a => ?_))
    cases a <;> rfl

namespace DefaultDialect

variable {i : Interface} {op : Operation} {m : Metadata} {n : String}
  (hreads : dialect.Reads i op m)
include hreads

theorem named_of_reads :
    m.Named m.template (Parameter.placed Parameter.attributes 0 op.params) := by
  obtain ⟨m₀, hread, hplaced, -⟩ := parseOperation_placed hreads.read
  have hblank := blank_of_read hread
  rw [placeParameters_template hplaced]
  exact (reflects_of_placed hblank.reflects hblank.fresh hplaced).toNamed

theorem binds_iff {k : Nat} : m.Binds k n ↔ k ∈ op.givers n := by
  obtain ⟨m₀, hfills, hplaced, -⟩ := parseOperation_ok hreads.read
  rw [Operation.mem_givers]
  exact ⟨(fits_placed hplaced hfills.fits).named k n, fun ⟨p, hp, hn⟩ => placed_binds hplaced hp hn⟩

theorem givers_eq (n : String) : (m.names.filter fun q => n ∈ q.2).map Prod.fst = op.givers n := by
  have hordered : ((m.names.filter fun q => n ∈ q.2).map Prod.fst).Pairwise (· < ·) :=
    List.pairwise_map.mpr ((List.pairwise_map.mp (named_of_reads hreads).ordered).filter _)
  refine hordered.eq_of_mem_iff (op.givers_pairwise n) fun k => ?_
  rw [← binds_iff hreads]
  simp [Metadata.Binds]

/-- Form parameters are the names of parameters that nothing else in the template asks for. -/
theorem mem_formParams :
    n ∈ m.formParams ↔ (∃ p ∈ op.params, n ∈ p.paramNames) ∧ m.template.hasRequestPlaceholder n = false := by
  rw [(named_of_reads hreads).formParams, Parameter.givenNames_placed, List.mem_flatMap]

end DefaultDialect

namespace Binding

variable {encoder other : Encoder} {queries : QueryMapEncoder} {m : Metadata} {args : List Arg}
  {s s' : Session} {t : RequestTemplate} {i : Interface} {op : Operation}

theorem formTexts_eq {vars : Variables} (hreads : DefaultDialect.dialect.Reads i op m)
    (h : (namedVariables m args m.names Variables.empty).on s = (.ok vars, s')) (n : String) :
    m.formTexts op args n = ((vars n).map Variable.texts).getD [] := by
  have hbind : ∀ k, args[k]?.bind (·.texts? (m.expanders.get? k)) =
      (args[k]?.bind (argumentVariable? (m.expanders.get? k))).map Variable.texts := by
    intro k
    cases args[k]? with
    | none => rfl
    | some a => exact Arg.texts?_eq _ a
  rw [namedVariables_eq h, DefaultDialect.givers_eq hreads, Metadata.formTexts]
  simp only [hbind, ← List.map_filterMap, List.getLast?_map, Variables.empty, Option.or_none]

/-- The body of a method with form parameters is read back as their names, in the order of their
bytes, each with the texts that the arguments give it: none for nulls, one for a single value, and
one for each element of a list. -/
theorem form_body_decodes (hreads : DefaultDialect.dialect.Reads i op m)
    (hform : m.bodyEncoding = .form)
    (h : (create (.form other) queries m args).on s = (.ok t, s')) :
    ∃ (names : List String) (body : Bytes),
      names.Pairwise (fun a b => Utf8.ofString a < Utf8.ofString b) ∧
      (∀ n, n ∈ names ↔ n ∈ m.formParams) ∧
      (∀ n, n ∈ m.formParams ↔ (∃ p ∈ op.params, n ∈ p.paramNames) ∧ m.template.hasRequestPlaceholder n = false) ∧
      t.body? = some body ∧
      Form.decode? body = some (names.flatMap fun n => (m.formTexts op args n).map (n, ·)) := by
  obtain @⟨bound, bodied, merged, _, vars, s₁, s₂, -, -, hvars, hbody, hquery, hheader⟩ :=
    created_of_create h
  obtain ⟨names, hsorted, hmem, hobject⟩ :=
    Json.exists_sorted m.formParams fun n => (vars n).map Variable.json
  rw [← Variable.formMembers_eq] at hobject
  refine ⟨names, _, hsorted, hmem, fun n => DefaultDialect.mem_formParams hreads, ?_, Form.decode?_encodePairs _⟩
  rw [mergeHeaderMap_frame hheader, mergeQueryMap_frame hquery, funext (formTexts_eq hreads hvars),
    ← Variable.flatMap_formPairs]
  simp only [RequestTemplate.body?, RequestTemplate.resolve, bindBody_form hform hobject hbody]

/-- A name with a list in it and a null behind, a name that a later parameter has as well, one that
has only nulls, and one that stands in the path. -/
theorem form_body_decodes_save :
    let param (name : String) (type : TypeRef) : Parameter := ⟨none, type, [.param name none]⟩
    let op : Operation := ⟨"save", .abstract, [.requestLine "POST /notes/{id}" true .exploded],
      [param "id" (.simple "String"), param "tag" (.named "List" [.simple "String"]), param "tag" (.simple "String"),
        param "ö" (.simple "String"), param "note" (.simple "String"),
        param "note" (.simple "String"), param "gone" (.simple "String")], .void⟩
    let i : Interface := .mk "Api" [] [] [] [op]
    let args : List Arg := [.value (.str "7"), .value (.arr [.str "a&b", .null, .str ""]), .value .null,
      .value (.str "x=y"), .value (.str "first"), .value (.str "ü +%"), .absent]
    let s : Session := ⟨0, 0, [], 0, fun _ => false, id, []⟩
    ∃ m t s', ∃ names : List String, DefaultDialect.dialect.Reads i op m ∧ m.bodyEncoding = .form ∧
      (create (.form .plain) .members m args).on s = (.ok t, s') ∧
      (∀ n, n ∈ names ↔ n ∈ m.formParams) ∧
      t.body?.bind Form.decode? = some (names.flatMap fun n => (m.formTexts op args n).map (n, ·)) ∧
      t.body?.bind Form.decode? = some [("note", "ü +%"), ("tag", "a&b"), ("tag", ""), ("ö", "x=y")] := by
  intro param op i args s
  obtain ⟨m, t, s', hreads, hcreate, hm⟩ := DefaultDialect.exists_of_creates
    (rfl : Dialect.allOperations i = .ok [op])
    (show DefaultDialect.creates i (.form .plain) .members args s (fun m t => m.bodyEncoding == .form &&
      t.body?.bind Form.decode? == some [("note", "ü +%"), ("tag", "a&b"), ("tag", ""), ("ö", "x=y")]) = true by
      decide +kernel)
  simp only [Bool.and_eq_true, beq_iff_eq] at hm
  obtain ⟨names, body, -, hmem, -, hbody, hread⟩ := form_body_decodes hreads hm.1 hcreate
  exact ⟨m, t, s', names, hreads, hm.1, hcreate, hmem, by rw [hbody]; exact hread, hm.2⟩

end Binding

end DeclarativeHttp
