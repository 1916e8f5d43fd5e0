import DeclarativeHttp.Binding
import DeclarativeHttp.Proofs.Stock
import DeclarativeHttp.Proofs.Templates

/-!
# Creating a template

The template of a call is made in five steps, and only the encoders of the body and of the query map
may leave traces in the session. `created_of_create` names the steps; each has its own law. What all
steps keep is kept by `create` (`create_closed`), whether it gives a template or not.
-/

namespace DeclarativeHttp

/-! ## What encoders may change -/

/-- The encoder writes a body, and headers about it, but leaves all else of a template alone. -/
def Encoder.KeepsUrl (e : Encoder) : Prop :=
  ∀ a type t s t' s', (e.encode a type t).on s = (.ok t', s') →
    t' = { t with headers := t'.headers, payload := t'.payload }

namespace Encoder

theorem declareType_frame (type : String) (t : RequestTemplate) :
    declareType type t = { t with headers := (declareType type t).headers } := by
  unfold declareType
  split <;> rfl

theorem Stock.keepsUrl {e : Encoder} (h : e.Stock) : e.KeepsUrl := by
  intro a type t s t' s' hencode
  obtain ⟨bs, rfl | ⟨name, rfl⟩⟩ := h.encode_ok hencode
  · rfl
  · rw [declareType_frame]
    rfl

end Encoder

namespace Binding

variable {encoder : Encoder} {queries : QueryMapEncoder} {m : Metadata} {args : List Arg}
  {s s' : Session} {t t' : RequestTemplate} {vars vars' : Variables}

theorem argument_ok {i : Nat} {a : Arg} (h : (argument args i).on s = (.ok a, s')) :
    args[i]? = some a ∧ s' = s := by
  unfold argument at h
  split at h
  · rename_i b hb
    rw [Run.on_pure, Prod.mk.injEq, Except.ok.injEq] at h
    rw [hb, h.1, ← h.2]
    exact ⟨rfl, rfl⟩
  · cases h

theorem argument_of_lt {i : Nat} (h : i < args.length) : argument args i = pure args[i] := by
  rw [argument, List.getElem?_eq_getElem h]

theorem bindUri_ok (h : (bindUri m args t).on s = (.ok t', s')) :
    s' = s ∧ (m.urlIndex = none ∧ t' = t ∨
      ∃ i a u, m.urlIndex = some i ∧ args[i]? = some a ∧ a.uri? = some u ∧
        t' = t.setTarget u.toList) := by
  unfold bindUri at h
  split at h
  · rename_i hi
    cases h
    exact ⟨rfl, .inl ⟨hi, rfl⟩⟩
  · rename_i i hi
    obtain ⟨a, u, ha, hset⟩ := Run.bind_eq_ok h
    obtain ⟨hi', rfl⟩ := argument_ok ha
    split at hset
    · rename_i text htext
      cases hset
      exact ⟨rfl, .inr ⟨i, a, text, hi, hi', htext, rfl⟩⟩
    · cases hset

theorem namedVariables_session {names : IndexMap (List String)}
    (h : (namedVariables m args names vars).on s = (.ok vars', s')) : s' = s := by
  induction names generalizing vars s with
  | nil => cases h; rfl
  | cons p r ih =>
    obtain ⟨a, u, ha, hrest⟩ := Run.bind_eq_ok h
    obtain ⟨-, rfl⟩ := argument_ok ha
    exact ih hrest

theorem encodeBody_ok {a : Arg} {type : TypeRef}
    (h : (encodeBody encoder a type t).on s = (.ok t', s')) :
    (encoder.encode a type t).on s = (.ok t', s') := by
  rw [encodeBody, Run.on_mapError] at h
  split at h <;> simp_all

theorem bindBody_ok (h : (bindBody encoder m args vars t).on s = (.ok t', s')) :
    t' = t ∧ s' = s ∨ ∃ a type, (encoder.encode a type t).on s = (.ok t', s') := by
  unfold bindBody at h
  split at h
  · cases h; exact .inl ⟨rfl, rfl⟩
  · exact .inr ⟨_, _, encodeBody_ok h⟩
  · split at h
    · obtain ⟨a, u, ha, hrest⟩ := Run.bind_eq_ok h
      obtain ⟨-, rfl⟩ := argument_ok ha
      by_cases hnull : a.isNull = true
      · rw [if_pos hnull] at hrest; cases hrest
      · rw [if_neg hnull] at hrest
        exact .inr ⟨_, _, encodeBody_ok hrest⟩
    · cases h; exact .inl ⟨rfl, rfl⟩

theorem mergeMap_ok {index : Option Nat} {merge : Arg → RequestTemplate → Run RequestTemplate}
    (h : (mergeMap args index merge t).on s = (.ok t', s')) :
    t' = t ∧ s' = s ∨ ∃ i a, index = some i ∧ args[i]? = some a ∧
    (merge a t).on s = (.ok t', s') := by
  unfold mergeMap at h
  split at h
  · cases h; exact .inl ⟨rfl, rfl⟩
  · rename_i i
    obtain ⟨a, u, ha, hrest⟩ := Run.bind_eq_ok h
    obtain ⟨hi, rfl⟩ := argument_ok ha
    by_cases hnull : a.isNull = true
    · rw [if_pos hnull] at hrest; cases hrest; exact .inl ⟨rfl, rfl⟩
    · rw [if_neg hnull] at hrest
      exact .inr ⟨i, a, rfl, hi, hrest⟩

theorem mergeQueries_frame (encoded : Bool) (pairs : List (String × Json)) (t : RequestTemplate) :
    mergeQueries encoded pairs t = { t with queries := (mergeQueries encoded pairs t).queries } := by
  refine List.foldlRecOn (motive := fun (u : RequestTemplate) => u = { t with queries := u.queries }) pairs _ rfl
    fun u hu p _ => ?_
  have hstep : mergeQuery encoded u p = { u with queries := (mergeQuery encoded u p).queries } := by
    unfold mergeQuery
    split
    · rfl
    · rfl
    · exact RequestTemplate.query_frame ..
  rw [hstep, hu]

theorem mergeHeaders_frame (members : List (String × Json)) (t : RequestTemplate) :
    mergeHeaders members t = { t with headers := (mergeHeaders members t).headers } := by
  refine List.foldlRecOn (motive := fun (u : RequestTemplate) => u = { t with headers := u.headers }) members _ rfl
    fun u hu p _ => ?_
  have hstep : mergeHeader u p = { u with headers := (mergeHeader u p).headers } := by
    unfold mergeHeader
    split
    · rfl
    · exact RequestTemplate.header_frame ..
  rw [hstep, hu]

theorem addQueryMap_ok {a : Arg} (h : (addQueryMap queries m a t).on s = (.ok t', s')) :
    ∃ pairs, t' = mergeQueries m.queryMapEncoded pairs t ∧
      (a = .value (.obj pairs) ∧ s' = s ∨ ∃ v, a = .value v ∧ (queries.encode v).on s = (.ok pairs, s')) := by
  cases a with
  | value v =>
    cases v with
    | obj members => cases h; exact ⟨members, rfl, .inl ⟨rfl, rfl⟩⟩
    | _ =>
      obtain ⟨pairs, u, hp, hmerge⟩ := Run.bind_eq_ok h
      cases hmerge
      exact ⟨pairs, rfl, .inr ⟨_, rfl, hp⟩⟩
  | _ => cases h

theorem addHeaderMap_ok {a : Arg} (h : (addHeaderMap a t).on s = (.ok t', s')) :
    ∃ members, a = .value (.obj members) ∧ t' = mergeHeaders members t ∧ s' = s := by
  unfold addHeaderMap at h
  split at h
  · cases h; exact ⟨_, rfl, rfl, rfl⟩
  · cases h

/-! ## What each step leaves alone -/

theorem bindBody_frame (hencoder : encoder.KeepsUrl)
    (h : (bindBody encoder m args vars t).on s = (.ok t', s')) :
    t' = { t with headers := t'.headers, payload := t'.payload } := by
  obtain ⟨rfl, -⟩ | ⟨a, type, hencode⟩ := bindBody_ok h
  · rfl
  · exact hencoder a type t s t' s' hencode

theorem mergeQueryMap_frame
    (h : (mergeMap args m.queryMapIndex (addQueryMap queries m) t).on s = (.ok t', s')) :
    t' = { t with queries := t'.queries } := by
  obtain ⟨rfl, -⟩ | ⟨i, a, -, -, hmerge⟩ := mergeMap_ok h
  · rfl
  · obtain ⟨pairs, rfl, -⟩ := addQueryMap_ok hmerge
    exact mergeQueries_frame ..

theorem mergeHeaderMap_frame
    (h : (mergeMap args m.headerMapIndex addHeaderMap t).on s = (.ok t', s')) :
    t' = { t with headers := t'.headers } := by
  obtain ⟨rfl, -⟩ | ⟨i, a, -, -, hmerge⟩ := mergeMap_ok h
  · rfl
  · obtain ⟨members, -, rfl, -⟩ := addHeaderMap_ok hmerge
    exact mergeHeaders_frame ..

/-! ## All steps -/

variable (encoder queries m args s)

inductive Created : RequestTemplate → Session → Prop where
  | steps {bound bodied merged t : RequestTemplate} {vars : Variables} {s₁ s₂ : Session}
    (arity : args.length = m.paramTypes.length)
    (uri : (bindUri m args m.template).on s = (.ok bound, s))
    (naming : (namedVariables m args m.names Variables.empty).on s = (.ok vars, s))
    (body : (bindBody encoder m args vars bound).on s = (.ok bodied, s₁))
    (queryMap : (mergeMap args m.queryMapIndex (addQueryMap queries m) (bodied.resolve vars)).on s₁ =
      (.ok merged, s₂))
    (headerMap : (mergeMap args m.headerMapIndex addHeaderMap merged).on s₂ = (.ok t, s₂)) :
    Created t s₂

variable {encoder queries m args s}

theorem created_of_create (h : (create encoder queries m args).on s = (.ok t, s')) :
    Created encoder queries m args s t s' := by
  rw [create] at h
  by_cases hlen : (args.length != m.paramTypes.length) = true
  · rw [if_pos hlen] at h
    cases h
  · rw [if_neg hlen] at h
    obtain ⟨bound, s₁, hbound, h⟩ := Run.bind_eq_ok h
    obtain ⟨vars, s₂, hvars, h⟩ := Run.bind_eq_ok h
    obtain ⟨bodied, s₃, hbody, h⟩ := Run.bind_eq_ok h
    obtain ⟨merged, s₄, hqueries, hheaders⟩ := Run.bind_eq_ok h
    obtain rfl := (bindUri_ok hbound).1
    obtain rfl := namedVariables_session hvars
    have hend : s' = s₄ := by
      obtain ⟨-, rfl⟩ | ⟨i, a, -, -, hmerge⟩ := mergeMap_ok hheaders
      · rfl
      · obtain ⟨_, -, -, rfl⟩ := addHeaderMap_ok hmerge
        rfl
    subst hend
    exact .steps (by simpa using hlen) hbound hvars hbody hqueries hheaders

theorem create_of_created (h : Created encoder queries m args s t s') :
    (create encoder queries m args).on s = (.ok t, s') := by
  obtain @⟨bound, bodied, merged, _, vars, s₁, s₂, harity, huri, hvars, hbody, hquery, hheader⟩ := h
  rw [create, if_neg (by simpa using harity)]
  show (bindUri m args m.template >>= _).on s = _
  rw [Run.on_bind_ok huri, Run.on_bind_ok hvars, Run.on_bind_ok hbody]
  show (mergeMap args m.queryMapIndex (addQueryMap queries m) (bodied.resolve vars) >>= _).on s₁ = _
  rw [Run.on_bind_ok hquery, hheader]

/-! ## Calls without their maps -/

theorem namedVariables_congr {m' : Metadata} (h : m'.expanders = m.expanders) (args : List Arg)
    (names : IndexMap (List String)) (vars : Variables) :
    namedVariables m' args names vars = namedVariables m args names vars := by
  induction names generalizing vars with
  | nil => rfl
  | cons p names ih => simp only [namedVariables, h, ih]

/-- Into what a call makes without its maps the query
map is merged first, and then the header map. -/
theorem Created.unmerged (h : Created encoder queries m args s t s') :
    ∃ before merged s₁,
      (create encoder queries { m with queryMapIndex := none, headerMapIndex := none } args).on s =
        (.ok before, s₁) ∧
      (create encoder queries { m with headerMapIndex := none } args).on s = (.ok merged, s') ∧
      (mergeMap args m.queryMapIndex (addQueryMap queries m) before).on s₁ = (.ok merged, s') ∧
      (mergeMap args m.headerMapIndex addHeaderMap merged).on s' = (.ok t, s') := by
  obtain @⟨bound, bodied, merged, _, vars, s₁, s₂, harity, huri, hvars, hbody, hquery, hheader⟩ := h
  have hnaming : ∀ {m' : Metadata}, m'.expanders = m.expanders →
      (namedVariables m' args m.names Variables.empty).on s = (.ok vars, s) := fun hexpanders => by
    rw [namedVariables_congr hexpanders, hvars]
  exact ⟨bodied.resolve vars, merged, s₁, create_of_created (.steps harity huri (hnaming rfl) hbody rfl rfl),
    create_of_created (.steps harity huri (hnaming rfl) hbody hquery rfl), hquery, hheader⟩

theorem Created.target_uri (h : Created encoder queries m args s t s')
    (hencoder : encoder.KeepsUrl) :
    ∃ bound vars, (bindUri m args m.template).on s = (.ok bound, s) ∧ t.target = bound.target ∧
      t.uri = Template.literal (bound.uri.expand vars (.path bound.decodeSlash) bound.format) := by
  obtain @⟨bound, bodied, merged, _, vars, s₁, s₂, -, huri, -, hbody, hquery, hheader⟩ := h
  refine ⟨bound, vars, huri, ?_⟩
  rw [mergeHeaderMap_frame hheader, mergeQueryMap_frame hquery, bindBody_frame hencoder hbody]
  exact ⟨rfl, rfl⟩

end Binding

/-! ## What all steps keep -/

/-- The metadata speak only of the first parameters. -/
structure Metadata.Indexed (n : Nat) (m : Metadata) : Prop where
  names : ∀ k names, (k, names) ∈ m.names → k < n
  body : ∀ k, m.bodyIndex = some k → k < n
  bodyType : m.bodyIndex.isSome = m.bodyType.isSome
  url : ∀ k, m.urlIndex = some k → k < n
  queryMap : ∀ k, m.queryMapIndex = some k → k < n
  headerMap : ∀ k, m.headerMapIndex = some k → k < n

inductive Metadata.Mentions (m : Metadata) (k : Nat) : Prop where
  | name {names : List String} (h : (k, names) ∈ m.names)
  | body (h : m.bodyIndex = some k)
  | url (h : m.urlIndex = some k)
  | queryMap (h : m.queryMapIndex = some k)
  | headerMap (h : m.headerMapIndex = some k)

theorem Metadata.Indexed.lt_of_mentions {n k : Nat} {m : Metadata} (h : m.Indexed n)
    (hk : m.Mentions k) : k < n := by
  cases hk with
  | name hk => exact h.names _ _ hk
  | body hk => exact h.body _ hk
  | url hk => exact h.url _ hk
  | queryMap hk => exact h.queryMap _ hk
  | headerMap hk => exact h.headerMap _ hk

namespace Binding

section
variable {encoder : Encoder} {queries : QueryMapEncoder} {m : Metadata} {args : List Arg}
  {P : ∀ {α : Type}, Run α → Prop} (hP : Run.Closed P)
include hP

theorem namedVariables_closed {names : IndexMap (List String)}
    (hargument : ∀ k ns, (k, ns) ∈ names → P (argument args k)) (vars : Variables) :
    P (namedVariables m args names vars) := by
  induction names generalizing vars with
  | nil => exact hP.pure _
  | cons q r ih =>
    refine hP.bind (hargument q.1 q.2 List.mem_cons_self) fun _ => ?_
    exact ih (fun k ns hk => hargument k ns (List.mem_cons_of_mem _ hk)) _

theorem mergeMap_closed {index : Option Nat} {merge : Arg → RequestTemplate → Run RequestTemplate}
    (hmerge : ∀ a t, P (merge a t)) (hargument : ∀ k, index = some k → P (argument args k))
    (t : RequestTemplate) : P (mergeMap args index merge t) := by
  unfold mergeMap
  split
  · exact hP.pure _
  · rename_i k
    refine hP.bind (hargument k rfl) fun a => ?_
    split
    · exact hP.pure _
    · exact hmerge a t

variable (hinvalid : ∀ {α : Type} (msg : String), P (Run.fail (.invalidArgument msg) : Run α))
include hinvalid

theorem bindUri_closed (hargument : ∀ k, m.urlIndex = some k → P (argument args k))
    (t : RequestTemplate) :
    P (bindUri m args t) := by
  unfold bindUri
  split
  · exact hP.pure _
  · rename_i k hk
    refine hP.bind (hargument k hk) fun a => ?_
    split
    · exact hP.pure _
    · exact hinvalid _

theorem bindBody_closed (hbody : ∀ a type t, P (encodeBody encoder a type t))
    (hargument : ∀ k, m.bodyIndex = some k → P (argument args k)) (vars : Variables)
    (t : RequestTemplate) :
    P (bindBody encoder m args vars t) := by
  unfold bindBody
  split
  · exact hP.pure _
  · exact hbody _ _ _
  · split
    · rename_i k type hk _
      refine hP.bind (hargument k hk) fun a => ?_
      by_cases hnull : a.isNull = true
      · rw [if_pos hnull, Run.fail_bind]
        exact hinvalid _
      · rw [if_neg hnull]
        exact hbody _ _ _
    · exact hP.pure _

theorem addQueryMap_closed (hqueries : ∀ v, P (queries.encode v)) (a : Arg) (t : RequestTemplate) :
    P (addQueryMap queries m a t) := by
  unfold addQueryMap
  split
  · exact hP.bind (hP.pure _) fun _ => hP.pure _
  · exact hP.bind (hqueries _) fun _ => hP.pure _
  · rw [Run.fail_bind]
    exact hinvalid _

theorem addHeaderMap_closed (a : Arg) (t : RequestTemplate) : P (addHeaderMap a t) := by
  unfold addHeaderMap
  split
  · exact hP.pure _
  · exact hinvalid _

/-- What is kept by refusing an argument, by looking up one that the metadata speak of and by the
encoders is kept by the whole of it. -/
theorem create_closed
    (hargument : args.length = m.paramTypes.length → ∀ k, m.Mentions k → P (argument args k))
    (hbody : ∀ a type t, P (encodeBody encoder a type t)) (hqueries : ∀ v, P (queries.encode v)) :
    P (create encoder queries m args) := by
  unfold create
  by_cases hlen : (args.length != m.paramTypes.length) = true
  · rw [if_pos hlen, Run.fail_bind]
    exact hinvalid _
  · rw [if_neg hlen]
    have hargument := hargument (by simpa using hlen)
    refine hP.bind (bindUri_closed hP hinvalid (fun k hk => hargument k (.url hk)) _) fun t => ?_
    refine hP.bind (namedVariables_closed hP (fun k ns hk => hargument k (.name hk)) _) fun vars => ?_
    refine hP.bind (bindBody_closed hP hinvalid hbody (fun k hk => hargument k (.body hk)) _ _) fun t => ?_
    refine hP.bind (mergeMap_closed hP (addQueryMap_closed hP hinvalid hqueries)
      (fun k hk => hargument k (.queryMap hk)) _) fun t => ?_
    exact mergeMap_closed hP (addHeaderMap_closed hP hinvalid) (fun k hk => hargument k (.headerMap hk)) _

end

end Binding

end DeclarativeHttp
