import DeclarativeHttp.Client.Basic
import DeclarativeHttp.Proofs.Binding
import DeclarativeHttp.Proofs.Course
import DeclarativeHttp.Proofs.Logging

/-!
# What becomes of failures

A failure of the transport is made retryable, and a decoder that cannot read a body fails with a
decode error. But a body may be read before a decoder sees it: by a logger that shows it, or because
a raw response is to be put in memory. `call_failures`: there, and only there, the failure comes out
bare, so that no retryer is asked about it.
-/

namespace DeclarativeHttp

namespace Error

def isHttp : Error → Bool
  | http .. => true
  | _ => false

def isUnsent : Error → Bool
  | configuration _ | invalidArgument _ | encodeFailed .. | serializationFailed _ | invalidUrl _ =>
    true
  | _ => false

def isClassified (e : Error) : Bool := e.asksRetry || e.isDecodeError || e.isHttp

theorem isTransport_of_isUnsent {e : Error} (h : e.isUnsent = true) : e.isTransport = false := by
  cases e <;> first | rfl | cases h

theorem isTransport_of_isClassified {e : Error} (h : e.isClassified = true) :
    e.isTransport = false := by
  cases e <;> first | rfl | cases h

theorem isTransport_of_asksRetry {e : Error} (h : e.asksRetry = true) : e.isTransport = false :=
  isTransport_of_isClassified (by rw [isClassified, h]; rfl)

end Error

/-! ## Errors that a run may end in -/

namespace Run

variable {α β : Type} {p q : Error → Prop}

def Raises (p : Error → Prop) (x : Run α) : Prop := ∀ s e t, x.on s = (.error (.error e), t) → p e

theorem raises_iff {x : Run α} : Raises p x ↔ Faults (fun f => ∀ e, f = .error e → p e) x :=
  ⟨fun h s _ t hf e he => h s e t (he ▸ hf), fun h s e t hf => h s _ t hf e rfl⟩

theorem raises_pure (a : α) : Raises p (pure a) := raises_iff.mpr (faults_pure a)

theorem raises_fail {e : Error} (h : p e) : Raises p (fail e : Run α) := by
  refine raises_iff.mpr (faults_fail fun e' he => ?_)
  cases he
  exact h

theorem raises_crash (x : Crash) : Raises p (crash x : Run α) := by
  intro s e t h
  cases h

theorem raises_attempt (x : Run α) : Raises p (attempt x) := by
  intro s e t h
  rw [on_attempt] at h
  split at h <;> cases h

theorem raises_mapError {f : Error → Error} (h : ∀ e, p (f e)) (x : Run α) :
    Raises p (mapError f x) := by
  intro s e t hx
  rw [on_mapError] at hx
  split at hx <;> cases hx
  exact h _

theorem Raises.bind {x : Run α} {k : α → Run β} (hx : Raises p x)
    (hk : ∀ s a t, x.on s = (.ok a, t) → Raises p (k a)) : Raises p (x >>= k) :=
  raises_iff.mpr ((raises_iff.mp hx).bind fun s a t h => raises_iff.mp (hk s a t h))

theorem raises_closed : Closed (fun {_} x => Raises p x) :=
  ⟨raises_pure, fun hx hk => hx.bind fun _ a _ _ => hk a⟩

theorem Raises.mono {x : Run α} (hx : Raises p x) (h : ∀ e, p e → q e) : Raises q x :=
  fun s e t he => h e (hx s e t he)

end Run

/-! ## Before anything is sent -/

theorem Target.isUnsent_of_apply {target : Target} {t : RequestTemplate} {e : Error}
    (h : target.apply t = .error e) : e.isUnsent = true := by
  have hrequest : ∀ {t : RequestTemplate}, t.request = .error e → e.isUnsent = true := by
    intro t ht
    unfold RequestTemplate.request at ht
    split at ht
    · cases ht; rfl
    · split at ht <;> cases ht
      rfl
  unfold apply at h
  cases hp : target.place t with
  | ok r => rw [hp] at h; exact hrequest h
  | error e' =>
    rw [hp] at h
    cases h
    unfold place at hp
    split at hp
    · cases hp
    · split at hp <;> cases hp
      rfl

namespace Binding

variable {m : Metadata} {args : List Arg}

abbrev Early {α : Type} (x : Run α) : Prop := x.Raises fun e => e.isUnsent = true

theorem early_encodeBody (encoder : Encoder) (a : Arg) (type : TypeRef) (t : RequestTemplate) :
    Early (encodeBody encoder a type t) := by
  refine Run.raises_mapError (fun e => ?_) _
  unfold asEncodeError
  split
  · rename_i he
    cases e <;> first | rfl | cases he
  · rfl

theorem early_members (v : Json) : Early (QueryMapEncoder.members.encode v) := by
  unfold QueryMapEncoder.members
  cases v <;> first | exact Run.raises_pure _ | exact Run.raises_fail rfl

/-- A call whose arguments cannot be bound fails with
an error of its own, whatever encodes its body. -/
theorem early_create (encoder : Encoder) : Early (create encoder .members m args) := by
  refine create_closed Run.raises_closed (fun msg => Run.raises_fail rfl) (fun _ k _ => ?_)
    (early_encodeBody encoder) early_members
  unfold argument
  split
  · exact Run.raises_pure _
  · exact Run.raises_crash _

end Binding

/-! ## Reading bodies -/

/-- How reading the body fails, unless it crashes. -/
def Body.ioFailure? (b : Body) : Option String :=
  if b.streamed = true ∧ maxBuffer < b.announced.getD 0 then none else b.failure

namespace Body

variable {b : Body} {msg : String}

theorem on_toBytes_of_failure (h : b.ioFailure? = some msg) (s : Session) :
    ∃ t, b.toBytes.on s = (.error (.error (.io msg)), t) := by
  unfold ioFailure? at h
  split at h
  · cases h
  · rename_i hfits
    rw [on_toBytes, if_neg (show ¬ b.Overlong from hfits), given, h]
    exact ⟨_, rfl⟩

theorem on_toBytes_of_none (h : b.ioFailure? = none) (s : Session) :
    ∃ t, b.toBytes.on s = (.ok b.content, t) ∨
      b.toBytes.on s = (.error (.crash .bufferTooLong), t) := by
  unfold ioFailure? at h
  split at h
  · rename_i hlong
    rw [on_toBytes, if_pos (show b.Overlong from hlong)]
    exact ⟨s, .inr rfl⟩
  · rename_i hfits
    rw [on_toBytes, if_neg (show ¬ b.Overlong from hfits), given, h]
    exact ⟨_, .inl rfl⟩

theorem raises_toBytes (b : Body) : b.toBytes.Raises fun e => ∃ msg, b.ioFailure? = some msg ∧
    e = .io msg := by
  intro s e t h
  cases hf : b.ioFailure? with
  | some msg =>
    obtain ⟨u, hu⟩ := on_toBytes_of_failure hf s
    rw [hu] at h
    cases h
    exact ⟨msg, rfl, rfl⟩
  | none =>
    obtain ⟨u, hu | hu⟩ := on_toBytes_of_none hf s <;> rw [hu] at h <;> cases h

end Body

def Response.ioFailure? (r : Response) : Option String := r.body.bind Body.ioFailure?

/-! ## Loggers -/

namespace Logger

variable (form : String → String → List String) (key : String) (elapsed : Nat) {level : LogLevel}
  {r : Response}

theorem on_standard_response_unread (h : level ≠ .full ∨ r.body = none) (s : Session) :
    ∃ t, ((standard form).response key level r elapsed).on s = (.ok r, t) := by
  simp only [standard]
  rw [Run.on_bind_ok (Run.on_quiet _ _)]
  cases level with
  | none => exact ⟨_, rfl⟩
  | basic => exact ⟨_, rfl⟩
  | headers => exact ⟨_, rfl⟩
  | full =>
    rw [h.resolve_left fun hx => hx rfl]
    exact ⟨_, rfl⟩

theorem on_standard_response_of_failure {msg : String} (h : r.ioFailure? = some msg) (s : Session) :
    ∃ t, ((standard form).response key .full r elapsed).on s = (.error (.error (.io msg)), t) := by
  obtain ⟨b, hb, hfails⟩ := Option.bind_eq_some_iff.mp h
  simp only [standard]
  rw [Run.on_bind_ok (Run.on_quiet _ _), hb]
  obtain ⟨t, ht⟩ := Body.on_toBytes_of_failure hfails _
  exact ⟨t, Run.on_bind_error ht⟩

theorem on_standard_response_of_none (h : r.ioFailure? = none) (s : Session) :
    ∃ t, (∃ q, ((standard form).response key .full r elapsed).on s = (.ok q, t) ∧ q.ioFailure? = none) ∨
      ∃ x, ((standard form).response key .full r elapsed).on s = (.error (.crash x), t) := by
  cases hb : r.body with
  | none =>
    obtain ⟨t, ht⟩ := on_standard_response_unread form key elapsed (.inr hb) s
    exact ⟨t, .inl ⟨r, ht, h⟩⟩
  | some b =>
    rw [Response.ioFailure?, hb] at h
    simp only [standard]
    rw [Run.on_bind_ok (Run.on_quiet _ _), hb]
    obtain ⟨t, ht | ht⟩ := Body.on_toBytes_of_none h _
    · exact ⟨_, .inl ⟨_, (Run.on_bind_ok ht).trans rfl, rfl⟩⟩
    · exact ⟨t, .inr ⟨_, Run.on_bind_error ht⟩⟩

end Logger

namespace Components

variable (c : Components) (m : Metadata)

/-- The usual components: any transport, interceptors, encoder and
decoder with the loggers, the error decoder and the query map encoder
that there are, and an error that is given up is not unwrapped. -/
structure Stock (shows : Bool) : Prop where
  logger : c.logger.Shows shows
  errorDecoder : c.errorDecoder = .plain
  queryMapEncoder : c.queryMapEncoder = .members
  propagation : c.propagation = .none

def keepsRaw (r : Response) : Bool :=
  m.returnType.isResponse && c.closeAfterDecode &&
    r.body.any fun b => b.announced.any (· ≤ maxBuffered)

def shown (shows : Bool) : Bool := shows && c.logLevel == .full

def readsFirst (shows : Bool) (r : Response) : Bool := c.shown shows || c.keepsRaw m r

/-- The failure to read a response that comes out as it is. -/
def Bare (shows : Bool) (r : Response) (msg : String) : Prop :=
  c.readsFirst m shows r = true ∧ r.ioFailure? = some msg

variable {c m} {shows : Bool} {r : Response} {msg : String}

/-! ## One response -/

theorem ioFailure?_labelled (request : Request) (r : Response) :
    (labelled request r).ioFailure? = r.ioFailure? := by
  rw [Response.ioFailure?, body_labelled]
  rfl

theorem raises_decode (r : Response) : (c.decode m r).Raises fun e => e.isClassified = true := by
  refine Run.raises_mapError (fun e => ?_) _
  cases e <;> rfl

theorem raises_errorDecoder (key : String) (r : Response) :
    (ErrorDecoder.plain.decode key r >>= fun e => (Run.fail e : Run Output)).Raises
      fun e => e.isClassified = true := by
  intro s e t h
  simp only [ErrorDecoder.plain] at h
  rw [Run.on_bind] at h
  split at h
  · rename_i hon
    obtain ⟨now, u, -, hdecoded⟩ := Run.bind_eq_ok hon
    obtain ⟨raw, v, -, hdecoded⟩ := Run.bind_eq_ok hdecoded
    split at hdecoded <;> (cases hdecoded; cases h; rfl)
  · rename_i hon
    cases h
    have hnever : Run.Raises (fun _ => False) (ErrorDecoder.plain.decode key r) := by
      refine Run.Raises.bind (fun _ _ _ h => by cases h) fun _ _ _ _ => ?_
      refine (Run.raises_attempt _).bind fun _ _ _ _ => ?_
      dsimp only
      split <;> exact Run.raises_pure _
    exact (hnever _ _ _ hon).elim

theorem raises_bufferSmall (r : Response) : (bufferSmall r).Raises fun e =>
    (r.body.any fun b => b.announced.any (· ≤ maxBuffered)) = true ∧
      ∃ msg, r.ioFailure? = some msg ∧ e = .io msg := by
  unfold bufferSmall
  split
  · rename_i b hb
    split
    · rename_i n hn
      split
      · rename_i hsmall
        refine ((Body.raises_toBytes b).mono ?_).bind fun _ _ _ _ => Run.raises_pure _
        rintro e ⟨msg, hmsg, rfl⟩
        simp [hb, hn, hsmall, Response.ioFailure?, hmsg]
      · exact Run.raises_pure _
    · exact Run.raises_pure _
  · exact Run.raises_pure _

theorem raises_handleResponse (hc : c.Stock shows) (r : Response) :
    (c.handleResponse m r).Raises fun e => e.isClassified = true ∨
      c.keepsRaw m r = true ∧ ∃ msg, r.ioFailure? = some msg ∧ e = .io msg := by
  have hdecode := (raises_decode (c := c) (m := m) r).mono fun e he =>
    Or.inl (b := c.keepsRaw m r = true ∧ ∃ msg, r.ioFailure? = some msg ∧ e = .io msg) he
  have hfailed := (raises_errorDecoder m.configKey r).mono fun e he =>
    Or.inl (b := c.keepsRaw m r = true ∧ ∃ msg, r.ioFailure? = some msg ∧ e = .io msg) he
  unfold handleResponse
  rw [hc.errorDecoder]
  split
  · rename_i hraw
    split
    · rename_i hclose
      refine ((raises_bufferSmall r).mono fun e he => .inr ⟨?_, he.2⟩).bind fun _ _ _ _ =>
        Run.raises_pure _
      rw [keepsRaw, hraw, hclose]
      exact he.1
    · exact (Run.raises_pure _).bind fun _ _ _ _ => Run.raises_pure _
  · split
    · split
      · exact Run.raises_pure _
      · exact hdecode
    · split
      · exact hdecode
      · exact hfailed

theorem handleResponse_bare (hraw : c.keepsRaw m r = true) (h : r.ioFailure? = some msg)
    (s : Session) :
    ∃ t, (c.handleResponse m r).on s = (.error (.error (.io msg)), t) := by
  simp only [keepsRaw, Bool.and_eq_true] at hraw
  obtain ⟨⟨hresponse, hclose⟩, hsmall⟩ := hraw
  obtain ⟨b, hb, hsmall⟩ := (Option.any_eq_true ..).mp hsmall
  obtain ⟨n, hn, hsmall⟩ := (Option.any_eq_true ..).mp hsmall
  rw [Response.ioFailure?, hb] at h
  obtain ⟨t, ht⟩ := Body.on_toBytes_of_failure h s
  refine ⟨t, ?_⟩
  unfold handleResponse bufferSmall
  rw [if_pos hresponse, if_pos hclose]
  simp only [hb, hn, if_pos (of_decide_eq_true hsmall)]
  exact Run.on_bind_error (Run.on_bind_error ht)

theorem receive_unshown (hc : c.Stock shows) (hshown : c.shown shows = false) (request : Request)
    (r : Response) (s : Session) :
    ∃ t, (c.receive m request (.ok r)).on s = (.ok (labelled request r), t) := by
  rw [on_receive_ok]
  split
  · obtain ⟨hlogger, -, -, -⟩ := hc
    generalize c.logger = l at hlogger
    cases hlogger with
    | off => exact ⟨s, rfl⟩
    | standard form =>
      have hlevel : c.logLevel ≠ .full := by
        intro h
        rw [shown, h] at hshown
        cases hshown
      exact Logger.on_standard_response_unread form _ _ (.inl hlevel) s
  · exact ⟨s, rfl⟩

theorem receive_shown (hc : c.Stock shows) (hshown : c.shown shows = true) (request : Request)
    (r : Response) (s : Session) : ∃ form u, c.logger = Logger.standard form ∧
    (c.receive m request (.ok r)).on s =
      ((Logger.standard form).response m.configKey .full (labelled request r) u).on s := by
  simp only [shown, Bool.and_eq_true, beq_iff_eq] at hshown
  obtain ⟨hshows, hlevel⟩ := hshown
  have hon : c.logLevel.isOn = true := by rw [hlevel]; rfl
  rw [on_receive_ok, if_pos hon, hlevel]
  obtain ⟨hlogger, -, -, -⟩ := hc
  generalize c.logger = l at hlogger ⊢
  cases hlogger with
  | off => cases hshows
  | standard form => exact ⟨form, s.elapsed, rfl, rfl⟩

/-- A failure that is met before a decoder sees the body ends the attempt as it is. -/
theorem digest_bare (hc : c.Stock shows) (h : c.Bare m shows r msg) (request : Request)
    (s : Session) :
    ∃ t, (c.digest m request (.ok r)).on s = (.error (.error (.io msg)), t) := by
  obtain ⟨hfirst, hfails⟩ := h
  rw [digest]
  cases hshown : c.shown shows with
  | true =>
    obtain ⟨form, u, -, hon⟩ := receive_shown (m := m) hc hshown request r s
    obtain ⟨t, ht⟩ := Logger.on_standard_response_of_failure form m.configKey u
      ((ioFailure?_labelled request r).trans hfails) s
    exact ⟨t, Run.on_bind_error (hon.trans ht)⟩
  | false =>
    obtain ⟨t, ht⟩ := receive_unshown (m := m) hc hshown request r s
    have hraw : c.keepsRaw m (labelled request r) = true := by
      rw [readsFirst, hshown, Bool.false_or] at hfirst
      rw [keepsRaw, body_labelled]
      exact hfirst
    obtain ⟨u, hu⟩ := handleResponse_bare hraw ((ioFailure?_labelled request r).trans hfails) t
    exact ⟨u, (Run.on_bind_ok ht).trans hu⟩

theorem raises_digest (hc : c.Stock shows) (request : Request) (r : Response) :
    (c.digest m request (.ok r)).Raises fun e => e.isClassified = true ∨
    ∃ msg, c.Bare m shows r msg ∧ e = .io msg := by
  have hlabelled := ioFailure?_labelled request r
  intro s e t h
  rw [digest] at h
  cases hshown : c.shown shows with
  | true =>
    obtain ⟨form, u, -, hon⟩ := receive_shown (m := m) hc hshown request r s
    cases hfails : (labelled request r).ioFailure? with
    | some msg =>
      obtain ⟨v, hv⟩ := Logger.on_standard_response_of_failure form m.configKey u hfails s
      rw [Run.on_bind_error (hon.trans hv)] at h
      cases h
      exact .inr ⟨msg, ⟨by rw [readsFirst, hshown, Bool.true_or], hlabelled ▸ hfails⟩, rfl⟩
    | none =>
      obtain ⟨v, ⟨q, hq, hnone⟩ | ⟨x, hx⟩⟩ :=
        Logger.on_standard_response_of_none form m.configKey u hfails s
      · rw [Run.on_bind_ok (hon.trans hq)] at h
        obtain he | ⟨-, msg, hmsg, -⟩ := raises_handleResponse hc q v e t h
        · exact .inl he
        · rw [hnone] at hmsg
          cases hmsg
      · rw [Run.on_bind_error (hon.trans hx)] at h
        cases h
  | false =>
    obtain ⟨v, hv⟩ := receive_unshown (m := m) hc hshown request r s
    rw [Run.on_bind_ok hv] at h
    obtain he | ⟨hraw, msg, hmsg, rfl⟩ := raises_handleResponse hc _ v e t h
    · exact .inl he
    · rw [keepsRaw, body_labelled] at hraw
      exact .inr ⟨msg, ⟨by rw [readsFirst, hshown, Bool.false_or]; exact hraw, hlabelled ▸ hmsg⟩, rfl⟩

/-! ## One attempt -/

/-- What the errors of an attempt are: a failure of the transport is made retryable, and a failure
to read a body is classified unless it comes out bare. -/
structure Attempt.Classified (c : Components) (m : Metadata) (shows : Bool) (request : Request)
    (a : Attempt) : Prop where
  transport : ∀ e, a.reply = .error (.error e) → e.isTransport = true →
    a.result = .error (.error (asRetryable request e))
  response : ∀ r e, a.reply = .ok r → a.result = .error (.error e) →
    e.isClassified = true ∨ ∃ msg, c.Bare m shows r msg ∧ e = .io msg
  bare : ∀ r msg, a.reply = .ok r → c.Bare m shows r msg → a.result = .error (.error (.io msg))

section
variable {request : Request} {options : Options} {a : Attempt}

theorem Attempt.Performed.classified (hc : c.Stock shows) (ha : a.Performed c m request options) :
    a.Classified c m shows request := by
  have hd := ha.digested
  refine ⟨fun e he htransport => ?_, fun r e hr he => ?_, fun r msg hr hbare => ?_⟩
  · rw [ha.result_of_error he, if_pos htransport]
  · rw [hr, he] at hd
    exact raises_digest hc request r _ _ _ hd
  · obtain ⟨t, ht⟩ := digest_bare hc hbare request a.replied
    rw [hr, ht] at hd
    exact (congrArg Prod.fst hd).symm

/-- An attempt ends in a failure of the transport only
if a body fails that is read before it is decoded. -/
theorem Attempt.Performed.transport_iff (hc : c.Stock shows)
    (ha : a.Performed c m request options) :
    (∃ e, a.result = .error (.error e) ∧ e.isTransport = true) ↔
      ∃ r msg, a.reply = .ok r ∧ c.Bare m shows r msg := by
  have hcl := ha.classified hc
  constructor
  · rintro ⟨e, he, htransport⟩
    cases hreply : a.reply with
    | ok r =>
      obtain hclass | ⟨msg, hbare, -⟩ := hcl.response r e hreply he
      · rw [Error.isTransport_of_isClassified hclass] at htransport
        cases htransport
      · exact ⟨r, msg, rfl, hbare⟩
    | error f =>
      cases f with
      | crash x =>
        have hd := ha.digested
        rw [hreply, digest, Run.on_crash, he] at hd
        cases hd
      | error e' =>
        have hresult := ha.result_of_error hreply
        rw [he] at hresult
        cases hresult
        by_cases ht : e'.isTransport = true
        · rw [if_pos ht, Error.isTransport_of_asksRetry (asksRetry_asRetryable request e')] at htransport
          cases htransport
        · rw [if_neg ht] at htransport
          exact absurd htransport ht
  · rintro ⟨r, msg, hr, hbare⟩
    exact ⟨.io msg, hcl.bare r msg hr hbare, rfl⟩

end

/-! ## Calls -/

section
variable {request : Request} {options : Options} {target : Target} {t : RequestTemplate}

variable {r : Retryer} {s : Session} {as : List Attempt} {out : Except Fault Output × Session}

theorem Tries.last (hp : c.propagation = .none) (h : Tries c m request options r s as out) :
    ∃ before a, as = before ++ [a] ∧ ((∃ e, out.1 = .error (.error e) ∧ e.isTransport = true) ↔
      ∃ e, a.result = .error (.error e) ∧ e.isTransport = true) := by
  induction h with
  | ends ha _ => exact ⟨[], _, rfl, Iff.rfl⟩
  | @refused r r' a e s ha hres hask _ =>
    refine ⟨[], a, rfl, ?_⟩
    rw [hp, hres]
    exact Iff.rfl
  | @crashed r a e x s ha hres hask _ =>
    refine ⟨[], a, rfl, ⟨fun ⟨_, hx, _⟩ => (by cases hx), fun ⟨e', he, htransport⟩ => ?_⟩⟩
    rw [hres] at he
    cases he
    rw [Error.isTransport_of_asksRetry hask] at htransport
    cases htransport
  | @again _ _ a _ _ _ _ _ _ _ _ _ _ ih =>
    obtain ⟨before, b, rfl, hb⟩ := ih
    exact ⟨a :: before, b, rfl, hb⟩

end

/-- A call that comes to no attempt fails with an error found before anything was sent. Any other
call makes attempts, each classified, and offers every retryable error, and no other, to its
retryer. It ends in a failure of the transport exactly if, at the last attempt, the body fails of a
response that is read before it is decoded. -/
theorem call_failures (hc : c.Stock shows) {r : Retryer} (hr : c.retryPolicy = .of r)
    (target : Target) (m : Metadata) (args : List Arg) (s : Session) :
    (∀ e s₁, (Binding.create c.encoder c.queryMapEncoder m args).on s = (.error (.error e), s₁) →
      (c.call target m args).on s = (.error (.error e), s₁) ∧ e.isUnsent = true ∧
      e.isTransport = false) ∧
    ∀ t t' s₁ s₂, (Binding.create c.encoder c.queryMapEncoder m args).on s = (.ok t, s₁) →
      intercepted c.interceptors t s₁ = (t', s₂) →
      (∀ e, target.apply t' = .error e →
        (c.call target m args).on s = (.error (.error e), s₂) ∧ e.isUnsent = true ∧
        e.isTransport = false) ∧
      ∀ request, target.apply t' = .ok request →
        ∃ before last, Tries c m request (c.optionsFor args) r.fresh s₂ (before ++ [last]) ((c.call target m args).on s) ∧
          (∀ a ∈ before ++ [last], a.Classified c m shows request) ∧
          ((∃ e, ((c.call target m args).on s).1 = .error (.error e) ∧ e.isTransport = true) ↔
            ∃ q msg, last.reply = .ok q ∧ c.Bare m shows q msg) := by
  constructor
  · intro e s₁ hcreate
    have hunsent : e.isUnsent = true := by
      rw [hc.queryMapEncoder] at hcreate
      exact Binding.early_create c.encoder s e s₁ hcreate
    exact ⟨call_error hcreate, hunsent, Error.isTransport_of_isUnsent hunsent⟩
  intro t t' s₁ s₂ hcreate hint
  rw [call_eq_attempts hcreate hint hr]
  constructor
  · intro e happly
    have hunsent := Target.isUnsent_of_apply happly
    refine ⟨attempts_plain ?_ (Target.asksRetry_of_apply happly), hunsent, Error.isTransport_of_isUnsent hunsent⟩
    rw [executeAndDecode, happly]
    rfl
  · intro request happly
    obtain ⟨as, htries⟩ := attempts_tries (c := c) (m := m) (c.optionsFor args) happly r.fresh s₂
    obtain ⟨before, last, rfl, hlast⟩ := htries.last hc.propagation
    refine ⟨before, last, htries, fun a ha => (htries.performed a ha).classified hc, hlast.trans ?_⟩
    exact (htries.performed last (by simp)).transport_iff hc

/-- A timeout and then a body that breaks off: the
call is tried twice, and fails with a decode error. -/
theorem call_failures_timeout :
    let c := ClientBuilder.default.build.components
    let op : Operation := ⟨"get", .abstract, [.requestLine "GET /status" true .exploded], [],
      .simple "String"⟩
    let i : Interface := .mk "Api" [] [] [] [op]
    let target := Target.fixed i "api" "http://api.example"
    let body : Body := ⟨Utf8.ofString "par", some "connection reset", none, true⟩
    let s : Session := ⟨0, 7, [fun _ => .error .timeout, fun _ => .ok ⟨.ok, none, .empty, some body, none⟩], 0,
      fun _ => false, id, []⟩
    c.Stock false ∧ c.retryPolicy = .of (.backoff .default) ∧ ∃ m s' request before last,
      DefaultDialect.dialect.Reads i op m ∧
      Tries c m request Options.default (.backoff Backoff.default.fresh) s' (before ++ [last])
        ((c.call target m []).on s) ∧
      ∃ e, ((c.call target m []).on s).1 = .error (.error e) ∧ e.isDecodeError = true ∧
        e.isTransport = false := by
  intro c op i target body s
  obtain ⟨m, t, s', hreads, hcreate, hresult⟩ := DefaultDialect.exists_of_creates
    (rfl : Dialect.allOperations i = .ok [op])
    (show DefaultDialect.creates i .plain .members [] s (fun m t =>
      !m.returnType.isResponse && (target.apply t).isOk &&
      Run.failsWith Error.isDecodeError ((c.call target m []).on s).1) = true by
        decide +kernel)
  simp only [Bool.and_eq_true, Bool.not_eq_true'] at hresult
  obtain ⟨⟨hreturn, happlied⟩, hdecoded⟩ := hresult
  have hc : c.Stock false := ⟨.off, rfl, rfl, rfl⟩
  have hpolicy : c.retryPolicy = .of (.backoff .default) := rfl
  obtain ⟨-, hcall⟩ := call_failures hc hpolicy target m [] s
  cases happly : target.apply t with
  | error e =>
    rw [happly] at happlied
    cases happlied
  | ok request =>
    obtain ⟨before, last, htries, -, hiff⟩ := (hcall t t s' s' hcreate rfl).2 request happly
    have hnever : ∀ q msg, ¬ c.Bare m false q msg := by
      rintro q msg ⟨hfirst, -⟩
      rw [readsFirst, keepsRaw, hreturn] at hfirst
      cases hfirst
    obtain ⟨e, hfails, he⟩ := Run.failsWith_iff.mp hdecoded
    refine ⟨hc, hpolicy, m, s', request, before, last, hreads, htries, e, hfails, he, ?_⟩
    by_contra htransport
    obtain ⟨q, msg, -, hbare⟩ := hiff.mp ⟨e, hfails, by simpa using htransport⟩
    exact hnever q msg hbare

/-- A raw response is put in memory, or an answer is shown, and its body breaks off: the failure
comes out bare, and the call is not tried again. -/
theorem call_fails_bare :
    let c := (ClientBuilder.build { ClientBuilder.default with logger := Logger.plain }).components
    let raw : Operation := ⟨"raw", .abstract, [.requestLine "GET /raw" true .exploded], [],
      .simple "Response"⟩
    let ping : Operation := ⟨"ping", .abstract, [.requestLine "GET /ping" true .exploded], [], .void⟩
    let api (op : Operation) : Interface := .mk "Api" [] [] [] [op]
    let target := Target.fixed (api raw) "api" "http://api.example"
    let body : Body := ⟨Utf8.ofString "par", some "connection reset", some 3, true⟩
    let reply : Reply := fun _ => .ok ⟨.ok, none, .empty, some body, none⟩
    let s : Session := ⟨0, 7, [reply, reply], 0, fun _ => false, id, []⟩
    c.Stock true ∧ c.retryPolicy = .of (.backoff .default) ∧
    (∃ m e, DefaultDialect.dialect.Reads (api raw) raw m ∧
      (((c.atLevel .none).call target m []).on s).1 = .error (.error e) ∧ e.isTransport = true) ∧
    ∃ m e, DefaultDialect.dialect.Reads (api ping) ping m ∧
      (((c.atLevel .full).call target m []).on s).1 = .error (.error e) ∧ e.isTransport = true := by
  intro c raw ping api target body reply s
  obtain ⟨m, -, -, hraw, -, hm⟩ := DefaultDialect.exists_of_creates
    (rfl : Dialect.allOperations (api raw) = .ok [raw])
    (show DefaultDialect.creates (api raw) .plain .members [] s (fun m _ =>
      Run.failsWith Error.isTransport (((c.atLevel .none).call target m []).on s).1) = true by
        decide +kernel)
  obtain ⟨n, -, -, hping, -, hn⟩ := DefaultDialect.exists_of_creates
    (rfl : Dialect.allOperations (api ping) = .ok [ping])
    (show DefaultDialect.creates (api ping) .plain .members [] s (fun m _ =>
      Run.failsWith Error.isTransport (((c.atLevel .full).call target m []).on s).1) = true by
        decide +kernel)
  obtain ⟨e, he⟩ := Run.failsWith_iff.mp hm
  obtain ⟨f, hf⟩ := Run.failsWith_iff.mp hn
  exact ⟨⟨.standard _, rfl, rfl, rfl⟩, rfl, ⟨m, e, hraw, he⟩, n, f, hping, hf⟩

end Components

end DeclarativeHttp
