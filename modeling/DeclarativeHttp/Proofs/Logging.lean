import DeclarativeHttp.Client.Basic
import DeclarativeHttp.Proofs.Alike
import DeclarativeHttp.Proofs.Attempts
import DeclarativeHttp.Proofs.Reading

/-!
# Logging changes nothing

A call is run twice, once without a log and once with one. The two runs look alike attempt by
attempt, unless everything is logged and a body comes that cannot be read: the logger reads it
first, and ends the call there.
-/

namespace DeclarativeHttp

/-! ## Bodies that cannot be read -/

/-- What is left of a call that reads such a body. -/
structure Body.Breaks (b : Body) (f : Fault) : Prop where
  unreadable : b.isReadable = false
  final : ∀ e, f = .error e → e.asksRetry = false
  fails : b.announced.getD 0 ≤ maxBuffer → ∃ msg, b.failure = some msg ∧ f = .error (.io msg)

theorem Body.breaks_toBytes {b : Body} (h : b.isReadable = false) (s : Session) :
    ∃ f t, b.toBytes.on s = (.error f, t) ∧ b.Breaks f := by
  rw [on_toBytes]
  by_cases hlong : b.Overlong
  · rw [if_pos hlong]
    exact ⟨_, s, rfl, h, fun e he => (by cases he), fun hfits => absurd hlong.2 (Nat.not_lt.mpr hfits)⟩
  · cases hfailure : b.failure with
    | none => exact absurd (isReadable_iff.mpr ⟨hlong, hfailure⟩) (Bool.eq_false_iff.mp h)
    | some msg =>
      rw [if_neg hlong, given, hfailure]
      exact ⟨_, _, rfl, h, fun e he => (by cases he; rfl), fun _ => ⟨msg, hfailure, rfl⟩⟩

/-! ## Loggers -/

namespace Logger

variable {form : String → String → List String} {key : String}

theorem seen_write (lines : List String) (s : Session) :
    ((write form key lines).run s).2.seen = s.seen := by
  refine s.seen_append fun e he => ?_
  obtain ⟨l, -, rfl⟩ := List.mem_map.mp he
  rfl

theorem standard_response (form : String → String → List String) (key : String) (level : LogLevel)
    (r : Response) (elapsed : Nat) (s : Session) :
    (∃ r' t, ((standard form).response key level r elapsed).on s = (.ok r', t) ∧ r.sealed = r'.sealed ∧
      t.seen = s.seen) ∨
    level = .full ∧ ∃ b f t, ((standard form).response key level r elapsed).on s = (.error f, t) ∧
      r.body = some b ∧ b.Breaks f ∧ t.seen = s.seen := by
  have hwritten : ((write form key (responseLines level r elapsed)).run s).2.seen = s.seen :=
    seen_write _ s
  simp only [standard]
  rw [Run.on_bind_ok (Run.on_quiet _ _)]
  generalize ((write form key (responseLines level r elapsed)).run s).2 = s₁ at hwritten ⊢
  have hend : ∀ n, ∃ r' t, ((do liftM (write form key [endLine n]); pure r : Run Response).on s₁) = (.ok r', t) ∧
      r.sealed = r'.sealed ∧ t.seen = s.seen :=
    fun n => ⟨r, _, rfl, rfl, (seen_write [endLine n] s₁).trans hwritten⟩
  cases level with
  | none => exact .inl ⟨r, s₁, rfl, rfl, hwritten⟩
  | basic => exact .inl ⟨r, s₁, rfl, rfl, hwritten⟩
  | headers => exact .inl (hend _)
  | full =>
    cases hr : r.body with
    | none => exact .inl (hend _)
    | some b =>
      have hread : (b.toBytes.on s₁).2.seen = s.seen := (b.seen_toBytes s₁).trans hwritten
      by_cases hb : b.isReadable = true
      · have hbytes := Body.on_toBytes_of_isReadable hb s₁
        rw [hbytes] at hread
        refine .inl ⟨r.setBody (some (Body.buffered b.content)), _, Run.on_bind_ok hbytes, ?_,
          (seen_write (bodyLines b.content) _).trans hread⟩
        have hsealed : b.sealed = Body.buffered b.content := by rw [Body.sealed, if_pos hb]
        simp only [Response.sealed, Response.setBody, hr, Option.map_some, hsealed]
        rfl
      · obtain ⟨f, t, hf, hbreaks⟩ := Body.breaks_toBytes (by simpa using hb) s₁
        rw [hf] at hread
        exact .inr ⟨rfl, b, f, t, Run.on_bind_error hf, rfl, hbreaks, hread⟩

end Logger

/-! ## What the rest of a call does to a session -/

/-- Nothing that was done is undone, and no reply comes twice. -/
structure Session.Extends (s t : Session) : Prop where
  outward : s.outward <+: t.outward
  replies : t.replies <:+ s.replies

namespace Session

theorem Extends.refl (s : Session) : s.Extends s := ⟨List.prefix_rfl, List.suffix_rfl⟩

theorem Extends.trans {s t u : Session} (h : s.Extends t) (h' : t.Extends u) : s.Extends u :=
  ⟨h.outward.trans h'.outward, h'.replies.trans h.replies⟩

theorem Extends.of_append {s : Session} (es : List Event) :
    s.Extends { s with journal := s.journal ++ es } := by
  refine ⟨?_, List.suffix_rfl⟩
  simp only [Session.outward, List.filter_append]
  exact List.prefix_append _ _

end Session

theorem Run.OnlyNotes.extends {α : Type} {x : Run α} (h : x.OnlyNotes) (s : Session) :
    s.Extends (x.on s).2 := by
  obtain ⟨es, hes⟩ := h s
  rw [hes]
  exact .of_append es

namespace Transport

variable {request : Request} {options : Options} {s : Session}

theorem replies_extends (request : Request) (options : Options) (s : Session) :
    s.Extends ((replies.execute request options).on s).2 := by
  cases h : s.replies with
  | nil => rw [replies_nil h]; exact .of_append _
  | cons reply rest =>
    rw [replies_cons h]
    refine ⟨(Session.Extends.of_append (s := s) [.sent request options]).outward, ?_⟩
    rw [h]
    exact List.suffix_cons reply rest

theorem replies_ok {r : Response} {t : Session}
    (h : (replies.execute request options).on s = (.ok r, t)) :
    ∃ reply, s.replies = reply :: t.replies ∧ reply request = .ok r := by
  cases hs : s.replies with
  | nil => rw [replies_nil hs] at h; cases h
  | cons reply rest =>
    rw [replies_cons hs] at h
    cases hr : reply request with
    | error e => rw [hr] at h; cases h
    | ok r' => rw [hr] at h; cases h; exact ⟨reply, rfl, hr⟩

theorem replies_alike (request : Request) (options : Options) :
    Run.Alike id (replies.execute request options) (replies.execute request options) := by
  intro s t hst
  have hreplies : s.seen.replies = t.seen.replies := by rw [hst]
  have hsent : ∀ u : Session, ({ u with journal := u.journal ++ [.sent request options] } : Session).seen =
      { u.seen with journal := u.seen.journal ++ [.sent request options] } := by
    intro u
    simp only [Session.seen, Session.outward, List.filter_append]
    rfl
  cases h : s.replies with
  | nil =>
    have ht : t.replies = [] := hreplies.symm.trans h
    rw [replies_nil h, replies_nil ht]
    simp only [Run.view, hsent, hst]
  | cons reply rest =>
    have ht : t.replies = reply :: rest := hreplies.symm.trans h
    rw [replies_cons h, replies_cons ht]
    refine Prod.ext rfl ?_
    have hseen : ({ s with journal := s.journal ++ [.sent request options] } : Session).seen =
        ({ t with journal := t.journal ++ [.sent request options] } : Session).seen := by
          rw [hsent, hsent, hst]
    exact congrArg (fun u : Session => { u with replies := rest }) hseen

end Transport

namespace Retryer

theorem judge_extends (r : Retryer) (e : Error) (s : Session) : s.Extends ((r.judge e).on s).2 := by
  obtain ⟨v, pause, h⟩ := r.judge_shape e s
  rw [h s rfl rfl rfl]
  cases pause with
  | none => exact .refl s
  | some i => exact ⟨(Session.Extends.of_append (s := s) [.slept i]).outward, List.suffix_rfl⟩

theorem judge_alike (r : Retryer) (e : Error) : Run.Alike id (r.judge e) (r.judge e) := by
  intro s t hst
  have hnow : t.seen.now = s.seen.now := by rw [hst]
  have hshare : t.seen.share = s.seen.share := by rw [hst]
  have hcut : t.seen.cutsNext = s.seen.cutsNext := by rw [hst]
  obtain ⟨v, pause, h⟩ := r.judge_shape e s
  rw [h s rfl rfl rfl, h t hnow hshare hcut]
  have hslept : ∀ (i : Nat) (u : Session), (u.afterSleep i).seen = u.seen.afterSleep i := by
    intro i u
    simp only [Session.afterSleep, Session.seen, Session.outward, List.filter_append]
    rfl
  cases pause with
  | none => exact Prod.ext rfl hst
  | some i => exact Prod.ext rfl (by rw [Run.view, Run.view]; simp only [Option.elim, hslept, hst])

end Retryer

/-! ## One attempt, with a log and without -/

namespace Components

variable (c : Components) (m : Metadata)

def atLevel (level : LogLevel) : Components := { c with logLevel := level }

/-- What the theorems ask of components: the logger writes lines of its own making, the transport
has its replies ready, and the decoders go by the bytes of a body. -/
structure Plain : Prop where
  logger : ∃ form, c.logger = Logger.standard form
  transport : c.transport = Transport.replies
  decoder : c.decoder.Transparent
  errorDecoder : c.errorDecoder.Transparent

variable {c m}

theorem Plain.seen_logged (hc : c.Plain) {x : Quiet Unit} {level : LogLevel}
    (hx : ∀ form, c.logger = Logger.standard form → ∃ key lines, x = Logger.write form key lines)
    (s : Session) :
    ((c.atLevel level).logged x s).seen = s.seen := by
  obtain ⟨form, hform⟩ := hc.logger
  obtain ⟨key, lines, rfl⟩ := hx form hform
  unfold logged
  split
  · exact Logger.seen_write lines s
  · rfl

theorem on_bufferSmall {r : Response} (h : ∀ b, r.body = some b → b.isReadable = true)
    (s : Session) :
    ∃ r' t, (bufferSmall r).on s = (.ok r', t) ∧ r'.sealed = r.sealed ∧ t.seen = s.seen := by
  unfold bufferSmall
  cases hr : r.body with
  | none => exact ⟨r, s, rfl, rfl, rfl⟩
  | some b =>
    have hseen := b.seen_toBytes s
    rw [Body.on_toBytes_of_isReadable (h b hr) s] at hseen
    dsimp only
    split
    · split
      · refine ⟨_, _, Run.on_bind_ok (Body.on_toBytes_of_isReadable (h b hr) s), ?_, hseen⟩
        have hsealed : b.sealed = Body.buffered b.content := by rw [Body.sealed, if_pos (h b hr)]
        simp only [Response.sealed, Response.setBody, hr, Option.map_some, hsealed]
        rfl
      · exact ⟨r, s, rfl, rfl, rfl⟩
    · exact ⟨r, s, rfl, rfl, rfl⟩

theorem alike_bufferSmall {r r' : Response} (h : r.sealed = r'.sealed) :
    Run.Alike Response.sealed (bufferSmall r) (bufferSmall r') := by
  have hsame : Run.Alike Response.sealed (bufferSmall r) (bufferSmall r) := by
    unfold bufferSmall
    split
    · split
      · split
        · exact (Body.alike_toBytes rfl).bind fun bs bs' hbs => Run.alike_pure (by rw [show bs = bs' from hbs])
        · exact Run.alike_pure rfl
      · exact Run.alike_pure rfl
    · exact Run.alike_pure rfl
  obtain ⟨-, rfl⟩ | ⟨b, b', hr, rfl, hb⟩ := Response.sealed_cases h
  · exact hsame
  · by_cases hreadable : b.isReadable = true
    · intro s t hst
      obtain ⟨r₁, s₁, hs, hr₁, hs₁⟩ := on_bufferSmall (r := r)
        (fun x hx => by rw [hr] at hx; cases hx; exact hreadable) s
      obtain ⟨r₂, t₁, ht, hr₂, ht₁⟩ := on_bufferSmall (r := r.setBody (some b'))
        (fun x hx => by cases hx; exact Body.isReadable_of_sealed hb hreadable) t
      simp only [Run.view, hs, ht, Except.map, hr₁, hr₂, hs₁, ht₁, hst, h]
    · obtain rfl : b' = b := Body.eq_of_sealed hb (by simpa using hreadable)
      have hback : r.setBody (some b') = r := by rw [Response.setBody, ← hr]
      rw [hback]
      exact hsame

theorem handleResponse_onlyNotes (hc : c.Plain) (r : Response) : (c.handleResponse m r).OnlyNotes :=
  handleResponse_reading Run.onlyNotes_reading hc.decoder.notes hc.errorDecoder.notes r

theorem handleResponse_alike (hc : c.Plain) {r r' : Response} (h : r.sealed = r'.sealed) :
    Run.Alike Output.sealed (c.handleResponse m r) (c.handleResponse m r') := by
  have hstatus : r'.status = r.status := by
    obtain ⟨-, rfl⟩ | ⟨b, b', -, rfl, -⟩ := Response.sealed_cases h <;> rfl
  have hresponse : ∀ q q' : Response, q.sealed = q'.sealed →
      Run.Alike Output.sealed (pure (.response q)) (pure (.response q')) :=
    fun q q' hq => Run.alike_pure (congrArg Output.response hq)
  have hdecode : Run.Alike Output.sealed (c.decode m r) (c.decode m r') := by
    rw [decode, decode, hstatus]
    exact (hc.decoder.alike r r' _ h).mapError _
  have hfail : Run.Alike Output.sealed (c.errorDecoder.decode m.configKey r >>= fun e => Run.fail e)
      (c.errorDecoder.decode m.configKey r' >>= fun e => Run.fail e) :=
    (hc.errorDecoder.alike _ r r' h).bind fun e e' he => by rw [show e = e' from he]; exact Run.alike_fail e'
  unfold handleResponse
  rw [hstatus]
  split
  · split
    · exact (alike_bufferSmall h).bind hresponse
    · exact (Run.alike_pure (f := Response.sealed) h).bind hresponse
  · split
    · split
      · exact Run.alike_pure rfl
      · exact hdecode
    · split
      · exact hdecode
      · exact hfail

section
variable {request : Request} {options : Options} {target : Target} {template : RequestTemplate}
  {level : LogLevel} {s t : Session}

theorem on_receive_error (c : Components) (m : Metadata) (request : Request) (e : Error)
    (s : Session) :
    (c.receive m request (.error e)).on s =
      if e.isTransport then (.error (.error (asRetryable request e)),
        c.logged (c.logger.ioError m.configKey c.logLevel e s.elapsed) s)
      else (.error (.error e), s) := by
  rw [receive]
  split
  · rw [Run.on_bind_ok (Run.on_get s), Run.on_bind_ok (c.on_onLevel _ s)]
    rfl
  · rfl

def labelled (request : Request) (r : Response) : Response :=
  if r.request.isSome then r else r.withRequest request

theorem body_labelled (request : Request) (r : Response) : (labelled request r).body = r.body := by
  unfold labelled
  split <;> rfl

theorem on_receive_ok (c : Components) (m : Metadata) (request : Request) (r : Response)
    (s : Session) :
    (c.receive m request (.ok r)).on s =
      if c.logLevel.isOn then
        (c.logger.response m.configKey c.logLevel (labelled request r) s.elapsed).on s
      else (.ok (labelled request r), s) := by
  rw [receive]
  split
  · exact Run.on_bind_ok (Run.on_get s)
  · rfl

theorem digest_error (hc : c.Plain) (level : LogLevel) (request : Request) (e : Error)
    (s : Session) :
    ∃ t, ((c.atLevel level).digest m request (.error (.error e))).on s =
      (.error (.error (if e.isTransport then asRetryable request e else e)), t) ∧
      t.seen = s.seen := by
  have hlogged : ((c.atLevel level).logged (c.logger.ioError m.configKey level e s.elapsed) s).seen = s.seen :=
    hc.seen_logged (fun _ h => by rw [h]; exact ⟨_, _, rfl⟩) s
  have hreceive := on_receive_error (c.atLevel level) m request e s
  split at hreceive
  · rename_i he
    exact ⟨_, Run.on_bind_error (by rw [hreceive, if_pos he]; rfl), hlogged⟩
  · rename_i he
    refine ⟨s, Run.on_bind_error ?_, rfl⟩
    rw [hreceive, if_neg he]

/-- Digested with a log, a reply comes to the same as without, unless its body cannot be read. -/
theorem digest_logged (hc : c.Plain) (level : LogLevel) (request : Request)
    (reply : Except Fault Response) (hst : s.seen = t.seen) :
    Run.view Output.sealed (((c.atLevel level).digest m request reply).on t) =
      Run.view Output.sealed (((c.atLevel .none).digest m request reply).on s) ∨
    level = .full ∧ ∃ r b f u, ((c.atLevel level).digest m request reply).on t = (.error f, u) ∧
      reply = .ok r ∧ r.body = some b ∧ b.Breaks f ∧ u.seen = t.seen := by
  rcases reply with (e | x) | r
  · obtain ⟨u, hu, hseen⟩ := digest_error (m := m) hc level request e t
    obtain ⟨v, hv, hseen'⟩ := digest_error (m := m) hc .none request e s
    left
    rw [hu, hv, Run.view, Run.view, hseen, hseen', hst]
  · exact .inl (Prod.ext rfl hst.symm)
  obtain ⟨form, hform⟩ := hc.logger
  have hquiet : ((c.atLevel .none).digest m request (.ok r)).on s =
      (c.handleResponse m (labelled request r)).on s :=
    Run.on_bind_ok (on_receive_ok (c.atLevel .none) m request r s)
  have hreceive := on_receive_ok (c.atLevel level) m request r t
  rw [hquiet]
  split at hreceive
  · rw [show (c.atLevel level).logger = Logger.standard form from hform] at hreceive
    obtain ⟨r', u, hr', hsealed, hu⟩ | ⟨hlevel, b, f, u, hf, hb, hbreaks, hu⟩ :=
      Logger.standard_response form m.configKey level (labelled request r) t.elapsed t
    · rw [digest, Run.on_bind_ok (hreceive.trans hr')]
      exact .inl ((handleResponse_alike hc hsealed s u (hst.trans hu.symm)).symm)
    · refine .inr ⟨hlevel, r, b, f, u, Run.on_bind_error (hreceive.trans hf), rfl, ?_, hbreaks, hu⟩
      rw [← hb, body_labelled]
  · rw [digest, Run.on_bind_ok hreceive]
    exact .inl ((handleResponse_alike hc rfl s t hst).symm)

theorem digest_onlyNotes (hc : c.Plain) (request : Request) (reply : Except Fault Response) :
    ((c.atLevel .none).digest m request reply).OnlyNotes := by
  rcases reply with (e | x) | r
  · refine Run.OnlyNotes.bind (fun s => ⟨[], ?_⟩) (handleResponse_onlyNotes (c := c) hc)
    rw [on_receive_error, List.append_nil]
    split <;> rfl
  · exact fun s => ⟨[], by simp [digest]⟩
  · refine Run.OnlyNotes.bind (fun s => ⟨[], ?_⟩) (handleResponse_onlyNotes (c := c) hc)
    rw [on_receive_ok, List.append_nil]
    rfl

theorem once_extends (hc : c.Plain) (s : Session) :
    s.Extends (((c.atLevel .none).executeAndDecode target m template options).on s).2 := by
  cases ht : target.apply template with
  | error e =>
    rw [executeAndDecode, ht, Run.on_bind_error (Run.on_ofExcept_error e s)]
    exact .refl s
  | ok request =>
    obtain ⟨a, rfl, ha⟩ := exists_performed (c := c.atLevel .none) (m := m) request options s
    have hsent := Transport.replies_extends request options a.start
    rw [← hc.transport] at hsent
    have hexecuted : a.start.Extends a.replied :=
      (congrArg (a.start.Extends ·.2) ha.executed).mp hsent
    have hdigested := (digest_onlyNotes (m := m) hc request a.reply).extends a.replied
    rw [ha.digested] at hdigested
    rw [executeAndDecode_eq_attempt ht ha]
    exact hexecuted.trans hdigested

/-- A call cut by its logger: the last reply it took has a body that cannot be read, it fails as the
reading does, and it did nothing but begin as the call without a log. -/
structure Cut (replies : List Reply) (quiet loud : Except Fault Output × Session) : Prop where
  broken : ∃ reply request r b f, reply :: loud.2.replies <:+ replies ∧ reply request = .ok r ∧
    r.body = some b ∧ b.Breaks f ∧ loud.1 = .error f
  outward : loud.2.outward <+: quiet.2.outward

theorem once_logged (hc : c.Plain) (hst : s.seen = t.seen) :
    Run.view Output.sealed (((c.atLevel level).executeAndDecode target m template options).on t) =
      Run.view Output.sealed (((c.atLevel .none).executeAndDecode target m template options).on s) ∨
    level = .full ∧ Cut s.replies (((c.atLevel .none).executeAndDecode target m template options).on s)
      (((c.atLevel level).executeAndDecode target m template options).on t) := by
  cases ht : target.apply template with
  | error e =>
    left
    rw [executeAndDecode, executeAndDecode, ht, Run.on_bind_error (Run.on_ofExcept_error e t),
      Run.on_bind_error (Run.on_ofExcept_error e s)]
    simp only [Run.view, hst]
  | ok request =>
    obtain ⟨a, rfl, ha⟩ := exists_performed (c := c.atLevel .none) (m := m) request options s
    obtain ⟨b, rfl, hb⟩ := exists_performed (c := c.atLevel level) (m := m) request options t
    rw [executeAndDecode_eq_attempt ht ha, executeAndDecode_eq_attempt ht hb, ← ha.digested, ← hb.digested]
    have hlogged : ((c.atLevel level).logged (c.logger.request m.configKey level request) b.start).seen =
        b.start.seen := hc.seen_logged (fun _ h => by rw [h]; exact ⟨_, _, rfl⟩) b.start
    have hreplies := Transport.replies_alike request options _ _ (hst.trans hlogged.symm)
    have hxa : (Transport.replies.execute request options).on a.start = (a.reply, a.replied) := by
      rw [← hc.transport]
      exact ha.executed
    have hxb : (Transport.replies.execute request options).on
        ((c.atLevel level).logged (c.logger.request m.configKey level request) b.start) =
          (b.reply, b.replied) := by
      rw [← hc.transport]
      exact hb.executed
    rw [hxa, hxb] at hreplies
    obtain ⟨hreply, hseen⟩ : a.reply = b.reply ∧ a.replied.seen = b.replied.seen := by
      simpa [Run.view] using hreplies
    rw [hreply] at hxa ⊢
    obtain hsame | ⟨hlevel, r, body, f, u, hf, hr, hbody, hbreaks, hu⟩ :=
      digest_logged (m := m) hc level request b.reply hseen
    · exact .inl hsame
    · rw [hf]
      have hu : u.seen = a.replied.seen := hu.trans hseen.symm
      rw [hr] at hxa
      refine .inr ⟨hlevel, ?_, ?_⟩
      · obtain ⟨reply, hreplies, hok⟩ := Transport.replies_ok hxa
        refine ⟨reply, request, r, body, f, ?_, hok, hbody, hbreaks, rfl⟩
        have hleft : u.seen.replies = a.replied.seen.replies := by rw [hu]
        have hlast : a.start.replies = reply :: u.replies :=
          hreplies.trans (congrArg (reply :: ·) hleft.symm)
        exact hlast ▸ List.suffix_rfl
      · have hextends := (digest_onlyNotes (m := m) hc request b.reply).extends a.replied
        have hdone : u.seen.journal = a.replied.seen.journal := by rw [hu]
        rw [show u.outward = a.replied.outward from hdone]
        exact hextends.outward

/-! ## The loop -/

theorem attempts_extends {once : Run Output} (honce : ∀ s : Session, s.Extends (once.on s).2)
    (r : Retryer) (s : Session) :
    (once.on s).2.Extends (((c.atLevel .none).attempts m once r).on s).2 := by
  -- on the number of attempts that are left
  induction hn : r.attemptsLeft using Nat.strongRecOn generalizing r s with
  | ind n ih =>
    cases hres : once.on s with
    | mk result t =>
      rcases result with (e | x) | o
      · cases he : e.asksRetry with
        | false => rw [attempts_plain hres he]; exact .refl t
        | true =>
          have hjudged := r.judge_extends e t
          cases hj : (r.judge e).on t with
          | mk verdict u =>
            rw [hj] at hjudged
            rcases verdict with f | (⟨r', hlt⟩ | r')
            · rw [attempts_asked hres he, Run.on_bind_error hj]
              exact hjudged
            · rw [attempts_again hres he hj]
              exact (hjudged.trans (honce u)).trans (ih _ (hn ▸ hlt) r' u rfl)
            · rw [attempts_over hres he hj]
              exact hjudged
      · rw [attempts_crash hres]; exact .refl t
      · rw [attempts_ok hres]; exact .refl t

theorem Cut.after {replies : List Reply} {u v : Session}
    {quiet loud : Except Fault Output × Session} (h : Cut u.replies quiet loud) (hu : s.Extends u)
    (hr : s.replies = replies) (hv : quiet.2.Extends v) (a : Except Fault Output) :
    Cut replies (a, v) loud := by
  obtain ⟨⟨reply, request, r, b, f, hlast, hreply⟩, hout⟩ := h
  exact ⟨⟨reply, request, r, b, f, hr ▸ hlast.trans hu.replies, hreply⟩, hout.trans hv.outward⟩

theorem attempts_ends {once : Run Output} {f : Fault} (h : once.on s = (.error f, t))
    (hf : ∀ e, f = .error e → e.asksRetry = false) (r : Retryer) :
    (c.attempts m once r).on s = (.error f, t) := by
  cases f with
  | error e => exact attempts_plain h (hf e rfl)
  | crash x => exact attempts_crash h

theorem attempts_logged (hc : c.Plain) (level : LogLevel) {quiet loud : Run Output}
    (hextends : ∀ s : Session, s.Extends (quiet.on s).2)
    (honce : ∀ s t : Session, s.seen = t.seen →
      Run.view Output.sealed (loud.on t) = Run.view Output.sealed (quiet.on s) ∨
      level = .full ∧ Cut s.replies (quiet.on s) (loud.on t)) (r : Retryer) (hst :
      s.seen = t.seen) :
    Run.view Output.sealed (((c.atLevel level).attempts m loud r).on t) =
      Run.view Output.sealed (((c.atLevel .none).attempts m quiet r).on s) ∨
    level = .full ∧ Cut s.replies (((c.atLevel .none).attempts m quiet r).on s)
      (((c.atLevel level).attempts m loud r).on t) := by
  -- on the number of attempts that are left
  induction hn : r.attemptsLeft using Nat.strongRecOn generalizing r s t with
  | ind n ih =>
    obtain hsame | ⟨hlevel, hcut⟩ := honce s t hst
    · obtain ⟨t', s', hseen, ⟨e | x, hl, hq⟩ | ⟨o', o, ho, hl, hq⟩⟩ := Run.view_cases hsame
      · cases he : e.asksRetry with
        | false =>
          rw [attempts_plain hq he, attempts_plain hl he]
          exact .inl (Prod.ext rfl hseen)
        | true =>
          obtain ⟨u, v, hseen', ⟨f, hjq, hjl⟩ | ⟨verdict, _, rfl, hjq, hjl⟩⟩ :=
            Run.view_cases (r.judge_alike e s' t' hseen.symm)
          · rw [attempts_asked hq he, attempts_asked hl he, Run.on_bind_error hjq, Run.on_bind_error hjl]
            exact .inl (Prod.ext rfl hseen'.symm)
          rcases verdict with ⟨r', hlt⟩ | r'
          · rw [attempts_again hq he hjq, attempts_again hl he hjl]
            have hlogged : ((c.atLevel level).logged (c.logger.retry m.configKey level) v).seen =
                v.seen :=
              hc.seen_logged (fun _ h => by rw [h]; exact ⟨_, _, rfl⟩) v
            have hstep := hextends s
            have hjudged := r.judge_extends e s'
            rw [hq] at hstep
            rw [hjq] at hjudged
            obtain hsame | ⟨hlevel, hcut⟩ := ih _ (hn ▸ hlt) r' (hseen'.trans hlogged.symm) rfl
            · exact .inl hsame
            · exact .inr ⟨hlevel, hcut.after (hstep.trans hjudged) rfl (.refl _) _⟩
          · rw [attempts_over hq he hjq, attempts_over hl he hjl]
            exact .inl (Prod.ext rfl hseen'.symm)
      · rw [attempts_crash hq, attempts_crash hl]
        exact .inl (Prod.ext rfl hseen)
      · rw [attempts_ok hq, attempts_ok hl]
        exact .inl (Prod.ext (congrArg Except.ok ho) hseen)
    · obtain ⟨⟨reply, request, r', b, f, hlast, hreply, hbody, hbreaks, hf⟩, hout⟩ := id hcut
      have hloud := attempts_ends (c := c.atLevel level) (m := m) (Prod.ext hf rfl) hbreaks.final r
      refine .inr ⟨hlevel, ?_⟩
      rw [hloud, ← hf]
      exact hcut.after (.refl s) rfl (attempts_extends hextends r s) _

/-- A call comes to the same with and without a log, unless everything is logged and a body comes
that cannot be read: such a call may be cut. -/
theorem call_logged (hc : c.Plain) {r : Retryer} (hr : c.retryPolicy = .of r) (target : Target)
    (m : Metadata) (args : List Arg) (s : Session) (level : LogLevel) :
    Run.view Output.sealed (((c.atLevel level).call target m args).on s) =
      Run.view Output.sealed (((c.atLevel .none).call target m args).on s) ∨
    level = .full ∧ ∃ t s', (Binding.create c.encoder c.queryMapEncoder m args).on s = (.ok t, s') ∧
      Cut s'.replies (((c.atLevel .none).call target m args).on s) (((c.atLevel level).call target m args).on s) := by
  cases hcreate : (Binding.create c.encoder c.queryMapEncoder m args).on s with
  | mk created s' =>
  cases created with
  | error f =>
    rw [call_error (c := c.atLevel level) hcreate, call_error (c := c.atLevel .none) hcreate]
    exact .inl rfl
  | ok t =>
    cases hint : intercepted c.interceptors t s' with
    | mk t' u =>
    have hcall : ∀ l, ((c.atLevel l).call target m args).on s = ((c.atLevel l).attempts m
        ((c.atLevel l).executeAndDecode target m t' (c.optionsFor args)) r.fresh).on u :=
      fun l => call_eq_attempts (c := c.atLevel l) hcreate hint hr
    rw [hcall, hcall]
    obtain h | ⟨hlevel, hcut⟩ :=
      attempts_logged (m := m) (s := u) hc level (once_extends hc) (fun _ _ => once_logged hc) r.fresh rfl
    · exact .inl h
    · have hreplies := replies_intercepted c.interceptors t s'
      rw [hint] at hreplies
      exact .inr ⟨hlevel, t, s', rfl, hreplies ▸ hcut⟩

/-- A server that is unavailable at first: showing headers leaves the call as it is. -/
theorem call_logged_unavailable :
    let c := (ClientBuilder.build { ClientBuilder.default with logger := Logger.plain }).components
    let target := Target.fixed (.mk "Api" [] [] [] []) "api" "http://localhost"
    let m := (Metadata.new "Api#get()" "get" (.simple "String") []).updateTemplate fun t =>
      (t.setMethod .get).appendUri "/status".toList
    let body : Body := ⟨Utf8.ofString "later", none, some 5, true⟩
    let wait := HeaderMap.empty.append "retry-after" (Utf8.ofString "1")
    let s : Session := ⟨0, 7, [fun _ => .ok ⟨⟨503, by decide⟩, none, wait, some body, none⟩,
      fun _ => .ok ⟨.ok, none, .empty, some body, none⟩], 0, fun _ => false, id, []⟩
    c.Plain ∧ c.retryPolicy = .of (.backoff .default) ∧
    Run.view Output.sealed (((c.atLevel .headers).call target m []).on s) =
      Run.view Output.sealed (((c.atLevel .none).call target m []).on s) := by
  intro c target m body wait s
  have hc : c.Plain := ⟨⟨_, rfl⟩, rfl, Decoder.Stock.plain.transparent, ErrorDecoder.plain_transparent⟩
  have hpolicy : c.retryPolicy = .of (.backoff .default) := rfl
  obtain h | ⟨hlevel, -⟩ := call_logged hc hpolicy target m [] s .headers
  · exact ⟨hc, hpolicy, h⟩
  · cases hlevel

/-- The body of an answer that is not looked at breaks off: showing it fails the call. -/
theorem call_logged_breaks :
    let c := (ClientBuilder.build { ClientBuilder.default with logger := Logger.plain }).components
    let op : Operation := ⟨"ping", .abstract, [.requestLine "GET /ping" true .exploded], [], .void⟩
    let i : Interface := .mk "Api" [] [] [] [op]
    let target := Target.fixed i "api" "http://api.example"
    let body : Body := ⟨Utf8.ofString "par", some "connection reset", none, true⟩
    let s : Session := ⟨0, 7, [fun _ => .ok ⟨.ok, none, .empty, some body, none⟩], 0, fun _ => false, id, []⟩
    c.Plain ∧ c.retryPolicy = .of (.backoff .default) ∧
    ∃ m o e, DefaultDialect.dialect.Reads i op m ∧
      (((c.atLevel .none).call target m []).on s).1 = .ok o ∧ o.isEmpty = true ∧
      (((c.atLevel .full).call target m []).on s).1 = .error (.error e) ∧
      e.message = "I/O error: connection reset" := by
  intro c op i target body s
  obtain ⟨m, -, -, hreads, -, hdiffer⟩ := DefaultDialect.exists_of_creates
    (rfl : Dialect.allOperations i = .ok [op])
    (show DefaultDialect.creates i .plain .members [] s (fun m _ =>
      (((c.atLevel .none).call target m []).on s).1.toOption.any Output.isEmpty &&
        Run.failsWith (fun e => e.message == "I/O error: connection reset")
          (((c.atLevel .full).call target m []).on s).1) = true by
        decide +kernel)
  obtain ⟨hempty, hfailed⟩ := Bool.and_eq_true_iff.mp hdiffer
  have hc : c.Plain := ⟨⟨_, rfl⟩, rfl, Decoder.Stock.plain.transparent, ErrorDecoder.plain_transparent⟩
  obtain ⟨e, hloud, hmessage⟩ := Run.failsWith_iff.mp hfailed
  cases hquiet : (((c.atLevel .none).call target m []).on s).1 with
  | error f =>
    rw [hquiet] at hempty
    cases hempty
  | ok o =>
    rw [hquiet] at hempty
    exact ⟨hc, rfl, m, o, e, hreads, hquiet, hempty, hloud, beq_iff_eq.mp hmessage⟩

end

end Components

end DeclarativeHttp
