import DeclarativeHttp.Proofs.Lengths
import DeclarativeHttp.Proofs.Stability
import Mathlib.Data.Nat.Digits.Defs

/-!
# When to come back

What a `Retry-After` header names is said by a grammar of its own: a delay of some seconds, or else
a date. The decoder of errors reads a response as retryable just if its header names an instant, or
names a delay with a plus sign in front, which the grammar does not have.
-/

namespace DeclarativeHttp

namespace RetryAfter

/-! ## The grammar -/

/-- The text is some digits, and perhaps a fraction of nothing but zeros behind them. -/
structure IsDelay (digits text : List Char) : Prop where
  digits_ne_nil : digits ≠ []
  isDigit : ∀ c ∈ digits, c.isDigit = true
  spelled : text = digits ∨ ∃ k, text = digits ++ '.' :: List.replicate k '0'

def number (digits : List Char) : Nat :=
  Nat.ofDigits 10 (digits.reverse.map fun c => c.toNat - 0x30)

def IsShown (t : Instant) : Prop := -2 ^ 63 ≤ t / second ∧ t / second ≤ lastSecond

def Delays (now : Instant) (text : List Char) (t : Instant) : Prop :=
  ∃ digits, IsDelay digits text ∧ number digits < 2 ^ 64 ∧
    t = now + (number digits * second : Nat) ∧ IsShown t

/-- The text is no delay, but a date, which is that of the instant. -/
def Dates (text : List Char) (t : Instant) : Prop :=
  (∀ digits, ¬ IsDelay digits text) ∧ ∃ d, HttpDate.parse? text = some d ∧
    t = (d.seconds * second : Nat)

def Names (now : Instant) (text : List Char) (t : Instant) : Prop :=
  Delays now text t ∨ Dates text t

def DelaysSigned (now : Instant) (text : List Char) (t : Instant) : Prop :=
  ∃ rest, text = '+' :: rest ∧ Delays now rest t

/-! ## Numbers -/

theorem foldl_eq_number (digits : List Char) :
    digits.foldl (fun n c => n * 10 + (c.toNat - 0x30)) 0 = number digits := by
  rw [number, Nat.ofDigits_eq_foldr, List.foldr_map, List.foldr_reverse]
  congr 1
  funext n c
  simp only [Nat.cast_id]
  omega

theorem not_mem_of_isDigit {digits : List Char} {c : Char} (h : ∀ c ∈ digits, c.isDigit = true)
    (hc : c.isDigit = false) : c ∉ digits := by
  intro hmem
  rw [h c hmem] at hc
  cases hc

def IsSign (sign : List Char) : Prop := sign = [] ∨ sign = ['+']

theorem digits_eq_some_iff {digits : List Char} {n : Nat} :
    (if (digits.isEmpty || !digits.all Char.isDigit) = true then none
      else if digits.foldl (fun n c => n * 10 + (c.toNat - 0x30)) 0 < UInt64.size then
        some (digits.foldl (fun n c => n * 10 + (c.toNat - 0x30)) 0) else none) = some n ↔
      digits ≠ [] ∧ (∀ c ∈ digits, c.isDigit = true) ∧ number digits = n ∧ n < 2 ^ 64 := by
  rw [foldl_eq_number, show UInt64.size = 2 ^ 64 from rfl]
  by_cases hread : digits ≠ [] ∧ ∀ c ∈ digits, c.isDigit = true
  · rw [if_neg (by simpa using hread)]
    by_cases hfits : number digits < 2 ^ 64
    · rw [if_pos hfits, Option.some.injEq]
      exact ⟨fun h => ⟨hread.1, hread.2, h, h ▸ hfits⟩, fun h => h.2.2.1⟩
    · rw [if_neg hfits]
      exact ⟨fun h => (by cases h), fun ⟨_, _, hn, hlt⟩ => absurd (hn ▸ hlt) hfits⟩
  · rw [if_pos (by by_contra h; exact hread (by simpa using h))]
    exact ⟨fun h => (by cases h), fun ⟨hne, hall, _⟩ => absurd ⟨hne, hall⟩ hread⟩

theorem wholeSeconds?_eq_some_iff {s : List Char} {n : Nat} : wholeSeconds? s = some n ↔
    ∃ sign digits, IsSign sign ∧ s = sign ++ digits ∧ digits ≠ [] ∧
      (∀ c ∈ digits, c.isDigit = true) ∧
      number digits = n ∧ n < 2 ^ 64 := by
  by_cases hsign : ∃ rest, s = '+' :: rest
  · obtain ⟨rest, rfl⟩ := hsign
    refine Iff.trans digits_eq_some_iff ⟨fun h => ⟨['+'], rest, .inr rfl, rfl, h⟩, ?_⟩
    rintro ⟨sign, digits, rfl | rfl, hs, hdigits⟩
    · cases hs
      cases hdigits.2.1 '+' List.mem_cons_self
    · cases hs
      exact hdigits
  · have hs : wholeSeconds? s = if (s.isEmpty || !s.all Char.isDigit) = true then none
        else if s.foldl (fun n c => n * 10 + (c.toNat - 0x30)) 0 < UInt64.size then
          some (s.foldl (fun n c => n * 10 + (c.toNat - 0x30)) 0) else none := by
      unfold wholeSeconds?
      split
      · exact absurd ⟨_, rfl⟩ hsign
      · rfl
    rw [hs]
    refine Iff.trans digits_eq_some_iff ⟨fun h => ⟨[], s, .inl rfl, rfl, h⟩, ?_⟩
    rintro ⟨sign, digits, rfl | rfl, rfl, hdigits⟩
    · exact hdigits
    · exact absurd ⟨_, rfl⟩ hsign

theorem delaySeconds?_eq_some_iff {text : List Char} {n : Nat} : delaySeconds? text = some n ↔
    ∃ sign rest digits, IsSign sign ∧ text = sign ++ rest ∧ IsDelay digits rest ∧
      number digits = n ∧ n < 2 ^ 64 := by
  unfold delaySeconds?
  constructor
  · intro h
    split at h
    · rename_i whole fraction hsplit
      split at h
      · rename_i hzeros
        obtain ⟨sign, digits, hsign, rfl, hne, hdigits, hn⟩ := wholeSeconds?_eq_some_iff.mp h
        have hfraction : fraction = List.replicate fraction.length '0' :=
          List.eq_replicate_iff.mpr ⟨rfl, by simpa using hzeros⟩
        refine ⟨sign, digits ++ '.' :: fraction, digits, hsign, ?_, ⟨hne, hdigits, .inr ⟨fraction.length, ?_⟩⟩, hn⟩
        · rw [Text.splitFirst_eq hsplit, List.append_assoc]
        · rw [← hfraction]
      · cases h
    · obtain ⟨sign, digits, hsign, htext, hne, hdigits, hn⟩ := wholeSeconds?_eq_some_iff.mp h
      exact ⟨sign, digits, digits, hsign, htext, ⟨hne, hdigits, .inl rfl⟩, hn⟩
  · rintro ⟨sign, rest, digits, hsign, rfl, ⟨hne, hdigits, hspelled⟩, hn⟩
    have hwhole : wholeSeconds? (sign ++ digits) = some n :=
      wholeSeconds?_eq_some_iff.mpr ⟨sign, digits, hsign, rfl, hne, hdigits, hn⟩
    -- the text is split at the point of the fraction, which is the first one
    have hdot : '.' ∉ sign ++ digits := by
      rw [List.mem_append, not_or]
      refine ⟨?_, not_mem_of_isDigit hdigits rfl⟩
      obtain rfl | rfl := hsign <;> decide
    obtain rfl | ⟨k, rfl⟩ := hspelled
    · have hnone := Text.splitFirst_append_left hdot []
      rw [List.append_nil] at hnone
      rw [hnone]
      exact hwhole
    · rw [← List.append_assoc, Text.splitFirst_append hdot]
      simp [hwhole]

/-! ## Dates -/

theorem wordIndex?_eq_none {words : List (List Char)}
    (h : ∀ w ∈ words, w.head?.any Char.isUpper = true) {c : Char} (hc : c.isUpper = false)
    (r : List Char) : HttpDate.wordIndex? words (c :: r) = none := by
  induction words with
  | nil => rfl
  | cons w words ih =>
    have hhead := h w List.mem_cons_self
    rw [HttpDate.wordIndex?]
    cases w with
    | nil => cases hhead
    | cons d w =>
      have hne : d ≠ c := by
        rintro rfl
        rw [show d.isUpper = true from hhead] at hc
        cases hc
      rw [List.isPrefixOf?, if_neg (by simpa using hne), ih fun w hw => h w (List.mem_cons_of_mem _ hw)]
      rfl

theorem date_eq_none {c : Char} (hc : c.isUpper = false) (r : List Char) :
    HttpDate.parse? (c :: r) = none := by
  have hshort : HttpDate.shortWeekday? (c :: r) = none := wordIndex?_eq_none (by decide) hc r
  have hlong : HttpDate.wordIndex? (HttpDate.weekdays.map String.toList) (c :: r) = none :=
    wordIndex?_eq_none (by decide) hc r
  simp [HttpDate.parse?, HttpDate.fixed?, HttpDate.dashed?, HttpDate.plain?, hshort, hlong]

theorem IsDelay.head {digits text : List Char} (h : IsDelay digits text) :
    ∃ c r, text = c :: r ∧ c.isDigit = true := by
  obtain ⟨hne, hdigits, hspelled⟩ := h
  obtain ⟨c, r, rfl⟩ := List.exists_cons_of_ne_nil hne
  have hc := hdigits c List.mem_cons_self
  obtain rfl | ⟨k, rfl⟩ := hspelled
  · exact ⟨c, r, rfl, hc⟩
  · exact ⟨c, _, rfl, hc⟩

theorem isUpper_of_isDigit {c : Char} (h : c.isDigit = true) : c.isUpper = false := by
  have hhigh : c.val ≤ '9'.val := of_decide_eq_true (Bool.and_eq_true_iff.mp h).2
  exact decide_eq_false fun hupper => absurd (UInt32.le_trans hupper.1 hhigh) (by decide)

/-! ## Instants -/

theorem later?_eq_some_iff {now t : Instant} (hnow : IsShown now) {n : Nat} :
    later? now n = some t ↔ t = now + (n * second : Nat) ∧ IsShown t := by
  have hseconds : (now + (n * second : Nat)) / second = now / second + n := by
    rw [Nat.cast_mul]
    exact Int.add_mul_ediv_right now n (by decide)
  have hshown : IsShown (now + (n * second : Nat)) ↔ now / second + n ≤ lastSecond := by
    rw [IsShown, hseconds]
    exact and_iff_right (Int.le_trans hnow.1 (Int.le_add_of_nonneg_right (Int.natCast_nonneg n)))
  rw [later?, ← Nat.cast_mul]
  constructor
  · intro h
    split at h
    · rename_i hle
      cases h
      exact ⟨rfl, hshown.mpr hle⟩
    · cases h
  · rintro ⟨rfl, ht⟩
    rw [if_pos (hshown.mp ht)]

theorem delays_iff {now t : Instant} (hnow : IsShown now) {text : List Char} :
    Delays now text t ∨ DelaysSigned now text t ↔
    ∃ n, delaySeconds? text = some n ∧ later? now n = some t := by
  simp only [delaySeconds?_eq_some_iff, later?_eq_some_iff hnow]
  constructor
  · rintro (⟨digits, hdelay, hfits, ht⟩ | ⟨rest, rfl, digits, hdelay, hfits, ht⟩)
    · exact ⟨_, ⟨[], text, digits, .inl rfl, rfl, hdelay, rfl, hfits⟩, ht⟩
    · exact ⟨_, ⟨['+'], rest, digits, .inr rfl, rfl, hdelay, rfl, hfits⟩, ht⟩
  · rintro ⟨_, ⟨sign, rest, digits, rfl | rfl, rfl, hdelay, rfl, hfits⟩, ht⟩
    · exact .inl ⟨digits, hdelay, hfits, ht⟩
    · exact .inr ⟨rest, rfl, digits, hdelay, hfits, ht⟩

theorem dates_iff {text : List Char} {t : Instant} :
    Dates text t ↔ ∃ d, HttpDate.parse? text = some d ∧ t = (d.seconds * second : Nat) := by
  refine ⟨fun h => h.2, fun ⟨d, hd, ht⟩ => ⟨fun digits hdelay => ?_, d, hd, ht⟩⟩
  obtain ⟨c, r, rfl, hc⟩ := hdelay.head
  rw [date_eq_none (isUpper_of_isDigit hc) r] at hd
  cases hd

theorem not_dates {text : List Char} {n : Nat} (h : delaySeconds? text = some n) (t : Instant) :
    ¬ Dates text t := by
  rintro ⟨hno, d, hd, -⟩
  obtain ⟨sign, rest, digits, rfl | rfl, rfl, hdelay, -⟩ := delaySeconds?_eq_some_iff.mp h
  · exact hno digits hdelay
  · rw [show ['+'] ++ rest = '+' :: rest from rfl, date_eq_none rfl rest] at hd
    cases hd

/-- An instant is read off a value if its grammar
names it, or would without a plus sign in front. -/
theorem instant?_eq_some_iff {now t : Instant} (hnow : IsShown now) {value : List Char} :
    instant? now value = some t ↔
      Names now (Text.trim value) t ∨ DelaysSigned now (Text.trim value) t := by
  rw [Names, or_right_comm, delays_iff hnow, instant?]
  cases hseconds : delaySeconds? (Text.trim value) with
  | some n =>
    rw [or_iff_left (not_dates hseconds t)]
    simp
  | none =>
    rw [dates_iff, or_iff_right (by simp), Option.map_eq_some_iff]
    simp only [eq_comm]

/-! ## Headers -/

/-- The text of the first value of a header, of visible characters, spaces and tabs. -/
def FirstValue (name : String) (h : HeaderMap) (text : List Char) : Prop :=
  ∃ value rest, h.entries.get? id (Text.lower name) = some (value :: rest) ∧
    (∀ b ∈ value, 0x20 ≤ b ∧ b < 0x7F ∨ b = 0x09) ∧ text = value.map fun b => Char.ofNat b.toNat

theorem text?_eq_some_iff {name : String} {h : HeaderMap} {v : String} :
    h.text? name = some v ↔ FirstValue name h v.toList := by
  have hvalue : ∀ value : Bytes, HeaderMap.valueText? value = some v ↔
      (∀ b ∈ value, 0x20 ≤ b ∧ b < 0x7F ∨ b = 0x09) ∧
        v.toList = value.map fun b => Char.ofNat b.toNat := by
    intro value
    have hall : value.all HeaderMap.isShown = true ↔
        ∀ b ∈ value, 0x20 ≤ b ∧ b < 0x7F ∨ b = 0x09 := by
      simp [HeaderMap.isShown]
    rw [HeaderMap.valueText?, ← hall]
    split
    · rename_i hshown
      rw [Option.some.injEq, and_iff_right hshown]
      exact ⟨fun h => by rw [← h, String.toList_ofList], fun h => by rw [← h, String.ofList_toList]⟩
    · rename_i hhidden
      exact ⟨fun h => (by cases h), fun h => absurd h.1 hhidden⟩
  unfold HeaderMap.text? FirstValue
  cases h.entries.get? id (Text.lower name) with
  | none => simp
  | some values =>
    cases values with
    | nil => simp
    | cons value rest => simp [hvalue]

theorem ofHeaders_eq_some_iff {now t : Instant} (hnow : IsShown now) {h : HeaderMap} :
    ofHeaders now h = some t ↔
    ∃ text, FirstValue "retry-after" h text ∧
      (Names now (Text.trim text) t ∨ DelaysSigned now (Text.trim text) t) := by
  rw [ofHeaders, Option.bind_eq_some_iff]
  constructor
  · rintro ⟨v, hv, ht⟩
    exact ⟨v.toList, text?_eq_some_iff.mp hv, (instant?_eq_some_iff hnow).mp ht⟩
  · rintro ⟨text, hvalue, ht⟩
    refine ⟨String.ofList text, text?_eq_some_iff.mpr ?_, (instant?_eq_some_iff hnow).mpr ?_⟩
    · rwa [String.toList_ofList]
    · rwa [String.toList_ofList]

theorem FirstValue.unique {name : String} {h : HeaderMap} {text text' : List Char}
    (ht : FirstValue name h text) (ht' : FirstValue name h text') : text = text' := by
  obtain ⟨value, rest, hget, -, rfl⟩ := ht
  obtain ⟨value', rest', hget', -, rfl⟩ := ht'
  rw [hget] at hget'
  cases hget'
  rfl

theorem not_names_of_signed {now t t' : Instant} {text : List Char} (h : DelaysSigned now text t) :
    ¬ Names now text t' := by
  obtain ⟨rest, rfl, -⟩ := h
  rintro (⟨digits, hdelay, -⟩ | ⟨-, d, hd, -⟩)
  · obtain ⟨c, r, hc, hdigit⟩ := hdelay.head
    cases hc
    cases hdigit
  · rw [date_eq_none rfl rest] at hd
    cases hd

end RetryAfter

/-! ## Responses -/

namespace Response

/-- The text of the body, which is empty if it cannot be read. -/
def givenText (r : Response) : String :=
  match r.body.map Body.given with
  | some (.ok bs) => Utf8.toStringLossy bs
  | some (.error _) | none => ""

def failure (key : String) (r : Response) : Error :=
  .http r.status r.reason (r.request.elim .get (·.method)) (r.request.elim key (·.url.text)) r.givenText r.headers

def comeBack (key : String) (t : Instant) (r : Response) : Error :=
  .retryable (r.failure key).message (r.request.elim .get (·.method)) (some t) (some (r.failure key))

def Names (now t : Instant) (r : Response) : Prop :=
  ∃ text, RetryAfter.FirstValue "retry-after" r.headers text ∧
    RetryAfter.Names now (Text.trim text) t

def NamesSigned (now t : Instant) (r : Response) : Prop :=
  ∃ text, RetryAfter.FirstValue "retry-after" r.headers text ∧
    RetryAfter.DelaysSigned now (Text.trim text) t

variable {r : Response}

theorem not_names_of_signed {now t : Instant} (h : r.NamesSigned now t) (t' : Instant) :
    ¬ r.Names now t' := by
  rintro ⟨text, hvalue, hnames⟩
  obtain ⟨text', hvalue', hsigned⟩ := h
  rw [hvalue.unique hvalue'] at hnames
  exact RetryAfter.not_names_of_signed hsigned hnames

theorem on_readText_of_overlong (h : r.Overlong) (s : Session) :
    r.readText.on s = (.error (.crash .bufferTooLong), s) := by
  obtain ⟨b, hb, hlong⟩ := h
  unfold readText
  rw [hb]
  exact Run.on_bind_error (by rw [Body.on_toBytes, if_pos hlong])

theorem on_attempt_readText (h : ¬ r.Overlong) (s : Session) :
    ∃ text s', (Run.attempt r.readText).on s = (.ok text, s') ∧
    r.givenText = match text with
      | .ok text => text
      | .error _ => "" := by
  unfold readText givenText
  cases hr : r.body with
  | none => exact ⟨.ok "", s, rfl, rfl⟩
  | some b =>
    have hread := b.on_toBytes s
    rw [if_neg fun hlong => h ⟨b, hr, hlong⟩] at hread
    cases hfailure : b.failure with
    | none =>
      have hgiven : b.given = .ok b.content := by rw [Body.given, hfailure]
      rw [hgiven] at hread
      refine ⟨.ok (Utf8.toStringLossy b.content), b.afterReading s, Run.on_attempt_ok (Run.on_bind_ok hread), ?_⟩
      rw [Option.map_some, hgiven]
    | some msg =>
      have hgiven : b.given = .error (.error (.io msg)) := by rw [Body.given, hfailure]
      rw [hgiven] at hread
      refine ⟨.error (.io msg), b.afterReading s, Run.on_attempt_error (Run.on_bind_error hread), ?_⟩
      rw [Option.map_some, hgiven]

end Response

namespace ErrorDecoder

variable {key : String} {r : Response} {s : Session}

theorem plain_of_overlong (h : r.Overlong) :
    (plain.decode key r).on s = (.error (.crash .bufferTooLong), s) := by
  rw [plain, Run.on_bind_ok (Run.on_clock s), Run.on_bind_error (Run.on_attempt_crash (r.on_readText_of_overlong h s))]

theorem plain_of_not_overlong (h : ¬ r.Overlong) : ((plain.decode key r).on s).1 =
    .ok ((RetryAfter.ofHeaders s.now r.headers).elim (r.failure key) fun t => r.comeBack key t) := by
  obtain ⟨text, s', htext, hgiven⟩ := r.on_attempt_readText h s
  simp only [plain, Run.on_bind_ok (Run.on_clock s), Run.on_bind_ok htext, Response.comeBack,
    Response.failure, hgiven]
  cases r.request <;> cases RetryAfter.ofHeaders s.now r.headers <;> rfl

/-- Whatever can be read becomes an error with the status and the text of the response. It asks to
come back just at an instant that the header names, or would name without a plus sign in front, and
is plain if there is none; so the grammar of the header decides, unless there is such a sign. What
is too long to be read crashes. -/
theorem plain_decode (key : String) (r : Response) (hnow : RetryAfter.IsShown s.now) :
    (r.Overlong → ((plain.decode key r).on s).1 = .error (.crash .bufferTooLong)) ∧
    (¬ r.Overlong → ∃ e, ((plain.decode key r).on s).1 = .ok e ∧ e.status? = some r.status ∧
      e.raw? = some r.givenText ∧
      (∀ t, e = r.comeBack key t ↔ r.Names s.now t ∨ r.NamesSigned s.now t) ∧
      (e = r.failure key ↔ ∀ t, ¬ r.Names s.now t ∧ ¬ r.NamesSigned s.now t) ∧
      ((∀ t, e = r.comeBack key t ↔ r.Names s.now t) ↔ ∀ t, ¬ r.NamesSigned s.now t)) := by
  refine ⟨fun h => by rw [plain_of_overlong h], fun h => ⟨_, plain_of_not_overlong h, ?_⟩⟩
  have hnamed : ∀ t, RetryAfter.ofHeaders s.now r.headers = some t ↔
      r.Names s.now t ∨ r.NamesSigned s.now t := by
    intro t
    rw [RetryAfter.ofHeaders_eq_some_iff hnow]
    simp only [and_or_left, exists_or]
    rfl
  generalize RetryAfter.ofHeaders s.now r.headers = instant at hnamed ⊢
  have hcomes : ∀ t, instant.elim (r.failure key) (fun t => r.comeBack key t) = r.comeBack key t ↔
      instant = some t := by
    intro t
    cases instant with
    | none => exact ⟨fun h => (by cases h), fun h => (by cases h)⟩
    | some t' => exact ⟨fun h => (by cases h; rfl), fun h => (by cases h; rfl)⟩
  have hplain : instant.elim (r.failure key) (fun t => r.comeBack key t) = r.failure key ↔
      instant = none := by
    cases instant with
    | none => exact ⟨fun _ => rfl, fun _ => rfl⟩
    | some t => exact ⟨fun h => (by cases h), fun h => (by cases h)⟩
  refine ⟨?_, ?_, fun t => (hcomes t).trans (hnamed t), ?_, ?_⟩
  · cases instant <;> rfl
  · cases instant <;> rfl
  · rw [hplain, Option.eq_none_iff_forall_ne_some]
    exact forall_congr' fun t => (not_congr (hnamed t)).trans not_or
  · simp only [hcomes, hnamed]
    refine ⟨fun h t hsigned => ?_, fun h t => or_iff_left (h t)⟩
    exact r.not_names_of_signed hsigned t ((h t).mp (.inr hsigned))

/-- A server that is busy for a minute. -/
theorem plain_decode_busy :
    let r : Response := ⟨⟨503, by decide⟩, none, HeaderMap.empty.append "retry-after" (Utf8.ofString "60"),
      some ⟨Utf8.ofString "busy", none, some 4, true⟩, none⟩
    let s : Session := ⟨1000 * RetryAfter.second, 0, [], 0, fun _ => false, id, []⟩
    RetryAfter.IsShown s.now ∧ ¬ r.Overlong ∧
      ((plain.decode "Api#get()" r).on s).1 = .ok (r.comeBack "Api#get()" (1060 * RetryAfter.second)) := by
  intro r s
  have hnow : RetryAfter.IsShown s.now := by unfold RetryAfter.IsShown; decide
  have hshort : ¬ r.Overlong := by
    rintro ⟨b, hb, hlong⟩
    cases hb
    exact absurd hlong (by decide)
  have hnames : r.Names s.now (1060 * RetryAfter.second) :=
    ⟨['6', '0'], ⟨Utf8.ofString "60", [], rfl, by decide +kernel, rfl⟩,
      .inl ⟨['6', '0'], ⟨by decide, List.all_eq_true.mp rfl, .inl rfl⟩, by decide, rfl, by unfold RetryAfter.IsShown; decide⟩⟩
  obtain ⟨e, he, -, -, hcomes, -⟩ := (plain_decode "Api#get()" r hnow).2 hshort
  exact ⟨hnow, hshort, by rw [he, (hcomes _).mpr (.inl hnames)]⟩

/-- A plus sign does not keep a delay from being one, though its grammar has none. -/
theorem plain_decode_signed :
    let r : Response := ⟨⟨503, by decide⟩, none, HeaderMap.empty.append "retry-after" (Utf8.ofString "+60"),
      some ⟨Utf8.ofString "busy", none, some 4, true⟩, none⟩
    let s : Session := ⟨1000 * RetryAfter.second, 0, [], 0, fun _ => false, id, []⟩
    ((plain.decode "Api#get()" r).on s).1 = .ok (r.comeBack "Api#get()" (1060 * RetryAfter.second)) ∧
      ∀ t, ¬ r.Names s.now t := by
  intro r s
  have hsigned : r.NamesSigned s.now (1060 * RetryAfter.second) :=
    ⟨['+', '6', '0'], ⟨Utf8.ofString "+60", [], rfl, by decide +kernel, rfl⟩, ['6', '0'], rfl,
      ['6', '0'], ⟨by decide, List.all_eq_true.mp rfl, .inl rfl⟩, by decide, rfl, by unfold RetryAfter.IsShown; decide⟩
  exact ⟨rfl, r.not_names_of_signed hsigned⟩

end ErrorDecoder

end DeclarativeHttp
