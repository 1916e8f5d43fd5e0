import DeclarativeHttp.Text.Percent

/-!
# Reading escaped text

What is written in UTF-8 and percent-encoded is read back: a character from its bytes, a byte from
its two digits, and so a whole text, whatever characters it has.
-/

namespace DeclarativeHttp

namespace Utf8

/-! ## Characters -/

theorem lead_ascii {n : Nat} (h : n < 0x80) : lead (UInt8.ofNat n) = .done (Char.ofNat n) := by
  have hn : (UInt8.ofNat n).toNat = n := by simp; omega
  simp only [lead, hn, if_pos h]

theorem lead_two {x : Nat} (hlow : 2 ≤ x) (hhigh : x < 32) :
    lead (UInt8.ofNat (x + 192)) = .more ⟨x, 1, 0x80, 0xBF⟩ := by
  have hn : (UInt8.ofNat (x + 192)).toNat = x + 192 := by simp; omega
  simp only [lead, hn]
  rw [if_neg (by omega), if_neg (by omega), if_pos (by omega), Nat.add_sub_cancel]

theorem lead_three {x : Nat} (h : x < 16) :
    lead (UInt8.ofNat (x + 224)) =
      .more ⟨x, 2, if x = 0 then 0xA0 else 0x80, if x = 13 then 0x9F else 0xBF⟩ := by
  have hn : (UInt8.ofNat (x + 224)).toNat = x + 224 := by simp; omega
  simp only [lead, hn, beq_iff_eq]
  rw [if_neg (by omega), if_neg (by omega), if_neg (by omega)]
  by_cases hzero : x = 0
  · subst hzero; rfl
  · by_cases hsurrogates : x = 13
    · subst hsurrogates; rfl
    · rw [if_neg (by omega), if_neg (by omega), if_pos (by omega), if_neg hzero, if_neg hsurrogates,
        Nat.add_sub_cancel]

theorem lead_four {x : Nat} (h : x < 5) :
    lead (UInt8.ofNat (x + 240)) =
      .more ⟨x, 3, if x = 0 then 0x90 else 0x80, if x = 4 then 0x8F else 0xBF⟩ := by
  obtain rfl | rfl | rfl | rfl | rfl : x = 0 ∨ x = 1 ∨ x = 2 ∨ x = 3 ∨ x = 4 := by omega
  all_goals rfl

section
variable {value more low high x : Nat} (h : x < 64) (hlow : low ≤ x + 128)
  (hhigh : x + 128 ≤ high) (bs : Bytes)
include h hlow hhigh

theorem scan_last : scan (some ⟨value, 1, low, high⟩) (UInt8.ofNat (x + 128) :: bs) =
    some (Char.ofNat (value * 64 + x)) :: scan none bs := by
  have hn : (UInt8.ofNat (x + 128)).toNat = x + 128 := by simp; omega
  rw [scan, follow]
  simp only [hn, hlow, hhigh, decide_true, Bool.and_self, if_true, Nat.le_refl, Nat.add_sub_cancel]

theorem scan_inner : scan (some ⟨value, more + 2, low, high⟩) (UInt8.ofNat (x + 128) :: bs) =
    scan (some ⟨value * 64 + x, more + 1, 0x80, 0xBF⟩) bs := by
  have hn : (UInt8.ofNat (x + 128)).toNat = x + 128 := by simp; omega
  have hmore : ¬ more + 2 ≤ 1 := by omega
  rw [scan, follow]
  simp only [hn, hlow, hhigh, decide_true, Bool.and_self, if_true, hmore, if_false, Nat.add_sub_cancel,
    Nat.add_one_sub_one]

end

theorem scan_lead {b : UInt8} {p : Pending} (h : lead b = .more p) (bs : Bytes) :
    scan none (b :: bs) = scan (some p) bs := by
  rw [scan, h]

theorem scan_utf8EncodeChar (c : Char) (bs : Bytes) :
    scan none (String.utf8EncodeChar c ++ bs) = some c :: scan none bs := by
  have hc : ∀ n, n = c.val.toNat →
      some (Char.ofNat n) :: scan none bs = some c :: scan none bs := by
    rintro n rfl
    rw [show Char.ofNat c.val.toNat = c from Char.ofNat_toNat c]
  have hvalid : c.val.toNat < 0xD800 ∨ 0xDFFF < c.val.toNat ∧ c.val.toNat < 0x110000 := c.valid
  rw [String.utf8EncodeChar]
  generalize c.val.toNat = v at hc hvalid
  split
  · rw [List.singleton_append, scan, lead_ascii (by omega)]
    exact hc v rfl
  split
  · rw [List.cons_append, List.singleton_append, scan_lead (lead_two (by omega) (by omega)),
      scan_last (by omega) (by omega) (by omega)]
    exact hc _ (by omega)
  split
  · -- the bounds on the second byte hold because the character is neither short nor a surrogate
    rw [List.cons_append, List.cons_append, List.singleton_append, scan_lead (lead_three (by omega)),
      scan_inner (by omega) (by split <;> omega) (by split <;> omega),
      scan_last (by omega) (by omega) (by omega)]
    exact hc _ (by omega)
  · have hlead : v / 262144 % 8 = v / 262144 := by omega
    rw [List.cons_append, List.cons_append, List.cons_append, List.singleton_append, hlead,
      scan_lead (lead_four (by omega)),
      scan_inner (by omega) (by split <;> omega) (by split <;> omega),
      scan_inner (by omega) (by omega) (by omega), scan_last (by omega) (by omega) (by omega)]
    exact hc _ (by omega)

theorem scan_encode (s : List Char) : scan none (encode s) = s.map some := by
  induction s with
  | nil => rfl
  | cons c s ih =>
    rw [encode, List.flatMap_cons, scan_utf8EncodeChar]
    exact congrArg (some c :: ·) ih

theorem decode?_encode (s : List Char) : decode? (encode s) = some s := by
  rw [decode?, scan_encode]
  induction s with
  | nil => rfl
  | cons c s ih => simp [List.mapM_cons, ih]

theorem encode_append (s t : List Char) : encode (s ++ t) = encode s ++ encode t :=
  List.flatMap_append

theorem encode_ascii {c : Char} (h : c.toNat < 0x80) : encode [c] = [UInt8.ofNat c.toNat] := by
  have hv : c.val.toNat ≤ 127 := Nat.le_of_lt_succ h
  simp only [encode, List.flatMap_singleton, String.utf8EncodeChar, if_pos hv]
  rfl

end Utf8

/-! ## Escapes -/

namespace Percent

theorem hexDigit_ascii : ∀ n < 16, (hexDigit n).toNat < 0x80 := by decide

theorem hexValue?_hexDigit : ∀ n < 16, hexValue? (hexDigit n).toNat = some n := by decide

theorem decode_cons {b : UInt8} (h : b ≠ 0x25) (bs : Bytes) :
    decode (b :: bs) = b :: decode bs := by
  match bs with
  | [] => rfl
  | [_] => rfl
  | _ :: _ :: _ => rw [decode, if_neg h]

theorem decode_encodeByte (b : UInt8) (bs : Bytes) :
    decode (Utf8.encode (encodeByte b) ++ bs) = b :: decode bs := by
  have hb : b.toNat < 256 := b.toNat_lt
  have hbyte : ∀ n < 16, (UInt8.ofNat (hexDigit n).toNat).toNat = (hexDigit n).toNat := by decide
  have hhigh : b.toNat / 16 < 16 := by omega
  have hlow : b.toNat % 16 < 16 := by omega
  have hwritten : Utf8.encode (encodeByte b) ++ bs = 0x25 ::
      UInt8.ofNat (hexDigit (b.toNat / 16)).toNat :: UInt8.ofNat (hexDigit (b.toNat % 16)).toNat :: bs := by
    show Utf8.encode (['%'] ++ ([hexDigit (b.toNat / 16)] ++ [hexDigit (b.toNat % 16)])) ++ bs = _
    rw [Utf8.encode_append, Utf8.encode_append, Utf8.encode_ascii (hexDigit_ascii _ hhigh),
      Utf8.encode_ascii (hexDigit_ascii _ hlow)]
    rfl
  rw [hwritten, decode, if_pos rfl, hbyte _ hhigh, hbyte _ hlow, hexValue?_hexDigit _ hhigh,
    hexValue?_hexDigit _ hlow]
  dsimp only
  rw [Nat.div_add_mod' b.toNat 16, UInt8.ofNat_toNat]

theorem decode_encodeBytes (bytes bs : Bytes) :
    decode (Utf8.encode (bytes.flatMap encodeByte) ++ bs) = bytes ++ decode bs := by
  induction bytes with
  | nil => rfl
  | cons b bytes ih =>
    rw [List.flatMap_cons, Utf8.encode_append, List.append_assoc, decode_encodeByte, ih]
    rfl

variable {set : EscapeSet}

theorem decode_encodeChar (hset : set '%' = true) (c : Char) (bs : Bytes) :
    decode (Utf8.encode (encodeChar set c) ++ bs) = String.utf8EncodeChar c ++ decode bs := by
  unfold encodeChar
  split
  · rename_i hkept
    rw [Bool.and_eq_true, decide_eq_true_eq, Bool.not_eq_true'] at hkept
    -- a kept character is not the percent sign, so its byte starts no escape
    have hpercent : UInt8.ofNat c.toNat ≠ 0x25 := by
      intro h
      have hn : c.toNat = '%'.toNat := by
        have htoNat := congrArg UInt8.toNat h
        simp only [UInt8.toNat_ofNat'] at htoNat
        exact (Nat.mod_eq_of_lt (by omega)).symm.trans htoNat
      rw [Char.toNat_inj.mp hn, hset] at hkept
      cases hkept.2
    have hself : Utf8.encode [c] = String.utf8EncodeChar c := List.flatMap_singleton ..
    rw [← hself, Utf8.encode_ascii hkept.1, List.singleton_append, decode_cons hpercent]
    rfl
  · exact decode_encodeBytes _ bs

theorem decode_encode (hset : set '%' = true) (s : List Char) :
    decode (Utf8.encode (encode set s)) = Utf8.encode s := by
  induction s with
  | nil => rfl
  | cons c s ih =>
    rw [encode, List.flatMap_cons, Utf8.encode_append, decode_encodeChar hset]
    exact congrArg (String.utf8EncodeChar c ++ ·) ih

def text? (s : List Char) : Option (List Char) := Utf8.decode? (decode (Utf8.encode s))

/-- A text is read back from its escaped form if the percent sign itself is escaped. -/
theorem text?_encode (hset : set '%' = true) (s : List Char) : text? (encode set s) = some s := by
  rw [text?, decode_encode hset, Utf8.decode?_encode]

end Percent

end DeclarativeHttp
