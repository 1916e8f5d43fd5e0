import DeclarativeHttp.Proofs.Templates

/-!
# What a value can put into a URL

A value goes into a path or a query escaped, so that characters which mean something there come only
from the literal text of the template.
-/

namespace DeclarativeHttp

theorem Text.mem_intercalate {α : Type} {sep : List α} {pieces : List (List α)} {a : α}
    (h : a ∈ sep.intercalate pieces) : a ∈ sep ∨ ∃ p ∈ pieces, a ∈ p := by
  induction pieces with
  | nil => simp [List.intercalate] at h
  | cons p ps ih =>
    cases ps with
    | nil => exact .inr ⟨p, by simp, by simpa [List.intercalate] using h⟩
    | cons q qs =>
      rw [List.intercalate_cons_cons, List.mem_append, List.mem_append] at h
      obtain (hp | hsep) | hrest := h
      · exact .inr ⟨p, by simp, hp⟩
      · exact .inl hsep
      · obtain hsep | ⟨x, hx, hax⟩ := ih hrest
        · exact .inl hsep
        · exact .inr ⟨x, List.mem_cons_of_mem p hx, hax⟩

theorem Text.mem_intercalate_of_mem {α : Type} {sep p : List α} {pieces : List (List α)} {a : α}
    (hp : p ∈ pieces) (ha : a ∈ p) : a ∈ sep.intercalate pieces := by
  induction pieces with
  | nil => cases hp
  | cons q qs ih =>
    cases qs with
    | nil =>
      obtain rfl := List.mem_singleton.mp hp
      rwa [List.intercalate_singleton]
    | cons q' qs =>
      rw [List.intercalate_cons_cons, List.mem_append, List.mem_append]
      obtain rfl | hp := List.mem_cons.mp hp
      · exact .inl (.inl ha)
      · exact .inr (ih hp)

namespace Percent

variable {set : EscapeSet} {s : List Char} {c : Char}

theorem not_mem_encode (hset : set c = true) (hpercent : c ≠ '%')
    (hhex : ∀ n < 16, c ≠ hexDigit n) :
    c ∉ encode set s := by
  intro h
  obtain ⟨d, -, hd⟩ := List.mem_flatMap.mp h
  unfold encodeChar at hd
  split at hd
  · rename_i hkept
    obtain rfl := List.mem_singleton.mp hd
    simp [hset] at hkept
  · obtain ⟨b, -, hb⟩ := List.mem_flatMap.mp hd
    have hbyte : b.toNat < 256 := b.toNat_lt
    simp only [encodeByte, List.mem_cons, List.not_mem_nil, or_false] at hb
    obtain rfl | hb | hb := hb
    · exact hpercent rfl
    · exact hhex (b.toNat / 16) (by omega) hb
    · exact hhex (b.toNat % 16) (by omega) hb

end Percent

/-! ## Values -/

namespace Place

def pathEscapes (keepSlash : Bool) : Percent.EscapeSet := if keepSlash then pathSet else segmentSet

def escapes : Place → Percent.EscapeSet
  | .path keepSlash => pathEscapes keepSlash
  | .query => querySet
  | .raw => fun _ => false

variable {place : Place} {c : Char}

theorem encode_eq (h : place ≠ .raw) (s : List Char) :
    place.encode s = Percent.encode place.escapes s := by
  cases place with
  | path keepSlash => cases keepSlash <;> rfl
  | query => rfl
  | raw => exact absurd rfl h

theorem hexDigit_not_escaped (place : Place) :
    ∀ n < 16, place.escapes (Percent.hexDigit n) = false := by
  cases place with
  | path keepSlash => revert keepSlash; decide
  | query => decide
  | raw => exact fun _ _ => rfl

theorem not_mem_encode (hc : place.escapes c = true) (hpercent : c ≠ '%') (s : List Char) :
    c ∉ place.encode s := by
  have hplace : place ≠ .raw := by rintro rfl; cases hc
  rw [encode_eq hplace]
  refine Percent.not_mem_encode hc hpercent fun n hn he => ?_
  rw [he, hexDigit_not_escaped place n hn] at hc
  cases hc

end Place

namespace Template

variable {place : Place} {format : CollectionFormat} {c : Char}

/-- No value brings an escaped character along. -/
theorem not_mem_valueChars (hc : place.escapes c = true) (hpercent : c ≠ '%') (v : Variable) :
    c ∉ valueChars place format v := by
  have hencode := Place.not_mem_encode hc hpercent
  cases v with
  | one value => exact hencode _
  | many values =>
    intro h
    obtain hsep | ⟨piece, hpiece, hmem⟩ := Text.mem_intercalate h
    · exact hencode _ hsep
    · obtain ⟨value, -, rfl⟩ := List.mem_map.mp hpiece
      exact hencode _ hmem

theorem not_mem_expandChunk (hc : place.escapes c = true) (hpercent : c ≠ '%') (vars : Variables)
    (name : String) :
    c ∉ expandChunk vars place format (.expression name) := by
  rw [expandChunk]
  split
  · exact not_mem_valueChars hc hpercent _
  · exact List.not_mem_nil

theorem not_mem_expand {t : Template} {vars : Variables} (hc : place.escapes c = true)
    (hpercent : c ≠ '%') (hliteral : ∀ text, .literal text ∈ t.chunks → c ∉ text) :
    c ∉ t.expand vars place format := by
  intro h
  obtain ⟨chunk, hchunk, hmem⟩ := List.mem_flatMap.mp h
  cases chunk with
  | literal text => exact hliteral text hchunk hmem
  | expression name => exact not_mem_expandChunk hc hpercent vars name hmem

theorem not_mem_expandValues {t : Template} {vars : Variables} (hc : place.escapes c = true)
    (hpercent : c ≠ '%') (hliteral : ∀ text, .literal text ∈ t.chunks → c ∉ text) :
    ∀ x ∈ t.expandValues vars place format, c ∉ x := by
  unfold expandValues
  split
  · exact List.forall_mem_map.mpr fun v _ => Place.not_mem_encode hc hpercent v.toList
  · split
    · exact List.forall_mem_nil _
    · exact List.forall_mem_singleton.mpr (not_mem_expand hc hpercent hliteral)

end Template

end DeclarativeHttp
