import EndpointScout.Url.Percent
import EndpointScout.Proofs.Text.Ascii
import EndpointScout.Proofs.Text.Decimal
import Mathlib.Tactic.SplitIfs

/-! Percent-encoding twice is encoding once, and what needs no encoding is read as it is. -/
namespace EndpointScout

namespace Text.Utf8

theorem encodeChar_ne_nil (c : Char) : encodeChar c ≠ [] := by
  simp only [encodeChar]
  split_ifs <;> simp

theorem encodeChar_of_isAscii {c : Char} (h : isAscii c) : encodeChar c = [c.toNat.toUInt8] := by
  have hlt : c.toNat < 0x80 := by simpa [isAscii] using h
  simp [encodeChar, hlt]

theorem decode?_encode_of_ascii {t : Text} (h : ∀ c ∈ t, isAscii c) :
    decode? (encode t) = some t := by
  have hlossy : decodeLossy (encode t) = t := by
    induction t with
    | nil => rfl
    | cons c t ih =>
      have hc : c.toNat < 0x80 := by simpa [isAscii] using h c List.mem_cons_self
      have hbyte : c.toNat.toUInt8 < 0x80 := by
        rw [UInt8.lt_iff_toNat_lt]
        simp
        omega
      have hchar : c.toNat.toUInt8.toNat = c.toNat := by
        simp
        omega
      have hrest := ih fun d hd => h d (List.mem_cons_of_mem c hd)
      rw [decodeLossy] at hrest ⊢
      rw [encode, List.flatMap_cons, encodeChar_of_isAscii (h c List.mem_cons_self),
        List.singleton_append, decodeGo, begin, if_pos hbyte, hchar, Char.ofNat_toNat]
      simpa [encode] using hrest
  rw [decode?, hlossy]
  simp

end Text.Utf8

namespace Url

/-- A set of characters to encode that leaves percent signs and digits of codes alone. -/
structure KeepsCodes (encoded : Char → Bool) : Prop where
  percent : encoded '%' = false
  digits : ∀ d < 16, encoded (Text.hexChar true d) = false

theorem keepsCodes_isControl : KeepsCodes isControl := ⟨by decide, by decide⟩

theorem keepsCodes_encodedInPath : KeepsCodes encodedInPath := ⟨by decide, by decide⟩

theorem keepsCodes_encodedInUserinfo : KeepsCodes encodedInUserinfo := ⟨by decide, by decide⟩

theorem keepsCodes_encodedInQuery (special : Bool) : KeepsCodes (encodedInQuery special) := by
  cases special <;> exact ⟨by decide, by decide⟩

theorem percentEncode_eq_self {encoded : Char → Bool} {t : Text} (h : ∀ c ∈ t, encoded c = false) :
    percentEncode encoded t = t := by
  induction t with
  | nil => rfl
  | cons c t ih =>
    have hrest := ih fun d hd => h d (List.mem_cons_of_mem c hd)
    rw [percentEncode] at hrest ⊢
    rw [List.flatMap_cons, percentChar, h c List.mem_cons_self, hrest]
    rfl

theorem mem_percentByte {b : UInt8} {c : Char} (h : c ∈ percentByte b) :
    c = '%' ∨ ∃ d < 16, c = Text.hexChar true d := by
  simp only [percentByte, Text.hexPadded, List.mem_cons, List.nil_append, List.mem_append,
    List.not_mem_nil, or_false] at h
  obtain h | h | h := h
  · exact .inl h
  · exact .inr ⟨_, Nat.mod_lt _ (by decide), h⟩
  · exact .inr ⟨_, Nat.mod_lt _ (by decide), h⟩

theorem mem_percentChar {encoded : Char → Bool} {c d : Char} (h : c ∈ percentChar encoded d) :
    (c = d ∧ encoded d = false) ∨ c = '%' ∨ ∃ k < 16, c = Text.hexChar true k := by
  rw [percentChar] at h
  split at h
  · obtain ⟨b, -, hb⟩ := List.mem_flatMap.1 h
    exact .inr (mem_percentByte hb)
  · rename_i hd
    exact .inl ⟨List.mem_singleton.1 h, by simpa using hd⟩

theorem mem_percentEncode {encoded : Char → Bool} {t : Text} {c : Char}
    (h : c ∈ percentEncode encoded t) :
    (c ∈ t ∧ encoded c = false) ∨ c = '%' ∨ ∃ k < 16, c = Text.hexChar true k := by
  obtain ⟨d, hd, hc⟩ := List.mem_flatMap.1 h
  obtain ⟨rfl, hc⟩ | hc := mem_percentChar hc
  · exact .inl ⟨hd, hc⟩
  · exact .inr hc

theorem percentEncode_clean {encoded : Char → Bool} (hkeeps : KeepsCodes encoded) (t : Text) :
    ∀ c ∈ percentEncode encoded t, encoded c = false := by
  intro c hc
  obtain ⟨-, hc⟩ | rfl | ⟨k, hk, rfl⟩ := mem_percentEncode hc
  · exact hc
  · exact hkeeps.percent
  · exact hkeeps.digits k hk

theorem percentDecode_of_not_mem {t : Text} (h : '%' ∉ t) :
    percentDecode t = Text.Utf8.encode t := by
  induction t with
  | nil => rfl
  | cons c t ih =>
    rw [List.mem_cons, not_or] at h
    rw [percentDecode, ih h.2, Text.Utf8.encode, Text.Utf8.encode, List.flatMap_cons]
    rintro a b u rfl
    exact absurd rfl h.1

end Url

end EndpointScout
