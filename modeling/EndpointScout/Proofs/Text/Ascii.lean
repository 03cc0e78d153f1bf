import EndpointScout.Text.Blank

/-! ASCII characters: what holds of all of them is checked on the 128 codes. -/
namespace EndpointScout.Text

theorem forall_ascii {p : Char → Bool} (h : ∀ n < 128, p (Char.ofNat n) = true) {c : Char}
    (hc : isAscii c) : p c = true := by
  have hn : c.toNat < 128 := by simpa [isAscii] using hc
  simpa using h c.toNat hn

theorem forall_of_all {t : Text} {p : Char → Prop} [DecidablePred p]
    (h : t.all (fun c => decide (p c)) = true) : ∀ c ∈ t, p c :=
  fun c hc => of_decide_eq_true (List.all_eq_true.1 h c hc)

theorem isAscii_of_le {c d : Char} (h : c ≤ d) (hd : d.toNat < 128) : isAscii c := by
  have hle := UInt32.le_iff_toNat_le.mp (Char.le_def.mp h)
  exact decide_eq_true (Nat.lt_of_le_of_lt hle hd)

theorem isAscii_of_isLetter {c : Char} (h : isLetter c) : isAscii c := by
  simp only [isLetter, Bool.or_eq_true, Bool.and_eq_true, decide_eq_true_eq] at h
  obtain ⟨-, h⟩ | ⟨-, h⟩ := h <;> exact isAscii_of_le h (by decide)

theorem not_isBlank_of_isLetter {c : Char} (h : isLetter c) : ¬isBlank c = true := by
  have hcodes : ∀ n < 128, (!(isLetter (Char.ofNat n) && isBlank (Char.ofNat n))) = true := by
    decide
  have hc := forall_ascii (p := fun c => !(isLetter c && isBlank c)) hcodes (isAscii_of_isLetter h)
  simpa [h] using hc

theorem isAscii_of_isDigit {c : Char} (h : isDigit c) : isAscii c := by
  simp only [isDigit, Bool.and_eq_true, decide_eq_true_eq] at h
  exact isAscii_of_le h.2 (by decide)

end EndpointScout.Text
