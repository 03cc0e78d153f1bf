import EndpointScout.Proofs.Text.Ascii
import EndpointScout.Proofs.Text.Trim
import EndpointScout.Text.LetterCase

/-! Lower case, character by character: marks stay where they are and no others are made. -/
namespace EndpointScout.Text

theorem toNat_ofNat {n : Nat} (h : n.isValidChar) : (Char.ofNat n).toNat = n := by
  rw [Char.ofNat, dif_pos h]
  rfl

/-- The codes of a row go to characters behind the capital letters of ASCII. The lines of the
table are opened as lists before anything is evaluated: reading a long string is slow. -/
theorem lowercaseShifts_image : ∀ s ∈ lowercaseShifts, 0x60 < s.image ∧
    (s.image + (s.last - s.first) < 0xD800 ∨
      0xDFFF < s.image ∧ s.image + (s.last - s.first) < 0x110000) := by
  have h : lowercaseShifts.all (fun s => decide (0x60 < s.image ∧
      (s.image + (s.last - s.first) < 0xD800 ∨
        0xDFFF < s.image ∧ s.image + (s.last - s.first) < 0x110000))) = true := by
    simp only [lowercaseShifts, CodeTable.shifts, CodeTable.entries, List.flatMap_cons,
      List.flatMap_nil]
    repeat rw [String.toList_ofList]
    decide +kernel
  intro s hs
  exact of_decide_eq_true (List.all_eq_true.1 h s hs)

theorem lt_toNat_of_shifted? {n m : Nat} (h : CodeTable.shifted? lowercaseShifts n = some m) :
    0x60 < (Char.ofNat m).toNat := by
  obtain ⟨s, hs, rfl⟩ := Option.map_eq_some_iff.1 h
  have hrow := List.find?_some hs
  simp only [Bool.and_eq_true, decide_eq_true_eq] at hrow
  obtain ⟨himage, hvalid⟩ := lowercaseShifts_image s (List.mem_of_find?_eq_some hs)
  rw [toNat_ofNat]
  · omega
  · obtain hvalid | hvalid := hvalid
    · exact .inl (by omega)
    · exact .inr ⟨by omega, by omega⟩

/-- What becomes of a character: ASCII characters stay so, and from the others come no marks. -/
structure IsForm (c : Char) (piece : Text) : Prop where
  ascii : isAscii c → piece = [asciiLowerChar c]
  other : ¬isAscii c → ∀ d ∈ piece, 0x60 < d.toNat
  ne_nil : piece ≠ []

theorem isForm_lowerChar (c : Char) : IsForm c (lowerChar c) where
  ascii h := if_pos h
  other h := by
    have hc : 0x60 < c.toNat := by
      simp only [isAscii, decide_eq_true_eq] at h
      omega
    rw [lowerChar, if_neg h]
    split
    · exact forall_of_all (by decide)
    · split
      · rename_i m hm
        exact List.forall_mem_singleton.2 (lt_toNat_of_shifted? hm)
      · exact List.forall_mem_singleton.2 hc
  ne_nil := by
    rw [lowerChar]
    split
    · simp
    · split
      · simp
      · split <;> simp

/-- A text and its lower case, piece by piece. The form of a sigma is left open, as it depends
on what stands around it. -/
inductive Lowers : Text → Text → Prop
  | nil : Lowers [] []
  | cons {c : Char} {piece t t' : Text} (hc : IsForm c piece) (ht : Lowers t t') :
      Lowers (c :: t) (piece ++ t')

theorem lowers_lowerGo (before t : Text) : Lowers t (lowerGo before t) := by
  induction t generalizing before with
  | nil => exact .nil
  | cons c t ih =>
    rw [lowerGo]
    refine .cons ?_ (ih _)
    split
    · rename_i hsigma
      obtain rfl : c = capitalSigma := by simpa using hsigma
      refine ⟨fun h => absurd h (by decide), fun _ => List.forall_mem_singleton.2 ?_, by simp⟩
      split <;> decide
    · exact isForm_lowerChar c

theorem lowers_lower (t : Text) : Lowers t (lower t) := lowers_lowerGo [] t

structure IsMark (p : Char → Bool) : Prop where
  high : ∀ c : Char, 0x60 < c.toNat → p c = false
  lower : ∀ c, isAscii c → p (asciiLowerChar c) = p c

namespace IsForm
variable {c : Char} {piece : Text} {p : Char → Bool}

theorem of_mark (h : IsForm c piece) (hp : IsMark p) (hc : p c = true) :
    piece = [asciiLowerChar c] ∧ p (asciiLowerChar c) = true := by
  have hascii : isAscii c := by
    by_contra hother
    simp only [isAscii, decide_eq_true_eq] at hother
    rw [hp.high c (by omega)] at hc
    cases hc
  exact ⟨h.ascii hascii, by rw [hp.lower c hascii, hc]⟩

theorem of_not_mark (h : IsForm c piece) (hp : IsMark p) (hc : p c = false) :
    ∀ d ∈ piece, p d = false := by
  by_cases hascii : isAscii c
  · rw [h.ascii hascii]
    exact List.forall_mem_singleton.2 (by rw [hp.lower c hascii, hc])
  · exact fun d hd => hp.high d (h.other hascii d hd)

end IsForm

namespace Lowers
variable {t t' : Text} {p : Char → Bool}

theorem eq_nil_iff (h : Lowers t t') : t = [] ↔ t' = [] := by
  cases h with
  | nil => simp
  | cons hc ht => simp [hc.ne_nil]

theorem filter_not (h : Lowers t t') (hp : IsMark p) :
    Lowers (t.filter fun c => !p c) (t'.filter fun c => !p c) := by
  induction h with
  | nil => exact .nil
  | @cons c piece t t' hc ht ih =>
    rw [List.filter_append]
    cases hmark : p c with
    | true =>
      obtain ⟨rfl, hlower⟩ := hc.of_mark hp hmark
      simpa [hmark, hlower] using ih
    | false =>
      have hpiece : piece.filter (fun c => !p c) = piece :=
        List.filter_eq_self.2 fun d hd => by simp [hc.of_not_mark hp hmark d hd]
      rw [hpiece, List.filter_cons_of_pos (by simp [hmark])]
      exact .cons hc ih

theorem dropWhile (h : Lowers t t') (hp : IsMark p) : Lowers (t.dropWhile p) (t'.dropWhile p) := by
  induction h with
  | nil => exact .nil
  | @cons c piece t t' hc ht ih =>
    cases hmark : p c with
    | true =>
      obtain ⟨rfl, hlower⟩ := hc.of_mark hp hmark
      simpa [hmark, hlower] using ih
    | false =>
      obtain ⟨d, ds, rfl⟩ := List.exists_cons_of_ne_nil hc.ne_nil
      have hd := hc.of_not_mark hp hmark d List.mem_cons_self
      rw [List.dropWhile_cons_of_neg (by simp [hmark]), List.cons_append,
        List.dropWhile_cons_of_neg (by simp [hd])]
      exact .cons hc ht

theorem takeWhile_not (h : Lowers t t') (hp : IsMark p) :
    Lowers (t.takeWhile fun c => !p c) (t'.takeWhile fun c => !p c) := by
  induction h with
  | nil => exact .nil
  | @cons c piece t t' hc ht ih =>
    cases hmark : p c with
    | true =>
      obtain ⟨rfl, hlower⟩ := hc.of_mark hp hmark
      simpa [hmark, hlower] using Lowers.nil
    | false =>
      have hpiece := hc.of_not_mark hp hmark
      rw [List.takeWhile_cons_of_pos (by simp [hmark]),
        List.takeWhile_append_of_pos fun d hd => by simp [hpiece d hd]]
      exact .cons hc ih

theorem dropEndWhile (h : Lowers t t') (hp : IsMark p) :
    Lowers (Text.dropEndWhile p t) (Text.dropEndWhile p t') := by
  induction h with
  | nil => exact .nil
  | @cons c piece t t' hc ht ih =>
    rw [← List.singleton_append, dropEndWhile_append, dropEndWhile_append]
    split
    · rename_i hnil
      rw [if_pos (ih.eq_nil_iff.1 hnil)]
      cases hmark : p c with
      | true =>
        obtain ⟨rfl, hlower⟩ := hc.of_mark hp hmark
        simpa [Text.dropEndWhile, hmark, hlower] using Lowers.nil
      | false =>
        rw [dropEndWhile_of_forall (hc.of_not_mark hp hmark),
          dropEndWhile_of_forall (List.forall_mem_singleton.2 hmark), ← List.append_nil piece]
        exact .cons hc .nil
    · rename_i hne
      rw [if_neg (fun hnil => hne (ih.eq_nil_iff.2 hnil))]
      exact .cons hc ih

theorem ascii_append {s : Text} (h : Lowers (s ++ t) t') (hs : ∀ c ∈ s, isAscii c) :
    ∃ rest, t' = s.map asciiLowerChar ++ rest ∧ Lowers t rest := by
  induction s generalizing t' with
  | nil => exact ⟨t', rfl, h⟩
  | cons c s ih =>
    obtain ⟨hc, hs⟩ := List.forall_mem_cons.1 hs
    cases h with
    | @cons _ piece _ t' hform ht =>
      obtain ⟨rest, rfl, hrest⟩ := ih ht hs
      exact ⟨rest, by rw [hform.ascii hc]; rfl, hrest⟩

theorem eq_of_ascii (h : Lowers t t') (ht : ∀ c ∈ t, isAscii c) :
    t' = t.map asciiLowerChar := by
  rw [← List.append_nil t] at h
  obtain ⟨rest, rfl, hrest⟩ := h.ascii_append ht
  rw [hrest.eq_nil_iff.1 rfl, List.append_nil]

end Lowers

theorem isMark_of_codes {p : Char → Bool} (hhigh : ∀ c, p c = true → c.toNat ≤ 0x60)
    (hcodes : ∀ n < 128, (p (asciiLowerChar (Char.ofNat n)) == p (Char.ofNat n)) = true) :
    IsMark p where
  high c hc := Bool.eq_false_iff.2 fun h => absurd (hhigh c h) (Nat.not_le_of_lt hc)
  lower _ hc := beq_iff_eq.1
    (forall_ascii (p := fun c => p (asciiLowerChar c) == p c) hcodes hc)

theorem isMark_slash : IsMark (· == '/') := by
  refine isMark_of_codes (fun _ hc => ?_) (by decide)
  rw [beq_iff_eq.1 hc]
  decide

theorem Lowers.of_slash {t t' : Text} (h : Lowers t ('/' :: t')) :
    ∃ rest, t = '/' :: rest ∧ Lowers rest t' := by
  generalize hw : '/' :: t' = w at h
  cases h with
  | nil => cases hw
  | @cons c piece t w hc ht =>
    cases hslash : c == '/' with
    | false =>
      obtain ⟨d, ds, rfl⟩ := List.exists_cons_of_ne_nil hc.ne_nil
      obtain ⟨rfl, -⟩ := List.cons.inj hw
      exact absurd (hc.of_not_mark isMark_slash hslash '/' List.mem_cons_self) (by decide)
    | true =>
      obtain rfl := beq_iff_eq.1 hslash
      rw [hc.ascii (by decide)] at hw
      exact ⟨t, rfl, (List.cons.inj hw).2 ▸ ht⟩

theorem lower_head?_ne {t : Text} (h : t.head? ≠ some '/') : (lower t).head? ≠ some '/' := by
  intro hhead
  obtain ⟨rest, hrest⟩ := List.head?_eq_some_iff.1 hhead
  obtain ⟨s, rfl, -⟩ := Lowers.of_slash (hrest ▸ lowers_lower t)
  exact h rfl

end EndpointScout.Text
