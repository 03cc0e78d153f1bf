import EndpointScout.Text.Basic
import Mathlib.Logic.Function.Basic

/-! UTF-16: characters outside of the first plane are written as pairs of surrogates, which are no
characters themselves. -/
namespace EndpointScout.Text.Utf16

def unitsOf (n : Nat) : List Nat :=
  if n < 0x10000 then [n] else [0xD800 + (n - 0x10000) / 0x400, 0xDC00 + (n - 0x10000) % 0x400]

def units (t : Text) : List Nat := t.flatMap fun c => unitsOf c.toNat

def IsSurrogate (n : Nat) : Prop := 0xD800 ≤ n ∧ n ≤ 0xDFFF

instance : DecidablePred IsSurrogate := fun n =>
  inferInstanceAs (Decidable (0xD800 ≤ n ∧ n ≤ 0xDFFF))

theorem units_cons (c : Char) (t : Text) : units (c :: t) = unitsOf c.toNat ++ units t :=
  List.flatMap_cons

theorem units_append (s t : Text) : units (s ++ t) = units s ++ units t := List.flatMap_append

theorem not_isSurrogate (c : Char) : c.toNat ≤ 0x10FFFF ∧ ¬IsSurrogate c.toNat := by
  have h : c.toNat < 0xD800 ∨ 0xDFFF < c.toNat ∧ c.toNat < 0x110000 := c.valid
  rw [IsSurrogate]
  omega

theorem unitsOf_small {n : Nat} (h : n < 0x10000) : unitsOf n = [n] := if_pos h

/-- The code units of a text tell where its first character ends. -/
theorem units_cons_inj {c d : Char} {s t : Text} (h : units (c :: s) = units (d :: t)) :
    c = d ∧ units s = units t := by
  obtain ⟨hc, hc'⟩ := not_isSurrogate c
  obtain ⟨hd, hd'⟩ := not_isSurrogate d
  rw [IsSurrogate] at hc' hd'
  rw [units_cons, units_cons, unitsOf, unitsOf] at h
  by_cases hcsmall : c.toNat < 0x10000
  · by_cases hdsmall : d.toNat < 0x10000
    · rw [if_pos hcsmall, if_pos hdsmall] at h
      obtain ⟨hcode, hrest⟩ := List.cons.inj h
      exact ⟨Char.toNat_inj.1 hcode, hrest⟩
    · rw [if_pos hcsmall, if_neg hdsmall] at h
      have hcode := (List.cons.inj h).1
      omega
  · by_cases hdsmall : d.toNat < 0x10000
    · rw [if_neg hcsmall, if_pos hdsmall] at h
      have hcode := (List.cons.inj h).1
      omega
    · rw [if_neg hcsmall, if_neg hdsmall] at h
      obtain ⟨hhigh, h⟩ := List.cons.inj h
      obtain ⟨hlow, hrest⟩ := List.cons.inj h
      exact ⟨Char.toNat_inj.1 (by omega), hrest⟩

theorem unitsOf_ne_nil (n : Nat) : unitsOf n ≠ [] := by
  rw [unitsOf]
  split <;> exact List.cons_ne_nil _ _

theorem units_injective : Function.Injective units := by
  intro s t h
  induction s generalizing t with
  | nil =>
    cases t with
    | nil => rfl
    | cons d t =>
      rw [units_cons] at h
      exact absurd (List.append_eq_nil_iff.1 h.symm).1 (unitsOf_ne_nil _)
  | cons c s ih =>
    cases t with
    | nil =>
      rw [units_cons] at h
      exact absurd (List.append_eq_nil_iff.1 h).1 (unitsOf_ne_nil _)
    | cons d t =>
      obtain ⟨rfl, hrest⟩ := units_cons_inj h
      rw [ih hrest]

end EndpointScout.Text.Utf16
