import EndpointScout.Proofs.Text.Decimal
import Mathlib.Data.List.TakeWhile

/-! Natural numbers as 64-bit data: those that fit the fraction are shifted into place without
rounding, and so what is written of them is always in range. -/
namespace EndpointScout.Binary64

theorem unit_eq : unit = 2 ^ 52 := by decide

theorem roundDiv_one (n : Nat) : roundDiv n 1 = n := by
  simp [roundDiv, Nat.mod_one]

theorem scaled_one_neg (n : Nat) {k : Nat} (hk : 0 < k) : scaled n 1 (-(k : Int)) = n <<< k := by
  have hneg : ¬(-(k : Int) ≥ 0) := by omega
  rw [scaled, if_neg hneg, roundDiv_one, Int.neg_neg, Int.toNat_natCast]

theorem shift_bounds {n k : Nat} (hpos : 0 < n) (hk : n.log2 + k = 52) :
    unit ≤ n <<< k ∧ n <<< k < 2 * unit := by
  have hlow : 2 ^ n.log2 ≤ n := Nat.log2_self_le (Nat.ne_of_gt hpos)
  have hhigh : n < 2 ^ n.log2 * 2 := Nat.lt_log2_self
  have hunit : unit = 2 ^ n.log2 * 2 ^ k := by rw [← Nat.pow_add, hk, unit_eq]
  rw [Nat.shiftLeft_eq, hunit]
  constructor
  · exact Nat.mul_le_mul_right _ hlow
  · calc n * 2 ^ k < 2 ^ n.log2 * 2 * 2 ^ k := Nat.mul_lt_mul_of_pos_right hhigh (Nat.two_pow_pos k)
      _ = 2 * (2 ^ n.log2 * 2 ^ k) := by rw [Nat.mul_comm _ 2, Nat.mul_assoc]

theorem magnitude_one {n k : Nat} (hpos : 0 < n) (hk : n.log2 + k = 52) (hlog : 0 < k) :
    magnitude n 1 = (n.log2 + 1023) * unit + (n <<< k - unit) := by
  obtain ⟨hlow, hhigh⟩ := shift_bounds hpos hk
  have hone : (1 : Nat).log2 = 0 := by decide
  unfold magnitude
  rw [if_neg (by simpa using (Nat.ne_of_gt hpos))]
  extract_lets guess e₀ e m
  have hguess : guess = -(k : Int) := by
    simp only [guess, hone]
    omega
  have he₀ : e₀ = -(k : Int) := by
    have hnot : ¬(n <<< (-guess).toNat < (1 <<< guess.toNat) * unit) := by
      have hzero : guess.toNat = 0 := by omega
      have hk : (-guess).toNat = k := by omega
      rw [hzero, hk]
      simpa using hlow
    rw [← hguess]
    exact if_neg hnot
  have he : e = -(k : Int) := by omega
  have hm : m = n <<< k := by
    simp only [m, he]
    exact scaled_one_neg n hlog
  clear_value guess e₀ e m
  subst he hm
  have hne : ¬(n <<< k == 2 * unit) = true := by simpa using Nat.ne_of_lt hhigh
  rw [if_neg hne]
  have hexponent : (-(k : Int) + 1075).toNat = n.log2 + 1023 := by omega
  dsimp only
  rw [if_neg (Nat.not_lt.2 hlow), if_neg (by omega), hexponent]

theorem isFinite_ofDecimal {n : Nat} (hn : n < 2 ^ 52) (hlength : (Text.ofNat n).length ≤ 310) :
    (ofDecimal false n 0).isFinite := by
  have hfinite {m : Nat} (hm : m < infinity) : (⟨m.toUInt64⟩ : Binary64).isFinite := by
    have hinfinity : infinity = 2047 * unit := rfl
    have hunit := unit_eq
    have hbits : m.toUInt64.toNat = m := by
      rw [Nat.toUInt64, UInt64.toNat_ofNat']
      omega
    have hquot : m / unit < 2047 := Nat.div_lt_of_lt_mul (by rwa [Nat.mul_comm])
    simp only [isFinite, exponentField, hbits, bne_iff_ne, ne_eq]
    rw [Nat.mod_eq_of_lt (by omega)]
    exact Nat.ne_of_lt hquot
  have hsize : ¬(((Text.ofNat n).length : Int) + 0 > 310) := by omega
  have hpower : n * powerOfTen (0 : Int).toNat = n := Nat.mul_one n
  unfold ofDecimal
  apply hfinite
  simp only [Bool.false_eq_true, if_false, Nat.zero_add, hpower, if_neg hsize]
  split
  · decide
  · rename_i hdigits
    have hpos : 0 < n := by
      simp only [Bool.or_eq_true, beq_iff_eq, not_or] at hdigits
      omega
    have hlog : n.log2 < 52 := (Nat.log2_lt (Nat.ne_of_gt hpos)).2 hn
    obtain ⟨k, hk⟩ : ∃ k, n.log2 + k = 52 := ⟨52 - n.log2, by omega⟩
    have hrest : n <<< k - unit < unit := by
      have hbounds := shift_bounds hpos hk
      omega
    rw [if_pos (by decide), magnitude_one hpos hk (by omega)]
    calc (n.log2 + 1023) * unit + (n <<< k - unit)
        < (n.log2 + 1023) * unit + unit := Nat.add_lt_add_left hrest _
      _ = (n.log2 + 1024) * unit := by rw [← Nat.succ_mul]
      _ ≤ 2047 * unit := Nat.mul_le_mul_right unit (by omega)

theorem ofText?_ofNat (n : Nat) : ofText? (Text.ofNat n) = some (ofDecimal false n 0) := by
  have hdigits : ∀ c ∈ Text.ofNat n, Text.isDigit c := Text.isDigit_of_mem_ofNat
  have htake : (Text.ofNat n).takeWhile Text.isDigit = Text.ofNat n :=
    List.takeWhile_eq_self_iff.2 hdigits
  have hdrop : (Text.ofNat n).dropWhile Text.isDigit = [] :=
    List.dropWhile_eq_nil_iff.2 hdigits
  simp [ofText?, htake, hdrop, Text.ofNat_ne_nil, Text.digitsValue_ofNat]

end EndpointScout.Binary64
