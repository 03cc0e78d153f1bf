import EndpointScout.Text.Binary64
import Mathlib.Algebra.Group.Nat.Defs
import Mathlib.Data.List.Basic
import Mathlib.Tactic.SplitIfs

/-! Written numbers: their characters, and reading them back. -/
namespace EndpointScout

namespace Text

theorem isDigit_digitChar {n : Nat} (hn : n < 10) : isDigit (digitChar n) := by
  have h : ∀ n < 10, isDigit (digitChar n) = true := by decide
  exact h n hn

theorem isDigit_of_mem_decimalGo {fuel n : Nat} {acc : Text} (hacc : ∀ c ∈ acc, isDigit c) :
    ∀ c ∈ decimalGo fuel n acc, isDigit c := by
  induction fuel generalizing n acc with
  | zero => exact hacc
  | succ fuel ih =>
    have hcons : ∀ c ∈ digitChar (n % 10) :: acc, isDigit c :=
      List.forall_mem_cons.2 ⟨isDigit_digitChar (Nat.mod_lt n (by decide)), hacc⟩
    unfold decimalGo
    split
    · exact hcons
    · exact ih hcons

theorem isDigit_of_mem_ofNat {n : Nat} : ∀ c ∈ ofNat n, isDigit c :=
  isDigit_of_mem_decimalGo (by simp)

theorem decimalGo_ne_nil (fuel n : Nat) {acc : Text} (h : acc ≠ [] ∨ 0 < fuel) :
    decimalGo fuel n acc ≠ [] := by
  induction fuel generalizing n acc with
  | zero => simpa [decimalGo] using h
  | succ fuel ih =>
    unfold decimalGo
    split
    · exact List.cons_ne_nil _ _
    · exact ih _ (.inl (List.cons_ne_nil _ _))

theorem ofNat_ne_nil (n : Nat) : ofNat n ≠ [] := decimalGo_ne_nil _ _ (.inr (Nat.succ_pos n))

theorem digitsValue_cons {d : Nat} (hd : d < 10) (n : Nat) (t : Text) :
    digitsValue n (digitChar d :: t) = digitsValue (n * 10 + d) t := by
  have h : ∀ d < 10, (digitChar d).toNat - '0'.toNat = d := by decide
  rw [digitsValue, List.foldl_cons, h d hd, digitsValue]

theorem digitsValue_decimalGo {fuel n : Nat} (hn : n < fuel) (acc : Text) :
    digitsValue 0 (decimalGo fuel n acc) = digitsValue n acc := by
  induction fuel generalizing n acc with
  | zero => omega
  | succ fuel ih =>
    have hdigit : n % 10 < 10 := Nat.mod_lt n (by decide)
    unfold decimalGo
    split
    · rename_i h
      rw [digitsValue_cons hdigit, Nat.zero_mul, Nat.zero_add, Nat.mod_eq_of_lt h]
    · rw [ih (by omega), digitsValue_cons hdigit, Nat.div_add_mod']

theorem digitsValue_ofNat (n : Nat) : digitsValue 0 (ofNat n) = n :=
  digitsValue_decimalGo (Nat.lt_succ_self n) []

theorem toNat?_ofNat (n : Nat) : toNat? (ofNat n) = some n := by
  have hdigits : (ofNat n).all isDigit := List.all_eq_true.2 isDigit_of_mem_ofNat
  simp [toNat?, ofNat_ne_nil, hdigits, digitsValue_ofNat]

theorem length_decimalGo {fuel n k : Nat} (hn : n < 10 ^ (k + 1)) (acc : Text) :
    (decimalGo fuel n acc).length ≤ acc.length + (k + 1) := by
  induction k generalizing fuel n acc with
  | zero =>
    cases fuel with
    | zero => simp [decimalGo]
    | succ fuel =>
      have h : n < 10 := by omega
      simp [decimalGo, h]
  | succ k ih =>
    cases fuel with
    | zero => simp [decimalGo]
    | succ fuel =>
      have hrest : n / 10 < 10 ^ (k + 1) := by
        rw [Nat.pow_succ] at hn
        exact Nat.div_lt_of_lt_mul (by omega)
      have hlength : (decimalGo fuel (n / 10) (digitChar (n % 10) :: acc)).length ≤
          acc.length + 1 + (k + 1) := ih hrest _
      unfold decimalGo
      simp only
      split
      · rw [List.length_cons]
        omega
      · omega

theorem length_ofNat {n k : Nat} (hn : n < 10 ^ (k + 1)) : (ofNat n).length ≤ k + 1 := by
  have h : (ofNat n).length ≤ ([] : Text).length + (k + 1) := length_decimalGo hn []
  simpa using h

theorem head?_decimalGo {fuel n : Nat} (hn : 0 < n) (hfuel : n ≤ fuel) (acc : Text) :
    (decimalGo fuel n acc).head? ≠ some '0' := by
  induction fuel generalizing n acc with
  | zero => omega
  | succ fuel ih =>
    unfold decimalGo
    split
    · rename_i h
      have hdigits : ∀ d < 10, 0 < d → digitChar d ≠ '0' := by decide
      rw [Nat.mod_eq_of_lt h, List.head?_cons]
      exact fun he => hdigits n h hn (Option.some.inj he)
    · exact ih (by omega) (by omega) _

theorem head?_ofNat {n : Nat} (hn : 0 < n) : (ofNat n).head? ≠ some '0' :=
  head?_decimalGo hn (Nat.le_succ n) []

theorem hexChar_spec {n : Nat} (hn : n < 16) :
    hexValue? (hexChar false n) = some n ∧ hexChar false n ≠ ':' ∧ hexChar false n ≠ '.' := by
  have h : ∀ n < 16, hexValue? (hexChar false n) = some n ∧ hexChar false n ≠ ':' ∧
      hexChar false n ≠ '.' := by decide
  exact h n hn

def hexDigits (n : Nat) (t : Text) : Nat := t.foldl (fun n c => n * 16 + (hexValue? c).getD 0) n

theorem hexValue?_lt {c : Char} {d : Nat} (h : hexValue? c = some d) : d < 16 := by
  have hle (e : Char) (hc : c ≤ e) : c.toNat ≤ e.toNat :=
    UInt32.le_iff_toNat_le.mp (Char.le_def.mp hc)
  have h9 : '9'.toNat = 57 := rfl
  have hf : 'f'.toNat = 102 := rfl
  have hF : 'F'.toNat = 70 := rfl
  have h0 : '0'.toNat = 48 := rfl
  have ha : 'a'.toNat = 97 := rfl
  have hA : 'A'.toNat = 65 := rfl
  simp only [hexValue?, isDigit, Bool.and_eq_true, decide_eq_true_eq] at h
  split at h
  · rename_i hc
    have := hle _ hc.2
    cases h
    omega
  · split at h
    · rename_i hc
      have := hle _ hc.2
      cases h
      omega
    · split at h
      · rename_i hc
        have := hle _ hc.2
        cases h
        omega
      · cases h

theorem hexDigits_lt (n : Nat) (t : Text) : hexDigits n t < (n + 1) * 16 ^ t.length := by
  induction t generalizing n with
  | nil => simp [hexDigits]
  | cons c t ih =>
    have hdigit : (hexValue? c).getD 0 < 16 := by
      cases hc : hexValue? c with
      | none => decide
      | some d => exact hexValue?_lt hc
    have hstep : (n * 16 + (hexValue? c).getD 0 + 1) * 16 ^ t.length ≤
        (n + 1) * 16 * 16 ^ t.length := Nat.mul_le_mul_right _ (by omega)
    have hrest := ih (n * 16 + (hexValue? c).getD 0)
    rw [List.length_cons, Nat.pow_succ', ← Nat.mul_assoc]
    exact Nat.lt_of_lt_of_le hrest hstep

theorem hexDigits_cons {d : Nat} (hd : d < 16) (n : Nat) (t : Text) :
    hexDigits n (hexChar false d :: t) = hexDigits (n * 16 + d) t := by
  rw [hexDigits, List.foldl_cons, (hexChar_spec hd).1, Option.getD_some, hexDigits]

theorem hexDigits_hexGo {fuel n : Nat} (hn : n < fuel) (acc : Text) :
    hexDigits 0 (hexGo fuel n acc) = hexDigits n acc := by
  induction fuel generalizing n acc with
  | zero => omega
  | succ fuel ih =>
    have hdigit : n % 16 < 16 := Nat.mod_lt n (by decide)
    unfold hexGo
    split
    · rename_i h
      rw [hexDigits_cons hdigit, Nat.zero_mul, Nat.zero_add, Nat.mod_eq_of_lt h]
    · rw [ih (by omega), hexDigits_cons hdigit, Nat.div_add_mod']

theorem hexDigits_hex (n : Nat) : hexDigits 0 (hex n) = n :=
  hexDigits_hexGo (Nat.lt_succ_self n) []

theorem mem_hexGo {fuel n : Nat} {acc : Text} {c : Char} (h : c ∈ hexGo fuel n acc) :
    c ∈ acc ∨ ∃ d < 16, c = hexChar false d := by
  induction fuel generalizing n acc with
  | zero => exact .inl h
  | succ fuel ih =>
    have hdigit : n % 16 < 16 := Nat.mod_lt n (by decide)
    have hcons (h : c ∈ hexChar false (n % 16) :: acc) :
        c ∈ acc ∨ ∃ d < 16, c = hexChar false d := by
      obtain h | h := List.mem_cons.1 h
      · exact .inr ⟨_, hdigit, h⟩
      · exact .inl h
    unfold hexGo at h
    split at h
    · exact hcons h
    · obtain h | h := ih h
      · exact hcons h
      · exact .inr h

theorem exists_of_mem_hex {n : Nat} {c : Char} (h : c ∈ hex n) : ∃ d < 16, c = hexChar false d :=
  (mem_hexGo h).resolve_left List.not_mem_nil

theorem mem_hex {n : Nat} {c : Char} (h : c ∈ hex n) : isHexDigit c ∧ c ≠ ':' ∧ c ≠ '.' := by
  obtain ⟨d, hd, rfl⟩ := exists_of_mem_hex h
  obtain ⟨hvalue, hcolon, hdot⟩ := hexChar_spec hd
  exact ⟨by simp [isHexDigit, hvalue], hcolon, hdot⟩

theorem length_hexGo {fuel n k : Nat} (hn : n < 16 ^ (k + 1)) (acc : Text) :
    (hexGo fuel n acc).length ≤ acc.length + (k + 1) := by
  induction k generalizing fuel n acc with
  | zero =>
    cases fuel with
    | zero => simp [hexGo]
    | succ fuel =>
      have h : n < 16 := by omega
      simp [hexGo, h]
  | succ k ih =>
    cases fuel with
    | zero => simp [hexGo]
    | succ fuel =>
      have hrest : n / 16 < 16 ^ (k + 1) := by
        rw [Nat.pow_succ] at hn
        exact Nat.div_lt_of_lt_mul (by omega)
      have hlength : (hexGo fuel (n / 16) (hexChar false (n % 16) :: acc)).length ≤
          acc.length + 1 + (k + 1) := ih hrest _
      unfold hexGo
      simp only
      split
      · rw [List.length_cons]
        omega
      · omega

theorem length_hex {n : Nat} (hn : n < 65536) : (hex n).length ≤ 4 := by
  have h : (hexGo (n + 1) n []).length ≤ ([] : Text).length + (3 + 1) := length_hexGo hn []
  exact h

theorem hexGo_ne_nil (fuel n : Nat) {acc : Text} (h : acc ≠ [] ∨ 0 < fuel) :
    hexGo fuel n acc ≠ [] := by
  induction fuel generalizing n acc with
  | zero => simpa [hexGo] using h
  | succ fuel ih =>
    unfold hexGo
    split
    · exact List.cons_ne_nil _ _
    · exact ih _ (.inl (List.cons_ne_nil _ _))

theorem hex_ne_nil (n : Nat) : hex n ≠ [] := hexGo_ne_nil _ _ (.inr (Nat.succ_pos n))

end Text

namespace Binary64

def isMark (c : Char) : Bool := Text.isDigit c || c == '-' || c == '.' || c == 'e'

theorem all_isMark_ofNat (n : Nat) : (Text.ofNat n).all isMark := by
  rw [List.all_eq_true]
  intro c hc
  simp [isMark, Text.isDigit_of_mem_ofNat c hc]

theorem all_isMark_replicate (n : Nat) : (List.replicate n '0').all isMark := by
  rw [List.all_eq_true]
  intro c hc
  rw [List.eq_of_mem_replicate hc]
  decide

theorem all_isMark_toText (x : Binary64) : x.toText.all isMark := by
  have htake (n : Nat) : ((Text.ofNat x.shortest.1).take n).all isMark := by
    rw [List.all_eq_true]
    exact fun c hc => List.all_eq_true.1 (all_isMark_ofNat _) c (List.mem_of_mem_take hc)
  have hdrop (n : Nat) : ((Text.ofNat x.shortest.1).drop n).all isMark := by
    rw [List.all_eq_true]
    exact fun c hc => List.all_eq_true.1 (all_isMark_ofNat _) c (List.mem_of_mem_drop hc)
  have hsign (b : Bool) : (if b then ['-'] else []).all isMark := by cases b <;> rfl
  have hzero : "0.0".toList.all isMark := by decide
  have hpoint : "0.".toList.all isMark := by decide
  have hend : ".0".toList.all isMark := by decide
  have hdot : isMark '.' := by decide
  have hexp : isMark 'e' := by decide
  have hminus : isMark '-' := by decide
  simp only [toText]
  rw [List.all_append, hsign, Bool.true_and]
  split_ifs <;>
    simp only [List.all_append, List.all_cons, List.all_nil, all_isMark_ofNat, all_isMark_replicate,
      htake, hdrop, hzero, hpoint, hend, hdot, hexp, hminus, Bool.and_self]

theorem quote_not_mem_toText (x : Binary64) : '"' ∉ x.toText := by
  intro h
  have := List.all_eq_true.1 (all_isMark_toText x) '"' h
  simp [isMark, Text.isDigit] at this

end Binary64

end EndpointScout
