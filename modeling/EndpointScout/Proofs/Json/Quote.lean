import EndpointScout.Json.Token
import EndpointScout.Json.Writer
import Mathlib.Tactic.IntervalCases

/-! Quoted strings: what is written of a text reads back as the text, and ends where it was
written to end. -/
namespace EndpointScout.Json
open Reader

theorem escapeChar_cases (c : Char) :
    (escapeChar c = [c] ∧ c ≠ '"' ∧ c ≠ '\\' ∧ 32 ≤ c.toNat) ∨
    (∃ e, escapeChar c = ['\\', e] ∧ simpleEscape? e = some c ∧ e ≠ 'u' ∧ e ≠ '\n') ∨
    (escapeChar c = '\\' :: 'u' :: Text.hexPadded false 4 c.toNat ∧ c.toNat < 32) := by
  unfold escapeChar
  split_ifs with h1 h2 h3 h4 h5 h6 h7 h8
  · exact .inr (.inl ⟨'"', rfl, by simp [h1, simpleEscape?], by decide, by decide⟩)
  · exact .inr (.inl ⟨'\\', rfl, by simp [h2, simpleEscape?], by decide, by decide⟩)
  · exact .inr (.inl ⟨'n', rfl, by simp [h3, simpleEscape?], by decide, by decide⟩)
  · exact .inr (.inl ⟨'r', rfl, by simp [h4, simpleEscape?], by decide, by decide⟩)
  · exact .inr (.inl ⟨'t', rfl, by simp [h5, simpleEscape?], by decide, by decide⟩)
  · have hc : c = '\x08' := Char.toNat_inj.mp h6
    exact .inr (.inl ⟨'b', rfl, by simp [hc, simpleEscape?], by decide, by decide⟩)
  · have hc : c = '\x0c' := Char.toNat_inj.mp h7
    exact .inr (.inl ⟨'f', rfl, by simp [hc, simpleEscape?], by decide, by decide⟩)
  · exact .inr (.inr ⟨rfl, h8⟩)
  · exact .inl ⟨rfl, h1, h2, by omega⟩

theorem hexUnit_hexPadded {n : Nat} (hn : n < 32) (t : Text) :
    hexUnit (Text.hexPadded false 4 n ++ t) = .ok (n, t) := by
  interval_cases n <;> rfl

theorem stringGo_escapeChar (fuel : Nat) (acc : Text) (c : Char) (t : Text) :
    stringGo (fuel + 1) acc (escapeChar c ++ t) = stringGo fuel (c :: acc) t := by
  obtain ⟨he, hq, hb, hc⟩ | ⟨e, he, hs, hu, -⟩ | ⟨he, hc⟩ := escapeChar_cases c
  · rw [he, List.singleton_append, stringGo.eq_def]
    split <;> grind
  · rw [he, List.cons_append, List.singleton_append, stringGo.eq_def]
    split <;> simp_all
  · rw [he, List.cons_append, List.cons_append, stringGo.eq_def]
    have hlt : ¬(0xDC00 ≤ c.toNat ∧ c.toNat ≤ 0xDFFF) := by omega
    have hlt' : ¬(0xD800 ≤ c.toNat ∧ c.toNat ≤ 0xDBFF) := by omega
    simp only [unicodeEscape, hexUnit_hexPadded hc, bind, Except.bind]
    simp [hlt, hlt']

theorem stringGo_escape (s t acc : Text) (fuel : Nat) (hf : s.length < fuel) :
    stringGo fuel acc (s.flatMap escapeChar ++ '"' :: t) = .ok (acc.reverse ++ s, t) := by
  induction s generalizing fuel acc with
  | nil =>
    obtain ⟨fuel, rfl⟩ := Nat.exists_eq_add_of_lt hf
    simp [stringGo]
  | cons c s ih =>
    obtain ⟨fuel, rfl⟩ := Nat.exists_eq_succ_of_ne_zero (Nat.ne_of_gt (Nat.zero_lt_of_lt hf))
    rw [List.flatMap_cons, List.append_assoc, stringGo_escapeChar,
      ih _ _ (by simpa using hf), List.reverse_cons, List.append_assoc, List.singleton_append]

theorem length_le_escape (s : Text) : s.length ≤ (s.flatMap escapeChar).length := by
  induction s with
  | nil => exact Nat.zero_le _
  | cons c s ih =>
    have hc : 1 ≤ (escapeChar c).length := by
      obtain ⟨he, -⟩ | ⟨e, he, -⟩ | ⟨he, -⟩ := escapeChar_cases c <;> simp [he]
    rw [List.flatMap_cons, List.length_append, List.length_cons]
    omega

theorem quote_append (s t : Text) :
    quote s ++ t = '"' :: (s.flatMap escapeChar ++ '"' :: t) := by
  simp [quote]

theorem stringBody_escape (s t : Text) :
    stringBody (s.flatMap escapeChar ++ '"' :: t) = .ok (s, t) := by
  have hlen : s.length < (s.flatMap escapeChar ++ '"' :: t).length + 1 := by
    have := length_le_escape s
    rw [List.length_append]
    omega
  exact stringGo_escape s t [] _ hlen

theorem string_quote_append (s t : Text) : Reader.string (quote s ++ t) = .ok (s, t) := by
  rw [quote_append]
  exact stringBody_escape s t

theorem run_string_quote (s : Text) : Reader.run Reader.string (quote s) = .ok s := by
  have h := string_quote_append s []
  rw [List.append_nil] at h
  simp only [Reader.run, bind, StateT.bind, h, Except.bind]
  rfl

end EndpointScout.Json
