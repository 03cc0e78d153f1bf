import EndpointScout.Proofs.Json.Quote
import EndpointScout.Proofs.Text.Ascii

/-! Finding quoted strings in a text: each one is found whole, and what holds no quote
is passed over. -/
namespace EndpointScout.Json

theorem tokenGo_append {w : Text} (hw : ∀ c ∈ w, c ≠ '"' ∧ c ≠ '\\') (acc t : Text) :
    tokenGo acc (w ++ t) = tokenGo (w.reverse ++ acc) t := by
  induction w generalizing acc with
  | nil => rfl
  | cons c w ih =>
    obtain ⟨hq, hb⟩ := hw c List.mem_cons_self
    have hstep : tokenGo acc (c :: (w ++ t)) = tokenGo (c :: acc) (w ++ t) := by
      rw [tokenGo.eq_def]
      split <;> simp_all
    rw [List.cons_append, hstep, ih fun d hd => hw d (List.mem_cons_of_mem c hd)]
    simp

theorem hexPadded_plain {n : Nat} (hn : n < 32) :
    ∀ c ∈ Text.hexPadded false 4 n, c ≠ '"' ∧ c ≠ '\\' := by
  interval_cases n <;> exact Text.forall_of_all (by decide)

theorem tokenGo_escapeChar (acc : Text) (c : Char) (t : Text) :
    tokenGo acc (escapeChar c ++ t) = tokenGo ((escapeChar c).reverse ++ acc) t := by
  obtain ⟨he, hq, hb, -⟩ | ⟨e, he, -, -, hn⟩ | ⟨he, hc⟩ := escapeChar_cases c
  · rw [he]
    exact tokenGo_append (by simp [hq, hb]) acc t
  · simp [he, tokenGo, hn]
  · have hu := tokenGo_append (hexPadded_plain hc) ('u' :: '\\' :: acc) t
    simpa [he, tokenGo] using hu

theorem tokenGo_escape (s acc t : Text) :
    tokenGo acc (s.flatMap escapeChar ++ '"' :: t) =
      some (acc.reverse ++ s.flatMap escapeChar ++ ['"'], t) := by
  induction s generalizing acc with
  | nil => simp [tokenGo]
  | cons c s ih =>
    rw [List.flatMap_cons, List.append_assoc, tokenGo_escapeChar, ih]
    simp

theorem tokenGo_rest_lt {acc t token rest : Text} (h : tokenGo acc t = some (token, rest)) :
    rest.length < t.length := by
  fun_induction tokenGo acc t with
  | case1 | case2 | case4 => cases h
  | case3 acc t =>
    cases h
    simp
  | case5 acc c t _ ih =>
    have := ih h
    simp only [List.length_cons]
    omega
  | case6 acc c t _ _ _ ih =>
    have := ih h
    simp only [List.length_cons]
    omega

theorem tokensGo_congr {m n : Nat} {t : Text} (hm : t.length < m) (hn : t.length < n) :
    tokensGo m t = tokensGo n t := by
  induction m generalizing n t with
  | zero => omega
  | succ m ih =>
    obtain ⟨n, rfl⟩ := Nat.exists_eq_succ_of_ne_zero (Nat.ne_of_gt (Nat.zero_lt_of_lt hn))
    simp only [tokensGo]
    split
    · rfl
    · rename_i r
      simp only [List.length_cons] at hm hn
      split
      · rename_i token rest h
        have hlt := tokenGo_rest_lt h
        have hrest : tokensGo m rest = tokensGo n rest := ih (by omega) (by omega)
        rw [hrest]
      · exact ih (by omega) (by omega)
    · simp only [List.length_cons] at hm hn
      exact ih (by omega) (by omega)

@[simp] theorem tokens_nil : tokens [] = [] := rfl

theorem tokens_cons {c : Char} (hc : c ≠ '"') (t : Text) : tokens (c :: t) = tokens t := by
  have hstep (fuel : Nat) : tokensGo (fuel + 1) (c :: t) = tokensGo fuel t := by
    simp [tokensGo]
  exact hstep (t.length + 1)

theorem tokens_append {w : Text} (hw : '"' ∉ w) (t : Text) : tokens (w ++ t) = tokens t := by
  induction w with
  | nil => rfl
  | cons c w ih =>
    rw [List.mem_cons, not_or] at hw
    rw [List.cons_append, tokens_cons (Ne.symm hw.1), ih hw.2]

/-- A quoted text is found whole, and the search goes on right after it. -/
theorem tokens_quote_append (s t : Text) : tokens (quote s ++ t) = quote s :: tokens t := by
  rw [quote_append, tokens, tokensGo, tokenGo_escape]
  have hfuel : tokensGo ('"' :: (s.flatMap escapeChar ++ '"' :: t)).length t = tokens t := by
    apply tokensGo_congr
    · simp only [List.length_cons, List.length_append]
      omega
    · exact Nat.lt_succ_self _
  simp only [hfuel]
  simp [quote]

end EndpointScout.Json
