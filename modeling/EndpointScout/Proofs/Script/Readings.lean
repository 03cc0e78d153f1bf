import EndpointScout.Proofs.Script.Escapes

/-! How the grammars take escape sequences: each one of the language is taken as one, sometimes with
a character more, and what is made of it is what it stands for unless it goes astray. -/
namespace EndpointScout.Script
open Text (hexDigits isHexDigit)
open Text.Utf16 (IsSurrogate units unitsOf units_append units_cons unitsOf_small)

section Codes
variable {ds e : Text}

theorem isHexDigit_ne {d : Char} (h : isHexDigit d = true) : d ≠ '+' ∧ d ≠ '\x7b' ∧ d ≠ '\x7d' := by
  refine ⟨?_, ?_, ?_⟩ <;> rintro rfl <;> revert h <;> decide

theorem codePoint?_digits (hds : ∀ d ∈ ds, isHexDigit d = true) (hne : ds ≠ []) :
    codePoint? ds = some (hexDigits 0 ds) := by
  have hvalues : ds.mapM Text.hexValue? = some (ds.map fun d => (Text.hexValue? d).getD 0) := by
    clear hne
    induction ds with
    | nil => rfl
    | cons d ds ih =>
      obtain ⟨hd, hds⟩ := List.forall_mem_cons.1 hds
      obtain ⟨v, hv⟩ := Option.isSome_iff_exists.1 hd
      rw [List.mapM_cons, ih hds, hv]
      simp [hv]
  have hplus : Text.dropPrefix? ds ['+'] = none := by
    obtain ⟨d, u, rfl⟩ := List.exists_cons_of_ne_nil hne
    exact if_neg (isHexDigit_ne (hds d List.mem_cons_self)).1
  rw [codePoint?, hplus]
  simp [hne, hvalues, hexDigits, List.foldl_map]

theorem codeText_digits (hds : ∀ d ∈ ds, isHexDigit d = true) (hne : ds ≠ []) :
    decodeEscape.codeText ds = (charOf? (hexDigits 0 ds)).toList := by
  have hopen : ds.dropWhile (· == '\x7b') = ds := by
    obtain ⟨d, u, rfl⟩ := List.exists_cons_of_ne_nil hne
    exact List.dropWhile_cons_of_neg (by simp [(isHexDigit_ne (hds d List.mem_cons_self)).2.1])
  have hclose : Text.dropEndWhile (· == '\x7d') ds = ds :=
    Text.dropEndWhile_of_forall fun d hd => by simp [(isHexDigit_ne (hds d hd)).2.2]
  rw [decodeEscape.codeText, hopen, hclose, codePoint?_digits hds hne, Option.bind_some]

theorem codeText_braced (hds : ∀ d ∈ ds, isHexDigit d = true) (hne : ds ≠ []) :
    decodeEscape.codeText ('\x7b' :: (ds ++ ['\x7d'])) = (charOf? (hexDigits 0 ds)).toList := by
  have hopen : ('\x7b' :: (ds ++ ['\x7d'])).dropWhile (· == '\x7b') = ds ++ ['\x7d'] := by
    obtain ⟨d, u, rfl⟩ := List.exists_cons_of_ne_nil hne
    rw [List.dropWhile_cons_of_pos rfl]
    exact List.dropWhile_cons_of_neg (by simp [(isHexDigit_ne (hds d List.mem_cons_self)).2.1])
  have hclose : Text.dropEndWhile (· == '\x7d') (ds ++ ['\x7d']) = ds := by
    rw [Text.dropEndWhile_append, if_pos (by decide)]
    exact Text.dropEndWhile_of_forall fun d hd => by simp [(isHexDigit_ne (hds d hd)).2.2]
  rw [decodeEscape.codeText, hopen, hclose, codePoint?_digits hds hne, Option.bind_some]

theorem charOf?_of_isSurrogate {n : Nat} (h : IsSurrogate n) : charOf? n = none := by
  rw [IsSurrogate] at h
  simp only [charOf?, Bool.or_eq_true, Bool.and_eq_true, decide_eq_true_eq]
  exact if_neg (by omega)

theorem charOf?_of_not_isSurrogate {n : Nat} (hn : n ≤ 0x10FFFF) (h : ¬IsSurrogate n) :
    charOf? n = some (Char.ofNat n) ∧ (Char.ofNat n).toNat = n := by
  rw [IsSurrogate] at h
  refine ⟨?_, Text.toNat_ofNat (by rw [Nat.isValidChar]; omega)⟩
  simp only [charOf?, Bool.or_eq_true, Bool.and_eq_true, decide_eq_true_eq]
  exact if_pos (by omega)

theorem code_matches {n : Nat} (hn : n ≤ 0x10FFFF) (hastray : Astray e ↔ IsSurrogate n) :
    Matches (Astray e) (units (charOf? n).toList) (unitsOf n) := by
  rw [Matches, hastray]
  by_cases hsurrogate : IsSurrogate n
  · have hsmall : n < 0x10000 := by
      have hlast := hsurrogate.2
      omega
    refine .inr ⟨hsurrogate, ?_⟩
    rw [charOf?_of_isSurrogate hsurrogate, unitsOf_small hsmall, weightOf_singleton, weight,
      if_pos (.inl hsurrogate)]
    exact Int.one_pos
  · obtain ⟨hsome, hcode⟩ := charOf?_of_not_isSurrogate hn hsurrogate
    refine .inl ⟨hsurrogate, ?_⟩
    rw [hsome, Option.toList_some, units_cons, hcode]
    exact List.append_nil _

end Codes

/-- An escape sequence is as long as the language has it, or some characters longer, which stand
for themselves in the language; what is made of it matches what it stands for with them. -/
def IsReading (us : List Nat) (u e r : Text) : Prop :=
  ∃ extra, u = extra ++ r ∧ (∀ c ∈ extra, c ≠ '"' ∧ c ≠ '\'' ∧ c ≠ '\\') ∧
    Matches (Astray e) (units (decodeEscape e)) (us ++ units extra)

def HasReading (us : List Nat) (u t : Text) : Prop :=
  ∃ e r, Lexeme.escape? ('\\' :: t) = some (e, r) ∧ IsReading us u e r

theorem IsReading.of_matches {us : List Nat} {e r : Text}
    (h : Matches (Astray e) (units (decodeEscape e)) us) : IsReading us r e r := by
  refine ⟨[], rfl, by simp, ?_⟩
  rwa [show units [] = [] from rfl, List.append_nil]

section Forms
variable {t e r u ds : Text} {us : List Nat} {c : Char}

theorem not_astray_x (ds : Text) : ¬Astray ('\\' :: 'x' :: ds) := by
  intro h
  cases h with
  | half _ _ he => simp at he
  | octal hds _ => exact absurd (hds 'x' List.mem_cons_self) (by decide)

theorem reading_x (hu : escapeUnits? ('x' :: t) = some (us, u)) : HasReading us u ('x' :: t) := by
  rw [escapeUnits?, if_pos rfl] at hu
  obtain ⟨ds, rfl, hlength, hds, rfl⟩ := exists_of_fixedCode? hu
  have hcode := Text.hexDigits_lt 0 ds
  rw [hlength] at hcode
  have hescape : Lexeme.escape? ('\\' :: 'x' :: (ds ++ u)) = some ('\\' :: 'x' :: ds, u) := by
    obtain ⟨a, b, rfl⟩ := List.length_eq_two.1 hlength
    exact if_pos (by simpa using hds)
  refine ⟨_, _, hescape, .of_matches ?_⟩
  change Matches _ (units (decodeEscape.codeText ds)) _
  rw [codeText_digits hds (List.ne_nil_of_length_eq_add_one hlength)]
  refine code_matches (by omega) (iff_of_false (not_astray_x _) ?_)
  rw [IsSurrogate]
  omega

theorem astray_u_iff (hds : ∀ d ∈ ds, isHexDigit d = true) :
    Astray ('\\' :: 'u' :: ds) ↔ IsSurrogate (hexDigits 0 ds) := by
  constructor
  · intro h
    cases h with
    | half hds' hn he =>
      obtain he | he := he
      · rw [(List.cons.inj (List.cons.inj he).2).2]
        exact hn
      · rw [(List.cons.inj (List.cons.inj he).2).2] at hds
        exact absurd rfl (isHexDigit_ne (hds _ List.mem_cons_self)).2.1
    | octal hoctals _ => exact absurd (hoctals 'u' List.mem_cons_self) (by decide)
  · exact fun hn => .half hds hn (.inl rfl)

theorem astray_braced_iff (hds : ∀ d ∈ ds, isHexDigit d = true) :
    Astray ('\\' :: 'u' :: '\x7b' :: (ds ++ ['\x7d'])) ↔ IsSurrogate (hexDigits 0 ds) := by
  constructor
  · intro h
    cases h with
    | half hds' hn he =>
      obtain he | he := he
      · rw [← (List.cons.inj (List.cons.inj he).2).2] at hds'
        exact absurd rfl (isHexDigit_ne (hds' _ List.mem_cons_self)).2.1
      · rw [List.append_cancel_right (List.cons.inj (List.cons.inj (List.cons.inj he).2).2).2]
        exact hn
    | octal hoctals _ => exact absurd (hoctals 'u' List.mem_cons_self) (by decide)
  · exact fun hn => .half hds hn (.inr rfl)

theorem reading_braced (hu : bracedCode? t = some (us, u)) :
    HasReading us u ('u' :: '\x7b' :: t) := by
  rw [bracedCode?] at hu
  split at hu
  · rename_i rest hrest
    split at hu
    · cases hu
    · rename_i hcode
      rw [not_or, Nat.not_lt] at hcode
      obtain ⟨hne, hcode⟩ := hcode
      obtain ⟨rfl, rfl⟩ := Prod.mk.inj (Option.some.inj hu)
      have hds : ∀ d ∈ t.takeWhile isHexDigit, isHexDigit d = true :=
        fun d hd => List.mem_takeWhile_imp hd
      refine ⟨'\\' :: 'u' :: '\x7b' :: (t.takeWhile isHexDigit ++ ['\x7d']), rest, ?_,
        .of_matches ?_⟩
      · change Lexeme.wordEscape? ('\\' :: 'u' :: '\x7b' :: t) = _
        simp only [Lexeme.wordEscape?, hrest, List.isEmpty_iff, if_neg hne]
        rfl
      · change Matches _ (units (decodeEscape.codeText _)) _
        rw [codeText_braced hds hne]
        exact code_matches hcode (astray_braced_iff hds)
  · cases hu

theorem reading_fixed (hu : fixedCode? 4 t = some (us, u)) : HasReading us u ('u' :: t) := by
  obtain ⟨ds, rfl, hlength, hds, rfl⟩ := exists_of_fixedCode? hu
  have hcode := Text.hexDigits_lt 0 ds
  rw [hlength] at hcode
  have hescape : Lexeme.escape? ('\\' :: 'u' :: (ds ++ u)) = some ('\\' :: 'u' :: ds, u) := by
    obtain ⟨a, ds, rfl⟩ := List.exists_cons_of_length_eq_add_one hlength
    obtain ⟨b, c, d, rfl⟩ := List.length_eq_three.1 (Nat.succ.inj hlength)
    change Lexeme.wordEscape? ('\\' :: 'u' :: a :: b :: c :: d :: u) = _
    rw [Lexeme.wordEscape?]
    · exact if_pos (List.all_eq_true.2 hds)
    · exact (isHexDigit_ne (hds a List.mem_cons_self)).2.1
  refine ⟨_, _, hescape, .of_matches ?_⟩
  change Matches _ (units (decodeEscape.codeText ds)) _
  rw [codeText_digits hds (List.ne_nil_of_length_eq_add_one hlength)]
  exact code_matches (by omega) (astray_u_iff hds)

theorem reading_u (hu : escapeUnits? ('u' :: t) = some (us, u)) : HasReading us u ('u' :: t) := by
  rw [escapeUnits?, if_neg (by decide), if_pos rfl, unicodeCode?.eq_def] at hu
  split at hu
  · exact reading_braced hu
  · exact reading_fixed hu

theorem escape?_plain (hx : c ≠ 'x') (hu : c ≠ 'u') (t : Text) :
    Lexeme.escape? ('\\' :: c :: t) =
      if isOctal c then
        let more := (t.take 2).takeWhile isOctal
        some ('\\' :: c :: more, t.drop more.length)
      else match t with
        | d :: rest =>
          if (c == '\r' || c == '?') && (d == '\n' || d.toNat == 0x2028 || d.toNat == 0x2029) then
            some (['\\', c, d], rest)
          else some (['\\', c], t)
        | [] => some (['\\', c], []) := by
  rw [Lexeme.escape?.eq_def]
  split
  · rename_i heq
    exact absurd (List.cons.inj (List.cons.inj heq).2).1 hx
  · rename_i heq
    exact absurd (List.cons.inj (List.cons.inj heq).2).1 hu
  · rename_i heq
    obtain ⟨rfl, rfl⟩ := List.cons.inj (List.cons.inj heq).2
    rw [if_neg (by simpa using hx)]
    rfl
  · rename_i hnone
    exact absurd rfl (hnone c t)

theorem octal_code (h : isOctal c = true) : 0x30 ≤ c.toNat ∧ c.toNat ≤ 0x37 := by
  simp only [isOctal, Bool.and_eq_true, decide_eq_true_eq] at h
  exact ⟨UInt32.le_iff_toNat_le.1 (Char.le_def.1 h.1), UInt32.le_iff_toNat_le.1 (Char.le_def.1 h.2)⟩

theorem octal_ne (h : isOctal c = true) : c ≠ '"' ∧ c ≠ '\'' ∧ c ≠ '\\' := by
  refine ⟨?_, ?_, ?_⟩ <;> rintro rfl <;> revert h <;> decide

theorem weightOf_octals (hds : ∀ d ∈ ds, isOctal d = true) : weightOf (units ds) = -ds.length := by
  induction ds with
  | nil => rfl
  | cons d ds ih =>
    obtain ⟨hd, hds⟩ := List.forall_mem_cons.1 hds
    have hcode := octal_code hd
    have hplain : ¬(IsSurrogate d.toNat ∨ d.toNat = 0x2028 ∨ d.toNat = 0x2029) := by
      rw [IsSurrogate]
      omega
    rw [units_cons, unitsOf_small (by omega), List.singleton_append, weightOf, weight,
      if_neg hplain, if_pos hcode, ih hds, List.length_cons]
    omega

theorem decodeEscape_octal (hc : isOctal c = true) (hzero : c :: ds ≠ ['0']) :
    decodeEscape ('\\' :: c :: ds) = c :: ds := by
  have hcode := octal_code hc
  have hplain : ¬((c == '\n' || c == '\r' || c.toNat == 0x2028 || c.toNat == 0x2029) = true) := by
    simp only [Bool.or_eq_true, beq_iff_eq, ← Char.toNat_inj, Char.reduceToNat]
    omega
  have hnull : ¬((c == '0' && ds.isEmpty) = true) := by
    simpa using hzero
  rw [decodeEscape, if_neg hnull, if_neg hplain]
  all_goals
    rintro rfl
    revert hc
    decide

theorem octal_matches {more extra : Text} (hds : ∀ d ∈ c :: (more ++ extra), isOctal d = true)
    (hzero : c :: (more ++ extra) ≠ ['0']) :
    Matches (Astray ('\\' :: c :: (more ++ extra)))
      (units (decodeEscape ('\\' :: c :: (more ++ extra))))
      ([octalValue (c :: more)] ++ units extra) := by
  have hextra := weightOf_octals fun d hd =>
    hds d (List.mem_cons_of_mem _ (List.mem_append_right _ hd))
  have hgiven := weightOf_octals hds
  rw [decodeEscape_octal (hds c List.mem_cons_self) hzero]
  refine .inr ⟨.octal hds hzero, ?_⟩
  rw [weightOf_append, hgiven, weightOf_singleton, hextra, List.length_cons, List.length_append]
  cases more with
  | nil =>
    have hcode := octal_code (hds c List.mem_cons_self)
    have hsmall : octalValue [c] = c.toNat - 0x30 := by simp [octalValue]
    have hweight : weight (octalValue [c]) = 0 := by
      rw [hsmall, weight, if_neg, if_neg]
      · omega
      · rw [IsSurrogate]
        omega
    rw [hweight, List.length_nil]
    omega
  | cons d more =>
    have hweight := neg_one_le_weight (octalValue (c :: d :: more))
    rw [List.length_cons]
    omega

theorem not_isLineEnd_of_octal (h : isOctal c = true) : ¬Build.isLineEnd c = true := by
  have hcode := octal_code h
  simp only [Build.isLineEnd, Bool.or_eq_true, beq_iff_eq, ← Char.toNat_inj, Char.reduceToNat]
  omega

theorem reading_octal (hc : isOctal c = true) (hu : escapeUnits? (c :: t) = some (us, u)) :
    HasReading us u (c :: t) := by
  have hx : c ≠ 'x' := by
    rintro rfl
    revert hc
    decide
  have hu' : c ≠ 'u' := by
    rintro rfl
    revert hc
    decide
  let digits := (t.take 2).takeWhile isOctal
  let more := (t.take (if c ≤ '3' then 2 else 1)).takeWhile isOctal
  have hescape : Lexeme.escape? ('\\' :: c :: t) =
      some ('\\' :: c :: digits, t.drop digits.length) := by
    rw [escape?_plain hx hu', if_pos hc]
  have hunits : escapeUnits? (c :: t) = some ([octalValue (c :: more)], t.drop more.length) := by
    rw [escapeUnits?, if_neg hx, if_neg hu', if_neg (not_isLineEnd_of_octal hc), if_pos hc]
  rw [hunits] at hu
  obtain ⟨rfl, rfl⟩ := Prod.mk.inj (Option.some.inj hu)
  -- The language has no more digits than the grammar, so that some may be left over.
  obtain ⟨extra, hextra⟩ : more <+: digits := by
    refine Text.takeWhile_mono (List.take_prefix_take_left ?_)
    split <;> omega
  have hdigits : digits ++ t.drop digits.length = t := by
    refine List.prefix_iff_eq_append.1 ?_
    exact (List.takeWhile_prefix _).trans (List.take_prefix _ _)
  have hrest : t.drop more.length = extra ++ t.drop digits.length := by
    have ht : t = more ++ (extra ++ t.drop digits.length) := by
      rw [← List.append_assoc, hextra, hdigits]
    conv_lhs => rw [ht, List.drop_left]
  have hoctals : ∀ d ∈ c :: (more ++ extra), isOctal d = true := by
    rw [hextra]
    exact List.forall_mem_cons.2 ⟨hc, fun d hd => List.mem_takeWhile_imp hd⟩
  refine ⟨_, _, hescape, extra, hrest, fun d hd => octal_ne (hoctals d ?_), ?_⟩
  · exact List.mem_cons_of_mem _ (List.mem_append_right _ hd)
  · rw [← hextra]
    by_cases hzero : c :: (more ++ extra) = ['0']
    · obtain ⟨rfl, hnil⟩ := List.cons.inj hzero
      obtain ⟨hmore, hextra⟩ := List.append_eq_nil_iff.1 hnil
      rw [hmore, hextra]
      refine .inl ⟨?_, rfl⟩
      intro h
      cases h with
      | half _ _ he => simp at he
      | octal _ hzero => exact hzero rfl
    · exact octal_matches hoctals hzero

theorem decodeEscape_plain (hx : c ≠ 'x') (hu : c ≠ 'u') (hc : isOctal c = false) (ds : Text) :
    decodeEscape ('\\' :: c :: ds) =
      if Build.isLineEnd c then []
      else ((control? c).map fun n => [Char.ofNat n]).getD (c :: ds) := by
  have hzero : c ≠ '0' := by
    rintro rfl
    cases hc
  by_cases hcontrol : (control? c).isSome
  · rw [control?.eq_def] at hcontrol
    split at hcontrol
    all_goals first | rfl | cases hcontrol
  · have hnone : control? c = none := Option.not_isSome_iff_eq_none.1 hcontrol
    rw [hnone, decodeEscape]
    · simp [hzero, Build.isLineEnd]
    all_goals
      rintro rfl
      first | exact hx rfl | exact hu rfl | cases hnone

theorem not_astray_plain (hu : c ≠ 'u') (hc : isOctal c = false)
    (hd : c = '\r' → ∀ d, ds = [d] → ¬(d.toNat = 0x2028 ∨ d.toNat = 0x2029)) :
    ¬Astray ('\\' :: c :: ds) := by
  intro h
  cases h with
  | half _ _ he =>
    obtain he | he := he
    · exact hu (List.cons.inj (List.cons.inj he).2).1
    · exact hu (List.cons.inj (List.cons.inj he).2).1
  | octal hds _ => exact absurd (hds c List.mem_cons_self) (ne_true_of_eq_false hc)
  | lineEnd hline => exact hd rfl _ rfl hline

theorem escapeUnits?_plain (hx : c ≠ 'x') (hu : c ≠ 'u') (hc : isOctal c = false) (t : Text) :
    escapeUnits? (c :: t) =
      if Build.isLineEnd c then
        some ([], if c = '\r' then (Text.dropPrefix? t ['\n']).getD t else t)
      else some (unitsOf ((control? c).getD c.toNat), t) := by
  rw [escapeUnits?, if_neg hx, if_neg hu, if_neg (ne_true_of_eq_false hc)]

theorem units_plain (c : Char) : units (((control? c).map fun n => [Char.ofNat n]).getD [c]) =
    unitsOf ((control? c).getD c.toNat) := by
  rw [control?.eq_def]
  split
  all_goals first | rfl | exact List.append_nil _

theorem reading_single (hx : c ≠ 'x') (hu' : c ≠ 'u') (hc : isOctal c = false)
    (hcr : c = '\r' → Text.dropPrefix? t ['\n'] = none)
    (hu : escapeUnits? (c :: t) = some (us, u)) : IsReading us u ['\\', c] t := by
  have hplain : ¬Astray ['\\', c] := not_astray_plain hu' hc (by simp)
  have hdecode := decodeEscape_plain hx hu' hc []
  rw [escapeUnits?_plain hx hu' hc] at hu
  by_cases hline : Build.isLineEnd c = true
  · rw [if_pos hline] at hu hdecode
    have hrest : (if c = '\r' then (Text.dropPrefix? t ['\n']).getD t else t) = t := by
      split
      · rename_i hreturn
        rw [hcr hreturn, Option.getD_none]
      · rfl
    rw [hrest] at hu
    obtain ⟨rfl, rfl⟩ := Prod.mk.inj (Option.some.inj hu)
    exact .of_matches (.inl ⟨hplain, by rw [hdecode]; rfl⟩)
  · rw [if_neg hline] at hu hdecode
    obtain ⟨rfl, rfl⟩ := Prod.mk.inj (Option.some.inj hu)
    exact .of_matches (.inl ⟨hplain, by rw [hdecode, units_plain]⟩)

theorem reading_joined {d : Char} (hc : c = '\r' ∨ c = '?')
    (hd : d = '\n' ∨ d.toNat = 0x2028 ∨ d.toNat = 0x2029)
    (hu : escapeUnits? (c :: d :: t) = some (us, u)) : IsReading us u ['\\', c, d] t := by
  have hextra : ∀ x ∈ [d], x ≠ '"' ∧ x ≠ '\'' ∧ x ≠ '\\' := by
    refine List.forall_mem_singleton.2 ?_
    simp only [← Char.toNat_inj, Char.reduceToNat, ne_eq] at hd ⊢
    omega
  obtain rfl | rfl := hc
  · have hu' : escapeUnits? ('\r' :: d :: t) =
        some ([], (Text.dropPrefix? (d :: t) ['\n']).getD (d :: t)) := rfl
    rw [hu'] at hu
    obtain ⟨rfl, rfl⟩ := Prod.mk.inj (Option.some.inj hu)
    by_cases hfeed : d = '\n'
    · have hplain : ¬Astray ['\\', '\r', '\n'] :=
        not_astray_plain (by decide) (by decide) (by simp)
      have hrest : (Text.dropPrefix? ('\n' :: t) ['\n']).getD ('\n' :: t) = t := by
        simp [Text.dropPrefix?]
      rw [hfeed, hrest]
      exact .of_matches (.inl ⟨hplain, rfl⟩)
    · have hline : d.toNat = 0x2028 ∨ d.toNat = 0x2029 := hd.resolve_left hfeed
      have hunits : units [d] = [d.toNat] := by
        rw [units_cons, unitsOf_small (by omega)]
        rfl
      have hweight : weightOf (units [d]) = 1 := by
        rw [hunits, weightOf_singleton, weight, if_pos (.inr hline)]
      have hlost : weightOf (units (decodeEscape ['\\', '\r', d])) = 0 := rfl
      refine ⟨[d], ?_, hextra, .inr ⟨.lineEnd hline, ?_⟩⟩
      · rw [Text.dropPrefix?, if_neg hfeed]
        rfl
      · rw [List.nil_append, hweight, hlost]
        exact Int.one_pos
  · have hu' : escapeUnits? ('?' :: d :: t) = some (unitsOf '?'.toNat, d :: t) := rfl
    have hplain : ¬Astray ['\\', '?', d] := not_astray_plain (by decide) (by decide) (by simp)
    rw [hu'] at hu
    obtain ⟨rfl, rfl⟩ := Prod.mk.inj (Option.some.inj hu)
    exact ⟨[d], rfl, hextra, .inl ⟨hplain, rfl⟩⟩

theorem reading_plain (hx : c ≠ 'x') (hu' : c ≠ 'u') (hc : isOctal c = false)
    (hu : escapeUnits? (c :: t) = some (us, u)) : HasReading us u (c :: t) := by
  rw [HasReading, escape?_plain hx hu', if_neg (ne_true_of_eq_false hc)]
  cases t with
  | nil => exact ⟨_, _, rfl, reading_single hx hu' hc (fun _ => rfl) hu⟩
  | cons d t =>
    simp only [Bool.and_eq_true, Bool.or_eq_true, beq_iff_eq, or_assoc]
    split
    · rename_i hjoined
      exact ⟨_, _, rfl, reading_joined hjoined.1 hjoined.2 hu⟩
    · rename_i hjoined
      refine ⟨_, _, rfl, reading_single hx hu' hc (fun hreturn => ?_) hu⟩
      rw [Text.dropPrefix?, if_neg fun hfeed => hjoined ⟨.inl hreturn, .inl hfeed⟩]

/-- Every escape sequence of the language is taken as one, and what is made of it matches what it
stands for. -/
theorem hasReading (hu : escapeUnits? t = some (us, u)) : HasReading us u t := by
  cases t with
  | nil => cases hu
  | cons c t =>
    by_cases hx : c = 'x'
    · subst hx
      exact reading_x hu
    by_cases hu' : c = 'u'
    · subst hu'
      exact reading_u hu
    cases hc : isOctal c with
    | true => exact reading_octal hc hu
    | false => exact reading_plain hx hu' hc hu

end Forms

end EndpointScout.Script
