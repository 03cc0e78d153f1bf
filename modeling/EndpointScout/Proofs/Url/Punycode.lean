import EndpointScout.Url.Punycode
import EndpointScout.Proofs.Text.Ascii
import Mathlib.Data.List.TakeWhile
import Mathlib.Tactic.Ring

/-! Punycode is read back as it was written: the reader's place in the text it has restored
follows the writer's place in the text it walks over. -/
namespace EndpointScout.Url.Punycode

theorem one_le_threshold (k bias : Nat) : 1 ≤ threshold k bias := by
  unfold threshold
  split <;> [omega; split <;> omega]

theorem threshold_le (k bias : Nat) : threshold k bias ≤ 26 := by
  unfold threshold
  split <;> [omega; split <;> omega]

theorem digitValue?_digit {d : Nat} (hd : d < 36) : digitValue? (digit d) = some d := by
  have h : ∀ d < 36, digitValue? (digit d) = some d := by decide
  exact h d hd

def isCode (c : Char) : Bool := ('a' ≤ c && c ≤ 'z') || Text.isDigit c

theorem isCode_digit {d : Nat} (hd : d < 36) : isCode (digit d) := by
  have h : ∀ d < 36, isCode (digit d) = true := by decide
  exact h d hd

theorem digit_add_rest {b q : Nat} (hb : b ≤ 26) (hq : b ≤ q) :
    b + (q - b) % (36 - b) < 36 ∧ 10 * ((q - b) / (36 - b)) ≤ q ∧
      b + (q - b) % (36 - b) + (q - b) / (36 - b) * (36 - b) = q := by
  have hmod := Nat.mod_lt (q - b) (by omega : 0 < 36 - b)
  have hsum := Nat.mod_add_div' (q - b) (36 - b)
  have hrest : (q - b) / (36 - b) * 10 ≤ (q - b) / (36 - b) * (36 - b) :=
    Nat.mul_le_mul_left _ (by omega)
  refine ⟨by omega, by omega, by omega⟩

theorem isAscii_of_isCode {c : Char} (h : isCode c) : Text.isAscii c := by
  rw [isCode, Bool.or_eq_true, Bool.and_eq_true, decide_eq_true_eq, decide_eq_true_eq] at h
  obtain ⟨-, h⟩ | h := h
  · exact Text.isAscii_of_le h (by decide)
  · exact Text.isAscii_of_isDigit h

section Distance
variable {bias : Nat}

theorem isCode_of_mem_distanceGo {fuel k q : Nat} (hq : q < 10 ^ fuel) :
    ∀ c ∈ distanceGo bias fuel k q, isCode c := by
  induction fuel generalizing k q with
  | zero =>
    intro c hc
    rw [List.mem_singleton.1 hc]
    exact isCode_digit (by omega)
  | succ fuel ih =>
    have hb := threshold_le k bias
    simp only [distanceGo]
    split
    · intro c hc
      rw [List.mem_singleton.1 hc]
      exact isCode_digit (by omega)
    · obtain ⟨hdigit, hrest, -⟩ := digit_add_rest hb (by omega : threshold k bias ≤ q)
      exact List.forall_mem_cons.2 ⟨isCode_digit hdigit, ih (by omega)⟩

theorem distanceGo_ne_nil (bias fuel k q : Nat) : distanceGo bias fuel k q ≠ [] := by
  cases fuel with
  | zero => simp [distanceGo]
  | succ fuel =>
    simp only [distanceGo]
    split <;> simp

theorem distance?_last {k q weight acc : Nat} (hq : q < threshold k bias)
    (hsize : acc + q * weight < 0x100000000) (t : Text) :
    distance? bias k weight acc (digit q :: t) = some (acc + q * weight, t) := by
  have hdigit : q < 36 := by
    have := threshold_le k bias
    omega
  have hfits : acc + q * weight < 4294967296 := hsize
  simp [distance?, digitValue?_digit hdigit, hq, hfits]

theorem distance?_distanceGo {fuel k q weight acc : Nat} (hq : q < 10 ^ fuel)
    (hsize : acc + q * weight < 0x100000000) (t : Text) :
    distance? bias k weight acc (distanceGo bias fuel k q ++ t) = some (acc + q * weight, t) := by
  induction fuel generalizing k q weight acc with
  | zero =>
    have := one_le_threshold k bias
    exact distance?_last (by omega) hsize t
  | succ fuel ih =>
    simp only [distanceGo]
    split
    · exact distance?_last (by assumption) hsize t
    · obtain ⟨hdigit, hrest, hsum⟩ :=
        digit_add_rest (threshold_le k bias) (by omega : threshold k bias ≤ q)
      have hge := Nat.le_add_right (threshold k bias)
        ((q - threshold k bias) % (36 - threshold k bias))
      generalize threshold k bias + (q - threshold k bias) % (36 - threshold k bias) = d at *
      generalize (q - threshold k bias) / (36 - threshold k bias) = r at *
      have hvalue : acc + d * weight + r * (weight * (36 - threshold k bias)) =
          acc + q * weight := by
        rw [← hsum]
        ring
      have hfits : acc + d * weight < 4294967296 := by omega
      have hmore : ¬d < threshold k bias := by omega
      have hih := ih (k := k + 36) (by omega : r < 10 ^ fuel) (by rw [hvalue]; exact hsize)
      simp [distance?, digitValue?_digit hdigit, hfits, hmore, hih, hvalue]

end Distance

/-- Where the reader of a distance stands when the writer is at a place of the text it walks
over for the code point `m`: what the writer has passed is what the reader will count. -/
structure Abreast (basic m place : Nat) (w : Writer) (n i : Nat) : Prop where
  le : n ≤ m
  passed : i + w.delta = (m - n) * (w.written + 1) + place
  first : i = 0 ↔ w.written = basic
  basic_le : basic ≤ w.written

theorem toNat_valid (c : Char) : c.toNat ≤ 0x10FFFF ∧ ¬(0xD800 ≤ c.toNat ∧ c.toNat ≤ 0xDFFF) := by
  have h : c.toNat < 0xD800 ∨ 0xDFFF < c.toNat ∧ c.toNat < 0x110000 := c.valid
  omega

theorem decodeGo_distance {basic m n i fuel : Nat} {left right : Text} {w : Writer} {c : Char}
    (hc : c.toNat = m) (hw : Abreast basic m left.length w n i)
    (hwritten : w.written = (left ++ right).length) (hdelta : w.delta < 0x100000000) (t : Text) :
    decodeGo (fuel + 1) n i w.bias (left ++ right) (distanceGo w.bias 16 36 w.delta ++ t) =
      decodeGo fuel m (left.length + 1)
        (adapt w.delta (w.written + 1) (w.written == basic)) (left ++ c :: right) t := by
  have hread : distance? w.bias 36 1 0 (distanceGo w.bias 16 36 w.delta ++ t) =
      some (0 + w.delta * 1, t) :=
    distance?_distanceGo (by omega) (by omega) t
  obtain ⟨d, ds, hds⟩ := List.exists_cons_of_ne_nil (distanceGo_ne_nil w.bias 16 36 w.delta)
  have hplace : left.length < w.written + 1 := by
    rw [hwritten, List.length_append]
    omega
  have hindex : i + w.delta = left.length + (w.written + 1) * (m - n) := by
    rw [hw.passed]
    ring
  have hdiv : (i + w.delta) / (w.written + 1) = m - n := by
    rw [hindex, Nat.add_mul_div_left _ _ (Nat.succ_pos _), Nat.div_eq_of_lt hplace, Nat.zero_add]
  have hmod : (i + w.delta) % (w.written + 1) = left.length := by
    rw [hindex, Nat.add_mul_mod_self_left, Nat.mod_eq_of_lt hplace]
  have hcode : n + (m - n) = m := by
    have := hw.le
    omega
  have hvalid := toNat_valid c
  rw [hc] at hvalid
  have hfirst : (i == 0) = (w.written == basic) := by
    rw [Bool.eq_iff_iff, beq_iff_eq, beq_iff_eq]
    exact hw.first
  have hchar : Char.ofNat m = c := by rw [← hc, Char.ofNat_toNat]
  rw [hds, List.cons_append] at hread ⊢
  simp only [decodeGo, hread, bind, Option.bind]
  rw [← hwritten, Nat.zero_add, Nat.mul_one, hdiv, hmod, hcode, hfirst, hchar]
  have hbad : ¬(m > 0x10FFFF ∨ 0xD800 ≤ m ∧ m ≤ 0xDFFF) := by omega
  simp only [Bool.or_eq_true, Bool.and_eq_true, decide_eq_true_eq, if_neg hbad,
    List.take_left, List.drop_left]

theorem Abreast.pass {basic m k : Nat} {w : Writer} {n i : Nat} (hw : Abreast basic m k w n i) :
    Abreast basic m (k + 1) ⟨w.delta + 1, w.bias, w.written⟩ n i := by
  refine ⟨hw.le, ?_, hw.first, hw.basic_le⟩
  have := hw.passed
  simp only
  omega

theorem Abreast.insert {basic m k : Nat} {w : Writer} {n i : Nat} (hw : Abreast basic m k w n i)
    (bias : Nat) : Abreast basic m (k + 1) ⟨0, bias, w.written + 1⟩ m (k + 1) := by
  have := hw.basic_le
  refine ⟨Nat.le_refl m, ?_, ?_, Nat.le_succ_of_le this⟩
  · simp
  · simp only
    omega

/-- While the writer walks over `t` for the code point `m`, the reader puts the characters
`m` in their places among the lesser ones. -/
theorem decodeGo_writePass {basic m : Nat} {t left code rest : Text} {w w' : Writer}
    {n i fuel : Nat}
    (hpass : writePass? basic m t w = some (code, w'))
    (hw : Abreast basic m left.length w n i)
    (hwritten : w.written = (left ++ t.filter (·.toNat < m)).length)
    (hfuel : (code ++ rest).length < fuel) :
    ∃ n' i' fuel', rest.length < fuel' ∧
      Abreast basic m (left ++ t.filter (·.toNat ≤ m)).length w' n' i' ∧
      w'.written = (left ++ t.filter (·.toNat ≤ m)).length ∧
      decodeGo fuel n i w.bias (left ++ t.filter (·.toNat < m)) (code ++ rest) =
        decodeGo fuel' n' i' w'.bias (left ++ t.filter (·.toNat ≤ m)) rest := by
  induction t generalizing left code w n i fuel with
  | nil =>
    obtain ⟨rfl, rfl⟩ : [] = code ∧ w = w' := by simpa [writePass?] using hpass
    exact ⟨n, i, fuel, hfuel, by simpa using hw, by simpa using hwritten, by simp⟩
  | cons c t ih =>
    rw [writePass?] at hpass
    split_ifs at hpass with hlt heq hdelta
    · -- A lesser character is already in the reader's text.
      have hbelow : left ++ (c :: t).filter (·.toNat < m) =
          (left ++ [c]) ++ t.filter (·.toNat < m) := by
        simp [hlt]
      have hupto : left ++ (c :: t).filter (·.toNat ≤ m) =
          (left ++ [c]) ++ t.filter (·.toNat ≤ m) := by
        simp [Nat.le_of_lt hlt]
      rw [hbelow] at hwritten ⊢
      rw [hupto]
      have hnext : Abreast basic m (left ++ [c]).length ⟨w.delta + 1, w.bias, w.written⟩ n i := by
        simpa using hw.pass
      have hrun := ih hpass hnext hwritten hfuel
      exact hrun
    · -- The character is inserted between what the writer has passed and what is ahead of it.
      have hbelow : (c :: t).filter (·.toNat < m) = t.filter (·.toNat < m) := by
        simp [hlt]
      have hupto : left ++ (c :: t).filter (·.toNat ≤ m) =
          (left ++ [c]) ++ t.filter (·.toNat ≤ m) := by
        simp [Nat.le_of_eq heq]
      obtain ⟨⟨out, v⟩, hrest, hcode⟩ := Option.bind_eq_some_iff.1 hpass
      obtain ⟨rfl, rfl⟩ : distanceGo w.bias 16 36 w.delta ++ out = code ∧ v = w' := by
        simpa using hcode
      obtain ⟨fuel, rfl⟩ := Nat.exists_eq_succ_of_ne_zero (Nat.ne_of_gt (Nat.zero_lt_of_lt hfuel))
      have hshorter : (out ++ rest).length < fuel := by
        have := List.length_pos_iff.2 (distanceGo_ne_nil w.bias 16 36 w.delta)
        simp only [List.length_append] at hfuel ⊢
        omega
      have hnext : Abreast basic m (left ++ [c]).length
          ⟨0, adapt w.delta (w.written + 1) (w.written == basic), w.written + 1⟩
          m (left.length + 1) := by
        simpa using hw.insert _
      rw [hbelow] at hwritten ⊢
      rw [hupto, List.append_assoc (distanceGo _ _ _ _),
        decodeGo_distance heq hw hwritten hdelta, List.append_cons left c (List.filter _ t)]
      have hlonger : w.written + 1 = (left ++ [c] ++ t.filter (·.toNat < m)).length := by
        simp only [List.length_append, List.length_singleton] at hwritten ⊢
        omega
      have hrun := ih hrest hnext hlonger hshorter
      exact hrun
    · -- A greater character is in neither text yet.
      have hbelow : (c :: t).filter (·.toNat < m) = t.filter (·.toNat < m) := by
        simp [hlt]
      have hupto : (c :: t).filter (·.toNat ≤ m) = t.filter (·.toNat ≤ m) := by
        have : ¬c.toNat ≤ m := by omega
        simp [this]
      rw [hbelow] at hwritten ⊢
      rw [hupto]
      exact ih hpass hw hwritten hfuel

theorem nextCode?_eq_some {n m : Nat} {t : Text} (h : nextCode? n t = some m) :
    n ≤ m ∧ ∀ c ∈ t, c.toNat < m ↔ c.toNat < n := by
  rw [nextCode?, List.min?_eq_some_iff] at h
  obtain ⟨hm, hleast⟩ := h
  have hle : n ≤ m := by simpa using (List.mem_filter.1 hm).2
  refine ⟨hle, fun c hc => ⟨fun hlt => ?_, fun hlt => Nat.lt_of_lt_of_le hlt hle⟩⟩
  by_contra hge
  have := hleast c.toNat (List.mem_filter.2 ⟨List.mem_map_of_mem hc, by simpa using hge⟩)
  omega

theorem nextCode?_eq_none {n : Nat} {t : Text} (h : nextCode? n t = none) :
    ∀ c ∈ t, c.toNat < n := by
  rw [nextCode?, List.min?_eq_none_iff, List.filter_eq_nil_iff] at h
  intro c hc
  simpa using h c.toNat (List.mem_map_of_mem hc)

theorem encodeGo?_of_nextCode? {basic bound m k : Nat} {t code : Text} {w : Writer}
    (hnext : nextCode? m t = some k) (h : encodeGo? t basic (bound + 1) m w = some code) :
    ∃ out v rest,
      writePass? basic k t ⟨w.delta + (k - m) * (w.written + 1), w.bias, w.written⟩ =
        some (out, v) ∧
      encodeGo? t basic bound (k + 1) ⟨v.delta + 1, v.bias, v.written⟩ = some rest ∧
      code = out ++ rest := by
  rw [encodeGo?] at h
  simp only [hnext] at h
  obtain ⟨⟨out, v⟩, hpass, h⟩ := Option.bind_eq_some_iff.1 h
  obtain ⟨rest, hrest, hcode⟩ := Option.bind_eq_some_iff.1 h
  exact ⟨out, v, rest, hpass, hrest, (Option.some.inj hcode).symm⟩

theorem encodeGo?_of_nextCode?_none {basic bound m : Nat} {t code : Text} {w : Writer}
    (hnext : nextCode? m t = none) (h : encodeGo? t basic (bound + 1) m w = some code) :
    code = [] := by
  rw [encodeGo?] at h
  simp only [hnext] at h
  exact (Option.some.inj h).symm

/-- From the characters below `n` the reader restores the whole text. -/
theorem decodeGo_encodeGo {basic m : Nat} {t code : Text} {w : Writer} {n i fuel bound : Nat}
    (hcode : encodeGo? t basic bound m w = some code)
    (hw : Abreast basic m 0 w n i)
    (hwritten : w.written = (t.filter (·.toNat < m)).length) (hfuel : code.length < fuel) :
    decodeGo fuel n i w.bias (t.filter (·.toNat < m)) code = some t := by
  induction bound generalizing m code w n i fuel with
  | zero => cases hcode
  | succ bound ih =>
    cases hnext : nextCode? m t with
    | none =>
      obtain rfl := encodeGo?_of_nextCode?_none hnext hcode
      obtain ⟨fuel, rfl⟩ := Nat.exists_eq_succ_of_ne_zero (Nat.ne_of_gt hfuel)
      have hall : t.filter (·.toNat < m) = t :=
        List.filter_eq_self.2 (by simpa using nextCode?_eq_none hnext)
      rw [hall, decodeGo]
    | some k =>
      obtain ⟨hle, hsame⟩ := nextCode?_eq_some hnext
      obtain ⟨out, v, rest, hpass, hrest, rfl⟩ := encodeGo?_of_nextCode? hnext hcode
      -- No character lies between `m` and `k`: the reader waits while the writer skips these codes.
      have hbelow : t.filter (·.toNat < m) = t.filter (·.toNat < k) := by
        apply List.filter_congr
        intro c hc
        simp [hsame c hc]
      have hupto : t.filter (·.toNat ≤ k) = t.filter (·.toNat < k + 1) := by
        simp only [Nat.lt_succ_iff]
      rw [hbelow] at hwritten ⊢
      have hstart : Abreast basic k ([] : Text).length
          ⟨w.delta + (k - m) * (w.written + 1), w.bias, w.written⟩ n i := by
        have hn := hw.le
        refine ⟨Nat.le_trans hn hle, ?_, hw.first, hw.basic_le⟩
        have hsplit : k - n = (m - n) + (k - m) := by omega
        rw [← Nat.add_assoc, hw.passed, hsplit, Nat.add_mul]
        rfl
      obtain ⟨n', i', fuel', hfuel', hend, hwritten', hrun⟩ :=
        decodeGo_writePass hpass hstart hwritten hfuel
      simp only [List.nil_append] at hend hwritten' hrun
      rw [hrun, hupto]
      rw [hupto] at hend hwritten'
      -- The next pass begins at the front again, so that what is behind counts once more.
      have hagain : Abreast basic (k + 1) 0 ⟨v.delta + 1, v.bias, v.written⟩ n' i' := by
        have hn := hend.le
        refine ⟨Nat.le_succ_of_le hn, ?_, hend.first, hend.basic_le⟩
        have hsplit : k + 1 - n' = (k - n') + 1 := by omega
        rw [← Nat.add_assoc, hend.passed, hsplit, Nat.add_mul, ← hwritten']
        ring
      have hrestored := ih hrest hagain hwritten' hfuel'
      exact hrestored

theorem isCode_of_mem_writePass {basic m : Nat} {t code : Text} {w w' : Writer}
    (h : writePass? basic m t w = some (code, w')) : ∀ c ∈ code, isCode c := by
  induction t generalizing code w with
  | nil =>
    obtain ⟨rfl, rfl⟩ : [] = code ∧ w = w' := by simpa [writePass?] using h
    simp
  | cons c t ih =>
    rw [writePass?] at h
    split_ifs at h with hlt heq hdelta
    · exact ih h
    · obtain ⟨⟨out, v⟩, hrest, hcode⟩ := Option.bind_eq_some_iff.1 h
      obtain ⟨rfl, rfl⟩ : distanceGo w.bias 16 36 w.delta ++ out = code ∧ v = w' := by
        simpa using hcode
      have hdistance : ∀ c ∈ distanceGo w.bias 16 36 w.delta, isCode c :=
        isCode_of_mem_distanceGo (by omega)
      exact List.forall_mem_append.2 ⟨hdistance, ih hrest⟩
    · exact ih h

theorem isCode_of_mem_encodeGo {basic m bound : Nat} {t code : Text} {w : Writer}
    (h : encodeGo? t basic bound m w = some code) : ∀ c ∈ code, isCode c := by
  induction bound generalizing m code w with
  | zero => cases h
  | succ bound ih =>
    cases hnext : nextCode? m t with
    | none =>
      rw [encodeGo?_of_nextCode?_none hnext h]
      simp
    | some k =>
      obtain ⟨out, v, rest, hpass, hrest, rfl⟩ := encodeGo?_of_nextCode? hnext h
      exact List.forall_mem_append.2 ⟨isCode_of_mem_writePass hpass, ih hrest⟩

theorem parts_of_hyphen_not_mem {tail : Text} (h : '-' ∉ tail) : parts tail = ([], tail) := by
  have hall : ∀ c ∈ tail.reverse, (c != '-') = true := by
    intro c hc
    rw [List.mem_reverse] at hc
    simpa using fun hd : c = '-' => h (hd ▸ hc)
  simp [parts, List.takeWhile_eq_self_iff.2 hall]

theorem parts_append (ascii : Text) {tail : Text} (h : '-' ∉ tail) :
    parts (ascii ++ '-' :: tail) = (ascii, tail) := by
  have hall : ∀ c ∈ tail.reverse, (c != '-') = true := by
    intro c hc
    rw [List.mem_reverse] at hc
    simpa using fun hd : c = '-' => h (hd ▸ hc)
  have htail : ((ascii ++ '-' :: tail).reverse.takeWhile (· != '-')).reverse = tail := by
    rw [List.reverse_append, List.reverse_cons, List.append_assoc,
      List.takeWhile_append_of_pos hall]
    simp
  have hne : ¬tail.length = (ascii ++ '-' :: tail).length := by
    simp only [List.length_append, List.length_cons]
    omega
  have hfront : (ascii ++ '-' :: tail).length - tail.length - 1 = ascii.length := by
    simp only [List.length_append, List.length_cons]
    omega
  simp only [parts, htail, beq_iff_eq, if_neg hne, hfront, List.take_left]

theorem decode?_encode? {t code : Text} (h : encode? t = some code) : decode? code = some t := by
  obtain ⟨tail, htail, hcode⟩ := Option.bind_eq_some_iff.1 h
  have hhyphen : '-' ∉ tail := fun hd => by
    have := isCode_of_mem_encodeGo htail '-' hd
    revert this
    decide
  have hascii (c : Char) : Text.isAscii c = decide (c.toNat < 128) := rfl
  have hparts : parts code = (t.filter Text.isAscii, tail) := by
    obtain rfl : _ = code := Option.some.inj hcode
    cases hempty : t.filter Text.isAscii with
    | nil => simpa using parts_of_hyphen_not_mem hhyphen
    | cons c cs => simpa using parts_append (c :: cs) hhyphen
  have hstart : Abreast (t.filter Text.isAscii).length 128 0
      ⟨0, 72, (t.filter Text.isAscii).length⟩ 128 0 :=
    ⟨Nat.le_refl _, by simp, by simp, Nat.le_refl _⟩
  have hrun := decodeGo_encodeGo htail hstart rfl (Nat.lt_succ_self tail.length)
  have hall : (t.filter Text.isAscii).all Text.isAscii := by
    rw [List.all_eq_true]
    exact fun c hc => (List.mem_filter.1 hc).2
  simp only [decode?, hparts, hall, if_true]
  exact hrun

theorem mem_encode? {t code : Text} (h : encode? t = some code) :
    ∀ c ∈ code, (c ∈ t ∧ Text.isAscii c) ∨ c = '-' ∨ isCode c := by
  obtain ⟨tail, htail, hcode⟩ := Option.bind_eq_some_iff.1 h
  obtain rfl : _ = code := Option.some.inj hcode
  intro c hc
  obtain hc | hc := List.mem_append.1 hc
  · obtain hc | hc := List.mem_append.1 hc
    · exact .inl (List.mem_filter.1 hc)
    · right
      left
      split at hc
      · cases hc
      · simpa using hc
  · exact .inr (.inr (isCode_of_mem_encodeGo htail c hc))

theorem subset_encode? {t code : Text} (h : encode? t = some code) :
    t.filter Text.isAscii ⊆ code := by
  obtain ⟨tail, -, hcode⟩ := Option.bind_eq_some_iff.1 h
  obtain rfl : _ = code := Option.some.inj hcode
  intro c hc
  exact List.mem_append_left _ (List.mem_append_left _ hc)

end EndpointScout.Url.Punycode
