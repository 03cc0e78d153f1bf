import EndpointScout.Url.Address
import EndpointScout.Proofs.Text.Decimal
import EndpointScout.Proofs.Text.Split
import Mathlib.Data.List.TakeWhile

/-! Numeric hosts are read back from their written form. -/
namespace EndpointScout.Url
open Text

theorem ipv4Part?_ofNat {n : Nat} (hn : n < 256) : ipv4Part? (ofNat n) = some (some n) := by
  have h : ∀ n < 256, ipv4Part? (ofNat n) = some (some n) := by decide +kernel
  exact h n hn

theorem dot_not_mem_ofNat (n : Nat) : '.' ∉ ofNat n := fun h => by
  have := isDigit_of_mem_ofNat '.' h
  revert this
  decide

theorem splitAt_ipv4Text (n : Nat) : splitAt '.' (ipv4Text n) =
    [ofNat (n / 0x1000000 % 256), ofNat (n / 0x10000 % 256), ofNat (n / 0x100 % 256),
      ofNat (n % 256)] :=
  splitAt_join (List.cons_ne_nil _ _) (by simp [dot_not_mem_ofNat])

theorem endsInNumber_ipv4Text (n : Nat) : endsInNumber (ipv4Text n) := by
  have hne := ofNat_ne_nil (n % 256)
  have hdigits : (ofNat (n % 256)).all isDigit := List.all_eq_true.2 isDigit_of_mem_ofNat
  rw [endsInNumber, splitAt_ipv4Text]
  simp [hne, hdigits]

theorem frontValue_three (a b c : Nat) :
    frontValue [a, b, c] = a * 0x1000000 + b * 0x10000 + c * 0x100 := by
  rw [frontValue, frontValue, frontValue, frontValue]
  omega

theorem ipv4?_of_bytes {t : Text} {a b c d : Nat} (ha : a < 256) (hb : b < 256) (hc : c < 256)
    (hd : d < 256) (h : splitAt '.' t = [ofNat a, ofNat b, ofNat c, ofNat d]) :
    ipv4? t = some (frontValue [a, b, c] + d) := by
  have hlast : ¬256 ≤ d := by omega
  have hfront : ¬(255 < a ∨ 255 < b ∨ 255 < c) := by omega
  simp [ipv4?, h, ofNat_ne_nil, ipv4Part?_ofNat, ha, hb, hc, hd, hlast, hfront]

theorem ipv4?_ipv4Text {n : Nat} (hn : n < 0x100000000) : ipv4? (ipv4Text n) = some n := by
  have hlt (k : Nat) : k % 256 < 256 := Nat.mod_lt k (by decide)
  have hsum : n / 0x1000000 % 256 * 0x1000000 + n / 0x10000 % 256 * 0x10000 +
      n / 0x100 % 256 * 0x100 + n % 256 = n := by
    omega
  rw [ipv4?_of_bytes (hlt _) (hlt _) (hlt _) (hlt _) (splitAt_ipv4Text n), frontValue_three, hsum]

theorem frontValue_add_lt {front : List Nat} {last : Nat} (hlen : front.length ≤ 3)
    (hfront : ∀ n ∈ front, n ≤ 255) (hlast : last < 0x100000000 >>> (8 * front.length)) :
    frontValue front + last < 0x100000000 := by
  match front, hlen with
  | [], _ =>
    simp only [List.length_nil, Nat.reduceMul, Nat.reduceShiftRight] at hlast
    rw [frontValue]
    omega
  | [a], _ =>
    simp only [List.length_cons, List.length_nil, Nat.reduceAdd, Nat.reduceMul,
      Nat.reduceShiftRight] at hlast
    have ha := hfront a (by simp)
    rw [frontValue, frontValue]
    omega
  | [a, b], _ =>
    simp only [List.length_cons, List.length_nil, Nat.reduceAdd, Nat.reduceMul,
      Nat.reduceShiftRight] at hlast
    have ha := hfront a (by simp)
    have hb := hfront b (by simp)
    rw [frontValue, frontValue, frontValue]
    omega
  | [a, b, c], _ =>
    simp only [List.length_cons, List.length_nil, Nat.reduceAdd, Nat.reduceMul,
      Nat.reduceShiftRight] at hlast
    have ha := hfront a (by simp)
    have hb := hfront b (by simp)
    have hc := hfront c (by simp)
    rw [frontValue_three]
    omega

theorem ipv4?_lt {t : Text} {n : Nat} (h : ipv4? t = some n) : n < 0x100000000 := by
  simp only [ipv4?] at h
  generalize (if (splitAt '.' t).getLast? == some [] then _ else _) = parts at h
  split at h
  · cases h
  rename_i hparts
  obtain ⟨numbers, hnumbers, h⟩ := Option.bind_eq_some_iff.1 h
  obtain ⟨last, hlast, h⟩ := Option.bind_eq_some_iff.1 h
  split at h
  · cases h
  rename_i hbounds
  obtain rfl := Option.some.inj h
  have hlen := length_of_mapM hnumbers
  have hpos := List.length_pos_of_mem (List.mem_of_getLast? hlast)
  simp only [Bool.or_eq_true, decide_eq_true_eq, not_or, List.any_eq_true, not_exists,
    not_and] at hbounds
  refine frontValue_add_lt ?_ (fun n hn => Nat.not_lt.1 (hbounds.2 n hn)) (Nat.not_le.1 hbounds.1)
  rw [List.length_dropLast]
  omega

theorem colon_not_mem_hex (n : Nat) : ':' ∉ hex n := fun h => (mem_hex h).2.1 rfl

theorem dot_not_mem_hex (n : Nat) : '.' ∉ hex n := fun h => (mem_hex h).2.2 rfl

theorem all_isHexDigit_hex (n : Nat) : (hex n).all isHexDigit :=
  List.all_eq_true.2 fun _ hc => (mem_hex hc).1

theorem isPiece_hex {n : Nat} (hn : n < 65536) :
    ¬((hex n).isEmpty || (hex n).length > 4 || !(hex n).all isHexDigit) = true := by
  have hlen : ¬4 < (hex n).length := Nat.not_lt.2 (length_hex hn)
  simp only [List.isEmpty_iff, Bool.or_eq_true, hex_ne_nil, decide_eq_true_eq, hlen,
    all_isHexDigit_hex, Bool.not_true, Bool.false_eq_true, or_self, not_false_eq_true]

theorem ipv6Pieces?_map_hex {ps : List Nat} (h : ∀ p ∈ ps, p < 65536) :
    ipv6Pieces? (ps.map hex) = some ps := by
  have hvalue (n : Nat) : (hex n).foldl (fun n c => n * 16 + (hexValue? c).getD 0) 0 = n :=
    hexDigits_hex n
  induction ps with
  | nil => rfl
  | cons p ps ih =>
    obtain ⟨hp, hps⟩ := List.forall_mem_cons.1 h
    cases ps with
    | nil =>
      have hdot : ¬(hex p).contains '.' = true := by simpa using dot_not_mem_hex p
      rw [List.map_singleton, ipv6Pieces?, if_neg hdot, if_neg (isPiece_hex hp), hvalue]
    | cons q qs =>
      rw [List.map_cons, ipv6Pieces?, if_neg (isPiece_hex hp), ih hps, hvalue]
      · rfl
      · simp

theorem join_map_hex_ne_nil {ps : List Nat} (h : ps ≠ []) : join [':'] (ps.map hex) ≠ [] := by
  cases ps with
  | nil => exact absurd rfl h
  | cons p ps =>
    have hmem : hex p ∈ (p :: ps).map hex := List.mem_map_of_mem List.mem_cons_self
    have hsub := subset_join (g := [':']) hmem
    intro hnil
    rw [hnil] at hsub
    exact hex_ne_nil p (List.subset_nil.1 hsub)

theorem dot_not_mem_join_hex (ps : List Nat) : '.' ∉ join [':'] (ps.map hex) := fun h => by
  obtain h | ⟨p, hp, h⟩ := mem_join h
  · revert h
    decide
  · obtain ⟨n, -, rfl⟩ := List.mem_map.1 hp
    exact dot_not_mem_hex n h

theorem splitAt_join_hex {ps : List Nat} (h : ps ≠ []) :
    splitAt ':' (join [':'] (ps.map hex)) = ps.map hex :=
  splitAt_join (by simpa using h) (by simpa using fun p _ => colon_not_mem_hex p)

theorem ipv6Side?_join_hex {ps : List Nat} (h : ∀ p ∈ ps, p < 65536) :
    ipv6Side? (join [':'] (ps.map hex)) = some ps := by
  by_cases hps : ps = []
  · rw [hps]
    rfl
  · have hne := join_map_hex_ne_nil hps
    rw [ipv6Side?, if_neg (by simpa using hne), splitAt_join_hex hps, ipv6Pieces?_map_hex h]

theorem cutDouble?_append {p : Text} (hp : ':' ∉ p) (t : Text) :
    cutDouble? (p ++ t) = (cutDouble? t).map fun q => (p ++ q.1, q.2) := by
  induction p with
  | nil => simp
  | cons c p ih =>
    rw [List.mem_cons, not_or] at hp
    rw [List.cons_append, cutDouble?, ih hp.2, Option.map_map]
    · rfl
    · exact fun _ hc => absurd hc (Ne.symm hp.1)

theorem cutDouble?_colon {t : Text} (h : t.head? ≠ some ':') :
    cutDouble? (':' :: t) = (cutDouble? t).map fun q => (':' :: q.1, q.2) := by
  rw [cutDouble?]
  rintro u hu rfl
  simp at h

theorem head?_join_hex (p : Nat) (ps : List Nat) (t : Text) :
    (join [':'] ((p :: ps).map hex) ++ t).head? ≠ some ':' := by
  obtain ⟨c, cs, hc⟩ := List.exists_cons_of_ne_nil (hex_ne_nil p)
  have hcolon : c ≠ ':' := fun h => colon_not_mem_hex p (by simp [hc, h])
  cases ps <;> simpa [join, hc] using hcolon

theorem cutDouble?_join_hex (ps : List Nat) (t : Text) :
    cutDouble? (join [':'] (ps.map hex) ++ t) =
      (cutDouble? t).map fun q => (join [':'] (ps.map hex) ++ q.1, q.2) := by
  induction ps with
  | nil => simp [join]
  | cons p ps ih =>
    cases ps with
    | nil => exact cutDouble?_append (colon_not_mem_hex p) t
    | cons q qs =>
      have hjoin : join [':'] ((p :: q :: qs).map hex) =
          hex p ++ ':' :: join [':'] ((q :: qs).map hex) := by
        simp [join]
      rw [hjoin, List.append_assoc, cutDouble?_append (colon_not_mem_hex p), List.cons_append,
        cutDouble?_colon (head?_join_hex q qs t), ih, Option.map_map, Option.map_map]
      simp [Function.comp_def]

theorem takeWhile_zeros (ps : List Nat) :
    ps.takeWhile (· == 0) = List.replicate (zeroRun ps) 0 :=
  List.eq_replicate_iff.2 ⟨rfl, fun n hn => by simpa using (List.mem_takeWhile_imp hn)⟩

theorem longestZeros_spec {i start size : Nat} {ps : List Nat}
    (h : longestZeros i ps = (start, size)) (hsize : 0 < size) :
    ∃ front back, ps = front ++ List.replicate size 0 ++ back ∧ start = i + front.length := by
  induction ps generalizing i start size with
  | nil =>
    obtain ⟨rfl, rfl⟩ := Prod.mk.inj h
    omega
  | cons p ps ih =>
    rw [longestZeros] at h
    cases hrest : longestZeros (i + 1) ps with
    | mk start' size' =>
      simp only [hrest] at h
      split at h
      · obtain ⟨rfl, rfl⟩ := Prod.mk.inj h
        refine ⟨[], (p :: ps).dropWhile (· == 0), ?_, rfl⟩
        rw [List.nil_append, ← takeWhile_zeros, List.takeWhile_append_dropWhile]
      · obtain ⟨rfl, rfl⟩ := Prod.mk.inj h
        obtain ⟨front, back, rfl, hstart⟩ := ih hrest hsize
        exact ⟨p :: front, back, rfl, by rw [hstart, List.length_cons]; omega⟩

/-- Eight pieces of sixteen bits. -/
structure IsIpv6 (ps : List Nat) : Prop where
  length_eq : ps.length = 8
  lt : ∀ p ∈ ps, p < 65536

theorem ipv6?_ipv6Text {ps : List Nat} (h : IsIpv6 ps) : ipv6? (ipv6Text ps) = some ps := by
  cases hrun : longestZeros 0 ps with
  | mk start size =>
    simp only [ipv6Text, hrun]
    split
    · have hne : ps ≠ [] := List.ne_nil_of_length_pos (by rw [h.length_eq]; decide)
      have hcut := cutDouble?_join_hex ps []
      rw [List.append_nil] at hcut
      simp [ipv6?, hcut, cutDouble?, splitAt_join_hex hne, ipv6Pieces?_map_hex h.lt, h.length_eq]
    · obtain ⟨front, back, rfl, rfl⟩ := longestZeros_spec hrun (by omega)
      have hfront : ∀ p ∈ front, p < 65536 := fun p hp => h.lt p (by simp [hp])
      have hback : ∀ p ∈ back, p < 65536 := fun p hp => h.lt p (by simp [hp])
      have htake : (front ++ List.replicate size 0 ++ back).take (0 + front.length) = front := by
        simp
      have hdrop :
          (front ++ List.replicate size 0 ++ back).drop (0 + front.length + size) = back := by
        rw [List.drop_append_of_le_length] <;> simp
      have hcut : cutDouble?
          (join [':'] (front.map hex) ++ "::".toList ++ join [':'] (back.map hex)) =
          some (join [':'] (front.map hex), join [':'] (back.map hex)) := by
        rw [List.append_assoc, cutDouble?_join_hex]
        simp [cutDouble?]
      have hdot : ¬(join [':'] (front.map hex)).contains '.' = true := by
        simpa using dot_not_mem_join_hex front
      have hlen := h.length_eq
      simp only [List.length_append, List.length_replicate] at hlen
      have hfew : ¬front.length + back.length > 7 := by omega
      have hzeros : 8 - front.length - back.length = size := by omega
      rw [htake, hdrop, ipv6?, hcut]
      simp only [if_neg hdot, ipv6Side?_join_hex hfront, ipv6Side?_join_hex hback, bind,
        Option.bind, if_neg hfew, hzeros]

theorem embeddedIpv4?_lt {t : Text} {ps : List Nat} (h : embeddedIpv4? t = some ps) :
    ∀ p ∈ ps, p < 65536 := by
  obtain ⟨bytes, hbytes, h⟩ := Option.bind_eq_some_iff.1 h
  have hlt : ∀ b ∈ bytes, b < 256 := by
    refine forall_of_mapM (fun p b hb => ?_) hbytes
    split at hb
    · cases hb
    · obtain ⟨n, -, hb⟩ := Option.bind_eq_some_iff.1 hb
      split at hb
      · cases hb
        assumption
      · cases hb
  split at h
  · obtain rfl := Option.some.inj h
    simp only [List.forall_mem_cons] at hlt
    simp
    omega
  · cases h

theorem hexDigits_piece_lt {p : Text}
    (h : ¬(p.isEmpty || p.length > 4 || !p.all isHexDigit) = true) :
    p.foldl (fun n c => n * 16 + (hexValue? c).getD 0) 0 < 65536 := by
  have hlen : p.length ≤ 4 := by
    simp only [Bool.or_eq_true, decide_eq_true_eq, not_or] at h
    omega
  have hlt : hexDigits 0 p < (0 + 1) * 16 ^ p.length := hexDigits_lt 0 p
  have hpow : 16 ^ p.length ≤ 16 ^ 4 := Nat.pow_le_pow_right (by decide) hlen
  have hvalue : hexDigits 0 p < 65536 := by omega
  exact hvalue

theorem ipv6Pieces?_lt {ts : List Text} {ps : List Nat} (h : ipv6Pieces? ts = some ps) :
    ∀ p ∈ ps, p < 65536 := by
  fun_induction ipv6Pieces? ts generalizing ps with
  | case1 =>
    cases h
    simp
  | case2 => exact embeddedIpv4?_lt h
  | case3 => cases h
  | case4 p _ hp =>
    cases h
    simpa using hexDigits_piece_lt hp
  | case5 => cases h
  | case6 p ps _ hp ih =>
    obtain ⟨qs, hqs, rfl⟩ := Option.map_eq_some_iff.1 h
    exact List.forall_mem_cons.2 ⟨hexDigits_piece_lt hp, ih hqs⟩

theorem isIpv6_of_ipv6? {t : Text} {ps : List Nat} (h : ipv6? t = some ps) : IsIpv6 ps := by
  have hside {u : Text} {qs : List Nat} (hu : ipv6Side? u = some qs) : ∀ q ∈ qs, q < 65536 := by
    rw [ipv6Side?] at hu
    split at hu
    · cases hu
      simp
    · exact ipv6Pieces?_lt hu
  rw [ipv6?] at h
  split at h
  · split at h
    · cases h
    obtain ⟨a, ha, h⟩ := Option.bind_eq_some_iff.1 h
    obtain ⟨b, hb, h⟩ := Option.bind_eq_some_iff.1 h
    split at h
    · cases h
    obtain rfl := Option.some.inj h
    refine ⟨?_, ?_⟩
    · simp only [List.length_append, List.length_replicate]
      omega
    · intro p hp
      obtain hp | hp := List.mem_append.1 hp
      · obtain hp | hp := List.mem_append.1 hp
        · exact hside ha p hp
        · rw [List.eq_of_mem_replicate hp]
          decide
      · exact hside hb p hp
  · obtain ⟨qs, hqs, h⟩ := Option.bind_eq_some_iff.1 h
    split at h
    · rename_i hlen
      obtain rfl := Option.some.inj h
      exact ⟨by simpa using hlen, ipv6Pieces?_lt hqs⟩
    · cases h

end EndpointScout.Url
