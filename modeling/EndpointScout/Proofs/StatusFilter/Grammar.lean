import EndpointScout.Proofs.Text.Ascii
import EndpointScout.Proofs.Text.Decimal
import EndpointScout.Proofs.Text.Split
import EndpointScout.Proofs.Text.Trim
import EndpointScout.StatusFilter
import Mathlib.Data.Set.Card

/-! The grammar of status filters. A filter is read if and only if all of its tokens belong to the
grammar, it then stands for the codes of all of them together, and otherwise the leftmost token
that does not belong to it decides the error. -/
namespace EndpointScout.StatusFilter
open Text (digitChar isBlank isDigit trim)

inductive IsCode : Text → Nat → Prop
  | digits {a b c : Nat} (ha : a < 10) (hb : b < 10) (hc : c < 10) :
      IsCode [digitChar a, digitChar b, digitChar c] (100 * a + 10 * b + c)

inductive IsSpan : Text → Nat → Nat → Prop
  | dash {first before after last : Text} {m n : Nat} (hfirst : IsCode first m)
      (hbefore : ∀ c ∈ before, isBlank c) (hafter : ∀ c ∈ after, isBlank c)
      (hlast : IsCode last n) : IsSpan (first ++ (before ++ '-' :: (after ++ last))) m n

inductive IsFamily : Text → Nat → Prop
  | letters {a : Nat} {x y : Char} (ha : a < 10) (hx : x = 'x' ∨ x = 'X')
      (hy : y = 'x' ∨ y = 'X') : IsFamily [digitChar a, x, y] a

/-- The tokens of the grammar: a code, all codes that begin with a digit, or the codes from one to
another. -/
inductive Denotes : Text → CodeRange → Prop
  | code {t : Text} {n : Nat} (h : IsCode t n) : Denotes t ⟨n, n⟩
  | family {t : Text} {a : Nat} (h : IsFamily t a) : Denotes t ⟨100 * a, 100 * a + 99⟩
  | span {t : Text} {m n : Nat} (h : IsSpan t m n) (hle : m ≤ n) : Denotes t ⟨m, n⟩

inductive IsFault : Text → FilterError → Prop
  | empty : IsFault [] .emptyToken
  | reversed {t : Text} {m n : Nat} (h : IsSpan t m n) (hlt : n < m) :
      IsFault t (.reversedRange t)
  | invalid {t : Text} (hne : t ≠ []) (htoken : ∀ r, ¬Denotes t r) (hspan : ∀ m n, ¬IsSpan t m n) :
      IsFault t (.invalidToken t)

def tokens (input : Text) : List Text := (Text.splitAt ',' input).map trim

section Code
variable {t : Text} {n : Nat}

theorem exists_digitChar {c : Char} (h : isDigit c) : ∃ a < 10, c = digitChar a := by
  have hcodes : ∀ n < 128, isDigit (Char.ofNat n) = true →
      ∃ a < 10, Char.ofNat n = digitChar a := by
    decide
  have hn : c.toNat < 128 := by simpa [Text.isAscii] using Text.isAscii_of_isDigit h
  have hc := hcodes c.toNat hn
  rw [Char.ofNat_toNat] at hc
  exact hc h

theorem code?_digits {a b c : Nat} (ha : a < 10) (hb : b < 10) (hc : c < 10) :
    code? [digitChar a, digitChar b, digitChar c] = some (100 * a + 10 * b + c) := by
  have hdigits : [digitChar a, digitChar b, digitChar c].all isDigit = true := by
    simp [Text.isDigit_digitChar ha, Text.isDigit_digitChar hb, Text.isDigit_digitChar hc]
  have hvalue : Text.digitsValue 0 [digitChar a, digitChar b, digitChar c] =
      100 * a + 10 * b + c := by
    rw [Text.digitsValue_cons ha, Text.digitsValue_cons hb, Text.digitsValue_cons hc]
    simp only [Text.digitsValue, List.foldl_nil]
    omega
  simp [code?, Text.toNat?, hdigits, hvalue]

theorem code?_eq_some_iff : code? t = some n ↔ IsCode t n := by
  constructor
  · intro h
    rw [code?] at h
    split at h
    · rename_i hlength
      obtain ⟨x, y, z, rfl⟩ := List.length_eq_three.1 (beq_iff_eq.1 hlength)
      have hdigits : isDigit x = true ∧ isDigit y = true ∧ isDigit z = true := by
        rw [Text.toNat?] at h
        split at h
        · rename_i hall
          simpa using hall
        · cases h
      obtain ⟨a, ha, rfl⟩ := exists_digitChar hdigits.1
      obtain ⟨b, hb, rfl⟩ := exists_digitChar hdigits.2.1
      obtain ⟨c, hc, rfl⟩ := exists_digitChar hdigits.2.2
      have hread := code?_digits ha hb hc
      rw [code?, if_pos hlength, h] at hread
      obtain rfl := Option.some.inj hread
      exact .digits ha hb hc
    · cases h
  · rintro ⟨ha, hb, hc⟩
    exact code?_digits ha hb hc

theorem IsCode.isDigit (h : IsCode t n) : ∀ c ∈ t, isDigit c := by
  obtain ⟨ha, hb, hc⟩ := h
  simp [Text.isDigit_digitChar, ha, hb, hc]

theorem IsCode.not_isBlank (h : IsCode t n) : ∀ c ∈ t, isBlank c = false := by
  intro c hc
  have hdigits : ∀ a < 10, isBlank (digitChar a) = false := by decide
  obtain ⟨a, ha, rfl⟩ := exists_digitChar (h.isDigit c hc)
  exact hdigits a ha

theorem IsCode.dash_notMem (h : IsCode t n) : '-' ∉ t := fun hdash => by
  have hdigit := h.isDigit _ hdash
  revert hdigit
  decide

theorem IsCode.ne_nil (h : IsCode t n) : t ≠ [] := by
  obtain ⟨ha, hb, hc⟩ := h
  exact List.cons_ne_nil _ _

end Code

section Token
variable {t : Text} {r : CodeRange} {m n : Nat}

theorem asciiLowerChar_spec (c : Char) :
    (Text.asciiLowerChar c = 'x' ↔ c = 'x' ∨ c = 'X') ∧
      (isDigit (Text.asciiLowerChar c) = true → Text.asciiLowerChar c = c) := by
  have hcodes : ∀ n < 128, (Text.asciiLowerChar (Char.ofNat n) = 'x' ↔
      Char.ofNat n = 'x' ∨ Char.ofNat n = 'X') ∧
      (isDigit (Text.asciiLowerChar (Char.ofNat n)) = true →
        Text.asciiLowerChar (Char.ofNat n) = Char.ofNat n) := by
    decide
  by_cases hc : c.toNat < 128
  · simpa using hcodes c.toNat hc
  · have hkept : Text.asciiLowerChar c = c := if_neg fun hletter => by
      simp only [Bool.and_eq_true, decide_eq_true_eq] at hletter
      exact hc (of_decide_eq_true (Text.isAscii_of_le hletter.2 (by decide)))
    have hne : c ≠ 'X' := by
      rintro rfl
      exact hc (by decide)
    simp [hkept, hne]

theorem class?_family {a : Nat} {x y : Char} (ha : a < 10) (hx : x = 'x' ∨ x = 'X')
    (hy : y = 'x' ∨ y = 'X') :
    class? [digitChar a, x, y] = some ⟨100 * a, 100 * a + 99⟩ := by
  have hdigits : ∀ a < 10, Text.asciiLowerChar (digitChar a) = digitChar a ∧
      isDigit (digitChar a) = true ∧ (digitChar a).toNat - '0'.toNat = a := by decide
  obtain ⟨hlower, hdigit, hvalue⟩ := hdigits a ha
  have htext : Text.asciiLower [digitChar a, x, y] = [digitChar a, 'x', 'x'] := by
    rw [Text.asciiLower, List.map_cons, List.map_cons, List.map_cons, hlower,
      (asciiLowerChar_spec x).1.2 hx, (asciiLowerChar_spec y).1.2 hy, List.map_nil]
  simp only [class?, htext, hdigit, if_true, hvalue, Nat.mul_comm]

theorem class?_eq_some (h : class? t = some r) :
    ∃ a, IsFamily t a ∧ r = ⟨100 * a, 100 * a + 99⟩ := by
  have hread := h
  rw [class?] at h
  split at h
  · rename_i d hlower
    split at h
    · rename_i hdigit
      have hlength : t.length = 3 := by simpa [Text.asciiLower] using congrArg List.length hlower
      obtain ⟨c, x, y, rfl⟩ := List.length_eq_three.1 hlength
      simp only [Text.asciiLower, List.map_cons, List.map_nil, List.cons.injEq, and_true] at hlower
      obtain ⟨rfl, hx, hy⟩ := hlower
      have hx := (asciiLowerChar_spec x).1.1 hx
      have hy := (asciiLowerChar_spec y).1.1 hy
      rw [(asciiLowerChar_spec c).2 hdigit] at hdigit
      obtain ⟨a, ha, rfl⟩ := exists_digitChar hdigit
      rw [class?_family ha hx hy] at hread
      exact ⟨a, .letters ha hx hy, (Option.some.inj hread).symm⟩
    · cases h
  · cases h

theorem IsFamily.dash_notMem {a : Nat} (h : IsFamily t a) : '-' ∉ t := by
  have hdigits : ∀ a < 10, '-' ≠ digitChar a := by decide
  obtain ⟨ha, rfl | rfl, rfl | rfl⟩ := h <;> simp [hdigits, ha]

theorem IsFamily.not_isCode {a : Nat} (h : IsFamily t a) : ¬IsCode t n := by
  have hletters : ∀ x, x = 'x' ∨ x = 'X' → ¬isDigit x = true := by
    rintro x (rfl | rfl) <;> decide
  obtain @⟨a, x, y, -, hx, -⟩ := h
  exact fun hcode => hletters x hx (hcode.isDigit x (by simp))

end Token

section Reading
variable {t : Text} {r : CodeRange} {e : FilterError} {m n : Nat}

theorem parseToken_of_code (h : IsCode t n) : parseToken t = .ok ⟨n, n⟩ := by
  rw [parseToken, code?_eq_some_iff.2 h]

theorem parseToken_of_family {a : Nat} (h : IsFamily t a) :
    parseToken t = .ok ⟨100 * a, 100 * a + 99⟩ := by
  have hcode : code? t = none :=
    Option.eq_none_iff_forall_ne_some.2 fun k hk => h.not_isCode (code?_eq_some_iff.1 hk)
  obtain ⟨ha, hx, hy⟩ := h
  rw [parseToken, hcode, class?_family ha hx hy]

theorem trim_of_isCode {front back : Text} (h : IsCode t n) (hfront : ∀ c ∈ front, isBlank c)
    (hback : ∀ c ∈ back, isBlank c) : trim (front ++ (t ++ back)) = t := by
  rw [trim, Text.trimWhile_append hfront hback, Text.trimWhile_of_forall h.not_isBlank]

theorem IsSpan.dash_mem (h : IsSpan t m n) : '-' ∈ t := by
  obtain ⟨-, -, -, -⟩ := h
  simp

theorem parseToken_of_span (h : IsSpan t m n) :
    parseToken t = if n < m then .error (.reversedRange t) else .ok ⟨m, n⟩ := by
  have hcode : code? t = none := Option.eq_none_iff_forall_ne_some.2 fun k hk =>
    (code?_eq_some_iff.1 hk).dash_notMem h.dash_mem
  have hclass : class? t = none := Option.eq_none_iff_forall_ne_some.2 fun k hk => by
    obtain ⟨a, ha, -⟩ := class?_eq_some hk
    exact ha.dash_notMem h.dash_mem
  rw [parseToken, hcode, hclass]
  obtain @⟨first, before, after, last, _, _, hfirst, hbefore, hafter, hlast⟩ := h
  have hdash : '-' ∉ first ++ before := by
    rw [List.mem_append, not_or]
    refine ⟨hfirst.dash_notMem, fun hmem => ?_⟩
    have hblank := hbefore _ hmem
    revert hblank
    decide
  have hcut : Text.cutAt? '-' (first ++ (before ++ '-' :: (after ++ last))) =
      some (first ++ before, after ++ last) := by
    rw [← List.append_assoc, Text.cutAt?_append hdash]
  have hnone : ∀ c ∈ ([] : Text), isBlank c := by simp
  have hleft : trim (first ++ before) = first := trim_of_isCode hfirst hnone hbefore
  have hright : trim (after ++ last) = last := by
    simpa using trim_of_isCode hlast hafter hnone
  simp only [hcut, hleft, hright, code?_eq_some_iff.2 hfirst, code?_eq_some_iff.2 hlast]

theorem parseToken_of_denotes (h : Denotes t r) : parseToken t = .ok r := by
  cases h with
  | code h => exact parseToken_of_code h
  | family h => exact parseToken_of_family h
  | span h hle => rw [parseToken_of_span h, if_neg (Nat.not_lt.2 hle)]

theorem trim_of_isSpan (h : IsSpan t m n) : trim t = t := by
  obtain @⟨first, before, after, last, _, _, hfirst, -, -, hlast⟩ := h
  obtain ⟨c, cs, hc⟩ := List.exists_cons_of_ne_nil hfirst.ne_nil
  have hhead : isBlank c = false := hfirst.not_isBlank c (by simp [hc])
  have hend : Text.dropEndWhile isBlank last = last :=
    Text.dropEndWhile_of_forall hlast.not_isBlank
  have hdrop : (first ++ (before ++ '-' :: (after ++ last))).dropWhile isBlank =
      first ++ (before ++ '-' :: (after ++ last)) := by
    rw [hc, List.cons_append, List.dropWhile_cons_of_neg (by simp [hhead])]
  rw [trim, Text.trimWhile, hdrop, ← List.append_assoc, Text.dropEndWhile_append_cons (by decide),
    Text.dropEndWhile_append, hend, if_neg hlast.ne_nil]

/-- Codes on the two sides of a dash make a span: what is trimmed away in front of the first and
behind the last is at the ends of the text, which have no blanks. -/
theorem isSpan_of_cutAt? {first last : Text} (ht : trim t = t)
    (hcut : Text.cutAt? '-' t = some (first, last)) (hfirst : IsCode (trim first) m)
    (hlast : IsCode (trim last) n) : IsSpan t m n := by
  obtain ⟨front, before, hleft, hfront, hbefore⟩ := Text.exists_trimWhile isBlank first
  obtain ⟨after, back, hright, hafter, hback⟩ := Text.exists_trimWhile isBlank last
  have hspan : IsSpan (trim first ++ (before ++ '-' :: (after ++ trim last))) m n :=
    .dash hfirst hbefore hafter hlast
  have hwhole : t = front ++ (trim first ++ (before ++ '-' :: (after ++ trim last)) ++ back) := by
    rw [Text.cutAt?_eq_some hcut]
    conv_lhs => rw [hleft, hright]
    simp [trim]
  have hsame : t = trim first ++ (before ++ '-' :: (after ++ trim last)) := by
    conv_lhs => rw [← ht, hwhole, trim, Text.trimWhile_append hfront hback]
    exact trim_of_isSpan hspan
  rwa [hsame]

theorem parseToken_of_invalid (ht : trim t = t) (htoken : ∀ r, ¬Denotes t r)
    (hspan : ∀ m n, ¬IsSpan t m n) : parseToken t = .error (.invalidToken t) := by
  rw [parseToken]
  split
  · rename_i n hcode
    exact absurd (.code (code?_eq_some_iff.1 hcode)) (htoken ⟨n, n⟩)
  · rename_i hclass
    obtain ⟨a, ha, rfl⟩ := class?_eq_some hclass
    exact absurd (.family ha) (htoken _)
  · rename_i first last _ _ hcut
    split
    · rename_i m n hfirst hlast
      exact absurd (isSpan_of_cutAt? ht hcut (code?_eq_some_iff.1 hfirst)
        (code?_eq_some_iff.1 hlast)) (hspan m n)
    · rfl
  · rfl

def readToken (t : Text) : Except FilterError CodeRange :=
  if t.isEmpty then .error .emptyToken else parseToken t

theorem not_denotes_nil (r : CodeRange) : ¬Denotes [] r := by
  intro h
  have hread := parseToken_of_denotes h
  cases hread

theorem readToken_of_denotes (h : Denotes t r) : readToken t = .ok r := by
  have hne : ¬t.isEmpty = true := by
    rw [List.isEmpty_iff]
    rintro rfl
    exact not_denotes_nil r h
  rw [readToken, if_neg hne, parseToken_of_denotes h]

theorem readToken_of_isFault (ht : trim t = t) (h : IsFault t e) : readToken t = .error e := by
  cases h with
  | empty => rfl
  | reversed h hlt =>
    have hne : ¬t.isEmpty = true := by
      rw [List.isEmpty_iff]
      rintro rfl
      cases h.dash_mem
    rw [readToken, if_neg hne, parseToken_of_span h, if_pos hlt]
  | invalid hne htoken hspan =>
    rw [readToken, if_neg (by simpa using hne), parseToken_of_invalid ht htoken hspan]

theorem denotes_or_isFault (t : Text) : (∃ r, Denotes t r) ∨ ∃ e, IsFault t e := by
  by_cases htoken : ∃ r, Denotes t r
  · exact .inl htoken
  have htoken := not_exists.1 htoken
  refine .inr ?_
  by_cases hspan : ∃ m n, IsSpan t m n
  · obtain ⟨m, n, hspan⟩ := hspan
    exact ⟨_, .reversed hspan (Nat.not_le.1 fun hle => htoken _ (.span hspan hle))⟩
  by_cases hne : t = []
  · rw [hne]
    exact ⟨_, .empty⟩
  · exact ⟨_, .invalid hne htoken fun m n h => hspan ⟨m, n, h⟩⟩

end Reading

/-- The leftmost text that is no token has the fault. -/
def FirstFault (ts : List Text) (e : FilterError) : Prop :=
  ∃ before t after, ts = before ++ t :: after ∧ (∀ s ∈ before, ∃ r, Denotes s r) ∧ IsFault t e

/-- Some token of the filter stands for the code. -/
def Covers (input : Text) (code : Nat) : Prop :=
  ∃ t ∈ tokens input, ∃ r, Denotes t r ∧ r.low ≤ code ∧ code ≤ r.high

section Tokens
variable {pieces ts : List Text} {rs : List CodeRange} {e : FilterError}

theorem parseTokens_cons (piece : Text) (pieces : List Text) : parseTokens (piece :: pieces) =
    (readToken (trim piece)).bind fun r => (parseTokens pieces).map (r :: ·) := by
  rw [parseTokens, readToken]
  split
  · rfl
  · cases parseToken (trim piece) <;> rfl

theorem parseTokens_of_denotes (h : List.Forall₂ Denotes (pieces.map trim) rs) :
    parseTokens pieces = .ok rs := by
  induction pieces generalizing rs with
  | nil =>
    cases h
    rfl
  | cons piece pieces ih =>
    cases h with
    | cons hr hrs =>
      rw [parseTokens_cons, readToken_of_denotes hr, ih hrs]
      rfl

theorem parseTokens_of_firstFault (h : FirstFault (pieces.map trim) e) :
    parseTokens pieces = .error e := by
  obtain ⟨before, t, after, hsplit, hbefore, he⟩ := h
  induction before generalizing pieces with
  | nil =>
    obtain ⟨piece, rest, rfl, rfl, -⟩ := List.map_eq_cons_iff.1 hsplit
    rw [parseTokens_cons, readToken_of_isFault (Text.trim_trim piece) he]
    rfl
  | cons s before ih =>
    obtain ⟨piece, rest, rfl, rfl, hrest⟩ := List.map_eq_cons_iff.1 hsplit
    obtain ⟨⟨r, hr⟩, hbefore⟩ := List.forall_mem_cons.1 hbefore
    rw [parseTokens_cons, readToken_of_denotes hr, ih hrest hbefore]
    rfl

theorem denotes_or_firstFault (ts : List Text) :
    (∃ rs, List.Forall₂ Denotes ts rs) ∨ ∃ e, FirstFault ts e := by
  induction ts with
  | nil => exact .inl ⟨[], .nil⟩
  | cons t ts ih =>
    obtain ⟨r, hr⟩ | ⟨e, he⟩ := denotes_or_isFault t
    · obtain ⟨rs, hrs⟩ | ⟨e, before, s, after, rfl, hbefore, he⟩ := ih
      · exact .inl ⟨r :: rs, .cons hr hrs⟩
      · exact .inr ⟨e, t :: before, s, after, rfl, List.forall_mem_cons.2 ⟨⟨r, hr⟩, hbefore⟩, he⟩
    · exact .inr ⟨e, [], t, ts, rfl, by simp, he⟩

theorem mem_iff_of_denotes (h : List.Forall₂ Denotes ts rs) {r : CodeRange} :
    r ∈ rs ↔ ∃ t ∈ ts, Denotes t r := by
  induction h with
  | nil => simp
  | @cons t s ts rs hs hrs ih =>
    have hsame : Denotes t r ↔ r = s := by
      constructor
      · intro hr
        exact Except.ok.inj ((parseToken_of_denotes hr).symm.trans (parseToken_of_denotes hs))
      · rintro rfl
        exact hs
    simp [ih, hsame]

theorem exists_of_forall₂ (h : List.Forall₂ Denotes ts rs) : ∀ t ∈ ts, ∃ r, Denotes t r := by
  induction h with
  | nil => simp
  | cons hr _ ih => exact List.forall_mem_cons.2 ⟨⟨_, hr⟩, ih⟩

theorem forall₂_of_exists (h : ∀ t ∈ ts, ∃ r, Denotes t r) : ∃ rs, List.Forall₂ Denotes ts rs := by
  induction ts with
  | nil => exact ⟨[], .nil⟩
  | cons t ts ih =>
    obtain ⟨⟨r, hr⟩, hts⟩ := List.forall_mem_cons.1 h
    obtain ⟨rs, hrs⟩ := ih hts
    exact ⟨r :: rs, .cons hr hrs⟩

theorem high_lt_of_denotes {t : Text} {r : CodeRange} (h : Denotes t r) : r.high < 1000 := by
  have hcode {t : Text} {n : Nat} (h : IsCode t n) : n < 1000 := by
    obtain ⟨ha, hb, hc⟩ := h
    omega
  cases h with
  | code h => exact hcode h
  | family h =>
    obtain ⟨ha, -, -⟩ := h
    show 100 * _ + 99 < 1000
    omega
  | span h hle =>
    obtain ⟨-, -, -, hlast⟩ := h
    exact hcode hlast

end Tokens

section Filter
variable {input : Text} {f : StatusFilter} {e : FilterError}

theorem parse_of_blank (h : ∀ c ∈ input, isBlank c) : parse input = .error .empty := by
  rw [parse, if_pos (List.isEmpty_iff.2 (Text.trim_eq_nil_iff.2 h))]

theorem parse_of_not_blank (h : ¬∀ c ∈ input, isBlank c) :
    parse input = (parseTokens (Text.splitAt ',' input)).map StatusFilter.mk := by
  have hne : ¬(trim input).isEmpty = true := fun hempty =>
    h (Text.trim_eq_nil_iff.1 (List.isEmpty_iff.1 hempty))
  rw [parse, if_neg hne]

theorem tokens_of_blank (h : ∀ c ∈ input, isBlank c) : tokens input = [[]] := by
  have hcomma : ',' ∉ input := fun hmem => by
    have hblank := h _ hmem
    revert hblank
    decide
  have hnil : trim input = [] := Text.trim_eq_nil_iff.2 h
  rw [tokens, Text.splitAt_of_not_mem hcomma, List.map_singleton, hnil]

theorem parse_eq_ok_iff : parse input = .ok f ↔ List.Forall₂ Denotes (tokens input) f.ranges := by
  by_cases hblank : ∀ c ∈ input, isBlank c
  · rw [parse_of_blank hblank, tokens_of_blank hblank]
    refine iff_of_false (by simp) fun h => ?_
    obtain ⟨r, hr⟩ := exists_of_forall₂ h [] List.mem_cons_self
    exact not_denotes_nil r hr
  · rw [parse_of_not_blank hblank]
    constructor
    · intro h
      obtain ⟨rs, hrs⟩ | ⟨e, he⟩ := denotes_or_firstFault (tokens input)
      · rw [parseTokens_of_denotes hrs] at h
        obtain rfl := Except.ok.inj h
        exact hrs
      · rw [parseTokens_of_firstFault he] at h
        cases h
    · intro h
      rw [parseTokens_of_denotes h]
      rfl

theorem parse_eq_error_iff : parse input = .error e ↔ ((∀ c ∈ input, isBlank c) ∧ e = .empty) ∨
    ((¬∀ c ∈ input, isBlank c) ∧ FirstFault (tokens input) e) := by
  by_cases hblank : ∀ c ∈ input, isBlank c
  · rw [parse_of_blank hblank]
    constructor
    · rintro ⟨⟩
      exact .inl ⟨hblank, rfl⟩
    · rintro (⟨-, rfl⟩ | ⟨hnot, -⟩)
      · rfl
      · exact absurd hblank hnot
  · rw [or_iff_right (fun h => hblank h.1), and_iff_right hblank]
    constructor
    · intro h
      obtain ⟨rs, hrs⟩ | ⟨e', he'⟩ := denotes_or_firstFault (tokens input)
      · rw [parse_eq_ok_iff (f := ⟨rs⟩).2 hrs] at h
        cases h
      · rw [parse_of_not_blank hblank, parseTokens_of_firstFault he'] at h
        obtain rfl := Except.error.inj h
        exact he'
    · intro h
      rw [parse_of_not_blank hblank, parseTokens_of_firstFault h]
      rfl

theorem contains_iff_covers (h : List.Forall₂ Denotes (tokens input) f.ranges) (code : Nat) :
    f.contains code = true ↔ Covers input code := by
  simp only [contains, CodeRange.contains, List.any_eq_true, Bool.and_eq_true, decide_eq_true_eq,
    mem_iff_of_denotes h, Covers]
  constructor
  · rintro ⟨r, ⟨t, ht, hr⟩, hcode⟩
    exact ⟨t, ht, r, hr, hcode⟩
  · rintro ⟨t, ht, r, hr, hcode⟩
    exact ⟨r, ⟨t, ht, hr⟩, hcode⟩

theorem size_eq_ncard (h : List.Forall₂ Denotes (tokens input) f.ranges) :
    f.size = {code | Covers input code}.ncard := by
  have hcodes : {code | Covers input code} = ↑f.codes.toFinset := by
    ext code
    rw [List.coe_toFinset, Set.mem_ofPred_eq, Set.mem_ofPred_eq, codes, List.mem_filter,
      List.mem_range, contains_iff_covers h, and_iff_right_of_imp]
    rintro ⟨t, -, r, hr, -, hhigh⟩
    exact Nat.lt_of_le_of_lt hhigh (high_lt_of_denotes hr)
  have hnodup : f.codes.Nodup := List.nodup_range.filter _
  rw [hcodes, Set.ncard_coe_finset, List.toFinset_card_of_nodup hnodup, size]

/-- A filter is read if and only if all of its tokens belong to the grammar. It then has exactly
the codes that some token stands for. Otherwise the filter is blank, or its leftmost text that is
no token decides the error. -/
theorem parse_reads_grammar (input : Text) :
    ((∃ f, parse input = .ok f) ↔ ∀ t ∈ tokens input, ∃ r, Denotes t r) ∧
    (∀ f, parse input = .ok f →
      (∀ code, f.contains code = true ↔ Covers input code) ∧
      f.size = {code | Covers input code}.ncard ∧ f.accepts none = false) ∧
    ∀ e, parse input = .error e ↔ ((∀ c ∈ input, isBlank c) ∧ e = .empty) ∨
      ((¬∀ c ∈ input, isBlank c) ∧ FirstFault (tokens input) e) := by
  refine ⟨⟨?_, fun htokens => ?_⟩, fun f h => ?_, fun e => parse_eq_error_iff⟩
  · rintro ⟨f, h⟩
    exact exists_of_forall₂ (parse_eq_ok_iff.1 h)
  · obtain ⟨rs, hrs⟩ := forall₂_of_exists htokens
    exact ⟨⟨rs⟩, parse_eq_ok_iff.2 hrs⟩
  · have hranges := parse_eq_ok_iff.1 h
    exact ⟨contains_iff_covers hranges, size_eq_ncard hranges, rfl⟩

def overlapping : Text := " 4Xx,\t450 -\u2003502 , 450".toList

theorem parse_reads_grammar_overlapping :
    (∃ f, parse overlapping = .ok f ∧ (∀ code, f.contains code = true ↔ Covers overlapping code) ∧
      {code | Covers overlapping code}.ncard = 103 ∧ f.accepts none = false) ∧
    FirstFault (tokens "4xx,502-450,,x".toList) (.reversedRange "502-450".toList) := by
  have hread : parse overlapping = .ok ⟨[⟨400, 499⟩, ⟨450, 502⟩, ⟨450, 450⟩]⟩ := by
    decide +kernel
  refine ⟨⟨_, hread, ?_⟩, ?_⟩
  · obtain ⟨hcodes, hsize, hnone⟩ := (parse_reads_grammar overlapping).2.1 _ hread
    exact ⟨hcodes, hsize.symm.trans (by decide +kernel), hnone⟩
  · obtain ⟨-, hempty⟩ | ⟨-, hfault⟩ := ((parse_reads_grammar "4xx,502-450,,x".toList).2.2
      (.reversedRange "502-450".toList)).1 (by decide +kernel)
    · cases hempty
    · exact hfault

end Filter

end EndpointScout.StatusFilter
