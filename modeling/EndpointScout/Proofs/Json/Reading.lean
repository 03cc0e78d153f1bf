import EndpointScout.Proofs.Json.Quote
import EndpointScout.Proofs.Text.Binary64
import EndpointScout.Proofs.Text.Split

/-! Reading one piece of a written document after another: gaps, signs, names and plain values. -/
namespace EndpointScout.Json.Reader
variable {α β : Type} {t t' gap : Text}

theorem bind_of_ok {r : Reader α} {a : α} (h : r t = .ok (a, t')) (f : α → Reader β) :
    (r >>= f) t = f a t' := by
  show (r t >>= fun p => f p.1 p.2) = _
  rw [h]
  rfl

theorem map_of_ok {r : Reader α} {a : α} (h : r t = .ok (a, t')) (f : α → β) :
    (f <$> r) t = .ok (f a, t') := by
  show (r t >>= fun p => pure (f p.1, p.2)) = _
  rw [h]
  rfl

def IsGap (gap : Text) : Prop := ∀ c ∈ gap, isSpace c

theorem peek_gap (hgap : IsGap gap) (t : Text) : peek (gap ++ t) = peek t := by
  simp only [peek, List.dropWhile_append_of_pos hgap]

theorem peek_cons {c : Char} (hc : isSpace c = false) (t : Text) :
    peek (c :: t) = .ok (some c, c :: t) := by
  simp [peek, hc]

/-- What looks at the next character first does not see a gap before it. -/
theorem bind_peek_gap (hgap : IsGap gap) (f : Option Char → Reader α) (t : Text) :
    (peek >>= f) (gap ++ t) = (peek >>= f) t := by
  show (peek (gap ++ t) >>= fun p => f p.1 p.2) = (peek t >>= fun p => f p.1 p.2)
  rw [peek_gap hgap]

theorem bind_peek_cons {c : Char} (hc : isSpace c = false) (f : Option Char → Reader α)
    (t : Text) : (peek >>= f) (c :: t) = f (some c) (c :: t) :=
  bind_of_ok (peek_cons hc t) f

theorem peekSome_gap (hgap : IsGap gap) (t : Text) : peekSome (gap ++ t) = peekSome t :=
  bind_peek_gap hgap _ t

theorem peekSome_cons {c : Char} (hc : isSpace c = false) (t : Text) :
    peekSome (c :: t) = .ok (c, c :: t) := bind_peek_cons hc _ t

theorem bind_peekSome_gap (hgap : IsGap gap) (f : Char → Reader α) (t : Text) :
    (peekSome >>= f) (gap ++ t) = (peekSome >>= f) t := by
  show (peekSome (gap ++ t) >>= fun p => f p.1 p.2) = (peekSome t >>= fun p => f p.1 p.2)
  rw [peekSome_gap hgap]

theorem bind_peekSome_cons {c : Char} (hc : isSpace c = false) (f : Char → Reader α)
    (t : Text) : (peekSome >>= f) (c :: t) = f c (c :: t) :=
  bind_of_ok (peekSome_cons hc t) f

theorem skip_cons (c : Char) (t : Text) : skip (c :: t) = .ok ((), t) := rfl

theorem colon_cons (t : Text) : colon (':' :: t) = .ok ((), t) := by
  rw [colon, bind_peek_cons (by decide)]
  rfl

theorem string_gap (hgap : IsGap gap) (t : Text) : string (gap ++ t) = string t :=
  bind_peekSome_gap hgap _ t

theorem nextName_gap (first : Bool) (hgap : IsGap gap) (t : Text) :
    nextName first (gap ++ t) = nextName first t := bind_peek_gap hgap _ t

theorem nextName_end (first : Bool) (t : Text) :
    nextName first ('\x7d' :: t) = .ok (none, '\x7d' :: t) := by
  rw [nextName, bind_peek_cons (by decide)]
  rfl

theorem nextName_first (k t : Text) : nextName true (quote k ++ t) = .ok (some k, t) := by
  rw [quote_append, nextName, bind_peek_cons (by decide)]
  exact map_of_ok (stringBody_escape k t) some

theorem nextName_next (hgap : IsGap gap) (k t : Text) :
    nextName false (',' :: (gap ++ (quote k ++ t))) = .ok (some k, t) := by
  rw [quote_append, nextName, bind_peek_cons (by decide)]
  refine (bind_of_ok (skip_cons ',' _) _).trans ?_
  rw [bind_peek_gap hgap, bind_peek_cons (by decide)]
  exact map_of_ok (stringBody_escape k t) some

theorem nextItem_gap (first : Bool) (hgap : IsGap gap) (t : Text) :
    nextItem first (gap ++ t) = nextItem first t := bind_peek_gap hgap _ t

theorem nextItem_end (first : Bool) (t : Text) :
    nextItem first (']' :: t) = .ok (.closed, ']' :: t) := by
  rw [nextItem, bind_peek_cons (by decide)]
  rfl

theorem nextItem_first (t : Text) : nextItem true ('\x7b' :: t) = .ok (.more, '\x7b' :: t) := by
  rw [nextItem, bind_peek_cons (by decide)]
  rfl

theorem nextItem_next (hgap : IsGap gap) (t : Text) :
    nextItem false (',' :: (gap ++ '\x7b' :: t)) = .ok (.more, '\x7b' :: t) := by
  rw [nextItem, bind_peek_cons (by decide)]
  refine (bind_of_ok (skip_cons ',' _) _).trans ?_
  rw [bind_peek_gap hgap, bind_peek_cons (by decide)]
  rfl

theorem closeArray_cons (t : Text) : closeArray (']' :: t) = .ok ((), t) := by
  rw [closeArray, bind_peek_cons (by decide)]
  rfl

theorem run_of_ok {r : Reader α} {a : α} (h : r t = .ok (a, [])) : run r t = .ok a := by
  rw [run, bind_of_ok h]
  rfl

section Number

def EndsNumber (t : Text) : Prop :=
  ∀ c ∈ t.head?, Text.isDigit c = false ∧ c ≠ '.' ∧ c ≠ 'e' ∧ c ≠ 'E'

variable (strict : Bool) (n : Nat)

theorem wholePart_ofNat (ht : EndsNumber t) :
    wholePart strict (Text.ofNat n ++ t) = .ok (Text.ofNat n, t) := by
  have hend : (t.head?.map Text.isDigit).getD false = false := by
    cases t with
    | nil => rfl
    | cons c t => exact (ht c rfl).1
  obtain rfl | hn := Nat.eq_zero_or_pos n
  · show (if (t.head?.map Text.isDigit).getD false then _ else _) = _
    rw [hend]
    rfl
  · have hdigits : ∀ c ∈ Text.ofNat n, Text.isDigit c := Text.isDigit_of_mem_ofNat
    have hbehind : ∀ c ∈ t.head?, Text.isDigit c = false := fun c hc => (ht c hc).1
    have htake := Text.takeWhile_append_of_head hdigits hbehind
    have hdrop := Text.dropWhile_append_of_head hdigits hbehind
    rw [wholePart.eq_def]
    split
    · rename_i rest h
      have hhead : (Text.ofNat n).head? = some '0' := by
        cases hdigits : Text.ofNat n with
        | nil => exact absurd hdigits (Text.ofNat_ne_nil n)
        | cons c ds =>
          rw [hdigits, List.cons_append] at h
          rw [List.head?_cons, (List.cons.inj h).1]
      exact absurd hhead (Text.head?_ofNat hn)
    · simp [htake, hdrop, Text.ofNat_ne_nil]

theorem fractionPart_end (ht : EndsNumber t) : fractionPart strict t = .ok ([], t) := by
  rw [fractionPart.eq_def]
  split
  · exact absurd rfl (ht '.' rfl).2.1
  · rfl

theorem exponentPart_end (ht : EndsNumber t) : exponentPart strict t = .ok ([], t) := by
  cases t with
  | nil => rfl
  | cons c t =>
    obtain ⟨-, -, he, hE⟩ := ht c rfl
    simp [exponentPart, he, hE]

theorem inRange_ofNat (hn : n < 65536) : inRange (Text.ofNat n) [] := by
  have hlength : (Text.ofNat n).length ≤ 4 + 1 := Text.length_ofNat (by omega)
  have hfinite := Binary64.isFinite_ofDecimal (n := n) (by omega) (by omega)
  simp [inRange, Binary64.ofText?_ofNat, hfinite]

theorem numberBody_ofNat (hn : n < 65536) (ht : EndsNumber t) :
    numberBody false (Text.ofNat n ++ t) = .ok (Text.ofNat n, t) := by
  have hunsigned : unsigned true (Text.ofNat n ++ t) = .ok ((Text.ofNat n, []), t) := by
    rw [unsigned, bind_of_ok (wholePart_ofNat true n ht), bind_of_ok (fractionPart_end true ht),
      bind_of_ok (exponentPart_end true ht)]
    rfl
  rw [numberBody, bind_of_ok hunsigned]
  simp only [inRange_ofNat n hn, if_true]
  show Except.ok (Text.ofNat n ++ [], t) = _
  rw [List.append_nil]

theorem digit_plain {c : Char} (h : Text.isDigit c) : isSpace c = false ∧ c ≠ '-' ∧ c ≠ 'n' := by
  have hne (d : Char) (hd : Text.isDigit d = false) : c ≠ d := fun he => by simp [he, hd] at h
  refine ⟨?_, hne '-' (by decide), hne 'n' (by decide)⟩
  simp [isSpace, hne ' ' (by decide), hne '\n' (by decide), hne '\t' (by decide),
    hne '\r' (by decide)]

theorem natBelow_ofNat {bound : Nat} (hbound : bound ≤ 65536) (hn : n < bound)
    (ht : EndsNumber t) : natBelow bound (Text.ofNat n ++ t) = .ok (n, t) := by
  have hbody := numberBody_ofNat n (by omega) ht
  cases hdigits : Text.ofNat n with
  | nil => exact absurd hdigits (Text.ofNat_ne_nil n)
  | cons c ds =>
    have hc : Text.isDigit c := Text.isDigit_of_mem_ofNat (n := n) c (by simp [hdigits])
    rw [hdigits] at hbody
    obtain ⟨hspace, hminus, -⟩ := digit_plain hc
    rw [natBelow, List.cons_append, bind_peekSome_cons hspace]
    simp only [beq_eq_false_iff_ne.2 hminus, hc, Bool.false_eq_true, if_false, if_true]
    rw [← List.cons_append, bind_of_ok hbody]
    simp only [← hdigits, Text.toNat?_ofNat, hn, if_true]
    rfl

end Number

end EndpointScout.Json.Reader
