import EndpointScout.Proofs.Text.Decimal
import EndpointScout.Proofs.Text.LetterCase
import EndpointScout.Proofs.Text.Split
import EndpointScout.Proofs.Text.Utf16
import EndpointScout.Script.Escape
import EndpointScout.Script.Grammar.Lexeme

/-! Escape sequences of strings: what the language says they stand for, as code units, and what is
made of them. Three forms come out as something else. Half a surrogate pair is lost, octal digits
stay as they are, and a line separator behind an escaped carriage return is lost with it. -/
namespace EndpointScout.Script
open Text (hexDigits isHexDigit)
open Text.Utf16 (IsSurrogate unitsOf)

def isOctal (c : Char) : Bool := '0' ≤ c && c ≤ '7'

def octalValue (ds : Text) : Nat := ds.foldl (fun n d => n * 8 + (d.toNat - '0'.toNat)) 0

def control? : Char → Option Nat
  | 'b' => some 8
  | 't' => some 9
  | 'n' => some 10
  | 'v' => some 11
  | 'f' => some 12
  | 'r' => some 13
  | _ => none

def fixedCode? (k : Nat) (t : Text) : Option (List Nat × Text) :=
  if (t.take k).length = k ∧ (t.take k).all isHexDigit then
    some (unitsOf (hexDigits 0 (t.take k)), t.drop k)
  else none

def bracedCode? (t : Text) : Option (List Nat × Text) :=
  let ds := t.takeWhile isHexDigit
  match t.dropWhile isHexDigit with
  | '\x7d' :: rest =>
    if ds = [] ∨ 0x10FFFF < hexDigits 0 ds then none else some (unitsOf (hexDigits 0 ds), rest)
  | _ => none

def unicodeCode? : Text → Option (List Nat × Text)
  | '\x7b' :: t => bracedCode? t
  | t => fixedCode? 4 t

/-- What the language says: the code units that are meant by what follows a backslash, and the
text after it. Nothing if it is no escape sequence. -/
def escapeUnits? : Text → Option (List Nat × Text)
  | [] => none
  | c :: t =>
    if c = 'x' then fixedCode? 2 t
    else if c = 'u' then unicodeCode? t
    else if Build.isLineEnd c then
      some ([], if c = '\r' then (Text.dropPrefix? t ['\n']).getD t else t)
    else if isOctal c then
      -- Three digits are one code only if it fits in a byte.
      let more := (t.take (if c ≤ '3' then 2 else 1)).takeWhile isOctal
      some ([octalValue (c :: more)], t.drop more.length)
    else some (unitsOf ((control? c).getD c.toNat), t)

/-- The escape sequences from which something else is made than what they stand for. -/
inductive Astray : Text → Prop
  | half {e ds : Text} (hds : ∀ d ∈ ds, isHexDigit d = true) (hn : IsSurrogate (hexDigits 0 ds))
      (he : e = '\\' :: 'u' :: ds ∨ e = '\\' :: 'u' :: '\x7b' :: (ds ++ ['\x7d'])) : Astray e
  | octal {c : Char} {ds : Text} (hds : ∀ d ∈ c :: ds, isOctal d = true) (hzero : c :: ds ≠ ['0']) :
      Astray ('\\' :: c :: ds)
  | lineEnd {d : Char} (hd : d.toNat = 0x2028 ∨ d.toNat = 0x2029) : Astray ['\\', '\r', d]

section Length
variable {t u : Text} {us : List Nat}

theorem exists_of_fixedCode? {k : Nat} (h : fixedCode? k t = some (us, u)) : ∃ ds, t = ds ++ u ∧
    ds.length = k ∧ (∀ d ∈ ds, isHexDigit d = true) ∧ us = unitsOf (hexDigits 0 ds) := by
  rw [fixedCode?] at h
  split at h
  · rename_i hdigits
    obtain ⟨rfl, rfl⟩ := Prod.mk.inj (Option.some.inj h)
    exact ⟨t.take k, (List.take_append_drop k t).symm, hdigits.1, List.all_eq_true.1 hdigits.2, rfl⟩
  · cases h

theorem length_of_fixedCode? {k : Nat} (h : fixedCode? k t = some (us, u)) :
    u.length ≤ t.length := by
  obtain ⟨ds, rfl, -⟩ := exists_of_fixedCode? h
  rw [List.length_append]
  exact Nat.le_add_left _ _

theorem length_of_bracedCode? (h : bracedCode? t = some (us, u)) : u.length ≤ t.length := by
  have hlength := List.length_dropWhile_le isHexDigit t
  rw [bracedCode?] at h
  split at h
  · rename_i rest hrest
    split at h
    · cases h
    · obtain ⟨-, rfl⟩ := Prod.mk.inj (Option.some.inj h)
      rw [hrest, List.length_cons] at hlength
      omega
  · cases h

theorem length_of_unicodeCode? (h : unicodeCode? t = some (us, u)) : u.length ≤ t.length := by
  rw [unicodeCode?.eq_def] at h
  split at h
  · exact (length_of_bracedCode? h).trans (Nat.le_succ _)
  · exact length_of_fixedCode? h

theorem length_afterFeed_le (t : Text) :
    ((Text.dropPrefix? t ['\n']).getD t).length ≤ t.length := by
  cases h : Text.dropPrefix? t ['\n'] with
  | none => exact le_rfl
  | some r =>
    rw [Text.dropPrefix?_eq_some h]
    exact Nat.le_succ _

theorem length_of_escapeUnits? (h : escapeUnits? t = some (us, u)) : u.length < t.length := by
  cases t with
  | nil => cases h
  | cons c t =>
    refine Nat.lt_succ_of_le ?_
    rw [escapeUnits?] at h
    split at h
    · exact length_of_fixedCode? h
    split at h
    · exact length_of_unicodeCode? h
    split at h
    · obtain ⟨-, rfl⟩ := Prod.mk.inj (Option.some.inj h)
      split
      · exact length_afterFeed_le t
      · exact le_rfl
    split at h
    · obtain ⟨-, rfl⟩ := Prod.mk.inj (Option.some.inj h)
      rw [List.length_drop]
      exact Nat.sub_le _ _
    · obtain ⟨-, rfl⟩ := Prod.mk.inj (Option.some.inj h)
      exact le_rfl

end Length

/-- What distinguishes the code units an escape sequence stands for from those that are made of it
if it goes astray: there are surrogates or line separators that are lost, or fewer digits. -/
def weight (n : Nat) : Int :=
  if IsSurrogate n ∨ n = 0x2028 ∨ n = 0x2029 then 1 else if 0x30 ≤ n ∧ n ≤ 0x37 then -1 else 0

def weightOf : List Nat → Int
  | [] => 0
  | n :: us => weight n + weightOf us

theorem weightOf_singleton (n : Nat) : weightOf [n] = weight n := Int.add_zero _

theorem weightOf_append (us vs : List Nat) : weightOf (us ++ vs) = weightOf us + weightOf vs := by
  induction us with
  | nil => exact (Int.zero_add _).symm
  | cons n us ih => rw [List.cons_append, weightOf, ih, weightOf, Int.add_assoc]

theorem neg_one_le_weight (n : Nat) : -1 ≤ weight n := by
  rw [weight]
  split
  · omega
  · split <;> omega

/-- The code units that are made are those that are wanted, or less if something goes astray. -/
def Matches (astray : Prop) (given wanted : List Nat) : Prop :=
  ¬astray ∧ given = wanted ∨ astray ∧ weightOf given < weightOf wanted

namespace Matches
variable {p q : Prop} {us vs us' vs' : List Nat}

theorem eq_iff (h : Matches p us vs) : us = vs ↔ ¬p := by
  obtain ⟨hp, heq⟩ | ⟨hp, hlt⟩ := h
  · exact iff_of_true heq hp
  · refine iff_of_false ?_ (not_not_intro hp)
    rintro rfl
    exact Int.lt_irrefl _ hlt

theorem append (h : Matches p us vs) (h' : Matches q us' vs') :
    Matches (p ∨ q) (us ++ us') (vs ++ vs') := by
  rw [Matches, weightOf_append, weightOf_append]
  obtain ⟨hp, rfl⟩ | ⟨hp, hlt⟩ := h
  · obtain ⟨hq, rfl⟩ | ⟨hq, hlt'⟩ := h'
    · exact .inl ⟨not_or_intro hp hq, rfl⟩
    · exact .inr ⟨.inr hq, by omega⟩
  · obtain ⟨hq, rfl⟩ | ⟨hq, hlt'⟩ := h'
    · exact .inr ⟨.inl hp, by omega⟩
    · exact .inr ⟨.inl hp, by omega⟩

end Matches

end EndpointScout.Script
