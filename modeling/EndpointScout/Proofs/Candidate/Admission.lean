import EndpointScout.Candidate.Admission
import EndpointScout.Proofs.Text.LetterCase
import EndpointScout.Proofs.Text.Trim

/-! What admission asks of a text. -/
namespace EndpointScout

namespace Domain
variable [SuffixList]

def ofText? (t : Text) : Option Text := (Url.parse? t).bind ofUrl?

theorem ofText?_of_ok {t : Text} {u : Url} (h : Url.parse t = .ok u) : ofText? t = ofUrl? u := by
  rw [ofText?, Url.parse?, h]
  rfl

theorem ofText?_of_error {t : Text} {e : Url.Error} (h : Url.parse t = .error e) :
    ofText? t = none := by
  rw [ofText?, Url.parse?, h]
  rfl

end Domain

namespace Candidate
variable {value : Text}

theorem stripNoise_prefix (h : value.dropWhile Text.isBlank = value) :
    stripNoise value <+: value := by
  have htrim : Text.trim value <+: value := by
    rw [Text.trim, Text.trimWhile, h]
    exact Text.dropEndWhile_prefix _
  exact ((Text.dropEndWhile_prefix _).trans (Text.dropEndWhile_prefix _)).trans htrim

theorem dropWhile_cleanLiteral (raw : Text) :
    (cleanLiteral raw).dropWhile Text.isBlank = cleanLiteral raw := by
  have hclean : cleanLiteral raw <+: raw.dropWhile Text.isBlank :=
    (Text.dropEndWhile_prefix _).trans (Text.dropEndWhile_prefix _)
  have hhead := List.head?_dropWhile_not Text.isBlank raw
  obtain ⟨rest, hrest⟩ := hclean
  rw [← hrest] at hhead
  cases hliteral : cleanLiteral raw with
  | nil => rfl
  | cons c cs =>
    rw [hliteral] at hhead
    simpa using hhead

theorem head?_judged (hblank : value.dropWhile Text.isBlank = value)
    (h : value.head? ≠ some '/') : (judged value).head? ≠ some '/' := by
  refine Text.lower_head?_ne fun hhead => h ?_
  obtain ⟨rest, hrest⟩ := stripNoise_prefix hblank
  rw [← hrest, List.head?_append, hhead]
  rfl

theorem head?_judged_of_path (h : value.head? = some '/') :
    (judged value).head? = some '/' := by
  obtain ⟨t, rfl⟩ := List.head?_eq_some_iff.1 h
  have hblank : ¬Text.isBlank '/' = true := by decide
  rw [judged, stripNoise, Text.trim, Text.trimWhile, List.dropWhile_cons_of_neg hblank,
    Text.dropEndWhile_cons (by decide), Text.dropEndWhile_cons (by decide),
    Text.dropEndWhile_cons (by decide)]
  rfl

variable [SuffixList]

/-- Admission asks for a certain length, and that the judged copy is no noise and either a path
or a URL of the domain. -/
theorem isEndpointLike_iff (value : Text) (domain : Option Text) :
    isEndpointLike value domain = true ↔
      minLength ≤ value.length ∧ isNoise (judged value) = false ∧
        ((judged value).head? = some '/' ∨ ∃ d, Domain.ofText? (judged value) = some d ∧
          ∀ target, domain = some target → d = target) := by
  rw [isEndpointLike]
  by_cases hlength : value.length < minLength
  · have hshort : ¬minLength ≤ value.length := Nat.not_le_of_lt hlength
    simp [hlength, hshort]
  by_cases hnoise : isNoise (judged value)
  · simp [hlength, hnoise]
  have hlong : minLength ≤ value.length := Nat.le_of_not_lt hlength
  by_cases hhead : (judged value).head? = some '/'
  · simp [hlength, hnoise, hhead, hlong]
  cases hparse : Url.parse (judged value) with
  | error e => simp [hlength, hnoise, hhead, hparse, Domain.ofText?_of_error hparse]
  | ok u =>
    have hdomain := Domain.ofText?_of_ok hparse
    cases hurl : Domain.ofUrl? u with
    | none => simp [hlength, hnoise, hhead, hparse, hdomain, hurl]
    | some d =>
      cases domain with
      | none => simp [hlength, hnoise, hhead, hparse, hdomain, hurl, hlong]
      | some target => simp [hlength, hnoise, hhead, hparse, hdomain, hurl, hlong]

theorem isEndpointLike_of_parse?_isNone (hhead : (judged value).head? ≠ some '/')
    (hparse : (Url.parse? (judged value)).isNone) (domain : Option Text) :
    isEndpointLike value domain = false := by
  refine Bool.eq_false_iff.2 fun h => ?_
  obtain ⟨-, -, hpath | ⟨d, hd, -⟩⟩ := (isEndpointLike_iff value domain).1 h
  · exact hhead hpath
  · rw [Domain.ofText?, Option.isNone_iff_eq_none.1 hparse] at hd
    cases hd

end Candidate

namespace Target
open Candidate
variable [SuffixList]

theorem matchesText_ofDomain (d t : Text) :
    (ofDomain d).matchesText t = true ↔ Domain.ofText? t = some (d.map Url.lowerLetter) := by
  rw [matchesText, Domain.ofText?, Url.parse?]
  cases Url.parse t with
  | error e => simp [Except.toOption]
  | ok u => simp [Except.toOption, matchesUrl, ofDomain]

theorem accepts_external {d raw : Text} (hhead : (cleanLiteral raw).head? ≠ some '/')
    (h : (ofDomain d).accepts (cleanLiteral raw) = true) :
    Domain.ofText? (judged (cleanLiteral raw)) = some (d.map Url.lowerLetter) := by
  obtain ⟨-, -, hpath | ⟨found, hfound, hscope⟩⟩ := (isEndpointLike_iff _ _).1 h
  · exact absurd hpath (head?_judged (dropWhile_cleanLiteral raw) hhead)
  · rw [hfound, hscope _ rfl]

end Target

end EndpointScout
