import EndpointScout.Proofs.Candidate.Stored
import EndpointScout.Proofs.Url.Printable

/-! Which characters can stand in a stored value. What is stored of a text that can be read as a
URL, or as a reference, is printable; a text that cannot be read is stored with all it holds. -/
namespace EndpointScout

namespace Candidate
open Url
variable {value : Text} {c : Char}

/-- Whether the value is read: a path as a reference, any other text as a URL. -/
def isLegible (value : Text) : Bool :=
  if value.head? == some '/' then
    ((parse placeholderOrigin).bind fun base => base.join value).toOption.isSome
  else (parse value).toOption.isSome

theorem isPrintable_stored {u : Url} (h : HasPrintableParts u) : IsPrintable (stored u) := by
  have htext := (h.withoutFragment.withPath
    (Text.dropEndWhile isSlash u.withoutFragment.pathText)).text
  simp only [stored]
  split
  · exact htext.of_subset (Text.dropEndWhile_prefix _).subset
  · exact htext

theorem isPrintable_collapsePath {path : Text} (h : IsPrintable path) :
    IsPrintable (collapsePath path) := by
  intro c hc
  by_cases hslash : c = '/'
  · rw [hslash]
    decide
  · exact h c ((mem_collapsePath hslash path).1 hc)

theorem isPrintable_normalizePath {u : Url}
    (h : ((parse placeholderOrigin).bind fun base => base.join value) = .ok u) :
    IsPrintable (normalizePath value) := by
  obtain ⟨base, hbase, hjoin⟩ := bind_eq_ok h
  obtain rfl : base = placeholder := Except.ok.inj (hbase.symm.trans parse_placeholderOrigin)
  rw [normalizePath_of_ok hjoin]
  exact isPrintable_collapsePath (isRead_of_join hjoin).hasPrintableParts.path

theorem mem_dropWildcard (hwild : c ∉ "?*".toList) (value : Text) :
    c ∈ (Text.dropSuffix? value "?*".toList).getD value ↔ c ∈ value := by
  cases hsuffix : Text.dropSuffix? value "?*".toList with
  | none => rfl
  | some front =>
    rw [Text.dropSuffix?_eq_some hsuffix, List.mem_append, or_iff_left hwild]
    rfl

theorem canonical_cases (value : Text) :
    (isLegible value = true ∧ IsPrintable (canonical value)) ∨
    (isLegible value = false ∧
      ∀ c, c ≠ '/' → c ∉ "?*".toList → (c ∈ canonical value ↔ c ∈ value)) := by
  by_cases hhead : value.head? = some '/'
  · rw [isLegible, if_pos (by simp [hhead]), canonical, if_pos (by simp [hhead])]
    cases hjoin : (parse placeholderOrigin).bind fun base => base.join value with
    | ok u => exact .inl ⟨rfl, isPrintable_normalizePath hjoin⟩
    | error e =>
      refine .inr ⟨rfl, fun c hslash hwild => ?_⟩
      rw [normalizePath, hjoin]
      exact (mem_collapsePath hslash _).trans (mem_dropWildcard hwild value)
  · rw [isLegible, if_neg (by simpa using hhead)]
    cases hparse : parse value with
    | ok u =>
      rw [canonical_of_ok hhead hparse]
      exact .inl ⟨rfl, isPrintable_stored (isRead_parse hparse).hasPrintableParts⟩
    | error e =>
      rw [canonical_of_error hhead hparse]
      exact .inr ⟨rfl, fun c _ _ => Iff.rfl⟩

theorem mem_canonical_of_isControl (hc : isControl c = true) :
    c ∈ canonical value ↔ c ∈ value ∧ isLegible value = false := by
  have hmarks : ∀ d ∈ "/?*".toList, isControl d = false := Text.forall_of_all (by decide)
  have hne (d : Char) (hd : d ∈ "/?*".toList) : c ≠ d := by
    rintro rfl
    rw [hmarks c hd] at hc
    cases hc
  obtain ⟨hread, hprintable⟩ | ⟨hread, hkept⟩ := canonical_cases value
  · have hclean : c ∉ canonical value := fun hmem => by
      rw [hprintable c hmem] at hc
      cases hc
    simp [hread, hclean]
  · have hwild : c ∉ "?*".toList := fun hmem => hne c (List.mem_cons_of_mem _ hmem) rfl
    rw [hkept c (hne '/' (by decide)) hwild]
    simp [hread]

end Candidate

end EndpointScout
