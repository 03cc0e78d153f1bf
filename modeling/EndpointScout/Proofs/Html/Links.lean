import EndpointScout.Html.Links
import EndpointScout.Proofs.Url.Resolved
import Mathlib.Data.List.Basic
import Mathlib.Data.List.Nodup

/-! First occurrences in a list of links, and what the links of a page lead to. -/
namespace EndpointScout.Html

theorem mem_withoutDuplicates (seen ls : List Text) (l : Text) :
    l ∈ withoutDuplicates seen ls ↔ l ∈ ls ∧ l ∉ seen := by
  induction ls generalizing seen with
  | nil => simp [withoutDuplicates]
  | cons a ls ih =>
    rw [withoutDuplicates]
    by_cases ha : a ∈ seen
    · rw [if_pos ha, ih]
      have hne : l ∉ seen → l ≠ a := fun hl he => hl (he ▸ ha)
      grind
    · rw [if_neg ha, List.mem_cons, ih]
      grind

theorem nodup_withoutDuplicates (seen ls : List Text) : (withoutDuplicates seen ls).Nodup := by
  induction ls generalizing seen with
  | nil => simp [withoutDuplicates]
  | cons a ls ih =>
    rw [withoutDuplicates]
    split
    · exact ih seen
    · rw [List.nodup_cons, mem_withoutDuplicates]
      exact ⟨by simp, ih (a :: seen)⟩

theorem parse_pageLink? {base u : Url} {reference : Text} (hb : base.IsRead)
    (h : pageLink? base reference = some u) :
    Url.parse u.text = .ok u ∧ (u.scheme = "http".toList ∨ u.scheme = "https".toList) ∧
      u.fragment = none := by
  simp only [pageLink?] at h
  split at h
  · cases h
  · split at h
    · cases h
    · rename_i v hjoin
      split at h
      · rename_i hscheme
        cases h
        rw [Bool.or_eq_true, beq_iff_eq, beq_iff_eq] at hscheme
        have hweb := Url.special_of_web hscheme
        exact ⟨Url.parse_text_withoutFragment_of_join hb hjoin hweb.1 hweb.2, hscheme, rfl⟩
      · cases h

theorem exists_of_mem_pageLinks [SuffixList] {page pageUrl l : Text} {target : Target}
    (h : l ∈ pageLinks page pageUrl target) :
    ∃ u : Url, l = u.text ∧ Url.parse u.text = .ok u ∧
      (u.scheme = "http".toList ∨ u.scheme = "https".toList) ∧ u.fragment = none ∧
      target.matchesUrl u := by
  rw [pageLinks] at h
  split at h
  · cases h
  · rename_i base hbase
    rw [pageLinksOf, mem_withoutDuplicates, List.mem_map] at h
    obtain ⟨⟨u, hu, rfl⟩, -⟩ := h
    obtain ⟨hlink, hmatches⟩ := List.mem_filter.1 hu
    obtain ⟨reference, -, hlink⟩ := List.mem_filterMap.1 hlink
    obtain ⟨hread, hscheme, hbare⟩ := parse_pageLink? (Url.isRead_parse hbase) hlink
    exact ⟨u, rfl, hread, hscheme, hbare, hmatches⟩

end EndpointScout.Html
