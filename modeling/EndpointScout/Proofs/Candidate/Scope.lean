import EndpointScout.Collect.Collector
import EndpointScout.Proofs.Candidate.Admission
import EndpointScout.Proofs.Candidate.Canonical
import EndpointScout.Proofs.Store.Mining

/-! Where the URLs belong that are stored for a site: admission judges a copy of what is found,
and what is stored is made from the text itself. -/
namespace EndpointScout

namespace Candidate

variable [SuffixList]

theorem ofText?_canonical {v : Text} (hv : v.head? ≠ some '/') :
    Domain.ofText? (canonical v) = Domain.ofText? v := by
  cases h : Url.parse v with
  | error e => rw [canonical_of_error hv h]
  | ok u =>
    obtain ⟨w, hw, hhost⟩ := parse_canonical hv h
    rw [Domain.ofText?_of_ok h, Domain.ofText?_of_ok hw, Domain.ofUrl?, Domain.ofUrl?, hhost]

theorem mem_candidates {target : Target} {rows : List (List Text)} {e : Candidate}
    (h : e ∈ Archive.candidates target rows) :
    ∃ raw ∈ Archive.archivedUrls rows, target.accepts (cleanLiteral raw) = true ∧
      e.value = cleanLiteral raw ∧ e.kind = Kind.classify (cleanLiteral raw) := by
  obtain ⟨v, hv, rfl⟩ := List.mem_map.1 h
  obtain ⟨hv, haccepts⟩ := List.mem_filter.1 hv
  obtain ⟨raw, hraw, rfl⟩ := List.mem_map.1 hv
  exact ⟨raw, hraw, haccepts, rfl, rfl⟩

end Candidate

open Candidate

section
variable [SuffixList]

/-- The texts whose judged copy is a URL of the domain. -/
def JudgedAs (d : Text) (v : Text) : Prop :=
  Domain.ofText? (judged v) = some (d.map Url.lowerLetter)

theorem matchesText_iff_of_judgedAs {d v value : Text} (hv : JudgedAs d v)
    (hvalue : Domain.ofText? value = Domain.ofText? v) :
    (Target.ofDomain d).matchesText value = true ↔
      Domain.ofText? v = Domain.ofText? (judged v) := by
  rw [Target.matchesText_ofDomain, hvalue, hv]

end

/-- Whatever a script or an archive holds: of a URL that is stored for a site, the copy that
admission judges has the domain of the site, and the value that is stored is in scope if and only
if the text as it was found has that domain too. -/
theorem external_in_scope_iff [Environment] (d : Text) (s : Store) :
    (∀ (t : Script.Tree) (e : Candidate), e ∈ (s.mine (.ofDomain d) t).1.entries → e ∉ s.entries →
      e.kind = .external → ∃ f ∈ t.finds, e = Store.candidateOf f ∧
        JudgedAs d (cleanLiteral f.text) ∧
        ((Target.ofDomain d).matchesText e.value = true ↔
          Domain.ofText? (cleanLiteral f.text) = Domain.ofText? (judged (cleanLiteral f.text)))) ∧
    ∀ (c : Collector) (site : Web.Site) (domain : Text) (log : Web.Log) (e : Candidate),
      e ∈ (c.wayback site domain (.ofDomain d) log s).1.1.entries → e ∉ s.entries →
      e.kind = .external → ∃ rows, (c.archiveRows site domain log).1 = some rows ∧
        ∃ raw ∈ Archive.archivedUrls rows, e.value = cleanLiteral raw ∧ JudgedAs d e.value ∧
        ((Target.ofDomain d).matchesText e.value = true ↔
          Domain.ofText? e.value = Domain.ofText? (judged e.value)) := by
  refine ⟨?_, ?_⟩
  · intro t e he hnew hkind
    obtain he | ⟨f, hf, haccepts, rfl⟩ := Store.mem_entries_acceptAll he
    · exact absurd he hnew
    · have hhead := head?_of_classify hkind
      have hjudged := Target.accepts_external hhead haccepts
      exact ⟨f, hf, rfl, hjudged, matchesText_iff_of_judgedAs hjudged (ofText?_canonical hhead)⟩
  · intro c site domain log e he hnew hkind
    rw [Collector.wayback] at he
    simp only [Collector.offer] at he
    split at he
    · rename_i rows hrows
      obtain he | he := Store.mem_entries_addCounting he
      · exact absurd he hnew
      · obtain ⟨raw, hraw, haccepts, hvalue, hclass⟩ := mem_candidates he
        have hjudged := Target.accepts_external (head?_of_classify (hclass ▸ hkind)) haccepts
        rw [hvalue]
        exact ⟨rows, hrows, raw, hraw, rfl, hjudged, matchesText_iff_of_judgedAs hjudged rfl⟩
    · exact absurd he hnew

def closedUrl : Text := "https://example.com;".toList

def closedScript : Script.Tree := .literal (.string closedUrl)

def closedArchive : Web.Site := Web.Site.ofFunction fun _ =>
  .answered (.plain "[[\"original\"],[\"https://example.com;\"]]".toList)

def closedCollector : Collector := ⟨⟨0⟩, 0, "http://a.co".toList⟩

attribute [local instance] Environment.plain

theorem external_in_scope_iff_closed :
    (∃ f ∈ closedScript.finds, (⟨closedUrl, .external, .static, none, none⟩ : Candidate) =
        Store.candidateOf f ∧
      (⟨closedUrl, .external, .static, none, none⟩ : Candidate) ∈
        (Store.empty.mine (.ofDomain "example.com".toList) closedScript).1.entries ∧
      JudgedAs "example.com".toList (cleanLiteral f.text)) ∧
    (⟨closedUrl, .external, .wayback, none, none⟩ : Candidate) ∈ (closedCollector.wayback
      closedArchive "example.com".toList (.ofDomain "example.com".toList) []
      Store.empty).1.1.entries ∧
    JudgedAs "example.com".toList closedUrl ∧
    (Target.ofDomain "example.com".toList).matchesText closedUrl = false := by
  have hmined : (⟨closedUrl, .external, .static, none, none⟩ : Candidate) ∈
      (Store.empty.mine (.ofDomain "example.com".toList) closedScript).1.entries := by
    decide +kernel
  have harchived : (⟨closedUrl, .external, .wayback, none, none⟩ : Candidate) ∈
      (closedCollector.wayback closedArchive "example.com".toList
        (.ofDomain "example.com".toList) [] Store.empty).1.1.entries := by
    decide +kernel
  obtain ⟨hmine, hwayback⟩ := external_in_scope_iff "example.com".toList Store.empty
  obtain ⟨f, hf, hfind, hjudged, -⟩ := hmine closedScript _ hmined (by simp [Store.empty]) rfl
  obtain ⟨rows, -, raw, -, -, hurl, hscope⟩ := hwayback closedCollector closedArchive
    "example.com".toList [] _ harchived (by simp [Store.empty]) rfl
  refine ⟨⟨f, hf, hfind, hmined, hjudged⟩, harchived, hurl, ?_⟩
  rw [Bool.eq_false_iff, Ne, hscope]
  decide +kernel

end EndpointScout
