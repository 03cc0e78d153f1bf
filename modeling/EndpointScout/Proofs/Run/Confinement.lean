import EndpointScout.Proofs.Candidate.Stored
import EndpointScout.Proofs.Run.Provenance

/-! Paths never lead away from the site under scan: whatever begins with a slash is shown and
probed under the origin of the target, and every entry that counts as a path begins with one. -/
namespace EndpointScout
open Url

section Target
variable {target : Url} {value : Text}

theorem Candidate.probeUrl?_of_relative {c : Candidate} (h : c.kind = .relative) (target : Url) :
    c.probeUrl? target = parse? (Record.resolveValue c.value c.kind target) := by
  rw [Candidate.probeUrl?, Candidate.isRelative, h]
  rfl

theorem parse_resolveValue (hread : IsRead target) (hhttp : Web.isHttp target)
    (hvalue : value.head? = some '/') :
    ∃ u, parse (Record.resolveValue value .relative target) = .ok u ∧ SharesOrigin target u := by
  obtain ⟨t, rfl⟩ := List.head?_eq_some_iff.1 hvalue
  exact parse_origin_append hread (isHttp_iff.1 hhttp) t

end Target

namespace Run

theorem head?_storedForm {x : Source} {text : Text} (h : text.head? = some '/') :
    (storedForm x text).head? = some '/' := by
  rw [storedForm]
  split
  · exact Candidate.head?_canonical_of_path h
  · exact h

section
variable [Environment] {o : RunOptions} {site : Web.Site} {target : Url}

theorem IsNamed.head?_value {c : Candidate} (h : IsNamed o site target c)
    (hkind : c.kind = .relative) : c.value.head? = some '/' := by
  obtain ⟨text, -, hvalue, hclass⟩ := h
  rw [hvalue]
  exact head?_storedForm (Candidate.head?_of_classify_relative (hclass.symm.trans hkind))

theorem exists_of_execute {report : RunReport} (h : (execute o site).result = .ok report) :
    ∀ r ∈ report.records, ∃ c ∈ (completed o site report.target).store.entries,
      r = Record.ofCandidate c report.target := by
  obtain ⟨e, hfault⟩ | ⟨target, filter, hready⟩ := fault_or_ready o
  · rw [execute_of_fault hfault] at h
    cases h
  · rw [execute_of_ready hready] at h
    obtain rfl := Except.ok.inj h
    exact fun r hr => exists_of_mem_recordsOf hr

/-- Whatever begins with a slash is shown, as a path of the target, under a URL with the scheme, the
host and the port of the target, and is probed there. Whatever a scan stores as a path begins with
a slash, and so the paths that it reports are all shown there. -/
theorem relative_confined {t : Text} (hparse : parse t = .ok target) (hhttp : Web.isHttp target) :
    (∀ value : Text, value.head? = some '/' →
      ∃ u, parse (Record.resolveValue value .relative target) = .ok u ∧ SharesOrigin target u ∧
        ∀ c : Candidate, c.kind = .relative → c.value = value → c.probeUrl? target = some u) ∧
    ∀ (o : RunOptions) (site : Web.Site),
      (∀ e ∈ (completed o site target).store.entries, e.kind = .relative →
        e.value.head? = some '/') ∧
      ∀ report, (execute o site).result = .ok report → report.target = target →
        ∀ r ∈ report.records, r.kind = .relative →
          ∃ u, parse r.resolvedUrl = .ok u ∧ SharesOrigin target u := by
  have hread := isRead_parse hparse
  refine ⟨fun value hvalue => ?_, fun o site => ⟨fun e he => (isNamed_completed e he).head?_value,
    fun report hreport htarget r hr hkind => ?_⟩⟩
  · obtain ⟨u, hu, horigin⟩ := parse_resolveValue hread hhttp hvalue
    refine ⟨u, hu, horigin, fun c hkind hc => ?_⟩
    rw [Candidate.probeUrl?_of_relative hkind, hc, hkind, parse?, hu]
    rfl
  · obtain ⟨c, hc, rfl⟩ := exists_of_execute hreport r hr
    rw [htarget] at hc ⊢
    have hpath : c.kind = .relative := hkind
    have hresolved := parse_resolveValue hread hhttp ((isNamed_completed c hc).head?_value hpath)
    rwa [← hpath] at hresolved

end

/-- Paths that would name another host if they were references. -/
def craftedPaths : Web.Request → Web.Delivery := fun r =>
  let answer (body : String) := Web.Delivery.answered (.plain body.toList)
  if r.url = "http://a.co:8080/a.js".toList then answer "load('/shop/../api')"
  else if r.url = "http://a.co:8080/robots.txt".toList then
    answer "Disallow: //evil.org/x\nDisallow: /\\me@evil.org"
  else answer "<script src=a.js></script>"

attribute [local instance] Environment.plain

theorem relative_confined_craftedPaths :
    let o : RunOptions := { url := "http://me@a.co:8080/".toList }
    let path := "//evil.org/x".toList
    ∃ target report, parse o.url = .ok target ∧ target.origin = "http://a.co:8080".toList ∧
      (∃ u, parse (Record.resolveValue path .relative target) = .ok u ∧ SharesOrigin target u ∧
        Candidate.probeUrl? ⟨path, .relative, .robots, none, none⟩ target = some u) ∧
      (execute o (.ofFunction craftedPaths)).result = .ok report ∧
      report.records.map (fun r => (r.resolvedUrl, r.kind)) =
        [("http://a.co:8080/api".toList, .relative),
          ("http://a.co:8080//evil.org/x".toList, .relative),
          ("http://a.co:8080/\\me@evil.org".toList, .relative)] ∧
      ∀ r ∈ report.records, r.value.head? = some '/' ∧
        ∃ u, parse r.resolvedUrl = .ok u ∧ SharesOrigin target u := by
  intro o path
  let target : Url := ⟨"http".toList,
    some ⟨"me".toList, [], some (.domain "a.co".toList), some 8080⟩, false, .segments [[]],
    none, none⟩
  have htarget : parse o.url = .ok target := by decide +kernel
  have hfound : (execute o (.ofFunction craftedPaths)).result.toOption.map (fun report =>
      (report.target, report.records.map fun r => (r.resolvedUrl, r.kind))) =
      some (target, [("http://a.co:8080/api".toList, .relative),
        ("http://a.co:8080//evil.org/x".toList, .relative),
        ("http://a.co:8080/\\me@evil.org".toList, .relative)]) := by decide +kernel
  obtain ⟨hpaths, hscans⟩ := relative_confined htarget (by decide)
  obtain ⟨hentries, hreports⟩ := hscans o (.ofFunction craftedPaths)
  obtain ⟨u, hu, hshares, hprobe⟩ := hpaths path rfl
  cases hresult : (execute o (.ofFunction craftedPaths)).result with
  | error e =>
    rw [hresult] at hfound
    cases hfound
  | ok report =>
    rw [hresult] at hfound
    obtain ⟨hsame, hrecords⟩ := Prod.mk.inj (Option.some.inj hfound)
    have hkinds : ∀ p ∈ report.records.map fun r => (r.resolvedUrl, r.kind), p.2 = .relative := by
      rw [hrecords]
      decide
    refine ⟨target, report, htarget, by decide, ⟨u, hu, hshares, hprobe _ rfl rfl⟩, rfl, hrecords,
      fun r hr => ?_⟩
    have hkind := List.forall_mem_map.1 hkinds r hr
    obtain ⟨c, hc, rfl⟩ := exists_of_execute hresult r hr
    rw [hsame] at hc
    exact ⟨hentries c hc hkind, hreports report hresult hsame _ hr hkind⟩

end Run

end EndpointScout
