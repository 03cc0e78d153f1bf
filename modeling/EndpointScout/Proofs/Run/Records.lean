import EndpointScout.Proofs.Probe.Outcomes
import EndpointScout.Proofs.Run.Refusal
import EndpointScout.Proofs.Store.Growth
import EndpointScout.Proofs.Crawl.Depth

/-! What the records of a scan tell: the entries of its store in their order, one stage of the
scan after the other, no find twice, all probed or none, and what a filter leaves of them. -/
namespace EndpointScout

/-- The stages of a scan in their order: scripts, robots file, sitemap, archive. -/
def Source.stage : Source → Nat
  | static | fetch | axios | xmlhttp => 0
  | robots => 1
  | sitemap => 2
  | wayback => 3

namespace Store
variable {s s' : Store} {sources : List Source} {n m : Nat}

/-- A store after stage `n`, before any probe. -/
structure IsStaged (n : Nat) (s : Store) : Prop where
  sorted : s.entries.Pairwise fun c d => c.source.stage ≤ d.source.stage
  bound : ∀ c ∈ s.entries, c.source.stage ≤ n
  unprobed : ∀ c ∈ s.entries, c.reachable = none ∧ c.status = none

theorem isStaged_empty : empty.IsStaged 0 := ⟨.nil, by simp [empty], by simp [empty]⟩

theorem IsStaged.grows (h : s.IsStaged n) (hgrows : s.Grows sources s') (hn : n ≤ m)
    (hsources : ∀ x ∈ sources, x.stage = m) : s'.IsStaged m := by
  obtain ⟨added, hentries, hadded⟩ := hgrows
  have hstage : ∀ c ∈ added, c.source.stage = m := fun c hc => hsources _ (hadded c hc).source
  refine ⟨?_, ?_, ?_⟩
  · rw [hentries, List.pairwise_append]
    refine ⟨h.sorted, ?_, ?_⟩
    · exact List.pairwise_of_forall_mem_list fun c hc d hd => by rw [hstage c hc, hstage d hd]
    · intro c hc d hd
      rw [hstage d hd]
      exact (h.bound c hc).trans hn
  · rw [hentries]
    exact List.forall_mem_append.2
      ⟨fun c hc => (h.bound c hc).trans hn, fun c hc => (hstage c hc).le⟩
  · rw [hentries]
    exact List.forall_mem_append.2
      ⟨h.unprobed, fun c hc => ⟨(hadded c hc).reachable, (hadded c hc).status⟩⟩

end Store

namespace Run

section
variable [Environment]

theorem isStaged_collect (c : Collector) (site : Web.Site) (target : Url) (wayback : Bool)
    {s : Stage} (h : s.store.IsStaged 0) :
    (collect c site target wayback s).store.IsStaged (if wayback then 3 else 2) := by
  have hrobots := h.grows (c.grows_robots site s.log s.store target.origin) (Nat.zero_le 1)
    (by decide)
  simp only [collect]
  generalize c.robots site target.origin s.log s.store = robots at hrobots ⊢
  have hsitemap := hrobots.grows
    (c.grows_sitemap site (.ofUrl target) robots.2 robots.1.1 target.origin)
    (by decide : 1 ≤ 2) (by decide)
  generalize c.sitemap site target.origin (.ofUrl target) robots.2 robots.1.1 = sitemap
    at hsitemap ⊢
  cases wayback with
  | false => exact hsitemap
  | true =>
    exact hsitemap.grows
      (c.grows_wayback site (.ofUrl target) sitemap.2 sitemap.1.1 (archiveDomain target))
      (by decide : 2 ≤ 3) (by decide)

theorem isStaged_gathered (o : RunOptions) (site : Web.Site) (target : Url) :
    (gathered o site target).store.IsStaged (if o.wayback then 3 else 2) := by
  have hcrawl := ((Crawler.ofConfig o.config o.depth).grows_crawlFrom site target []
    Store.empty).store
  rw [gathered]
  exact isStaged_collect _ site target o.wayback
    (Store.isStaged_empty.grows hcrawl le_rfl (by decide))

theorem bare_completed (o : RunOptions) (site : Web.Site) (target : Url) :
    (completed o site target).store.entries.map Candidate.bare =
      (gathered o site target).store.entries.map Candidate.bare := by
  rw [completed]
  split
  · exact Prober.bare_probeAll _ site target _ _
  · rfl

theorem map_completed {α : Type} {g : Candidate → α} (hg : ∀ c, g c.bare = g c) (o : RunOptions)
    (site : Web.Site) (target : Url) :
    (completed o site target).store.entries.map g =
      (gathered o site target).store.entries.map g := by
  have h := congrArg (List.map g) (bare_completed o site target)
  simpa only [List.map_map, Function.comp_def, hg] using h

theorem size_completed (o : RunOptions) (site : Web.Site) (target : Url) :
    (completed o site target).store.size = (gathered o site target).store.size := by
  have h := congrArg List.length (bare_completed o site target)
  rwa [List.length_map, List.length_map] at h

theorem sorted_completed (o : RunOptions) (site : Web.Site) (target : Url) :
    ((completed o site target).store.entries.map fun c => c.source.stage).Pairwise (· ≤ ·) := by
  rw [map_completed (fun _ => rfl) o site target]
  exact List.pairwise_map.2 (isStaged_gathered o site target).sorted

theorem source_completed {o : RunOptions} (h : o.wayback = false) (site : Web.Site)
    (target : Url) : ∀ c ∈ (completed o site target).store.entries, c.source ≠ .wayback := by
  have hsources : ∀ x ∈ (completed o site target).store.entries.map Candidate.source,
      x ≠ .wayback := by
    rw [map_completed (fun _ => rfl) o site target]
    refine List.forall_mem_map.2 fun c hc hsource => ?_
    have hbound := (isStaged_gathered o site target).bound c hc
    rw [h, hsource] at hbound
    exact absurd hbound (by decide)
  exact fun c hc => hsources _ (List.mem_map_of_mem hc)

theorem gathered_filterStatus (o : RunOptions) (spec : Option Text) (site : Web.Site)
    (target : Url) :
    gathered { o with filterStatus := spec } site target = gathered o site target := by
  rw [gathered, gathered]
  rfl

theorem completed_filterStatus (o : RunOptions) (spec : Option Text) (site : Web.Site)
    (target : Url) :
    completed { o with filterStatus := spec } site target = completed o site target := by
  simp only [completed, probed, gathered_filterStatus]

theorem completed_of_not_probe {o : RunOptions} (h : o.probe = false) (site : Web.Site)
    (target : Url) : completed o site target = gathered o site target :=
  if_neg (by simp [h])

theorem isSettled_completed {o : RunOptions} (h : o.probe = true) (site : Web.Site)
    (target : Url) : ∀ e ∈ (completed o site target).store.entries, e.IsSettled := by
  rw [completed, if_pos h]
  refine Prober.isSettled_probeAll _ site _ fun c hc => ?_
  rw [Candidate.isProbed, ((isStaged_gathered o site target).unprobed c hc).1]
  rfl

end

section Records
variable {filter : Option StatusFilter} {target : Url} {s : Store}

theorem recordsOf_eq_filter (f : StatusFilter) (target : Url) (s : Store) :
    recordsOf (some f) target s =
      (recordsOf none target s).filter fun r => f.accepts r.status := by
  rw [recordsOf, recordsOf, List.filter_map]
  rfl

theorem recordsOf_eq_map (filter : Option StatusFilter) (target : Url) (s : Store) :
    ∃ kept : List Candidate, kept.Sublist s.entries ∧
      recordsOf filter target s = kept.map fun c => Record.ofCandidate c target := by
  cases filter with
  | none => exact ⟨s.entries, List.Sublist.refl _, rfl⟩
  | some f => exact ⟨_, List.filter_sublist, rfl⟩

theorem recordsOf_sublist :
    (recordsOf filter target s).Sublist
      (s.entries.map fun c => Record.ofCandidate c target) := by
  obtain ⟨kept, hkept, hrecords⟩ := recordsOf_eq_map filter target s
  rw [hrecords]
  exact hkept.map _

theorem exists_of_mem_recordsOf {r : Record} (h : r ∈ recordsOf filter target s) :
    ∃ c ∈ s.entries, r = Record.ofCandidate c target := by
  obtain ⟨kept, hkept, hrecords⟩ := recordsOf_eq_map filter target s
  rw [hrecords] at h
  obtain ⟨c, hc, rfl⟩ := List.mem_map.1 h
  exact ⟨c, hkept.subset hc, rfl⟩

theorem map_recordsOf_sublist {α : Type} {f : Record → α} {g : Candidate → α}
    (hfg : ∀ c, f (Record.ofCandidate c target) = g c) :
    ((recordsOf filter target s).map f).Sublist (s.entries.map g) := by
  obtain ⟨kept, hkept, hrecords⟩ := recordsOf_eq_map filter target s
  rw [hrecords, List.map_map]
  simpa only [Function.comp_def, hfg] using hkept.map g

theorem nodup_recordsOf :
    ((recordsOf filter target s).map fun r =>
      (Candidate.normalizePath r.value, r.source)).Nodup := by
  have hkeys : (s.entries.map fun c => (Candidate.normalizePath c.value, c.source)).Nodup := by
    refine List.Nodup.of_map (fun p => Candidate.Key.mk p.1 p.2) ?_
    rw [List.map_map]
    exact s.keys_nodup
  exact (map_recordsOf_sublist fun _ => rfl).nodup hkeys

end Records

/-- Of a scan that has a result: the records are entries of the store in the order of their
discovery, those of scripts before those of the robots file, of the sitemap and of the archive,
and no two are the same find. Without probes all entries are there and no record has an outcome;
with them every record has one. A filter keeps the records with a status of its own of those that
there are without it. -/
theorem execute_records [Environment] (o : RunOptions) (site : Web.Site) (report : RunReport)
    (h : (execute o site).result = .ok report) :
    let store := (completed o site report.target).store
    let all := store.entries.map fun c => Record.ofCandidate c report.target
    report.total = store.size ∧
    report.records.Sublist all ∧
    (o.filterStatus = none → report.records = all) ∧
    (report.records.Pairwise fun r r' => r.source.stage ≤ r'.source.stage) ∧
    (o.wayback = false → ∀ r ∈ report.records, r.source ≠ .wayback) ∧
    (report.records.map fun r => (Candidate.normalizePath r.value, r.source)).Nodup ∧
    (o.probe = false → report.records.length = report.total ∧
      ∀ r ∈ report.records, r.reachable = none ∧ r.status = none) ∧
    (o.probe = true → ∀ r ∈ report.records, ∃ reachable status,
      r.reachable = some reachable ∧ r.status = some status ∧
        (status = 0 ↔ reachable = false)) ∧
    ∀ spec, o.filterStatus = some spec → ∃ f unfiltered, StatusFilter.parse spec = .ok f ∧
      (execute { o with filterStatus := none } site).result = .ok unfiltered ∧
      report.records = unfiltered.records.filter (fun r => f.accepts r.status) ∧
      report.total = unfiltered.total := by
  obtain ⟨e, hfault⟩ | ⟨target, filter, hready⟩ := fault_or_ready o
  · rw [execute_of_fault hfault] at h
    cases h
  rw [execute_of_ready hready] at h
  obtain rfl := Except.ok.inj h
  refine ⟨(size_completed o site target).symm, recordsOf_sublist, fun hnone => ?_, ?_,
    fun hwayback r hr => ?_, nodup_recordsOf, fun hprobe => ?_, fun hprobe r hr => ?_,
    fun spec hspec => ?_⟩
  · obtain rfl := hready.filter.eq_none hnone
    rfl
  · exact List.pairwise_map.1 ((sorted_completed o site target).sublist
      (map_recordsOf_sublist fun _ => rfl))
  · obtain ⟨c, hc, rfl⟩ := exists_of_mem_recordsOf hr
    exact source_completed hwayback site target c hc
  · obtain rfl := hready.filter.eq_none_of_not_probe hprobe
    rw [completed_of_not_probe hprobe]
    refine ⟨List.length_map _, List.forall_mem_map.2 ?_⟩
    exact (isStaged_gathered o site target).unprobed
  · obtain ⟨c, hc, rfl⟩ := exists_of_mem_recordsOf hr
    exact isSettled_completed hprobe site target c hc
  · obtain ⟨f, rfl, hparse⟩ := hready.filter.eq_some hspec
    have hready' : Ready { o with filterStatus := none } target none :=
      ⟨.absent rfl, hready.url, hready.http, hready.host, hready.agent⟩
    have hunfiltered := execute_of_ready hready' site
    rw [gathered_filterStatus, completed_filterStatus] at hunfiltered
    refine ⟨f, _, hparse, congrArg Run.result hunfiltered, ?_, rfl⟩
    exact recordsOf_eq_filter f target _

def fourSources : Web.Request → Web.Delivery := fun r =>
  let answer (body : String) := Web.Delivery.answered (.plain body.toList)
  if r.url = "http://a.co/".toList then answer "<script src=a.js></script>"
  else if r.url = "http://a.co/a.js".toList then answer "'/from/a'"
  else if r.url = "http://a.co/robots.txt".toList then answer "Disallow: /admin"
  else if r.url = "http://a.co/sitemap.xml".toList then answer "<loc>http://a.co/map</loc>"
  else if r.url = ("http://w.org/cdx/search/cdx?url=a.co%2F*" ++
      "&output=json&fl=original&collapse=urlkey").toList then
    answer "[[\"original\"],[\"http://a.co/old\"]]"
  else if r.url = "http://a.co/from/a".toList then .undelivered
  else answer ""

def probingOptions : RunOptions where
  url := "http://a.co/".toList
  probe := true
  wayback := true
  filterStatus := some "2xx".toList
  config := { archiveEndpoint := "http://w.org".toList }

attribute [local instance] Environment.plain

theorem execute_records_fourSources :
    ∃ report, (execute probingOptions (.ofFunction fourSources)).result = .ok report ∧
      report.total = 4 ∧
      (report.records.map fun r => (r.value, r.source, r.status)) =
        [("/admin".toList, .robots, some 200), ("http://a.co/map".toList, .sitemap, some 200),
          ("http://a.co/old".toList, .wayback, some 200)] ∧
      (report.records.Pairwise fun r r' => r.source.stage ≤ r'.source.stage) ∧
      (report.records.map fun r => (Candidate.normalizePath r.value, r.source)).Nodup ∧
      ∃ f unfiltered, StatusFilter.parse "2xx".toList = .ok f ∧
        (execute { probingOptions with filterStatus := none } (.ofFunction fourSources)).result =
          .ok unfiltered ∧
        report.records = unfiltered.records.filter (fun r => f.accepts r.status) ∧
        unfiltered.total = 4 := by
  have hfound : (execute probingOptions (.ofFunction fourSources)).result.toOption.map
      (fun report => (report.total, report.records.map fun r => (r.value, r.source, r.status))) =
      some (4, [("/admin".toList, .robots, some 200),
        ("http://a.co/map".toList, .sitemap, some 200),
        ("http://a.co/old".toList, .wayback, some 200)]) := by decide +kernel
  cases hresult : (execute probingOptions (.ofFunction fourSources)).result with
  | error e =>
    rw [hresult] at hfound
    cases hfound
  | ok report =>
    rw [hresult] at hfound
    obtain ⟨htotal, hrecords⟩ := Prod.mk.inj (Option.some.inj hfound)
    obtain ⟨-, -, -, hstages, -, hnodup, -, -, hfilter⟩ := execute_records _ _ report hresult
    obtain ⟨f, unfiltered, hparse, hunfiltered, hkept, hall⟩ := hfilter _ rfl
    exact ⟨report, rfl, htotal, hrecords, hstages, hnodup, f, unfiltered, hparse, hunfiltered,
      hkept, hall.symm.trans htotal⟩

end Run

end EndpointScout
