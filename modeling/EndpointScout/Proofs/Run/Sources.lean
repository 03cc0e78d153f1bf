import EndpointScout.Proofs.Run.Records

/-! Sources do not disturb each other: what a store keeps of one source depends on the offers of
that source alone, and an archive only adds to what a scan finds without it. -/
namespace EndpointScout

namespace Store

def entriesOf (x : Source) (s : Store) : List Candidate := s.entries.filter fun c => c.source = x

theorem mem_keys_entriesOf {s : Store} {c : Candidate} :
    c.key ∈ (s.entriesOf c.source).map Candidate.key ↔ c.key ∈ s.entries.map Candidate.key := by
  simp only [entriesOf, List.mem_map, List.mem_filter, decide_eq_true_iff]
  constructor
  · rintro ⟨d, ⟨hd, -⟩, hkey⟩
    exact ⟨d, hd, hkey⟩
  · rintro ⟨d, hd, hkey⟩
    exact ⟨d, ⟨hd, congrArg Candidate.Key.source hkey⟩, hkey⟩

/-- A key names its source, so that an entry of another source never takes it. -/
theorem add_snd_eq_of_entriesOf_eq {s s' : Store} {c : Candidate}
    (h : s.entriesOf c.source = s'.entriesOf c.source) : (s.add c).2 = (s'.add c).2 := by
  rw [add_snd, add_snd, decide_eq_decide, ← mem_keys_entriesOf, h, mem_keys_entriesOf]

theorem entriesOf_add (x : Source) (s : Store) (c : Candidate) :
    (s.add c).1.entriesOf x =
      s.entriesOf x ++ if c.source = x ∧ (s.add c).2 = true then [c] else [] := by
  rw [entriesOf, entries_add, List.filter_append, entriesOf]
  congr 1
  cases (s.add c).2 with
  | false => simp
  | true =>
    by_cases hx : c.source = x
    · simp [hx]
    · simp [hx]

theorem entriesOf_addAll_filter {x : Source} {s s' : Store} (h : s.entriesOf x = s'.entriesOf x)
    (cs : List Candidate) :
    (s.addAll cs).entriesOf x = (s'.addAll (cs.filter fun c => c.source = x)).entriesOf x := by
  induction cs generalizing s s' with
  | nil => exact h
  | cons c cs ih =>
    by_cases hx : c.source = x
    · subst hx
      have hadd := add_snd_eq_of_entriesOf_eq h
      rw [List.filter_cons_of_pos (by simp)]
      exact ih (by rw [entriesOf_add, entriesOf_add, h, hadd])
    · rw [List.filter_cons_of_neg (by simp [hx])]
      exact ih (by rw [entriesOf_add, if_neg (fun hc => hx hc.1), List.append_nil, h])

end Store

namespace Run
variable {o : RunOptions} {target : Url} {filter : Option StatusFilter} {e : RunError}

theorem NamesFilter.wayback (h : NamesFilter o filter) (b : Bool) :
    NamesFilter { o with wayback := b } filter := by
  cases h with
  | absent hspec => exact .absent hspec
  | given hspec hparse hprobe => exact .given hspec hparse hprobe

theorem Fault.wayback (h : Fault o e) (b : Bool) : Fault { o with wayback := b } e := by
  cases h with
  | filter hspec hparse => exact .filter hspec hparse
  | filterWithoutProbe hspec hparse hprobe => exact .filterWithoutProbe hspec hparse hprobe
  | invalidTarget hfilter hurl => exact .invalidTarget (hfilter.wayback b) hurl
  | unsuitableTarget hfilter hurl hkind => exact .unsuitableTarget (hfilter.wayback b) hurl hkind
  | agent hfilter hurl hkind hagent => exact .agent (hfilter.wayback b) hurl hkind hagent

theorem Ready.wayback (h : Ready o target filter) (b : Bool) :
    Ready { o with wayback := b } target filter :=
  ⟨h.filter.wayback b, h.url, h.http, h.host, h.agent⟩

theorem recordsOf_append_of_grows {s s' : Store} {sources : List Source} (h : s.Grows sources s')
    (target : Url) : ∃ added, recordsOf none target s' = recordsOf none target s ++ added ∧
      ∀ r ∈ added, r.source ∈ sources := by
  obtain ⟨added, hentries, hadded⟩ := h
  refine ⟨added.map fun c => Record.ofCandidate c target, ?_, ?_⟩
  · rw [recordsOf, recordsOf, hentries, List.map_append]
  · exact List.forall_mem_map.2 fun c hc => (hadded c hc).source

section
variable [Environment]

theorem grows_collect (c : Collector) (site : Web.Site) (target : Url) (s : Stage) :
    (collect c site target false s).store.Grows [.wayback]
      (collect c site target true s).store := by
  simp only [collect]
  exact c.grows_wayback site (.ofUrl target) _ _ (archiveDomain target)

theorem grows_gathered (o : RunOptions) (site : Web.Site) (target : Url) :
    (gathered { o with wayback := false } site target).store.Grows [.wayback]
      (gathered { o with wayback := true } site target).store := by
  rw [gathered, gathered]
  exact grows_collect _ site target _

/-- The entries of a source that a new store keeps of some offers are those it keeps of the
offers of the source alone. So it makes no difference to the other records of a scan without
probes whether an archive is asked: they are the records without it, and those from the archive
follow them. -/
theorem sources_independent :
    (∀ (cs : List Candidate) (x : Source),
      (Store.empty.addAll cs).entries.filter (fun c => c.source = x) =
        (Store.empty.addAll (cs.filter fun c => c.source = x)).entries) ∧
    ∀ (o : RunOptions) (site : Web.Site), o.probe = false →
      (∀ e, (execute { o with wayback := true } site).result = .error e ↔
        (execute { o with wayback := false } site).result = .error e) ∧
      ∀ report, (execute { o with wayback := true } site).result = .ok report →
        ∃ plain archived, (execute { o with wayback := false } site).result = .ok plain ∧
          report.records = plain.records ++ archived ∧ ∀ r ∈ archived, r.source = .wayback := by
  refine ⟨fun cs x => ?_, fun o site hprobe => ⟨fun e => ?_, fun report h => ?_⟩⟩
  · have hsame := Store.entriesOf_addAll_filter (s := Store.empty) (x := x) rfl cs
    have hsource : ∀ c ∈ (Store.empty.addAll (cs.filter fun c => c.source = x)).entries,
        decide (c.source = x) = true := fun c hc =>
      (List.mem_filter.1 (Store.mem_of_mem_addAll hc)).2
    rw [Store.entriesOf, Store.entriesOf, List.filter_eq_self.2 hsource] at hsame
    exact hsame
  · rw [execute_eq_error_iff, execute_eq_error_iff]
    exact ⟨fun h => h.wayback false, fun h => h.wayback true⟩
  · obtain ⟨e, hfault⟩ | ⟨target, filter, hready⟩ := fault_or_ready o
    · rw [execute_of_fault (hfault.wayback true)] at h
      cases h
    obtain rfl := hready.filter.eq_none_of_not_probe hprobe
    have hcompleted (b : Bool) : completed { o with wayback := b } site target =
        gathered { o with wayback := b } site target :=
      completed_of_not_probe (o := { o with wayback := b }) hprobe site target
    have hplain := execute_of_ready (hready.wayback false) site
    rw [execute_of_ready (hready.wayback true), hcompleted true] at h
    rw [hcompleted false] at hplain
    obtain rfl := Except.ok.inj h
    obtain ⟨archived, hrecords, hsources⟩ :=
      recordsOf_append_of_grows (grows_gathered o site target) target
    exact ⟨_, archived, congrArg Run.result hplain, hrecords,
      fun r hr => List.mem_singleton.1 (hsources r hr)⟩

end

def archivedPages : Web.Request → Web.Delivery := fun r =>
  let answer (body : String) := Web.Delivery.answered (.plain body.toList)
  if r.url = "http://a.co/".toList then answer "<script src=a.js></script>"
  else if r.url = "http://a.co/a.js".toList then answer "'/from/a'"
  else if r.url = ("http://w.org/cdx/search/cdx?url=a.co%2F*" ++
      "&output=json&fl=original&collapse=urlkey").toList then
    answer "[[\"original\"],[\"http://a.co/from/a\"],[\"http://a.co/old\"]]"
  else answer ""

def archiveOptions : RunOptions where
  url := "http://a.co/".toList
  config := { archiveEndpoint := "http://w.org".toList }

attribute [local instance] Environment.plain

theorem sources_independent_archivedPages :
    archiveOptions.probe = false ∧
    ∃ report plain archived,
      (execute { archiveOptions with wayback := true } (.ofFunction archivedPages)).result =
        .ok report ∧
      (execute { archiveOptions with wayback := false } (.ofFunction archivedPages)).result =
        .ok plain ∧
      (report.records.map fun r => (r.value, r.source)) = [("/from/a".toList, .static),
        ("http://a.co/from/a".toList, .wayback), ("http://a.co/old".toList, .wayback)] ∧
      report.records = plain.records ++ archived ∧ ∀ r ∈ archived, r.source = .wayback := by
  have hprobe : archiveOptions.probe = false := rfl
  have hfound : (execute { archiveOptions with wayback := true }
      (.ofFunction archivedPages)).result.toOption.map
        (fun report => report.records.map fun r => (r.value, r.source)) =
      some [("/from/a".toList, .static), ("http://a.co/from/a".toList, .wayback),
        ("http://a.co/old".toList, .wayback)] := by decide +kernel
  obtain ⟨-, hsame⟩ := sources_independent.2 archiveOptions (.ofFunction archivedPages) hprobe
  cases hresult : (execute { archiveOptions with wayback := true }
      (.ofFunction archivedPages)).result with
  | error e =>
    rw [hresult] at hfound
    cases hfound
  | ok report =>
    rw [hresult] at hfound
    obtain ⟨plain, archived, hplain, happend, hsource⟩ := hsame report hresult
    exact ⟨hprobe, report, plain, archived, rfl, hplain, Option.some.inj hfound, happend, hsource⟩

end Run

end EndpointScout
