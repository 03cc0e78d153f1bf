import EndpointScout.Proofs.Candidate.Printable
import EndpointScout.Proofs.Record.Lines
import EndpointScout.Proofs.Run.Provenance

/-! The plain export of a scan by its lines: which texts of a site can break one. -/
namespace EndpointScout

theorem Candidate.canonical_ne_nil {value : Text} (h : value ≠ []) : canonical value ≠ [] := by
  by_cases hhead : value.head? = some '/'
  · intro hnil
    have hpath := head?_canonical_of_path hhead
    rw [hnil] at hpath
    cases hpath
  · cases hparse : Url.parse value with
    | error e => rwa [canonical_of_error hhead hparse]
    | ok u =>
      obtain ⟨rest, hrest⟩ := stored_eq_scheme_append u
      rw [canonical_of_ok hhead hparse, hrest]
      simp

namespace Run
variable {o : RunOptions} {site : Web.Site} {target : Url} {x : Source} {text : Text}

theorem newline_mem_storedForm : '\n' ∈ storedForm x text ↔
    '\n' ∈ text ∧ (x ∈ Source.inScripts → Candidate.isLegible text = false) := by
  rw [storedForm]
  split
  · rename_i hx
    rw [Candidate.mem_canonical_of_isControl (by decide)]
    simp [hx]
  · rename_i hx
    simp [hx]

theorem newline_mem_resolveValue (hurl : Url.parse o.url = .ok target) (value : Text)
    (kind : Kind) : '\n' ∈ Record.resolveValue value kind target ↔ '\n' ∈ value := by
  have horigin : '\n' ∉ target.origin := fun h =>
    absurd ((Url.isRead_parse hurl).isPrintable_origin _ h) (by decide)
  cases kind with
  | external => rfl
  | relative => rw [Record.resolveValue, List.mem_append, or_iff_right horigin]

theorem resolveValue_ne_nil {value : Text} (h : value ≠ []) (kind : Kind) (target : Url) :
    Record.resolveValue value kind target ≠ [] := by
  cases kind with
  | external => exact h
  | relative => exact fun hnil => h (List.append_eq_nil_iff.1 hnil).2

section
variable [Environment]

theorem ne_nil_of_accepts {scope : Target} (h : scope.accepts text = true) : text ≠ [] := by
  rintro rfl
  have hlength := ((Candidate.isEndpointLike_iff _ _).1 h).1
  exact absurd hlength (by decide)

theorem Names.ne_nil (h : Names o site target x text) : text ≠ [] := by
  cases h with
  | script hoffers => exact ne_nil_of_accepts hoffers.2
  | robots hbody hpath =>
    obtain ⟨rest, rfl, -⟩ := Robots.mem_paths hpath
    exact List.cons_ne_nil _ _
  | sitemap hbody hlocation hscope =>
    rintro rfl
    cases hscope
  | archive hwayback hrows hraw haccepts => exact ne_nil_of_accepts haccepts

theorem storedForm_ne_nil (h : Names o site target x text) : storedForm x text ≠ [] := by
  rw [storedForm]
  split
  · exact Candidate.canonical_ne_nil h.ne_nil
  · exact h.ne_nil

theorem Names.newline_notMem_of_robots (h : Names o site target x text) (hx : x = .robots) :
    '\n' ∉ text := by
  cases h with
  | script hoffers =>
    obtain ⟨url, log, hf⟩ := hoffers.1
    have hsource := Script.Tree.source_of_mem_finds hf
    rw [hx] at hsource
    exact absurd hsource (by decide)
  | robots hbody hpath =>
    obtain ⟨rest, rfl, hblank⟩ := Robots.mem_paths hpath
    intro hmem
    obtain h | hmem := List.mem_cons.1 hmem
    · cases h
    · exact absurd (hblank _ hmem) (by decide)
  | sitemap hbody hlocation hscope => cases hx
  | archive hwayback hrows hraw haccepts => cases hx

/-- The lines of the plain export are the records of the scan, one line each, if and only if no
record has a line break in its URL. Every record is made from a text that its source names. A
line break of that text stands in the URL as well, unless the text is from a script and can be
read as a URL or as a reference. A robots file names no text with a line break. -/
theorem txtExport_lines_iff (o : RunOptions) (site : Web.Site) (report : RunReport)
    (h : (execute o site).result = .ok report) :
    (Text.lines (Record.txtExport report.records) =
        report.records.map (fun r => r.resolvedUrl ++ Record.statusMark r.status) ↔
      ∀ r ∈ report.records, '\n' ∉ r.resolvedUrl) ∧
    ∀ r ∈ report.records, ∃ text, Names o site report.target r.source text ∧
      r.value = storedForm r.source text ∧
      ('\n' ∈ r.resolvedUrl ↔
        '\n' ∈ text ∧ (r.source ∈ Source.inScripts → Candidate.isLegible text = false)) ∧
      (r.source = .robots → '\n' ∉ text) := by
  obtain ⟨e, hfault⟩ | ⟨target, filter, hready⟩ := fault_or_ready o
  · rw [execute_of_fault hfault] at h
    cases h
  rw [execute_of_ready hready] at h
  obtain rfl := Except.ok.inj h
  have hnamed {r : Record} (hr : r ∈ recordsOf filter target (completed o site target).store) :
      ∃ c, IsNamed o site target c ∧ r = Record.ofCandidate c target := by
    obtain ⟨c, hc, hrc⟩ := exists_of_mem_recordsOf hr
    exact ⟨c, isNamed_completed c hc, hrc⟩
  refine ⟨Record.lines_txtExport_iff fun r hr => ?_, fun r hr => ?_⟩
  · obtain ⟨c, ⟨text, hnames, hvalue, -⟩, rfl⟩ := hnamed hr
    exact resolveValue_ne_nil (hvalue ▸ storedForm_ne_nil hnames) c.kind target
  · obtain ⟨c, ⟨text, hnames, hvalue, -⟩, rfl⟩ := hnamed hr
    have hbreak := newline_mem_resolveValue hready.url c.value c.kind
    exact ⟨text, hnames, hvalue, hbreak.trans (hvalue ▸ newline_mem_storedForm),
      hnames.newline_notMem_of_robots⟩

end

/-- Three texts with a line break: a path that can be read, one that cannot and holds another line
of the file, and a location. -/
def brokenUrls : Web.Request → Web.Delivery := fun r =>
  let answer (body : String) := Web.Delivery.answered (.plain body.toList)
  if r.url = "http://a.co/".toList then answer "<script src=a.js></script>"
  else if r.url = "http://a.co/a.js".toList then
    answer "load('/from\\n/a'); load('//[v1]\\nhttp://evil.org/')"
  else if r.url = "http://a.co/sitemap.xml".toList then answer "<loc>http://a.co/x\ny</loc>"
  else answer ""

attribute [local instance] Environment.plain

theorem txtExport_lines_iff_brokenUrls :
    let o : RunOptions := { url := "http://a.co/".toList }
    ∃ report, (execute o (.ofFunction brokenUrls)).result = .ok report ∧
      report.records.map (fun r => r.resolvedUrl) =
        ["http://a.co/from/a".toList, "http://a.co/[v1]\nhttp://evil.org".toList,
          "http://a.co/x\ny".toList] ∧
      Text.lines (Record.txtExport report.records) =
        ["http://a.co/from/a".toList, "http://a.co/[v1]".toList, "http://evil.org".toList,
          "http://a.co/x".toList, "y".toList] ∧
      Text.lines (Record.txtExport report.records) ≠
        report.records.map fun r => r.resolvedUrl ++ Record.statusMark r.status := by
  intro o
  have hfound : (execute o (.ofFunction brokenUrls)).result.toOption.map (fun report =>
      (report.records.map (fun r => r.resolvedUrl), Text.lines (Record.txtExport report.records))) =
      some (["http://a.co/from/a".toList, "http://a.co/[v1]\nhttp://evil.org".toList,
          "http://a.co/x\ny".toList],
        ["http://a.co/from/a".toList, "http://a.co/[v1]".toList, "http://evil.org".toList,
          "http://a.co/x".toList, "y".toList]) := by decide +kernel
  cases hresult : (execute o (.ofFunction brokenUrls)).result with
  | error e =>
    rw [hresult] at hfound
    cases hfound
  | ok report =>
    rw [hresult] at hfound
    obtain ⟨hurls, hlines⟩ := Prod.mk.inj (Option.some.inj hfound)
    obtain ⟨hiff, -⟩ := txtExport_lines_iff o (.ofFunction brokenUrls) report hresult
    refine ⟨report, rfl, hurls, hlines, fun heq => ?_⟩
    have hwhole : ∀ u ∈ report.records.map (fun r => r.resolvedUrl), '\n' ∉ u :=
      List.forall_mem_map.2 (hiff.1 heq)
    rw [hurls] at hwhole
    exact absurd hwhole (by decide)

end Run

end EndpointScout
