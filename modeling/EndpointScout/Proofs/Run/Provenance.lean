import EndpointScout.Proofs.Collect.Additions
import EndpointScout.Proofs.Run.Records

/-! Where the entries of a scan come from: each is made from a text that a script, the robots
file, the sitemap or an archive names. -/
namespace EndpointScout

namespace Crawler
open Crawl
variable [Environment] (c : Crawler) (site : Web.Site) (target : Target)

def Offers (f : Find) : Prop :=
  (∃ url log, f ∈ (Script.read c.config (some (c.fetcher.script site url log).1)
    (c.fetcher.script site url log).2.length).finds) ∧
    target.accepts (Candidate.cleanLiteral f.text) = true

def IsMined (s : Store) : Prop :=
  ∀ e ∈ s.entries, ∃ f, c.Offers site target f ∧ e = Store.candidateOf f

variable {c site target} {s : State}

theorem IsMined.visitScript (h : c.IsMined site target s.store) (url : Text) :
    c.IsMined site target (c.visitScript site target s url).store := by
  intro e he
  obtain he | ⟨f, hf, haccepts, rfl⟩ := Store.mem_entries_acceptAll he
  · exact h e he
  · exact ⟨f, ⟨⟨url, s.log, hf⟩, haccepts⟩, rfl⟩

theorem IsMined.visitScripts (h : c.IsMined site target s.store) (urls : List Text) :
    c.IsMined site target (c.visitScripts site target s urls).store := by
  induction urls generalizing s with
  | nil => exact h
  | cons url urls ih => exact ih (h.visitScript url)

theorem IsMined.visitPage (h : c.IsMined site target s.store) (level : Nat) (isLast : Bool)
    (url : Text) : c.IsMined site target (c.visitPage site target level isLast url s).1.store := by
  rw [visitPage_eq]
  exact IsMined.visitScripts (s := c.arrive site target level url s) h _

theorem IsMined.visitLevel (h : c.IsMined site target s.store) (level : Nat) (isLast : Bool)
    (urls : List Text) :
    c.IsMined site target (c.visitLevel site target level isLast urls s).1.store := by
  induction urls generalizing s with
  | nil => exact h
  | cons url urls ih =>
    rw [Crawler.visitLevel]
    split
    · exact ih h
    · exact ih (h.visitPage level isLast url)

theorem IsMined.visitLevels (h : c.IsMined site target s.store) (remaining level : Nat)
    (urls : List Text) :
    c.IsMined site target (c.visitLevels site target remaining level urls s).store := by
  induction remaining generalizing level urls s with
  | zero =>
    rw [visitLevels_zero]
    exact h.visitLevel level true urls
  | succ remaining ih =>
    rw [visitLevels_succ]
    exact ih (h.visitLevel level false urls) _ _

theorem isMined_crawlFrom (start : Url) (log : Web.Log) :
    c.IsMined site (.ofUrl start) (c.crawlFrom site start log Store.empty).store :=
  IsMined.visitLevels (s := State.start log Store.empty)
    (by simp [IsMined, State.start, Store.empty]) _ _ _

end Crawler

theorem Collector.forall_mem_offer {α : Type} {p : Candidate → Prop} {store : Store}
    {document : Option α} {candidates : α → List Candidate} (hstore : ∀ e ∈ store.entries, p e)
    (h : ∀ d, document = some d → ∀ e ∈ candidates d, p e) :
    ∀ e ∈ (offer store document candidates).1.entries, p e := by
  intro e he
  cases document with
  | none => exact hstore e he
  | some d =>
    obtain he | he := Store.mem_entries_addCounting he
    · exact hstore e he
    · exact h d rfl e he

theorem classify_of_matchesText [SuffixList] {scope : Target} {t : Text}
    (h : scope.matchesText t = true) : Kind.classify t = .external := by
  rw [Target.matchesText] at h
  cases hparse : Url.parse t with
  | error e => simp [hparse] at h
  | ok u => exact if_neg (by simpa using Url.head?_of_parse hparse)

namespace Run

def storedForm (x : Source) (text : Text) : Text :=
  if x ∈ Source.inScripts then Candidate.canonical text else text

variable [Environment] {o : RunOptions} {site : Web.Site} {target : Url}

/-- The texts that a source of a scan names, cut and cleaned as the source has it. -/
inductive Names (o : RunOptions) (site : Web.Site) (target : Url) : Source → Text → Prop
  | script {f : Find}
      (hoffers : (Crawler.ofConfig o.config o.depth).Offers site (.ofUrl target) f) :
      Names o site target f.source (Candidate.cleanLiteral f.text)
  | robots {log : Web.Log} {body path : Text}
      (hbody : ((Collector.ofConfig o.config).fetch site target.origin "robots.txt" log).1 =
        some body)
      (hpath : path ∈ Robots.paths body) : Names o site target .robots path
  | sitemap {log : Web.Log} {body location : Text}
      (hbody : ((Collector.ofConfig o.config).fetch site target.origin "sitemap.xml" log).1 =
        some body)
      (hlocation : location ∈ Sitemap.locations body)
      (hscope : (Target.ofUrl target).matchesText location = true) :
      Names o site target .sitemap location
  | archive {log : Web.Log} {rows : List (List Text)} {raw : Text} (hwayback : o.wayback = true)
      (hrows : ((Collector.ofConfig o.config).archiveRows site (archiveDomain target) log).1 =
        some rows)
      (hraw : raw ∈ Archive.archivedUrls rows)
      (haccepts : (Target.ofUrl target).accepts (Candidate.cleanLiteral raw) = true) :
      Names o site target .wayback (Candidate.cleanLiteral raw)

/-- A candidate that is made from a text that its source names. -/
def IsNamed (o : RunOptions) (site : Web.Site) (target : Url) (c : Candidate) : Prop :=
  ∃ text, Names o site target c.source text ∧ c.value = storedForm c.source text ∧
    c.kind = Kind.classify text

theorem isNamed_candidateOf {f : Find}
    (h : (Crawler.ofConfig o.config o.depth).Offers site (.ofUrl target) f) :
    IsNamed o site target (Store.candidateOf f) := by
  obtain ⟨url, log, hf⟩ := h.1
  have hsource : (Store.candidateOf f).source ∈ Source.inScripts :=
    Script.Tree.source_of_mem_finds hf
  exact ⟨_, .script h, (if_pos hsource).symm, rfl⟩

theorem isNamed_collect {s : Stage} (h : ∀ e ∈ s.store.entries, IsNamed o site target e) :
    ∀ e ∈ (collect (.ofConfig o.config) site target o.wayback s).store.entries,
      IsNamed o site target e := by
  have hrobots : ∀ e ∈ ((Collector.ofConfig o.config).robots site target.origin s.log
      s.store).1.1.entries, IsNamed o site target e := by
    refine Collector.forall_mem_offer h fun body hbody => List.forall_mem_map.2 fun path hpath => ?_
    obtain ⟨rest, rfl, -⟩ := Robots.mem_paths hpath
    exact ⟨_, .robots hbody hpath, rfl, rfl⟩
  simp only [collect]
  generalize (Collector.ofConfig o.config).robots site target.origin s.log s.store = robots
    at hrobots ⊢
  have hsitemap : ∀ e ∈ ((Collector.ofConfig o.config).sitemap site target.origin (.ofUrl target)
      robots.2 robots.1.1).1.1.entries, IsNamed o site target e := by
    refine Collector.forall_mem_offer hrobots fun body hbody => List.forall_mem_map.2 fun t ht => ?_
    obtain ⟨hlocation, hscope⟩ := List.mem_filter.1 ht
    exact ⟨t, .sitemap hbody hlocation hscope, rfl, (classify_of_matchesText hscope).symm⟩
  generalize (Collector.ofConfig o.config).sitemap site target.origin (.ofUrl target) robots.2
    robots.1.1 = sitemap at hsitemap ⊢
  cases hwayback : o.wayback with
  | false => exact hsitemap
  | true =>
    refine Collector.forall_mem_offer hsitemap fun rows hrows =>
      List.forall_mem_map.2 fun t ht => ?_
    obtain ⟨ht, haccepts⟩ := List.mem_filter.1 ht
    obtain ⟨raw, hraw, rfl⟩ := List.mem_map.1 ht
    exact ⟨_, .archive hwayback hrows hraw haccepts, rfl, rfl⟩

theorem isNamed_gathered :
    ∀ e ∈ (gathered o site target).store.entries, IsNamed o site target e := by
  rw [gathered]
  refine isNamed_collect fun e he => ?_
  obtain ⟨f, hf, rfl⟩ := Crawler.isMined_crawlFrom target [] e he
  exact isNamed_candidateOf hf

theorem isNamed_completed :
    ∀ e ∈ (completed o site target).store.entries, IsNamed o site target e := by
  intro e he
  have hbare := List.mem_map_of_mem (f := Candidate.bare) he
  rw [bare_completed] at hbare
  obtain ⟨d, hd, hsame⟩ := List.mem_map.1 hbare
  obtain ⟨text, hnames, hvalue, hkind⟩ := isNamed_gathered d hd
  have hd : d.source = e.source ∧ d.value = e.value ∧ d.kind = e.kind := by
    simp only [Candidate.bare, Candidate.mk.injEq] at hsame
    exact ⟨hsame.2.2.1, hsame.1, hsame.2.1⟩
  rw [hd.1] at hnames hvalue
  exact ⟨text, hnames, hd.2.1.symm.trans hvalue, hd.2.2.symm.trans hkind⟩

end Run

end EndpointScout
