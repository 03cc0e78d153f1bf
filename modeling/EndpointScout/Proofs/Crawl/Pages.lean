import EndpointScout.Proofs.Crawl.Requests

/-! Which pages a crawl asks for twice. As texts all its pages differ, and all but the first are
written without a fragment; so a page is sent for again exactly if the first one has a fragment
and is linked to without it. -/
namespace EndpointScout

namespace Url
variable {u : Url}

theorem IsRead.withoutFragment_eq (h : IsRead u) (hspecial : isSpecialScheme u.scheme)
    (hbare : u.fragment = none) : u.withoutFragment = u := by
  obtain ⟨authority, path, ⟨tail, hu⟩, -, hpath⟩ := h.exists_assemble
  obtain ⟨segs, rfl⟩ := hpath hspecial
  rw [hu] at hbare ⊢
  exact congrArg (Url.mk _ _ _ _ _) hbare.symm

end Url

namespace Web

theorem Fetcher.page_silent [Decoders] (f : Fetcher) (site : Site) {t : Text}
    (h : ∀ u, Url.parse t = .ok u → isHttp u = false) (log : Log) :
    f.page site t log = ([], log) := by
  rw [page, Client.get_silent site f.pages _ h]

end Web

namespace Crawl

def Fetch.page? : Fetch → Option Text
  | page url => some url
  | script _ => none

def State.pages (s : State) : List Text := s.fetches.reverse.filterMap Fetch.page?

/-- What is sent for when a page is asked for: its URL without the fragment. -/
def sentForm (t : Text) : Text :=
  match Url.parse t with
  | .ok u => u.withoutFragment.text
  | .error _ => t

/-- The pages asked for are those that were visited, each once, and all are counted. -/
structure Tallied (s : State) : Prop where
  fetched : s.fetches.filterMap Fetch.page? = s.visited
  counted : s.summary.pagesVisited = s.visited.length
  nodup : s.visited.Nodup

theorem Tallied.pages {s : State} (h : Tallied s) : s.pages = s.visited.reverse := by
  rw [State.pages, List.filterMap_reverse, h.fetched]

theorem sentForm_of_onSite [SuffixList] {start : Url} {t : Text} {u : Url}
    (h : OnSite start (.page t) u) (hne : t ≠ start.text) : sentForm t = t := by
  cases h with
  | start => exact absurd rfl hne
  | page hread hscheme hbare hdomain =>
    obtain ⟨hspecial, -⟩ := Url.special_of_web hscheme
    rw [sentForm, hread]
    exact congrArg Url.text ((Url.isRead_parse hread).withoutFragment_eq hspecial hbare)

end Crawl

namespace Crawler
open Crawl

section
variable [Environment] {c : Crawler} {site : Web.Site} {target : Target} {start : Url} {s : State}

theorem tallied_visitPage (h : Tallied s) (level : Nat) (isLast : Bool) {t : Text}
    (ht : t ∉ s.visited) : Tallied (c.visitPage site target level isLast t s).1 := by
  have hscripts (urls : List Text) :
      (urls.map Fetch.script).reverse.filterMap Fetch.page? = [] := by
    simp [List.filterMap_eq_nil_iff, Fetch.page?]
  rw [visitPage_eq]
  constructor
  · rw [visitScripts_fetches, visitScripts_visited, List.filterMap_append, hscripts,
      List.nil_append]
    exact congrArg (t :: ·) h.fetched
  · rw [visitScripts_pagesVisited, visitScripts_visited]
    exact congrArg (· + 1) h.counted
  · rw [visitScripts_visited]
    exact List.nodup_cons.2 ⟨ht, h.nodup⟩

theorem tallied_visitLevel (h : Tallied s) (level : Nat) (isLast : Bool) (urls : List Text) :
    Tallied (c.visitLevel site target level isLast urls s).1 := by
  induction urls generalizing s with
  | nil => exact h
  | cons t urls ih =>
    rw [visitLevel]
    split
    · exact ih h
    · rename_i ht
      exact ih (tallied_visitPage h level isLast ht)

theorem tallied_visitLevels (h : Tallied s) (remaining level : Nat) (urls : List Text) :
    Tallied (c.visitLevels site target remaining level urls s) := by
  induction remaining generalizing level urls s with
  | zero =>
    rw [visitLevels_zero]
    exact tallied_visitLevel h level true urls
  | succ remaining ih =>
    rw [visitLevels_succ]
    exact ih (tallied_visitLevel h level false urls) _ _

theorem visited_visitLevels (remaining level : Nat) (urls : List Text) :
    s.visited <:+ (c.visitLevels site target remaining level urls s).visited := by
  induction remaining generalizing level urls s with
  | zero =>
    rw [visitLevels_zero, visitLevel_visited]
    exact List.suffix_append _ _
  | succ remaining ih =>
    rw [visitLevels_succ]
    refine List.IsSuffix.trans ?_ (ih _ _)
    rw [visitLevel_visited]
    exact List.suffix_append _ _

variable (c site start) (log : Web.Log) (store : Store)

theorem tallied_crawlFrom : Tallied (c.crawlFrom site start log store) :=
  tallied_visitLevels ⟨rfl, rfl, List.nodup_nil⟩ _ _ _

theorem visitLevel_start_visited (level : Nat) (isLast : Bool) :
    (c.visitLevel site target level isLast [start.text] (State.start log store)).1.visited =
      [start.text] := by
  rw [visitLevel_visited]
  rfl

theorem exists_pages_crawlFrom :
    ∃ rest, (c.crawlFrom site start log store).pages = start.text :: rest := by
  have hfirst : [start.text] <:+ (c.crawlFrom site start log store).visited := by
    rw [crawlFrom]
    cases c.maxDepth with
    | zero => rw [visitLevels_zero, visitLevel_start_visited]
    | succ depth =>
      rw [visitLevels_succ]
      refine List.IsSuffix.trans ?_ (visited_visitLevels _ _ _)
      rw [visitLevel_start_visited]
  obtain ⟨front, hfront⟩ := hfirst
  refine ⟨front.reverse, ?_⟩
  rw [(c.tallied_crawlFrom site start log store).pages, ← hfront, List.reverse_append,
    List.reverse_singleton, List.singleton_append]

theorem pages_crawlFrom_of_silent
    (h : ∀ u, Url.parse start.text = .ok u → Web.isHttp u = false) :
    (c.crawlFrom site start log store).pages = [start.text] := by
  have hlinks : (c.visitLevel site (Target.ofUrl start) 0 false [start.text]
      (State.start log store)).2 = [] := by
    rw [visitLevel, if_neg (by simp [State.start])]
    simp [visitPage_eq, State.start, c.fetcher.page_silent site h, pageLinks_nil, visitLevel]
  have hvisited : (c.crawlFrom site start log store).visited = [start.text] := by
    rw [crawlFrom]
    cases c.maxDepth with
    | zero => rw [visitLevels_zero, visitLevel_start_visited]
    | succ depth => rw [visitLevels_succ, hlinks, visitLevels_nil, visitLevel_start_visited]
  rw [(c.tallied_crawlFrom site start log store).pages, hvisited, List.reverse_singleton]

theorem sentForm_of_mem_pages (hstart : start.IsRead) {t : Text}
    (ht : t ∈ (c.crawlFrom site start log store).pages) (hne : t ≠ start.text) :
    sentForm t = t := by
  obtain ⟨trips, hmap, -, hall⟩ := c.accounted_crawlFrom site hstart log store
  obtain ⟨f, hf, hpage⟩ := List.mem_filterMap.1 ht
  rw [List.mem_reverse, ← hmap] at hf
  obtain ⟨p, hp, rfl⟩ := List.mem_map.1 hf
  obtain ⟨u, hsite, -⟩ := hall p hp
  cases hfetch : p.1 with
  | script t => simp [hfetch, Fetch.page?] at hpage
  | page t =>
    simp only [hfetch, Fetch.page?, Option.some.injEq] at hpage
    rw [hfetch, hpage] at hsite
    exact sentForm_of_onSite hsite hne

/-- A crawl asks for its first page and then for others, no two of which are the same text, counts
each of them, and sends for all but the first as they are written. So no page is sent for twice,
unless the first one has a fragment and is asked for without it later on. -/
theorem pages_sent_once_iff (c : Crawler) (site : Web.Site) (url : Text) (start : Url)
    (hurl : Url.parse url = .ok start) (log : Web.Log) (store : Store) :
    ∃ (s : State) (rest : List Text), c.crawl site url log store = .ok s ∧
      s.pages = start.text :: rest ∧ s.pages.Nodup ∧
      s.summary.pagesVisited = s.pages.length ∧ (∀ t ∈ rest, sentForm t = t) ∧
      ((s.pages.map sentForm).Nodup ↔
        ¬(start.fragment.isSome ∧ start.withoutFragment.text ∈ rest)) := by
  have hstart := Url.isRead_parse hurl
  have htallied := c.tallied_crawlFrom site start log store
  obtain ⟨rest, hpages⟩ := c.exists_pages_crawlFrom site start log store
  have hnodup : (start.text :: rest).Nodup := by
    rw [← hpages, htallied.pages, List.nodup_reverse]
    exact htallied.nodup
  obtain ⟨hfirst, hrest⟩ := List.nodup_cons.1 hnodup
  have hsent : ∀ t ∈ rest, sentForm t = t := fun t ht =>
    c.sentForm_of_mem_pages site start log store hstart (hpages ▸ List.mem_cons_of_mem _ ht)
      fun he => hfirst (he ▸ ht)
  refine ⟨_, rest, by rw [crawl, hurl], hpages, hpages ▸ hnodup, ?_, hsent, ?_⟩
  · rw [htallied.pages, List.length_reverse, htallied.counted]
  · have hmap : rest.map sentForm = rest := by rw [List.map_congr_left hsent, List.map_id']
    rw [hpages, List.map_cons, hmap, List.nodup_cons]
    obtain ⟨hscheme, hread⟩ | ⟨-, hsilent⟩ := hstart.parse_text_cases
    · have hform : sentForm start.text = start.withoutFragment.text := by rw [sentForm, hread]
      obtain ⟨hspecial, -⟩ := Url.special_of_web hscheme
      cases hfragment : start.fragment with
      | some f => simp [hform, hrest]
      | none =>
        rw [hform, hstart.withoutFragment_eq hspecial hfragment]
        simp [hfirst, hrest]
    · have hnil : rest = [] := by
        simpa [hpages] using c.pages_crawlFrom_of_silent site start log store hsilent
      simp [hnil]

end

def linkingHome : Web.Site := .ofFunction fun _ => .answered (.plain "<a href=/>".toList)

def homeAtTop : Url := { pageA with fragment := some "top".toList }

attribute [local instance] Environment.plain

theorem pages_sent_once_iff_home :
    Url.parse "http://a.co/#top".toList = .ok homeAtTop ∧
    ∃ s, crawlerToFive.crawl linkingHome "http://a.co/#top".toList [] Store.empty = .ok s ∧
      s.pages = ["http://a.co/#top".toList, "http://a.co/".toList] ∧
      s.log.requests.map (·.url) = ["http://a.co/".toList, "http://a.co/".toList] ∧
      s.summary.pagesVisited = 2 ∧ ¬(s.pages.map sentForm).Nodup := by
  have hurl : Url.parse "http://a.co/#top".toList = .ok homeAtTop := by decide +kernel
  have hcrawl : crawlerToFive.crawl linkingHome "http://a.co/#top".toList [] Store.empty =
      .ok (crawlerToFive.crawlFrom linkingHome homeAtTop [] Store.empty) := by
    rw [crawl, hurl]
  obtain ⟨s, rest, hs, hpages, -, hcounted, -, honce⟩ :=
    pages_sent_once_iff crawlerToFive linkingHome _ _ hurl [] Store.empty
  obtain rfl : _ = s := Except.ok.inj (hcrawl.symm.trans hs)
  have htwo : (crawlerToFive.crawlFrom linkingHome homeAtTop [] Store.empty).pages =
      ["http://a.co/#top".toList, "http://a.co/".toList] := by decide +kernel
  have hrequests : (crawlerToFive.crawlFrom linkingHome homeAtTop [] Store.empty).log.requests.map
      (·.url) = ["http://a.co/".toList, "http://a.co/".toList] := by decide +kernel
  have hrest : rest = ["http://a.co/".toList] := (List.cons.inj (hpages.symm.trans htwo)).2
  refine ⟨hurl, _, hs, htwo, hrequests, by rw [hcounted, htwo]; rfl, ?_⟩
  rw [honce, not_not, hrest]
  decide +kernel

end Crawler

end EndpointScout
