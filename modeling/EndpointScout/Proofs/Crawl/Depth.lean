import EndpointScout.Proofs.Crawl.Levels
import EndpointScout.Proofs.Store.Growth
import EndpointScout.Proofs.Web.Redirections

/-! A deeper crawl goes on where a shallower one ends. Every part of a crawl only adds to the
exchanges, the entries and the counters, and the levels that two crawls have in common leave
the same state: the links of the last one are all that the shallower crawl does not take. -/
namespace EndpointScout

namespace Web

theorem Log.requests_prefix {l l' : Log} (h : l <:+ l') : l.requests <+: l'.requests :=
  ((List.reverse_prefix.2 h).filter _).map _

theorem follow_log (site : Site) (hops : Nat) (mode : Mode) (u : Url) (log : Log) :
    log <:+ (follow site hops mode u log).2 := by
  obtain ⟨sent, hlog, -⟩ := follow_areSent site mode hops u log
  exact ⟨sent, hlog.symm⟩

theorem Client.get_log (c : Client) (site : Site) (timeout : Nat) (url : Text) (log : Log) :
    log <:+ (c.get site timeout url log).2 := by
  unfold get
  split
  · exact follow_log site c.maxRedirects ⟨.get, timeout⟩ _ log
  · exact List.suffix_rfl

theorem Fetcher.page_log [Decoders] (f : Fetcher) (site : Site) (url : Text) (log : Log) :
    log <:+ (f.page site url log).2 := by
  have h := f.pages.get_log site f.pageTimeout url log
  unfold page
  grind

theorem Fetcher.script_log (f : Fetcher) (site : Site) (url : Text) (log : Log) :
    log <:+ (f.script site url log).2 := by
  have h := f.scripts.get_log site f.scriptTimeout url log
  unfold script
  grind

end Web

namespace Crawl

/-- A state of a crawl and a later one. -/
structure State.Grows (s s' : State) : Prop where
  log : s.log <:+ s'.log
  store : s.store.Grows Source.inScripts s'.store
  pagesVisited : s.summary.pagesVisited ≤ s'.summary.pagesVisited
  scriptsFound : s.summary.scriptsFound ≤ s'.summary.scriptsFound
  scriptsParsed : s.summary.scriptsParsed ≤ s'.summary.scriptsParsed
  candidates : s.summary.candidates ≤ s'.summary.candidates

theorem State.Grows.refl (s : State) : s.Grows s :=
  ⟨List.suffix_rfl, .refl _ s.store, le_rfl, le_rfl, le_rfl, le_rfl⟩

theorem State.Grows.trans {s s' s'' : State} (h : s.Grows s') (h' : s'.Grows s'') :
    s.Grows s'' :=
  ⟨h.log.trans h'.log, h.store.trans h'.store, h.pagesVisited.trans h'.pagesVisited,
    h.scriptsFound.trans h'.scriptsFound, h.scriptsParsed.trans h'.scriptsParsed,
    h.candidates.trans h'.candidates⟩

end Crawl

namespace Crawler
open Crawl

section
variable [Environment] (c : Crawler) (site : Web.Site) (target : Target)

theorem grows_visitScript (s : State) (url : Text) :
    s.Grows (c.visitScript site target s url) where
  log := c.fetcher.script_log site url s.log
  store := s.store.grows_mine target _
  pagesVisited := le_rfl
  scriptsFound := le_rfl
  scriptsParsed := Nat.le_add_right _ _
  candidates := Nat.le_add_right _ _

theorem grows_visitScripts (s : State) (urls : List Text) :
    s.Grows (c.visitScripts site target s urls) := by
  induction urls generalizing s with
  | nil => exact .refl s
  | cons url urls ih => exact (c.grows_visitScript site target s url).trans (ih _)

theorem grows_arrive (level : Nat) (url : Text) (s : State) :
    s.Grows (c.arrive site target level url s) where
  log := c.fetcher.page_log site url s.log
  store := .refl _ s.store
  pagesVisited := Nat.le_add_right _ _
  scriptsFound := Nat.le_add_right _ _
  scriptsParsed := le_rfl
  candidates := le_rfl

theorem grows_visitPage (level : Nat) (isLast : Bool) (url : Text) (s : State) :
    s.Grows (c.visitPage site target level isLast url s).1 := by
  rw [visitPage_eq]
  exact (c.grows_arrive site target level url s).trans (c.grows_visitScripts site target _ _)

theorem grows_visitLevel (level : Nat) (isLast : Bool) (urls : List Text) (s : State) :
    s.Grows (c.visitLevel site target level isLast urls s).1 := by
  induction urls generalizing s with
  | nil => exact .refl s
  | cons url urls ih =>
    rw [visitLevel]
    split
    · exact ih s
    · exact (c.grows_visitPage site target level isLast url s).trans (ih _)

theorem grows_visitLevels (remaining level : Nat) (urls : List Text) (s : State) :
    s.Grows (c.visitLevels site target remaining level urls s) := by
  induction remaining generalizing level urls s with
  | zero =>
    rw [visitLevels_zero]
    exact c.grows_visitLevel site target level true urls s
  | succ remaining ih =>
    rw [visitLevels_succ]
    exact (c.grows_visitLevel site target level false urls s).trans (ih _ _ _)

theorem visitLevels_grows {d d' : Nat} (h : d ≤ d') (level : Nat) (urls : List Text) (s : State) :
    (c.visitLevels site target d level urls s).Grows
      (c.visitLevels site target d' level urls s) := by
  induction d generalizing d' level urls s with
  | zero =>
    cases d' with
    | zero => exact .refl _
    | succ d' =>
      -- The level is the last one here only; whether it is makes no difference to the state.
      rw [visitLevels_zero, visitLevel_fst_eq, visitLevels_succ]
      exact c.grows_visitLevels site target d' _ _ _
  | succ d ih =>
    obtain ⟨e, rfl⟩ : ∃ e, d' = e + 1 := ⟨d' - 1, by omega⟩
    rw [visitLevels_succ, visitLevels_succ]
    exact ih (by omega) _ _ _

theorem grows_crawlFrom (start : Url) (log : Web.Log) (store : Store) :
    (State.start log store).Grows (c.crawlFrom site start log store) :=
  c.grows_visitLevels site _ _ _ _ _

theorem crawlFrom_grows {d d' : Nat} (h : d ≤ d') (start : Url) (log : Web.Log) (store : Store) :
    (crawlFrom { c with maxDepth := d } site start log store).Grows
      (crawlFrom { c with maxDepth := d' } site start log store) := by
  simp only [crawlFrom, visitLevels_withDepth]
  exact c.visitLevels_grows site _ h _ _ _

/-- Of two crawls from one URL into one store the deeper one asks for what the shallower one
asks for, gets the same answers and stores the same entries, in the same order, before anything
else, and counts at least as much. Where the URL cannot be read, both end alike. -/
theorem crawl_prefix_of_depth_le (c : Crawler) (site : Web.Site) (url : Text) (log : Web.Log)
    (store : Store) {d d' : Nat} (h : d ≤ d') :
    let shallow := crawl { c with maxDepth := d } site url log store
    let deep := crawl { c with maxDepth := d' } site url log store
    (∀ e, shallow = .error e → deep = .error e) ∧
    ∀ s, shallow = .ok s → ∃ s', deep = .ok s' ∧
      s.log.reverse <+: s'.log.reverse ∧
      s.log.requests <+: s'.log.requests ∧
      s.store.entries <+: s'.store.entries ∧
      s.summary.pagesVisited ≤ s'.summary.pagesVisited ∧
      s.summary.scriptsFound ≤ s'.summary.scriptsFound ∧
      s.summary.scriptsParsed ≤ s'.summary.scriptsParsed ∧
      s.summary.candidates ≤ s'.summary.candidates := by
  intro shallow deep
  cases hurl : Url.parse url with
  | error e =>
    have hfail (c : Crawler) : c.crawl site url log store = .error (.invalidUrl url e) := by
      rw [crawl, hurl]
    simp [shallow, deep, hfail]
  | ok start =>
    have hcrawl (c : Crawler) :
        c.crawl site url log store = .ok (c.crawlFrom site start log store) := by
      rw [crawl, hurl]
    have hgrows := c.crawlFrom_grows site h start log store
    refine ⟨fun e he => ?_, fun s hs => ⟨_, hcrawl _, ?_⟩⟩
    · rw [show shallow = _ from hcrawl _] at he
      cases he
    · obtain rfl : _ = s := Except.ok.inj ((hcrawl _).symm.trans hs)
      exact ⟨List.reverse_prefix.2 hgrows.log, Web.Log.requests_prefix hgrows.log,
        hgrows.store.prefix_entries, hgrows.pagesVisited, hgrows.scriptsFound,
        hgrows.scriptsParsed, hgrows.candidates⟩

end

def twoPages : Web.Request → Web.Delivery := fun r =>
  let body :=
    if r.url = "http://a.co/".toList then "<a href=b><script src=a.js></script>"
    else if r.url = "http://a.co/b".toList then "<script src=b.js></script>"
    else if r.url = "http://a.co/a.js".toList then "'/from/a'"
    else "'/from/b'"
  .answered (.plain body.toList)

attribute [local instance] Environment.plain

def twoPagesCrawl (depth : Nat) : List Text × List Text :=
  let s := crawlFrom { crawlerToFive with maxDepth := depth } (.ofFunction twoPages) pageA []
    Store.empty
  (s.log.requests.map (·.url), s.store.entries.map (·.value))

theorem crawl_prefix_of_depth_le_twoPages :
    (0 : Nat) ≤ 3 ∧ ∃ s s',
      crawl { crawlerToFive with maxDepth := 0 } (.ofFunction twoPages) "http://a.co/".toList []
        Store.empty = .ok s ∧
      crawl { crawlerToFive with maxDepth := 3 } (.ofFunction twoPages) "http://a.co/".toList []
        Store.empty = .ok s' ∧
      (s.log.requests.map (·.url), s.store.entries.map (·.value)) =
        (["http://a.co/".toList, "http://a.co/a.js".toList], ["/from/a".toList]) ∧
      (s'.log.requests.map (·.url), s'.store.entries.map (·.value)) =
        (["http://a.co/".toList, "http://a.co/a.js".toList, "http://a.co/b".toList,
          "http://a.co/b.js".toList], ["/from/a".toList, "/from/b".toList]) ∧
      s.log.requests <+: s'.log.requests ∧ s.store.entries <+: s'.store.entries := by
  have hurl : Url.parse "http://a.co/".toList = .ok pageA := by decide +kernel
  have hcrawl (c : Crawler) : c.crawl (.ofFunction twoPages) "http://a.co/".toList []
      Store.empty = .ok (c.crawlFrom (.ofFunction twoPages) pageA [] Store.empty) := by
    rw [crawl, hurl]
  obtain ⟨-, hdeep⟩ := crawl_prefix_of_depth_le crawlerToFive (.ofFunction twoPages)
    "http://a.co/".toList [] Store.empty (by decide : (0 : Nat) ≤ 3)
  obtain ⟨s', hs', -, hrequests, hentries, -⟩ := hdeep _ (hcrawl _)
  obtain rfl : _ = s' := Except.ok.inj ((hcrawl _).symm.trans hs')
  have hshallow : twoPagesCrawl 0 = (["http://a.co/".toList, "http://a.co/a.js".toList],
      ["/from/a".toList]) := by decide +kernel
  have hthree : twoPagesCrawl 3 = (["http://a.co/".toList, "http://a.co/a.js".toList,
      "http://a.co/b".toList, "http://a.co/b.js".toList],
      ["/from/a".toList, "/from/b".toList]) := by decide +kernel
  exact ⟨by decide, _, _, hcrawl _, hcrawl _, hshallow, hthree, hrequests, hentries⟩

end Crawler

end EndpointScout
