import EndpointScout.Proofs.Crawl.Depth
import EndpointScout.Proofs.Crawl.Pages
import EndpointScout.Proofs.Crawl.Redirects
import EndpointScout.Proofs.Store.Scans

/-! The books of a crawl. Counters, messages, fetches and entries change at different moments of a
visit: all scripts of a page are counted as found before the first of them is asked for. What the
loops keep is therefore stated with the number of scripts that are counted and not yet asked for. -/
namespace EndpointScout

namespace Store
variable (s : Store) (target : Target)

theorem size_add_le (c : Candidate) : (s.add c).1.size ≤ s.size + 1 := by
  rw [size, entries_add, List.length_append]
  apply Nat.add_le_add_left
  split
  · exact le_rfl
  · exact Nat.zero_le 1

theorem size_addAll_le (cs : List Candidate) : (s.addAll cs).size ≤ s.size + cs.length := by
  induction cs generalizing s with
  | nil => exact le_rfl
  | cons c cs ih =>
    have hrest := ih (s.add c).1
    have hfirst := s.size_add_le c
    rw [addAll_cons, List.length_cons]
    omega

variable [SuffixList]

theorem size_mine_le (t : Script.Tree) :
    (s.mine target t).1.size ≤ s.size + (s.mine target t).2 := by
  rw [mine_snd, mine, acceptAll_eq_addAll]
  exact s.size_addAll_le _

end Store

namespace Crawl

/-- The message in front of a fetch, on a crawl that ends at a depth. -/
inductive Announces (depth : Nat) : Text → Fetch → Prop
  | page (level : Nat) (url : Text) (h : level ≤ depth) :
      Announces depth (Crawler.pageMessage level url) (.page url)
  | script (url : Text) : Announces depth (Crawler.scriptMessage url) (.script url)

/-- The books of a crawl that began with a store, when some scripts are counted but not yet asked
for. -/
structure Balanced (depth : Nat) (store : Store) (pending : Nat) (s : State) : Prop where
  announced : List.Forall₂ (Announces depth) s.messages s.fetches
  counted : s.fetches.length + pending = s.summary.pagesVisited + s.summary.scriptsFound
  parsed : s.summary.scriptsParsed + pending ≤ s.summary.scriptsFound
  stored : s.store.size ≤ store.size + s.summary.candidates

theorem balanced_start (depth : Nat) (log : Web.Log) (store : Store) :
    Balanced depth store 0 (State.start log store) where
  announced := .nil
  counted := rfl
  parsed := le_rfl
  stored := le_rfl

end Crawl

namespace Crawler
open Crawl
variable [Environment] {c : Crawler} {site : Web.Site} {target : Target} {store : Store}
  {s : State}

theorem balanced_arrive (h : Balanced c.maxDepth store 0 s) {level : Nat}
    (hlevel : level ≤ c.maxDepth) (url : Text) :
    Balanced c.maxDepth store (scriptsOf target (c.fetcher.page site url s.log).1 url).length
      (c.arrive site target level url s) := by
  have hcounted := h.counted
  have hparsed := h.parsed
  constructor
  · exact .cons (.page level url hlevel) h.announced
  · simp only [arrive, List.length_cons]
    omega
  · simp only [arrive]
    omega
  · exact h.stored

theorem visitScript_scriptsFound (s : State) (url : Text) :
    (c.visitScript site target s url).summary.scriptsFound = s.summary.scriptsFound := rfl

theorem scriptsParsed_visitScript_le (c : Crawler) (site : Web.Site) (target : Target) (s : State)
    (url : Text) :
    (c.visitScript site target s url).summary.scriptsParsed ≤ s.summary.scriptsParsed + 1 := by
  have hread (isEmpty : Bool) : (if isEmpty then 0 else 1) ≤ 1 := by
    cases isEmpty <;> decide
  exact Nat.add_le_add_left (hread _) _

theorem balanced_visitScript {pending : Nat} (h : Balanced c.maxDepth store (pending + 1) s)
    (url : Text) : Balanced c.maxDepth store pending (c.visitScript site target s url) := by
  have hcounted := h.counted
  have hparsed := h.parsed
  have hstored := h.stored
  constructor
  · exact .cons (.script url) h.announced
  · simp only [visitScript, State.report, List.length_cons]
    omega
  · have hread := c.scriptsParsed_visitScript_le site target s url
    rw [visitScript_scriptsFound]
    omega
  · have hmined := s.store.size_mine_le target
      (Script.read c.config (some (c.fetcher.script site url s.log).1)
        (c.fetcher.script site url s.log).2.length)
    simp only [visitScript, State.report]
    omega

theorem balanced_visitScripts {urls : List Text} (h : Balanced c.maxDepth store urls.length s) :
    Balanced c.maxDepth store 0 (c.visitScripts site target s urls) := by
  induction urls generalizing s with
  | nil => exact h
  | cons url urls ih =>
    rw [visitScripts_cons]
    exact ih (balanced_visitScript h url)

theorem balanced_visitPage (h : Balanced c.maxDepth store 0 s) {level : Nat}
    (hlevel : level ≤ c.maxDepth) (isLast : Bool) (url : Text) :
    Balanced c.maxDepth store 0 (c.visitPage site target level isLast url s).1 := by
  rw [visitPage_eq]
  exact balanced_visitScripts (balanced_arrive h hlevel url)

theorem balanced_visitLevel (h : Balanced c.maxDepth store 0 s) {level : Nat}
    (hlevel : level ≤ c.maxDepth) (isLast : Bool) (urls : List Text) :
    Balanced c.maxDepth store 0 (c.visitLevel site target level isLast urls s).1 := by
  induction urls generalizing s with
  | nil => exact h
  | cons url urls ih =>
    rw [visitLevel]
    split
    · exact ih h
    · exact ih (balanced_visitPage h hlevel isLast url)

theorem balanced_visitLevels (h : Balanced c.maxDepth store 0 s) {remaining level : Nat}
    (hlevel : level + remaining ≤ c.maxDepth) (urls : List Text) :
    Balanced c.maxDepth store 0 (c.visitLevels site target remaining level urls s) := by
  induction remaining generalizing level urls s with
  | zero =>
    rw [visitLevels_zero]
    exact balanced_visitLevel h hlevel true urls
  | succ remaining ih =>
    rw [visitLevels_succ]
    apply ih
    · exact balanced_visitLevel h (by omega) false urls
    · omega

theorem balanced_crawlFrom (c : Crawler) (site : Web.Site) (start : Url) (log : Web.Log)
    (store : Store) : Balanced c.maxDepth store 0 (c.crawlFrom site start log store) :=
  balanced_visitLevels (balanced_start c.maxDepth log store) (Nat.zero_add c.maxDepth).le _

variable {start : Text} {log : Web.Log} {visits : List Visit}

def scriptCount (c : Crawler) (site : Web.Site) (target : Target) (visits : List Visit) : Nat :=
  (visits.map fun v => (scriptsOf target (c.visitText site v) v.url).length).sum

theorem length_visitFetches (visits : List Visit) :
    (visits.flatMap (c.visitFetches site target)).length =
      visits.length + c.scriptCount site target visits := by
  induction visits with
  | nil => rfl
  | cons v visits ih =>
    have hvisit : (c.visitFetches site target v).length =
        (scriptsOf target (c.visitText site v) v.url).length + 1 := by
      rw [visitFetches, List.length_cons, List.length_map]
    rw [List.flatMap_cons, List.length_append, ih, hvisit, List.length_cons, scriptCount,
      scriptCount, List.map_cons, List.sum_cons]
    omega

theorem IsTour.length_fetches (h : c.IsTour site target start log visits s) :
    s.fetches.length = visits.length + c.scriptCount site target visits := by
  rw [← List.length_reverse, h.fetches, length_visitFetches]

theorem IsTour.pages_eq (h : c.IsTour site target start log visits s) :
    s.pages = visits.map Visit.url := by
  have hvisit (v : Visit) : (c.visitFetches site target v).filterMap Fetch.page? = [v.url] := by
    simp [visitFetches, Fetch.page?, List.filterMap_eq_nil_iff]
  rw [State.pages, h.fetches, List.filterMap_flatMap]
  simp only [hvisit]
  rw [List.map_eq_flatMap]

/-- A crawl asks for pages and scripts as often as it counts them, each page in front of its
scripts and these in front of the next page, and it says what it asks for right before it does, in
one message each. No more scripts are read than are found, and the store only grows at the end,
by unprobed entries from scripts that are at most as many as the finds that looked like
endpoints. -/
theorem crawl_accounts (c : Crawler) (site : Web.Site) (url : Text) (log : Web.Log)
    (store : Store) :
    (∃ e, Url.parse url = .error e ∧ c.crawl site url log store = .error (.invalidUrl url e)) ∨
    ∃ (start : Url) (s : State) (visits : List Visit),
      Url.parse url = .ok start ∧ c.crawl site url log store = .ok s ∧
      c.IsTour site (Target.ofUrl start) start.text log visits s ∧
      List.Forall₂ (Announces c.maxDepth) s.messages.reverse s.fetches.reverse ∧
      s.fetches.length = s.summary.pagesVisited + s.summary.scriptsFound ∧
      s.summary.pagesVisited = visits.length ∧
      s.summary.scriptsFound = c.scriptCount site (Target.ofUrl start) visits ∧
      s.summary.scriptsParsed ≤ s.summary.scriptsFound ∧
      ∃ added, s.store.entries = store.entries ++ added ∧
        added.length ≤ s.summary.candidates ∧ ∀ e ∈ added, e.IsNew Source.inScripts := by
  rw [crawl]
  cases hurl : Url.parse url with
  | error e => exact .inl ⟨e, rfl, rfl⟩
  | ok start =>
    obtain ⟨visits, htour⟩ := c.exists_isTour site start log store
    have hbalanced := c.balanced_crawlFrom site start log store
    have htallied := c.tallied_crawlFrom site start log store
    obtain ⟨added, hentries, hnew⟩ := (c.grows_crawlFrom site start log store).store
    have hcounted := hbalanced.counted
    have hpages : (c.crawlFrom site start log store).summary.pagesVisited = visits.length := by
      rw [htallied.counted, ← List.length_reverse, ← htallied.pages, htour.pages_eq,
        List.length_map]
    have hadded : added.length ≤ (c.crawlFrom site start log store).summary.candidates := by
      have hstored := hbalanced.stored
      rw [Store.size, hentries, List.length_append] at hstored
      exact Nat.le_of_add_le_add_left hstored
    refine .inr ⟨start, _, visits, rfl, rfl, htour, ?_, hcounted, hpages, ?_, hbalanced.parsed,
      added, hentries, hadded, hnew⟩
    · exact List.rel_reverse hbalanced.announced
    · have hfetches := htour.length_fetches
      omega

end Crawler

end EndpointScout
