import EndpointScout.Proofs.Crawl.Requests
import EndpointScout.Proofs.Url.Directory

/-! Pages behind redirections. The URL that gives the page in the end is not kept: references are
resolved against the URL that the page was asked for under. They lead where they would lead from
the last URL as long as both have the same scheme, authority and directory. -/
namespace EndpointScout

namespace Web

/-- The URL that a chain of redirections ends at, with its answer. -/
def arrival? (site : Site) : Nat → Mode → Url → Log → Option (Url × Response)
  | hops, mode, u, log =>
    if !isHttp u || u.host.isNone then none
    else
      let request : Request := ⟨mode, wireText u⟩
      match site log request with
      | .answered r =>
        match redirection? u r with
        | none => some (u, r)
        | some next =>
          match hops with
          | 0 => none
          | hops + 1 => arrival? site hops mode next (⟨request, .answered r⟩ :: log)
      | _ => none

variable {site : Site} {u f : Url} {r : Response}

theorem follow_fst (hops : Nat) (mode : Mode) (u : Url) (log : Log) :
    (follow site hops mode u log).1 = (arrival? site hops mode u log).map Prod.snd := by
  induction hops generalizing u log with
  | zero =>
    rw [follow.eq_def, arrival?.eq_def]
    grind
  | succ hops ih =>
    rw [follow.eq_def, arrival?.eq_def]
    grind

theorem isWeb_of_arrival {hops : Nat} {mode : Mode} {log : Log}
    (h : arrival? site hops mode u log = some (f, r)) :
    (isHttp u ∧ u.host.isSome) ∧ isHttp f ∧ f.host.isSome := by
  induction hops using Nat.strong_induction_on generalizing u log with
  | h hops ih =>
    rw [arrival?.eq_def] at h
    simp only at h
    by_cases hno : (!isHttp u || u.host.isNone) = true
    · rw [if_pos hno] at h
      cases h
    · have hu : isHttp u = true ∧ u.host.isSome = true := by
        simpa [Option.isSome_iff_ne_none] using hno
      rw [if_neg hno] at h
      split at h
      · split at h
        · cases h
          exact ⟨hu, hu⟩
        · split at h
          · cases h
          · rename_i rest
            exact ⟨hu, (ih rest (Nat.lt_succ_self rest) h).2⟩
      · cases h

def Fetcher.arrival? (c : Fetcher) (site : Site) (t : Text) (log : Log) :
    Option (Url × Response) :=
  (Url.parse t).toOption.bind fun u =>
    Web.arrival? site c.pages.maxRedirects ⟨.get, c.pageTimeout⟩ u log

theorem Fetcher.exists_of_arrival {c : Fetcher} {t : Text} {log : Log}
    (h : c.arrival? site t log = some (f, r)) :
    ∃ u, Url.parse t = .ok u ∧
      Web.arrival? site c.pages.maxRedirects ⟨.get, c.pageTimeout⟩ u log = some (f, r) := by
  obtain ⟨u, hu, harrival⟩ := Option.bind_eq_some_iff.1 h
  exact ⟨u, Url.toOption_eq_some_iff.1 hu, harrival⟩

theorem Fetcher.page_fst [Decoders] {c : Fetcher} {t : Text} {log : Log}
    (h : c.arrival? site t log = some (f, r)) (hr : r.isSuccess) :
    (c.page site t log).1 = r.text := by
  obtain ⟨u, hread, harrival⟩ := Fetcher.exists_of_arrival h
  have hfollow : (follow site c.pages.maxRedirects ⟨.get, c.pageTimeout⟩ u log).1 = _ :=
    follow_fst _ _ u log
  rw [harrival] at hfollow
  rw [page, Client.get, hread]
  simp only [Client.send]
  split
  · rename_i answer log' hpair
    rw [hpair] at hfollow
    obtain rfl : answer = r := Option.some.inj hfollow
    exact if_pos hr
  · rename_i log' hpair
    rw [hpair] at hfollow
    cases hfollow

end Web

namespace Crawl

/-- A page as it is asked for, after the exchanges before. -/
structure Visit where
  url : Text
  log : Web.Log

end Crawl

namespace Crawler
open Crawl

section
variable [Environment]

def scriptsFrom (target : Target) (base : Url) (html : Text) : List Text :=
  (((Html.scriptSources html).filterMap (Html.scriptLink? base)).filter
    fun l => !scriptNoise.any fun n => Text.occursIn n l).filter target.matchesText

def linksFrom (target : Target) (base : Url) (html : Text) : List Text :=
  Html.pageLinksOf base target (Html.anchorTargets html)

theorem scriptsOf_of_parse {target : Target} {base : Url} {html t : Text}
    (h : Url.parse t = .ok base) : scriptsOf target html t = scriptsFrom target base html := by
  rw [scriptsOf, Html.scriptLinks, h]
  rfl

theorem pageLinks_of_parse {target : Target} {base : Url} {html t : Text}
    (h : Url.parse t = .ok base) :
    Html.pageLinks html t target = linksFrom target base html := by
  rw [Html.pageLinks, h]
  rfl

variable (c : Crawler) (site : Web.Site) (target : Target)

def visitText (v : Visit) : Text := (c.fetcher.page site v.url v.log).1

def visitFetches (v : Visit) : List Fetch :=
  .page v.url :: (scriptsOf target (c.visitText site v) v.url).map .script

def logAfterVisit (v : Visit) : Web.Log :=
  (scriptsOf target (c.visitText site v) v.url).foldl
    (fun log t => (c.fetcher.script site t log).2) (c.fetcher.page site v.url v.log).2

def logAfter (log : Web.Log) (visits : List Visit) : Web.Log :=
  (visits.getLast?.map (c.logAfterVisit site target)).getD log

def IsReached (start : Text) (visits : List Visit) (t : Text) : Prop :=
  t = start ∨ ∃ v ∈ visits, t ∈ Html.pageLinks (c.visitText site v) v.url target

/-- Visits follow one another, are led on to by those before them, and account for everything
that was asked for. -/
structure IsTour (start : Text) (log : Web.Log) (visits : List Visit) (s : State) : Prop where
  fetches : s.fetches.reverse = visits.flatMap (c.visitFetches site target)
  log_eq : s.log = c.logAfter site target log visits
  next : ∀ before v after, visits = before ++ v :: after →
    v.log = c.logAfter site target log before ∧ c.IsReached site target start before v.url

variable {c site target} {start : Text} {log : Web.Log} {visits : List Visit} {s : State}

theorem visitScripts_log (s : State) (urls : List Text) :
    (c.visitScripts site target s urls).log =
      urls.foldl (fun log t => (c.fetcher.script site t log).2) s.log := by
  induction urls generalizing s with
  | nil => rfl
  | cons url urls ih => exact ih _

theorem IsReached.append {t : Text} (h : c.IsReached site target start visits t)
    (more : List Visit) : c.IsReached site target start (visits ++ more) t := by
  obtain rfl | ⟨v, hv, ht⟩ := h
  · exact .inl rfl
  · exact .inr ⟨v, List.mem_append_left _ hv, ht⟩

theorem IsTour.visitPage (h : c.IsTour site target start log visits s) (level : Nat)
    (isLast : Bool) {t : Text} (ht : c.IsReached site target start visits t) :
    c.IsTour site target start log (visits ++ [⟨t, s.log⟩])
        (c.visitPage site target level isLast t s).1 ∧
      ∀ l ∈ (c.visitPage site target level isLast t s).2,
        c.IsReached site target start (visits ++ [⟨t, s.log⟩]) l := by
  rw [visitPage_eq]
  refine ⟨⟨?_, ?_, fun before v after hsplit => ?_⟩, fun l hl => ?_⟩
  · simp [visitScripts_fetches, arrive, h.fetches, visitFetches, visitText]
  · simp [visitScripts_log, arrive, logAfter, logAfterVisit, visitText]
  · obtain rfl | ⟨after, last, rfl⟩ := List.eq_nil_or_concat' after
    · obtain ⟨rfl, hv⟩ := List.append_inj' hsplit rfl
      obtain rfl := List.singleton_injective hv
      exact ⟨h.log_eq, ht⟩
    · have hcut : visits ++ [⟨t, s.log⟩] = (before ++ v :: after) ++ [last] := by simp [hsplit]
      exact h.next before v after (List.append_inj' hcut rfl).1
  · have hl := (List.mem_filter.1 hl).1
    split at hl
    · cases hl
    · exact .inr ⟨_, List.mem_append_right _ (List.mem_singleton_self _), hl⟩

theorem IsTour.visitLevel (h : c.IsTour site target start log visits s) (level : Nat)
    (isLast : Bool) {urls : List Text}
    (hurls : ∀ t ∈ urls, c.IsReached site target start visits t) :
    ∃ more, c.IsTour site target start log (visits ++ more)
        (c.visitLevel site target level isLast urls s).1 ∧
      ∀ l ∈ (c.visitLevel site target level isLast urls s).2,
        c.IsReached site target start (visits ++ more) l := by
  induction urls generalizing visits s with
  | nil => exact ⟨[], by simpa [Crawler.visitLevel] using h, by simp [Crawler.visitLevel]⟩
  | cons t urls ih =>
    obtain ⟨ht, hurls⟩ := List.forall_mem_cons.1 hurls
    rw [Crawler.visitLevel]
    split
    · exact ih h hurls
    · obtain ⟨hpage, hlinks⟩ := h.visitPage level isLast ht
      obtain ⟨more, hlevel, hmore⟩ := ih hpage fun l hl => (hurls l hl).append _
      rw [List.append_assoc] at hlevel hmore
      refine ⟨_, hlevel, List.forall_mem_append.2 ⟨fun l hl => ?_, hmore⟩⟩
      have hreached := (hlinks l hl).append more
      rwa [List.append_assoc] at hreached

theorem IsTour.visitLevels (h : c.IsTour site target start log visits s) (remaining level : Nat)
    {urls : List Text} (hurls : ∀ t ∈ urls, c.IsReached site target start visits t) :
    ∃ more, c.IsTour site target start log (visits ++ more)
      (c.visitLevels site target remaining level urls s) := by
  induction remaining generalizing level urls visits s with
  | zero =>
    rw [visitLevels_zero]
    obtain ⟨more, hlevel, -⟩ := h.visitLevel level true hurls
    exact ⟨more, hlevel⟩
  | succ remaining ih =>
    rw [visitLevels_succ]
    obtain ⟨more, hlevel, hlinks⟩ := h.visitLevel level false hurls
    obtain ⟨rest, hrest⟩ := ih hlevel (level + 1) hlinks
    exact ⟨more ++ rest, List.append_assoc visits more rest ▸ hrest⟩

theorem exists_isTour (c : Crawler) (site : Web.Site) (start : Url) (log : Web.Log)
    (store : Store) : ∃ visits, c.IsTour site (Target.ofUrl start) start.text log visits
      (c.crawlFrom site start log store) := by
  have hempty : c.IsTour site (Target.ofUrl start) start.text log []
      (State.start log store) := ⟨rfl, rfl, by simp⟩
  have hfirst : ∀ t ∈ [start.text],
      c.IsReached site (Target.ofUrl start) start.text [] t :=
    fun t ht => .inl (List.mem_singleton.1 ht)
  obtain ⟨visits, htour⟩ := hempty.visitLevels c.maxDepth 0 hfirst
  exact ⟨visits, htour⟩

section Bases
variable {u f : Url} {html : Text}

/-- Scripts are found under the same URLs from a base with the same directory, unless one is
named by a query or a fragment alone. -/
theorem scriptsFrom_eq (h : u.SharesDirectory f) (hu : Web.isHttp u ∧ u.host.isSome)
    (hpaths : ∀ t ∈ Html.scriptSources html, Text.trim t = [] ∨ Url.isBare (Text.trim t) = false) :
    scriptsFrom target f html = scriptsFrom target u html := by
  have hlink : ∀ t ∈ Html.scriptSources html, Html.scriptLink? f t = Html.scriptLink? u t := by
    intro t ht
    obtain hblank | hpath := hpaths t ht
    · simp [Html.scriptLink?, hblank]
    · rw [Html.scriptLink?, Html.scriptLink?, h.join hu.1 hu.2 hpath]
  rw [scriptsFrom, scriptsFrom, List.filterMap_congr hlink]

theorem linksFrom_eq (h : u.SharesDirectory f) (hu : Web.isHttp u ∧ u.host.isSome)
    (hpaths : ∀ t ∈ Html.anchorTargets html, Text.trim t = [] ∨
      (Text.trim t).head? = some '#' ∨ Url.isBare (Text.trim t) = false) :
    linksFrom target f html = linksFrom target u html := by
  have hlink : ∀ t ∈ Html.anchorTargets html, Html.pageLink? f t = Html.pageLink? u t := by
    intro t ht
    obtain hblank | hfragment | hpath := hpaths t ht
    · simp [Html.pageLink?, hblank]
    · obtain ⟨r, hr⟩ : ∃ r, Text.trim t = '#' :: r := by
        cases hcases : Text.trim t <;> simp_all
      simp [Html.pageLink?, hr, Text.startsWith]
    · rw [Html.pageLink?, Html.pageLink?, h.join hu.1 hu.2 hpath]
  rw [linksFrom, linksFrom, Html.pageLinksOf, Html.pageLinksOf, List.filterMap_congr hlink]

end Bases

/-- A crawl is a tour of visits. Whatever chain of redirections a page comes from, its scripts and
links are its references resolved against the URL that it was asked for under. The URL `f` that
gave it in the end resolves all references to paths alike exactly if it has the scheme, the
authority and the directory of that URL, and then it leads to the same scripts and links, unless
a reference is a query or a fragment alone. -/
theorem references_resolved_against_request (c : Crawler) (site : Web.Site) (url : Text)
    (start : Url) (hurl : Url.parse url = .ok start) (log : Web.Log) (store : Store) :
    ∃ (s : State) (visits : List Visit), c.crawl site url log store = .ok s ∧
      c.IsTour site (Target.ofUrl start) start.text log visits s ∧
      ∀ v ∈ visits, ∀ f r, c.fetcher.arrival? site v.url v.log = some (f, r) →
        r.isSuccess → ∃ u, Url.parse v.url = .ok u ∧ c.visitText site v = r.text ∧
          scriptsOf (Target.ofUrl start) r.text v.url = scriptsFrom (Target.ofUrl start) u r.text ∧
          Html.pageLinks r.text v.url (Target.ofUrl start) =
            linksFrom (Target.ofUrl start) u r.text ∧
          ((∀ t, Url.isBare t = false → u.join t = f.join t) ↔ u.SharesDirectory f) ∧
          (u.SharesDirectory f →
            (∀ t ∈ Html.scriptSources r.text,
              Text.trim t = [] ∨ Url.isBare (Text.trim t) = false) →
            scriptsFrom (Target.ofUrl start) f r.text =
              scriptsFrom (Target.ofUrl start) u r.text) ∧
          (u.SharesDirectory f →
            (∀ t ∈ Html.anchorTargets r.text, Text.trim t = [] ∨
              (Text.trim t).head? = some '#' ∨ Url.isBare (Text.trim t) = false) →
            linksFrom (Target.ofUrl start) f r.text =
              linksFrom (Target.ofUrl start) u r.text) := by
  obtain ⟨visits, htour⟩ := c.exists_isTour site start log store
  refine ⟨_, visits, by rw [crawl, hurl], htour, fun v _ f r harrival hr => ?_⟩
  obtain ⟨u, hread, hchain⟩ := Web.Fetcher.exists_of_arrival harrival
  obtain ⟨hu, hf⟩ := Web.isWeb_of_arrival hchain
  exact ⟨u, hread, Web.Fetcher.page_fst harrival hr, scriptsOf_of_parse hread,
    pageLinks_of_parse hread, Url.join_eq_iff hu.1 hu.2 hf.1 hf.2,
    fun h => scriptsFrom_eq h hu, fun h => linksFrom_eq h hu⟩

end

def redirectedCrawler : Crawler := ⟨⟨⟨1⟩, ⟨0⟩, 10000, 8000⟩, {}, 0⟩

def movedSite : Web.Site := .ofFunction fun r =>
  if r.url = "http://a.co/old".toList then
    .answered ⟨302, by decide, [("location".toList, "/new/".toList)], []⟩
  else if r.url = "http://a.co/new/".toList then
    .answered (.plain "<script src=app.js></script>".toList)
  else .dropped

def pageOld : Url := { pageA with path := .segments ["old".toList] }

def pageNew : Url := { pageA with path := .segments ["new".toList, []] }

attribute [local instance] Environment.plain

theorem references_resolved_against_request_moved :
    Url.parse "http://a.co/old".toList = .ok pageOld ∧
    ∃ (s : State) (v : Visit),
      redirectedCrawler.crawl movedSite "http://a.co/old".toList [] Store.empty = .ok s ∧
      (∃ r, redirectedCrawler.fetcher.arrival? movedSite v.url v.log = some (pageNew, r) ∧
        r.isSuccess) ∧
      s.fetches.reverse =
        [.page "http://a.co/old".toList, .script "http://a.co/app.js".toList] ∧
      scriptsFrom (Target.ofUrl pageOld) pageNew (redirectedCrawler.visitText movedSite v) =
        ["http://a.co/new/app.js".toList] ∧
      ¬pageOld.SharesDirectory pageNew := by
  have hold : Url.parse "http://a.co/old".toList = .ok pageOld := by decide +kernel
  have hcrawl : redirectedCrawler.crawl movedSite "http://a.co/old".toList [] Store.empty =
      .ok (redirectedCrawler.crawlFrom movedSite pageOld [] Store.empty) := by
    rw [crawl, hold]
  obtain ⟨s, visits, hs, htour, hresolved⟩ :=
    references_resolved_against_request redirectedCrawler movedSite _ _ hold [] Store.empty
  obtain rfl : _ = s := Except.ok.inj (hcrawl.symm.trans hs)
  have hfetches : (redirectedCrawler.crawlFrom movedSite pageOld [] Store.empty).fetches.reverse =
      [.page "http://a.co/old".toList, .script "http://a.co/app.js".toList] := by decide +kernel
  have hall := htour.fetches.symm.trans hfetches
  obtain ⟨v, rest, rfl⟩ : ∃ v rest, visits = v :: rest := by
    cases visits with
    | nil => cases hall
    | cons v rest => exact ⟨v, rest, rfl⟩
  have hurl : v.url = "http://a.co/old".toList := by
    have hhead := (List.cons.inj hall).1
    exact Fetch.page.inj hhead
  have hlog : v.log = [] := (htour.next [] v rest rfl).1
  have harrival : redirectedCrawler.fetcher.arrival? movedSite
      "http://a.co/old".toList [] =
      some (pageNew, .plain "<script src=app.js></script>".toList) := by decide +kernel
  rw [← hurl, ← hlog] at harrival
  obtain ⟨u, hu, htext, -, -, hbases, -⟩ :=
    hresolved v (List.mem_cons_self ..) pageNew _ harrival (by decide)
  rw [hurl, hold] at hu
  obtain rfl := Except.ok.inj hu
  refine ⟨hold, _, v, hs, ⟨_, harrival, by decide⟩, hfetches, ?_, fun hsame => ?_⟩
  · rw [htext]
    decide +kernel
  · have hscript := hbases.2 hsame "app.js".toList (by decide +kernel)
    revert hscript
    decide +kernel

end Crawler

end EndpointScout
