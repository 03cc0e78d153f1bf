import EndpointScout.Proofs.Crawl.Levels
import EndpointScout.Proofs.Text.Split
import EndpointScout.Proofs.Url.Origin
import EndpointScout.Proofs.Web.Redirections

/-! What a crawl asks for. Every page in a frontier is the first page or a page of its site, and
every exchange belongs to the fetch of such a page or of a script of the site. -/
namespace EndpointScout

namespace Web

/-- The exchanges of one fetch, last first: nothing is sent but to a host over the web, the
first request goes to the URL itself, and another one follows only where the answer before it
redirects to. -/
inductive Trip (timeout : Nat) : Url → Log → Prop
  | silent {u : Url} (h : isHttp u = false ∨ u.host = none) : Trip timeout u []
  | sent {u : Url} (hhttp : isHttp u) (hhost : u.host.isSome) (d : Delivery) :
      Trip timeout u [⟨⟨⟨.get, timeout⟩, wireText u⟩, d⟩]
  | redirected {u next : Url} {r : Response} {l : Log} (hhttp : isHttp u)
      (hhost : u.host.isSome) (hnext : redirection? u r = some next) (h : Trip timeout next l) :
      Trip timeout u (l ++ [⟨⟨⟨.get, timeout⟩, wireText u⟩, .answered r⟩])

variable (site : Site) {u : Url} {t : Text}

theorem follow_trip (hops timeout : Nat) (u : Url) (log : Log) :
    ∃ l, (follow site hops ⟨.get, timeout⟩ u log).2 = l ++ log ∧ Trip timeout u l := by
  induction hops using Nat.strong_induction_on generalizing u log with
  | h hops ih =>
    obtain ⟨hu, hlog⟩ | ⟨⟨hhttp, hhost⟩, hlog | ⟨rest, r, next, rfl, -, hnext, hlog⟩⟩ :=
      follow_log_cases site ⟨.get, timeout⟩ hops u log
    · exact ⟨[], hlog, .silent (not_isAskable_iff.1 hu)⟩
    · exact ⟨[_], hlog, .sent hhttp hhost _⟩
    · obtain ⟨l, hl, htrip⟩ := ih rest (Nat.lt_succ_self rest) next
        (⟨⟨⟨.get, timeout⟩, wireText u⟩, .answered r⟩ :: log)
      refine ⟨_, ?_, .redirected hhttp hhost hnext htrip⟩
      rw [hlog, hl, List.append_assoc, List.singleton_append]

theorem Client.get_trip (c : Client) (timeout : Nat) (h : Url.parse t = .ok u) (log : Log) :
    ∃ l, (c.get site timeout t log).2 = l ++ log ∧ Trip timeout u l := by
  rw [get, h]
  exact follow_trip site c.maxRedirects timeout u log

theorem Client.get_silent (c : Client) (timeout : Nat)
    (h : ∀ u, Url.parse t = .ok u → isHttp u = false) (log : Log) :
    c.get site timeout t log = (none, log) := by
  rw [get]
  split
  · rename_i u hu
    exact follow_of_not_isAskable (not_isAskable_iff.2 (.inl (h u hu)))
  · rfl

theorem Fetcher.page_log_eq [Decoders] (f : Fetcher) (t : Text) (log : Log) :
    (f.page site t log).2 = (f.pages.get site f.pageTimeout t log).2 := by
  unfold page
  grind

theorem Fetcher.script_log_eq (f : Fetcher) (t : Text) (log : Log) :
    (f.script site t log).2 = (f.scripts.get site f.scriptTimeout t log).2 := by
  unfold script
  grind

def Fetcher.timeoutOf (f : Fetcher) : Crawl.Fetch → Nat
  | .page _ => f.pageTimeout
  | .script _ => f.scriptTimeout

end Web

namespace Url
variable {start u : Url}

theorem scheme_of_parse_text (hs : IsScheme start.scheme) (h : parse start.text = .ok u) :
    u.scheme = start.scheme := by
  obtain ⟨front, hfront⟩ : ∃ rest, start.text = start.scheme ++ ':' :: rest := by
    simp [text, beforePath]
  obtain ⟨rest, hcut⟩ := exists_cutScheme?_of_parse h
  obtain ⟨behind, htidy⟩ := tidy_scheme_append hs front
  rw [hfront, htidy, cutScheme?_append hs] at hcut
  exact (congrArg Prod.fst (Option.some.inj hcut)).symm

theorem IsRead.parse_text_cases (h : IsRead start) :
    ((start.scheme = "http".toList ∨ start.scheme = "https".toList) ∧
        parse start.text = .ok start) ∨
      (Web.isHttp start = false ∧ ∀ u, parse start.text = .ok u → Web.isHttp u = false) := by
  by_cases hhttp : Web.isHttp start = true
  · obtain ⟨hspecial, hfile⟩ := special_of_web (isHttp_iff.1 hhttp)
    exact .inl ⟨isHttp_iff.1 hhttp, h.parse_text_of_special hspecial hfile⟩
  · rw [Bool.not_eq_true] at hhttp
    refine .inr ⟨hhttp, fun u hu => ?_⟩
    have hscheme := scheme_of_parse_text h.isScheme hu
    rw [← hhttp, Web.isHttp, Web.isHttp, hscheme]

end Url

namespace Crawl
variable [SuffixList]

/-- The fetches that a crawl from `start` is entitled to, with the URLs they go to. -/
inductive OnSite (start : Url) : Fetch → Url → Prop
  | start : OnSite start (.page start.text) start
  | page {u : Url} (hread : Url.parse u.text = .ok u)
      (hscheme : u.scheme = "http".toList ∨ u.scheme = "https".toList) (hbare : u.fragment = none)
      (hdomain : Domain.ofUrl? u = Domain.ofUrl? start) : OnSite start (.page u.text) u
  | script {t : Text} {u : Url} (hread : Url.parse t = .ok u)
      (hdomain : Domain.ofUrl? u = Domain.ofUrl? start)
      (hnoise : ∀ n ∈ ["?scope=", "&delta=", "min.js"], ¬n.toList <:+: t) :
      OnSite start (.script t) u

/-- The fetches account for all exchanges since `log`: they are the trips of one fetch after
another, each to a URL that the crawl is entitled to. -/
def Accounted (f : Web.Fetcher) (start : Url) (log : Web.Log) (s : State) : Prop :=
  ∃ trips : List (Fetch × Web.Log), trips.map Prod.fst = s.fetches ∧
    s.log = trips.flatMap Prod.snd ++ log ∧
    ∀ p ∈ trips, ∃ u, OnSite start p.1 u ∧ Web.Trip (f.timeoutOf p.1) u p.2

variable {f : Web.Fetcher} {start : Url} {log : Web.Log} {s s' : State}

theorem Accounted.fetch (h : Accounted f start log s) {what : Fetch} {u : Url} {l : Web.Log}
    (hfetches : s'.fetches = what :: s.fetches) (hlog : s'.log = l ++ s.log)
    (hf : OnSite start what u) (hl : Web.Trip (f.timeoutOf what) u l) :
    Accounted f start log s' := by
  obtain ⟨trips, hmap, hsum, hall⟩ := h
  refine ⟨(what, l) :: trips, by simp [hmap, hfetches], by simp [hlog, hsum], ?_⟩
  exact List.forall_mem_cons.2 ⟨⟨u, hf, hl⟩, hall⟩

end Crawl

namespace Crawler
open Crawl
variable [Environment] (c : Crawler) (site : Web.Site) {start : Url} {log : Web.Log} {s : State}

theorem onSite_of_mem_scriptsOf {html page t : Text}
    (h : t ∈ scriptsOf (Target.ofUrl start) html page) : ∃ u, OnSite start (.script t) u := by
  obtain ⟨hlink, hmatches⟩ := List.mem_filter.1 h
  have hnoise := (List.mem_filter.1 hlink).2
  rw [Target.matchesText] at hmatches
  split at hmatches
  · rename_i u hread
    refine ⟨u, .script hread (beq_iff_eq.1 hmatches) fun n hn hin => ?_⟩
    have hany : (scriptNoise.any fun n => Text.occursIn n t) = true :=
      List.any_eq_true.2 ⟨_, List.mem_map_of_mem hn, Text.occursIn_iff.2 hin⟩
    simp [hany] at hnoise
  · cases hmatches

theorem onSite_of_mem_pageLinks {html page t : Text}
    (h : t ∈ Html.pageLinks html page (Target.ofUrl start)) : ∃ u, OnSite start (.page t) u := by
  obtain ⟨u, rfl, hread, hscheme, hbare, hmatches⟩ := Html.exists_of_mem_pageLinks h
  exact ⟨u, .page hread hscheme hbare (beq_iff_eq.1 hmatches)⟩

theorem page_trip (hstart : start.IsRead) {t : Text} {u : Url} (h : OnSite start (.page t) u)
    (log : Web.Log) : ∃ l, (c.fetcher.page site t log).2 = l ++ log ∧
      Web.Trip c.fetcher.pageTimeout u l := by
  rw [Web.Fetcher.page_log_eq]
  cases h with
  | start =>
    obtain ⟨-, hread⟩ | ⟨hhttp, hsilent⟩ := hstart.parse_text_cases
    · exact Web.Client.get_trip site _ _ hread log
    · exact ⟨[], by rw [Web.Client.get_silent site _ _ hsilent]; rfl, .silent (.inl hhttp)⟩
  | page hread hscheme hbare hdomain => exact Web.Client.get_trip site _ _ hread log

theorem script_trip {t : Text} {u : Url} (h : OnSite start (.script t) u) (log : Web.Log) :
    ∃ l, (c.fetcher.script site t log).2 = l ++ log ∧
      Web.Trip c.fetcher.scriptTimeout u l := by
  rw [Web.Fetcher.script_log_eq]
  cases h with
  | script hread hdomain hnoise => exact Web.Client.get_trip site _ _ hread log

theorem accounted_visitScripts (target : Target) {urls : List Text}
    (h : Accounted c.fetcher start log s)
    (hurls : ∀ t ∈ urls, ∃ u, OnSite start (.script t) u) :
    Accounted c.fetcher start log (c.visitScripts site target s urls) := by
  induction urls generalizing s with
  | nil => exact h
  | cons t urls ih =>
    obtain ⟨⟨u, ht⟩, hurls⟩ := List.forall_mem_cons.1 hurls
    obtain ⟨l, hl, htrip⟩ := c.script_trip site ht s.log
    exact ih (h.fetch rfl hl ht htrip) hurls

theorem accounted_visitPage (hstart : start.IsRead) (h : Accounted c.fetcher start log s)
    (level : Nat) (isLast : Bool) {t : Text} (ht : ∃ u, OnSite start (.page t) u) :
    Accounted c.fetcher start log (c.visitPage site (Target.ofUrl start) level isLast t s).1 ∧
      ∀ l ∈ (c.visitPage site (Target.ofUrl start) level isLast t s).2,
        ∃ u, OnSite start (.page l) u := by
  obtain ⟨u, ht⟩ := ht
  obtain ⟨l, hl, htrip⟩ := c.page_trip site hstart ht s.log
  rw [visitPage_eq]
  constructor
  · exact c.accounted_visitScripts site _ (h.fetch rfl hl ht htrip)
      fun _ => onSite_of_mem_scriptsOf
  · intro v hv
    have hv := (List.mem_filter.1 hv).1
    split at hv
    · cases hv
    · exact onSite_of_mem_pageLinks hv

theorem accounted_visitLevel (hstart : start.IsRead) (h : Accounted c.fetcher start log s)
    (level : Nat) (isLast : Bool) {urls : List Text}
    (hurls : ∀ t ∈ urls, ∃ u, OnSite start (.page t) u) :
    Accounted c.fetcher start log (c.visitLevel site (Target.ofUrl start) level isLast urls s).1 ∧
      ∀ l ∈ (c.visitLevel site (Target.ofUrl start) level isLast urls s).2,
        ∃ u, OnSite start (.page l) u := by
  induction urls generalizing s with
  | nil => exact ⟨h, by simp [visitLevel]⟩
  | cons t urls ih =>
    obtain ⟨ht, hurls⟩ := List.forall_mem_cons.1 hurls
    rw [visitLevel]
    split
    · exact ih h hurls
    · obtain ⟨hpage, hlinks⟩ := c.accounted_visitPage site hstart h level isLast ht
      obtain ⟨hlevel, hmore⟩ := ih hpage hurls
      exact ⟨hlevel, List.forall_mem_append.2 ⟨hlinks, hmore⟩⟩

theorem accounted_visitLevels (hstart : start.IsRead) (h : Accounted c.fetcher start log s)
    (remaining level : Nat) {urls : List Text}
    (hurls : ∀ t ∈ urls, ∃ u, OnSite start (.page t) u) :
    Accounted c.fetcher start log
      (c.visitLevels site (Target.ofUrl start) remaining level urls s) := by
  induction remaining generalizing level urls s with
  | zero =>
    rw [visitLevels_zero]
    exact (c.accounted_visitLevel site hstart h level true hurls).1
  | succ remaining ih =>
    rw [visitLevels_succ]
    obtain ⟨hlevel, hlinks⟩ := c.accounted_visitLevel site hstart h level false hurls
    exact ih hlevel (level + 1) hlinks

theorem accounted_crawlFrom (hstart : start.IsRead) (log : Web.Log) (store : Store) :
    Accounted c.fetcher start log (c.crawlFrom site start log store) := by
  refine c.accounted_visitLevels site hstart ⟨[], rfl, rfl, by simp⟩ _ _ fun t ht => ?_
  rw [List.mem_singleton.1 ht]
  exact ⟨start, .start⟩

/-- A crawl sends nothing but what belongs to one of its fetches, and each of these goes to the
first page, or to a page over the web without a fragment and with the registrable domain of the
first page, or to a script with this domain and without a mark of noise; a first page without a
registrable domain has pages and scripts without one for its own. A text that is no URL is
refused before anything is sent. -/
theorem crawl_stays_on_site (c : Crawler) (site : Web.Site) (url : Text) (log : Web.Log)
    (store : Store) :
    (∃ e, Url.parse url = .error e ∧ c.crawl site url log store = .error (.invalidUrl url e)) ∨
    ∃ (start : Url) (s : State) (trips : List (Fetch × Web.Log)),
      Url.parse url = .ok start ∧ c.crawl site url log store = .ok s ∧
      trips.map Prod.fst = s.fetches ∧ s.log = trips.flatMap Prod.snd ++ log ∧
      ∀ p ∈ trips, ∃ u, OnSite start p.1 u ∧ Web.Trip (c.fetcher.timeoutOf p.1) u p.2 := by
  rw [crawl]
  cases hurl : Url.parse url with
  | error e => exact .inl ⟨e, rfl, rfl⟩
  | ok start =>
    obtain ⟨trips, htrips⟩ := c.accounted_crawlFrom site (Url.isRead_parse hurl) log store
    exact .inr ⟨start, _, trips, rfl, rfl, htrips⟩

end Crawler

end EndpointScout
