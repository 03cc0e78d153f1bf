import EndpointScout.Crawl.Walk

/-! What one visit adds to the state of a crawl. -/
namespace EndpointScout

namespace Web

/-- Without a memory of its own a site answers the same request the same way, and so every
chain of redirections ends the same way. -/
theorem follow_stateless {site : Site} (h : site.Stateless) (hops : Nat) (mode : Mode)
    (u : Url) (log log' : Log) :
    (follow site hops mode u log).1 = (follow site hops mode u log').1 := by
  induction hops generalizing u log log' with
  | zero =>
    have hs := h log log' ⟨mode, wireText u⟩
    unfold follow
    grind
  | succ hops ih =>
    have hs := h log log' ⟨mode, wireText u⟩
    unfold follow
    grind

theorem Fetcher.page_stateless [Decoders] {site : Site} (h : site.Stateless) (f : Fetcher)
    (url : Text) (log log' : Log) : (f.page site url log).1 = (f.page site url log').1 := by
  have hf (u : Url) := follow_stateless h f.pages.maxRedirects ⟨.get, f.pageTimeout⟩ u log log'
  unfold page Client.get Client.send
  grind

end Web

namespace Crawler
open Crawl

def pageMessage (level : Nat) (url : Text) : Text :=
  "Crawling ".toList ++ url ++ " (depth ".toList ++ Text.ofNat level ++ [')']

def scriptMessage (url : Text) : Text := "Parsing ".toList ++ url

variable [Environment] (c : Crawler) (site : Web.Site) (target : Target)

theorem visitScript_visited (s : State) (url : Text) :
    (c.visitScript site target s url).visited = s.visited := rfl

theorem visitScript_messages (s : State) (url : Text) :
    (c.visitScript site target s url).messages = scriptMessage url :: s.messages := rfl

theorem visitScript_fetches (s : State) (url : Text) :
    (c.visitScript site target s url).fetches = .script url :: s.fetches := rfl

theorem visitScript_pagesVisited (s : State) (url : Text) :
    (c.visitScript site target s url).summary.pagesVisited = s.summary.pagesVisited := rfl

theorem visitScripts_cons (s : State) (url : Text) (urls : List Text) :
    c.visitScripts site target s (url :: urls) =
      c.visitScripts site target (c.visitScript site target s url) urls := rfl

theorem visitScripts_visited (s : State) (urls : List Text) :
    (c.visitScripts site target s urls).visited = s.visited := by
  induction urls generalizing s with
  | nil => rfl
  | cons url urls ih => rw [visitScripts_cons, ih, visitScript_visited]

theorem visitScripts_messages (s : State) (urls : List Text) :
    (c.visitScripts site target s urls).messages =
      (urls.map scriptMessage).reverse ++ s.messages := by
  induction urls generalizing s with
  | nil => rfl
  | cons url urls ih => simp [visitScripts_cons, ih, visitScript_messages]

theorem visitScripts_fetches (s : State) (urls : List Text) :
    (c.visitScripts site target s urls).fetches = (urls.map .script).reverse ++ s.fetches := by
  induction urls generalizing s with
  | nil => rfl
  | cons url urls ih => simp [visitScripts_cons, ih, visitScript_fetches]

theorem visitScripts_pagesVisited (s : State) (urls : List Text) :
    (c.visitScripts site target s urls).summary.pagesVisited = s.summary.pagesVisited := by
  induction urls generalizing s with
  | nil => rfl
  | cons url urls ih => rw [visitScripts_cons, ih, visitScript_pagesVisited]

def pageText (url : Text) : Text := (c.fetcher.page site url []).1

def pageScripts (url : Text) : List Text := scriptsOf target (c.pageText site url) url

def Links (u v : Text) : Prop := v ∈ Html.pageLinks (c.pageText site u) u target

def pageMessages (level : Nat) (url : Text) : List Text :=
  pageMessage level url :: (c.pageScripts site target url).map scriptMessage

def pageFetches (url : Text) : List Fetch :=
  .page url :: (c.pageScripts site target url).map .script

theorem scriptsOf_nil (url : Text) : scriptsOf target [] url = [] := by
  unfold scriptsOf Html.scriptLinks
  cases Url.parse url with
  | error e => rfl
  | ok base => rfl

theorem pageLinks_nil (url : Text) : Html.pageLinks [] url target = [] := by
  unfold Html.pageLinks
  cases Url.parse url with
  | error e => rfl
  | ok base => rfl

def arrive (level : Nat) (url : Text) (s : State) : State where
  log := (c.fetcher.page site url s.log).2
  store := s.store
  visited := url :: s.visited
  fetches := .page url :: s.fetches
  messages := pageMessage level url :: s.messages
  summary :=
    { s.summary with
      pagesVisited := s.summary.pagesVisited + 1
      scriptsFound := s.summary.scriptsFound +
        (scriptsOf target (c.fetcher.page site url s.log).1 url).length }

/-- A visit is the arrival at a page followed by visits of its scripts; links are kept
unless the page they lead to has been visited. -/
theorem visitPage_eq (level : Nat) (isLast : Bool) (url : Text) (s : State) :
    c.visitPage site target level isLast url s =
      (c.visitScripts site target (c.arrive site target level url s)
        (scriptsOf target (c.fetcher.page site url s.log).1 url),
      (if isLast then [] else
        Html.pageLinks (c.fetcher.page site url s.log).1 url target).filter
          fun l => l ∉ url :: s.visited) := by
  simp only [visitPage, arrive, State.report, visitScripts_visited, List.isEmpty_iff]
  by_cases he : (c.fetcher.page site url s.log).1 = []
  · rw [if_pos he]
    simp only [he, scriptsOf_nil, pageLinks_nil, ite_self, List.filter_nil]
    rfl
  · rw [if_neg he]
    rfl

end Crawler

end EndpointScout
