import EndpointScout.Crawl.State
import EndpointScout.Environment
import EndpointScout.Html.Links
import EndpointScout.Mining
import EndpointScout.Web.Fetch

/-! Walking over the pages of a site level by level, and mining their scripts. -/
namespace EndpointScout

structure Crawler where
  fetcher : Web.Fetcher
  config : Config
  maxDepth : Nat := 0

namespace Crawler

open Crawl

def create (config : Config) (maxDepth : Nat) : Except ScanError Crawler := do
  pure ⟨← Web.Fetcher.create config, config, maxDepth⟩

variable [Environment]

def scriptNoise : List Text := ["?scope=", "&delta=", "min.js"].map String.toList

def scriptsOf (target : Target) (html url : Text) : List Text :=
  ((Html.scriptLinks html url).filter fun l => !scriptNoise.any fun n => Text.occursIn n l).filter
    target.matchesText

def visitScript (c : Crawler) (site : Web.Site) (target : Target) (s : State) (url : Text) :
    State :=
  let s := s.report ("Parsing ".toList ++ url)
  let (source, log) := c.fetcher.script site url s.log
  let moment := log.length
  let tree := Script.read c.config (some source) moment
  let (store, accepted) := s.store.mine target tree
  let summary : CrawlSummary :=
    { s.summary with
      scriptsParsed := s.summary.scriptsParsed + if tree.isEmpty then 0 else 1
      candidates := s.summary.candidates + accepted
      parseTimeouts :=
        s.summary.parseTimeouts + if Script.isAbandoned c.config source moment then 1 else 0 }
  { s with log, store, summary, fetches := .script url :: s.fetches }

def visitScripts (c : Crawler) (site : Web.Site) (target : Target) (s : State)
    (urls : List Text) : State :=
  urls.foldl (c.visitScript site target) s

/-- Fetches one page and its scripts; the links that lead on from it are the second
result, unless it is on the last level. -/
def visitPage (c : Crawler) (site : Web.Site) (target : Target) (level : Nat) (isLast : Bool)
    (url : Text) (s : State) : State × List Text :=
  let s := { s with visited := url :: s.visited }
  let s := s.report ("Crawling ".toList ++ url ++ " (depth ".toList ++ Text.ofNat level ++ [')'])
  let (html, log) := c.fetcher.page site url s.log
  let summary := { s.summary with pagesVisited := s.summary.pagesVisited + 1 }
  let s := { s with log, summary, fetches := .page url :: s.fetches }
  if html.isEmpty then (s, [])
  else
    let scripts := scriptsOf target html url
    let summary := { s.summary with scriptsFound := s.summary.scriptsFound + scripts.length }
    let s := c.visitScripts site target { s with summary } scripts
    let links := if isLast then [] else Html.pageLinks html url target
    (s, links.filter fun l => l ∉ s.visited)

def visitLevel (c : Crawler) (site : Web.Site) (target : Target) (level : Nat) (isLast : Bool) :
    List Text → State → State × List Text
  | [], s => (s, [])
  | url :: urls, s =>
    if url ∈ s.visited then c.visitLevel site target level isLast urls s
    else
      let (s, links) := c.visitPage site target level isLast url s
      let (s, more) := c.visitLevel site target level isLast urls s
      (s, links ++ more)

def visitLevels (c : Crawler) (site : Web.Site) (target : Target) :
    Nat → Nat → List Text → State → State
  | _, _, [], s => s
  | 0, level, urls, s => (c.visitLevel site target level true urls s).1
  | remaining + 1, level, urls, s =>
    let (s, links) := c.visitLevel site target level false urls s
    c.visitLevels site target remaining (level + 1) links s

def crawlFrom (c : Crawler) (site : Web.Site) (start : Url) (log : Web.Log) (store : Store) :
    State :=
  c.visitLevels site (Target.ofUrl start) c.maxDepth 0 [start.text] (State.start log store)

def crawl (c : Crawler) (site : Web.Site) (url : Text) (log : Web.Log) (store : Store) :
    Except ScanError State :=
  match Url.parse url with
  | .error e => .error (.invalidUrl url e)
  | .ok start => .ok (c.crawlFrom site start log store)

end Crawler

end EndpointScout
