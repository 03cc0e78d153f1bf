import EndpointScout.Collect.Collector
import EndpointScout.Crawl.Walk
import EndpointScout.Probe
import EndpointScout.Record.Basic
import EndpointScout.StatusFilter

/-! A whole scan: the crawl, the other sources, the probes and the filter. -/
namespace EndpointScout

inductive RunError where
  | filter (cause : FilterError)
  | filterWithoutProbe
  | invalidTarget (url : Text) (cause : Url.Error)
  | unsuitableTarget (url : Text)
  | scan (cause : ScanError)
deriving Repr, DecidableEq

namespace RunError

def isConfig : RunError → Bool
  | scan _ => false
  | _ => true

def message : RunError → Text
  | filter e => "Invalid status filter: ".toList ++ e.message
  | filterWithoutProbe => "--filter-status only works together with --probe".toList
  | invalidTarget url e => "Invalid target URL '".toList ++ url ++ "': ".toList ++ e.message
  | unsuitableTarget url => "Target URL must be an http(s) URL with a host: ".toList ++ url
  | scan e => "Scan failed: ".toList ++ e.message

end RunError

structure RunOptions where
  url : Text
  depth : Nat := 0
  filterStatus : Option Text := none
  probe : Bool := false
  wayback : Bool := false
  config : Config := {}

structure RunReport where
  target : Url
  records : List Record
  summary : CrawlSummary
  /-- The number of candidates before filtering. -/
  total : Nat
  probed : Bool

/-- A scan that has ended: its result, the messages on its progress in order, and all
exchanges. -/
structure Run where
  result : Except RunError RunReport
  messages : List Text
  log : Web.Log

namespace Run

def validate (o : RunOptions) : Except RunError (Url × Option StatusFilter) := do
  let filter ← match o.filterStatus with
    | none => pure none
    | some spec =>
      match StatusFilter.parse spec with
      | .ok f => pure (some f)
      | .error e => .error (.filter e)
  if filter.isSome && !o.probe then .error .filterWithoutProbe
  match Url.parse o.url with
  | .error e => .error (.invalidTarget o.url e)
  | .ok target =>
    if Web.isHttp target && target.host.isSome then pure (target, filter)
    else .error (.unsuitableTarget o.url)

def refused (e : RunError) : Run := ⟨.error e, [], []⟩

variable [Environment]

def archiveDomain (target : Url) : Text :=
  ((Domain.ofUrl? target).orElse fun _ => target.hostText?).getD []

structure Stage where
  store : Store
  messages : List Text
  log : Web.Log

def collect (c : Collector) (site : Web.Site) (target : Url) (wayback : Bool) (s : Stage) :
    Stage :=
  let origin := target.origin
  let scope := Target.ofUrl target
  let messages := s.messages ++ ["Collecting from robots.txt and sitemap.xml".toList]
  let ((store, _), log) := c.robots site origin s.log s.store
  let ((store, _), log) := c.sitemap site origin scope log store
  if wayback then
    let domain := archiveDomain target
    let messages := messages ++ ["Collecting archived URLs for ".toList ++ domain]
    let ((store, _), log) := c.wayback site domain scope log store
    ⟨store, messages, log⟩
  else ⟨store, messages, log⟩

def probe (p : Prober) (site : Web.Site) (target : Url) (s : Stage) : Stage :=
  let (store, report) := p.probeAll site target s.store s.log
  ⟨store, s.messages ++ report.messages, report.log⟩

def recordsOf (filter : Option StatusFilter) (target : Url) (s : Store) : List Record :=
  let kept := match filter with
    | some f => s.entries.filter fun (c : Candidate) => f.accepts c.status
    | none => s.entries
  kept.map fun c => Record.ofCandidate c target

def finish (filter : Option StatusFilter) (target : Url) (summary : CrawlSummary) (total : Nat)
    (probed : Bool) (s : Stage) : Run :=
  ⟨.ok ⟨target, recordsOf filter target s.store, summary, total, probed⟩, s.messages, s.log⟩

def scan (o : RunOptions) (site : Web.Site) (target : Url) (filter : Option StatusFilter)
    (crawler : Crawler) (collector : Collector) : Run :=
  match crawler.crawl site target.text [] Store.empty with
  | .error e => refused (.scan e)
  | .ok crawled =>
    let s := collect collector site target o.wayback
      ⟨crawled.store, crawled.messages.reverse, crawled.log⟩
    let total := s.store.size
    if o.probe then
      let message := "Probing ".toList ++ Text.ofNat total ++ " endpoints".toList
      let s := { s with messages := s.messages ++ [message] }
      match Prober.create o.config with
      | .error e => ⟨.error (.scan e), s.messages, s.log⟩
      | .ok p => finish filter target crawled.summary total true (probe p site target s)
    else finish filter target crawled.summary total false s

def execute (o : RunOptions) (site : Web.Site) : Run :=
  match validate o with
  | .error e => refused e
  | .ok (target, filter) =>
    match Crawler.create o.config o.depth, Collector.create o.config with
    | .ok crawler, .ok collector => scan o site target filter crawler collector
    | .error e, _ => refused (.scan e)
    | _, .error e => refused (.scan e)

end Run

end EndpointScout
