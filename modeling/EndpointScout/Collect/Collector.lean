import EndpointScout.Collect.Archive
import EndpointScout.Collect.Robots
import EndpointScout.Collect.Sitemap
import EndpointScout.Environment
import EndpointScout.Web.Client

/-! Candidates from what a site and an archive say about the site. Collectors only ever
add; whatever fails adds nothing. -/
namespace EndpointScout

structure Collector where
  client : Web.Client
  timeout : Nat
  archiveEndpoint : Text
deriving Repr, DecidableEq

namespace Collector

def create (config : Config) : Except ScanError Collector := do
  pure ⟨← Web.Client.create config config.pageMaxRedirects, config.pageTimeout,
    config.archiveEndpoint⟩

-- Archives are slow to answer.
def archiveTimeout (c : Collector) : Nat := max 60000 c.timeout

variable [Environment]

/-- The text of a document of the site; only an answer of success counts. -/
def fetch (c : Collector) (site : Web.Site) (origin : Text) (name : String) (log : Web.Log) :
    Option Text × Web.Log :=
  let url := Text.dropEndWhile (· == '/') origin ++ '/' :: name.toList
  match c.client.get site c.timeout url log with
  | (some r, log) => (if r.isSuccess then some r.text else none, log)
  | (none, log) => (none, log)

def offer (store : Store) (document : Option α) (candidates : α → List Candidate) :
    Store × Nat :=
  match document with
  | some d => store.addCounting (candidates d)
  | none => (store, 0)

def robots (c : Collector) (site : Web.Site) (origin : Text) (log : Web.Log) (store : Store) :
    (Store × Nat) × Web.Log :=
  let (body, log) := c.fetch site origin "robots.txt" log
  (offer store body Robots.candidates, log)

def sitemap (c : Collector) (site : Web.Site) (origin : Text) (target : Target) (log : Web.Log)
    (store : Store) : (Store × Nat) × Web.Log :=
  let (body, log) := c.fetch site origin "sitemap.xml" log
  (offer store body (Sitemap.candidates target), log)

def archiveRows (c : Collector) (site : Web.Site) (domain : Text) (log : Web.Log) :
    Option (List (List Text)) × Web.Log :=
  match Archive.queryUrl c.archiveEndpoint domain with
  | .error _ => (none, log)
  | .ok u =>
    match c.client.send site ⟨.get, c.archiveTimeout⟩ u log with
    | (some r, log) =>
      (if r.isSuccess then (Text.Utf8.decode? r.content).bind Archive.rows? else none, log)
    | (none, log) => (none, log)

def wayback (c : Collector) (site : Web.Site) (domain : Text) (target : Target) (log : Web.Log)
    (store : Store) : (Store × Nat) × Web.Log :=
  let (rows, log) := c.archiveRows site domain log
  (offer store rows (Archive.candidates target), log)

end Collector

end EndpointScout
