import EndpointScout.Candidate.Store
import EndpointScout.Crawl.Summary
import EndpointScout.Web.Message

/-! What a crawl has seen, found and told so far. -/
namespace EndpointScout.Crawl

inductive Fetch where
  | page (url : Text)
  | script (url : Text)
deriving Repr, DecidableEq

/-- Pages, fetches and messages are listed last first. -/
structure State where
  log : Web.Log
  store : Store
  visited : List Text
  fetches : List Fetch
  messages : List Text
  summary : CrawlSummary

namespace State

def start (log : Web.Log) (store : Store) : State := ⟨log, store, [], [], [], {}⟩

def report (s : State) (message : Text) : State := { s with messages := message :: s.messages }

end State

end EndpointScout.Crawl
