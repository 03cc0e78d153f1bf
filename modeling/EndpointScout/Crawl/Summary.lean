import EndpointScout.Text.Basic

/-! Counters of a crawl. -/
namespace EndpointScout

structure CrawlSummary where
  pagesVisited : Nat := 0
  scriptsFound : Nat := 0
  /-- Scripts whose tree has statements. -/
  scriptsParsed : Nat := 0
  candidates : Nat := 0
  parseTimeouts : Nat := 0
deriving Repr, DecidableEq

end EndpointScout
