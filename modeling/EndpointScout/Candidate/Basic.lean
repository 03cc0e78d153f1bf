import EndpointScout.Text.Basic

/-! Candidate endpoints: what was found, where, and what a probe saw. -/
namespace EndpointScout

inductive Kind where
  | relative
  | external
deriving Repr, DecidableEq

inductive Source where
  | static
  | fetch
  | axios
  | xmlhttp
  | robots
  | sitemap
  | wayback
deriving Repr, DecidableEq

namespace Kind

def classify (value : Text) : Kind := if value.head? == some '/' then relative else external

def name : Kind → String
  | relative => "relative"
  | external => "external"

def all : List Kind := [relative, external]

end Kind

namespace Source

def name : Source → String
  | static => "static"
  | fetch => "fetch"
  | axios => "axios"
  | xmlhttp => "xmlhttp"
  | robots => "robots"
  | sitemap => "sitemap"
  | wayback => "wayback"

def all : List Source := [static, fetch, axios, xmlhttp, robots, sitemap, wayback]

end Source

/-- A candidate endpoint; the last two fields are set by a probe. -/
structure Candidate where
  value : Text
  kind : Kind
  source : Source
  reachable : Option Bool := none
  status : Option UInt16 := none
deriving Repr, DecidableEq

namespace Candidate

def isRelative (c : Candidate) : Bool := c.kind == .relative

def isProbed (c : Candidate) : Bool := c.reachable.isSome

def recordProbe (c : Candidate) (reachable : Bool) (status : UInt16) : Candidate :=
  if c.isProbed then c else ⟨c.value, c.kind, c.source, some reachable, some status⟩

end Candidate

end EndpointScout
