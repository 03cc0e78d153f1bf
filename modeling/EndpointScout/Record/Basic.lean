import EndpointScout.Candidate.Basic
import EndpointScout.Url.Edit

/-! Records: candidates as they are shown and exported. -/
namespace EndpointScout

structure Record where
  value : Text
  resolvedUrl : Text
  kind : Kind
  source : Source
  reachable : Option Bool := none
  status : Option UInt16 := none
deriving Repr, DecidableEq

namespace Record

/-- Paths hang off the origin of the site; URLs stand for themselves. -/
def resolveValue (value : Text) (kind : Kind) (site : Url) : Text :=
  match kind with
  | .relative => site.origin ++ value
  | .external => value

def ofCandidate (c : Candidate) (site : Url) : Record :=
  ⟨c.value, resolveValue c.value c.kind site, c.kind, c.source, c.reachable, c.status⟩

end Record

end EndpointScout
