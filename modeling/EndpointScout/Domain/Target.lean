import EndpointScout.Domain.PublicSuffix
import EndpointScout.Url.Parser

/-! Registrable domains, and the site under scan as one of them. -/
namespace EndpointScout

namespace Domain

def isIpv4Literal (t : Text) : Bool := (Url.embeddedIpv4? t).isSome

def isIpLiteral (t : Text) : Bool := isIpv4Literal t || (Url.ipv6? t).isSome

variable [SuffixList]

/-- The public suffix and one label more, in lower case. Addresses have none. -/
def registrable? (host : Text) : Option Text :=
  let host := Text.dropEndWhile (· == '.') host
  if host.isEmpty || host.head? == some '[' || isIpLiteral host then none
  else (SuffixList.registered? host).map fun domain => domain.map Url.lowerLetter

def ofUrl? (u : Url) : Option Text :=
  match u.host with
  | some (.domain name) => registrable? name
  | _ => none

end Domain

/-- The site under scan. A site without a registrable domain counts every host
without one as its own. -/
structure Target where
  domain : Option Text
deriving Repr, DecidableEq

namespace Target

def ofDomain (domain : Text) : Target := ⟨some (domain.map Url.lowerLetter)⟩

def unscoped : Target := ⟨none⟩

def text (t : Target) : Text := t.domain.getD "<none>".toList

variable [SuffixList]

def ofUrl (u : Url) : Target := ⟨Domain.ofUrl? u⟩

def matchesUrl (t : Target) (u : Url) : Bool := Domain.ofUrl? u == t.domain

def matchesText (t : Target) (s : Text) : Bool :=
  match Url.parse s with
  | .ok u => t.matchesUrl u
  | .error _ => false

end Target

end EndpointScout
