import EndpointScout.Url.Address

/-! URLs by their parts, and their written form. -/
namespace EndpointScout

namespace Url

inductive Host where
  | domain (name : Text)
  | ipv4 (address : Nat)
  | ipv6 (pieces : List Nat)
deriving Repr, DecidableEq

def Host.text : Host → Text
  | domain name => name
  | ipv4 n => ipv4Text n
  | ipv6 ps => '[' :: (ipv6Text ps ++ [']'])

structure Authority where
  username : Text
  password : Text
  host : Option Host
  port : Option Nat
deriving Repr, DecidableEq

/-- A verbatim path is a text of its own; the segments of the other kind each
follow a slash. -/
inductive Path where
  | verbatim (text : Text)
  | segments (list : List Text)
deriving Repr, DecidableEq

def Path.text : Path → Text
  | verbatim t => t
  | segments l => l.flatMap ('/' :: ·)

end Url

/-- A parsed URL. Without an authority, `shielded` tells that `/.` keeps the path
from being read as one. -/
structure Url where
  scheme : Text
  authority : Option Url.Authority
  shielded : Bool
  path : Url.Path
  query : Option Text
  fragment : Option Text
deriving Repr, DecidableEq

namespace Url

inductive Error where
  | emptyHost
  | idna
  | invalidPort
  | invalidIpv4Address
  | invalidIpv6Address
  | invalidDomainCharacter
  | relativeWithoutBase
  | relativeToVerbatim
deriving Repr, DecidableEq

def Error.message : Error → Text
  | emptyHost => "empty host".toList
  | idna => "invalid international domain name".toList
  | invalidPort => "invalid port number".toList
  | invalidIpv4Address => "invalid IPv4 address".toList
  | invalidIpv6Address => "invalid IPv6 address".toList
  | invalidDomainCharacter => "invalid domain character".toList
  | relativeWithoutBase => "relative URL without a base".toList
  | relativeToVerbatim => "relative URL with a cannot-be-a-base base".toList

def defaultPort? (scheme : Text) : Option Nat :=
  if scheme == "http".toList || scheme == "ws".toList then some 80
  else if scheme == "https".toList || scheme == "wss".toList then some 443
  else if scheme == "ftp".toList then some 21
  else none

def isFileScheme (scheme : Text) : Bool := scheme == "file".toList

/-- Special schemes always have an authority and a path. -/
def isSpecialScheme (scheme : Text) : Bool :=
  (defaultPort? scheme).isSome || isFileScheme scheme

def host (u : Url) : Option Host := u.authority.bind (·.host)

def hostText? (u : Url) : Option Text := u.host.map Host.text

def pathText (u : Url) : Text := u.path.text

def Authority.credentials (a : Authority) : Text :=
  if a.username.isEmpty && a.password.isEmpty then []
  else a.username ++ (if a.password.isEmpty then [] else ':' :: a.password) ++ ['@']

def Authority.text (a : Authority) : Text :=
  a.credentials ++ ((a.host.map Host.text).getD []) ++
    ((a.port.map fun p => ':' :: Text.ofNat p).getD [])

def beforePath (u : Url) : Text :=
  u.scheme ++ ':' :: (match u.authority with
    | some a => '/' :: '/' :: a.text
    | none => if u.shielded then ['/', '.'] else [])

def queryText (u : Url) : Text := (u.query.map ('?' :: ·)).getD []

def fragmentText (u : Url) : Text := (u.fragment.map ('#' :: ·)).getD []

def text (u : Url) : Text := u.beforePath ++ u.pathText ++ u.queryText ++ u.fragmentText

def isVerbatim (u : Url) : Bool :=
  u.authority.isNone && !u.shielded && u.pathText.head? != some '/'

end Url

end EndpointScout
