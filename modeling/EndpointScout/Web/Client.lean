import EndpointScout.Config
import EndpointScout.Web.Charset
import EndpointScout.Web.Message

/-! Sending requests and following redirections. -/
namespace EndpointScout

inductive ScanError where
  | client
  | invalidUrl (url : Text) (cause : Url.Error)
deriving Repr, DecidableEq

def ScanError.message : ScanError → Text
  | client => "HTTP client setup failed: builder error".toList
  | invalidUrl url cause => "Invalid URL: ".toList ++ url ++ ": ".toList ++ cause.message

namespace Web

def isHeaderChar (c : Char) : Bool := c == '\t' || (32 ≤ c.toNat && c.toNat != 127)

structure Client where
  maxRedirects : Nat
deriving Repr, DecidableEq

def Client.create (config : Config) (maxRedirects : Nat) : Except ScanError Client :=
  if config.userAgent.all isHeaderChar then .ok ⟨maxRedirects⟩ else .error .client

def isHttp (u : Url) : Bool := u.scheme == "http".toList || u.scheme == "https".toList

def wireText (u : Url) : Text :=
  let bare : Url :=
    { u with
      authority := u.authority.map fun a => ⟨[], [], a.host, a.port⟩
      fragment := none }
  bare.text

def redirectStatuses : List UInt16 := [301, 302, 303, 307, 308]

def redirection? (u : Url) (r : Response) : Option Url :=
  if redirectStatuses.contains r.status then
    (r.header? "location").bind fun location => (u.join location).toOption
  else none

/-- Sends a request and follows at most `hops` redirections. -/
def follow (site : Site) : Nat → Mode → Url → Log → Option Response × Log
  | hops, mode, u, log =>
    if !isHttp u || u.host.isNone then (none, log)
    else
      let request : Request := ⟨mode, wireText u⟩
      let delivery := site log request
      let log : Log := ⟨request, delivery⟩ :: log
      match delivery with
      | .answered r =>
        match redirection? u r with
        | none => (some r, log)
        | some next =>
          match hops with
          | 0 => (none, log)
          | hops + 1 => follow site hops mode next log
      | _ => (none, log)

def Client.send (c : Client) (site : Site) (mode : Mode) (u : Url) (log : Log) :
    Option Response × Log :=
  follow site c.maxRedirects mode u log

def Client.get (c : Client) (site : Site) (timeout : Nat) (url : Text) (log : Log) :
    Option Response × Log :=
  match Url.parse url with
  | .ok u => c.send site ⟨.get, timeout⟩ u log
  | .error _ => (none, log)

def Response.text [Decoders] (r : Response) : Text :=
  let charset := ((r.header? "content-type").bind Charset.label?).map Charset.ofLabel
  (charset.getD .utf8).decode r.content

end Web

end EndpointScout
