import EndpointScout.Text.LetterCase
import EndpointScout.Text.Utf8
import EndpointScout.Url.Edit

/-! Requests and answers, and the sites that give them. -/
namespace EndpointScout.Web

inductive Method where
  | get
  | head
deriving Repr, DecidableEq

def Method.name : Method → String
  | get => "GET"
  | head => "HEAD"

structure Mode where
  method : Method
  timeout : Nat
deriving Repr, DecidableEq

/-- A request for a URL, written as it is sent: without credentials and fragment. -/
structure Request where
  mode : Mode
  url : Text
deriving Repr, DecidableEq

def Request.text (r : Request) : Text := r.mode.method.name.toList ++ ' ' :: r.url

structure Response where
  status : UInt16
  status_ne_zero : status ≠ 0
  headers : List (Text × Text)
  body : Text.Utf8.Bytes
deriving Repr, DecidableEq

namespace Response

def header? (r : Response) (name : String) : Option Text :=
  (r.headers.find? fun h => Text.asciiLower h.1 == name.toList).map (·.2)

def content (r : Response) : Text.Utf8.Bytes :=
  if r.status == 204 || r.status == 304 then [] else r.body

def plain (body : Text) : Response := ⟨200, by decide, [], Text.Utf8.encode body⟩

def isSuccess (r : Response) : Bool := 200 ≤ r.status && r.status < 300

end Response

/-- What becomes of a request: it reaches no host, its connection ends without an answer,
or it is answered. -/
inductive Delivery where
  | undelivered
  | dropped
  | answered (response : Response)
deriving Repr, DecidableEq

structure Exchange where
  request : Request
  delivery : Delivery
deriving Repr, DecidableEq

/-- The exchanges so far, last first. -/
abbrev Log := List Exchange

/-- Everything that can be asked. An answer may depend on all earlier exchanges. -/
abbrev Site := Log → Request → Delivery

namespace Site

def Stateless (s : Site) : Prop := ∀ l l' r, s l r = s l' r

def ofFunction (f : Request → Delivery) : Site := fun _ => f

def offline : Site := ofFunction fun _ => .undelivered

end Site

def Log.requests (l : Log) : List Request :=
  (l.reverse.filter fun x => x.delivery != .undelivered).map (·.request)

end EndpointScout.Web
