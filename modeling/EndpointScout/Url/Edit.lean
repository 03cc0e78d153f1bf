import EndpointScout.Url.Parser

/-! Changing parts of a URL, and its origin. -/
namespace EndpointScout.Url

/-- Without a fragment. Blanks at the end of a verbatim path go too, unless a query
follows them. -/
def withoutFragment (u : Url) : Url :=
  let path := match u.path, u.query with
    | .verbatim t, none =>
      if u.isVerbatim then .verbatim (Text.dropEndWhile (· == ' ') t) else .verbatim t
    | p, _ => p
  ⟨u.scheme, u.authority, u.shielded, path, u.query, none⟩

def withPath (u : Url) (path : Text) : Url :=
  let path :=
    if u.isVerbatim then
      match path with
      | '/' :: rest => .verbatim ("%2F".toList ++ percentEncode isControl rest)
      | t => .verbatim (percentEncode isControl t)
    else .segments (parsePathStart u.scheme false path).1
  ⟨u.scheme, u.authority, u.shielded, path, u.query, u.fragment⟩

def tupleOrigin? (u : Url) : Option Text :=
  match defaultPort? u.scheme, u.host with
  | some _, some h =>
    let port := ((u.authority.bind (·.port)).map fun p => ':' :: Text.ofNat p).getD []
    some (u.scheme ++ "://".toList ++ h.text ++ port)
  | _, _ => none

/-- Scheme, host and port; URLs without an origin show as `null`. -/
def origin (u : Url) : Text :=
  let inner := if u.scheme == "blob".toList then (parse? u.pathText).bind tupleOrigin? else none
  (inner.orElse fun _ => u.tupleOrigin?).getD "null".toList

end EndpointScout.Url
