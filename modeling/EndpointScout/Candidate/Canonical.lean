import EndpointScout.Url.Edit

/-! Canonical forms: the path that identifies a candidate and the value under
which it is stored. -/
namespace EndpointScout.Candidate

def placeholderOrigin : Text := "https://placeholder.com".toList

def isSlash (c : Char) : Bool := c == '/'

def collapsePath (path : Text) : Text :=
  match Text.dropEndWhile isSlash path with
  | [] => ['/']
  | '/' :: '/' :: t => '/' :: t.dropWhile isSlash
  | t => t

/-- The path of a value, read as a reference. A value that is no reference stands for
itself, without a wildcard query. -/
def normalizePath (value : Text) : Text :=
  match (Url.parse placeholderOrigin).bind fun base => base.join value with
  | .ok u => collapsePath u.pathText
  | .error _ => collapsePath ((Text.dropSuffix? value "?*".toList).getD value)

def stored (u : Url) : Text :=
  let u := u.withoutFragment
  let u := u.withPath (Text.dropEndWhile isSlash u.pathText)
  if u.query.isNone then Text.dropEndWhile isSlash u.text else u.text

/-- The form in which a value is stored: a path is normalized, and a text that is no URL
stays as it is. -/
def canonical (value : Text) : Text :=
  if value.head? == some '/' then normalizePath value
  else match Url.parse value with
    | .error _ => value
    | .ok u => stored u

end EndpointScout.Candidate
