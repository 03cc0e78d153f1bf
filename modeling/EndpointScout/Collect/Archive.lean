import EndpointScout.Candidate.Admission
import EndpointScout.Candidate.Store
import EndpointScout.Json.Reader
import EndpointScout.Url.Edit

/-! The URLs that an archive has kept of a domain. -/
namespace EndpointScout.Archive

def isPlain (c : Char) : Bool :=
  Text.isAlphanumeric c || c == '*' || c == '-' || c == '.' || c == '_'

def encodeValue (t : Text) : Text :=
  (Url.percentEncode (fun c => !(isPlain c || c == ' ')) t).map fun c => if c == ' ' then '+' else c

def queryOf (domain : Text) : Text :=
  "url=".toList ++ encodeValue (domain ++ "/*".toList) ++
    "&output=json&fl=original&collapse=urlkey".toList

def queryUrl (endpoint domain : Text) : Except Url.Error Url := do
  let u ← Url.parse (Text.dropEndWhile (· == '/') endpoint ++ "/cdx/search/cdx".toList)
  let pairs := queryOf domain
  let query := match u.query with
    | some (c :: q) => c :: q ++ '&' :: pairs
    | _ => pairs
  pure { u with query := some query }

def rowsOf? (v : Json.Value) : Option (List (List Text)) :=
  v.items?.bind fun rows => rows.mapM fun row =>
    row.items?.bind fun cells => cells.mapM Json.Value.text?

/-- The first cells of all rows but the first, which names the columns. -/
def archivedUrls (rows : List (List Text)) : List Text := rows.tail.filterMap List.head?

def rows? (t : Text) : Option (List (List Text)) := ((Json.parse t).toOption).bind rowsOf?

def candidates [SuffixList] (target : Target) (rows : List (List Text)) : List Candidate :=
  (((archivedUrls rows).map Candidate.cleanLiteral).filter target.accepts).map fun v =>
    { value := v, kind := Kind.classify v, source := .wayback }

end EndpointScout.Archive
