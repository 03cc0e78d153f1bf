import EndpointScout.Record.Document
import EndpointScout.Text.LetterCase

/-! Records as files: JSON, CSV and plain lines. -/
namespace EndpointScout

namespace Record

def jsonExport (records : List Record) : Text :=
  (Json.Value.array (records.map Record.toDocument)).pretty 0

/-- A field is quoted if it holds a comma, a quote or a line break; its quotes are doubled. -/
def csvField (t : Text) : Text :=
  if t.any fun c => c == ',' || c == '"' || c == '\n' || c == '\r' then
    '"' :: (t.flatMap fun c => if c = '"' then ['"', '"'] else [c]) ++ ['"']
  else t

def csvRow (fields : List Text) : Text := Text.join [','] (fields.map csvField) ++ ['\n']

def csvHeader : List Text :=
  ["value", "resolved_url", "type", "source", "reachable", "status"].map String.toList

def csvFields (r : Record) : List Text :=
  [r.value, r.resolvedUrl, r.kind.name.toList, r.source.name.toList,
    (match r.reachable with
      | some true => "true".toList
      | some false => "false".toList
      | none => []),
    (r.status.map fun s => Text.ofNat s.toNat).getD []]

def csvExport (records : List Record) : Text :=
  csvRow csvHeader ++ records.flatMap fun r => csvRow r.csvFields

def line (r : Record) : Text :=
  match r.status with
  | some s => if s != 0 then r.resolvedUrl ++ " [".toList ++ Text.ofNat s.toNat ++ [']']
    else r.resolvedUrl
  | none => r.resolvedUrl

def txtExport (records : List Record) : Text := Text.join ['\n'] (records.map line)

end Record

inductive ExportFormat where
  | json
  | csv
  | txt
deriving Repr, DecidableEq

namespace ExportFormat

def name : ExportFormat → String
  | json => "Json"
  | csv => "Csv"
  | txt => "Txt"

def ofName? (t : Text) : Option ExportFormat :=
  let t := Text.lower t
  if t == "json".toList then some json
  else if t == "csv".toList then some csv
  else if t == "txt".toList then some txt
  else none

def pathParts (path : Text) : List Text :=
  (Text.splitAt '/' path).filter fun p => !p.isEmpty && p != ['.']

/-- What follows the last dot of a file name that does not begin with that dot. -/
def extension? (path : Text) : Option Text :=
  match (pathParts path).getLast? with
  | none => none
  | some name =>
    if name == "..".toList then none
    else
      let tail := (name.reverse.takeWhile (· != '.')).reverse
      if tail.length + 1 < name.length then some tail else none

def ofPath (path : Text) : ExportFormat := ((extension? path).bind ofName?).getD json

def render (f : ExportFormat) (records : List Record) : Text :=
  match f with
  | json => Record.jsonExport records
  | csv => Record.csvExport records
  | txt => Record.txtExport records

end ExportFormat

end EndpointScout
