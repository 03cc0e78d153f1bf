import EndpointScout.CommandLine.Program
import Std.Time.Format

/-! The program. It has no network of its own: every request goes undelivered. -/
open EndpointScout EndpointScout.CommandLine

def writeRecords (path : Text) (format : ExportFormat) (records : List Record) : IO Unit := do
  let parent := Text.join ['/'] ((Text.splitAt '/' path).dropLast)
  if !parent.isEmpty then IO.FS.createDirAll (String.ofList parent)
  IO.FS.writeFile (String.ofList path) (String.ofList (format.render records))

def conclude (e : Ending) : IO UInt32 := do
  IO.print (String.ofList e.output)
  IO.eprint (String.ofList e.errors)
  return e.exit.toUInt32

def saveRecords (i : Invocation) (color : Bool) (r : RunReport) : IO UInt32 := do
  match i.out with
  | none => return 0
  | some out =>
    let home := ((← IO.getEnv "HOME").getD "").toList
    let path := expandHome home out
    let format := ExportFormat.ofPath path
    try
      writeRecords path format r.records
      conclude ⟨saved i color format path, [], 0⟩
    catch e => conclude ⟨[], unsaved color path (toString e).toList, 1⟩

def main (arguments : List String) : IO UInt32 := do
  match read (arguments.map String.toList) with
  | .error e => conclude e.ending
  | .ok i =>
    let color := (← (← IO.getStdout).isTty) && !i.noColor
    IO.print (String.ofList (opening i color))
    match (Run.execute i.options Web.Site.offline).result with
    | .error e => conclude ⟨[], failure color (causes e), exitStatus e⟩
    | .ok r =>
      let now ← Std.Time.PlainDateTime.now
      let finished := (now.format "uuuu-MM-dd HH:mm:ss").toList
      IO.print (String.ofList (results i color finished r))
      saveRecords i color r
