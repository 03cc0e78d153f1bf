import EndpointScout.CommandLine.Arguments
import EndpointScout.Record.Files
import EndpointScout.Record.Report

/-! What the program prints, in which order, and how it ends. -/
namespace EndpointScout.CommandLine

def programVersion : Text := "0.2.1".toList

def banner : Text :=
  ("\n   _____       __    ____             __\n" ++
    "  / ___/__  __/ /_  / __ \\_________  / /_  ___\n" ++
    "  \\__ \\/ / / / __ \\/ /_/ / ___/ __ \\/ __ \\/ _ \\\n" ++
    " ___/ / /_/ / /_/ / ____/ /  / /_/ / /_/ /  __/\n" ++
    "/____/\\__,_/_.___/_/   /_/   \\____/_.___/\\___/\n").toList

def bannerText (color : Bool) : Text :=
  let bright (code : String) (t : Text) : Text :=
    if color then '\x1b' :: '[' :: code.toList ++ 'm' :: t ++ "\x1b[0m".toList else t
  bright "92" banner ++ "\n  ".toList ++ bright "1;97" ('v' :: programVersion) ++ ' ' ::
    Style.gray.paint color "hidden endpoint & subdomain discovery".toList ++ "\n\n".toList

def markText (color : Bool) (style : Style) (c : Char) : Text :=
  if color then "\x1b[1;".toList ++ Text.ofNat style.code ++ 'm' :: c :: "\x1b[0m".toList else [c]

def helpText : Text :=
  ("Extract hidden endpoints and internal subdomains from JavaScript files and external " ++
    "sources\n\nUsage: subprobe [OPTIONS] <URL>\n\nArguments:\n  <URL>  Target URL to analyze\n\n" ++
    "Options:\n" ++
    "      --depth <DEPTH>          Recursive scan depth for internal links [default: 0]\n" ++
    "      --filter-status <CODES>  Filter by status codes. Supports exact (200), ranges " ++
    "(400-410) and groups (4xx). Requires --probe\n" ++
    "  -o, --out <FILE>             Export results to a .json, .csv or .txt file (JSON when " ++
    "unrecognized)\n" ++
    "      --probe                  Check whether endpoints respond and record their HTTP " ++
    "status\n" ++
    "      --wayback                Include web archive results\n" ++
    "  -q, --silent                 Only show discovered endpoints, without banner or progress\n" ++
    "  -v, --verbose                Enable debug logging for the scanner (RUST_LOG overrides)\n" ++
    "      --no-color               Disable colored output\n" ++
    "  -h, --help                   Print help\n" ++
    "  -V, --version                Print version\n").toList

structure Ending where
  output : Text
  errors : Text
  exit : Nat

def UsageError.ending (e : UsageError) : Ending :=
  match e with
  | .help => ⟨helpText, [], 0⟩
  | .version => ⟨"subprobe ".toList ++ programVersion ++ ['\n'], [], 0⟩
  | e => ⟨[], "error: ".toList ++ e.message ++
      "\n\nFor more information, try '--help'.\n".toList, 2⟩

def causes : RunError → List Text
  | .filter e => [(RunError.filter e).message, e.message]
  | .scan e => [(RunError.scan e).message, e.message]
  | e => [e.message]

/-- Faults of the options end the program with 2, all others with 1. -/
def exitStatus (e : RunError) : Nat := if e.isConfig then 2 else 1

def failure (color : Bool) (causes : List Text) : Text :=
  markText color .red '✗' ++ ' ' :: Text.join ": ".toList causes ++ ['\n']

def opening (i : Invocation) (color : Bool) : Text :=
  if i.silent then []
  else
    bannerText color ++ markText color .green '→' ++ " Starting SubProbe on ".toList ++
      i.target.text ++ " (depth: ".toList ++ Text.ofNat i.depth ++ ")\n".toList

def results (i : Invocation) (color : Bool) (finished : Text) (r : RunReport) : Text :=
  if i.silent then r.records.flatMap fun x => Report.line color r.probed x ++ ['\n']
  else
    '\n' :: markText color .green '✓' ++ " Analysis complete: ".toList ++
      Text.ofNat r.records.length ++ " endpoints\n\n".toList ++
      Report.render color r.probed r.records r.summary finished

def saved (i : Invocation) (color : Bool) (format : ExportFormat) (path : Text) : Text :=
  if i.silent then []
  else
    '\n' :: markText color .green '✓' ++ ' ' :: format.name.toList ++ " saved to ".toList ++
      path ++ ['\n']

def unsaved (color : Bool) (path cause : Text) : Text :=
  failure color ["could not write ".toList ++ path, "Export failed: ".toList ++ cause, cause]

structure Surroundings where
  site : Web.Site
  working : Place
  home : Text
  files : Files
  finished : Text

def save (i : Invocation) (s : Surroundings) (r : RunReport) (output : Text) : Files × Ending :=
  match i.out with
  | none => (s.files, ⟨output, [], 0⟩)
  | some out =>
    let path := expandHome s.home out
    match s.files.exportRecords s.working path r.records with
    | (files, .ok format) => (files, ⟨output ++ saved i false format path, [], 0⟩)
    | (files, .error e) => (files, ⟨output, unsaved false path e.message, 1⟩)

def run [Environment] (arguments : List Text) (s : Surroundings) : Files × Ending :=
  match read arguments with
  | .error e => (s.files, e.ending)
  | .ok i =>
    let output := opening i false
    match (Run.execute i.options s.site).result with
    | .error e => (s.files, ⟨output, failure false (causes e), exitStatus e⟩)
    | .ok r => save i s r (output ++ results i false s.finished r)

/-- Some rules of the list, enough to run the program; a last label is a suffix by itself.
What is proved holds of any list. -/
def suffixRules : List Domain.Rule :=
  ["co.uk", "uk.com", "github.io", "blogspot.com", "*.ck", "!www.ck", "or.jp",
    "*.kawasaki.jp", "!city.kawasaki.jp", "s3.amazonaws.com", "appspot.com", "herokuapp.com",
    "gov.au", "ca.us", "k12.ca.us", "com.br"].map fun s => Domain.Rule.read s.toList

/-- What the program runs in when nothing else is given. -/
@[reducible] instance defaultEnvironment : Environment := .ofRules suffixRules

end EndpointScout.CommandLine
