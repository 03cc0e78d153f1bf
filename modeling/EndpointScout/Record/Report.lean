import EndpointScout.Record.Basic
import EndpointScout.Crawl.Summary

/-! What a terminal shows: one line per record, and a summary. -/
namespace EndpointScout

inductive Style where
  | bold
  | red
  | green
  | yellow
  | blue
  | magenta
  | gray
deriving Repr, DecidableEq

def Style.code : Style → Nat
  | bold => 1
  | red => 31
  | green => 32
  | yellow => 33
  | blue => 34
  | magenta => 35
  | gray => 90

def Style.paint (s : Style) (color : Bool) (t : Text) : Text :=
  if color then '\x1b' :: '[' :: Text.ofNat s.code ++ 'm' :: t ++ "\x1b[0m".toList else t

namespace Report

def kindTag (color : Bool) : Kind → Text
  | .relative => Style.green.paint color "REL".toList
  | .external => Style.red.paint color "EXT".toList

def statusStyle (code : Nat) : Style :=
  if 200 ≤ code && code ≤ 299 then .green
  else if 300 ≤ code && code ≤ 399 then .blue
  else if code == 401 || code == 403 then .yellow
  else if 400 ≤ code && code ≤ 499 then .red
  else if 500 ≤ code && code ≤ 599 then .magenta
  else .gray

def badge (color : Bool) : Option UInt16 → Text
  | none => Style.gray.paint color "[?]".toList
  | some s => (statusStyle s.toNat).paint color ('[' :: Text.ofNat s.toNat ++ [']'])

def line (color probed : Bool) (r : Record) : Text :=
  kindTag color r.kind ++ ' ' :: r.resolvedUrl ++ ' ' ::
    Style.gray.paint color ('(' :: r.source.name.toList ++ [')']) ++
    (if probed then ' ' :: badge color r.status else [])

def divider : Text := List.replicate 52 '━'

def count (label : String) (n : Nat) : Text :=
  "  ".toList ++ label.toList ++ ": ".toList ++ Text.ofNat n ++ ['\n']

def render (color probed : Bool) (records : List Record) (s : CrawlSummary) (finished : Text) :
    Text :=
  (records.flatMap fun r => line color probed r ++ ['\n']) ++
    '\n' :: divider ++ "\n\n".toList ++
    Style.bold.paint color "# Summary:".toList ++ ['\n'] ++
    count "Pages visited" s.pagesVisited ++
    "  Scripts parsed: ".toList ++ Text.ofNat s.scriptsParsed ++ '/' :: Text.ofNat s.scriptsFound ++
    ['\n'] ++
    (if s.parseTimeouts > 0 then count "Parser timeouts" s.parseTimeouts else []) ++
    count "Endpoints found" records.length ++
    (if probed then
      count "Reachable" (records.countP fun r => r.reachable == some true)
    else []) ++
    "  Finished at: ".toList ++ finished ++ ['\n']

end Report

end EndpointScout
