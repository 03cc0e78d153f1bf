import EndpointScout.Candidate.Store
import EndpointScout.Domain.Target
import EndpointScout.Text.Blank
import EndpointScout.Xml.Event
import EndpointScout.Xml.Reference

/-! The locations that a sitemap lists. -/
namespace EndpointScout.Sitemap

def isLocation (name : Text) : Bool := Xml.localName name == "loc".toList

/-- The locations in a sequence of events; `current` is the text of the open one. A
broken piece of text is left out. -/
def locationsGo (current : Option Text) : List Xml.Event → List Text
  | [] => []
  | e :: es =>
    match e with
    | .opening name => locationsGo (if isLocation name then some [] else current) es
    | .closing name =>
      if isLocation name then
        let found := Text.trim (current.getD [])
        if found.isEmpty then locationsGo none es else found :: locationsGo none es
      else locationsGo current es
    | .text raw => locationsGo (current.map (· ++ (Xml.unescape? raw).getD [])) es
    | .data raw => locationsGo (current.map (· ++ raw)) es
    | .other => locationsGo current es

def locations (t : Text) : List Text := locationsGo none (Xml.events t)

def candidates [SuffixList] (target : Target) (t : Text) : List Candidate :=
  ((locations t).filter target.matchesText).map fun l =>
    { value := l, kind := .external, source := .sitemap }

end EndpointScout.Sitemap
