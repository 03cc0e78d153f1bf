import EndpointScout.Domain.Target
import EndpointScout.Html.Tables
import EndpointScout.Text.Blank
import EndpointScout.Url.Edit

/-! The scripts that a page loads and the pages that it links to. -/
namespace EndpointScout.Html

def attributeValues (element : String) (name : Text) (page : Text) : List Text :=
  ((Document.read page).order.filter (·.name == element)).filterMap fun e =>
    (e.attributes.find? fun a => a.1 == name).map (·.2)

def scriptSources (page : Text) : List Text := attributeValues "script" "src".toList page

def anchorTargets (page : Text) : List Text := attributeValues "a" "href".toList page

def scriptLink? (base : Url) (source : Text) : Option Text :=
  let source := Text.trim source
  if source.isEmpty then none else (base.join source).toOption.map Url.text

/-- Every script of a page, duplicates included. -/
def scriptLinks (page : Text) (pageUrl : Text) : List Text :=
  match Url.parse pageUrl with
  | .error _ => []
  | .ok base => (scriptSources page).filterMap (scriptLink? base)

/-- What an anchor refers to if it is a page: resolved and without a fragment. -/
def pageLink? (base : Url) (reference : Text) : Option Url :=
  let reference := Text.trim reference
  let isOther := ["javascript:", "mailto:", "tel:", "#"].any fun s =>
    Text.startsWith reference s.toList
  if reference.isEmpty || isOther then none
  else match base.join reference with
    | .error _ => none
    | .ok u =>
      if u.scheme == "http".toList || u.scheme == "https".toList then some u.withoutFragment
      else none

def withoutDuplicates (seen : List Text) : List Text → List Text
  | [] => []
  | l :: ls => if l ∈ seen then withoutDuplicates seen ls else l :: withoutDuplicates (l :: seen) ls

variable [SuffixList]

def pageLinksOf (base : Url) (target : Target) (references : List Text) : List Text :=
  withoutDuplicates []
    (((references.filterMap (pageLink? base)).filter target.matchesUrl).map Url.text)

def pageLinks (page : Text) (pageUrl : Text) (target : Target) : List Text :=
  match Url.parse pageUrl with
  | .error _ => []
  | .ok base => pageLinksOf base target (anchorTargets page)

end EndpointScout.Html
