import EndpointScout.Domain.Target
import EndpointScout.Text.Blank
import EndpointScout.Text.LetterCase

/-! Which texts look like endpoints. -/
namespace EndpointScout.Candidate

def minLength : Nat := 5

/-- A text that ends in one of these is a resource or a fragment of code. -/
def noiseEndings : List Text :=
  ["http", "https", "://", "\\", "//", ".js", ".css", ".png", ".svg", ".jpg", ".jpeg",
    ".gif", ".ico", ".webp", ".woff", ".woff2"].map String.toList

def stripNoise (value : Text) : Text :=
  Text.dropEndWhile (· == '?')
    (Text.dropEndWhile (fun c => Text.isBlank c || c == '\\' || c == ';') (Text.trim value))

def isNoise (cleaned : Text) : Bool := noiseEndings.any fun n => Text.endsWith cleaned n

def judged (value : Text) : Text := Text.lower (stripNoise value)

variable [SuffixList]

/-- Paths are endpoints of the site under scan; anything else is a URL whose host has
a registrable domain, the given one if there is one. -/
def isEndpointLike (value : Text) (domain : Option Text) : Bool :=
  if value.length < minLength then false
  else
    let cleaned := judged value
    if isNoise cleaned then false
    else if cleaned.head? == some '/' then true
    else match Url.parse cleaned with
      | .error _ => false
      | .ok u =>
        match Domain.ofUrl? u with
        | none => false
        | some d =>
          match domain with
          | some target => d == target
          | none => true

def cleanLiteral (raw : Text) : Text := Text.dropEndWhile (· == '\\') (Text.trim raw)

end Candidate

def Target.accepts [SuffixList] (t : Target) (value : Text) : Bool :=
  Candidate.isEndpointLike value t.domain

end EndpointScout
