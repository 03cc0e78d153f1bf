import EndpointScout.Candidate.Store
import EndpointScout.Text.Blank
import EndpointScout.Text.LetterCase

/-! The paths that a robots file disallows. -/
namespace EndpointScout.Robots

/-- Letters that differ in case alone become one; the long s is an s. -/
def foldChar (c : Char) : Char := if c.toNat == 0x17F then 's' else Text.asciiLowerChar c

def afterName? (t : Text) : Option Text :=
  let name := "disallow:".toList
  if (t.take name.length).map foldChar == name then some (t.drop name.length) else none

/-- The path of a directive at the front of the text. It begins with a slash on the same
line and ends at white space. -/
def directive? (t : Text) : Option Text :=
  match (afterName? t).map fun r => r.dropWhile fun c => c == ' ' || c == '\t' with
  | some ('/' :: r) => some ('/' :: r.takeWhile fun c => !Text.isBlank c)
  | _ => none

def directiveLength (t path : Text) : Nat :=
  let afterName := t.drop 9
  9 + (afterName.takeWhile fun c => c == ' ' || c == '\t').length + path.length

def pathsGo (skip : Nat) : Text → List Text
  | [] => []
  | c :: t =>
    match skip with
    | n + 1 => pathsGo n t
    | 0 =>
      match directive? (c :: t) with
      | some path => path :: pathsGo (directiveLength (c :: t) path - 1) t
      | none => pathsGo 0 t

def paths (t : Text) : List Text := pathsGo 0 t

def candidates (t : Text) : List Candidate :=
  (paths t).map fun p => { value := p, kind := .relative, source := .robots }

end EndpointScout.Robots
