import EndpointScout.Url.IdnaTable
import EndpointScout.Url.LabelTable
import EndpointScout.Url.Punycode
import EndpointScout.Text.Composition
import EndpointScout.Text.LetterCase

/-! International host names: every name that is allowed has one ASCII form. -/
namespace EndpointScout.Url.Idna

def isDenied (c : Char) : Bool :=
  c.toNat ≤ 0x20 || c.toNat == 0x7F || "%#/:<>?@[\\]^|".toList.contains c

def mapChar? (c : Char) : Option Text :=
  let n := c.toNat
  if Text.isAscii c then some [Text.asciiLowerChar c]
  else if Text.CodeTable.mem keptRanges n then some [c]
  else if Text.CodeTable.mem droppedRanges n then some []
  else match Text.CodeTable.shifted? replacementShifts n with
    | some m => some [Char.ofNat m]
    | none => (Text.CodeTable.image? replacements n).map (·.map Char.ofNat)

def mapText? : Text → Option Text
  | [] => some []
  | c :: t => do
    let m ← mapChar? c
    let ms ← mapText? t
    some (m ++ ms)

/-- Direction class by the numbers of the table; 0 is left-to-right. -/
def direction (c : Char) : Nat :=
  let n := c.toNat
  if Text.isLetter c then 0
  else if Text.isDigit c then 4
  else if c == '-' || c == '+' then 5
  else if c == ',' || c == '.' || c == '/' || c == ':' then 6
  else if c == '#' || c == '$' || c == '%' then 7
  else if Text.isAscii c then 8
  else (Text.CodeTable.class? directionClasses n).getD 0

def lastDirection (ds : List Nat) : Nat := ((ds.reverse.dropWhile (· == 10)).head?).getD 10

def hasOneDirection (label : Text) : Bool :=
  let ds := label.map direction
  match ds.head? with
  | none => true
  | some d =>
    if d == 1 || d == 2 then
      ds.all (· != 0) && [1, 2, 3, 4].contains (lastDirection ds) &&
        !(ds.contains 3 && ds.contains 4)
    else if d == 0 then
      ds.all (fun e => [0, 4, 5, 6, 7, 8, 9, 10].contains e) && [0, 4].contains (lastDirection ds)
    else false

def isRightToLeft (label : Text) : Bool :=
  label.any fun c => [1, 2, 3].contains (direction c)

def joining (c : Char) : Nat := (Text.CodeTable.class? joiningClasses c.toNat).getD 0

def joiningAfter (t : Text) : Nat := (((t.map joining).dropWhile (· == 1)).head?).getD 0

/-- A joiner follows a virama, or, if it keeps letters apart, stands between two
letters that would join. `before` is what precedes, last character first. -/
def joinersFit (before : Text) : Text → Bool
  | [] => true
  | c :: t =>
    let n := c.toNat
    let afterVirama := (before.head?.map fun b => Text.combiningClass b.toNat == 9).getD false
    let fits :=
      if n == 0x200D then afterVirama
      else if n == 0x200C then
        afterVirama || ([2, 4].contains (joiningAfter before) && [3, 4].contains (joiningAfter t))
      else true
    fits && joinersFit (c :: before) t

def isMark (c : Char) : Bool := Text.CodeTable.mem markRanges c.toNat

def isStable (label : Text) : Bool := label.all fun c => mapChar? c == some [c]

def isWellFormed (label : Text) : Bool :=
  isStable label && Text.compose label == label &&
    !((label.head?.map isMark).getD false) && joinersFit [] label

def marker : Text := "xn--".toList

def labelForms? (label : Text) : Option (Text × Text) :=
  if !isStable label then none
  else match Text.dropPrefix? label marker with
  | some code =>
    if label.all Text.isAscii then do
      let decoded ← Punycode.decode? code
      if decoded.all Text.isAscii || decoded.any isDenied || !isWellFormed decoded then none
      else some (decoded, label)
    else none
  | none =>
    if label.all Text.isAscii then some (label, label)
    else if isWellFormed label then (Punycode.encode? label).map fun code => (label, marker ++ code)
    else none

def toAscii? (name : Text) : Option Text := do
  let mapped ← mapText? name
  let labels := Text.splitAt '.' (Text.compose mapped)
  let forms ← labels.mapM labelForms?
  if (forms.map (·.1)).any isRightToLeft && !(forms.map (·.1)).all hasOneDirection then none
  else
    let ascii := Text.join ['.'] (forms.map (·.2))
    if ascii.any isDenied then none else some ascii

end EndpointScout.Url.Idna
