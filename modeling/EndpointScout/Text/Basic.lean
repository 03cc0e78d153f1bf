/-! Text as a list of code points, with the cuts, searches and decimal
writing shared by all other modules. -/
namespace EndpointScout

/-- A text is the list of its code points. -/
abbrev Text := List Char

instance : LawfulBEq Text := inferInstance

namespace Text

def dropEndWhile (p : Char → Bool) (t : Text) : Text :=
  (t.reverse.dropWhile p).reverse

def trimWhile (p : Char → Bool) (t : Text) : Text :=
  dropEndWhile p (t.dropWhile p)

def startsWith (t start : Text) : Bool := start.isPrefixOf t

def endsWith (t tail : Text) : Bool := tail.isSuffixOf t

def dropPrefix? : Text → Text → Option Text
  | t, [] => some t
  | [], _ :: _ => none
  | c :: t, d :: start => if c = d then dropPrefix? t start else none

def dropSuffix? (t tail : Text) : Option Text :=
  (dropPrefix? t.reverse tail.reverse).map List.reverse

def occursIn (part : Text) : Text → Bool
  | [] => part.isEmpty
  | c :: t => part.isPrefixOf (c :: t) || occursIn part t

def splitAt (separator : Char) : Text → List Text
  | [] => [[]]
  | c :: t =>
    if c = separator then [] :: splitAt separator t
    else match splitAt separator t with
      | [] => [[c]]
      | piece :: pieces => (c :: piece) :: pieces

def cutAt? (separator : Char) : Text → Option (Text × Text)
  | [] => none
  | c :: t =>
    if c = separator then some ([], t)
    else (cutAt? separator t).map fun p => (c :: p.1, p.2)

def join (glue : Text) : List Text → Text
  | [] => []
  | [t] => t
  | t :: ts => t ++ glue ++ join glue ts

def isDigit (c : Char) : Bool := '0' ≤ c && c ≤ '9'

def isLetter (c : Char) : Bool := ('a' ≤ c && c ≤ 'z') || ('A' ≤ c && c ≤ 'Z')

def isAlphanumeric (c : Char) : Bool := isLetter c || isDigit c

def isAscii (c : Char) : Bool := c.toNat < 128

def hexValue? (c : Char) : Option Nat :=
  if isDigit c then some (c.toNat - '0'.toNat)
  else if 'a' ≤ c && c ≤ 'f' then some (c.toNat - 'a'.toNat + 10)
  else if 'A' ≤ c && c ≤ 'F' then some (c.toNat - 'A'.toNat + 10)
  else none

def isHexDigit (c : Char) : Bool := (hexValue? c).isSome

def digitChar (n : Nat) : Char := Char.ofNat ('0'.toNat + n)

def decimalGo : Nat → Nat → Text → Text
  | 0, _, acc => acc
  | fuel + 1, n, acc =>
    let acc := digitChar (n % 10) :: acc
    if n < 10 then acc else decimalGo fuel (n / 10) acc

def ofNat (n : Nat) : Text := decimalGo (n + 1) n []

def digitsValue (acc : Nat) (t : Text) : Nat :=
  t.foldl (fun n c => n * 10 + (c.toNat - '0'.toNat)) acc

def toNat? (t : Text) : Option Nat :=
  if !t.isEmpty && t.all isDigit then some (digitsValue 0 t) else none

def hexChar (upper : Bool) (n : Nat) : Char :=
  if n < 10 then digitChar n
  else Char.ofNat ((if upper then 'A'.toNat else 'a'.toNat) + (n - 10))

def hexPadded (upper : Bool) : Nat → Nat → Text
  | 0, _ => []
  | width + 1, n => hexPadded upper width (n / 16) ++ [hexChar upper (n % 16)]

def hexGo : Nat → Nat → Text → Text
  | 0, _, acc => acc
  | fuel + 1, n, acc =>
    let acc := hexChar false (n % 16) :: acc
    if n < 16 then acc else hexGo fuel (n / 16) acc

def hex (n : Nat) : Text := hexGo (n + 1) n []

end Text

end EndpointScout
