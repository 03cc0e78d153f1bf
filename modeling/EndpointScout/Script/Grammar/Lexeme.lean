import EndpointScout.Script.Grammar.Build

/-! Words, numbers, strings, templates and regular expressions. -/
namespace EndpointScout.Script

namespace Lexeme

def isPunctuation (c : Char) : Bool := ":;\x60\"'@#.,|^&<=>+-*/\\%?!~()[]\x7b\x7d".toList.contains c

def isWordChar (c : Char) : Bool :=
  if Text.isAlphanumeric c then true
  else !(c.toNat < 0x20 || isPunctuation c || Build.isSpace c)

def wordEscape? (t : Text) : Option (Text × Text) :=
  match t with
  | '\\' :: 'u' :: '\x7b' :: r =>
    let ds := r.takeWhile Text.isHexDigit
    match r.dropWhile Text.isHexDigit with
    | '\x7d' :: rest =>
      if ds.isEmpty then none else some ("\\u\x7b".toList ++ ds ++ ['\x7d'], rest)
    | _ => none
  | '\\' :: 'u' :: a :: b :: c :: d :: rest =>
    if [a, b, c, d].all Text.isHexDigit then some (['\\', 'u', a, b, c, d], rest) else none
  | _ => none

/-- Takes what belongs to a word, first as many characters as are left of an escape. -/
def wordGo : Text → Nat → Text → Text × Text
  | acc, _, [] => (acc.reverse, [])
  | acc, n + 1, c :: t => wordGo (c :: acc) n t
  | acc, 0, c :: t =>
    if isWordChar c then wordGo (c :: acc) 0 t
    else match wordEscape? (c :: t) with
      | some (e, _) => wordGo (c :: acc) (e.length - 1) t
      | none => (acc.reverse, c :: t)

def word? (t : Text) : Option (Text × Text) :=
  match t with
  | [] => none
  | c :: _ =>
    if Text.isDigit c then none
    else match wordGo [] 0 t with
      | ([], _) => none
      | r => some r

def digitsGo (p : Char → Bool) : Text → Text → Text × Text
  | acc, [] => (acc.reverse, [])
  | acc, '_' :: c :: t =>
    if p c then digitsGo p (c :: '_' :: acc) t else (acc.reverse, '_' :: c :: t)
  | acc, c :: t => if p c then digitsGo p (c :: acc) t else (acc.reverse, c :: t)

def digits? (p : Char → Bool) (t : Text) : Option (Text × Text) :=
  match t with
  | c :: r => if p c then some (digitsGo p [c] r) else none
  | [] => none

def exponent? (t : Text) : Option (Text × Text) :=
  match t with
  | e :: r =>
    if e == 'e' || e == 'E' then
      match r with
      | '+' :: ds => (digits? Text.isDigit ds).map fun p => (e :: '+' :: p.1, p.2)
      | '-' :: ds => (digits? Text.isDigit ds).map fun p => (e :: '-' :: p.1, p.2)
      | ds => (digits? Text.isDigit ds).map fun p => (e :: p.1, p.2)
    else none
  | [] => none

def exponent (t : Text) : Text × Text := (exponent? t).getD ([], t)

def isDecimalInteger (t : Text) : Bool :=
  t == ['0'] ||
    ((match t with
      | '0' :: r => r
      | r => r).head?.map fun c => '1' ≤ c && c ≤ '9').getD false

def bigMark (t : Text) : Text × Text :=
  match t with
  | 'n' :: r => (['n'], r)
  | r => ([], r)

def fraction (t : Text) : Text × Text :=
  let (ds, r) := (digits? Text.isDigit t).getD ([], t)
  let (e, r) := exponent r
  (ds ++ e, r)

def prefixed? (t : Text) : Option (Text × Text) :=
  match t with
  | '0' :: m :: r =>
    let based (p : Char → Bool) : Option (Text × Text) := do
      let (ds, r) ← digits? p r
      let (n, r) := bigMark r
      some ('0' :: m :: (ds ++ n), r)
    if m == 'x' || m == 'X' then based Text.isHexDigit
    else if m == 'b' || m == 'B' then based fun c => c == '0' || c == '1'
    else if m == 'o' || m == 'O' then based fun c => '0' ≤ c && c ≤ '7'
    else none
  | _ => none

def decimal? (t : Text) : Option (Text × Text) :=
  match t with
  | '.' :: r => do
    let (ds, r) ← digits? Text.isDigit r
    let (e, r) := exponent r
    some ('.' :: (ds ++ e), r)
  | _ => do
    let (ds, r) ← digits? Text.isDigit t
    match r with
    | '.' :: after =>
      if isDecimalInteger ds then
        let (f, r) := fraction after
        some (ds ++ '.' :: f, r)
      else some (ds, r)
    | 'n' :: after => some (ds ++ ['n'], after)
    | _ =>
      if isDecimalInteger ds then
        let (e, r) := exponent r
        some (ds ++ e, r)
      else some (ds, r)

def number? (t : Text) : Option (Text × Text) := (prefixed? t).orElse fun _ => decimal? t

def escape? (t : Text) : Option (Text × Text) :=
  match t with
  | '\\' :: 'x' :: a :: b :: r =>
    if Text.isHexDigit a && Text.isHexDigit b then some (['\\', 'x', a, b], r) else none
  | '\\' :: 'u' :: _ => wordEscape? t
  | '\\' :: c :: r =>
    let isOctal (d : Char) : Bool := '0' ≤ d && d ≤ '7'
    if c == 'x' then none
    else if isOctal c then
      let more := (r.take 2).takeWhile isOctal
      some ('\\' :: c :: more, r.drop more.length)
    else match r with
      | d :: rest =>
        if (c == '\r' || c == '?') && (d == '\n' || d.toNat == 0x2028 || d.toNat == 0x2029) then
          some (['\\', c, d], rest)
        else some (['\\', c], r)
      | [] => some (['\\', c], [])
  | _ => none

/-- The pattern of a regular expression up to the slash that ends it; a slash in a
character class does not. -/
def patternGo : Bool → Text → Text → Text × Text
  | _, acc, [] => (acc.reverse, [])
  | _, acc, ['\\'] => (acc.reverse, ['\\'])
  | inClass, acc, '\\' :: c :: r =>
    if c == '\n' then (acc.reverse, '\\' :: c :: r) else patternGo inClass (c :: '\\' :: acc) r
  | inClass, acc, c :: r =>
    if c == '\n' || (c == '/' && !inClass) then (acc.reverse, c :: r)
    else patternGo (if inClass then c != ']' else c == '[') (c :: acc) r

def isFlag (c : Char) : Bool := 'a' ≤ c && c ≤ 'z'

def templateGo (acc : Text) : Text → Text × Text
  | [] => (acc.reverse, [])
  | '\x60' :: t => (acc.reverse, '\x60' :: t)
  | '\\' :: t => (acc.reverse, '\\' :: t)
  | '$' :: '\x7b' :: t => (acc.reverse, '$' :: '\x7b' :: t)
  | c :: t => templateGo (c :: acc) t

end Lexeme

namespace Build

def wordAhead : Build Text := do
  return ((Lexeme.word? (← ahead)).map (·.1)).getD []

def nextWord (s : String) : Build Bool := do return (← wordAhead) == s.toList

def takeWord : Build Text := do
  gap
  match Lexeme.word? (← here) with
  | some (w, t) => setRest t; return w
  | none => failure

def keyword (s : String) : Build Unit := do
  if (← takeWord) == s.toList then pure () else failure

def optionalWord (words : List String) : Build Unit := do
  let w ← wordAhead
  if words.any fun s => s.toList == w then discard takeWord else pure ()

def wordLeaf (kind : String) : Build Unit := do
  let w ← takeWord
  leaf kind w

def privateName : Build Unit := do
  token "#"
  match Lexeme.word? (← here) with
  | some (w, t) => setRest t; leaf "private_property_identifier" ('#' :: w)
  | none => failure

def number : Build Unit := do
  gap
  match Lexeme.number? (← here) with
  | some (n, r) => setRest r; leaf "number" n
  | none => failure

def escape : Build Unit := do
  match Lexeme.escape? (← here) with
  | some (e, r) => setRest r; leaf "escape_sequence" e
  | none => failure

def stringPiece (quote : Char) : Build Bool := do
  match ← here with
  | [] => failure
  | c :: t =>
    if c == quote then setRest t; return false
    else if c == '\\' then escape; return true
    else
      let ends (c : Char) : Bool := c == quote || c == '\\' || c == '\r' || c == '\n'
      let part := (c :: t).takeWhile fun c => !ends c
      if part.isEmpty then failure
      else
        setRest ((c :: t).dropWhile fun c => !ends c)
        leaf "string_fragment" part
        return true

def string (fuel : Nat) : Build Unit := node "string" do
  match ← here with
  | '"' :: t => setRest t; loop fuel (stringPiece '"')
  | '\'' :: t => setRest t; loop fuel (stringPiece '\'')
  | _ => failure

def regexPattern : Build Text := do
  let (pattern, r) := Lexeme.patternGo false [] (← here)
  if pattern.isEmpty then failure
  setRest r
  leaf "regex_pattern" pattern
  return pattern

def regexFlags : Build Text := do
  let t ← here
  let flags := t.takeWhile Lexeme.isFlag
  if !flags.isEmpty then
    setRest (t.dropWhile Lexeme.isFlag)
    leaf "regex_flags" flags
  return flags

def regex : Build Unit := spelled "regex" do
  exact "/"
  let pattern ← regexPattern
  exact "/"
  let flags ← regexFlags
  return '/' :: (pattern ++ '/' :: flags)

def templatePiece (hole : Build Unit) : Build Bool := do
  match ← here with
  | [] => failure
  | '\x60' :: t => setRest t; return false
  | '\\' :: _ => escape; return true
  | '$' :: '\x7b' :: _ => hole; return true
  | t =>
    let (part, r) := Lexeme.templateGo [] t
    setRest r
    leaf "string_fragment" part
    return true

/-- A template; `hole` builds what a substitution holds, after its opening. -/
def template (fuel : Nat) (kind : String) (hole : Build Unit) : Build Unit := node kind do
  exact "\x60"
  loop fuel (templatePiece hole)

end Build

end EndpointScout.Script
