import EndpointScout.Script.Grammar.Lexeme

/-! Semicolons that are not written: where a line ends and the next one cannot
continue it, before a closing brace, and at the end of the text. -/
namespace EndpointScout.Script

namespace Semicolon

def isSpace (c : Char) : Bool := c == ' ' || ('\x09' ≤ c && c ≤ '\x0d')

def isLineFeed (c : Char) : Bool := c == '\n' || c.toNat == 0x2028 || c.toNat == 0x2029

/-- What the text in front of a token allows. -/
inductive Gap where
  | refused (rest : Text)
  | spaces (rest : Text)

def skipGo : Nat → Text → Gap
  | _, [] => .spaces []
  | n + 1, _ :: t => skipGo n t
  | 0, c :: t =>
    if isSpace c then skipGo 0 t
    else if c == '/' then
      match t with
      | '/' :: r => skipGo ((r.takeWhile fun c => !isLineFeed c).length + 1) t
      | '*' :: r =>
        match Build.blockComment? r with
        | some body => skipGo (body.length + 1) t
        | none => .spaces []
      | _ => .refused t
    else .spaces (c :: t)

def continuesInstanceof (t : Text) : Bool :=
  match Text.dropPrefix? t "stanceof".toList with
  | some r => !((r.head?.map Text.isLetter).getD false)
  | none => false

def isInWord (t : Text) : Bool :=
  match t with
  | 'i' :: 'n' :: r => !((r.head?.map Text.isLetter).getD false) || continuesInstanceof r
  | _ => false

def lineBegins (d : Dialect) (afterExpression signature : Bool) (t : Text) : Bool :=
  match t with
  | [] => true
  | '+' :: r => r.head? == some '+'
  | '-' :: r => r.head? == some '-'
  | '!' :: r => r.head? != some '='
  | '.' :: r =>
    match d with
    | .javascript => (r.head?.map Text.isDigit).getD false
    | .typescript => false
  | '(' :: _ => d == .typescript && !afterExpression
  | '[' :: _ => d == .typescript && !afterExpression
  | '\x7b' :: _ => !(d == .typescript && signature)
  | c :: _ => !("\x60,:;*%><=?^|&/".toList.contains c) && !isInWord t

/-- Whether comments at the front, read on past lines up to the first block comment that
no slash follows, hold a line end, and neither a comma nor an equals sign is next. The
count is of characters left of a comment; `broken` tells of line ends so far. -/
def breaksLine (broken : Bool) : Nat → Text → Bool
  | _, [] => true
  | n + 1, _ :: t => breaksLine broken n t
  | 0, c :: t =>
    if isSpace c then breaksLine broken 0 t
    else if c == '/' then
      match t with
      | '/' :: r => breaksLine broken ((r.takeWhile fun c => !isLineFeed c).length + 1) t
      | '*' :: r =>
        match Build.blockComment? r with
        | some body =>
          let broken := broken || body.any isLineFeed
          match r.drop body.length with
          | '/' :: _ => breaksLine broken (body.length + 1) t
          | ',' :: _ => false
          | '=' :: _ => false
          | _ => broken
        | none => true
      | _ => false
    else c != ',' && c != '='

/-- Looks from here to the end of the line, first past as many characters as are left of a
comment. -/
def endsHere (d : Dialect) (afterExpression signature : Bool) : Nat → Text → Bool
  | _, [] => true
  | n + 1, _ :: t => endsHere d afterExpression signature n t
  | 0, c :: t =>
    if c == '\x7d' then
      match d with
      | .javascript => true
      | .typescript => (t.dropWhile isSpace).head? != some ':' || afterExpression
    else if c == '/' then
      if d == .javascript && !afterExpression && breaksLine false 0 (c :: t) then true
      else match Build.comment? (c :: t) with
        | some comment => endsHere d afterExpression signature (comment.length - 1) t
        | none => false
    else if c == '\n' || (d == .javascript && isLineFeed c) then
      match skipGo 0 t with
      | .refused _ => false
      | .spaces r => lineBegins d afterExpression signature r
    else if isSpace c || Build.isSpace c then endsHere d afterExpression signature 0 t
    else false

end Semicolon

namespace Build

def canEnd (d : Dialect) (afterExpression : Bool) : Build Bool := do
  let t ← here
  return Semicolon.endsHere d afterExpression false 0 t

def semicolon (d : Dialect) (afterExpression : Bool) : Build Unit := do
  if ← canEnd d afterExpression then pure () else token ";"

def signatureEnd (d : Dialect) : Build Unit := do
  let t ← here
  if Semicolon.endsHere d false true 0 t then pure () else failure

end Build

end EndpointScout.Script
