import EndpointScout.Script.Syntax
import EndpointScout.Text.Blank

/-! Building syntax trees from the front of a text. A step takes tokens from the
text and adds nodes to the open node; it fails where no tree exists. -/
namespace EndpointScout.Script

/-- What is left of the text, and the children of the open node, last first. -/
structure Cursor where
  rest : Text
  children : List Syntax

abbrev Build := StateT Cursor Option

namespace Build

def isSpace (c : Char) : Bool :=
  Text.isBlank c || c.toNat == 0xFEFF || c.toNat == 0x2060 || c.toNat == 0x200B

def isLineEnd (c : Char) : Bool :=
  c == '\n' || c == '\r' || c.toNat == 0x2028 || c.toNat == 0x2029

def blockCommentGo (acc : Text) : Text → Option Text
  | [] => none
  | '*' :: '/' :: _ => some (acc.reverse ++ ['*', '/'])
  | c :: t => blockCommentGo (c :: acc) t

def blockComment? (t : Text) : Option Text := blockCommentGo [] t

def comment? (t : Text) : Option Text :=
  match t with
  | '/' :: '/' :: r => some ('/' :: '/' :: r.takeWhile fun c => !isLineEnd c)
  | '/' :: '*' :: r => (blockComment? r).map fun body => '/' :: '*' :: body
  | _ => none

def htmlComment? (t : Text) : Option Text :=
  let ends (c : Char) : Bool := c == '\n' || c.toNat == 0x2028 || c.toNat == 0x2029
  if Text.startsWith t "<!--".toList || Text.startsWith t "-->".toList then
    some (t.takeWhile fun c => !ends c)
  else none

def commentNode? (html : Bool) (t : Text) : Option Syntax :=
  match comment? t with
  | some c => some (.node none "comment" c [])
  | none =>
    if html then (htmlComment? t).map fun c => .node none "html_comment" c [] else none

/-- Skips spaces and comments, first as many characters as are left of a comment; the
comments are returned last first. -/
def gapGo (html : Bool) : List Syntax → Nat → Text → List Syntax × Text
  | cs, _, [] => (cs, [])
  | cs, n + 1, _ :: t => gapGo html cs n t
  | cs, 0, c :: t =>
    if isSpace c then gapGo html cs 0 t
    else match commentNode? html (c :: t) with
      | some s => gapGo html (s :: cs) (s.text.length - 1) t
      | none => (cs, c :: t)

def afterGap (t : Text) : Text := (gapGo false [] 0 t).2

def gap : Build Unit := modify fun c =>
  let (cs, t) := gapGo false c.children 0 c.rest
  ⟨t, cs⟩

/-- As `gap`, where a statement or an operand begins: there, markers also make comments. -/
def startGap : Build Unit := modify fun c =>
  let (cs, t) := gapGo true c.children 0 c.rest
  ⟨t, cs⟩

def ahead : Build Text := do return afterGap (← get).rest

def here : Build Text := do return (← get).rest

def setRest (t : Text) : Build Unit := modify fun c => ⟨t, c.children⟩

def push (s : Syntax) : Build Unit := modify fun c => ⟨c.rest, s :: c.children⟩

def leaf (kind : String) (text : Text) : Build Unit := push (.node none kind text [])

def exact (s : String) : Build Unit := do
  match Text.dropPrefix? (← here) s.toList with
  | some t => setRest t
  | none => failure

def token (s : String) : Build Unit := do
  gap
  exact s

def next (s : String) : Build Bool := do return Text.startsWith (← ahead) s.toList

def closeGo (outer : List Syntax) (kind : String) (text : Text) : Build Unit := modify fun c =>
  ⟨c.rest, .node none kind text c.children.reverse :: outer⟩

/-- Builds a node of the children that `body` adds. -/
def node (kind : String) (body : Build α) : Build α := do
  gap
  let outer := (← get).children
  modify fun c => ⟨c.rest, []⟩
  let a ← body
  closeGo outer kind []
  return a

def spelled (kind : String) (body : Build Text) : Build Unit := do
  gap
  let outer := (← get).children
  modify fun c => ⟨c.rest, []⟩
  let text ← body
  closeGo outer kind text

def around (kind : String) (body : Build Unit) : Build Unit := do
  match (← get).children with
  | [] => failure
  | s :: outer =>
    modify fun c => ⟨c.rest, [s]⟩
    body
    closeGo outer kind []

def mapLast (f : Syntax → Syntax) : Build Unit := do
  match (← get).children with
  | [] => failure
  | s :: outer => modify fun c => ⟨c.rest, f s :: outer⟩

def role (f : Field) : Build Unit := mapLast (Syntax.withField f)

def lastKind : Build String := do
  match (← get).children with
  | [] => failure
  | s :: _ => return s.kind

def optional (p : Build Unit) : Build Unit := p <|> pure ()

def attempt (p : Build Unit) : Build Bool := (do p; return true) <|> pure false

def loop : Nat → Build Bool → Build Unit
  | 0, _ => failure
  | fuel + 1, p => do
    if ← p then loop fuel p

def many (fuel : Nat) (p : Build Unit) : Build Unit := loop fuel (attempt p)

def separated (fuel : Nat) (separator : String) (p : Build Unit) : Build Unit := do
  p
  many fuel (do token separator; p)

/-- Items between commas, each of which may be missing, up to the closing token. -/
def sparse (fuel : Nat) (close : String) (item : Build Unit) : Build Unit :=
  loop fuel do
    if ← next close then token close; return false
    else if ← next "," then token ","; return true
    else
      item
      if ← next "," then token ","; return true
      else token close; return false

end Build

end EndpointScout.Script
