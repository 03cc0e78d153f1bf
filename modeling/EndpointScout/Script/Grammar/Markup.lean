import EndpointScout.Script.Grammar.Function

/-! Elements written as markup inside expressions. -/
namespace EndpointScout.Script

namespace Grammar

open Build

def markupName (kind : String) : Build Unit := do
  gap
  let t ← here
  let isPlain (c : Char) : Bool := c.isAlphanum || c == '_' || c == '$'
  let r := t.dropWhile isPlain
  if r.head? == some '-' && (t.head?.map fun c => isPlain c && !c.isDigit).getD false then
    let isRest (c : Char) : Bool := isPlain c || c == '-'
    setRest (r.dropWhile isRest)
    leaf kind (t.takeWhile isPlain ++ r.takeWhile isRest)
  else wordLeaf kind

def namespacedName : Build Unit := do
  mapLast (Syntax.withKind "identifier")
  around "jsx_namespace_name" do
    token ":"
    markupName "identifier"

def elementName (fuel : Nat) : Build Unit := do
  markupName "identifier"
  if ← next ":" then namespacedName
  else many fuel do
    role .object
    around "member_expression" do
      token "."
      wordLeaf "property_identifier"
      role .property

def closed? (mark : Text) (p : Char → Bool) (most : Nat) (t : Text) : Option (Text × Text) :=
  let ds := t.takeWhile p
  match t.dropWhile p with
  | ';' :: r => if ds.isEmpty || most < ds.length then none else some (mark ++ ds ++ [';'], r)
  | _ => none

def reference? (t : Text) : Option (Text × Text) :=
  match t with
  | '&' :: '#' :: x :: r =>
    if x == 'x' || x == 'X' then closed? ['&', '#', x] Text.isHexDigit 6 r
    else closed? ['&', '#'] Text.isDigit 5 (x :: r)
  | '&' :: r => closed? ['&'] Char.isAlpha 30 r
  | _ => none

def reference : Build Unit := do
  match reference? (← here) with
  | some (s, r) => setRest r; leaf "html_character_reference" s
  | none => failure

def attributeText (quote : Char) : Text → Text → Text × Text
  | acc, '&' :: c :: t =>
    if c == '#' || c.isAlpha then (acc.reverse, '&' :: c :: t)
    else attributeText quote ('&' :: acc) (c :: t)
  | acc, ['&'] => (acc.reverse, ['&'])
  | acc, c :: t =>
    if c == quote then (acc.reverse, c :: t) else attributeText quote (c :: acc) t
  | acc, [] => (acc.reverse, [])

def attributePiece (quote : Char) : Build Bool := do
  let (part, r) := attributeText quote [] (← here)
  if !part.isEmpty then
    setRest r
    leaf "string_fragment" part
    return true
  else match r with
    | [] => failure
    | c :: r =>
      if c == quote then setRest r; return false
      else reference; return true

def markupExpression (g : Grammar) : Build Unit := node "jsx_expression" do
  token "\x7b"
  if ← next "\x7d" then pure ()
  else if ← next "..." then spread g
  else g.inside .expressions
  token "\x7d"

def attributeValue (g : Grammar) : Build Unit := do
  match ← ahead with
  | '"' :: _ => node "string" do token "\""; loop g.fuel (attributePiece '"')
  | '\'' :: _ => node "string" do token "'"; loop g.fuel (attributePiece '\'')
  | '\x7b' :: _ => markupExpression g
  | _ => g.inside .markup

def markupAttribute (g : Grammar) : Build Unit := do
  if ← next "\x7b" then markupExpression g
  else
    node "jsx_attribute" do
      markupName "property_identifier"
      if ← next ":" then namespacedName
      if ← next "=" then
        token "="
        attributeValue g

/-- Whether text between elements counts: lines of blanks do not. -/
def textCounts : Bool → Text → Bool
  | _, [] => false
  | afterLine, c :: t =>
    if c == '\n' then textCounts true t
    else if afterLine && Semicolon.isSpace c then textCounts true t
    else true

def markupText : Build Unit := do
  let t ← here
  let isText (c : Char) : Bool := !"<>\x7b\x7d&".toList.contains c
  let part := t.takeWhile isText
  if textCounts false part then
    setRest (t.dropWhile isText)
    leaf "jsx_text" part

def markupChild (g : Grammar) : Build Bool := do
  markupText
  gap
  match ← here with
  | '<' :: t =>
    if t.head? == some '/' then return false
    else g.inside .markup; return true
  | '\x7b' :: _ => markupExpression g; return true
  | '&' :: _ => reference; return true
  | _ => failure

def markup (g : Grammar) : Build Unit := do
  let closed ← node "jsx_opening_element" do
    token "<"
    if ← next ">" then token ">"; return false
    else
      elementName g.fuel
      loop g.fuel do
        if (← next ">") || (← next "/>") then return false
        else markupAttribute g; return true
      if ← next "/>" then token "/>"; return true
      else token ">"; return false
  if closed then mapLast (Syntax.withKind "jsx_self_closing_element")
  else
    around "jsx_element" do
      loop g.fuel (markupChild g)
      node "jsx_closing_element" do
        token "</"
        if !(← next ">") then elementName g.fuel
        token ">"

end Grammar

end EndpointScout.Script
