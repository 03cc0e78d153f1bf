import EndpointScout.Script.Grammar.Rule

/-! Names of properties, object and array literals, and the patterns that take
values apart. -/
namespace EndpointScout.Script

namespace Grammar

open Build

def propertyName (g : Grammar) : Build Unit := do
  match ← ahead with
  | [] => failure
  | '[' :: _ =>
    node "computed_property_name" do
      token "["
      g.inside .expression
      token "]"
  | '"' :: _ => Build.string g.fuel
  | '\'' :: _ => Build.string g.fuel
  | '#' :: _ => privateName
  | c :: _ =>
    if Text.isDigit c || c == '.' then Build.number else wordLeaf "property_identifier"

def nextIsMember : Build Bool := do
  match ← ahead with
  | [] => return false
  | c :: t =>
    return c == '[' || c == '"' || c == '\'' || c == '#' || c == '*' || Text.isDigit c ||
      (Lexeme.word? (c :: t)).isSome

/-- Takes one of the words if it stands in front of a member; in a class the end of a
line makes it a member of its own. -/
def modifier (g : Grammar) (inClass : Bool) (words : List String) : Build Bool := do
  let w ← wordAhead
  if words.any fun s => s.toList == w then
    attempt do
      discard takeWord
      if inClass then
        if ← canEnd g.dialect false then failure
      if ← nextIsMember then pure () else failure
  else return false

def methodMarks (g : Grammar) (inClass : Bool) : Build Bool := do
  let isAsync ← modifier g inClass ["async"]
  let isAccessor ← modifier g inClass ["get", "set"]
  let isGenerator ← attempt (token "*")
  return isAsync || isAccessor || isGenerator

def nextIsMethod (g : Grammar) : Build Bool := do
  if ← next "(" then return true
  else if g.isTyped then
    if ← next "<" then return true
    else if ← next "?" then
      let t := afterGap ((← ahead).drop 1)
      return t.head? == some '(' || t.head? == some '<'
    else return false
  else return false

def methodTail (g : Grammar) : Build Unit := do
  if g.isTyped then optional (token "?")
  g.inside .signature
  g.inside .block

def renameShorthand (kind : String) : Build Unit := do
  if (← lastKind) == "property_identifier" then mapLast (Syntax.withKind kind) else failure

def decorator (g : Grammar) : Build Unit := node "decorator" do
  token "@"
  if g.isTyped && (← next "(") then
    node "parenthesized_expression" do
      token "("
      g.inside .expression
      token ")"
  else
    wordLeaf "identifier"
    many g.fuel do
      if ← next "." then
        role .object
        around "member_expression" do
          token "."
          wordLeaf "property_identifier"
          role .property
      else failure
    optional do
      role .function
      around "call_expression" do
        if g.isTyped then
          if ← next "<" then g.inside .typeArguments
        g.inside .arguments
        role .arguments

def decorators (g : Grammar) : Build Unit := many g.fuel do
  if ← next "@" then decorator g else failure

def spread (g : Grammar) : Build Unit := node "spread_element" do
  token "..."
  g.inside .expression

def objectMember (g : Grammar) : Build Unit := do
  if ← next "..." then spread g
  else if ← next "@" then
    node "method_definition" do
      decorators g
      discard (modifier g false ["static"])
      discard (methodMarks g false)
      propertyName g
      methodTail g
  else
    let isStatic ← modifier g false ["static"]
    let isMarked ← methodMarks g false
    propertyName g
    if isStatic || isMarked || (← nextIsMethod g) then around "method_definition" (methodTail g)
    else if ← next ":" then
      around "pair" do
        token ":"
        g.inside .expression
    else renameShorthand "shorthand_property_identifier"

def objectLiteral (g : Grammar) : Build Unit := node "object" do
  token "\x7b"
  sparse g.fuel "\x7d" (objectMember g)

def arrayLiteral (g : Grammar) : Build Unit := node "array" do
  token "["
  sparse g.fuel "]" do
    if ← next "..." then spread g else g.inside .expression

def patternWithDefault (g : Grammar) : Build Unit := do
  g.inside .pattern
  if ← nextIsEquals then
    around "assignment_pattern" do
      equalsSign
      g.inside .expression

def objectPatternMember (g : Grammar) : Build Unit := do
  if ← next "..." then g.inside .pattern
  else
    propertyName g
    if ← next ":" then
      around "pair_pattern" do
        token ":"
        patternWithDefault g
    else
      renameShorthand "shorthand_property_identifier_pattern"
      if ← nextIsEquals then
        around "object_assignment_pattern" do
          equalsSign
          g.inside .expression

def destructuring (g : Grammar) : Build Unit := do
  if ← next "[" then
    node "array_pattern" do
      token "["
      sparse g.fuel "]" (patternWithDefault g)
  else
    node "object_pattern" do
      token "\x7b"
      sparse g.fuel "\x7d" (objectPatternMember g)

/-- An object or array literal, or a pattern in front of an equals sign. -/
def literalOrPattern (g : Grammar) : Build Unit :=
  either
    (do
      if ← next "[" then arrayLiteral g else g.inside .object
      if ← nextIsEquals then failure)
    (do
      destructuring g
      if ← nextIsEquals then pure () else failure)

end Grammar

end EndpointScout.Script
