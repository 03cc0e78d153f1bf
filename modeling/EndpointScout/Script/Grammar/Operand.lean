import EndpointScout.Script.Grammar.Object

/-! Operands: primary expressions with the members, calls and marks after them. -/
namespace EndpointScout.Script

namespace Grammar

open Build

def operandWords : List Text :=
  ["function", "class", "new", "typeof", "void", "delete", "await", "yield", "this", "super",
    "null", "true", "false", "undefined", "import"].map String.toList

def arguments (g : Grammar) : Build Unit := node "arguments" do
  token "("
  sparse g.fuel ")" do
    if ← next "..." then spread g else g.inside .expression

def templateString (g : Grammar) : Build Unit :=
  template g.fuel "template_string" do
    node "template_substitution" do
      exact "$\x7b"
      g.inside .expressions
      token "\x7d"

def parenthesized (g : Grammar) : Build Unit := node "parenthesized_expression" do
  token "("
  g.inside .expressions
  if g.isTyped then
    if ← next ":" then
      node "type_annotation" do
        token ":"
        g.inside .type
  token ")"

/-- Whether the braces here begin with a name and a colon, as a labelled statement and
an object both may. -/
def looksLabelled : Build Bool := do
  match ← ahead with
  | '\x7b' :: t =>
    match Lexeme.word? (afterGap t) with
    | some (_, r) => return (afterGap r).head? == some ':'
    | none => return false
  | _ => return false

def statementWords : List Text :=
  ["if", "for", "while", "do", "with", "switch", "try", "break", "continue", "return", "throw",
    "debugger", "import", "var", "const", "function", "class"].map String.toList

def looksObject : Build Bool := do
  match ← ahead with
  | '\x7b' :: t =>
    return !statementWords.contains (((Lexeme.word? (afterGap t)).map (·.1)).getD [])
  | _ => return false

/-- Braces that are a block or the beginning of an expression. A block, unless a label in
them could as well be a property. -/
def blockOr (g : Grammar) (p : Build Unit) : Build Unit := do
  if ← looksLabelled then either p (g.inside .block)
  else if ← looksObject then either (g.inside .block) p
  else g.inside .block

def arrowBody (g : Grammar) : Build Unit := do
  if ← next "\x7b" then blockOr g (g.same .expression) else g.same .expression

def arrowTail (g : Grammar) : Build Unit := do
  token "=>"
  arrowBody g

def mayBeParameters (g : Grammar) (t : Text) : Bool :=
  match t with
  | '<' :: _ => g.isTyped
  | '(' :: r =>
    match afterGap r with
    | [] => false
    | c :: r =>
      c == ')' || c == '[' || c == '\x7b' || (c == '@' && g.isTyped) ||
        Text.startsWith (c :: r) "...".toList || (Lexeme.word? (c :: r)).isSome
  | _ => false

def arrowFunction (g : Grammar) : Build Unit := node "arrow_function" do
  let w ← wordAhead
  let t ← ahead
  let after := afterGap (t.drop w.length)
  if w.isEmpty then
    if mayBeParameters g t then
      g.inside .signature
      arrowTail g
    else failure
  else if Text.startsWith after "=>".toList then
    if operandWords.contains w then failure
    wordLeaf "identifier"
    arrowTail g
  else if w == "async".toList then
    discard takeWord
    if mayBeParameters g after then
      g.inside .signature
      arrowTail g
    else
      if operandWords.contains (← wordAhead) then failure
      wordLeaf "identifier"
      arrowTail g
  else failure

def functionExpression (g : Grammar) : Build Unit := do
  let generator ← node "function_expression" do
    optionalWord ["async"]
    keyword "function"
    let generator ← attempt (token "*")
    if ← nextIsWord then wordLeaf "identifier"
    g.inside .signature
    g.inside .block
    return generator
  if generator then mapLast (Syntax.withKind "generator_function")

def classTail (g : Grammar) : Build Unit := do
  keyword "class"
  let w ← wordAhead
  let taken := w.isEmpty || w == "extends".toList || (g.isTyped && w == "implements".toList)
  if !taken then
    wordLeaf (if g.isTyped then "type_identifier" else "identifier")
  if g.isTyped then
    if ← next "<" then g.inside .typeParameters
  let heritage ← wordAhead
  if heritage == "extends".toList || (g.isTyped && heritage == "implements".toList) then
    node "class_heritage" do
      if g.isTyped then
        if heritage == "extends".toList then
          node "extends_clause" do
            keyword "extends"
            separated g.fuel "," (g.inside .extended)
        if ← nextWord "implements" then
          node "implements_clause" do
            keyword "implements"
            separated g.fuel "," (g.inside .type)
      else
        keyword "extends"
        g.inside .expression
  g.inside .classBody

def classExpression (g : Grammar) : Build Unit := node "class" do
  decorators g
  classTail g

/-- Whether a type argument list here is an expression's own: nothing that could be an
operand follows it. -/
def endsInstantiation (g : Grammar) : Build Bool := do
  if ← canEnd g.dialect true then return true
  match ← ahead with
  | [] => return true
  | c :: _ => return ")],;:?.=&|*%^!\x7d".toList.contains c

def nameTail (g : Grammar) : Build Bool := do
  let t ← ahead
  match t with
  | '?' :: '.' :: r =>
    if (r.head?.map Text.isDigit).getD false then return false
    else attempt do
      role .object
      if (afterGap r).head? == some '[' then
        around "subscript_expression" do
          token "?."
          leaf "optional_chain" []
          token "["
          g.inside .expressions
          role .index
          token "]"
      else
        around "member_expression" do
          token "?."
          leaf "optional_chain" []
          if ← next "#" then privateName else wordLeaf "property_identifier"
          role .property
  | '.' :: _ =>
    attempt do
      role .object
      around "member_expression" do
        token "."
        if ← next "#" then privateName else wordLeaf "property_identifier"
        role .property
  | '[' :: _ =>
    attempt do
      role .object
      around "subscript_expression" do
        token "["
        g.inside .expressions
        role .index
        token "]"
  | '\x60' :: _ =>
    attempt do
      role .function
      around "call_expression" do
        templateString g
        role .arguments
  | '!' :: r =>
    if g.isTyped && r.head? != some '=' then
      if ← g.ended then return false
      else
        around "non_null_expression" (token "!")
        return true
    else return false
  | _ => return false

def wordOperand (g : Grammar) (w after : Text) : Build Unit :=
  match String.ofList w with
  | "function" => functionExpression g
  | "class" => classExpression g
  | "this" => wordLeaf "this"
  | "super" => wordLeaf "super"
  | "null" => wordLeaf "null"
  | "true" => wordLeaf "true"
  | "false" => wordLeaf "false"
  | "undefined" => wordLeaf "undefined"
  | "import" =>
    if after.head? == some '.' then
      node "meta_property" do
        keyword "import"
        token "."
        keyword "meta"
    else if after.head? == some '(' then wordLeaf "import"
    else failure
  | "async" =>
    if ((Lexeme.word? after).map fun p => p.1 == "function".toList).getD false then
      functionExpression g
    else wordLeaf "identifier"
  | _ => if operandWords.contains w then failure else wordLeaf "identifier"

def primary (g : Grammar) : Build Unit := do
  match ← ahead with
  | [] => failure
  | '(' :: _ => parenthesized g
  | '[' :: _ => literalOrPattern g
  | '\x7b' :: _ => literalOrPattern g
  | '"' :: _ => Build.string g.fuel
  | '\'' :: _ => Build.string g.fuel
  | '\x60' :: _ => templateString g
  | '/' :: _ => regex
  | '@' :: _ => classExpression g
  | '#' :: _ =>
    privateName
    if ← nextWord "in" then pure () else failure
  | c :: t =>
    if Text.isDigit c || c == '.' then Build.number
    else match Lexeme.word? (c :: t) with
      | none => failure
      | some (w, r) => wordOperand g w (afterGap r)

def newGo (g : Grammar) : Nat → Build Unit
  | 0 => failure
  | fuel + 1 => do
    let w ← wordAhead
    let after := afterGap ((← ahead).drop w.length)
    if after.head? == some '.' then
      node "meta_property" do
        keyword "new"
        token "."
        keyword "target"
    else
      node "new_expression" do
        keyword "new"
        if ← nextWord "new" then newGo g fuel else primary g
        loop g.fuel (nameTail g)
        if g.isTyped then
          if ← next "<" then optional (g.inside .typeArguments)
        if ← next "(" then arguments g

def callTail (g : Grammar) : Build Unit := do
  role .function
  around "call_expression" do
    arguments g
    role .arguments

def typedTail (g : Grammar) : Build Bool :=
  attempt do
    if ← nextOnly "<" ["<=", "<<="] then pure () else failure
    either
      (do
        role .function
        around "call_expression" do
          g.inside .typeArguments
          arguments g
          role .arguments)
      (around "instantiation_expression" do
        g.inside .typeArguments
        if ← endsInstantiation g then pure () else failure)

def operandTail (g : Grammar) : Build Unit := loop g.fuel do
  if ← nameTail g then return true
  else
    let t ← ahead
    match t with
    | '(' :: _ => attempt (callTail g)
    | '?' :: '.' :: _ =>
      attempt do
        role .function
        around "call_expression" do
          token "?."
          if g.isTyped then
            if ← next "<" then g.inside .typeArguments
          arguments g
          role .arguments
    | '<' :: _ => if g.isTyped then typedTail g else return false
    | _ => return false

def operand (g : Grammar) : Build Unit := do
  if ← nextWord "new" then newGo g g.fuel else primary g
  operandTail g

def extended (g : Grammar) : Build Unit :=
  either
    (do
      operand g
      if (← lastKind) == "instantiation_expression" then
        modify fun c =>
          match c.children with
          | s :: outer => ⟨c.rest, s.children.reverse ++ outer⟩
          | [] => c
      else if ← next "<" then g.inside .typeArguments
      if (← next "\x7b") || (← next ",") || (← nextWord "implements") then pure () else failure)
    (g.inside .expression)

def targets : List String :=
  ["identifier", "undefined", "member_expression", "subscript_expression", "non_null_expression"]

def targetName (g : Grammar) : Build Unit := do
  let w ← wordAhead
  if w == "this".toList then wordLeaf "this"
  else if w == "super".toList then wordLeaf "super"
  else if w == "undefined".toList then wordLeaf "undefined"
  else if operandWords.contains w then failure
  else wordLeaf "identifier"
  loop g.fuel (nameTail g)
  if targets.contains (← lastKind) then pure () else failure

def pattern (g : Grammar) : Build Unit := do
  let target : Build Unit := do
    if (← next "[") || (← next "\x7b") then destructuring g else targetName g
  if ← next "..." then
    node "rest_pattern" do
      token "..."
      target
  else target

end Grammar

end EndpointScout.Script
