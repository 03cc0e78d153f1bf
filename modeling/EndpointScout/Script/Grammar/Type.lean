import EndpointScout.Script.Grammar.Markup

/-! Types of values. -/
namespace EndpointScout.Script

namespace Grammar

open Build

def predefinedTypes : List String :=
  ["any", "number", "boolean", "string", "symbol", "void", "unknown", "never", "object"]

def resultType (g : Grammar) : Build Unit :=
  either (assertion g) (either (predicate g) (g.same .type))

def functionType (g : Grammar) : Build Unit := node "function_type" do
  if ← next "<" then g.inside .typeParameters
  g.inside .parameters
  token "=>"
  resultType g

def constructorType (g : Grammar) : Build Unit := node "constructor_type" do
  optionalWord ["abstract"]
  keyword "new"
  if ← next "<" then g.inside .typeParameters
  g.inside .parameters
  token "=>"
  g.same .type

def nextIsInner : Build Bool := do
  let t := afterGap ((← ahead).drop 1)
  match Lexeme.word? t with
  | some (_, r) => return (afterGap r).head? == some '.'
  | none => return false

def innerName : Build Unit := do
  if (← lastKind) == "nested_identifier" then mapLast (Syntax.withKind "member_expression")
  role .object
  around "nested_identifier" do
    token "."
    wordLeaf "property_identifier"
    role .property

def nestedName (fuel : Nat) : Build Unit := do
  wordLeaf "identifier"
  many fuel innerName

def typeName (fuel : Nat) : Build Unit := do
  wordLeaf "identifier"
  if ← next "." then
    many fuel do
      if (← next ".") && (← nextIsInner) then innerName else failure
    around "nested_type_identifier" do
      token "."
      wordLeaf "type_identifier"
  else mapLast (Syntax.withKind "type_identifier")

def namedType (g : Grammar) : Build Unit := do
  typeName g.fuel
  if ← next "<" then
    around "generic_type" (g.inside .typeArguments)

def queryTail (g : Grammar) : Build Bool := do
  match ← ahead with
  | '.' :: _ =>
    attempt do
      role .object
      around "member_expression" do
        token "."
        if ← next "#" then privateName else wordLeaf "property_identifier"
        role .property
  | '(' :: _ =>
    attempt do
      role .function
      around "call_expression" do
        g.inside .arguments
        role .arguments
  | '<' :: _ => attempt (around "instantiation_expression" (g.inside .typeArguments))
  | _ => return false

def typeQuery (g : Grammar) : Build Unit := node "type_query" do
  keyword "typeof"
  if ← nextWord "this" then wordLeaf "this"
  else if ← nextWord "import" then wordLeaf "import"
  else wordLeaf "identifier"
  loop g.fuel (queryTail g)

def importedType (g : Grammar) : Build Unit := do
  wordLeaf "import"
  loop g.fuel (queryTail g)

def literalType (value : Build Unit) : Build Unit := node "literal_type" value

def signedNumber : Build Unit := node "unary_expression" do
  either (token "-") (token "+")
  Build.number

def templateType (g : Grammar) : Build Unit :=
  template g.fuel "template_literal_type" do
    node "template_type" do
      exact "$\x7b"
      g.inside .type
      token "\x7d"

/-- A member of a tuple: a type, named or not, that may be missing or stand for many. -/
def tupleMember (g : Grammar) : Build Unit := do
  let annotated : Build Unit := typeClause { g with ends := false }
  either
    (node "required_parameter" do
      if ← next "..." then
        node "rest_pattern" do
          token "..."
          wordLeaf "identifier"
      else wordLeaf "identifier"
      annotated)
    (either
      (node "optional_parameter" do
        wordLeaf "identifier"
        token "?"
        annotated)
      (do
        if ← next "..." then
          node "rest_type" do
            token "..."
            g.inside .type
        else
          g.inside .type
          if ← next "?" then around "optional_type" (token "?")))

def objectTypeMember (g : Grammar) : Build Unit := do
  let g := { g with ends := true }
  let property : Build Unit := node "property_signature" do
    memberWords g (access ++ ["static", "override", "readonly"])
    propertyName g
    optional (token "?")
    optionalTypeClause g
    if !(← endsMember g) then failure
  let construct : Build Unit := node "construct_signature" do
    optionalWord ["abstract"]
    keyword "new"
    if ← next "<" then g.inside .typeParameters
    g.inside .parameters
    optionalTypeClause g
  if (← next "(") || (← next "<") then
    node "call_signature" (g.same .signature)
  else either construct (either property (either (methodSignature g) (indexSignature g)))

def objectType (g : Grammar) (kind : String) : Build Unit := node kind do
  token "\x7b"
  optional (either (token ",") (token ";"))
  loop g.fuel do
    if ← next "\x7d" then token "\x7d"; return false
    else
      objectTypeMember g
      if ← next "\x7d" then token "\x7d"; return false
      else memberEnd g false; return true

def plainType (g : Grammar) : Build Unit := do
  match ← ahead with
  | [] => failure
  | '(' :: _ =>
    node "parenthesized_type" do
      token "("
      g.inside .type
      token ")"
  | '\x7b' :: _ => objectType g "object_type"
  | '[' :: _ =>
    node "tuple_type" do
      token "["
      sparse g.fuel "]" (tupleMember g)
  | '"' :: _ => literalType (Build.string g.fuel)
  | '\'' :: _ => literalType (Build.string g.fuel)
  | '\x60' :: _ => templateType g
  | '-' :: _ => literalType signedNumber
  | '+' :: _ => literalType signedNumber
  | '*' :: _ => node "existential_type" (token "*")
  | '?' :: _ =>
    node "flow_maybe_type" do
      token "?"
      g.same .primaryType
  | c :: t =>
    if Text.isDigit c || c == '.' then literalType Build.number
    else
      let w := ((Lexeme.word? (c :: t)).map (·.1)).getD []
      let s := String.ofList w
      if w.isEmpty then failure
      else if predefinedTypes.contains s then wordLeaf "predefined_type"
      else if ["true", "false", "null", "undefined"].contains s then literalType (wordLeaf s)
      else if s == "keyof" then
        node "index_type_query" do
          keyword "keyof"
          g.same .primaryType
      else if s == "typeof" then typeQuery g
      else if s == "this" then wordLeaf "this_type"
      else if s == "import" then importedType g
      else if s == "const" then discard takeWord
      else if s == "unique" && (afterGap ((← ahead).drop 6)).take 6 == "symbol".toList then
        node "predefined_type" do
          keyword "unique"
          keyword "symbol"
      else namedType g

def indexTail (g : Grammar) : Build Bool := do
  if ← next "[" then
    if g.ends then
      if ← canEnd g.dialect false then return false
    attempt do
      let inner := (afterGap ((← ahead).drop 1)).head?
      if inner == some ']' then
        around "array_type" do
          token "["
          token "]"
      else
        around "lookup_type" do
          token "["
          g.inside .type
          token "]"
  else return false

def primaryType (g : Grammar) : Build Unit := do
  plainType g
  loop g.fuel (indexTail g)

def typeOperand (g : Grammar) : Build Unit := do
  let w ← wordAhead
  if w == "readonly".toList then
    node "readonly_type" do
      keyword "readonly"
      g.same .type
  else if w == "infer".toList then
    node "infer_type" do
      keyword "infer"
      wordLeaf "type_identifier"
      optional do
        keyword "extends"
        g.same .primaryType
  else if w == "new".toList || w == "abstract".toList then constructorType g
  else if (← next "(") || (← next "<") then either (functionType g) (g.same .primaryType)
  else g.same .primaryType

/-- Types with a mark between them, which may also stand in front of the first. -/
def markedTypes (g : Grammar) (kind mark : String) (longer : List String) (operand : Build Unit) :
    Build Unit := do
  if ← nextOnly mark longer then
    node kind do
      token mark
      operand
  else operand
  many g.fuel do
    if ← nextOnly mark longer then
      around kind do
        token mark
        operand
    else failure

def unionType (g : Grammar) : Build Unit :=
  markedTypes g "union_type" "|" ["||", "|="]
    (markedTypes g "intersection_type" "&" ["&&", "&="] (typeOperand g))

def type (g : Grammar) : Build Unit := do
  unionType g
  if ← nextWord "extends" then
    optional do
      around "conditional_type" do
        keyword "extends"
        unionType g
        token "?"
        g.inside .type
        token ":"
        g.same .type

def typeArguments (g : Grammar) : Build Unit := node "type_arguments" do
  token "<"
  g.inside .type
  loop g.fuel do
    if ← next ">" then token ">"; return false
    else
      token ","
      if !(← next ">") then g.inside .type
      return true

def typeParameter (g : Grammar) : Build Unit := node "type_parameter" do
  optionalWord ["const"]
  wordLeaf "type_identifier"
  if (← nextWord "extends") || (← next ":") then
    node "constraint" do
      either (keyword "extends") (token ":")
      g.inside .type
  if ← next "=" then
    node "default_type" do
      token "="
      g.inside .type

def typeParameters (g : Grammar) : Build Unit := node "type_parameters" do
  token "<"
  typeParameter g
  loop g.fuel do
    if ← next ">" then token ">"; return false
    else
      token ","
      if !(← next ">") then typeParameter g
      return true

end Grammar

end EndpointScout.Script
