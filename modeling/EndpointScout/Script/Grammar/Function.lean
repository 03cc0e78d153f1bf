import EndpointScout.Script.Grammar.Expression

/-! Parameters, blocks and the bodies of classes. -/
namespace EndpointScout.Script

namespace Grammar

open Build

def typeClause (g : Grammar) : Build Unit := node "type_annotation" do
  token ":"
  g.same .type

def optionalTypeClause (g : Grammar) : Build Unit := do
  if g.isTyped then
    if ← next ":" then typeClause g

def initializer (g : Grammar) : Build Unit := do
  equalsSign
  g.same .expression

def optionalInitializer (g : Grammar) : Build Unit := do
  if ← nextIsEquals then initializer g

def wordLeads : Build Bool := do
  let w ← wordAhead
  let t := afterGap ((← ahead).drop w.length)
  return (Lexeme.word? t).isSome || t.head? == some '[' || t.head? == some '\x7b'

def accessModifier : Build Unit := do
  let w ← wordAhead
  if ["public", "private", "protected"].any fun s => s.toList == w then
    if ← wordLeads then wordLeaf "accessibility_modifier"

/-- Takes a word that names no node, if it leads a declaration. -/
def leadingWord (s : String) : Build Unit := do
  if ← nextWord s then
    if ← wordLeads then discard takeWord

def typedParameter (g : Grammar) : Build Unit := do
  let isOptional ← node "required_parameter" do
    decorators g
    accessModifier
    if ← nextWord "override" then
      if ← wordLeads then wordLeaf "override_modifier"
    leadingWord "readonly"
    if ← nextWord "this" then wordLeaf "this" else g.inside .pattern
    let isOptional ← attempt (token "?")
    optionalTypeClause g
    optionalInitializer g
    return isOptional
  if isOptional then mapLast (Syntax.withKind "optional_parameter")

def parameters (g : Grammar) : Build Unit := node "formal_parameters" do
  token "("
  loop g.fuel do
    if ← next ")" then token ")"; return false
    else
      if g.isTyped then typedParameter g else patternWithDefault g
      if ← next "," then token ","; return true
      else token ")"; return false

def subject : Build Unit := do
  if ← nextWord "this" then wordLeaf "this" else wordLeaf "identifier"

def predicate (g : Grammar) : Build Unit := node "type_predicate" do
  subject
  keyword "is"
  g.same .type

def assertion (g : Grammar) : Build Unit := node "asserts" do
  keyword "asserts"
  either (predicate g) subject

def returnType (g : Grammar) : Build Unit :=
  either
    (node "asserts_annotation" do
      token ":"
      assertion g)
    (either
      (node "type_predicate_annotation" do
        token ":"
        predicate g)
      (typeClause g))

def signature (g : Grammar) : Build Unit := do
  if g.isTyped then
    if ← next "<" then g.inside .typeParameters
  g.inside .parameters
  if g.isTyped then
    if ← next ":" then returnType g

def block (g : Grammar) : Build Unit := node "statement_block" do
  token "\x7b"
  loop g.fuel do
    if ← next "\x7d" then token "\x7d"; return false
    else g.ending .statement; return true

def staticBlock (g : Grammar) : Build Unit := node "class_static_block" do
  keyword "static"
  g.inside .block

def nextIsStaticBlock : Build Bool := do
  let w ← wordAhead
  let after := afterGap ((← ahead).drop w.length)
  return w == "static".toList && after.head? == some '\x7b'

def classMember (g : Grammar) : Build Unit := do
  let isMethod ← node "field_definition" do
    decorators g
    discard (modifier g true ["static"])
    let isMarked ← methodMarks g true
    propertyName g
    if isMarked || (← next "(") then
      methodTail g
      return true
    else
      if ← nextIsEquals then
        equalsSign
        g.ending .expression
      return false
  if isMethod then mapLast (Syntax.withKind "method_definition")
  else
    if ← canEnd g.dialect true then pure () else token ";"

def memberWords (g : Grammar) (words : List String) : Build Unit := do
  for s in words do
    if ← nextWord s then
      optional do
        if s == "override" then wordLeaf "override_modifier"
        else if s == "public" || s == "private" || s == "protected" then
          wordLeaf "accessibility_modifier"
        else discard takeWord
        if ← canEnd g.dialect false then failure
        if ← nextIsMember then pure () else failure

def access : List String := ["public", "private", "protected"]

def typedMethod (g : Grammar) : Build Unit := node "method_definition" do
  memberWords g (access ++ ["static", "override", "readonly", "async", "get", "set"])
  optional (token "*")
  propertyName g
  optional (token "?")
  g.ending .signature
  g.inside .block

def methodSignature (g : Grammar) : Build Unit := node "method_signature" do
  memberWords g (access ++ ["static", "override", "readonly", "async", "get", "set"])
  optional (token "*")
  propertyName g
  optional (token "?")
  g.ending .signature

def abstractMethod (g : Grammar) : Build Unit := node "abstract_method_signature" do
  memberWords g access
  keyword "abstract"
  memberWords g ["override", "get", "set"]
  optional (token "*")
  propertyName g
  optional (token "?")
  g.ending .signature

def mappedClause (g : Grammar) : Build Unit := node "mapped_type_clause" do
  wordLeaf "type_identifier"
  keyword "in"
  g.inside .type
  if ← nextWord "as" then
    keyword "as"
    g.inside .type

def indexSignature (g : Grammar) : Build Unit := node "index_signature" do
  optional do
    optional (either (token "-") (token "+"))
    keyword "readonly"
  token "["
  either (mappedClause g) do
    wordLeaf "identifier"
    token ":"
    g.inside .type
  token "]"
  let marked (kind mark : String) : Build Unit := node kind do
    token mark
    g.same .type
  either (marked "omitting_type_annotation" "-?:")
    (either (marked "adding_type_annotation" "+?:")
      (either (marked "opting_type_annotation" "?:") (typeClause g)))

def publicField (g : Grammar) : Build Unit := node "public_field_definition" do
  decorators g
  memberWords g ["declare"]
  memberWords g (access ++ ["declare", "static", "override", "abstract", "readonly", "abstract",
    "accessor"])
  propertyName g
  optional (either (token "?") (token "!"))
  optionalTypeClause g
  if ← nextIsEquals then
    equalsSign
    g.ending .expression

def endsMember (g : Grammar) : Build Bool := do
  return (← canEnd g.dialect false) || (← next "\x7d") || (← next ";") || (← next ",")

def memberEnd (g : Grammar) (afterExpression : Bool) : Build Unit := do
  if ← canEnd g.dialect afterExpression then pure ()
  else either (token ";") (token ",")

def typedMember (g : Grammar) : Build Unit := do
  let g := { g with ends := true }
  either
    (do
      decorators g
      typedMethod g)
    (either
      (do
        either (abstractMethod g) (methodSignature g)
        memberEnd g false)
      (either
        (do
          indexSignature g
          memberEnd g false)
        (do
          publicField g
          memberEnd g true)))

def classBody (g : Grammar) : Build Unit := node "class_body" do
  token "\x7b"
  loop g.fuel do
    if ← next "\x7d" then token "\x7d"; return false
    else if ← next ";" then token ";"; return true
    else
      if ← nextIsStaticBlock then staticBlock g
      else if g.isTyped then typedMember g
      else classMember g
      return true

end Grammar

end EndpointScout.Script
