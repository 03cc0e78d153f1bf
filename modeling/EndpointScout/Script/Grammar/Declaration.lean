import EndpointScout.Script.Grammar.Type

/-! Declarations of variables, functions, classes and types. -/
namespace EndpointScout.Script

namespace Grammar

open Build

def binding (g : Grammar) : Build Unit := do
  if (← next "[") || (← next "\x7b") then g.inside .destructuring
  else wordLeaf "identifier"

def declarator (g : Grammar) : Build Bool := node "variable_declarator" do
  let g := { g with ends := true }
  binding g
  if g.isTyped then
    if ← next "!" then token "!"
    optionalTypeClause g
  if ← nextIsEquals then
    initializer g
    return true
  else return false

def declarators (g : Grammar) : Nat → Build Unit
  | 0 => failure
  | fuel + 1 => do
    let valued ← declarator g
    if ← next "," then
      token ","
      declarators g fuel
    else if valued then g.close
    else g.closePlain

def variableDeclaration (g : Grammar) : Build Unit := node "variable_declaration" do
  keyword "var"
  declarators g g.fuel

def lexicalDeclaration (g : Grammar) : Build Unit := node "lexical_declaration" do
  optionalWord ["let", "const"]
  declarators g g.fuel

def functionDeclaration (g : Grammar) : Build Unit := do
  let (generator, bodied) ← node "function_declaration" do
    optionalWord ["async"]
    keyword "function"
    let generator ← attempt (token "*")
    wordLeaf "identifier"
    g.ending .signature
    if g.isTyped && !(← next "\x7b") then
      either (signatureEnd g.dialect) g.closePlain
      return (generator, false)
    else
      g.inside .block
      return (generator, true)
  if !bodied then mapLast (Syntax.withKind "function_signature")
  else if generator then mapLast (Syntax.withKind "generator_function_declaration")

def classDeclaration (g : Grammar) : Build Unit := do
  let isAbstract ← node "class_declaration" do
    decorators g
    let isAbstract ← (do return g.isTyped && (← nextWord "abstract"))
    if isAbstract then keyword "abstract"
    classTail g
    return isAbstract
  if isAbstract then mapLast (Syntax.withKind "abstract_class_declaration")

def interfaceDeclaration (g : Grammar) : Build Unit := node "interface_declaration" do
  keyword "interface"
  wordLeaf "type_identifier"
  if ← next "<" then g.inside .typeParameters
  if ← nextWord "extends" then
    node "extends_type_clause" do
      keyword "extends"
      separated g.fuel "," (namedType g)
  objectType g "interface_body"

def typeAlias (g : Grammar) : Build Unit := node "type_alias_declaration" do
  keyword "type"
  wordLeaf "type_identifier"
  if ← next "<" then g.inside .typeParameters
  equalsSign
  g.ending .type
  g.closePlain

def enumMember (g : Grammar) : Build Unit := do
  propertyName g
  if ← nextIsEquals then
    around "enum_assignment" do
      equalsSign
      g.inside .expression

def enumDeclaration (g : Grammar) : Build Unit := node "enum_declaration" do
  optionalWord ["const"]
  keyword "enum"
  wordLeaf "identifier"
  node "enum_body" do
    token "\x7b"
    loop g.fuel do
      if ← next "\x7d" then token "\x7d"; return false
      else
        enumMember g
        if ← next "," then token ","; return true
        else token "\x7d"; return false

def moduleDeclaration (g : Grammar) (kind word : String) : Build Unit := node kind do
  keyword word
  match ← ahead with
  | '"' :: _ => Build.string g.fuel
  | '\'' :: _ => Build.string g.fuel
  | _ => nestedName g.fuel
  if ← next "\x7b" then g.inside .block

def followingWord (t : Text) (w : Text) : Text :=
  ((Lexeme.word? (afterGap (t.drop w.length))).map (·.1)).getD []

/-- The text at the token behind the star here, or right here if there is none. -/
def behindStar (t : Text) : Text :=
  match t with
  | '*' :: r => afterGap r
  | t => t

inductive Opening where
  | variables
  | bindings
  | function
  | classes
  | interface
  | alias
  | enumeration
  | module (kind word : String)
  | ambient

def opening? (g : Grammar) (t : Text) : Option Opening :=
  let w := ((Lexeme.word? t).map (·.1)).getD []
  let after := afterGap (t.drop w.length)
  let second := ((Lexeme.word? after).map (·.1)).getD []
  let named := !second.isEmpty
  let binds := named || after.head? == some '[' || after.head? == some '\x7b'
  let isNot (words : List String) : Bool := !words.any fun s => s.toList == second
  match String.ofList w with
  | "var" => some .variables
  | "const" => some (if g.isTyped && second == "enum".toList then .enumeration else .bindings)
  | "let" => if binds && isNot ["in", "instanceof", "of"] then some .bindings else none
  | "function" => if (Lexeme.word? (behindStar after)).isSome then some .function else none
  | "async" =>
    if second == "function".toList &&
        (Lexeme.word? (behindStar (afterGap (after.drop second.length)))).isSome then
      some .function
    else none
  | "class" =>
    if named && isNot ["extends"] && !(g.isTyped && second == "implements".toList) then
      some .classes
    else none
  | s =>
    if !g.isTyped then none
    else match s with
      | "abstract" => if second == "class".toList then some .classes else none
      | "interface" => if named then some .interface else none
      | "type" =>
        let next := (afterGap (after.drop second.length)).head?
        if named && (next == some '=' || next == some '<') then some .alias else none
      | "enum" => if named then some .enumeration else none
      | "namespace" =>
        if named && isNot ["in", "instanceof", "as"] then
          some (.module "internal_module" "namespace")
        else none
      | "module" =>
        if after.head? == some '"' || after.head? == some '\'' ||
            (named && isNot ["in", "instanceof", "as"]) then
          some (.module "module" "module")
        else none
      | "declare" => if named && isNot ["in", "instanceof", "as"] then some .ambient else none
      | _ => none

def opened (g : Grammar) : Opening → Build Unit
  | .variables => variableDeclaration g
  | .bindings => lexicalDeclaration g
  | .function => functionDeclaration g
  | .classes => classDeclaration g
  | .interface => interfaceDeclaration g
  | .alias => typeAlias g
  | .enumeration => enumDeclaration g
  | .module kind word => moduleDeclaration g kind word
  | .ambient =>
    node "ambient_declaration" do
      keyword "declare"
      if ← nextWord "global" then
        keyword "global"
        g.inside .block
      else g.ending .declaration

def openingAhead (g : Grammar) : Build (Option Opening) := do return opening? g (← ahead)

def declaration (g : Grammar) : Build Unit := do
  if ← next "@" then classDeclaration g
  else
    match ← openingAhead g with
    | some o => opened g o
    | none => failure

end Grammar

end EndpointScout.Script
