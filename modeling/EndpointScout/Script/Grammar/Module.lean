import EndpointScout.Script.Grammar.Declaration

/-! What a script takes from other scripts and what it gives to them. -/
namespace EndpointScout.Script

namespace Grammar

open Build

def outerName (g : Grammar) : Build Unit := do
  match ← ahead with
  | '"' :: _ => Build.string g.fuel
  | '\'' :: _ => Build.string g.fuel
  | _ => wordLeaf "identifier"

def specifiers (g : Grammar) (kind item : String) : Build Unit := node kind do
  token "\x7b"
  loop g.fuel do
    if ← next "\x7d" then token "\x7d"; return false
    else
      node item do
        if g.isTyped then
          if (← nextWord "type") || (← nextWord "typeof") then
            let w ← wordAhead
            let after := afterGap ((← ahead).drop w.length)
            let second := followingWord (← ahead) w
            let isQuoted := after.head? == some '"' || after.head? == some '\''
            if isQuoted || (!second.isEmpty && second != "as".toList) then discard takeWord
        outerName g
        if ← nextWord "as" then
          keyword "as"
          outerName g
      if ← next "," then token ","; return true
      else token "\x7d"; return false

def source (g : Grammar) : Build Unit := do
  keyword "from"
  Build.string g.fuel

def importAttribute (g : Grammar) : Build Unit := do
  if ← nextWord "with" then
    node "import_attribute" do
      keyword "with"
      g.inside .object

def importedNames (g : Grammar) : Build Unit := do
  if ← next "*" then
    node "namespace_import" do
      token "*"
      keyword "as"
      wordLeaf "identifier"
  else specifiers g "named_imports" "import_specifier"

def importClause (g : Grammar) : Build Unit := node "import_clause" do
  if ← nextIsWord then
    wordLeaf "identifier"
    if ← next "," then
      token ","
      importedNames g
  else importedNames g

def nextIsKindWord (g : Grammar) : Build Bool := do
  let w ← wordAhead
  if g.isTyped && (w == "type".toList || w == "typeof".toList) then
    let after := afterGap ((← ahead).drop w.length)
    let second := followingWord (← ahead) w
    return after.head? == some '\x7b' || after.head? == some '*' ||
      (!second.isEmpty && second != "from".toList)
  else return false

def importStatement (g : Grammar) : Build Unit := do
  let isAlias ← node "import_statement" do
    keyword "import"
    match ← ahead with
    | '"' :: _ => Build.string g.fuel
    | '\'' :: _ => Build.string g.fuel
    | _ =>
      if ← nextIsKindWord g then discard takeWord
      let w ← wordAhead
      let after := afterGap ((← ahead).drop w.length)
      if g.isTyped && !w.isEmpty && after.head? == some '=' then
        if followingWord after ['='] == "require".toList then
          node "import_require_clause" do
            wordLeaf "identifier"
            token "="
            keyword "require"
            token "("
            Build.string g.fuel
            token ")"
        else
          wordLeaf "identifier"
          token "="
          nestedName g.fuel
          g.closePlain
          return true
      else
        importClause g
        source g
    importAttribute g
    g.closePlain
    return false
  if isAlias then mapLast (Syntax.withKind "import_alias")

/-- What a statement says that gives away all of another script; `t` is the text behind the
star. -/
def exportedAll (g : Grammar) (t : Text) : Build Unit := do
  if followingWord t [] == "as".toList then
    node "namespace_export" do
      token "*"
      keyword "as"
      outerName g
  else token "*"
  source g
  importAttribute g
  g.closePlain

def exported (g : Grammar) : Build Unit := do
  match ← ahead with
  | '*' :: t => exportedAll g t
  | '\x7b' :: _ =>
    specifiers g "export_clause" "export_specifier"
    if ← nextWord "from" then
      source g
      importAttribute g
    g.closePlain
  | '=' :: _ =>
    g.typed (token "=")
    g.ending .expression
    g.close
  | _ =>
    let w ← wordAhead
    let after := afterGap ((← ahead).drop w.length)
    if w == "default".toList then
      keyword "default"
      if (← next "@") || (← openingAhead g).isSome then g.ending .declaration
      else
        g.ending .expression
        g.close
    else if g.isTyped && w == "type".toList && after.head? == some '\x7b' then
      discard takeWord
      specifiers g "export_clause" "export_specifier"
      if ← nextWord "from" then source g
      g.closePlain
    else if g.isTyped && w == "import".toList then importStatement g
    else if g.isTyped && w == "as".toList then
      discard takeWord
      keyword "namespace"
      wordLeaf "identifier"
      g.closePlain
    else g.ending .declaration

def exportStatement (g : Grammar) : Build Unit := node "export_statement" do
  decorators g
  keyword "export"
  exported g

end Grammar

end EndpointScout.Script
