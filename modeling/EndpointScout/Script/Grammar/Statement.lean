import EndpointScout.Script.Grammar.Module

/-! Statements and whole scripts. -/
namespace EndpointScout.Script

namespace Grammar

open Build

def expressionStatement (g : Grammar) : Build Unit := node "expression_statement" do
  g.ending .expressions
  g.close

def condition (g : Grammar) : Build Unit := parenthesized { g with ends := false }

def ifStatement (g : Grammar) : Build Unit := node "if_statement" do
  keyword "if"
  condition g
  g.ending .statement
  if ← nextWord "else" then
    node "else_clause" do
      keyword "else"
      g.ending .statement

def forInStatement (g : Grammar) : Build Unit := node "for_in_statement" do
  keyword "for"
  optionalWord ["await"]
  token "("
  let w ← wordAhead
  let declared : Build Unit := do
    discard takeWord
    binding g
  let reached : Build Unit := do
    if ← next "(" then condition g else g.inside .pattern
  if w == "var".toList then
    declared
    if ← nextIsEquals then
      equalsSign
      g.inside (.binary 8)
  else if w == "let".toList || w == "const".toList then either declared reached
  else reached
  if (← nextWord "in") || (← nextWord "of") then discard takeWord else failure
  g.inside .expressions
  token ")"
  g.ending .statement

def emptyStatement : Build Unit := node "empty_statement" (token ";")

def forInitializer (g : Grammar) : Build Unit := do
  match ← openingAhead g with
  | some .variables => variableDeclaration g
  | some .bindings => lexicalDeclaration g
  | _ =>
    if ← next ";" then emptyStatement
    else
      g.inside .expressions
      token ";"

def forStatement (g : Grammar) : Build Unit := node "for_statement" do
  keyword "for"
  token "("
  forInitializer g
  if ← next ";" then emptyStatement
  else
    g.inside .expressions
    token ";"
  if !(← next ")") then g.inside .expressions
  token ")"
  g.ending .statement

def whileStatement (g : Grammar) : Build Unit := node "while_statement" do
  keyword "while"
  condition g
  g.ending .statement

def doStatement (g : Grammar) : Build Unit := node "do_statement" do
  keyword "do"
  g.ending .statement
  keyword "while"
  condition g
  if ← next ";" then token ";"

def withStatement (g : Grammar) : Build Unit := node "with_statement" do
  keyword "with"
  condition g
  g.ending .statement

def switchCase (g : Grammar) : Build Unit := do
  let body : Build Unit := loop g.fuel do
    if (← nextWord "case") || (← nextWord "default") || (← next "\x7d") then return false
    else g.ending .statement; return true
  if ← nextWord "case" then
    node "switch_case" do
      keyword "case"
      g.inside .expressions
      token ":"
      body
  else
    node "switch_default" do
      keyword "default"
      token ":"
      body

def switchStatement (g : Grammar) : Build Unit := node "switch_statement" do
  keyword "switch"
  condition g
  node "switch_body" do
    token "\x7b"
    loop g.fuel do
      if ← next "\x7d" then token "\x7d"; return false
      else switchCase g; return true

def tryStatement (g : Grammar) : Build Unit := node "try_statement" do
  keyword "try"
  g.inside .block
  if ← nextWord "catch" then
    node "catch_clause" do
      keyword "catch"
      if ← next "(" then
        token "("
        binding g
        optionalTypeClause { g with ends := false }
        token ")"
      g.inside .block
  if ← nextWord "finally" then
    node "finally_clause" do
      keyword "finally"
      g.inside .block

def jump (g : Grammar) (kind word : String) : Build Unit := node kind do
  keyword word
  if ← canEnd g.dialect false then pure ()
  else
    if !(← next ";") then wordLeaf "statement_identifier"
    g.closePlain

def returnStatement (g : Grammar) : Build Unit := node "return_statement" do
  keyword "return"
  if ← canEnd g.dialect false then pure ()
  else if ← next ";" then token ";"
  else
    g.ending .expressions
    g.close

def throwStatement (g : Grammar) : Build Unit := node "throw_statement" do
  keyword "throw"
  g.ending .expressions
  g.close

def debuggerStatement (g : Grammar) : Build Unit := node "debugger_statement" do
  keyword "debugger"
  g.closePlain

def labelledStatement (g : Grammar) : Build Unit := node "labeled_statement" do
  wordLeaf "statement_identifier"
  token ":"
  g.ending .statement

def decorated (g : Grammar) : Build Unit :=
  either (exportStatement g) (either (classDeclaration g) (expressionStatement g))

def worded (g : Grammar) (t : Text) (w : Text) : Build Unit := do
  let after := afterGap (t.drop w.length)
  match String.ofList w with
  | "if" => ifStatement g
  | "for" => either (forInStatement g) (forStatement g)
  | "while" => whileStatement g
  | "do" => doStatement g
  | "with" => withStatement g
  | "switch" => switchStatement g
  | "try" => tryStatement g
  | "break" => jump g "break_statement" "break"
  | "continue" => jump g "continue_statement" "continue"
  | "return" => returnStatement g
  | "throw" => throwStatement g
  | "debugger" => debuggerStatement g
  | "import" =>
    if after.head? == some '(' || after.head? == some '.' then expressionStatement g
    else importStatement g
  | "export" => exportStatement g
  | _ =>
    match opening? g t with
    | some (.module "internal_module" word) =>
      node "expression_statement" do
        moduleDeclaration g "internal_module" word
        g.close
    | some o => opened g o
    | none =>
      if after.head? == some ':' then labelledStatement g else expressionStatement g

def statement (g : Grammar) : Build Unit := do
  startGap
  match ← ahead with
  | [] => failure
  | ';' :: _ => emptyStatement
  | '\x7b' :: _ => blockOr g (expressionStatement g)
  | '@' :: _ => decorated g
  | c :: t =>
    match Lexeme.word? (c :: t) with
    | some (w, _) => worded g (c :: t) w
    | none => expressionStatement g

/-- The first line, if it names the program that runs the script. -/
def firstLine : Build Unit := do
  match ← here with
  | '#' :: '!' :: t =>
    setRest (t.dropWhile (· != '\n'))
    leaf "hash_bang_line" ('#' :: '!' :: t.takeWhile (· != '\n'))
  | _ => failure

def program (g : Grammar) : Build Unit := do
  optional firstLine
  loop g.fuel do
    startGap
    if (← here).isEmpty then return false
    else statement g; return true

end Grammar

end EndpointScout.Script
