import EndpointScout.Script.Grammar.Operand

/-! Expressions: operators by their binding, assignments, choices and sequences. -/
namespace EndpointScout.Script

namespace Grammar

open Build

/-- Binary operators with the tightness of their binding. Longer operators stand before
those they begin with; a level of 0 marks a token that is no binary operator. -/
def operators : List (String × Nat) :=
  [(">>>=", 0), ("**=", 0), ("<<=", 0), (">>=", 0), ("&&=", 0), ("||=", 0), ("===", 6),
    ("!==", 6), (">>>", 8), ("+=", 0), ("-=", 0), ("*=", 0), ("/=", 0), ("%=", 0), ("^=", 0),
    ("&=", 0), ("|=", 0), ("++", 0), ("--", 0), ("||", 1), ("&&", 2), ("==", 6), ("!=", 6),
    ("<=", 7), (">=", 7), ("<<", 8), (">>", 8), ("**", 11), ("|", 3), ("^", 4), ("&", 5),
    ("<", 7), (">", 7), ("+", 9), ("-", 9), ("*", 10), ("/", 10), ("%", 10)]

def operatorAt? (t w : Text) : Option (String × Nat) :=
  match operators.find? fun o => Text.startsWith t o.1.toList with
  | some (s, n) => if n == 0 then none else some (s, n)
  | none =>
    if w == "in".toList then some ("in", 7)
    else if w == "instanceof".toList then some ("instanceof", 7)
    else none

def operatorAhead : Build (Option (String × Nat)) := do
  let w ← wordAhead
  return operatorAt? (← ahead) w

def operatorTail (g : Grammar) (level : Nat) : Build Unit := loop g.fuel do
  match ← operatorAhead with
  | none => return false
  | some (s, n) =>
    if n < level then return false
    else
      attempt do
        around "binary_expression" do
          token s
          g.same (.binary (if n == 11 then 11 else n + 1))

def binary (g : Grammar) (level : Nat) : Build Unit := do
  g.same .unary
  operatorTail g level

def augmented : List String :=
  [">>>=", "**=", "<<=", ">>=", "&&=", "||=", "??=", "+=", "-=", "*=", "/=", "%=", "^=", "&=", "|="]

def assignmentTail (g : Grammar) : Build Unit := do
  let kind ← lastKind
  let isPattern := kind == "object_pattern" || kind == "array_pattern"
  if targets.contains kind || kind == "parenthesized_expression" || isPattern then
    if ← nextIsEquals then
      around "assignment_expression" do
        equalsSign
        g.same .expression
    else if !isPattern then
      let t ← ahead
      match augmented.find? fun s => Text.startsWith t s.toList with
      | some s =>
        around "augmented_assignment_expression" do
          token s
          g.same .expression
      | none => pure ()

def mayBeOperand (g : Grammar) : Build Bool := do
  if ← g.ended then return false
  match ← ahead with
  | [] => return false
  | c :: _ =>
    return !(")],;:?=.>|&^%*\x7d".toList.contains c) && !(← nextWord "in") && !(← nextWord "of")

def updateTail (g : Grammar) : Build Unit := do
  let t ← ahead
  if Text.startsWith t "++".toList || Text.startsWith t "--".toList then
    if !(← g.ended) then
      around "update_expression" do
        gap
        setRest (t.drop 2)
  else assignmentTail g

def unmarked (g : Grammar) : Build Unit :=
  either (do arrowFunction g; operandTail g) do
    if ← next "<" then
      if g.isTyped then
        node "type_assertion" do
          g.inside .typeArguments
          g.same .unary
      else g.inside .markup
    else
      operand g
      updateTail g

def wordUnary (g : Grammar) (w : Text) : Build Unit :=
  match String.ofList w with
  | "typeof" => node "unary_expression" do keyword "typeof"; g.same .unary
  | "void" => node "unary_expression" do keyword "void"; g.same .unary
  | "delete" => node "unary_expression" do keyword "delete"; g.same .unary
  | "await" => node "await_expression" do keyword "await"; g.same .unary
  | "yield" =>
    node "yield_expression" do
      keyword "yield"
      if ← next "*" then
        token "*"
        g.same .expression
      else if ← mayBeOperand g then g.same .expression
  | _ => unmarked g

def unary (g : Grammar) : Build Unit := do
  startGap
  let marked (kind mark : String) : Build Unit := node kind do
    token mark
    g.same .unary
  match ← ahead with
  | [] => failure
  | '!' :: _ => marked "unary_expression" "!"
  | '~' :: _ => marked "unary_expression" "~"
  | '+' :: t =>
    if t.head? == some '+' then marked "update_expression" "++" else marked "unary_expression" "+"
  | '-' :: t =>
    if t.head? == some '-' then marked "update_expression" "--" else marked "unary_expression" "-"
  | _ => wordUnary g (← wordAhead)

def nextIsChoice : Build Bool := do
  match ← ahead with
  | '?' :: '?' :: _ => return false
  | '?' :: '.' :: c :: _ => return Text.isDigit c
  | '?' :: '.' :: _ => return false
  | '?' :: _ => return true
  | _ => return false

/-- What binds looser than every operator: `??`, choices, and types stated for a value. -/
def expressionTail (g : Grammar) : Build Bool := do
  if ← nextOnly "??" ["??="] then
    attempt do
      around "binary_expression" do
        token "??"
        g.same (.binary 1)
  else if ← nextIsChoice then
    attempt do
      around "ternary_expression" do
        token "?"
        g.inside .expression
        token ":"
        g.same .expression
  else if g.isTyped then
    let w ← wordAhead
    if w == "as".toList || w == "satisfies".toList then
      if ← g.ended then return false
      else
        attempt do
          around (if w == "as".toList then "as_expression" else "satisfies_expression") do
            discard takeWord
            if w == "as".toList && (← nextWord "const") then discard takeWord
            else g.same .type
          operatorTail g 1
    else return false
  else return false

def expression (g : Grammar) : Build Unit := do
  g.same (.binary 1)
  loop g.fuel (expressionTail g)

def expressions (g : Grammar) : Build Unit := do
  g.same .expression
  if ← next "," then
    around "sequence_expression" do
      many g.fuel do
        token ","
        g.same .expression

end Grammar

end EndpointScout.Script
