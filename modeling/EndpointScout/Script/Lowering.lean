import EndpointScout.Script.Escape
import EndpointScout.Script.Tree

/-! From syntax to trees. Syntax that is nested too deep is cut down to its leaves,
so that a tree is never deeper than a fixed bound. -/
namespace EndpointScout.Script

/-- Syntax nested deeper than this is flattened. -/
def maxDepth : Nat := 256

/-- How many steps are taken between two looks at whether to stop. -/
def cancelInterval : Nat := 4096

def numberValue (t : Text) : Binary64 :=
  (Binary64.ofText? (t.filter (· != '_'))).getD Binary64.notANumber

namespace Syntax

def isName (kind : String) : Bool :=
  kind == "identifier" || kind == "property_identifier" ||
    kind == "private_property_identifier" || kind == "shorthand_property_identifier" ||
    kind == "shorthand_property_identifier_pattern"

/-- The tree of a node that is taken as a whole. -/
def leaf? (s : Syntax) : Option Tree :=
  if isName s.kind then some (.identifier s.text)
  else match s.kind with
    | "string" => some (.literal (.string s.stringText))
    | "number" => some (.literal (.number (numberValue s.text)))
    | "true" => some (.literal (.boolean true))
    | "false" => some (.literal (.boolean false))
    | "null" => some (.literal .null)
    | "regex" => some (.literal (.regex s.text))
    | "string_fragment" => some (.literal (.string s.text))
    | "escape_sequence" => some (.literal (.string (decodeEscape s.text)))
    | kind => if s.children.isEmpty then some (.other kind.toList []) else none

mutual

def leaves : Syntax → List Tree
  | node f k t cs =>
    match (node f k t cs).leaf? with
    | some l => [l]
    | none => leavesAll cs

def leavesAll : List Syntax → List Tree
  | [] => []
  | s :: ss => if s.isComment then leavesAll ss else s.leaves ++ leavesAll ss

end

mutual

def cost : Syntax → Nat
  | node _ _ _ cs => costs cs + 1

def costs : List Syntax → Nat
  | [] => 0
  | s :: ss => s.cost + 1 + costs ss

end

def flattenGo : Nat → List Syntax → List Tree → List Tree
  | 0, _, done => done.reverse
  | _ + 1, [], done => done.reverse
  | fuel + 1, s :: stack, done =>
    match s.leaf? with
    | some l => flattenGo fuel stack (l :: done)
    | none => flattenGo fuel (s.parts ++ stack) done

def flattened (s : Syntax) : Tree := .other s.kind.toList (flattenGo s.cost [s] [])

end Syntax

abbrev Part := Option Field × Tree

def takeRole (f : Field) : List Part → Option (Tree × List Part)
  | [] => none
  | (role, t) :: parts =>
    if role = some f then some (t, parts)
    else (takeRole f parts).map fun p => (p.1, (role, t) :: p.2)

def missingPart (kind : String) : Tree := .other kind.toList []

def partOr (f : Field) (kind : String) (parts : List Part) : Tree × List Part :=
  (takeRole f parts).getD (missingPart kind, parts)

def templateGo (current : Text) : List Tree → List Text × List Tree
  | [] => ([current], [])
  | t :: ts =>
    match t with
    | .literal (.string piece) => templateGo (current ++ piece) ts
    | .other kind children =>
      if kind = "template_substitution".toList then
        let (quasis, expressions) := templateGo [] ts
        (current :: quasis, children ++ expressions)
      else
        let (quasis, expressions) := templateGo current ts
        (quasis, t :: expressions)
    | _ =>
      let (quasis, expressions) := templateGo current ts
      (quasis, t :: expressions)

def buildTemplate (ts : List Tree) : Tree :=
  let (quasis, expressions) := templateGo [] ts
  .template quasis expressions

def argumentList : Option (Tree × List Part) → List Tree
  | some (.other kind children, _) =>
    if kind = "arguments".toList then children else [.other kind children]
  | some (t, _) => [t]
  | none => []

def build (kind : String) (parts : List Part) : Tree :=
  match kind with
  | "program" => .program (parts.map (·.2))
  | "call_expression" =>
    let (callee, rest) := partOr .function "callee" parts
    .call callee (argumentList (takeRole .arguments rest))
  | "member_expression" =>
    let (object, rest) := partOr .object "object" parts
    .member object (partOr .property "property" rest).1 false
  | "subscript_expression" =>
    let (object, rest) := partOr .object "object" parts
    .member object (partOr .index "property" rest).1 true
  | "template_string" => buildTemplate (parts.map (·.2))
  | kind => .other kind.toList (parts.map (·.2))

/-- A node under construction: the parts still to be lowered and, last first, the
trees of the others. -/
structure Frame where
  field : Option Field
  kind : String
  waiting : List Syntax
  done : List Part

def Frame.ofSyntax (s : Syntax) : Frame := ⟨s.field, s.kind, s.parts, []⟩

def Frame.finish (f : Frame) : Part := (f.field, build f.kind f.done.reverse)

/-- Works on the innermost frame. The third argument counts the steps taken so far;
`cancel` tells at which of them a request to stop can be seen. -/
def lowerGo (cancel : Nat → Bool) : Nat → Frame → List Frame → Nat → Option Tree
  | 0, _, _, _ => none
  | fuel + 1, top, outer, steps =>
    let steps := steps + 1
    if steps % cancelInterval = 0 ∧ cancel steps then none
    else match top.waiting with
      | s :: waiting =>
        match s.leaf? with
        | some t =>
          lowerGo cancel fuel { top with waiting, done := (s.field, t) :: top.done } outer steps
        | none =>
          if maxDepth ≤ outer.length + 1 then
            lowerGo cancel fuel
              { top with waiting, done := (s.field, s.flattened) :: top.done } outer steps
          else
            lowerGo cancel fuel (Frame.ofSyntax s) ({ top with waiting } :: outer) steps
      | [] =>
        match outer with
        | [] => some top.finish.2
        | parent :: outer =>
          lowerGo cancel fuel { parent with done := top.finish :: parent.done } outer steps

namespace Syntax

def lower (cancel : Nat → Bool) (s : Syntax) : Option Tree :=
  lowerGo cancel (s.cost + 1) (Frame.ofSyntax s) [] 0

mutual

/-- The tree of a node by plain recursion; `depth` counts the nodes around it. -/
def lowered (depth : Nat) : Syntax → Tree
  | node _ k _ cs => build k (loweredParts (depth + 1) cs)

def loweredParts (depth : Nat) : List Syntax → List Part
  | [] => []
  | s :: ss =>
    if s.isComment then loweredParts depth ss
    else
      (s.field,
        match s.leaf? with
        | some t => t
        | none =>
          if maxDepth ≤ depth then .other s.kind.toList s.leaves else s.lowered depth) ::
        loweredParts depth ss

end

end Syntax

end EndpointScout.Script
