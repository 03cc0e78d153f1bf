import EndpointScout.Json.Value
import EndpointScout.Text.Binary64

/-! Scripts as trees of calls, member accesses, names and literals; every other
construct is known by its kind alone. -/
namespace EndpointScout.Script

inductive Literal where
  | string (text : Text)
  | number (value : Binary64)
  | boolean (value : Bool)
  | null
  | regex (text : Text)
deriving Repr, DecidableEq

inductive Tree where
  | program (body : List Tree)
  | call (callee : Tree) (arguments : List Tree)
  | member (object property : Tree) (computed : Bool)
  | identifier (name : Text)
  | literal (value : Literal)
  /-- The texts around the substitutions, and what the substitutions hold. -/
  | template (quasis : List Text) (expressions : List Tree)
  | other (kind : Text) (children : List Tree)
deriving Repr, Inhabited

namespace Tree

def empty : Tree := program []

def isEmpty : Tree → Bool
  | program [] => true
  | _ => false

def name? : Tree → Option Text
  | identifier name => some name
  | _ => none

def string? : Tree → Option Text
  | literal (.string t) => some t
  | _ => none

def children : Tree → List Tree
  | program body => body
  | call callee arguments => callee :: arguments
  | member object property _ => [object, property]
  | identifier _ => []
  | literal _ => []
  | template _ expressions => expressions
  | other _ children => children

mutual

def size : Tree → Nat
  | program body => sizes body + 1
  | call callee arguments => callee.size + sizes arguments + 1
  | member object property _ => object.size + property.size + 1
  | identifier _ => 1
  | literal _ => 1
  | template _ expressions => sizes expressions + 1
  | other _ children => sizes children + 1

def sizes : List Tree → Nat
  | [] => 0
  | t :: ts => t.size + sizes ts

end

/-- Visits the trees of a queue, each before its children: the first list is the front
of the queue, the second its end, last first. -/
def visit : Nat → List Tree → List Tree → List Tree
  | 0, _, _ => []
  | fuel + 1, t :: front, back => t :: visit fuel front (t.children.reverse ++ back)
  | fuel + 1, [], back =>
    match back.reverse with
    | [] => []
    | t :: front => t :: visit fuel front t.children.reverse

def breadthFirst (t : Tree) : List Tree := visit t.size [t] []

mutual

def level : Nat → Tree → List Tree
  | 0, t => [t]
  | n + 1, program body => levels n body
  | n + 1, call callee arguments => callee.level n ++ levels n arguments
  | n + 1, member object property _ => object.level n ++ property.level n
  | _ + 1, identifier _ => []
  | _ + 1, literal _ => []
  | n + 1, template _ expressions => levels n expressions
  | n + 1, other _ children => levels n children

def levels : Nat → List Tree → List Tree
  | _, [] => []
  | n, t :: ts => t.level n ++ levels n ts

end

end Tree

def Literal.toDocument : Literal → Json.Value
  | string t => .string t
  | number x => if x.isFinite then .number x.toText else .null
  | boolean b => .bool b
  | null => .null
  | regex t => .string t

namespace Tree

def tagged (form : String) (members : List (String × Json.Value)) : Json.Value :=
  .object (("type".toList, .str form) :: members.map fun m => (m.1.toList, m.2))

mutual

def document (ofLiteral : Literal → Json.Value) : Tree → Json.Value
  | program body => tagged "Program" [("body", .array (documents ofLiteral body))]
  | call callee arguments =>
    tagged "CallExpression"
      [("callee", callee.document ofLiteral), ("arguments", .array (documents ofLiteral arguments))]
  | member object property computed =>
    tagged "MemberExpression"
      [("object", object.document ofLiteral), ("property", property.document ofLiteral),
        ("computed", .bool computed)]
  | identifier name => tagged "Identifier" [("name", .string name)]
  | literal value => tagged "Literal" [("value", ofLiteral value)]
  | template quasis expressions =>
    tagged "TemplateLiteral"
      [("quasis", .array (quasis.map .string)),
        ("expressions", .array (documents ofLiteral expressions))]
  | other kind children =>
    tagged "Other" [("kind", .string kind), ("children", .array (documents ofLiteral children))]

def documents (ofLiteral : Literal → Json.Value) : List Tree → List Json.Value
  | [] => []
  | t :: ts => t.document ofLiteral :: documents ofLiteral ts

end

def toDocument (t : Tree) : Json.Value := t.document Literal.toDocument

end Tree

end EndpointScout.Script
