import EndpointScout.Script.Grammar.Semicolon

/-! The rules through which the grammar refers to itself. -/
namespace EndpointScout.Script

inductive Rule where
  | statement
  | block
  | expression
  | expressions
  | unary
  | binary (level : Nat)
  | pattern
  | destructuring
  | parameters
  | arguments
  | signature
  | object
  | extended
  | classBody
  | markup
  | type
  | primaryType
  | typeArguments
  | typeParameters
  | declaration
deriving Repr, DecidableEq

/-- What a production works with: the dialect, a bound on repetitions, whether the
expression at hand may be ended by the end of a line, and the way to other rules. -/
structure Grammar where
  dialect : Dialect
  fuel : Nat
  ends : Bool
  run : Bool → Rule → Build Unit

namespace Grammar

def inside (g : Grammar) (r : Rule) : Build Unit := g.run false r

def same (g : Grammar) (r : Rule) : Build Unit := g.run g.ends r

def ending (g : Grammar) (r : Rule) : Build Unit := g.run true r

def isTyped (g : Grammar) : Bool := g.dialect == .typescript

def typed (g : Grammar) (p : Build Unit) : Build Unit := if g.isTyped then p else failure

def ended (g : Grammar) : Build Bool :=
  if g.ends then Build.canEnd g.dialect true else pure false

def close (g : Grammar) : Build Unit := Build.semicolon g.dialect true

def closePlain (g : Grammar) : Build Unit := Build.semicolon g.dialect false

end Grammar

namespace Build

def either (p q : Build Unit) : Build Unit := p <|> q

def nextOnly (s : String) (longer : List String) : Build Bool := do
  let t ← ahead
  return Text.startsWith t s.toList && !longer.any fun l => Text.startsWith t l.toList

def equalsSign : Build Unit := do
  if ← nextOnly "=" ["==", "=>"] then token "=" else failure

def nextIsEquals : Build Bool := nextOnly "=" ["==", "=>"]

def nextIsWord : Build Bool := do return !(← wordAhead).isEmpty

end Build

end EndpointScout.Script
