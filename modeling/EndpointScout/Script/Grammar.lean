import EndpointScout.Script.Grammar.Statement

/-! Reading a script: every rule by its production, as deep as the text is long. -/
namespace EndpointScout.Script

namespace Grammar

def production (g : Grammar) : Rule → Build Unit
  | .statement => statement g
  | .block => block g
  | .expression => expression g
  | .expressions => expressions g
  | .unary => unary g
  | .binary level => binary g level
  | .pattern => pattern g
  | .destructuring => destructuring g
  | .parameters => parameters g
  | .arguments => arguments g
  | .signature => signature g
  | .object => objectLiteral g
  | .extended => extended g
  | .classBody => classBody g
  | .markup => markup g
  | .type => type g
  | .primaryType => primaryType g
  | .typeArguments => typeArguments g
  | .typeParameters => typeParameters g
  | .declaration => declaration g

def runRule (d : Dialect) (size : Nat) : Nat → Bool → Rule → Build Unit
  | 0, _, _ => failure
  | fuel + 1, ends, r => production ⟨d, size, ends, runRule d size fuel⟩ r

end Grammar

/-- The syntax tree of a text, by rules nested and repeated no more than `size` allows. -/
def parseWithin? (d : Dialect) (size : Nat) (t : Text) : Option Syntax :=
  if t.any fun c => c.toNat == 0 then none
  else
    let g : Grammar := ⟨d, size, false, Grammar.runRule d size (12 * size)⟩
    match (Grammar.program g).run ⟨t, []⟩ with
    | some (_, c) => some (.node none "program" [] c.children.reverse)
    | none => none

/-- How deep and how long the parts of a text may be. -/
def boundOf (t : Text) : Nat := t.length + 2

def parse? (d : Dialect) (t : Text) : Option Syntax := parseWithin? d (boundOf t) t

end EndpointScout.Script
