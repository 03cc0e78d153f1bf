import EndpointScout.Text.Basic

/-! Concrete syntax trees of scripts. -/
namespace EndpointScout.Script

/-- The roles of children that calls and member accesses are read by. -/
inductive Field where
  | function
  | arguments
  | object
  | property
  | index
deriving Repr, DecidableEq

/-- A node with its role in the parent, its kind, its text and its named children.
The text is kept where a leaf or a regular expression is read by it. -/
inductive Syntax where
  | node (field : Option Field) (kind : String) (text : Text) (children : List Syntax)
deriving Repr, Inhabited

namespace Syntax

def field : Syntax → Option Field
  | node f _ _ _ => f

def kind : Syntax → String
  | node _ k _ _ => k

def text : Syntax → Text
  | node _ _ t _ => t

def children : Syntax → List Syntax
  | node _ _ _ cs => cs

def withField (f : Field) : Syntax → Syntax
  | node _ k t cs => node (some f) k t cs

def withKind (kind : String) : Syntax → Syntax
  | node f _ t cs => node f kind t cs

def isComment (s : Syntax) : Bool := s.kind == "comment" || s.kind == "html_comment"

def parts (s : Syntax) : List Syntax := s.children.filter fun c => !c.isComment

mutual

def decEq : (s s' : Syntax) → Decidable (s = s')
  | node f k t cs, node f' k' t' cs' =>
    have := decEqAll cs cs'
    decidable_of_iff (f = f' ∧ k = k' ∧ t = t' ∧ cs = cs') (by rw [node.injEq])

def decEqAll : (ss ss' : List Syntax) → Decidable (ss = ss')
  | [], [] => isTrue rfl
  | [], _ :: _ => isFalse (by simp)
  | _ :: _, [] => isFalse (by simp)
  | s :: ss, s' :: ss' =>
    have := decEq s s'
    have := decEqAll ss ss'
    decidable_of_iff (s = s' ∧ ss = ss') (by rw [List.cons.injEq])

end

instance : DecidableEq Syntax := decEq

end Syntax

inductive Dialect where
  | javascript
  | typescript
deriving Repr, DecidableEq

end EndpointScout.Script
