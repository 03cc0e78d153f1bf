import EndpointScout.Text.Basic

/-! Public suffixes: the ends of host names under which names are registered. Which names
are suffixes is a list that others keep, so it is a parameter here. -/
namespace EndpointScout

/-- The list of public suffixes, by what it says of a host name: the public suffix and
one label more, and nothing of names that stop at a suffix. -/
class SuffixList where
  registered? : Text → Option Text

namespace Domain

/-- A rule for host names, its labels from the right. -/
inductive Rule where
  | suffix (labels : List Text)
  /-- One more label of any text belongs to the suffix. -/
  | wildcard (labels : List Text)
  /-- The name is not a suffix although a wildcard covers it. -/
  | exception (labels : List Text)
deriving Repr, DecidableEq

def Rule.read (t : Text) : Rule :=
  match t with
  | '*' :: '.' :: rest => wildcard (Text.splitAt '.' rest).reverse
  | '!' :: rest => exception (Text.splitAt '.' rest).reverse
  | _ => suffix (Text.splitAt '.' t).reverse

def Rule.reach? (r : Rule) (labels : List Text) : Option Nat :=
  match r with
  | suffix ls => if ls.isPrefixOf labels then some ls.length else none
  | wildcard ls =>
    if ls.isPrefixOf labels && ls.length < labels.length then some (ls.length + 1) else none
  | exception ls => if ls.isPrefixOf labels then some (ls.length - 1) else none

def Rule.isException : Rule → Bool
  | exception _ => true
  | _ => false

-- An exception decides, else the longest rule, else the last label alone.
def suffixLength (rules : List Rule) (labels : List Text) : Nat :=
  match (rules.filter Rule.isException).findSome? fun r => r.reach? labels with
  | some n => n
  | none => (rules.filterMap fun r => r.reach? labels).foldl max 1

/-- The list that is given by rules. -/
@[reducible] def listOfRules (rules : List Rule) : SuffixList where
  registered? host :=
    let labels := (Text.splitAt '.' host).reverse
    let n := suffixLength rules labels
    match labels.drop n with
    | [] => none
    | [[]] => none
    | label :: _ => some (Text.join ['.'] (labels.take n ++ [label]).reverse)

end Domain

end EndpointScout
