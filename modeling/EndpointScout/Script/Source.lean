import EndpointScout.Config
import EndpointScout.Script.Grammar
import EndpointScout.Script.Lowering
import EndpointScout.Text.Utf8

/-! Script text: how it is cut and cleaned before it is read, and the tree that is
read from it. -/
namespace EndpointScout.Script

/-- The length of a reference to a source map at the front of the text: a comment mark,
the name after any white space, and the rest of the line. -/
def mapReference? (t : Text) : Option Nat :=
  match t with
  | '/' :: '/' :: mark :: r =>
    if mark == '#' || mark == '@' then
      let name := r.dropWhile Text.isBlank
      (Text.dropPrefix? name "sourceMappingURL=".toList).map fun target =>
        let rest := target.dropWhile fun c => c != '\r' && c != '\n'
        t.length - rest.length
    else none
  | _ => none

def withoutReferences (skip : Nat) : Text → Text
  | [] => []
  | c :: t =>
    match skip with
    | n + 1 => withoutReferences n t
    | 0 =>
      match mapReference? (c :: t) with
      | some n => withoutReferences (n - 1) t
      | none => c :: withoutReferences 0 t

def prepare (maxBytes : Nat) (t : Text) : Text :=
  withoutReferences 0 (Text.Utf8.takeBytes maxBytes t)

def treeWithin (size : Nat) (t : Text) : Tree :=
  match (parseWithin? .javascript size t).orElse fun _ => parseWithin? .typescript size t with
  | some s => (s.lower fun _ => false).getD Tree.empty
  | none => Tree.empty

/-- How the reading of a text ends: in time, without a result because its own budget is
used up, or given up by whoever waits for it. -/
inductive Ending where
  | finished
  | exhausted
  | abandoned
deriving Repr, DecidableEq

/-- How long it takes to read texts: how the reading ends that has so many milliseconds,
begins at a given moment and is of a given text. -/
class Clock where
  ending : (deadline moment : Nat) → Text → Ending

variable [Clock]

def endingOf (config : Config) (t : Text) (moment : Nat) : Ending :=
  Clock.ending config.parseDeadline moment (prepare config.maxScriptBytes t)

def isAbandoned (config : Config) (t : Text) (moment : Nat) : Bool :=
  !t.all Text.isBlank && endingOf config t moment == .abandoned

/-- The tree of a script; one that is blank, missing or malformed, or takes too long, has no
statements. -/
def read (config : Config) (source : Option Text) (moment : Nat := 0) : Tree :=
  match source with
  | none => Tree.empty
  | some t =>
    if t.all Text.isBlank || endingOf config t moment != .finished then Tree.empty
    else treeWithin (boundOf t) (prepare config.maxScriptBytes t)

end EndpointScout.Script
