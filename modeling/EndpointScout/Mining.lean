import EndpointScout.Candidate.Admission
import EndpointScout.Candidate.Store
import EndpointScout.Json.Token
import EndpointScout.Json.Writer
import EndpointScout.Script.Tree

/-! Finding endpoints in scripts: every string of a tree is offered once, and the URLs
that calls for requests are given are offered again under the name of the call. -/
namespace EndpointScout

structure Find where
  source : Source
  text : Text
deriving Repr, DecidableEq

namespace Store

variable [SuffixList]

def accept (s : Store) (target : Target) (f : Find) : Store × Bool :=
  let cleaned := Candidate.cleanLiteral f.text
  if target.accepts cleaned then
    ((s.add { value := Candidate.canonical cleaned, kind := Kind.classify cleaned,
              source := f.source }).1, true)
  else (s, false)

def acceptAll (s : Store) (target : Target) : List Find → Store × Nat
  | [] => (s, 0)
  | f :: fs =>
    let (s, accepted) := s.accept target f
    let (s, n) := s.acceptAll target fs
    (s, n + if accepted then 1 else 0)

end Store

namespace Script.Tree

def literalFinds (t : Tree) : List Find :=
  (Json.stringsIn t.toDocument.compact).map fun s => ⟨.static, s⟩

def argument? (source : Source) (index : Nat) (arguments : List Tree) : List Find :=
  ((arguments[index]?.bind string?).map (Find.mk source)).toList

/-- The URL in a call of `fetch`, of a member of `axios`, or of a member `open`. -/
def callFinds : Tree → List Find
  | call (identifier name) arguments =>
    if name = "fetch".toList then argument? .fetch 0 arguments else []
  | call (member object property _) arguments =>
    (if object.name? = some "axios".toList then argument? .axios 0 arguments else []) ++
      (if property.name? = some "open".toList then argument? .xmlhttp 1 arguments else [])
  | _ => []

/-- All finds of a tree: its strings, then the URLs in its calls, shallow calls first. -/
def finds (t : Tree) : List Find := t.literalFinds ++ t.breadthFirst.flatMap callFinds

end Script.Tree

def Store.mine [SuffixList] (s : Store) (target : Target) (t : Script.Tree) : Store × Nat :=
  s.acceptAll target t.finds

end EndpointScout
