import EndpointScout.Record.Basic
import EndpointScout.Json.Reader
import EndpointScout.Json.Writer

/-! Candidates and records as JSON documents. -/
namespace EndpointScout

open Json

def probeMembers (reachable : Option Bool) (status : Option UInt16) : List (Text × Value) :=
  ((reachable.map fun b => ("reachable".toList, Value.bool b)).toList) ++
    ((status.map fun n => ("status".toList, Value.ofNat n.toNat)).toList)

def Candidate.toDocument (c : Candidate) : Value :=
  .object (("value".toList, .string c.value) :: ("type".toList, .str c.kind.name) ::
    ("source".toList, .str c.source.name) :: probeMembers c.reachable c.status)

def Record.toDocument (r : Record) : Value :=
  .object (("value".toList, .string r.value) :: ("resolved_url".toList, .string r.resolvedUrl) ::
    ("type".toList, .str r.kind.name) :: ("source".toList, .str r.source.name) ::
    probeMembers r.reachable r.status)

namespace Document

def kindReader : Reader Kind := Reader.oneOf (Kind.all.map fun k => (k.name, k))

def sourceReader : Reader Source := Reader.oneOf (Source.all.map fun s => (s.name, s))

def reachableReader : Reader (Option Bool) := Reader.optional Reader.bool

def statusReader : Reader (Option UInt16) :=
  Reader.optional (Nat.toUInt16 <$> Reader.natBelow 65536)

/-- The members met so far. -/
structure Fields where
  value : Option Text := none
  resolvedUrl : Option Text := none
  kind : Option Kind := none
  source : Option Source := none
  reachable : Option (Option Bool) := none
  status : Option (Option UInt16) := none

def fill (slot : Option α) (r : Reader α) : Reader (Option α) :=
  if slot.isSome then Reader.fail .mismatch
  else do
    Reader.colon
    some <$> r

def Fields.take (resolves : Bool) (f : Fields) (name : Text) : Reader Fields :=
  if name == "value".toList then do pure { f with value := ← fill f.value Reader.string }
  else if resolves && name == "resolved_url".toList then do
    pure { f with resolvedUrl := ← fill f.resolvedUrl Reader.string }
  else if name == "type".toList then do pure { f with kind := ← fill f.kind kindReader }
  else if name == "source".toList then do pure { f with source := ← fill f.source sourceReader }
  else if name == "reachable".toList then do
    pure { f with reachable := ← fill f.reachable reachableReader }
  else if name == "status".toList then do pure { f with status := ← fill f.status statusReader }
  else do
    Reader.colon
    Reader.ignored
    pure f

def Fields.read (resolves : Bool) : Nat → Bool → Fields → Reader Fields
  | 0, _, _ => Reader.fail .incomplete
  | fuel + 1, first, f => do
    match ← Reader.nextName first with
    | none => pure f
    | some name =>
      let f ← f.take resolves name
      f.read resolves fuel false

def required (o : Option α) : Reader α :=
  match o with
  | some v => pure v
  | none => Reader.fail .mismatch

def members (resolves : Bool) : Reader Fields := fun t =>
  Fields.read resolves (t.length + 1) true {} t

def item (first : Bool) (r : Reader α) : Reader α := do
  match ← Reader.nextItem first with
  | .more => r
  | .closed => Reader.fail .mismatch

def optionalItem (r : Reader (Option α)) : Reader (Option α) := do
  match ← Reader.nextItem false with
  | .more => r
  | .closed => pure none

/-- An object by its members or an array by its items. -/
def structured (object array : Reader α) : Reader α := do
  match ← Reader.peekSome with
  | '[' =>
    Reader.skip
    let v ← array
    Reader.closeArray
    pure v
  | '\x7b' =>
    Reader.skip
    let v ← object
    Reader.skip
    pure v
  | _ => Reader.otherKind

end Document

open Document

def Candidate.reader : Reader Candidate :=
  structured
    (do
      let f ← members false
      pure ⟨← required f.value, ← required f.kind, ← required f.source,
        f.reachable.getD none, f.status.getD none⟩)
    (do
      pure ⟨← item true Reader.string, ← item false kindReader, ← item false sourceReader,
        ← item false reachableReader, ← item false statusReader⟩)

def Record.reader : Reader Record :=
  structured
    (do
      let f ← members true
      pure ⟨← required f.value, ← required f.resolvedUrl, ← required f.kind,
        ← required f.source, f.reachable.getD none, f.status.getD none⟩)
    (do
      pure ⟨← item true Reader.string, ← item false Reader.string, ← item false kindReader,
        ← item false sourceReader, ← optionalItem reachableReader, ← optionalItem statusReader⟩)

def Record.listGo : Nat → Bool → Reader (List Record)
  | 0, _ => Reader.fail .incomplete
  | fuel + 1, first => do
    match ← Reader.nextItem first with
    | .closed => pure []
    | .more =>
      let r ← Record.reader
      let rs ← Record.listGo fuel false
      pure (r :: rs)

def Record.listReader : Reader (List Record) := do
  match ← Reader.peekSome with
  | '[' =>
    Reader.skip
    let rs ← fun t => Record.listGo (t.length + 1) true t
    Reader.closeArray
    pure rs
  | _ => Reader.otherKind

end EndpointScout
