import EndpointScout.CommandLine.Setting
import EndpointScout.Run

/-! Reading the command line. A value is looked at when the next argument has been
recognized, so that an unknown argument is reported before a faulty value in front of it. -/
namespace EndpointScout.CommandLine

structure Invocation where
  target : Url
  depth : Nat
  filterStatus : Option Text
  out : Option Text
  probe : Bool
  wayback : Bool
  silent : Bool
  verbose : Bool
  noColor : Bool

def Invocation.options (i : Invocation) : RunOptions :=
  { url := i.target.text
    depth := i.depth
    filterStatus := i.filterStatus
    probe := i.probe
    wayback := i.wayback }

/-- What has been given so far. The pending setting has not been looked at. -/
structure Given where
  target : Option Url := none
  depth : Option Nat := none
  filterStatus : Option Text := none
  out : Option Text := none
  flags : List Setting := []
  pending : Option (Setting × Option Text) := none

def depthBound : Nat := 0x10000000000000000

def depthGo : Nat → Text → Except NumberFault Nat
  | n, [] => .ok n
  | n, c :: t =>
    if !Text.isDigit c then .error .digit
    else
      let m := n * 10 + (c.toNat - '0'.toNat)
      if m < depthBound then depthGo m t else .error .overflow

def depthOf (t : Text) : Except NumberFault Nat :=
  match t with
  | [] => .error .empty
  | ['+'] => .error .digit
  | '+' :: ds => depthGo 0 ds
  | ds => depthGo 0 ds

namespace Given

def giveUrl (g : Given) (value : Text) : Except UsageError Given :=
  match Url.parse value with
  | .ok u => .ok { g with target := some u }
  | .error e => .error (.invalidUrl value e)

def giveDepth (g : Given) (value : Text) : Except UsageError Given :=
  if g.depth.isSome then .error (.repeated .depth)
  else match depthOf value with
    | .ok n => .ok { g with depth := some n }
    | .error e => .error (.invalidDepth value e)

def giveFlag (g : Given) (s : Setting) : Except UsageError Given :=
  if g.flags.contains s then .error (.repeated s) else .ok { g with flags := s :: g.flags }

def give (g : Given) (s : Setting) (value : Option Text) : Except UsageError Given :=
  match s, value with
  | .help, _ => .error .help
  | .version, _ => .error .version
  | .url, some v => g.giveUrl v
  | .depth, some v => g.giveDepth v
  | .filterStatus, some v =>
    if g.filterStatus.isSome then .error (.repeated s) else .ok { g with filterStatus := some v }
  | .out, some v => if g.out.isSome then .error (.repeated s) else .ok { g with out := some v }
  | s, none => if s.valueName?.isSome then .error (.missingValue s) else g.giveFlag s
  | s, some _ => g.giveFlag s

def settle (g : Given) : Except UsageError Given :=
  match g.pending with
  | none => .ok g
  | some (s, value) => { g with pending := none }.give s value

def next (g : Given) (s : Setting) (value : Option Text) : Except UsageError Given := do
  (← g.settle).give s value

def postpone (g : Given) (s : Setting) (value : Option Text) : Except UsageError Given := do
  pure { ← g.settle with pending := some (s, value) }

def long (g : Given) (argument : Text) : Except UsageError (Given × Bool) := do
  let (name, attached) := match Text.cutAt? '=' argument with
    | some (name, value) => (name, some value)
    | none => (argument, none)
  match Setting.ofLong? name with
  | none => .error (.unknown ("--".toList ++ name))
  | some s =>
    match s.valueName?, attached with
    | some _, some v => pure (← g.next s (some v), false)
    | some _, none => pure (← g.postpone s none, true)
    | none, some v => .error (.unwantedValue s v)
    | none, none => pure (← g.next s none, false)

def short (g : Given) : Text → Except UsageError (Given × Bool)
  | [] => .ok (g, false)
  | c :: rest =>
    match Setting.ofShort? c with
    | none => .error (.unknown ['-', c])
    | some s =>
      if s.valueName?.isSome then do
        match rest with
        | [] => pure (← g.postpone s none, true)
        | '=' :: v => pure (← g.next s (some v), false)
        | v => pure (← g.next s (some v), false)
      else do
        (← g.next s none).short rest

end Given

/-- Reads arguments from left to right. `trailing` tells that two hyphens stood alone,
`awaiting` that the pending setting has no value yet, `placed` that a target was given. -/
def readGo (trailing awaiting placed : Bool) (g : Given) : List Text → Except UsageError Given
  | [] => g.settle
  | a :: rest =>
    let target : Except UsageError Given := do
      if placed then .error (.unknown a)
      else readGo trailing false true (← g.postpone .url (some a)) rest
    if trailing then target
    else match a with
      | ['-', '-'] => readGo true awaiting placed g rest
      | '-' :: '-' :: name => do
        let (g, awaiting) ← g.long name
        readGo trailing awaiting placed g rest
      | '-' :: c :: letters => do
        let (g, awaiting) ← g.short (c :: letters)
        readGo trailing awaiting placed g rest
      | _ =>
        if awaiting then
          readGo trailing false placed
            { g with pending := g.pending.map fun p => (p.1, some a) } rest
        else target

def read (arguments : List Text) : Except UsageError Invocation := do
  let g ← readGo false false false {} arguments
  match g.target with
  | none => .error .missingTarget
  | some target =>
    pure
      { target
        depth := g.depth.getD 0
        filterStatus := g.filterStatus
        out := g.out
        probe := g.flags.contains .probe
        wayback := g.flags.contains .wayback
        silent := g.flags.contains .silent
        verbose := g.flags.contains .verbose
        noColor := g.flags.contains .noColor }

end EndpointScout.CommandLine
