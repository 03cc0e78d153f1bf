import EndpointScout.Candidate.Store
import EndpointScout.Domain.Target
import EndpointScout.Web.Client

/-! Asking whether candidates answer. -/
namespace EndpointScout

/-- What a probe saw; the status is 0 if nothing answered. -/
structure Outcome where
  reachable : Bool
  status : UInt16
deriving Repr, DecidableEq

namespace Outcome

def unreachable : Outcome := ⟨false, 0⟩

def answered (status : UInt16) : Outcome := ⟨true, status⟩

end Outcome

def Candidate.probeUrl? (c : Candidate) (base : Url) : Option Url :=
  Url.parse? (if c.isRelative then base.origin ++ c.value else c.value)

structure Prober where
  client : Web.Client
  getTimeout : Nat
  headTimeout : Nat
deriving Repr, DecidableEq

namespace Prober

def create (config : Config) : Except ScanError Prober := do
  pure ⟨← Web.Client.create config config.probeMaxRedirects, config.probeGetTimeout,
    config.probeHeadTimeout⟩

def getMode (p : Prober) : Web.Mode := ⟨.get, p.getTimeout⟩

def headMode (p : Prober) : Web.Mode := ⟨.head, p.headTimeout⟩

/-- Asks for a URL: any answer will do. The shorter request is only sent if the first had
no answer. -/
def ask (p : Prober) (site : Web.Site) (u : Url) (log : Web.Log) : Outcome × Web.Log :=
  match p.client.send site p.getMode u log with
  | (some r, log) => (.answered r.status, log)
  | (none, log) =>
    match p.client.send site p.headMode u log with
    | (some r, log) => (.answered r.status, log)
    | (none, log) => (.unreachable, log)

variable [SuffixList]

def probe (p : Prober) (site : Web.Site) (c : Candidate) (base : Url) (log : Web.Log) :
    Outcome × Web.Log :=
  match c.probeUrl? base with
  | none => (.unreachable, log)
  | some u => if (Domain.ofUrl? u).isNone then (.unreachable, log) else p.ask site u log

/-- What probing a list of candidates gives: an outcome for each that had none. -/
structure Report where
  outcomes : List (Option Outcome)
  messages : List Text
  answered : Nat
  log : Web.Log

def probeGo (p : Prober) (site : Web.Site) (base : Url) (total : Nat) :
    Nat → List Candidate → Web.Log → Report
  | _, [], log => ⟨[], [], 0, log⟩
  | index, c :: cs, log =>
    if c.isProbed then
      let rest := p.probeGo site base total (index + 1) cs log
      { rest with outcomes := none :: rest.outcomes }
    else
      let message := "Probing [".toList ++ Text.ofNat (index + 1) ++ '/' :: Text.ofNat total ++
        "] ".toList ++ c.value
      let (outcome, log) := p.probe site c base log
      let rest := p.probeGo site base total (index + 1) cs log
      { rest with
        outcomes := some outcome :: rest.outcomes
        messages := message :: rest.messages
        answered := rest.answered + if outcome.reachable then 1 else 0 }

def probeAll (p : Prober) (site : Web.Site) (base : Url) (store : Store) (log : Web.Log) :
    Store × Report :=
  let report := p.probeGo site base store.size 0 store.entries log
  (store.probe fun i _ => (report.outcomes[i]?.bind id).map fun o => (o.reachable, o.status),
    report)

end Prober

end EndpointScout
