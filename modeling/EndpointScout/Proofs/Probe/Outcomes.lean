import EndpointScout.Proofs.Probe.Pass

/-! Probing gives each candidate an outcome whose status tells whether anything answered. -/
namespace EndpointScout

/-- The status 0 stands for no answer. -/
def Outcome.IsSound (o : Outcome) : Prop := o.status = 0 ↔ o.reachable = false

theorem Outcome.isSound_unreachable : unreachable.IsSound := by simp [IsSound, unreachable]

theorem Outcome.isSound_answered (r : Web.Response) : (answered r.status).IsSound := by
  simp [IsSound, answered, r.status_ne_zero]

def Candidate.IsSettled (c : Candidate) : Prop :=
  ∃ reachable status, c.reachable = some reachable ∧ c.status = some status ∧
    (status = 0 ↔ reachable = false)

namespace Prober
variable (p : Prober) (site : Web.Site)

theorem isSound_ask (u : Url) (log : Web.Log) : (p.ask site u log).1.IsSound := by
  rw [ask]
  split
  · exact Outcome.isSound_answered _
  · split
    · exact Outcome.isSound_answered _
    · exact Outcome.isSound_unreachable

variable [SuffixList]

theorem isSound_probe (c : Candidate) (base : Url) (log : Web.Log) :
    (p.probe site c base log).1.IsSound := by
  rw [probe]
  split
  · exact Outcome.isSound_unreachable
  · split
    · exact Outcome.isSound_unreachable
    · exact p.isSound_ask site _ log

theorem isSettled_probeAll {base : Url} {store : Store} (log : Web.Log)
    (h : ∀ c ∈ store.entries, c.isProbed = false) :
    ∀ e ∈ (p.probeAll site base store log).1.entries, e.IsSettled := by
  intro e he
  obtain ⟨i, hi⟩ := List.mem_iff_getElem?.1 he
  obtain ⟨c, hc, hcase⟩ := exists_of_getElem?_probeAll hi
  have hsound := p.isSound_probe site c base (p.logAfter site base log (store.entries.take i))
  rw [if_neg (by simp [h c (List.mem_of_getElem? hc)])] at hcase
  exact hcase ▸ ⟨_, _, rfl, rfl, hsound⟩

end Prober

end EndpointScout
