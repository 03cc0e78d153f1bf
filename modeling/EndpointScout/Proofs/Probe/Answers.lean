import EndpointScout.Probe
import EndpointScout.Proofs.Crawl.Levels
import EndpointScout.Proofs.Web.Redirections

/-! What counts as an answer to a probe. A request that is redirected has been answered, but it
only counts if its redirections come to an end; otherwise the shorter request is sent as if nothing
had answered. -/
namespace EndpointScout.Prober
open Web
variable (p : Prober) {site : Site} {c : Candidate} {base u : Url} {log : Log} {r : Response}

theorem ask_of_settles (h : Settles site p.getMode p.client.maxRedirects u log r) :
    p.ask site u log =
      (.answered r.status, (follow site p.client.maxRedirects p.getMode u log).2) := by
  have hanswer := follow_of_settles h
  rw [ask, Client.send]
  generalize follow site p.client.maxRedirects p.getMode u log = trip at hanswer ⊢
  obtain ⟨answer, log'⟩ := trip
  obtain rfl : answer = some r := hanswer
  rfl

theorem ask_of_fails (h : Fails site p.getMode p.client.maxRedirects u log) {log' : Log}
    (hlog : (follow site p.client.maxRedirects p.getMode u log).2 = log') :
    p.ask site u log =
      ((follow site p.client.maxRedirects p.headMode u log').1.elim .unreachable
        fun r => .answered r.status, (follow site p.client.maxRedirects p.headMode u log').2) := by
  have hanswer := follow_of_fails h
  rw [ask, Client.send]
  generalize follow site p.client.maxRedirects p.getMode u log = trip at hanswer hlog ⊢
  obtain ⟨answer, log''⟩ := trip
  obtain rfl : answer = none := hanswer
  obtain rfl : log'' = log' := hlog
  simp only [Client.send]
  generalize follow site p.client.maxRedirects p.headMode u log'' = trip
  obtain ⟨answer, log'⟩ := trip
  cases answer with
  | none => rfl
  | some r => rfl

theorem not_fails_of_settles {mode : Mode} {hops : Nat}
    (h : Settles site mode hops u log r) : ¬Fails site mode hops u log := by
  intro hfails
  have hnone := follow_of_fails hfails
  rw [follow_of_settles h] at hnone
  cases hnone

section
variable [SuffixList]

theorem probe_of_unregistered (h : ∀ u, c.probeUrl? base = some u → Domain.ofUrl? u = none) :
    p.probe site c base log = (.unreachable, log) := by
  rw [probe]
  cases hurl : c.probeUrl? base with
  | none => rfl
  | some u => simp [h u hurl]

theorem probe_of_registered (hurl : c.probeUrl? base = some u)
    (hdomain : (Domain.ofUrl? u).isSome) :
    p.probe site c base log = p.ask site u log := by
  have hnone : ¬(Domain.ofUrl? u).isNone = true := by
    simpa [Option.isSome_iff_ne_none] using hdomain
  rw [probe, hurl]
  exact if_neg hnone

/-- A candidate without a URL, or at a host without a registrable domain, is not asked for and
does not answer. Any other one is asked for by GET, with the redirections that the answers tell,
and by HEAD if and only if that fails. It has the status of the answer that the first of them to
succeed comes to, and no answer if both fail. So a GET that is answered counts, without any HEAD,
if and only if the answer leads no further, or leads to one that does in as many redirections as
are allowed, over hosts that can be asked for and answer. -/
theorem answered_get_counts_iff (p : Prober) (site : Site) (c : Candidate) (base : Url)
    (log : Log) :
    ((∀ u, c.probeUrl? base = some u → Domain.ofUrl? u = none) →
      p.probe site c base log = (.unreachable, log)) ∧
    ∀ u, c.probeUrl? base = some u → (Domain.ofUrl? u).isSome → ∃ gets heads,
      (p.probe site c base log).2 = heads ++ gets ++ log ∧
      AreSent site p.getMode u log gets ∧
      (heads = [] ∨ AreSent site p.headMode u (gets ++ log) heads) ∧
      (heads ≠ [] ↔ IsAskable u ∧ Fails site p.getMode p.client.maxRedirects u log) ∧
      (∀ r, Settles site p.getMode p.client.maxRedirects u log r →
        (p.probe site c base log).1 = ⟨true, r.status⟩) ∧
      (Fails site p.getMode p.client.maxRedirects u log →
        ∀ r, Settles site p.headMode p.client.maxRedirects u (gets ++ log) r →
          (p.probe site c base log).1 = ⟨true, r.status⟩) ∧
      ((p.probe site c base log).1 = ⟨false, 0⟩ ↔
        Fails site p.getMode p.client.maxRedirects u log ∧
          Fails site p.headMode p.client.maxRedirects u (gets ++ log)) ∧
      ∀ r, gets.getLast? = some ⟨⟨p.getMode, wireText u⟩, .answered r⟩ →
        ((p.probe site c base log).1.reachable = true ∧
            (p.probe site c base log).1.status ≠ 0 ∧ heads = [] ↔
          ∃ s, Settles site p.getMode p.client.maxRedirects u log s) := by
  refine ⟨p.probe_of_unregistered, fun u hurl hdomain => ?_⟩
  obtain ⟨gets, hgets, hsent⟩ := follow_areSent site p.getMode p.client.maxRedirects u log
  obtain ⟨heads, hheads, hsentHead⟩ :=
    follow_areSent site p.headMode p.client.maxRedirects u (gets ++ log)
  rw [p.probe_of_registered hurl hdomain]
  -- The first request alone decides whether there is a second one.
  obtain ⟨r, hr⟩ | hfails := settles_or_fails site p.getMode p.client.maxRedirects u log
  · have hnot := not_fails_of_settles hr
    rw [p.ask_of_settles hr]
    refine ⟨gets, [], hgets, hsent, .inl rfl, ?_, ?_, ?_, ?_, ?_⟩
    · simp [hnot]
    · intro s hs
      have hsame := (follow_of_settles hr).symm.trans (follow_of_settles hs)
      rw [Option.some.inj hsame]
      rfl
    · intro h
      exact absurd h hnot
    · simp [Outcome.answered, hnot]
    · intro s _
      simp only [Outcome.answered, ne_eq, r.status_ne_zero, not_false_eq_true, and_self, true_iff]
      exact ⟨r, hr⟩
  · have hsilent := hsentHead.ne_nil_iff
    rw [p.ask_of_fails hfails hgets]
    refine ⟨gets, heads, by rw [hheads, List.append_assoc], hsent, .inr hsentHead, ?_, ?_, ?_, ?_,
      ?_⟩
    · rw [hsilent, and_iff_left hfails]
    · intro s hs
      exact absurd hfails (not_fails_of_settles hs)
    · intro _ s hs
      rw [follow_of_settles hs]
      rfl
    · rw [and_iff_right hfails, ← follow_eq_none_iff]
      cases (follow site p.client.maxRedirects p.headMode u (gets ++ log)).1 with
      | none => simp [Outcome.unreachable]
      | some s => simp [Outcome.answered]
    · intro s hs
      have hu : IsAskable u := by
        apply hsent.ne_nil_iff.1
        intro hnil
        rw [hnil] at hs
        cases hs
      constructor
      · intro h
        exact absurd h.2.2 (hsilent.2 hu)
      · rintro ⟨t, ht⟩
        exact absurd hfails (not_fails_of_settles ht)

end

def pageLoop : Url := { Crawler.pageA with path := .segments ["loop".toList] }

theorem found_ne_zero : (302 : UInt16) ≠ 0 := by decide

def loopAnswer : Response := ⟨302, found_ne_zero, [("location".toList, "/loop".toList)], []⟩

def loopSite : Site := .ofFunction fun r =>
  if r.url = "http://a.co/loop".toList then .answered loopAnswer else .dropped

def loopCandidate : Candidate := ⟨"/loop".toList, .relative, .static, none, none⟩

def loopProber : Prober := ⟨⟨3⟩, 5000, 3000⟩

theorem redirects_loopSite (mode : Mode) (n : Nat) (log : Log) :
    ∃ log', Redirects loopSite mode n pageLoop log pageLoop log' := by
  induction n generalizing log with
  | zero => exact ⟨log, .refl pageLoop log⟩
  | succ n ih =>
    have hask : IsAskable pageLoop := ⟨by decide, by decide⟩
    have hurl : wireText pageLoop = "http://a.co/loop".toList := by decide
    have hanswer : loopSite log ⟨mode, wireText pageLoop⟩ = .answered loopAnswer := by
      rw [hurl]
      rfl
    have hnext : redirection? pageLoop loopAnswer = some pageLoop := by decide +kernel
    obtain ⟨log', hchain⟩ := ih (⟨⟨mode, wireText pageLoop⟩, .answered loopAnswer⟩ :: log)
    exact ⟨log', .hop hask hanswer hnext hchain⟩

attribute [local instance] Environment.plain

theorem answered_get_counts_iff_loop :
    loopCandidate.probeUrl? Crawler.pageA = some pageLoop ∧ (Domain.ofUrl? pageLoop).isSome ∧
    Fails loopSite loopProber.getMode 3 pageLoop [] ∧
    ∃ gets heads, (loopProber.probe loopSite loopCandidate Crawler.pageA []).2 = heads ++ gets ∧
      (gets.getLast? = some ⟨⟨loopProber.getMode, wireText pageLoop⟩, .answered loopAnswer⟩ ∧
        heads ≠ []) ∧
      (heads ++ gets).map Exchange.delivery = List.replicate 8 (.answered loopAnswer) ∧
      (loopProber.probe loopSite loopCandidate Crawler.pageA []).1 = ⟨false, 0⟩ := by
  have hurl : loopCandidate.probeUrl? Crawler.pageA = some pageLoop := by decide +kernel
  have hdomain : (Domain.ofUrl? pageLoop).isSome := by decide +kernel
  have hfails (mode : Mode) (log : Log) : Fails loopSite mode 3 pageLoop log :=
    have ⟨_, hchain⟩ := redirects_loopSite mode 4 log
    .tooLong hchain
  obtain ⟨gets, heads, hlog, hsent, -, hheads, -, -, hunreachable, -⟩ :=
    (answered_get_counts_iff loopProber loopSite loopCandidate Crawler.pageA []).2 pageLoop hurl
      hdomain
  have hask : IsAskable pageLoop := ⟨by decide, by decide⟩
  rw [List.append_nil] at hlog
  refine ⟨hurl, hdomain, hfails _ [], gets, heads, hlog, ⟨hsent.first hask, ?_⟩, ?_, ?_⟩
  · exact hheads.2 ⟨hask, hfails _ []⟩
  · rw [← hlog]
    decide +kernel
  · exact hunreachable.2 ⟨hfails _ [], hfails _ _⟩

end EndpointScout.Prober
