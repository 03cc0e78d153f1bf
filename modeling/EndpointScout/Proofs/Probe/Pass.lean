import EndpointScout.Probe
import EndpointScout.Proofs.Crawl.Levels
import EndpointScout.Proofs.Store.History

/-! Probing a store. Each entry without an outcome is probed once, in the order of the entries;
the others are not touched, and a second pass finds nothing to do. -/
namespace EndpointScout

theorem Store.eq_of_entries_eq {s s' : Store} (h : s.entries = s'.entries) : s = s' := by
  obtain ⟨entries, keys, hkeys, hnodup⟩ := s
  obtain ⟨entries', keys', hkeys', hnodup'⟩ := s'
  obtain rfl : entries = entries' := h
  obtain rfl : keys = keys' := hkeys.trans hkeys'.symm
  rfl

def Candidate.settled (c : Candidate) : Option Outcome → Candidate
  | some o => c.recordProbe o.reachable o.status
  | none => c

theorem Candidate.recordProbe_of_not_isProbed {c : Candidate} (h : c.isProbed = false) (r : Bool)
    (n : UInt16) : c.recordProbe r n = { c with reachable := some r, status := some n } := by
  rw [recordProbe, if_neg (by simp [h])]

namespace Prober
open Web

def progressText (total : Nat) (x : Candidate × Nat) : Text :=
  "Probing [".toList ++ Text.ofNat (x.2 + 1) ++ '/' :: Text.ofNat total ++ "] ".toList ++ x.1.value

section
variable [SuffixList] (p : Prober) (site : Site) (base : Url)

/-- The exchanges once the candidates without an outcome have been probed in turn. -/
def logAfter (log : Log) (cs : List Candidate) : Log :=
  (cs.filter fun c => !c.isProbed).foldl (fun log c => (p.probe site c base log).2) log

variable {p site base} {total index : Nat} {c : Candidate} {cs : List Candidate} {log : Log}

theorem logAfter_cons_of_isProbed (h : c.isProbed) :
    p.logAfter site base log (c :: cs) = p.logAfter site base log cs := by
  rw [logAfter, List.filter_cons_of_neg (by simp [h]), logAfter]

theorem logAfter_cons_of_not_isProbed (h : c.isProbed = false) :
    p.logAfter site base log (c :: cs) =
      p.logAfter site base (p.probe site c base log).2 cs := by
  rw [logAfter, List.filter_cons_of_pos (by simp [h]), List.foldl_cons, logAfter]

theorem probeGo_cons_of_isProbed (h : c.isProbed) :
    p.probeGo site base total index (c :: cs) log =
      let rest := p.probeGo site base total (index + 1) cs log
      { rest with outcomes := none :: rest.outcomes } := by
  rw [probeGo, if_pos h]

theorem probeGo_cons_of_not_isProbed (h : c.isProbed = false) :
    p.probeGo site base total index (c :: cs) log =
      let visit := p.probe site c base log
      let rest := p.probeGo site base total (index + 1) cs visit.2
      ⟨some visit.1 :: rest.outcomes, progressText total (c, index) :: rest.messages,
        rest.answered + if visit.1.reachable then 1 else 0, rest.log⟩ := by
  rw [probeGo, if_neg (by simp [h])]
  rfl

theorem log_probeGo :
    (p.probeGo site base total index cs log).log = p.logAfter site base log cs := by
  induction cs generalizing index log with
  | nil => rfl
  | cons c cs ih =>
    by_cases h : c.isProbed
    · rw [probeGo_cons_of_isProbed h, logAfter_cons_of_isProbed h]
      exact ih
    · rw [Bool.not_eq_true] at h
      rw [probeGo_cons_of_not_isProbed h, logAfter_cons_of_not_isProbed h]
      exact ih

theorem messages_probeGo :
    (p.probeGo site base total index cs log).messages =
      ((cs.zipIdx index).filter fun x => !x.1.isProbed).map (progressText total) := by
  induction cs generalizing index log with
  | nil => rfl
  | cons c cs ih =>
    by_cases h : c.isProbed
    · rw [probeGo_cons_of_isProbed h, List.zipIdx_cons,
        List.filter_cons_of_neg (by simp [h])]
      exact ih
    · rw [Bool.not_eq_true] at h
      rw [probeGo_cons_of_not_isProbed h, List.zipIdx_cons,
        List.filter_cons_of_pos (by simp [h]), List.map_cons, ← ih]

theorem getElem?_outcomes_probeGo {i : Nat} (hi : cs[i]? = some c) :
    (p.probeGo site base total index cs log).outcomes[i]? =
      some (if c.isProbed then none
        else some (p.probe site c base (p.logAfter site base log (cs.take i))).1) := by
  induction cs generalizing index log i with
  | nil => cases hi
  | cons d cs ih =>
    by_cases h : d.isProbed
    · rw [probeGo_cons_of_isProbed h]
      cases i with
      | zero =>
        obtain rfl : d = c := Option.some.inj hi
        simp [h]
      | succ i =>
        rw [List.take_succ_cons, logAfter_cons_of_isProbed h]
        exact ih hi
    · rw [Bool.not_eq_true] at h
      rw [probeGo_cons_of_not_isProbed h]
      cases i with
      | zero =>
        obtain rfl : d = c := Option.some.inj hi
        simp [h, logAfter]
      | succ i =>
        rw [List.take_succ_cons, logAfter_cons_of_not_isProbed h]
        exact ih hi

theorem answered_probeGo :
    (p.probeGo site base total index cs log).answered =
      ((cs.zip (cs.zipWith Candidate.settled
        (p.probeGo site base total index cs log).outcomes)).filter fun x => !x.1.isProbed).countP
          fun x => x.2.reachable = some true := by
  induction cs generalizing index log with
  | nil => rfl
  | cons c cs ih =>
    by_cases h : c.isProbed
    · rw [probeGo_cons_of_isProbed h]
      simp [h, ← ih]
    · rw [Bool.not_eq_true] at h
      rw [probeGo_cons_of_not_isProbed h]
      simp [h, List.countP_cons, ← ih, Candidate.settled, Candidate.recordProbe_of_not_isProbed h]

theorem probeGo_of_isProbed (h : ∀ c ∈ cs, c.isProbed) :
    p.probeGo site base total index cs log = ⟨List.replicate cs.length none, [], 0, log⟩ := by
  induction cs generalizing index with
  | nil => rfl
  | cons c cs ih =>
    obtain ⟨hc, hcs⟩ := List.forall_mem_cons.1 h
    rw [probeGo_cons_of_isProbed hc, ih hcs]
    rfl

section Store
variable {s : Store}

theorem entries_probeAll :
    (p.probeAll site base s log).1.entries =
      s.entries.zipWith Candidate.settled
        (p.probeGo site base s.size 0 s.entries log).outcomes := by
  apply List.ext_getElem?
  intro i
  rw [probeAll, Store.getElem?_probe, List.getElem?_zipWith]
  cases hi : s.entries[i]? with
  | none => rfl
  | some c =>
    obtain ⟨o, ho⟩ : ∃ o,
        (p.probeGo site base s.size 0 s.entries log).outcomes[i]? = some o :=
      ⟨_, getElem?_outcomes_probeGo hi⟩
    simp only [Option.map_some, ho, Option.bind_some, id_eq]
    cases o with
    | none => rfl
    | some o => rfl

theorem getElem?_probeAll {i : Nat} (hi : s.entries[i]? = some c) :
    (p.probeAll site base s log).1.entries[i]? =
      some (if c.isProbed then c
        else
          let o := (p.probe site c base (p.logAfter site base log (s.entries.take i))).1
          { c with reachable := some o.reachable, status := some o.status }) := by
  rw [entries_probeAll, List.getElem?_zipWith, hi, getElem?_outcomes_probeGo hi]
  by_cases h : c.isProbed
  · simp [h, Candidate.settled]
  · rw [Bool.not_eq_true] at h
    simp [h, Candidate.settled, Candidate.recordProbe_of_not_isProbed h]

theorem exists_of_getElem?_probeAll {i : Nat} {e : Candidate}
    (h : (p.probeAll site base s log).1.entries[i]? = some e) :
    ∃ c, s.entries[i]? = some c ∧ e = if c.isProbed then c
      else
        let o := (p.probe site c base (p.logAfter site base log (s.entries.take i))).1
        { c with reachable := some o.reachable, status := some o.status } := by
  cases hi : s.entries[i]? with
  | none =>
    rw [entries_probeAll, List.getElem?_zipWith, hi] at h
    cases h
  | some c =>
    rw [getElem?_probeAll hi] at h
    exact ⟨c, rfl, (Option.some.inj h).symm⟩

theorem isProbed_of_mem_probeAll {e : Candidate}
    (h : e ∈ (p.probeAll site base s log).1.entries) : e.isProbed := by
  obtain ⟨i, hi⟩ := List.mem_iff_getElem?.1 h
  obtain ⟨c, -, rfl⟩ := exists_of_getElem?_probeAll hi
  split
  · assumption
  · rfl

theorem probeAll_of_isProbed (h : ∀ c ∈ s.entries, c.isProbed) :
    p.probeAll site base s log = (s, ⟨List.replicate s.size none, [], 0, log⟩) := by
  have hreport : p.probeGo site base s.size 0 s.entries log =
      ⟨List.replicate s.size none, [], 0, log⟩ := probeGo_of_isProbed h
  have hstore : (p.probeAll site base s log).1 = s := by
    apply Store.eq_of_entries_eq
    rw [entries_probeAll, hreport, Store.size]
    apply List.ext_getElem?
    intro i
    rw [List.getElem?_zipWith, List.getElem?_replicate]
    cases hi : s.entries[i]? with
    | none => rfl
    | some c => simp [(List.getElem?_eq_some_iff.1 hi).1, Candidate.settled]
  exact Prod.ext hstore hreport

end Store

theorem bare_probeAll (p : Prober) (site : Site) (base : Url) (s : Store) (log : Log) :
    (p.probeAll site base s log).1.entries.map Candidate.bare = s.entries.map Candidate.bare :=
  s.bare_probe _

theorem size_probeAll (p : Prober) (site : Site) (base : Url) (s : Store) (log : Log) :
    (p.probeAll site base s log).1.size = s.size := by
  have h := congrArg List.length (p.bare_probeAll site base s log)
  rwa [List.length_map, List.length_map] at h

/-- A pass of probes keeps the entries of a store, their order and their keys, and what is recorded
of those that have an outcome. The others get the outcome of a probe, one after the other in the
order of the entries, with a message for each; nothing else is sent, and the new outcomes that are
answers are counted. A second pass, by whatever prober, does nothing, and no key that was there is
ever accepted again. -/
theorem probeAll_settles_once (p : Prober) (site : Site) (base : Url) (s : Store) (log : Log) :
    let after := (p.probeAll site base s log).1
    let report := (p.probeAll site base s log).2
    after.keys = s.keys ∧ after.entries.map Candidate.bare = s.entries.map Candidate.bare ∧
    (∀ i c, s.entries[i]? = some c → after.entries[i]? = some (if c.isProbed then c
      else
        let o := (p.probe site c base (p.logAfter site base log (s.entries.take i))).1
        { c with reachable := some o.reachable, status := some o.status })) ∧
    report.log = p.logAfter site base log s.entries ∧
    report.messages =
      (s.entries.zipIdx.filter fun x => !x.1.isProbed).map (progressText s.size) ∧
    report.answered = ((s.entries.zip after.entries).filter fun x => !x.1.isProbed).countP
      (fun x => x.2.reachable = some true) ∧
    (∀ (p' : Prober) (site' : Site) (base' : Url) (log' : Log),
      p'.probeAll site' base' after log' =
        (after, ⟨List.replicate s.size none, [], 0, log'⟩)) ∧
    ∀ (es : List Store.Event) (c : Candidate), c.key ∈ s.entries.map Candidate.key →
      (after.run es).1.add c = ((after.run es).1, false) := by
  refine ⟨rfl, p.bare_probeAll site base s log, fun i c hi => getElem?_probeAll hi, log_probeGo,
    messages_probeGo, ?_, ?_, ?_⟩
  · rw [entries_probeAll]
    exact answered_probeGo
  · intro p' site' base' log'
    rw [← p.size_probeAll site base s log]
    exact probeAll_of_isProbed fun c => isProbed_of_mem_probeAll
  · intro es c hc
    apply Store.add_of_mem_keys
    rw [Store.mem_keys_run]
    left
    rw [probeAll, Store.keys_probe]
    exact hc

end

/-- An entry that was given an outcome by hand, one that answers and one that does not. -/
def mixedStore : Store := Store.empty.addAll
  [⟨"/done".toList, .relative, .static, some false, some 404⟩,
    ⟨"/gone".toList, .relative, .fetch, none, none⟩,
    ⟨"http://b.org/dead".toList, .external, .sitemap, none, none⟩]

def goneSite : Site := .ofFunction fun r =>
  if r.url = "http://a.co/gone".toList then .answered ⟨410, by decide, [], []⟩ else .dropped

def patientProber : Prober := ⟨⟨3⟩, 5000, 3000⟩

attribute [local instance] Environment.plain

theorem probeAll_settles_once_mixed :
    let p := patientProber
    let after := (p.probeAll goneSite Crawler.pageA mixedStore []).1
    let report := (p.probeAll goneSite Crawler.pageA mixedStore []).2
    let done : Candidate := ⟨"/done".toList, .relative, .static, some false, some 404⟩
    (mixedStore.entries[0]? = some done ∧ after.entries[0]? = some done) ∧
    (mixedStore.entries[1]? = some ⟨"/gone".toList, .relative, .fetch, none, none⟩ ∧
      after.entries[1]? = some ⟨"/gone".toList, .relative, .fetch, some true, some 410⟩) ∧
    report.messages =
      ["Probing [2/3] /gone".toList, "Probing [3/3] http://b.org/dead".toList] ∧
    report.answered = 1 ∧
    p.probeAll goneSite Crawler.pageA after report.log =
      (after, ⟨[none, none, none], [], 0, report.log⟩) ∧
    done.key ∈ mixedStore.entries.map Candidate.key ∧ after.add done = (after, false) := by
  obtain ⟨-, -, hentries, -, hmessages, hanswered, hagain, hlater⟩ :=
    probeAll_settles_once patientProber goneSite Crawler.pageA mixedStore []
  have hdone : mixedStore.entries[0]? =
      some ⟨"/done".toList, .relative, .static, some false, some 404⟩ := by decide +kernel
  have hgone : mixedStore.entries[1]? =
      some ⟨"/gone".toList, .relative, .fetch, none, none⟩ := by decide +kernel
  have hkey : (⟨"/done".toList, .relative, .static, some false, some 404⟩ : Candidate).key ∈
      mixedStore.entries.map Candidate.key :=
    List.mem_map_of_mem (List.mem_of_getElem? hdone)
  refine ⟨⟨hdone, hentries 0 _ hdone⟩, ⟨hgone, ?_⟩, ?_, ?_, ?_, hkey, hlater [] _ hkey⟩
  · rw [hentries 1 _ hgone]
    decide +kernel
  · rw [hmessages]
    decide +kernel
  · rw [hanswered]
    decide +kernel
  · exact hagain patientProber goneSite Crawler.pageA _

end Prober

end EndpointScout
