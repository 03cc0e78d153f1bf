import EndpointScout.Proofs.Url.Origin
import EndpointScout.Proofs.Url.RoundTrip
import EndpointScout.Run

/-! Which options are refused, and that a scan of all others comes to its end. The clients that
are made late and the target that is read a second time cannot fail: whatever could be wrong
with them has been found before the first request. -/
namespace EndpointScout

section Tools
variable {config : Config}

def Config.HasLegalAgent (config : Config) : Prop := ∀ c ∈ config.userAgent, Web.isHeaderChar c

theorem Web.Client.create_of_legal (h : config.HasLegalAgent) (n : Nat) :
    Client.create config n = .ok ⟨n⟩ := if_pos (List.all_eq_true.2 h)

theorem Web.Client.create_of_illegal (h : ¬config.HasLegalAgent) (n : Nat) :
    Client.create config n = .error .client := if_neg fun hall => h (List.all_eq_true.1 hall)

def Crawler.ofConfig (config : Config) (depth : Nat) : Crawler :=
  ⟨⟨⟨config.pageMaxRedirects⟩, ⟨config.scriptMaxRedirects⟩, config.pageTimeout,
    config.scriptTimeout⟩, config, depth⟩

def Collector.ofConfig (config : Config) : Collector :=
  ⟨⟨config.pageMaxRedirects⟩, config.pageTimeout, config.archiveEndpoint⟩

def Prober.ofConfig (config : Config) : Prober :=
  ⟨⟨config.probeMaxRedirects⟩, config.probeGetTimeout, config.probeHeadTimeout⟩

theorem Crawler.create_of_legal (h : config.HasLegalAgent) (depth : Nat) :
    create config depth = .ok (ofConfig config depth) := by
  rw [create, Web.Fetcher.create, Web.Client.create_of_legal h, Web.Client.create_of_legal h]
  rfl

theorem Crawler.create_of_illegal (h : ¬config.HasLegalAgent) (depth : Nat) :
    create config depth = .error .client := by
  rw [create, Web.Fetcher.create, Web.Client.create_of_illegal h]
  rfl

theorem Collector.create_of_legal (h : config.HasLegalAgent) :
    create config = .ok (ofConfig config) := by
  rw [create, Web.Client.create_of_legal h]
  rfl

theorem Prober.create_of_legal (h : config.HasLegalAgent) :
    create config = .ok (ofConfig config) := by
  rw [create, Web.Client.create_of_legal h]
  rfl

end Tools

theorem Url.parse_text_of_http {t : Text} {u : Url} (h : parse t = .ok u) (hhttp : Web.isHttp u)
    (hhost : u.host.isSome) : parse u.text = .ok u := by
  have hfile : isFileScheme u.scheme = false := (special_of_web (isHttp_iff.1 hhttp)).2
  have hauthority : u.authority.isSome := by
    cases ha : u.authority with
    | none => simp [host, ha] at hhost
    | some a => rfl
  exact parse_text_of_authority h hfile hauthority

namespace Run
variable {o : RunOptions} {target : Url} {filter : Option StatusFilter} {e : RunError}

inductive NamesFilter (o : RunOptions) : Option StatusFilter → Prop
  | absent (hspec : o.filterStatus = none) : NamesFilter o none
  | given {spec : Text} {f : StatusFilter} (hspec : o.filterStatus = some spec)
      (hparse : StatusFilter.parse spec = .ok f) (hprobe : o.probe = true) :
      NamesFilter o (some f)

namespace NamesFilter

theorem eq_none (h : NamesFilter o filter) (hspec : o.filterStatus = none) : filter = none := by
  cases h with
  | absent _ => rfl
  | given hsome _ _ =>
    rw [hspec] at hsome
    cases hsome

theorem eq_none_of_not_probe (h : NamesFilter o filter) (hprobe : o.probe = false) :
    filter = none := by
  cases h with
  | absent _ => rfl
  | given _ _ htrue =>
    rw [hprobe] at htrue
    cases htrue

theorem eq_some {spec : Text} (h : NamesFilter o filter) (hspec : o.filterStatus = some spec) :
    ∃ f, filter = some f ∧ StatusFilter.parse spec = .ok f := by
  cases h with
  | absent hnone =>
    rw [hspec] at hnone
    cases hnone
  | given hsome hparse _ =>
    obtain rfl := Option.some.inj (hspec.symm.trans hsome)
    exact ⟨_, rfl, hparse⟩

end NamesFilter

/-- What is wrong with the options. Each fault is one only where those before it are not found. -/
inductive Fault (o : RunOptions) : RunError → Prop
  | filter {spec : Text} {cause : FilterError} (hspec : o.filterStatus = some spec)
      (hparse : StatusFilter.parse spec = .error cause) : Fault o (.filter cause)
  | filterWithoutProbe {spec : Text} {f : StatusFilter} (hspec : o.filterStatus = some spec)
      (hparse : StatusFilter.parse spec = .ok f) (hprobe : o.probe = false) :
      Fault o .filterWithoutProbe
  | invalidTarget {filter : Option StatusFilter} {cause : Url.Error}
      (hfilter : NamesFilter o filter) (hurl : Url.parse o.url = .error cause) :
      Fault o (.invalidTarget o.url cause)
  | unsuitableTarget {filter : Option StatusFilter} {target : Url}
      (hfilter : NamesFilter o filter) (hurl : Url.parse o.url = .ok target)
      (hkind : ¬(Web.isHttp target ∧ target.host.isSome)) : Fault o (.unsuitableTarget o.url)
  | agent {filter : Option StatusFilter} {target : Url} (hfilter : NamesFilter o filter)
      (hurl : Url.parse o.url = .ok target) (hkind : Web.isHttp target ∧ target.host.isSome)
      (hagent : ¬o.config.HasLegalAgent) : Fault o (.scan .client)

/-- Options under which a target is scanned and a filter applied. -/
structure Ready (o : RunOptions) (target : Url) (filter : Option StatusFilter) : Prop where
  filter : NamesFilter o filter
  url : Url.parse o.url = .ok target
  http : Web.isHttp target
  host : target.host.isSome
  agent : o.config.HasLegalAgent

theorem fault_or_ready (o : RunOptions) :
    (∃ e, Fault o e) ∨ ∃ target filter, Ready o target filter := by
  have hrest {filter : Option StatusFilter} (hfilter : NamesFilter o filter) :
      (∃ e, Fault o e) ∨ ∃ target filter, Ready o target filter := by
    cases hurl : Url.parse o.url with
    | error cause => exact .inl ⟨_, .invalidTarget hfilter hurl⟩
    | ok target =>
      by_cases hkind : Web.isHttp target ∧ target.host.isSome
      · by_cases hagent : o.config.HasLegalAgent
        · exact .inr ⟨target, filter, hfilter, hurl, hkind.1, hkind.2, hagent⟩
        · exact .inl ⟨_, .agent hfilter hurl hkind hagent⟩
      · exact .inl ⟨_, .unsuitableTarget hfilter hurl hkind⟩
  cases hspec : o.filterStatus with
  | none => exact hrest (.absent hspec)
  | some spec =>
    cases hparse : StatusFilter.parse spec with
    | error cause => exact .inl ⟨_, .filter hspec hparse⟩
    | ok f =>
      cases hprobe : o.probe with
      | false => exact .inl ⟨_, .filterWithoutProbe hspec hparse hprobe⟩
      | true => exact hrest (.given hspec hparse hprobe)

theorem validate_of_namesFilter (h : NamesFilter o filter) :
    validate o = match Url.parse o.url with
      | .error cause => .error (.invalidTarget o.url cause)
      | .ok target =>
        if Web.isHttp target && target.host.isSome then .ok (target, filter)
        else .error (.unsuitableTarget o.url) := by
  cases h with
  | absent hspec =>
    simp only [validate, hspec]
    rfl
  | given hspec hparse hprobe =>
    simp only [validate, hspec, hparse, hprobe]
    rfl

section
variable [Environment]

theorem execute_of_fault (h : Fault o e) (site : Web.Site) : execute o site = refused e := by
  have hinvalid {e : RunError} (h : validate o = .error e) : execute o site = refused e := by
    rw [execute, h]
  cases h with
  | filter hspec hparse =>
    apply hinvalid
    simp only [validate, hspec, hparse]
    rfl
  | filterWithoutProbe hspec hparse hprobe =>
    apply hinvalid
    simp only [validate, hspec, hparse, hprobe]
    rfl
  | invalidTarget hfilter hurl =>
    apply hinvalid
    rw [validate_of_namesFilter hfilter, hurl]
  | unsuitableTarget hfilter hurl hkind =>
    apply hinvalid
    rw [validate_of_namesFilter hfilter, hurl]
    exact if_neg (by simpa using hkind)
  | @agent filter target hfilter hurl hkind hagent =>
    have hvalid : validate o = .ok (target, filter) := by
      rw [validate_of_namesFilter hfilter, hurl]
      exact if_pos (by simpa using hkind)
    rw [execute, hvalid]
    simp only [Crawler.create_of_illegal hagent]

def crawled (o : RunOptions) (site : Web.Site) (target : Url) : Crawl.State :=
  (Crawler.ofConfig o.config o.depth).crawlFrom site target [] Store.empty

@[irreducible]
def gathered (o : RunOptions) (site : Web.Site) (target : Url) : Stage :=
  let s := crawled o site target
  collect (.ofConfig o.config) site target o.wayback ⟨s.store, s.messages.reverse, s.log⟩

def probed (o : RunOptions) (site : Web.Site) (target : Url) : Stage :=
  let s := gathered o site target
  let message := "Probing ".toList ++ Text.ofNat s.store.size ++ " endpoints".toList
  probe (.ofConfig o.config) site target { s with messages := s.messages ++ [message] }

def completed (o : RunOptions) (site : Web.Site) (target : Url) : Stage :=
  if o.probe then probed o site target else gathered o site target

/-- Under these options a scan goes through all its stages, whatever the site answers. -/
theorem execute_of_ready (h : Ready o target filter) (site : Web.Site) :
    execute o site = finish filter target (crawled o site target).summary
      (gathered o site target).store.size o.probe (completed o site target) := by
  have hvalid : validate o = .ok (target, filter) := by
    rw [validate_of_namesFilter h.filter, h.url]
    exact if_pos (by simp [h.http, h.host])
  have hcrawl : (Crawler.ofConfig o.config o.depth).crawl site target.text [] Store.empty =
      .ok (crawled o site target) := by
    rw [Crawler.crawl, Url.parse_text_of_http h.url h.http h.host]
    rfl
  rw [execute, hvalid]
  simp only [Crawler.create_of_legal h.agent, Collector.create_of_legal h.agent, scan, hcrawl,
    Prober.create_of_legal h.agent]
  cases hprobe : o.probe with
  | false => simp [completed, hprobe, gathered]
  | true => simp [completed, hprobe, gathered, probed]

theorem execute_eq_error_iff (o : RunOptions) (site : Web.Site) (e : RunError) :
    (execute o site).result = .error e ↔ Fault o e := by
  constructor
  · intro h
    obtain ⟨e', hfault⟩ | ⟨target, filter, hready⟩ := fault_or_ready o
    · rw [execute_of_fault hfault] at h
      obtain rfl : e' = e := Except.error.inj h
      exact hfault
    · rw [execute_of_ready hready] at h
      cases h
  · intro h
    rw [execute_of_fault h]
    rfl

/-- A scan has no result if and only if its options are at fault, whatever the site answers: the
filter, then a filter without probes, then the target, then the user agent. Nothing has been
asked for or told by then, and all these faults but the last are called faults of the options.
Under all other options there is a result. -/
theorem execute_fails_iff_fault (o : RunOptions) (site : Web.Site) :
    (∀ e, (execute o site).result = .error e ↔ Fault o e) ∧
    (∀ e, (execute o site).result = .error e →
      (execute o site).log = [] ∧ (execute o site).messages = []) ∧
    (∀ e, Fault o e → (e.isConfig = false ↔ e = .scan .client)) ∧
    ((∀ e, ¬Fault o e) → ∃ report, (execute o site).result = .ok report) := by
  refine ⟨execute_eq_error_iff o site, fun e he => ?_, fun e he => ?_, fun hnone => ?_⟩
  · rw [execute_of_fault ((execute_eq_error_iff o site e).1 he)]
    exact ⟨rfl, rfl⟩
  · cases he <;> simp [RunError.isConfig]
  · cases hresult : (execute o site).result with
    | error e => exact absurd ((execute_eq_error_iff o site e).1 hresult) (hnone e)
    | ok report => exact ⟨report, rfl⟩

end

def faultyOptions : RunOptions where
  url := "ftp://a.co/".toList
  filterStatus := some "5-xx".toList
  config := { userAgent := ['\n'] }

def soundOptions : RunOptions where
  url := "http://a.co/".toList
  filterStatus := some "4xx".toList
  probe := true

attribute [local instance] Environment.plain

theorem execute_fails_iff_fault_faulty :
    Fault faultyOptions (.filter (.invalidToken "5-xx".toList)) ∧
    (execute faultyOptions .offline).result = .error (.filter (.invalidToken "5-xx".toList)) ∧
    (execute faultyOptions .offline).log = [] ∧ (execute faultyOptions .offline).messages = [] ∧
    (RunError.filter (.invalidToken "5-xx".toList)).isConfig ≠ false ∧
    (∀ e, ¬Fault soundOptions e) ∧
    ∃ report, (execute soundOptions .offline).result = .ok report := by
  have hfault : Fault faultyOptions (.filter (.invalidToken "5-xx".toList)) :=
    .filter rfl (by decide)
  obtain ⟨hiff, hquiet, hconfig, -⟩ := execute_fails_iff_fault faultyOptions .offline
  have hresult := (hiff _).2 hfault
  obtain ⟨hlog, hmessages⟩ := hquiet _ hresult
  have hsound : ∀ e, ¬Fault soundOptions e := by
    have hurl : Url.parse soundOptions.url = .ok ⟨"http".toList,
        some ⟨[], [], some (.domain "a.co".toList), none⟩, false, .segments [[]], none, none⟩ := by
      decide +kernel
    have hfilter : StatusFilter.parse "4xx".toList = .ok ⟨[⟨400, 499⟩]⟩ := by decide
    intro e h
    cases h with
    | filter h hparse =>
      obtain rfl := Option.some.inj h
      rw [hfilter] at hparse
      cases hparse
    | filterWithoutProbe h hparse hprobe => cases hprobe
    | invalidTarget hfilter herror =>
      rw [hurl] at herror
      cases herror
    | unsuitableTarget hfilter h hkind =>
      obtain rfl := Except.ok.inj (hurl.symm.trans h)
      exact hkind (by decide)
    | agent hfilter h hkind hagent =>
      refine hagent (List.all_eq_true.1 ?_)
      decide +kernel
  obtain ⟨-, -, -, hends⟩ := execute_fails_iff_fault soundOptions .offline
  refine ⟨hfault, hresult, hlog, hmessages, ?_, hsound, hends hsound⟩
  rw [Ne, hconfig _ hfault]
  simp

end Run

end EndpointScout
