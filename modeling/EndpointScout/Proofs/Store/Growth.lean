import EndpointScout.Collect.Collector
import EndpointScout.Proofs.Store.Mining

/-! Stores grow at the end: whoever adds to one leaves its entries in front, and what is new
comes from the sources of that adder and has not been probed. -/
namespace EndpointScout

namespace Source

def inScripts : List Source := [static, fetch, axios, xmlhttp]

end Source

/-- A candidate of one of the sources, as it is before any probe. -/
structure Candidate.IsNew (sources : List Source) (c : Candidate) : Prop where
  source : c.source ∈ sources
  reachable : c.reachable = none
  status : c.status = none

namespace Store
variable {s s' s'' : Store} {sources : List Source}

def Grows (sources : List Source) (s s' : Store) : Prop :=
  ∃ added, s'.entries = s.entries ++ added ∧ ∀ c ∈ added, c.IsNew sources

theorem Grows.refl (sources : List Source) (s : Store) : s.Grows sources s :=
  ⟨[], by simp, by simp⟩

theorem Grows.trans (h : s.Grows sources s') (h' : s'.Grows sources s'') :
    s.Grows sources s'' := by
  obtain ⟨added, hs, hadded⟩ := h
  obtain ⟨more, hs', hmore⟩ := h'
  refine ⟨added ++ more, ?_, List.forall_mem_append.2 ⟨hadded, hmore⟩⟩
  rw [hs', hs, List.append_assoc]

theorem Grows.prefix_entries (h : s.Grows sources s') : s.entries <+: s'.entries := by
  obtain ⟨added, hs, -⟩ := h
  exact ⟨added, hs.symm⟩

theorem grows_add {c : Candidate} (h : c.IsNew sources) : s.Grows sources (s.add c).1 := by
  refine ⟨_, entries_add s c, fun d hd => ?_⟩
  split at hd
  · rwa [List.mem_singleton.1 hd]
  · cases hd

theorem grows_addCounting {cs : List Candidate} (h : ∀ c ∈ cs, c.IsNew sources) :
    s.Grows sources (s.addCounting cs).1 := by
  induction cs generalizing s with
  | nil => exact .refl sources s
  | cons c cs ih =>
    obtain ⟨hc, hcs⟩ := List.forall_mem_cons.1 h
    exact (grows_add hc).trans (ih hcs)

variable [SuffixList]

theorem grows_accept {target : Target} {f : Find} (h : f.source ∈ sources) :
    s.Grows sources (s.accept target f).1 := by
  simp only [accept]
  split
  · exact grows_add ⟨h, rfl, rfl⟩
  · exact .refl sources s

theorem grows_acceptAll {target : Target} {fs : List Find} (h : ∀ f ∈ fs, f.source ∈ sources) :
    s.Grows sources (s.acceptAll target fs).1 := by
  induction fs generalizing s with
  | nil => exact .refl sources s
  | cons f fs ih =>
    obtain ⟨hf, hfs⟩ := List.forall_mem_cons.1 h
    exact (grows_accept hf).trans (ih hfs)

end Store

namespace Script.Tree

theorem source_of_mem_argument? {source : Source} {index : Nat} {arguments : List Tree} {f : Find}
    (h : f ∈ argument? source index arguments) : f.source = source := by
  rw [argument?, Option.mem_toList] at h
  obtain ⟨text, -, rfl⟩ := Option.map_eq_some_iff.1 h
  rfl

theorem source_of_mem_callFinds {t : Tree} {f : Find} (h : f ∈ callFinds t) :
    f.source ∈ Source.inScripts := by
  rw [callFinds.eq_def] at h
  split at h
  · split at h
    · rw [source_of_mem_argument? h]
      decide
    · cases h
  · obtain h | h := List.mem_append.1 h
    · split at h
      · rw [source_of_mem_argument? h]
        decide
      · cases h
    · split at h
      · rw [source_of_mem_argument? h]
        decide
      · cases h
  · cases h

theorem source_of_mem_finds {t : Tree} {f : Find} (h : f ∈ t.finds) :
    f.source ∈ Source.inScripts := by
  obtain h | h := List.mem_append.1 h
  · obtain ⟨text, -, rfl⟩ := List.mem_map.1 h
    exact List.mem_cons_self
  · obtain ⟨u, -, h⟩ := List.mem_flatMap.1 h
    exact source_of_mem_callFinds h

end Script.Tree

theorem Store.grows_mine [SuffixList] (s : Store) (target : Target) (t : Script.Tree) :
    s.Grows Source.inScripts (s.mine target t).1 :=
  grows_acceptAll fun _ => Script.Tree.source_of_mem_finds

namespace Collector
variable (c : Collector) (site : Web.Site) (target : Target) (log : Web.Log) (store : Store)

theorem grows_offer {α : Type} {sources : List Source} {document : Option α}
    {candidates : α → List Candidate} (h : ∀ d, ∀ e ∈ candidates d, e.IsNew sources) :
    store.Grows sources (offer store document candidates).1 := by
  cases document with
  | none => exact .refl sources store
  | some d => exact Store.grows_addCounting (h d)

variable [Environment]

theorem grows_robots (origin : Text) :
    store.Grows [.robots] (c.robots site origin log store).1.1 := by
  exact grows_offer store fun d =>
    List.forall_mem_map.2 fun path _ => ⟨List.mem_cons_self, rfl, rfl⟩

theorem grows_sitemap (origin : Text) :
    store.Grows [.sitemap] (c.sitemap site origin target log store).1.1 := by
  exact grows_offer store fun d =>
    List.forall_mem_map.2 fun url _ => ⟨List.mem_cons_self, rfl, rfl⟩

theorem grows_wayback (domain : Text) :
    store.Grows [.wayback] (c.wayback site domain target log store).1.1 := by
  exact grows_offer store fun d =>
    List.forall_mem_map.2 fun value _ => ⟨List.mem_cons_self, rfl, rfl⟩

end Collector

end EndpointScout
