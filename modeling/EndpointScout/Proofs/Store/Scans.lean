import EndpointScout.Environment
import EndpointScout.Proofs.Script.Calls
import EndpointScout.Proofs.Store.Growth
import EndpointScout.Proofs.Store.History
import EndpointScout.Proofs.Store.Hosts

/-! What the scans of scripts leave in a store. The scan of the strings finds what the scan of the
calls finds, and the finds that are known afterwards are those that were known or that one of the
scripts has, in whichever order and however often the scripts are mined. -/
namespace EndpointScout

namespace Script.Tree

variable [SuffixList]

/-- What a call is given is also found as a string, if it looks like an endpoint. -/
theorem mem_literalFinds_of_mem_callFinds {target : Target} {t : Tree} {f : Find}
    (h : f ∈ t.breadthFirst.flatMap callFinds)
    (haccepts : target.accepts (Candidate.cleanLiteral f.text) = true) :
    ⟨.static, f.text⟩ ∈ t.literalFinds := by
  obtain ⟨u, hu, hf⟩ := List.mem_flatMap.1 h
  have htext : f.text ∈ t.ownTexts :=
    ownTexts_subset_of_mem_breadthFirst hu (mem_ownTexts_of_mem_callFinds hf)
  exact mem_literalFinds_of_mem_ownTexts htext haccepts

end Script.Tree

namespace Store
open Candidate (normalizePath)

variable (s : Store) (target : Target)

theorem addAll_of_mem_keys {cs : List Candidate}
    (h : ∀ c ∈ cs, c.key ∈ s.entries.map Candidate.key) : s.addAll cs = s := by
  induction cs with
  | nil => rfl
  | cons c cs ih =>
    obtain ⟨hc, hcs⟩ := List.forall_mem_cons.1 h
    rw [addAll_cons, add_of_mem_keys hc, ih hcs]

section
variable [SuffixList]

theorem acceptAll_snd (fs : List Find) :
    (s.acceptAll target fs).2 = (offersOf target fs).length := by
  induction fs generalizing s with
  | nil => rfl
  | cons f fs ih =>
    rw [acceptAll, offersOf, List.filter_cons]
    by_cases h : target.accepts (Candidate.cleanLiteral f.text) = true
    · simp only [accept, h, if_true, List.map_cons, List.length_cons, ih]
      rfl
    · simp only [accept, h, ih]
      rfl

theorem mine_snd (t : Script.Tree) : (s.mine target t).2 = (offersOf target t.finds).length :=
  s.acceptAll_snd target t.finds

theorem mem_offersOf_flatMap {ts : List Script.Tree} {c : Candidate} :
    c ∈ offersOf target (ts.flatMap fun t => t.finds) ↔
      ∃ t ∈ ts, c ∈ offersOf target t.finds := by
  induction ts with
  | nil => simp [offersOf]
  | cons t ts ih => rw [List.flatMap_cons, offersOf_append, List.mem_append, ih]; simp

theorem mem_keys_mineAll (ts : List Script.Tree) (k : Candidate.Key) :
    k ∈ (s.mineAll target ts).entries.map Candidate.key ↔
      k ∈ s.entries.map Candidate.key ∨
        ∃ t ∈ ts, k ∈ (offersOf target t.finds).map Candidate.key := by
  rw [mineAll_eq_addAll, mem_keys_addAll]
  simp only [List.mem_map, mem_offersOf_flatMap]
  grind

theorem exists_of_mem_offersOf {fs : List Find} {c : Candidate} (h : c ∈ offersOf target fs) :
    ∃ f ∈ fs, target.accepts (Candidate.cleanLiteral f.text) = true ∧ candidateOf f = c := by
  obtain ⟨f, hf, hc⟩ := List.mem_map.1 h
  obtain ⟨hmem, haccepts⟩ := List.mem_filter.1 hf
  exact ⟨f, hmem, haccepts, hc⟩

/-- The scan of the calls accepts nothing that the scan of the strings of the same script does not
accept, and so behind every entry of a call there is an entry of the strings with the same path,
even where it was another script that named the path first. -/
theorem calls_have_literals (target : Target) :
    (∀ t : Script.Tree, ∀ f ∈ t.breadthFirst.flatMap Script.Tree.callFinds,
      target.accepts (Candidate.cleanLiteral f.text) = true →
        ⟨.static, f.text⟩ ∈ t.literalFinds) ∧
    ∀ ts : List Script.Tree, ∀ e ∈ (empty.mineAll target ts).entries,
      e.source ∈ [Source.fetch, .axios, .xmlhttp] →
        ∃ e' ∈ (empty.mineAll target ts).entries, e'.source = .static ∧
          normalizePath e'.value = normalizePath e.value := by
  refine ⟨fun t f => Script.Tree.mem_literalFinds_of_mem_callFinds, fun ts e he hsource => ?_⟩
  have hoffer : e ∈ offersOf target (ts.flatMap fun t => t.finds) := by
    rw [mineAll_eq_addAll] at he
    exact mem_of_mem_addAll he
  obtain ⟨t, ht, hoffer⟩ := (mem_offersOf_flatMap target).1 hoffer
  obtain ⟨f, hf, haccepts, rfl⟩ := exists_of_mem_offersOf target hoffer
  have hliteral : ⟨.static, f.text⟩ ∈ t.literalFinds := by
    obtain hf | hf := List.mem_append.1 hf
    · obtain ⟨text, -, rfl⟩ := List.mem_map.1 hf
      simp [candidateOf] at hsource
    · exact Script.Tree.mem_literalFinds_of_mem_callFinds hf haccepts
  have hkey : (candidateOf ⟨.static, f.text⟩).key ∈
      (empty.mineAll target ts).entries.map Candidate.key := by
    refine (empty.mem_keys_mineAll target ts _).2 (.inr ⟨t, ht, List.mem_map_of_mem ?_⟩)
    exact List.mem_map_of_mem (List.mem_filter.2 ⟨List.mem_append_left _ hliteral, haccepts⟩)
  obtain ⟨e', he', hsame⟩ := List.mem_map.1 hkey
  exact ⟨e', he', congrArg Candidate.Key.source hsame, congrArg Candidate.Key.path hsame⟩

end

def nestedCalls : Script.Tree := .program [.call (.identifier "load".toList)
  [.call (.identifier "fetch".toList) [.literal (.string "/api/orders/?page=1".toList)]]]

section
attribute [local instance] Environment.plain

theorem calls_have_literals_nested :
    (⟨.fetch, "/api/orders/?page=1".toList⟩ ∈
        nestedCalls.breadthFirst.flatMap Script.Tree.callFinds ∧
      Target.unscoped.accepts (Candidate.cleanLiteral "/api/orders/?page=1".toList) = true ∧
      ⟨.static, "/api/orders/?page=1".toList⟩ ∈ nestedCalls.literalFinds) ∧
    ⟨"/api/orders".toList, .relative, .fetch, none, none⟩ ∈
        (empty.mineAll Target.unscoped [nestedCalls]).entries ∧
      ∃ e' ∈ (empty.mineAll Target.unscoped [nestedCalls]).entries, e'.source = .static ∧
        normalizePath e'.value = normalizePath "/api/orders".toList := by
  obtain ⟨hscan, hentries⟩ := calls_have_literals Target.unscoped
  have hfind : ⟨.fetch, "/api/orders/?page=1".toList⟩ ∈
      nestedCalls.breadthFirst.flatMap Script.Tree.callFinds := by decide +kernel
  have haccepts : Target.unscoped.accepts
      (Candidate.cleanLiteral "/api/orders/?page=1".toList) = true := by decide +kernel
  have hentry : ⟨"/api/orders".toList, .relative, .fetch, none, none⟩ ∈
      (empty.mineAll Target.unscoped [nestedCalls]).entries := by decide +kernel
  exact ⟨⟨hfind, haccepts, hscan nestedCalls _ hfind haccepts⟩, hentry,
    hentries [nestedCalls] _ hentry (by decide)⟩

end

section
variable [SuffixList]

/-- Which paths and sources a store knows after some scripts depends on those it knew before and on
the scripts, but not on their order nor on how often each is mined. The count of a script does not
depend on the store, and a script that has been mined adds nothing any more, whatever is offered
and probed in between. -/
theorem mining_order_free (target : Target) :
    (∀ (s s' : Store) (ts ts' : List Script.Tree),
      (∀ k, k ∈ s.entries.map Candidate.key ↔ k ∈ s'.entries.map Candidate.key) →
      (∀ t, t ∈ ts ↔ t ∈ ts') →
      ∀ k, k ∈ (s.mineAll target ts).entries.map Candidate.key ↔
        k ∈ (s'.mineAll target ts').entries.map Candidate.key) ∧
    (∀ (s s' : Store) (t : Script.Tree), (s.mine target t).2 = (s'.mine target t).2) ∧
    ∀ (s : Store) (ts : List Script.Tree) (es : List Event), ∀ t ∈ ts,
      (((s.mineAll target ts).run es).1.mine target t).1 = ((s.mineAll target ts).run es).1 := by
  refine ⟨fun s s' ts ts' hkeys htrees k => ?_, fun s s' t => ?_, fun s ts es t ht => ?_⟩
  · rw [mem_keys_mineAll, mem_keys_mineAll, hkeys]
    simp only [htrees]
  · rw [mine_snd, mine_snd]
  · rw [mine, acceptAll_eq_addAll]
    refine addAll_of_mem_keys _ fun c hc => ?_
    exact (mem_keys_run _ es _).2 (.inl ((s.mem_keys_mineAll target ts _).2
      (.inr ⟨t, ht, List.mem_map_of_mem hc⟩)))

end

section
attribute [local instance] Environment.plain

theorem mining_order_free_shops :
    let target := Target.ofDomain "a.co".toList
    let first := empty.mineAll target [nestedCalls, shops "api/orders" "x"]
    let second := empty.mineAll target [shops "api/orders" "x", nestedCalls, nestedCalls]
    first.entries ≠ second.entries ∧
    (∀ k, k ∈ first.entries.map Candidate.key ↔ k ∈ second.entries.map Candidate.key) ∧
    ((first.run [.probe fun _ _ => some (true, 200)]).1.mine target nestedCalls).1 =
      (first.run [.probe fun _ _ => some (true, 200)]).1 := by
  obtain ⟨hkeys, -, hagain⟩ := mining_order_free (Target.ofDomain "a.co".toList)
  have hsame (t : Script.Tree) : t ∈ [nestedCalls, shops "api/orders" "x"] ↔
      t ∈ [shops "api/orders" "x", nestedCalls, nestedCalls] := by
    simp only [List.mem_cons, List.not_mem_nil, or_false, or_self]
    exact or_comm
  exact ⟨by decide +kernel, hkeys empty empty _ _ (fun _ => Iff.rfl) hsame,
    hagain empty _ _ nestedCalls List.mem_cons_self⟩

end

end Store

end EndpointScout
