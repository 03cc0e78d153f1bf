import EndpointScout.Proofs.Script.Literals

/-! The strings that calls are given are texts of the script, however deep the calls are. -/
namespace EndpointScout.Script

theorem ownTexts_subset_ownTextsAll {ts : List Tree} {t : Tree} (h : t ∈ ts) :
    t.ownTexts ⊆ ownTextsAll ts := by
  induction ts with
  | nil => cases h
  | cons u ts ih =>
    obtain rfl | h := List.mem_cons.1 h
    · exact List.subset_append_left _ _
    · exact List.subset_append_of_subset_right _ (ih h)

namespace Tree
variable {t u : Tree} {f : Find}

theorem ownTexts_subset_of_mem_children (h : u ∈ t.children) : u.ownTexts ⊆ t.ownTexts := by
  cases t with
  | program body => exact ownTexts_subset_ownTextsAll h
  | call callee arguments =>
    obtain rfl | h := List.mem_cons.1 h
    · exact List.subset_append_left _ _
    · exact List.subset_append_of_subset_right _ (ownTexts_subset_ownTextsAll h)
  | member object property computed =>
    obtain rfl | h := List.mem_cons.1 h
    · exact List.subset_append_left _ _
    · rw [List.mem_singleton.1 h]
      exact List.subset_append_right _ _
  | identifier name => cases h
  | literal value => cases h
  | template quasis expressions =>
    exact List.subset_append_of_subset_right _ (ownTexts_subset_ownTextsAll h)
  | other kind children => exact List.subset_cons_of_subset _ (ownTexts_subset_ownTextsAll h)

/-- What passes from trees to their children holds wherever a queue leads. -/
theorem forall_mem_visit {p : Tree → Prop} (hstep : ∀ t, p t → ∀ u ∈ t.children, p u) (fuel : Nat)
    {front back : List Tree} (hfront : ∀ t ∈ front, p t) (hback : ∀ t ∈ back, p t) :
    ∀ t ∈ visit fuel front back, p t := by
  induction fuel generalizing front back with
  | zero => simp [visit]
  | succ fuel ih =>
    have hchildren (t : Tree) (ht : p t) : ∀ u ∈ t.children.reverse, p u := fun u hu =>
      hstep t ht u (List.mem_reverse.1 hu)
    cases front with
    | cons t front =>
      obtain ⟨ht, hfront⟩ := List.forall_mem_cons.1 hfront
      exact List.forall_mem_cons.2
        ⟨ht, ih hfront (List.forall_mem_append.2 ⟨hchildren t ht, hback⟩)⟩
    | nil =>
      have hqueue : ∀ t ∈ back.reverse, p t := fun t ht => hback t (List.mem_reverse.1 ht)
      rw [visit]
      split
      · simp
      · rename_i t front hreverse
        rw [hreverse] at hqueue
        obtain ⟨ht, hfront⟩ := List.forall_mem_cons.1 hqueue
        exact List.forall_mem_cons.2 ⟨ht, ih hfront (hchildren t ht)⟩

theorem ownTexts_subset_of_mem_breadthFirst (h : u ∈ t.breadthFirst) :
    u.ownTexts ⊆ t.ownTexts := by
  refine forall_mem_visit (p := fun u => u.ownTexts ⊆ t.ownTexts) ?_ t.size ?_ ?_ u h
  · exact fun v hv w hw => List.Subset.trans (ownTexts_subset_of_mem_children hw) hv
  · simp
  · simp

theorem mem_ownTexts_of_mem_argument? {source : Source} {index : Nat} {arguments : List Tree}
    (h : f ∈ argument? source index arguments) : f.text ∈ ownTextsAll arguments := by
  rw [argument?, Option.mem_toList] at h
  obtain ⟨text, htext, rfl⟩ := Option.map_eq_some_iff.1 h
  obtain ⟨a, ha, hstring⟩ := Option.bind_eq_some_iff.1 htext
  refine ownTexts_subset_ownTextsAll (List.mem_of_getElem? ha) ?_
  cases a with
  | literal value =>
    cases value with
    | string s => simpa [string?, ownTexts, Literal.ownTexts, eq_comm] using hstring
    | _ => simp [string?] at hstring
  | _ => simp [string?] at hstring

theorem mem_ownTexts_of_mem_callFinds (h : f ∈ callFinds t) : f.text ∈ t.ownTexts := by
  rw [callFinds.eq_def] at h
  split at h
  · split at h
    · exact List.mem_append_right _ (mem_ownTexts_of_mem_argument? h)
    · cases h
  · refine List.mem_append_right _ ?_
    obtain h | h := List.mem_append.1 h
    · split at h
      · exact mem_ownTexts_of_mem_argument? h
      · cases h
    · split at h
      · exact mem_ownTexts_of_mem_argument? h
      · cases h
  · cases h

end Tree

end EndpointScout.Script
