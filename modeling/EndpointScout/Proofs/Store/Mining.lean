import EndpointScout.Mining
import EndpointScout.Proofs.Store.Basic

/-! What a store takes of a list of finds. -/
namespace EndpointScout

namespace Candidate

theorem head?_of_classify {v : Text} (h : Kind.classify v = .external) : v.head? ≠ some '/' := by
  intro hhead
  simp [Kind.classify, hhead] at h

theorem head?_of_classify_relative {v : Text} (h : Kind.classify v = .relative) :
    v.head? = some '/' := by
  by_contra hhead
  simp [Kind.classify, hhead] at h

end Candidate

namespace Store

def candidateOf (f : Find) : Candidate where
  value := Candidate.canonical (Candidate.cleanLiteral f.text)
  kind := Kind.classify (Candidate.cleanLiteral f.text)
  source := f.source

variable [SuffixList]

theorem mem_entries_accept {s : Store} {target : Target} {f : Find} {e : Candidate}
    (h : e ∈ (s.accept target f).1.entries) : e ∈ s.entries ∨
      target.accepts (Candidate.cleanLiteral f.text) = true ∧ e = candidateOf f := by
  simp only [accept] at h
  split at h
  · rename_i haccepts
    obtain h | h := mem_entries_add h
    · exact .inl h
    · exact .inr ⟨haccepts, h⟩
  · exact .inl h

theorem mem_entries_acceptAll {s : Store} {target : Target} {fs : List Find} {e : Candidate}
    (h : e ∈ (s.acceptAll target fs).1.entries) : e ∈ s.entries ∨
      ∃ f ∈ fs, target.accepts (Candidate.cleanLiteral f.text) = true ∧ e = candidateOf f := by
  induction fs generalizing s with
  | nil => exact .inl h
  | cons f fs ih =>
    obtain h | ⟨g, hg, h⟩ := ih h
    · obtain h | ⟨haccepts, h⟩ := mem_entries_accept h
      · exact .inl h
      · exact .inr ⟨f, List.mem_cons_self, haccepts, h⟩
    · exact .inr ⟨g, List.mem_cons_of_mem f hg, h⟩

/-- What is not an endpoint leaves no trace. -/
theorem acceptAll_filter (s : Store) (target : Target) (fs : List Find) :
    s.acceptAll target (fs.filter fun f => target.accepts (Candidate.cleanLiteral f.text)) =
      s.acceptAll target fs := by
  induction fs generalizing s with
  | nil => rfl
  | cons f fs ih =>
    rw [List.filter_cons]
    split
    · simp only [acceptAll, ih]
    · rename_i h
      have hf : s.accept target f = (s, false) := by simp [accept, h]
      rw [ih, acceptAll, hf]
      rfl

def offersOf (target : Target) (fs : List Find) : List Candidate :=
  (fs.filter fun f => target.accepts (Candidate.cleanLiteral f.text)).map candidateOf

theorem offersOf_append (target : Target) (fs gs : List Find) :
    offersOf target (fs ++ gs) = offersOf target fs ++ offersOf target gs := by
  rw [offersOf, List.filter_append, List.map_append]
  rfl

theorem acceptAll_eq_addAll (s : Store) (target : Target) (fs : List Find) :
    (s.acceptAll target fs).1 = s.addAll (offersOf target fs) := by
  induction fs generalizing s with
  | nil => rfl
  | cons f fs ih =>
    rw [acceptAll, offersOf, List.filter_cons]
    by_cases h : target.accepts (Candidate.cleanLiteral f.text) = true
    · have hf : (s.accept target f).1 = (s.add (candidateOf f)).1 := by
        simp only [accept, h, if_true]
        rfl
      rw [if_pos h, List.map_cons, addAll_cons, ← hf]
      exact ih _
    · have hf : (s.accept target f).1 = s := by
        simp only [accept, h]
        rfl
      rw [if_neg h]
      simp only [hf]
      exact ih s

def mineAll (s : Store) (target : Target) (ts : List Script.Tree) : Store :=
  ts.foldl (fun s t => (s.mine target t).1) s

theorem mineAll_eq_addAll (s : Store) (target : Target) (ts : List Script.Tree) :
    s.mineAll target ts = s.addAll (offersOf target (ts.flatMap fun t => t.finds)) := by
  induction ts generalizing s with
  | nil => rfl
  | cons t ts ih =>
    have hmine : (s.mine target t).1 = s.addAll (offersOf target t.finds) :=
      acceptAll_eq_addAll s target t.finds
    rw [mineAll, List.foldl_cons, hmine, List.flatMap_cons, offersOf_append, addAll_append]
    exact ih _

end Store

end EndpointScout
