import EndpointScout.Proofs.Store.Basic
import Mathlib.Data.Finset.Card
import Mathlib.Data.Finset.Dedup

/-! Whole histories of a store: offers and probe outcomes in any order. -/
namespace EndpointScout.Store
open Candidate (normalizePath)

/-- What can happen to a store. Outcomes are written to any of the entries at once. -/
inductive Event where
  | offer (c : Candidate)
  | probe (outcome : Nat → Candidate → Option (Bool × UInt16))

def run (s : Store) : List Event → Store × List Bool
  | [] => (s, [])
  | .offer c :: es => ((run (s.add c).1 es).1, (s.add c).2 :: (run (s.add c).1 es).2)
  | .probe o :: es => run (s.probe o) es

def offers : List Event → List Candidate
  | [] => []
  | .offer c :: es => c :: offers es
  | .probe _ :: es => offers es

theorem run_append (s : Store) (es fs : List Event) :
    s.run (es ++ fs) = (((s.run es).1.run fs).1, (s.run es).2 ++ ((s.run es).1.run fs).2) := by
  induction es generalizing s with
  | nil => rfl
  | cons e es ih =>
    cases e with
    | offer c => simp [run, ih]
    | probe o => simp [run, ih]

theorem length_answers (s : Store) (es : List Event) :
    (s.run es).2.length = (offers es).length := by
  induction es generalizing s with
  | nil => rfl
  | cons e es ih =>
    cases e with
    | offer c => simp [run, offers, ih]
    | probe o => simp [run, offers, ih]

theorem mem_keys_run (s : Store) (es : List Event) (k : Candidate.Key) :
    k ∈ (s.run es).1.entries.map Candidate.key ↔
      k ∈ s.entries.map Candidate.key ∨ k ∈ (offers es).map Candidate.key := by
  induction es generalizing s with
  | nil => simp [run, offers]
  | cons e es ih =>
    cases e with
    | offer c =>
      rw [run, offers, ih, mem_keys_add, List.map_cons, List.mem_cons, or_assoc]
    | probe o => rw [run, offers, ih, keys_probe]

/-- The answer to an offer: nothing with its key was there or was offered before. -/
theorem answer_run (s : Store) (es : List Event) (i : Nat) (c : Candidate)
    (h : (offers es)[i]? = some c) :
    (s.run es).2[i]? = some (decide (c.key ∉ s.entries.map Candidate.key ∧
      ∀ d ∈ (offers es).take i, d.key ≠ c.key)) := by
  induction es generalizing s i with
  | nil => simp [offers] at h
  | cons e es ih =>
    cases e with
    | probe o => rw [run, offers, ih (s.probe o) i h, keys_probe]
    | offer d =>
      cases i with
      | zero =>
        have hd : d = c := by simpa [offers] using h
        simp [run, add_snd, hd]
      | succ i =>
        have hi := ih (s.add d).1 i (by simpa [offers] using h)
        have hk := s.mem_keys_add d c.key
        simp only [run, offers, List.getElem?_cons_succ, List.take_succ_cons, List.mem_cons,
          forall_eq_or_imp, hi, hk, not_or, and_assoc, ne_comm]

theorem bare_entries_run (s : Store) (es : List Event) :
    (s.run es).1.entries.map Candidate.bare = s.entries.map Candidate.bare ++
      (((offers es).zip (s.run es).2).filter (·.2)).map fun p => p.1.bare := by
  induction es generalizing s with
  | nil => simp [run, offers]
  | cons e es ih =>
    cases e with
    | probe o => rw [run, ih, bare_probe]; rfl
    | offer c =>
      rw [run, ih, entries_add]
      cases (s.add c).2 <;> simp [offers]

theorem size_run (s : Store) (es : List Event) :
    (s.run es).1.size =
      ((s.entries.map Candidate.key).toFinset ∪ ((offers es).map Candidate.key).toFinset).card := by
  have hn : (s.run es).1.size = ((s.run es).1.entries.map Candidate.key).toFinset.card := by
    rw [List.toFinset_card_of_nodup (keys_nodup _), List.length_map, size]
  rw [hn]
  congr 1
  ext k
  rw [Finset.mem_union, List.mem_toFinset, List.mem_toFinset, List.mem_toFinset, mem_keys_run]

theorem getElem?_run_of_isProbed {s : Store} {i : Nat} {c : Candidate}
    (h : s.entries[i]? = some c) (hc : c.isProbed) (es : List Event) :
    (s.run es).1.entries[i]? = some c := by
  induction es generalizing s with
  | nil => exact h
  | cons e es ih =>
    cases e with
    | offer d => exact ih (getElem?_add_of_some h d)
    | probe o => exact ih (getElem?_probe_of_isProbed h hc o)

/-- Whatever is offered to a new store and whichever outcomes are written to it meanwhile:
an offer is stored if and only if it is the first of its path and source, the entries are the
stored offers in order, each as it was offered apart from its probe fields, and an entry that
has been probed stays as it is. -/
theorem run_stores_first_offers (es : List Event) :
    (empty.run es).2.length = (offers es).length ∧
    (∀ i c, (offers es)[i]? = some c → (empty.run es).2[i]? =
      some (decide (∀ d ∈ (offers es).take i,
        ¬(normalizePath d.value = normalizePath c.value ∧ d.source = c.source)))) ∧
    (empty.run es).1.entries.map Candidate.bare =
      (((offers es).zip (empty.run es).2).filter (·.2)).map (fun p => p.1.bare) ∧
    (empty.run es).1.size =
      ((offers es).map fun c => (normalizePath c.value, c.source)).toFinset.card ∧
    (∀ c d : Candidate, c.key.text = d.key.text ↔
      normalizePath c.value = normalizePath d.value ∧ c.source = d.source) ∧
    ∀ (fs : List Event) (i : Nat) (c : Candidate), (empty.run es).1.entries[i]? = some c →
      c.isProbed → (empty.run (es ++ fs)).1.entries[i]? = some c := by
  have hkey (c d : Candidate) :
      d.key = c.key ↔ normalizePath d.value = normalizePath c.value ∧ d.source = c.source := by
    simp [Candidate.key]
  refine ⟨length_answers empty es, ?_, ?_, ?_, Candidate.key_text_eq_iff, ?_⟩
  · intro i c hc
    have h := answer_run empty es i c hc
    simpa [empty, hkey] using h
  · simpa [empty] using bare_entries_run empty es
  · have hs := size_run empty es
    have hm : ((offers es).map fun c => (normalizePath c.value, c.source)).toFinset =
        ((offers es).map Candidate.key).toFinset.image fun k => (k.path, k.source) := by
      ext p
      simp [Candidate.key]
    have hinj : Function.Injective fun k : Candidate.Key => (k.path, k.source) := by
      rintro ⟨p, s⟩ ⟨q, t⟩ h
      simpa using h
    rw [hm, Finset.card_image_of_injective _ hinj, hs]
    simp [empty]
  · intro fs i c hi hc
    rw [run_append]
    exact getElem?_run_of_isProbed hi hc fs

def barHistory : List Event :=
  [.offer ⟨"/a|static".toList, .relative, .fetch, none, none⟩,
    .probe fun _ _ => some (true, 200),
    .offer ⟨"/a|static/?q".toList, .relative, .fetch, none, none⟩]

theorem run_stores_first_offers_bar :
    ((offers barHistory)[1]? = some ⟨"/a|static/?q".toList, .relative, .fetch, none, none⟩ ∧
      (empty.run barHistory).2[1]? = some false) ∧
    (empty.run barHistory).1.entries[0]? =
      some ⟨"/a|static".toList, .relative, .fetch, some true, some 200⟩ ∧
    (empty.run (barHistory ++ [.probe fun _ _ => some (false, 0)])).1.entries[0]? =
      some ⟨"/a|static".toList, .relative, .fetch, some true, some 200⟩ := by
  obtain ⟨-, hanswer, -, -, -, hprobed⟩ := run_stores_first_offers barHistory
  have hentry : (empty.run barHistory).1.entries[0]? =
      some ⟨"/a|static".toList, .relative, .fetch, some true, some 200⟩ := by decide +kernel
  refine ⟨⟨rfl, ?_⟩, hentry, ?_⟩
  · rw [hanswer 1 _ rfl]
    decide +kernel
  · exact hprobed _ 0 _ hentry rfl

end EndpointScout.Store
