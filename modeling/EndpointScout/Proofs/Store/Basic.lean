import EndpointScout.Candidate.Store
import Mathlib.Data.List.Basic
import Mathlib.Data.List.Induction
import Mathlib.Data.List.Nodup

/-! What one operation does to a store, said through the keys and the entries. -/
namespace EndpointScout

namespace Candidate

def bare (c : Candidate) : Candidate := ⟨c.value, c.kind, c.source, none, none⟩

@[simp] theorem bare_recordProbe (c : Candidate) (r : Bool) (s : UInt16) :
    (c.recordProbe r s).bare = c.bare := by
  unfold recordProbe
  split <;> rfl

theorem recordProbe_of_isProbed {c : Candidate} (h : c.isProbed) (r : Bool) (s : UInt16) :
    c.recordProbe r s = c := by
  simp [recordProbe, h]

theorem bar_notMem_sourceName (s : Source) : '|' ∉ s.name.toList := by
  cases s <;> decide

theorem sourceName_injective : Function.Injective fun s : Source => s.name.toList := by
  intro s t h
  revert h
  cases s <;> cases t <;> decide

/-- A text is cut in one way only at a mark that its second part does not contain. -/
theorem append_mark_inj {x : Char} {p q n m : Text} (hn : x ∉ n) (hm : x ∉ m)
    (h : p ++ x :: n = q ++ x :: m) : p = q ∧ n = m := by
  obtain ⟨t, rfl, ht⟩ | ⟨t, rfl, ht⟩ := List.append_eq_append_iff.mp h
  · cases t with
    | nil => simpa using ht
    | cons y t =>
      have he : n = t ++ x :: m := (List.cons.inj ht).2
      exact absurd (by simp [he]) hn
  · cases t with
    | nil => simpa [eq_comm] using ht
    | cons y t =>
      have he : m = t ++ x :: n := (List.cons.inj ht).2
      exact absurd (by simp [he]) hm

/-- The path may contain bars of its own: the last bar of a written key is the one in
front of the source. -/
theorem Key.text_injective : Function.Injective Key.text := by
  rintro ⟨p, s⟩ ⟨q, t⟩ h
  obtain ⟨hp, hs⟩ := append_mark_inj (bar_notMem_sourceName s) (bar_notMem_sourceName t) h
  have hst : s = t := sourceName_injective hs
  simp_all

theorem key_text_eq_iff (c d : Candidate) :
    c.key.text = d.key.text ↔
      normalizePath c.value = normalizePath d.value ∧ c.source = d.source := by
  rw [Key.text_injective.eq_iff]
  simp [key]

end Candidate

namespace Store

theorem keys_nodup (s : Store) : (s.entries.map Candidate.key).Nodup := by
  have h := s.nodup
  rw [s.keys_eq, ← Function.comp_def, ← List.map_map] at h
  exact h.of_map

theorem key_mem_iff (s : Store) (c : Candidate) :
    c.key.text ∈ s.keys ↔ c.key ∈ s.entries.map Candidate.key := by
  rw [s.keys_eq, ← Function.comp_def, ← List.map_map,
    List.mem_map_of_injective Candidate.Key.text_injective]

theorem add_snd (s : Store) (c : Candidate) :
    (s.add c).2 = decide (c.key ∉ s.entries.map Candidate.key) := by
  have hk := s.key_mem_iff c
  unfold add
  split <;> simp_all

theorem add_of_mem_keys {s : Store} {c : Candidate} (h : c.key ∈ s.entries.map Candidate.key) :
    s.add c = (s, false) := by
  rw [add, dif_pos ((s.key_mem_iff c).2 h)]

theorem entries_add (s : Store) (c : Candidate) :
    (s.add c).1.entries = s.entries ++ if (s.add c).2 then [c] else [] := by
  unfold add
  split <;> simp

theorem mem_entries_add {s : Store} {c e : Candidate} (h : e ∈ (s.add c).1.entries) :
    e ∈ s.entries ∨ e = c := by
  rw [entries_add] at h
  obtain h | h := List.mem_append.1 h
  · exact .inl h
  · split at h
    · exact .inr (List.mem_singleton.1 h)
    · cases h

theorem mem_entries_addCounting {s : Store} {cs : List Candidate} {e : Candidate}
    (h : e ∈ (s.addCounting cs).1.entries) : e ∈ s.entries ∨ e ∈ cs := by
  induction cs generalizing s with
  | nil => exact .inl h
  | cons c cs ih =>
    obtain h | h := ih h
    · obtain h | rfl := mem_entries_add h
      · exact .inl h
      · exact .inr List.mem_cons_self
    · exact .inr (List.mem_cons_of_mem c h)

theorem mem_keys_add (s : Store) (c : Candidate) (k : Candidate.Key) :
    k ∈ (s.add c).1.entries.map Candidate.key ↔
      k ∈ s.entries.map Candidate.key ∨ k = c.key := by
  rw [entries_add, add_snd]
  by_cases h : c.key ∈ s.entries.map Candidate.key
  · have hk : k = c.key → k ∈ s.entries.map Candidate.key := fun e => e ▸ h
    simpa [h] using hk
  · simp [h]

theorem keys_probe (s : Store) (o : Nat → Candidate → Option (Bool × UInt16)) :
    (s.probe o).entries.map Candidate.key = s.entries.map Candidate.key := by
  have h : (s.probe o).keys = s.keys := rfl
  rw [keys_eq, keys_eq, ← Function.comp_def, ← List.map_map, ← List.map_map] at h
  exact Candidate.Key.text_injective.list_map h

theorem getElem?_probe (s : Store) (o : Nat → Candidate → Option (Bool × UInt16)) (i : Nat) :
    (s.probe o).entries[i]? = s.entries[i]?.map fun c =>
      match o i c with
      | some (r, n) => c.recordProbe r n
      | none => c := by
  rw [probe]
  exact List.getElem?_mapIdx

theorem bare_probe (s : Store) (o : Nat → Candidate → Option (Bool × UInt16)) :
    (s.probe o).entries.map Candidate.bare = s.entries.map Candidate.bare := by
  apply List.ext_getElem?
  intro i
  rw [List.getElem?_map, List.getElem?_map, getElem?_probe, Option.map_map]
  congr 1
  funext c
  simp only [Function.comp_apply]
  cases o i c with
  | none => rfl
  | some p => simp

theorem getElem?_add_of_some {s : Store} {i : Nat} {c : Candidate} (h : s.entries[i]? = some c)
    (d : Candidate) : (s.add d).1.entries[i]? = some c := by
  have hi : i < s.entries.length := (List.getElem?_eq_some_iff.mp h).1
  rw [entries_add, List.getElem?_append_left hi, h]

theorem getElem?_probe_of_isProbed {s : Store} {i : Nat} {c : Candidate}
    (h : s.entries[i]? = some c) (hc : c.isProbed)
    (o : Nat → Candidate → Option (Bool × UInt16)) : (s.probe o).entries[i]? = some c := by
  rw [getElem?_probe, h, Option.map_some]
  cases o i c with
  | none => rfl
  | some p => simp [Candidate.recordProbe_of_isProbed hc]

theorem addAll_cons (s : Store) (c : Candidate) (cs : List Candidate) :
    s.addAll (c :: cs) = (s.add c).1.addAll cs := rfl

theorem addAll_append (s : Store) (cs ds : List Candidate) :
    s.addAll (cs ++ ds) = (s.addAll cs).addAll ds := List.foldl_append

theorem mem_keys_addAll (s : Store) (cs : List Candidate) (k : Candidate.Key) :
    k ∈ (s.addAll cs).entries.map Candidate.key ↔
      k ∈ s.entries.map Candidate.key ∨ k ∈ cs.map Candidate.key := by
  induction cs generalizing s with
  | nil => simp [addAll]
  | cons c cs ih => rw [addAll_cons, ih, mem_keys_add, List.map_cons, List.mem_cons, or_assoc]

theorem eq_of_key_eq {s : Store} {c d : Candidate} (hc : c ∈ s.entries) (hd : d ∈ s.entries)
    (h : c.key = d.key) : c = d :=
  List.inj_on_of_nodup_map s.keys_nodup hc hd h

theorem mem_entries_addAll_iff (cs : List Candidate) (e : Candidate) :
    e ∈ (empty.addAll cs).entries ↔ cs.find? (fun d => d.key = e.key) = some e := by
  induction cs using List.reverseRecOn with
  | nil => simp [addAll, empty]
  | append_singleton cs c ih =>
    have hkeys := mem_keys_addAll empty cs c.key
    have hadd : (empty.addAll (cs ++ [c])).entries = (empty.addAll cs).entries ++
        if ((empty.addAll cs).add c).2 then [c] else [] := by
      rw [addAll_append]
      exact entries_add _ c
    rw [hadd, List.mem_append, ih, List.find?_append, add_snd]
    cases hfind : cs.find? (fun d => d.key = e.key) with
    | some d =>
      -- An earlier offer has the key, so that `c` is stored under another one or not at all.
      have hd : d ∈ cs := List.mem_of_find?_eq_some hfind
      have hkey : d.key = e.key := by simpa using List.find?_some hfind
      have hlate : e = c → c.key ∈ (empty.addAll cs).entries.map Candidate.key := by
        rintro rfl
        exact hkeys.2 (.inr (hkey ▸ List.mem_map_of_mem hd))
      by_cases hec : e = c
      · simp [hlate hec]
      · simp [hec]
    | none =>
      have hnone : ∀ d ∈ cs, d.key ≠ e.key := by simpa using List.find?_eq_none.1 hfind
      by_cases hec : e = c
      · subst hec
        have hfresh : e.key ∉ (empty.addAll cs).entries.map Candidate.key := by
          rw [hkeys]
          rintro (h | h)
          · cases h
          · obtain ⟨d, hd, hkey⟩ := List.mem_map.1 h
            exact hnone d hd hkey
        simp [hfresh]
      · have hce : c ≠ e := fun h => hec h.symm
        simp [hec, hce]

theorem mem_of_mem_addAll {cs : List Candidate} {e : Candidate}
    (h : e ∈ (empty.addAll cs).entries) : e ∈ cs :=
  List.mem_of_find?_eq_some ((mem_entries_addAll_iff cs e).1 h)

end Store

end EndpointScout
