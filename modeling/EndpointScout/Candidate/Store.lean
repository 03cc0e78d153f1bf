import EndpointScout.Candidate.Basic
import EndpointScout.Candidate.Canonical

/-! The candidates of one scan, in order of discovery and without duplicates. -/
namespace EndpointScout

namespace Candidate

/-- Two candidates are the same find if their paths and sources agree. -/
structure Key where
  path : Text
  source : Source
deriving Repr, DecidableEq

def Key.text (k : Key) : Text := k.path ++ '|' :: k.source.name.toList

def key (c : Candidate) : Key := ⟨normalizePath c.value, c.source⟩

theorem recordProbe_value (c : Candidate) (r : Bool) (s : UInt16) :
    (c.recordProbe r s).value = c.value := by
  unfold recordProbe; split <;> rfl

theorem recordProbe_source (c : Candidate) (r : Bool) (s : UInt16) :
    (c.recordProbe r s).source = c.source := by
  unfold recordProbe; split <;> rfl

@[simp] theorem key_recordProbe (c : Candidate) (r : Bool) (s : UInt16) :
    (c.recordProbe r s).key = c.key := by
  simp [key, recordProbe_value, recordProbe_source]

end Candidate

/-- Entries in order of arrival, with the written keys that keep duplicates out. -/
structure Store where
  entries : List Candidate
  keys : List Text
  keys_eq : keys = entries.map fun c => c.key.text
  nodup : keys.Nodup

namespace Store

def empty : Store := ⟨[], [], rfl, List.nodup_nil⟩

def size (s : Store) : Nat := s.entries.length

def add (s : Store) (c : Candidate) : Store × Bool :=
  if h : c.key.text ∈ s.keys then (s, false)
  else
    (⟨s.entries ++ [c], s.keys ++ [c.key.text], by simp [s.keys_eq],
      List.nodup_append.2 ⟨s.nodup, by simp, by
        intro a ha b hb e
        simp only [List.mem_singleton] at hb
        exact h (hb ▸ e ▸ ha)⟩⟩, true)

def addAll (s : Store) (cs : List Candidate) : Store := cs.foldl (fun s c => (s.add c).1) s

def addCounting (s : Store) : List Candidate → Store × Nat
  | [] => (s, 0)
  | c :: cs =>
    let (s, stored) := s.add c
    let (s, n) := s.addCounting cs
    (s, n + if stored then 1 else 0)

def probe (s : Store) (outcome : Nat → Candidate → Option (Bool × UInt16)) : Store :=
  ⟨s.entries.mapIdx fun i c =>
      match outcome i c with
      | some (r, n) => c.recordProbe r n
      | none => c,
    s.keys,
    by
      rw [s.keys_eq, List.mapIdx_eq_zipIdx_map, List.map_map]
      conv => lhs; rw [← List.zipIdx_map_fst 0 s.entries, List.map_map]
      apply List.map_congr_left
      rintro ⟨c, i⟩ _
      simp only [Function.comp_apply]
      cases outcome i c with
      | none => rfl
      | some p => simp,
    s.nodup⟩

def probeAt (s : Store) (index : Nat) (reachable : Bool) (status : UInt16) : Store :=
  s.probe fun i _ => if i = index then some (reachable, status) else none

end Store

end EndpointScout
