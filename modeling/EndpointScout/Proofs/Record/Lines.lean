import EndpointScout.Proofs.Text.Decimal
import EndpointScout.Proofs.Text.Split
import EndpointScout.Record.Export

/-! The plain export by its lines. It has no quotes, so that a line break in a URL is a line
break of the file. -/
namespace EndpointScout

/-- The lines of a text; a line break at its end begins no further line. -/
def Text.lines (t : Text) : List Text :=
  let pieces := splitAt '\n' t
  if pieces.getLast? = some [] then pieces.dropLast else pieces

theorem Text.lines_subset (t : Text) : lines t ⊆ splitAt '\n' t := by
  rw [lines]
  split
  · exact List.dropLast_subset _
  · exact fun l hl => hl

theorem Text.lines_join_iff {ls : List Text} (hlast : ls.getLast? ≠ some []) :
    lines (join ['\n'] ls) = ls ↔ ∀ l ∈ ls, '\n' ∉ l := by
  constructor
  · intro h l hl
    rw [← h] at hl
    exact not_mem_of_mem_splitAt (lines_subset _ hl)
  · intro h
    cases ls with
    | nil => rfl
    | cons l ls =>
      have hsplit := splitAt_join (List.cons_ne_nil l ls) h
      rw [lines, hsplit, if_neg hlast]

namespace Record

def statusMark (status : Option UInt16) : Text :=
  match status with
  | some s => if s = 0 then [] else " [".toList ++ Text.ofNat s.toNat ++ [']']
  | none => []

theorem line_eq (r : Record) : r.line = r.resolvedUrl ++ statusMark r.status := by
  rw [line, statusMark.eq_def]
  cases r.status with
  | none => exact (List.append_nil _).symm
  | some s =>
    by_cases h : s = 0
    · simp [h]
    · simp [h]

theorem newline_notMem_statusMark (status : Option UInt16) : '\n' ∉ statusMark status := by
  have hdigit : ¬Text.isDigit '\n' = true := by decide
  intro h
  rw [statusMark.eq_def] at h
  split at h
  · split at h
    · cases h
    · simp only [List.mem_append, List.mem_singleton] at h
      obtain (h | h) | h := h
      · exact absurd h (by decide)
      · exact hdigit (Text.isDigit_of_mem_ofNat _ h)
      · cases h
  · cases h

theorem lines_txtExport_iff {records : List Record} (hne : ∀ r ∈ records, r.resolvedUrl ≠ []) :
    Text.lines (txtExport records) = records.map (fun r => r.resolvedUrl ++ statusMark r.status) ↔
      ∀ r ∈ records, '\n' ∉ r.resolvedUrl := by
  have hline : (line : Record → Text) = fun r => r.resolvedUrl ++ statusMark r.status :=
    funext line_eq
  have hlast : (records.map line).getLast? ≠ some [] := by
    intro hnil
    obtain ⟨r, hr, hempty⟩ := List.mem_map.1 (List.mem_of_getLast? hnil)
    rw [line_eq, List.append_eq_nil_iff] at hempty
    exact hne r hr hempty.1
  rw [← hline, txtExport, Text.lines_join_iff hlast, List.forall_mem_map]
  simp only [line_eq, List.mem_append, newline_notMem_statusMark, or_false]

end Record

end EndpointScout
