import EndpointScout.Proofs.Text.Csv
import EndpointScout.Proofs.Text.Decimal
import EndpointScout.Record.Export

/-! Records read back from their table. -/
namespace EndpointScout.Record

theorem isField_csvField (t : Text) : Csv.IsField (csvField t) t := by
  rw [csvField]
  split_ifs with h
  · exact .quoted t
  · exact .bare (by simpa [Csv.isSpecial] using h)

theorem isRow_csvField {fields : List Text} (h : fields ≠ []) :
    Csv.IsRow (fields.map csvField) fields := by
  refine ⟨by simpa using h, ?_⟩
  rw [List.forall₂_map_left_iff]
  exact List.forall₂_same.2 fun t _ => isField_csvField t

theorem isTable_flatMap {rows : List (List Text)} (h : ∀ fields ∈ rows, fields ≠ []) :
    Csv.IsTable (rows.flatMap csvRow) rows := by
  refine ⟨rows.map (·.map csvField), ?_, by rw [List.flatMap_map]; rfl⟩
  rw [List.forall₂_map_left_iff]
  exact List.forall₂_same.2 fun fields hfields => isRow_csvField (h fields hfields)

theorem isTable_csvExport (records : List Record) :
    Csv.IsTable (csvExport records) (csvHeader :: records.map csvFields) := by
  have htext : csvExport records = (csvHeader :: records.map csvFields).flatMap csvRow := by
    rw [csvExport, List.flatMap_cons, List.flatMap_map]
  rw [htext]
  refine isTable_flatMap (List.forall_mem_cons.2 ⟨by simp [csvHeader], fun fields hfields => ?_⟩)
  obtain ⟨r, -, rfl⟩ := List.mem_map.1 hfields
  simp [csvFields]

def reachableOfCsv? (t : Text) : Option (Option Bool) :=
  if t = [] then some none
  else if t = "true".toList then some (some true)
  else if t = "false".toList then some (some false)
  else none

def statusOfCsv? (t : Text) : Option (Option UInt16) :=
  if t = [] then some none
  else (Text.toNat? t).bind fun n => if n < 65536 then some (some n.toUInt16) else none

def ofCsvFields? : List Text → Option Record
  | [value, resolvedUrl, kind, source, reachable, status] => do
    let kind ← Kind.all.find? fun k => k.name.toList == kind
    let source ← Source.all.find? fun s => s.name.toList == source
    let reachable ← reachableOfCsv? reachable
    let status ← statusOfCsv? status
    pure ⟨value, resolvedUrl, kind, source, reachable, status⟩
  | _ => none

theorem statusOfCsv?_csvFields (status : Option UInt16) :
    statusOfCsv? ((status.map fun s => Text.ofNat s.toNat).getD []) = some status := by
  cases status with
  | none => rfl
  | some n =>
    have hn : n.toNat.toUInt16 = n := UInt16.ofNat_toNat
    simp [statusOfCsv?, Text.ofNat_ne_nil, Text.toNat?_ofNat, n.toNat_lt, hn]

theorem ofCsvFields?_csvFields (r : Record) : ofCsvFields? r.csvFields = some r := by
  obtain ⟨value, resolvedUrl, kind, source, reachable, status⟩ := r
  have hkind : Kind.all.find? (fun k => k.name.toList == kind.name.toList) = some kind := by
    cases kind <;> rfl
  have hsource : Source.all.find? (fun s => s.name.toList == source.name.toList) =
      some source := by
    cases source <;> rfl
  simp only [csvFields, ofCsvFields?, hkind, hsource, statusOfCsv?_csvFields]
  obtain _ | _ | _ := reachable <;> rfl

/-- The table of any records reads back as its header and one row for each record in order, and
each row as its record. So no two lists of records are written as the same table. -/
theorem csv_reads_back :
    (∀ records, Csv.read (csvExport records) = some (csvHeader :: records.map csvFields)) ∧
    csvHeader.length = 6 ∧
    (∀ r : Record, r.csvFields.length = 6 ∧ ofCsvFields? r.csvFields = some r) ∧
    Function.Injective csvExport := by
  have hread (records : List Record) :
      Csv.read (csvExport records) = some (csvHeader :: records.map csvFields) :=
    Csv.read_eq_some_iff.2 (isTable_csvExport records)
  refine ⟨hread, rfl, fun r => ⟨rfl, ofCsvFields?_csvFields r⟩, fun records records' h => ?_⟩
  have hrows : records.map csvFields = records'.map csvFields := by
    have hsame := hread records
    rw [h, hread records'] at hsame
    exact (List.cons.inj (Option.some.inj hsame)).2.symm
  have hfields : Function.Injective csvFields := fun r r' hr => by
    have hsame := ofCsvFields?_csvFields r
    rw [hr, ofCsvFields?_csvFields r'] at hsame
    exact (Option.some.inj hsame).symm
  exact hfields.list_map hrows

end EndpointScout.Record
