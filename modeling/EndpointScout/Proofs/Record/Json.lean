import EndpointScout.Proofs.Json.Layout
import EndpointScout.Record.Export

/-! Records and candidates read back from the documents written of them. -/
namespace EndpointScout
open Json Json.Reader

namespace Document
variable {resolves : Bool} {f f' f'' : Fields}

theorem kindReader_quote {space : Text} (hspace : IsGap space) (k : Kind) (t : Text) :
    kindReader (space ++ (quote k.name.toList ++ t)) = .ok (k, t) := by
  have hk : (Kind.all.map fun k => (k.name, k)).find? (fun p => p.1.toList == k.name.toList) =
      some (k.name, k) := by
    cases k <;> rfl
  exact oneOf_quote hk hspace t

theorem sourceReader_quote {space : Text} (hspace : IsGap space) (s : Source) (t : Text) :
    sourceReader (space ++ (quote s.name.toList ++ t)) = .ok (s, t) := by
  have hs : (Source.all.map fun s => (s.name, s)).find? (fun p => p.1.toList == s.name.toList) =
      some (s.name, s) := by
    cases s <;> rfl
  exact oneOf_quote hs hspace t

theorem reachableReader_bool {space : Text} (hspace : IsGap space) (b : Bool) (t : Text) :
    reachableReader (space ++ ((Value.bool b).compact ++ t)) = .ok (some b, t) := by
  -- `true` and `false` are told from `null` by their first letter.
  cases b <;> exact (optional_of_ne (by decide) (by decide) hspace _).trans
    (map_of_ok (r := Reader.bool) rfl some)

theorem statusReader_ofNat {space t : Text} (hspace : IsGap space) (n : UInt16)
    (ht : EndsNumber t) :
    statusReader (space ++ ((Value.ofNat n.toNat).compact ++ t)) = .ok (some n, t) := by
  have hread : natBelow 65536 (Text.ofNat n.toNat ++ t) = .ok (n.toNat, t) :=
    natBelow_ofNat n.toNat (Nat.le_refl _) n.toNat_lt ht
  have hn : n.toNat.toUInt16 = n := UInt16.ofNat_toNat
  show statusReader (space ++ (Text.ofNat n.toNat ++ t)) = _
  cases hdigits : Text.ofNat n.toNat with
  | nil => exact absurd hdigits (Text.ofNat_ne_nil _)
  | cons c ds =>
    have hc : Text.isDigit c := Text.isDigit_of_mem_ofNat (n := n.toNat) c (by simp [hdigits])
    obtain ⟨hblank, -, hnull⟩ := digit_plain hc
    rw [hdigits] at hread
    refine (optional_of_ne hblank hnull hspace _).trans ?_
    refine (map_of_ok (map_of_ok hread Nat.toUInt16) some).trans ?_
    rw [hn]

/-- The value of a member stands on one line, and reading it, whatever follows, turns the
fields `f` into `f'`. -/
def Fills (resolves : Bool) (f : Fields) (m : Text × Value) (f' : Fields) : Prop :=
  m.2.IsFlat ∧ ∀ space t, IsGap space → EndsNumber t →
    f.take resolves m.1 (':' :: (space ++ (m.2.compact ++ t))) = .ok (f', t)

inductive FillsAll (resolves : Bool) : Fields → List (Text × Value) → Fields → Prop
  | nil (f : Fields) : FillsAll resolves f [] f
  | cons {f f' f'' : Fields} {m : Text × Value} {ms : List (Text × Value)} :
    Fills resolves f m f' → FillsAll resolves f' ms f'' → FillsAll resolves f (m :: ms) f''

theorem FillsAll.isFlat {ms : List (Text × Value)} (h : FillsAll resolves f ms f') :
    ∀ m ∈ ms, m.2.IsFlat := by
  induction h with
  | nil => simp
  | cons hm _ ih =>
    intro n hn
    obtain rfl | hn := List.mem_cons.1 hn
    · exact hm.1
    · exact ih n hn

theorem fills_of_take {α : Type} {r : Reader α} {slot : Option α} {m : Text × Value} {a : α}
    (put : Option α → Fields)
    (htake : f.take resolves m.1 = (do pure (put (← fill slot r)))) (hslot : slot = none)
    (hflat : m.2.IsFlat)
    (hread : ∀ space t, IsGap space → EndsNumber t →
      r (space ++ (m.2.compact ++ t)) = .ok (a, t)) :
    Fills resolves f m (put (some a)) := by
  refine ⟨hflat, fun space t hspace ht => ?_⟩
  have hfill : fill slot r (':' :: (space ++ (m.2.compact ++ t))) = .ok (some a, t) := by
    rw [hslot]
    exact (bind_of_ok (colon_cons _) _).trans (map_of_ok (hread space t hspace ht) some)
  rw [htake]
  exact bind_of_ok hfill _

theorem string_compact {space : Text} (hspace : IsGap space) (u t : Text) :
    Reader.string (space ++ ((Value.string u).compact ++ t)) = .ok (u, t) :=
  (string_gap hspace _).trans (string_quote_append u t)

theorem fills_value (h : f.value = none) (u : Text) :
    Fills resolves f ("value".toList, .string u) { f with value := some u } :=
  fills_of_take (fun o => { f with value := o }) rfl h (fun _ => rfl)
    fun _ t hspace _ => string_compact hspace u t

theorem fills_resolvedUrl (h : f.resolvedUrl = none) (u : Text) :
    Fills true f ("resolved_url".toList, .string u) { f with resolvedUrl := some u } :=
  fills_of_take (fun o => { f with resolvedUrl := o }) rfl h (fun _ => rfl)
    fun _ t hspace _ => string_compact hspace u t

theorem fills_kind (h : f.kind = none) (k : Kind) :
    Fills resolves f ("type".toList, .str k.name) { f with kind := some k } :=
  fills_of_take (fun o => { f with kind := o }) (by cases resolves <;> rfl) h
    (fun _ => rfl) fun _ t hspace _ => kindReader_quote hspace k t

theorem fills_source (h : f.source = none) (s : Source) :
    Fills resolves f ("source".toList, .str s.name) { f with source := some s } :=
  fills_of_take (fun o => { f with source := o }) (by cases resolves <;> rfl) h
    (fun _ => rfl) fun _ t hspace _ => sourceReader_quote hspace s t

theorem fills_reachable (h : f.reachable = none) (b : Bool) :
    Fills resolves f ("reachable".toList, .bool b) { f with reachable := some (some b) } :=
  fills_of_take (fun o => { f with reachable := o }) (by cases resolves <;> rfl) h
    (fun _ => by cases b <;> rfl) fun _ t hspace _ => reachableReader_bool hspace b t

theorem fills_status (h : f.status = none) (n : UInt16) :
    Fills resolves f ("status".toList, .ofNat n.toNat) { f with status := some (some n) } :=
  fills_of_take (fun o => { f with status := o }) (by cases resolves <;> rfl) h
    (fun _ => rfl) fun _ _ hspace ht => statusReader_ofNat hspace n ht

theorem fillsAll_probeMembers (hreachable : f.reachable = none) (hstatus : f.status = none)
    (reachable : Option Bool) (status : Option UInt16) :
    FillsAll resolves f (probeMembers reachable status)
      { f with reachable := reachable.map some, status := status.map some } := by
  cases f
  subst hreachable hstatus
  cases reachable with
  | none =>
    cases status with
    | none => exact .nil _
    | some n => exact .cons (fills_status rfl n) (.nil _)
  | some b =>
    cases status with
    | none => exact .cons (fills_reachable rfl b) (.nil _)
    | some n => exact .cons (fills_reachable rfl b) (.cons (fills_status rfl n) (.nil _))

section Object
variable (l : Layout) {ms : List (Text × Value)}

theorem read_pieces (h : FillsAll resolves f ms f') {fuel : Nat} (hfuel : ms.length < fuel)
    (first : Bool) (t : Text) :
    Fields.read resolves fuel first f
        (pieces l.gap first (ms.map l.member) ++ (l.last ++ '\x7d' :: t)) =
      .ok (f', '\x7d' :: t) := by
  induction h generalizing fuel first with
  | nil f =>
    obtain ⟨fuel, rfl⟩ := Nat.exists_eq_add_of_lt hfuel
    have hend := (nextName_gap first l.isGap_last _).trans (nextName_end first t)
    exact bind_of_ok hend _
  | @cons f f' f'' m ms hm hms ih =>
    obtain ⟨fuel, rfl⟩ := Nat.exists_eq_succ_of_ne_zero (Nat.ne_of_gt (Nat.zero_lt_of_lt hfuel))
    -- A status could swallow what follows it; only a comma, a blank or the brace can follow.
    have hends : EndsNumber (pieces l.gap false (ms.map l.member) ++ (l.last ++ '\x7d' :: t)) := by
      cases ms with
      | nil =>
        have hbrace : EndsNumber ('\x7d' :: t) := by simp [EndsNumber, Text.isDigit]
        show EndsNumber (l.last ++ _)
        exact endsNumber_gap l.isGap_last hbrace
      | cons n ms => simp [pieces, EndsNumber, Text.isDigit]
    refine (bind_of_ok (nextName_pieces l first m _ _) _).trans ?_
    refine (bind_of_ok (hm.2 l.space _ l.isGap_space hends) _).trans ?_
    exact ih (by simpa using hfuel) false

theorem structured_object {α : Type} {finish : Fields → Reader α} {array : Reader α} {v : α}
    (h : FillsAll resolves {} ms f') (hfinish : ∀ t, finish f' t = .ok (v, t)) (t : Text) :
    structured (members resolves >>= finish) array (l.object ms ++ t) = .ok (v, t) := by
  have hmembers : members resolves
      (pieces l.gap true (ms.map l.member) ++ (l.last ++ '\x7d' :: t)) = .ok (f', '\x7d' :: t) :=
    read_pieces l h (Nat.lt_succ_of_le (length_le_pieces l.member_ne_nil _ _ ms _)) true t
  rw [l.object_append, structured, bind_peekSome_cons (by decide)]
  refine (bind_of_ok (skip_cons '\x7b' _) _).trans ?_
  exact bind_of_ok ((bind_of_ok hmembers finish).trans (hfinish _)) _

end Object

end Document

open Document

def Candidate.memberList (c : Candidate) : List (Text × Value) :=
  ("value".toList, .string c.value) :: ("type".toList, .str c.kind.name) ::
    ("source".toList, .str c.source.name) :: probeMembers c.reachable c.status

def Record.memberList (r : Record) : List (Text × Value) :=
  ("value".toList, .string r.value) :: ("resolved_url".toList, .string r.resolvedUrl) ::
    ("type".toList, .str r.kind.name) :: ("source".toList, .str r.source.name) ::
    probeMembers r.reachable r.status

theorem Candidate.fillsAll_memberList (c : Candidate) : FillsAll false {} c.memberList
    { value := some c.value, kind := some c.kind, source := some c.source,
      reachable := c.reachable.map some, status := c.status.map some } :=
  .cons (fills_value rfl _) (.cons (fills_kind rfl _) (.cons (fills_source rfl _)
    (fillsAll_probeMembers rfl rfl _ _)))

theorem Record.fillsAll_memberList (r : Record) : FillsAll true {} r.memberList
    { value := some r.value, resolvedUrl := some r.resolvedUrl, kind := some r.kind,
      source := some r.source, reachable := r.reachable.map some,
      status := r.status.map some } :=
  .cons (fills_value rfl _) (.cons (fills_resolvedUrl rfl _) (.cons (fills_kind rfl _)
    (.cons (fills_source rfl _) (fillsAll_probeMembers rfl rfl _ _))))

section Reader
variable (l : Layout)

theorem Candidate.reader_object (c : Candidate) (t : Text) :
    Candidate.reader (l.object c.memberList ++ t) = .ok (c, t) := by
  refine structured_object l c.fillsAll_memberList (fun t => ?_) t
  obtain ⟨value, kind, source, reachable, status⟩ := c
  cases reachable <;> cases status <;> rfl

theorem Record.reader_object (r : Record) (t : Text) :
    Record.reader (l.object r.memberList ++ t) = .ok (r, t) := by
  refine structured_object l r.fillsAll_memberList (fun t => ?_) t
  obtain ⟨value, resolvedUrl, kind, source, reachable, status⟩ := r
  cases reachable <;> cases status <;> rfl

theorem Candidate.run_reader_compact (c : Candidate) :
    Reader.run Candidate.reader c.toDocument.compact = .ok c := by
  have hread := Candidate.reader_object Layout.compact c []
  rw [List.append_nil, ← compact_object] at hread
  exact run_of_ok hread

theorem Record.run_reader_compact (r : Record) :
    Reader.run Record.reader r.toDocument.compact = .ok r := by
  have hread := Record.reader_object Layout.compact r []
  rw [List.append_nil, ← compact_object] at hread
  exact run_of_ok hread

theorem Record.listGo_pieces (inner : Layout) (rs : List Record) {fuel : Nat}
    (hfuel : rs.length < fuel) (first : Bool) (t : Text) :
    Record.listGo fuel first (pieces l.gap first (rs.map fun r => inner.object r.memberList) ++
        (l.last ++ ']' :: t)) =
      .ok (rs, ']' :: t) := by
  induction rs generalizing fuel first with
  | nil =>
    obtain ⟨fuel, rfl⟩ := Nat.exists_eq_add_of_lt hfuel
    have hend := (nextItem_gap first l.isGap_last _).trans (nextItem_end first t)
    exact bind_of_ok hend _
  | cons r rs ih =>
    obtain ⟨fuel, rfl⟩ := Nat.exists_eq_succ_of_ne_zero (Nat.ne_of_gt (Nat.zero_lt_of_lt hfuel))
    refine (bind_of_ok (nextItem_pieces l.isGap_gap first _ _ _) _).trans ?_
    refine (bind_of_ok (Record.reader_object inner r _) _).trans ?_
    exact bind_of_ok (ih (by simpa using hfuel) false) _

theorem Record.run_listReader_array (inner : Layout) (rs : List Record) :
    Reader.run Record.listReader (l.array (rs.map fun r => inner.object r.memberList)) =
      .ok rs := by
  have hlength := length_le_pieces (fun r : Record => inner.object_ne_nil r.memberList) l.gap
    true rs (l.last ++ [']'])
  have hlist := Record.listGo_pieces l inner rs (Nat.lt_succ_of_le hlength) true []
  refine run_of_ok ?_
  rw [Record.listReader, Layout.array, bind_peekSome_cons (by decide)]
  refine (bind_of_ok (skip_cons '[' _) _).trans ?_
  refine (bind_of_ok (r := fun t => Record.listGo (t.length + 1) true t) hlist _).trans ?_
  exact bind_of_ok (closeArray_cons []) _

theorem Record.pretty_toDocument (r : Record) (depth : Nat) :
    r.toDocument.pretty depth = (Layout.indented depth).object r.memberList :=
  pretty_object (by simp [Record.memberList]) r.fillsAll_memberList.isFlat depth

theorem Record.run_listReader_jsonExport (rs : List Record) :
    Reader.run Record.listReader (Record.jsonExport rs) = .ok rs := by
  cases rs with
  | nil => rfl
  | cons r rs =>
    have htext : Record.jsonExport (r :: rs) = (Layout.indented 0).array
        ((r :: rs).map fun r => (Layout.indented 1).object r.memberList) := by
      rw [Record.jsonExport, pretty_array (by simp), List.map_map]
      simp only [Function.comp_def, Record.pretty_toDocument]
    rw [htext]
    exact Record.run_listReader_array _ _ (r :: rs)

end Reader

/-- Records and candidates come back from what is written of them, whichever of their fields
are set and whatever their texts hold. -/
theorem documents_read_back :
    (∀ rs : List Record, Reader.run Record.listReader (Record.jsonExport rs) = .ok rs) ∧
    (∀ r : Record, Reader.run Record.reader r.toDocument.compact = .ok r) ∧
    (∀ c : Candidate, Reader.run Candidate.reader c.toDocument.compact = .ok c) :=
  ⟨Record.run_listReader_jsonExport, Record.run_reader_compact, Candidate.run_reader_compact⟩

end EndpointScout
