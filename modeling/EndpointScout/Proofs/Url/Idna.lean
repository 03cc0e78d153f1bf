import EndpointScout.Url.Idna
import EndpointScout.Proofs.Text.Split
import EndpointScout.Proofs.Url.Punycode

/-! The ASCII form of a host name is its own ASCII form. -/
namespace EndpointScout.Url.Idna

theorem mapChar?_of_isStable {label : Text} (h : isStable label) {c : Char} (hc : c ∈ label) :
    mapChar? c = some [c] := by
  simpa using List.all_eq_true.1 h c hc

theorem isStable_iff {label : Text} : isStable label ↔ ∀ c ∈ label, mapChar? c = some [c] := by
  simp [isStable]

theorem mapText?_of_isStable {t : Text} (h : ∀ c ∈ t, mapChar? c = some [c]) :
    mapText? t = some t := by
  induction t with
  | nil => rfl
  | cons c t ih =>
    rw [mapText?, h c List.mem_cons_self, ih fun d hd => h d (List.mem_cons_of_mem c hd)]
    rfl

theorem mapChar?_of_isCode {c : Char} (h : Punycode.isCode c) : mapChar? c = some [c] := by
  have hascii := Punycode.isAscii_of_isCode h
  have hcodes : ∀ n < 128,
      (!Punycode.isCode (Char.ofNat n) || Text.asciiLowerChar (Char.ofNat n) == Char.ofNat n) =
        true := by
    decide
  have hlower := Text.forall_ascii (p := fun c => !Punycode.isCode c || Text.asciiLowerChar c == c)
    hcodes hascii
  simp only [h, Bool.not_true, Bool.false_or, beq_iff_eq] at hlower
  simp [mapChar?, hascii, hlower]

theorem compose_of_ascii {t : Text} (h : ∀ c ∈ t, Text.isAscii c) : Text.compose t = t := by
  rw [Text.compose, if_pos (List.all_eq_true.2 h)]

theorem isAscii_of_isDenied {c : Char} (h : isDenied c) : Text.isAscii c := by
  have hlist : ∀ d ∈ "%#/:<>?@[\\]^|".toList, Text.isAscii d :=
    Text.forall_of_all (by decide)
  simp only [isDenied, Bool.or_eq_true, decide_eq_true_eq, beq_iff_eq, List.contains_iff_mem] at h
  obtain (h | h) | h := h
  · exact decide_eq_true (by omega)
  · exact decide_eq_true (by omega)
  · exact hlist c h

/-- What is asked of the written form of a label: it is its own form, and stands for the
same label. -/
structure IsForm (label ascii : Text) : Prop where
  isAscii : ∀ c ∈ ascii, Text.isAscii c
  stable : ∀ c ∈ ascii, mapChar? c = some [c]
  dotless : '.' ∉ ascii
  again : (∀ c ∈ ascii, isDenied c = false) → labelForms? ascii = some (label, ascii)

theorem isForm_encode {label code : Text} (hdot : '.' ∉ label) (hstable : isStable label)
    (hlabel : label.all Text.isAscii = false) (hwell : isWellFormed label)
    (hcode : Punycode.encode? label = some code) : IsForm label (marker ++ code) := by
  have hchars : ∀ c ∈ marker ++ code,
      c ∈ marker ∨ (c ∈ label ∧ Text.isAscii c) ∨ c = '-' ∨ Punycode.isCode c := by
    intro c hc
    obtain hc | hc := List.mem_append.1 hc
    · exact .inl hc
    · exact .inr (Punycode.mem_encode? hcode c hc)
  have hmarker : ∀ c ∈ marker, Text.isAscii c ∧ mapChar? c = some [c] ∧ c ≠ '.' :=
    Text.forall_of_all (by decide +kernel)
  have hhyphen : Text.isAscii '-' ∧ mapChar? '-' = some ['-'] ∧ '-' ≠ '.' := by decide +kernel
  have hall : ∀ c ∈ marker ++ code, Text.isAscii c ∧ mapChar? c = some [c] ∧ c ≠ '.' := by
    intro c hc
    obtain hc | ⟨hc, ha⟩ | rfl | hc := hchars c hc
    · exact hmarker c hc
    · exact ⟨ha, mapChar?_of_isStable hstable hc, fun hd => hdot (hd ▸ hc)⟩
    · exact hhyphen
    · refine ⟨Punycode.isAscii_of_isCode hc, mapChar?_of_isCode hc, fun hd => ?_⟩
      rw [hd] at hc
      revert hc
      decide
  refine ⟨fun c hc => (hall c hc).1, fun c hc => (hall c hc).2.1,
    fun hd => (hall '.' hd).2.2 rfl, fun hdenied => ?_⟩
  have hform : isStable (marker ++ code) := isStable_iff.2 fun c hc => (hall c hc).2.1
  have hascii : (marker ++ code).all Text.isAscii :=
    List.all_eq_true.2 fun c hc => (hall c hc).1
  have hnone : label.any isDenied = false := by
    rw [List.any_eq_false]
    intro c hc hd
    have hmem := Punycode.subset_encode? hcode (List.mem_filter.2 ⟨hc, isAscii_of_isDenied hd⟩)
    simp [hdenied c (List.mem_append_right _ hmem)] at hd
  have hgood : (label.all Text.isAscii || label.any isDenied || !isWellFormed label) = false := by
    rw [hlabel, hnone, hwell]
    rfl
  simp only [labelForms?, hform, Text.dropPrefix?_append, hascii, Punycode.decode?_encode? hcode,
    Option.bind_eq_bind, Option.bind_some, hgood, Bool.not_true, Bool.false_eq_true, if_false,
    if_true]

theorem isForm_of_labelForms? {label decoded ascii : Text} (hdot : '.' ∉ label)
    (h : labelForms? label = some (decoded, ascii)) : IsForm decoded ascii := by
  have hfound := h
  rw [labelForms?] at h
  split at h
  · cases h
  · rename_i hstable
    rw [Bool.not_eq_true', Bool.not_eq_false] at hstable
    split at h
    · split at h
      · rename_i code _ hascii
        obtain ⟨text, -, h⟩ := Option.bind_eq_some_iff.1 h
        split at h
        · cases h
        · cases h
          exact ⟨List.all_eq_true.1 hascii, isStable_iff.1 hstable, hdot, fun _ => hfound⟩
      · cases h
    · split at h
      · rename_i hascii
        cases h
        exact ⟨List.all_eq_true.1 hascii, isStable_iff.1 hstable, hdot, fun _ => hfound⟩
      · rename_i hascii
        split at h
        · rename_i hwell
          obtain ⟨code, hcode, h⟩ := Option.map_eq_some_iff.1 h
          cases h
          exact isForm_encode hdot hstable (by simpa using hascii) hwell hcode
        · cases h

theorem isForm_of_mapM {labels : List Text} {forms : List (Text × Text)}
    (hdots : ∀ l ∈ labels, '.' ∉ l) (h : labels.mapM labelForms? = some forms) :
    ∀ f ∈ forms, IsForm f.1 f.2 := by
  induction labels generalizing forms with
  | nil =>
    rw [List.mapM_nil] at h
    cases h
    simp
  | cons l ls ih =>
    rw [List.mapM_cons] at h
    obtain ⟨f, hf, h⟩ := Option.bind_eq_some_iff.1 h
    obtain ⟨fs, hfs, h⟩ := Option.bind_eq_some_iff.1 h
    cases h
    obtain ⟨hl, hls⟩ := List.forall_mem_cons.1 hdots
    exact List.forall_mem_cons.2 ⟨isForm_of_labelForms? hl hf, ih hls hfs⟩

theorem mapM_ascii {forms : List (Text × Text)} (hforms : ∀ f ∈ forms, IsForm f.1 f.2)
    (hdenied : ∀ f ∈ forms, ∀ c ∈ f.2, isDenied c = false) :
    (forms.map (·.2)).mapM labelForms? = some forms := by
  induction forms with
  | nil => rfl
  | cons f fs ih =>
    obtain ⟨hf, hfs⟩ := List.forall_mem_cons.1 hforms
    obtain ⟨hd, hds⟩ := List.forall_mem_cons.1 hdenied
    rw [List.map_cons, List.mapM_cons, hf.again hd, ih hfs hds]
    rfl

theorem toAscii?_toAscii? {name ascii : Text} (h : toAscii? name = some ascii) :
    toAscii? ascii = some ascii ∧
      ∀ c ∈ ascii, Text.isAscii c ∧ mapChar? c = some [c] ∧ isDenied c = false := by
  obtain ⟨mapped, -, h⟩ := Option.bind_eq_some_iff.1 h
  obtain ⟨forms, hforms, h⟩ := Option.bind_eq_some_iff.1 h
  simp only at h
  split at h
  · cases h
  rename_i hdirections
  split at h
  · cases h
  rename_i hdenied
  obtain rfl := Option.some.inj h
  have hform := isForm_of_mapM (fun l hl => Text.not_mem_of_mem_splitAt hl) hforms
  have hdots : ∀ a ∈ forms.map (·.2), '.' ∉ a := by
    simpa using fun a l hf => (hform (l, a) hf).dotless
  have hne : forms.map (·.2) ≠ [] := by
    have := List.length_pos_iff.2 (Text.splitAt_ne_nil '.' (Text.compose mapped))
    rw [← Text.length_of_mapM hforms] at this
    simpa using List.ne_nil_of_length_pos this
  have hallowed : ∀ c ∈ Text.join ['.'] (forms.map (·.2)), isDenied c = false := by
    simpa using hdenied
  have hchars : ∀ c ∈ Text.join ['.'] (forms.map (·.2)),
      Text.isAscii c ∧ mapChar? c = some [c] := by
    intro c hc
    obtain rfl | ⟨a, ha, hc⟩ := Text.mem_join hc
    · decide +kernel
    · obtain ⟨f, hf, rfl⟩ := List.mem_map.1 ha
      exact ⟨(hform f hf).isAscii c hc, (hform f hf).stable c hc⟩
  refine ⟨?_, fun c hc => ⟨(hchars c hc).1, (hchars c hc).2, hallowed c hc⟩⟩
  have hagain := mapM_ascii hform fun f hf c hc =>
    hallowed c (Text.subset_join (List.mem_map_of_mem hf) hc)
  rw [toAscii?, mapText?_of_isStable fun c hc => (hchars c hc).2]
  simp only [Option.bind_eq_bind, Option.bind_some]
  rw [compose_of_ascii fun c hc => (hchars c hc).1, Text.splitAt_join hne hdots, hagain]
  simp only [Option.bind_some, if_neg hdirections, if_neg hdenied]

end EndpointScout.Url.Idna
