import EndpointScout.Proofs.Url.RoundTrip
import EndpointScout.Url.Edit

/-! References resolved against a URL that was read: what comes out could have been read as
well, and so it is read back from its written form. -/
namespace EndpointScout.Url
variable {scheme : Text} {base u : Url} {t : Text}

theorem assemble_tailText {authority : Option Authority} {path : Path}
    {query fragment : Option Text}
    (hquery : ∀ q, query = some q → ∀ c ∈ q, encodedInQuery (isSpecialScheme scheme) c = false)
    (hfragment : ∀ f, fragment = some f → ∀ c ∈ f, encodedInFragment c = false) :
    assemble scheme authority path (tailText query fragment) =
      { assemble scheme authority path [] with query := query, fragment := fragment } := by
  unfold assemble
  rw [parseTail_tailText hquery hfragment]

theorem copyBase_assemble (authority : Option Authority) (path : Path) (tail : Text)
    (keepQuery : Bool) (t : Text) :
    ∃ tail', copyBase (assemble scheme authority path tail) keepQuery t =
      assemble scheme authority path tail' := by
  cases keepQuery with
  | false => exact ⟨t, rfl⟩
  | true =>
    refine ⟨tailText (parseTail scheme tail).1 (parseTail scheme t).2, ?_⟩
    rw [assemble_tailText (fun q hq => query_parseTail hq) fun f hf => fragment_parseTail hf]
    rfl

theorem withoutFragment_assemble (authority : Option Authority) (segs : List Text) (tail : Text) :
    ∃ tail', (assemble scheme authority (.segments segs) tail).withoutFragment =
      assemble scheme authority (.segments segs) tail' := by
  refine ⟨tailText (parseTail scheme tail).1 none, ?_⟩
  rw [assemble_tailText (fun q hq => query_parseTail hq) (by simp)]
  rfl

theorem IsRead.exists_assemble (h : IsRead u) :
    ∃ authority path, (∃ tail, u = assemble u.scheme authority path tail) ∧
      (∀ tail, IsRead (assemble u.scheme authority path tail)) ∧
      (isSpecialScheme u.scheme → ∃ segs, path = .segments segs) := by
  cases h with
  | hosted hs hfile ha hsegs =>
    exact ⟨_, _, ⟨_, rfl⟩, fun _ => .hosted hs hfile ha hsegs, fun _ => ⟨_, rfl⟩⟩
  | file hhost hsegs => exact ⟨_, _, ⟨_, rfl⟩, fun _ => .file hhost hsegs, fun _ => ⟨_, rfl⟩⟩
  | rooted hs hplain hsegs hne =>
    exact ⟨_, _, ⟨_, rfl⟩, fun _ => .rooted hs hplain hsegs hne, fun _ => ⟨_, rfl⟩⟩
  | verbatim hs hplain hpath hhead =>
    exact ⟨_, _, ⟨_, rfl⟩, fun _ => .verbatim hs hplain hpath hhead,
      fun hspecial => absurd hspecial (by simpa [assemble] using hplain)⟩

theorem IsRead.copyBase (h : IsRead base) (keepQuery : Bool) (t : Text) :
    IsRead (base.copyBase keepQuery t) := by
  obtain ⟨authority, path, ⟨tail, hbase⟩, hread, -⟩ := h.exists_assemble
  obtain ⟨tail', htail⟩ := copyBase_assemble authority path tail keepQuery t
  rw [hbase, htail]
  exact hread tail'

theorem IsRead.withoutFragment (h : IsRead u) (hspecial : isSpecialScheme u.scheme) :
    IsRead u.withoutFragment := by
  obtain ⟨authority, path, ⟨tail, hu⟩, hread, hpath⟩ := h.exists_assemble
  obtain ⟨segs, rfl⟩ := hpath hspecial
  obtain ⟨tail', htail⟩ := withoutFragment_assemble authority segs tail
  rw [hu, htail]
  exact hread tail'

theorem IsRead.below (h : IsRead base) (hfile : isFileScheme base.scheme = false)
    (hverbatim : base.isVerbatim = false) {done : List Text} (hdone : done ⊆ base.baseSegments)
    (rest tail : Text) :
    IsRead (assemble base.scheme base.authority
      (.segments (parseSegments base.scheme true done rest).1) tail) := by
  cases h with
  | hosted hs hfile ha hsegs =>
    exact .hosted hs hfile ha
      (isCleanPath_parseSegments_below (fun s hd => hsegs.segments s (hdone hd)) rest).1
  | file hhost hsegs => cases hfile
  | rooted hs hspecial hsegs hne =>
    have hclean := fun s hd => hsegs.segments s (hdone hd)
    exact .rooted hs hspecial (isCleanPath_parseSegments_below hclean rest).1
      (isCleanPath_parseSegments_below hclean rest).2
  | verbatim hs hspecial hpath hhead =>
    rw [isVerbatim] at hverbatim
    simp [assemble, pathText, Path.text, hhead] at hverbatim

theorem IsRead.isVerbatim_of_special (h : IsRead u) (hspecial : isSpecialScheme u.scheme) :
    u.isVerbatim = false := by
  obtain ⟨a, ha⟩ := Option.isSome_iff_exists.1 (h.isSome_authority hspecial)
  simp [isVerbatim, ha]

theorem isRead_parseAfterSlashes (hs : IsScheme scheme) (hfile : isFileScheme scheme = false)
    (h : parseAfterSlashes scheme t = .ok u) : IsRead u := by
  obtain ⟨a, rest, ha, rfl⟩ := parseAfterSlashes_eq_ok h
  exact .hosted hs hfile ha (isCleanPath_parsePathStart rest)

theorem isRead_parseRelative (hb : IsRead base) (hfile : isFileScheme base.scheme = false)
    (hverbatim : base.isVerbatim = false) (h : parseRelative base t = .ok u) : IsRead u := by
  rw [parseRelative.eq_def] at h
  split at h
  · cases h
    exact hb.copyBase true []
  · cases h
    exact hb.copyBase false _
  · cases h
    exact hb.copyBase true _
  · exact isRead_parseAfterSlashes hb.isScheme hfile h
  · split at h
    · split at h
      · exact isRead_parseAfterSlashes hb.isScheme hfile h
      · cases h
        exact hb.below hfile hverbatim (List.nil_subset _) _ _
    · cases h
      exact hb.below hfile hverbatim (List.dropLast_subset base.baseSegments) (_ :: _) _

theorem scheme_parseRelative (h : parseRelative base t = .ok u) : u.scheme = base.scheme := by
  have hslashes {rest : Text} (h : parseAfterSlashes base.scheme rest = .ok u) :
      u.scheme = base.scheme := by
    obtain ⟨a, rest, -, rfl⟩ := parseAfterSlashes_eq_ok h
    rfl
  rw [parseRelative.eq_def] at h
  split at h
  · cases h
    rfl
  · cases h
    rfl
  · cases h
    rfl
  · exact hslashes h
  · split at h
    · split at h
      · exact hslashes h
      · cases h
        rfl
    · cases h
      rfl

theorem scheme_parseFile {base : Option Url} (hbase : ∀ b, base = some b → isFileScheme b.scheme)
    (h : parseFile base t = .ok u) : isFileScheme u.scheme := by
  cases base with
  | none =>
    rw [(isRead_parseFile h).2]
    rfl
  | some b =>
    have hpure {x : Url} (hx : isFileScheme x.scheme) (h : (pure x : Except Error Url) = .ok u) :
        isFileScheme u.scheme := by
      cases h
      exact hx
    have hcopy (keepQuery : Bool) (t : Text) : isFileScheme (b.copyBase keepQuery t).scheme :=
      hbase b rfl
    simp only [parseFile] at h
    split at h
    · split at h
      · -- Behind a slash there is a host, or a path below the root.
        split at h
        · split at h
          · obtain ⟨p, -, h⟩ := bind_eq_ok h
            exact hpure rfl h
          · repeat' split at h
            all_goals exact hpure rfl h
        · repeat' split at h
          all_goals exact hpure rfl h
      · split at h
        · exact hpure (hcopy _ _) h
        · split at h
          · exact hpure (hcopy _ _) h
          · split at h
            · exact hpure rfl h
            · exact hpure rfl h
    · exact hpure (hcopy _ _) h

/-- What is resolved against a URL that was read has one of the shapes, files against files
apart. -/
theorem isRead_join (hb : IsRead base) (h : base.join t = .ok u)
    (hfile : isFileScheme base.scheme = false ∨ isFileScheme u.scheme = false) : IsRead u := by
  rw [join, resolve] at h
  simp only at h
  -- A reference with a scheme takes from the base what it lacks, if both are the same special one.
  split at h
  · rename_i scheme rest hcut
    have hs := cutScheme?_eq_some hcut
    split at h
    · obtain hfile | hfile := hfile
      · rw [Option.filter_some, if_neg (by simp [hfile])] at h
        exact (isRead_parseFile h).1
      · have hf : isFileScheme u.scheme := scheme_parseFile (by simp) h
        simp [hfile] at hf
    · rename_i hscheme
      rw [Bool.not_eq_true] at hscheme
      split at h
      · rename_i hspecial
        split at h
        · rename_i hsame
          obtain ⟨-, hsame⟩ := Bool.and_eq_true_iff.1 hsame
          obtain rfl := beq_iff_eq.1 hsame
          exact isRead_parseRelative hb hscheme (hb.isVerbatim_of_special hspecial) h
        · exact isRead_parseAfterSlashes hs hscheme h
      · rename_i hspecial
        exact isRead_parseGeneral hs (by simpa using hspecial) h
  · split at h
    · cases h
      exact hb.copyBase true _
    · split at h
      · cases h
      · rename_i hverbatim
        rw [Bool.not_eq_true] at hverbatim
        split at h
        · rename_i hbase
          obtain hfile | hfile := hfile
          · simp [hfile] at hbase
          · have hf : isFileScheme u.scheme := scheme_parseFile (by simpa using hbase) h
            simp [hfile] at hf
        · rename_i hbase
          exact isRead_parseRelative hb (by simpa using hbase) hverbatim h

theorem parse_of_join (hbase : isSpecialScheme base.scheme) (h : base.join t = .ok u)
    (hspecial : isSpecialScheme u.scheme = false) : parse t = .ok u := by
  have hscheme (hsame : u.scheme = base.scheme) : False := by
    rw [hsame, hbase] at hspecial
    cases hspecial
  have hfile (hfile : isFileScheme u.scheme) : False := by
    rw [isFileScheme_of_not_special hspecial] at hfile
    cases hfile
  rw [join, resolve] at h
  rw [parse, resolve]
  simp only at h ⊢
  -- Every way that takes something from the base leads to its scheme, or to that of files.
  split at h
  · rename_i scheme rest hcut
    split at h
    · exact (hfile (scheme_parseFile (by simp) h)).elim
    · rename_i hother
      rw [if_neg hother]
      split at h
      · rename_i hspecial'
        split at h
        · exact (hscheme (scheme_parseRelative h)).elim
        · obtain ⟨a, behind, -, rfl⟩ := parseAfterSlashes_eq_ok h
          rw [show isSpecialScheme scheme = false from hspecial] at hspecial'
          cases hspecial'
      · rename_i hgeneral
        rw [if_neg hgeneral]
        exact h
  · split at h
    · cases h
      exact (hscheme rfl).elim
    · split at h
      · cases h
      · split at h
        · rename_i hb
          exact (hfile (scheme_parseFile (by simpa using hb) h)).elim
        · exact (hscheme (scheme_parseRelative h)).elim

theorem parse_text_withoutFragment_of_join (hb : IsRead base) (h : base.join t = .ok u)
    (hspecial : isSpecialScheme u.scheme) (hfile : isFileScheme u.scheme = false) :
    parse u.withoutFragment.text = .ok u.withoutFragment :=
  ((isRead_join hb h (.inr hfile)).withoutFragment hspecial).parse_text_of_special hspecial hfile

end EndpointScout.Url
