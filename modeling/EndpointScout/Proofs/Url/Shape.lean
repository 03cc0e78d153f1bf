import EndpointScout.Proofs.Url.Written

/-! The URLs that reading can give: by what they have in front of the path. -/
namespace EndpointScout.Url

/-- What reading leaves of a text. -/
inductive IsRead : Url → Prop
  | hosted {scheme : Text} {a : Authority} {segs : List Text} {tail : Text}
      (hs : IsScheme scheme) (hfile : isFileScheme scheme = false) (ha : a.IsClean scheme)
      (hsegs : IsCleanPath scheme segs) :
      IsRead (assemble scheme (some a) (.segments segs) tail)
  | file {host : Option Host} {segs : List Text} {tail : Text}
      (hhost : ∀ h, host = some h →
        IsFileHost h ∧ segs.any isNormalizedDriveLetter = false)
      (hsegs : IsCleanPath "file".toList segs) :
      IsRead (assemble "file".toList (some (fileAuthority host)) (.segments segs) tail)
  | rooted {scheme : Text} {segs : List Text} {tail : Text}
      (hs : IsScheme scheme) (hspecial : isSpecialScheme scheme = false)
      (hsegs : IsCleanPath scheme segs) (hne : segs ≠ []) :
      IsRead (assemble scheme none (.segments segs) tail)
  | verbatim {scheme path tail : Text}
      (hs : IsScheme scheme) (hspecial : isSpecialScheme scheme = false)
      (hpath : ∀ c ∈ path, isControl c = false) (hhead : path.head? ≠ some '/') :
      IsRead (assemble scheme none (.verbatim path) tail)

theorem isFileHost_parseHost {t : Text} {h : Host} (hp : parseHost t = .ok h)
    (hremote : h ≠ .domain "localhost".toList) : IsFileHost h :=
  ⟨parseHost_text hp, isHostText_parseHost hp, hremote⟩

theorem isFileHost_parseFileHost {t rest : Text} {h : Host}
    (hp : parseFileHost t = .ok (some h, rest)) : IsFileHost h := by
  simp only [parseFileHost] at hp
  split at hp
  · cases hp
  · split at hp
    · cases hp
    · obtain ⟨g, hg, hp⟩ := bind_eq_ok hp
      have hp := congrArg Prod.fst (Except.ok.inj hp)
      simp only at hp
      split at hp
      · cases hp
      · rename_i hlocal
        cases hp
        exact isFileHost_parseHost hg (by simpa using hlocal)

theorem isCleanPath_below (t : Text) :
    IsCleanPath "file".toList (parseSegments "file".toList true [] t).1 :=
  (isCleanPath_parseSegments t).1

theorem isRead_parseFile {t : Text} {u : Url} (h : parseFile none t = .ok u) :
    IsRead u ∧ u.scheme = "file".toList := by
  have hnone (segs : List Text) : ∀ g, (none : Option Host) = some g →
      IsFileHost g ∧ segs.any isNormalizedDriveLetter = false := fun g hg => by cases hg
  have hbelow {rest : Text} {u : Url} (h : Except.ok (assemble "file".toList
      (some (fileAuthority none)) (.segments (parseSegments "file".toList true [] rest).1)
      (parseSegments "file".toList true [] rest).2) = (.ok u : Except Error Url)) :
      IsRead u ∧ u.scheme = "file".toList := by
    cases h
    exact ⟨.file (hnone _) (isCleanPath_below rest), rfl⟩
  simp only [parseFile] at h
  split at h
  · rename_i c rest
    split at h
    · split at h
      · rename_i d after
        split at h
        · obtain ⟨⟨host, after⟩, hhost, h⟩ := bind_eq_ok h
          cases h
          refine ⟨.file (fun g hg => ?_) (isCleanPath_parsePathStart after), rfl⟩
          split at hg
          · cases hg
          · rename_i hdrive
            cases hg
            exact ⟨isFileHost_parseFileHost hhost, by simpa using hdrive⟩
        · exact hbelow h
      · exact hbelow h
    · exact hbelow h
  · exact hbelow h

theorem head?_percentEncode {c : Char} {t : Text}
    (h : (percentEncode isControl (c :: t)).head? = some '/') : c = '/' := by
  rw [percentEncode, List.flatMap_cons, percentChar] at h
  split at h
  · obtain ⟨b, bs, hb⟩ := List.exists_cons_of_ne_nil (Text.Utf8.encodeChar_ne_nil c)
    rw [hb] at h
    cases h
  · exact Option.some.inj h

theorem isRead_parseGeneral {scheme t : Text} {u : Url} (hs : IsScheme scheme)
    (hspecial : isSpecialScheme scheme = false) (h : parseGeneral scheme t = .ok u) : IsRead u := by
  have hfile := isFileScheme_of_not_special hspecial
  rw [parseGeneral.eq_def] at h
  split at h
  · obtain ⟨a, rest, ha, rfl⟩ := parseAfterSlashes_eq_ok h
    exact .hosted hs hfile ha (isCleanPath_parsePathStart rest)
  · rename_i rest _
    cases h
    have hsegs : IsCleanPath scheme (parseSegments scheme true [] rest).1 ∧
        (parseSegments scheme true [] rest).1 ≠ [] := isCleanPath_parseSegments rest
    exact .rooted hs hspecial hsegs.1 hsegs.2
  · rename_i hslashes hslash
    cases h
    refine .verbatim hs hspecial (percentEncode_clean keepsCodes_isControl _) ?_
    intro hhead
    cases t with
    | nil => cases hhead
    | cons c t =>
      have hc : c ≠ '/' := fun hc => hslash t (by rw [hc])
      rw [List.takeWhile_cons] at hhead
      split at hhead
      · exact hc (head?_percentEncode hhead)
      · cases hhead

/-- Whatever is read has one of the shapes. -/
theorem isRead_parse {t : Text} {u : Url} (h : parse t = .ok u) : IsRead u := by
  rw [parse, resolve] at h
  split at h
  · rename_i scheme rest hcut
    have hs := cutScheme?_eq_some hcut
    simp only at h
    split at h
    · exact (isRead_parseFile h).1
    · rename_i hfile
      split at h
      · obtain ⟨a, rest, ha, rfl⟩ := parseAfterSlashes_eq_ok h
        exact .hosted hs (by simpa using hfile) ha (isCleanPath_parsePathStart rest)
      · rename_i hspecial
        exact isRead_parseGeneral hs (by simpa using hspecial) h
  · cases h

theorem IsRead.isScheme {u : Url} (h : IsRead u) : IsScheme u.scheme := by
  cases h with
  | hosted hs hfile ha hsegs => exact hs
  | file hhost hsegs => exact isScheme_file
  | rooted hs hspecial hsegs hne => exact hs
  | verbatim hs hspecial hpath hhead => exact hs

theorem IsRead.isSome_authority {u : Url} (h : IsRead u) (hspecial : isSpecialScheme u.scheme) :
    u.authority.isSome := by
  cases h with
  | hosted hs hfile ha hsegs => rfl
  | file hhost hsegs => rfl
  | rooted hs hplain hsegs hne => exact absurd hspecial (by simpa [assemble] using hplain)
  | verbatim hs hplain hpath hhead => exact absurd hspecial (by simpa [assemble] using hplain)

theorem IsRead.exists_hosted {u : Url} (h : IsRead u) (hspecial : isSpecialScheme u.scheme)
    (hfile : isFileScheme u.scheme = false) : ∃ scheme a segs tail, IsScheme scheme ∧
      Authority.IsClean scheme a ∧ IsCleanPath scheme segs ∧
      u = assemble scheme (some a) (.segments segs) tail := by
  cases h with
  | hosted hs hfile ha hsegs => exact ⟨_, _, _, _, hs, ha, hsegs, rfl⟩
  | file hhost hsegs => cases hfile
  | rooted hs hplain hsegs hne => exact absurd hspecial (by simpa [assemble] using hplain)
  | verbatim hs hplain hpath hhead => exact absurd hspecial (by simpa [assemble] using hplain)

theorem isScheme_of_parse {t : Text} {u : Url} (h : parse t = .ok u) : IsScheme u.scheme :=
  (isRead_parse h).isScheme

theorem parse_of_cutScheme? {t scheme rest : Text} (h : cutScheme? (tidy t) = some (scheme, rest))
    (hspecial : isSpecialScheme scheme = false) : parse t = parseGeneral scheme rest := by
  have hfile := isFileScheme_of_not_special hspecial
  simp only [parse, resolve, h, hspecial, hfile, Bool.false_eq_true, if_false]

theorem exists_cutScheme?_of_parse {t : Text} {u : Url} (h : parse t = .ok u) :
    ∃ rest, cutScheme? (tidy t) = some (u.scheme, rest) := by
  rw [parse, resolve] at h
  split at h
  · rename_i scheme rest hcut
    simp only at h
    split at h
    · rename_i hfile
      rw [(isRead_parseFile h).2, hcut, beq_iff_eq.1 hfile]
      exact ⟨rest, rfl⟩
    · split at h
      · obtain ⟨a, behind, -, rfl⟩ := parseAfterSlashes_eq_ok h
        exact ⟨rest, hcut⟩
      · refine ⟨rest, ?_⟩
        rw [parseGeneral.eq_def] at h
        split at h
        · obtain ⟨a, behind, -, rfl⟩ := parseAfterSlashes_eq_ok h
          exact hcut
        · cases h
          exact hcut
        · cases h
          exact hcut
  · cases h

section Reference
variable {base u : Url} {t : Text}

theorem head?_segments {segs : List Text} (h : segs ≠ []) :
    (Path.segments segs).text.head? = some '/' := by
  obtain ⟨s, rest, rfl⟩ := List.exists_cons_of_ne_nil h
  rfl

theorem head?_pathText_parseRelative (hspecial : isSpecialScheme base.scheme)
    (ht : t.head? = some '/') (h : parseRelative base t = .ok u) :
    u.pathText.head? = some '/' := by
  have hslashes {rest : Text} (h : parseAfterSlashes base.scheme rest = .ok u) :
      u.pathText.head? = some '/' := by
    obtain ⟨a, rest, -, rfl⟩ := parseAfterSlashes_eq_ok h
    exact head?_segments ((isCleanPath_parsePathStart rest).ne_nil hspecial)
  rw [parseRelative.eq_def] at h
  split at h
  · cases ht
  · cases ht
  · cases ht
  · exact hslashes h
  · rename_i c rest _ _ _
    obtain rfl : c = '/' := Option.some.inj ht
    rw [if_pos (by decide)] at h
    split at h
    · exact hslashes h
    · obtain rfl := Except.ok.inj h
      exact head?_segments (isCleanPath_parseSegments rest).2

theorem tidy_slash (t : Text) : ∃ rest, tidy ('/' :: t) = '/' :: rest := by
  have hfront : ∀ d ∈ ([] : Text), 0x20 < d.toNat := by simp
  exact tidy_append_cons hfront (by decide) t

theorem head?_of_parse (h : parse t = .ok u) : t.head? ≠ some '/' := by
  intro hhead
  obtain ⟨rest, rfl⟩ := List.head?_eq_some_iff.1 hhead
  obtain ⟨tail, htail⟩ := exists_cutScheme?_of_parse h
  obtain ⟨tidied, htidy⟩ := tidy_slash rest
  rw [htidy] at htail
  cases htail

theorem join_slash (hfile : isFileScheme base.scheme = false)
    (hverbatim : base.isVerbatim = false) (t : Text) :
    base.join ('/' :: t) = parseRelative base (tidy ('/' :: t)) := by
  obtain ⟨rest, hrest⟩ := tidy_slash t
  have hletter : ¬Text.isLetter '/' = true := by decide
  have hmark : ¬(some '/' == some '#') = true := by decide
  have hcut : cutScheme? ('/' :: rest) = none := if_neg hletter
  simp only [join, resolve, hrest, hcut, List.head?_cons, hverbatim, hfile, Bool.false_eq_true,
    if_false]
  rw [if_neg hmark]

theorem head?_pathText_join (hspecial : isSpecialScheme base.scheme)
    (hfile : isFileScheme base.scheme = false) (hverbatim : base.isVerbatim = false)
    (h : base.join ('/' :: t) = .ok u) : u.pathText.head? = some '/' := by
  obtain ⟨rest, hrest⟩ := tidy_slash t
  rw [join_slash hfile hverbatim, hrest] at h
  exact head?_pathText_parseRelative hspecial rfl h

end Reference

end EndpointScout.Url
