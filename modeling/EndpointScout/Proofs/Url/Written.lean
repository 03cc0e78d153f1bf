import EndpointScout.Proofs.Text.Trim
import EndpointScout.Proofs.Url.Authority
import EndpointScout.Proofs.Url.Path

/-! Reading a written URL: where its scheme ends, and what is read behind it. -/
namespace EndpointScout.Url

theorem isFileScheme_of_not_special {scheme : Text} (h : isSpecialScheme scheme = false) :
    isFileScheme scheme = false := by
  rw [isSpecialScheme, Bool.or_eq_false_iff] at h
  exact h.2

theorem special_of_web {scheme : Text} (h : scheme = "http".toList ∨ scheme = "https".toList) :
    isSpecialScheme scheme = true ∧ isFileScheme scheme = false := by
  obtain rfl | rfl := h
  · decide
  · decide

structure IsScheme (s : Text) : Prop where
  head : (s.head?.map Text.isLetter).getD false = true
  chars : ∀ c ∈ s, isSchemeChar c
  lower : s.map lowerLetter = s

theorem isAscii_of_isSchemeChar {c : Char} (h : isSchemeChar c) : Text.isAscii c := by
  simp only [isSchemeChar, Text.isAlphanumeric, Bool.or_eq_true, beq_iff_eq] at h
  obtain (((h | h) | rfl) | rfl) | rfl := h
  · exact Text.isAscii_of_isLetter h
  · exact Text.isAscii_of_isDigit h
  · decide
  · decide
  · decide

theorem schemeChar_spec {c : Char} (h : isSchemeChar c) :
    c ≠ ':' ∧ c ≠ '/' ∧ 0x20 < c.toNat ∧ isSchemeChar (lowerLetter c) ∧
      lowerLetter (lowerLetter c) = lowerLetter c ∧
      (Text.isLetter c → Text.isLetter (lowerLetter c)) := by
  have hascii := isAscii_of_isSchemeChar h
  have hcodes : ∀ n < 128, isSchemeChar (Char.ofNat n) = true →
      Char.ofNat n ≠ ':' ∧ Char.ofNat n ≠ '/' ∧ 0x20 < (Char.ofNat n).toNat ∧
      isSchemeChar (lowerLetter (Char.ofNat n)) = true ∧
      lowerLetter (lowerLetter (Char.ofNat n)) = lowerLetter (Char.ofNat n) ∧
      (Text.isLetter (Char.ofNat n) = true →
        Text.isLetter (lowerLetter (Char.ofNat n)) = true) := by
    decide
  have hn : c.toNat < 128 := by simpa [Text.isAscii] using hascii
  have := hcodes c.toNat hn
  rw [Char.ofNat_toNat] at this
  exact this h

theorem cutScheme?_eq_some {t scheme rest : Text} (h : cutScheme? t = some (scheme, rest)) :
    IsScheme scheme := by
  rw [cutScheme?] at h
  split at h
  · rename_i hhead
    split at h
    · obtain ⟨rfl, rfl⟩ := Prod.mk.inj (Option.some.inj h)
      have hchars : ∀ c ∈ t.takeWhile isSchemeChar, isSchemeChar c := fun c hc =>
        List.mem_takeWhile_imp hc
      refine ⟨?_, ?_, ?_⟩
      · cases t with
        | nil => cases hhead
        | cons c t =>
          have hc : Text.isLetter c = true := hhead
          have hs : isSchemeChar c := by simp [isSchemeChar, Text.isAlphanumeric, hc]
          simpa [List.takeWhile_cons_of_pos hs] using (schemeChar_spec hs).2.2.2.2.2 hc
      · intro c hc
        obtain ⟨d, hd, rfl⟩ := List.mem_map.1 hc
        exact (schemeChar_spec (hchars d hd)).2.2.2.1
      · rw [List.map_map]
        exact List.map_congr_left fun c hc => (schemeChar_spec (hchars c hc)).2.2.2.2.1
    · cases h
  · cases h

theorem cutScheme?_spec {t scheme rest : Text} (h : cutScheme? t = some (scheme, rest)) :
    ∃ front, t = front ++ ':' :: rest ∧ scheme = front.map lowerLetter ∧
      ∀ c ∈ front, isSchemeChar c := by
  rw [cutScheme?] at h
  split at h
  · split at h
    · rename_i hrest
      obtain ⟨rfl, rfl⟩ := Prod.mk.inj (Option.some.inj h)
      refine ⟨t.takeWhile isSchemeChar, ?_, rfl, fun c hc => List.mem_takeWhile_imp hc⟩
      rw [← hrest, List.takeWhile_append_dropWhile]
    · cases h
  · cases h

theorem cutScheme?_map_append {front : Text}
    (hhead : (front.head?.map Text.isLetter).getD false = true)
    (hchars : ∀ c ∈ front, isSchemeChar c) (rest : Text) :
    cutScheme? (front ++ ':' :: rest) = some (front.map lowerLetter, rest) := by
  have hcolon : isSchemeChar ':' = false := by decide
  have hhead : ((front ++ ':' :: rest).head?.map Text.isLetter).getD false = true := by
    cases front with
    | nil => cases hhead
    | cons c cs => exact hhead
  have hend : ∀ c ∈ (':' :: rest).head?, isSchemeChar c = false := by simp [hcolon]
  rw [cutScheme?, if_pos hhead, Text.dropWhile_append_of_head hchars hend,
    Text.takeWhile_append_of_head hchars hend]
  rfl

theorem cutScheme?_append {scheme : Text} (h : IsScheme scheme) (rest : Text) :
    cutScheme? (scheme ++ ':' :: rest) = some (scheme, rest) := by
  rw [cutScheme?_map_append h.head h.chars, h.lower]

theorem IsScheme.plain {scheme : Text} (h : IsScheme scheme) : ∀ c ∈ scheme, 0x20 < c.toNat :=
  fun c hc => (schemeChar_spec (h.chars c hc)).2.2.1

theorem isScheme_file : IsScheme "file".toList :=
  ⟨by decide, Text.forall_of_all (by decide), by decide⟩

theorem filter_breaks {t : Text} (h : ∀ c ∈ t, 0x20 ≤ c.toNat) :
    (t.filter fun c => !(c == '\t' || c == '\n' || c == '\r')) = t := by
  refine List.filter_eq_self.2 fun c hc => ?_
  have hn := h c hc
  have hbreaks : ∀ d ∈ ['\t', '\n', '\r'], d.toNat < 0x20 := Text.forall_of_all (by decide)
  have hne (d : Char) (hd : d ∈ ['\t', '\n', '\r']) : c ≠ d := fun hcd => by
    have := hbreaks d hd
    rw [← hcd] at this
    omega
  simp [hne '\t' (by simp), hne '\n' (by simp), hne '\r' (by simp)]

theorem tidy_sublist (t : Text) : (tidy t).Sublist t :=
  List.filter_sublist.trans ((Text.dropEndWhile_prefix _).sublist.trans
    (List.dropWhile_sublist _))

theorem tidy_of_plain {t : Text} (h : ∀ c ∈ t, 0x20 < c.toNat) : tidy t = t := by
  have htrim : Text.trimWhile (fun c => c.toNat ≤ 0x20) t = t :=
    Text.trimWhile_of_forall fun c hc => by simpa using h c hc
  rw [tidy, htrim, filter_breaks fun c hc => Nat.le_of_lt (h c hc)]

theorem tidy_slashes {scheme front rest : Text} (hs : IsScheme scheme)
    (hfront : ∀ c ∈ front, 0x20 < c.toNat) (hrest : ∀ c ∈ rest, 0x20 < c.toNat) :
    tidy (scheme ++ ':' :: '/' :: '/' :: (front ++ rest)) =
      scheme ++ ':' :: '/' :: '/' :: (front ++ rest) := by
  refine tidy_of_plain fun c hc => ?_
  simp only [List.mem_append, List.mem_cons] at hc
  obtain hc | rfl | rfl | rfl | hc | hc := hc
  · exact hs.plain c hc
  · decide
  · decide
  · decide
  · exact hfront c hc
  · exact hrest c hc

theorem trim_scheme {scheme : Text} (hs : IsScheme scheme) (rest : Text) :
    Text.trimWhile (fun c => c.toNat ≤ 0x20) (scheme ++ ':' :: rest) =
      scheme ++ ':' :: Text.dropEndWhile (fun c => c.toNat ≤ 0x20) rest := by
  have hdrop : (scheme ++ ':' :: rest).dropWhile (fun c => c.toNat ≤ 0x20) =
      scheme ++ ':' :: rest := by
    cases hscheme : scheme with
    | nil => rfl
    | cons c cs =>
      have hc := hs.plain c (by simp [hscheme])
      simp
      omega
  rw [Text.trimWhile, hdrop, Text.dropEndWhile_append_cons (by decide)]

theorem tidy_append_cons {front : Text} {c : Char} (hfront : ∀ d ∈ front, 0x20 < d.toNat)
    (hc : 0x20 < c.toNat) (t : Text) : ∃ t', tidy (front ++ c :: t) = front ++ c :: t' := by
  have hplain : ∀ d ∈ front ++ [c], 0x20 < d.toNat :=
    List.forall_mem_append.2 ⟨hfront, List.forall_mem_singleton.2 hc⟩
  have hdrop : (front ++ c :: t).dropWhile (fun d => d.toNat ≤ 0x20) = front ++ c :: t := by
    cases front with
    | nil => exact List.dropWhile_cons_of_neg (by simpa using hc)
    | cons d front => exact List.dropWhile_cons_of_neg (by simpa using hfront d List.mem_cons_self)
  have hkept := filter_breaks fun d hd => Nat.le_of_lt (hplain d hd)
  rw [tidy, Text.trimWhile, hdrop, Text.dropEndWhile_append_cons (by simpa using hc),
    List.append_cons, List.filter_append, hkept, List.append_assoc]
  exact ⟨_, rfl⟩

theorem tidy_scheme_append {scheme : Text} (hs : IsScheme scheme) (rest : Text) :
    ∃ t, tidy (scheme ++ ':' :: rest) = scheme ++ ':' :: t :=
  tidy_append_cons hs.plain (by decide) rest

theorem tidy_scheme {scheme rest : Text} (hs : IsScheme scheme)
    (hrest : ∀ c ∈ rest, 0x20 ≤ c.toNat) :
    ∃ t, t <+: rest ∧ tidy (scheme ++ ':' :: rest) = scheme ++ ':' :: t := by
  have hstart := Text.dropEndWhile_prefix (p := fun c => c.toNat ≤ 0x20) rest
  refine ⟨_, hstart, ?_⟩
  rw [tidy, trim_scheme hs, filter_breaks]
  intro c hc
  obtain hc | hc := List.mem_append.1 hc
  · exact Nat.le_of_lt (hs.plain c hc)
  · obtain rfl | hc := List.mem_cons.1 hc
    · decide
    · exact hrest c (hstart.subset hc)

section Authority
variable {scheme rest : Text}

theorem isHostPart_plain {c : Char} (h : isHostPart c) : 0x20 < c.toNat := by
  simp only [isHostPart, isNameChar, Bool.or_eq_true, Bool.and_eq_true, decide_eq_true_eq] at h
  obtain h | h := h
  · exact h.1.1
  · have hmarks : ∀ d ∈ ":[]".toList, 0x20 < d.toNat := Text.forall_of_all (by decide)
    exact hmarks c (by simpa using h)

theorem toNat_ne_of_ne_blank {c : Char} (h : c ≠ ' ') : c.toNat ≠ 0x20 := fun hc =>
  h (by rw [← Char.ofNat_toNat c, hc])

theorem encodedInPath_plain {c : Char} (h : encodedInPath c = false) : 0x20 < c.toNat := by
  simp only [encodedInPath, encodedInFragment, isControl, Bool.or_eq_false_iff,
    decide_eq_false_iff_not, beq_eq_false_iff_ne] at h
  have hblank := toNat_ne_of_ne_blank h.1.1.1.1.1.1.1.1.2
  omega

theorem encodedInUserinfo_plain {c : Char} (h : encodedInUserinfo c = false) : 0x20 < c.toNat :=
  encodedInPath_plain (Bool.or_eq_false_iff.1 h).1

theorem Authority.IsClean.forall_text {p : Char → Prop} {a : Authority} (ha : a.IsClean scheme)
    (hhost : ∀ c, isHostPart c → p c) (hinfo : ∀ c, encodedInUserinfo c = false → p c)
    (hat : p '@') : ∀ c ∈ a.text, p c := by
  intro c hc
  rw [Authority.text_eq] at hc
  obtain hc | hc := List.mem_append.1 hc
  · rw [Authority.credentials] at hc
    split at hc
    · cases hc
    · simp only [List.mem_append, List.mem_singleton] at hc
      obtain (hc | hc) | rfl := hc
      · exact hinfo c (ha.username c hc)
      · split at hc
        · cases hc
        · obtain rfl | hc := List.mem_cons.1 hc
          · exact hhost ':' (by decide)
          · exact hinfo c (ha.password c hc)
      · exact hat
  · obtain hc | hc := List.mem_append.1 hc
    · exact hhost c (ha.hostText.isHostPart c hc)
    · exact hhost c (isHostPart_portText c hc)

theorem Authority.IsClean.text_spec {a : Authority} (ha : a.IsClean scheme) :
    ∀ c ∈ a.text, 0x20 < c.toNat ∧ endsAuthority true c = false :=
  ha.forall_text (fun _ hc => ⟨isHostPart_plain hc, (isHostPart_spec hc true).2⟩)
    (fun _ hc => ⟨encodedInUserinfo_plain hc, (userinfo_spec hc true).2.2⟩) (by decide)

theorem Authority.IsClean.text_ne_nil {a : Authority} (ha : a.IsClean scheme)
    (hspecial : isSpecialScheme scheme) : a.text ≠ [] := by
  intro hnil
  rw [Authority.text_eq, List.append_eq_nil_iff, List.append_eq_nil_iff] at hnil
  have hread := ha.host
  rw [hspecial, hnil.2.1, readHost_special_nil] at hread
  cases hread

theorem parse_of_tidy_hosted {a : Authority} {t : Text} (hs : IsScheme scheme)
    (hfile : isFileScheme scheme = false) (ha : a.IsClean scheme) (hrest : FollowsAuthority rest)
    (htidy : tidy t = scheme ++ ':' :: '/' :: '/' :: (a.text ++ rest)) :
    parse t = .ok (assemble scheme (some a) (.segments (parsePathStart scheme true rest).1)
      (parsePathStart scheme true rest).2) := by
  have hread := parseAfterSlashes_text ha hrest
  rw [parse, resolve, htidy, cutScheme?_append hs]
  simp only [hfile, Bool.false_eq_true, if_false]
  split
  · rename_i hspecial
    have hslashes : ('/' :: '/' :: (a.text ++ rest)).dropWhile (isSlash true) = a.text ++ rest := by
      obtain ⟨c, cs, hc⟩ := List.exists_cons_of_ne_nil (ha.text_ne_nil hspecial)
      have hslash : isSlash true c = false := by
        have hends := (ha.text_spec c (by simp [hc])).2
        simp only [endsAuthority, Bool.or_eq_false_iff] at hends
        exact hends.1.1
      have hsolidus : isSlash true '/' = true := rfl
      simp [hc, hslash, hsolidus]
    rw [hslashes, hread]
  · exact hread

/-- A written URL with an authority is read with the same authority. -/
theorem parse_hosted {a : Authority} (hs : IsScheme scheme) (hfile : isFileScheme scheme = false)
    (ha : a.IsClean scheme) (hrest : FollowsAuthority rest) (hplain : ∀ c ∈ rest, 0x20 < c.toNat) :
    parse (scheme ++ ':' :: '/' :: '/' :: (a.text ++ rest)) =
      .ok (assemble scheme (some a) (.segments (parsePathStart scheme true rest).1)
        (parsePathStart scheme true rest).2) :=
  parse_of_tidy_hosted hs hfile ha hrest
    (tidy_slashes hs (fun c hc => (ha.text_spec c hc).1) hplain)

end Authority

section File
variable {rest : Text}

theorem takeWhile_endsAuthority {t : Text} (hname : ∀ c ∈ t, endsAuthority true c = false)
    (hrest : FollowsAuthority rest) :
    (t ++ rest).takeWhile (fun c => !(isSlash true c || c == '?' || c == '#')) = t :=
  takeWhile_of_follows hname hrest

theorem dropWhile_endsAuthority {t : Text} (hname : ∀ c ∈ t, endsAuthority true c = false)
    (hrest : FollowsAuthority rest) :
    (t ++ rest).dropWhile (fun c => !(isSlash true c || c == '?' || c == '#')) = rest := by
  have h := List.takeWhile_append_dropWhile (l := t ++ rest)
    (p := fun c => !(isSlash true c || c == '?' || c == '#'))
  rw [takeWhile_endsAuthority hname hrest] at h
  exact List.append_cancel_left h

theorem isDriveLetter_hostText {t : Text} (h : IsHostText t) : isDriveLetter t = false := by
  cases hdrive : isDriveLetter t with
  | false => rfl
  | true =>
    obtain ⟨c, d, rfl, hc, hd⟩ := eq_of_isDriveLetter hdrive
    obtain h | ⟨inner, hinner, -⟩ := h
    · have hmarks : isNameChar ':' = false ∧ isNameChar '|' = false := by decide
      have hname := h d (by simp)
      obtain rfl | rfl := hd
      · simp [hmarks] at hname
      · simp [hmarks] at hname
    · have hbracket : Text.isLetter '[' = false := by decide
      simp only [List.cons.injEq] at hinner
      rw [hinner.1, hbracket] at hc
      cases hc

structure IsFileHost (h : Host) : Prop where
  host : parseHost h.text = .ok h
  hostText : IsHostText h.text
  remote : h ≠ .domain "localhost".toList

theorem IsFileHost.text_ne_nil {h : Host} (hh : IsFileHost h) : h.text ≠ [] := by
  intro hnil
  have hread := hh.host
  have hempty : parseHost [] = .error .emptyHost := by decide +kernel
  rw [hnil, hempty] at hread
  cases hread

theorem parseFileHost_none (hrest : FollowsAuthority rest) :
    parseFileHost rest = .ok (none, rest) := by
  have htake := takeWhile_endsAuthority (t := []) (by simp) hrest
  rw [List.nil_append] at htake
  simp only [parseFileHost, htake]
  rfl

theorem parseFileHost_text {h : Host} (hh : IsFileHost h) (hrest : FollowsAuthority rest) :
    parseFileHost (h.text ++ rest) = .ok (some h, rest) := by
  have hname : ∀ c ∈ h.text, endsAuthority true c = false := fun c hc =>
    (isHostPart_spec (hh.hostText.isHostPart c hc) true).2
  have hempty : ¬h.text.isEmpty = true := by simpa using hh.text_ne_nil
  have hlocal : ¬(h == .domain "localhost".toList) = true := by simpa using hh.remote
  simp only [parseFileHost, takeWhile_endsAuthority hname hrest,
    dropWhile_endsAuthority hname hrest, isDriveLetter_hostText hh.hostText, Bool.false_eq_true,
    if_false, if_neg hempty, hh.host, bind, Except.bind, pure, Except.pure, if_neg hlocal]

theorem parse_file {host : Option Host} (hrest : FollowsAuthority rest)
    (hplain : ∀ c ∈ rest, 0x20 < c.toNat)
    (hhost : ∀ h, host = some h → IsFileHost h ∧
      (parsePathStart "file".toList true rest).1.any isNormalizedDriveLetter = false) :
    ∃ u, parse ("file".toList ++ ':' :: '/' :: '/' :: (hostText host ++ rest)) = .ok u ∧
      u.host = host := by
  have hpart : ∀ c ∈ hostText host, 0x20 < c.toNat := by
    cases host with
    | none => simp [hostText]
    | some h => exact fun c hc => isHostPart_plain ((hhost h rfl).1.hostText.isHostPart c hc)
  have htidy := tidy_slashes isScheme_file hpart hplain
  have hread : parseFileHost (hostText host ++ rest) = .ok (host, rest) := by
    cases host with
    | none => exact parseFileHost_none hrest
    | some h => exact parseFileHost_text (hhost h rfl).1 hrest
  have hsolidus : isSlash true '/' = true := rfl
  have hfile : isFileScheme "file".toList = true := by decide
  have hparse : parse ("file".toList ++ ':' :: '/' :: '/' :: (hostText host ++ rest)) =
      .ok (assemble "file".toList
        (some (fileAuthority (if (parsePathStart "file".toList true rest).1.any
          isNormalizedDriveLetter then none else host)))
        (.segments (parsePathStart "file".toList true rest).1)
        (parsePathStart "file".toList true rest).2) := by
    rw [parse, resolve, htidy, cutScheme?_append isScheme_file]
    simp only [hfile, if_true, parseFile, hsolidus, hread, bind, Except.bind]
    rfl
  refine ⟨_, hparse, ?_⟩
  show (if (parsePathStart "file".toList true rest).1.any isNormalizedDriveLetter then none
    else host) = host
  cases host with
  | none => simp
  | some h => exact if_neg (ne_true_of_eq_false (hhost h rfl).2)

end File

theorem parse_bare {scheme rest : Text} (hs : IsScheme scheme)
    (hspecial : isSpecialScheme scheme = false) (hplain : ∀ c ∈ rest, 0x20 ≤ c.toNat)
    (hopen : ¬['/', '/'] <+: rest) :
    ∃ u, parse (scheme ++ ':' :: rest) = .ok u ∧ u.host = none := by
  obtain ⟨t, hstart, htidy⟩ := tidy_scheme hs hplain
  have hopen : ¬['/', '/'] <+: t := fun h => hopen (h.trans hstart)
  have hfile := isFileScheme_of_not_special hspecial
  rw [parse, resolve, htidy, cutScheme?_append hs]
  simp only [hfile, hspecial, Bool.false_eq_true, if_false]
  rw [parseGeneral.eq_def]
  split
  · rename_i r
    exact absurd ⟨r, rfl⟩ hopen
  · exact ⟨_, rfl, rfl⟩
  · exact ⟨_, rfl, rfl⟩

end EndpointScout.Url
