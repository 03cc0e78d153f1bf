import EndpointScout.Proofs.Url.Origin
import EndpointScout.Proofs.Url.Resolved

/-! What a relative reference needs of its base: the scheme, the authority, and the segments of
the path in front of the last one. -/
namespace EndpointScout.Url
variable {u f : Url} {t : Text}

def directory (u : Url) : List Text := u.baseSegments.dropLast

def isBare (reference : Text) : Bool :=
  let t := tidy reference
  match ((cutScheme? t).map (·.2)).getD t with
  | [] => true
  | c :: _ => c == '?' || c == '#'

/-- Paths that are relative to one of the URLs lead to the same place from the other. -/
structure SharesDirectory (u f : Url) : Prop where
  scheme : u.scheme = f.scheme
  authority : u.authority = f.authority
  directory : u.directory = f.directory

theorem SharesDirectory.parseRelative (h : u.SharesDirectory f) (hne : t ≠ [])
    (hquery : t.head? ≠ some '?') (hfragment : t.head? ≠ some '#') :
    u.parseRelative t = f.parseRelative t := by
  have hdirectory : u.baseSegments.dropLast = f.baseSegments.dropLast := h.directory
  rw [parseRelative.eq_def, parseRelative.eq_def f]
  split
  · exact absurd rfl hne
  · exact absurd rfl hquery
  · exact absurd rfl hfragment
  · rw [h.scheme]
  · rw [h.scheme, h.authority, hdirectory]

theorem isVerbatim_of_host (h : u.host.isSome) : u.isVerbatim = false := by
  obtain ⟨a, ha⟩ : ∃ a, u.authority = some a := by
    cases hauthority : u.authority with
    | none => simp [host, hauthority] at h
    | some a => exact ⟨a, rfl⟩
  simp [isVerbatim, ha]

theorem isFileScheme_of_isHttp (h : Web.isHttp u) : isFileScheme u.scheme = false :=
  (special_of_web (isHttp_iff.1 h)).2

theorem SharesDirectory.join (h : u.SharesDirectory f) (hhttp : Web.isHttp u)
    (hhost : u.host.isSome) (ht : isBare t = false) : u.join t = f.join t := by
  have hfile := isFileScheme_of_isHttp hhttp
  have hhost' : f.host.isSome := by rwa [host, ← h.authority]
  have hparts : ∀ r, ((cutScheme? (tidy t)).map (·.2)).getD (tidy t) = r →
      r ≠ [] ∧ r.head? ≠ some '?' ∧ r.head? ≠ some '#' := by
    rintro r rfl
    rw [isBare] at ht
    split at ht
    · cases ht
    · rename_i hr
      rw [hr]
      simpa using ht
  rw [Url.join, Url.join, resolve, resolve]
  simp only
  split
  · rename_i scheme rest hcut
    obtain ⟨hne, hquery, hfragment⟩ := hparts rest (by rw [hcut]; rfl)
    have hnone (b : Url) (hb : isFileScheme b.scheme = false) :
        (some b).filter (fun b => isFileScheme b.scheme) = none := by
      rw [Option.filter, if_neg (by simp [hb])]
    rw [hnone u hfile, hnone f (h.scheme ▸ hfile), h.scheme,
      h.parseRelative hne hquery hfragment]
  · rename_i hcut
    obtain ⟨hne, hquery, hfragment⟩ := hparts (tidy t) (by rw [hcut]; rfl)
    rw [isVerbatim_of_host hhost, isVerbatim_of_host hhost', ← h.scheme, hfile,
      h.parseRelative hne hquery hfragment]
    simp [hfragment]

theorem join_letter (hhttp : Web.isHttp u) (hhost : u.host.isSome) :
    u.join ['x'] =
      .ok (assemble u.scheme u.authority (.segments (u.directory ++ [['x']])) []) := by
  have hfile := isFileScheme_of_isHttp hhttp
  have htidy : tidy ['x'] = ['x'] := by decide
  have hcut : cutScheme? ['x'] = none := by decide
  have hchar (special : Bool) : isSlash special 'x' = false ∧ encodedInPath 'x' = false := by
    cases special <;> decide
  have hclean (special file : Bool) : IsCleanSegment special file ['x'] :=
    ⟨List.forall_mem_singleton.2 (hchar special), by decide, by decide, by cases file <;> decide⟩
  have hsegments : parseSegments u.scheme true u.directory ['x'] =
      (u.directory ++ [['x']], []) := by
    have hpath : pathGo (isSpecialScheme u.scheme) false true u.directory.reverse []
        (['x'] ++ (([] : List Text).flatMap ('/' :: ·) ++ [])) = _ :=
      pathGo_segments u.directory.reverse (hclean (isSpecialScheme u.scheme) false) (by simp)
        (.inl rfl)
    rw [List.reverse_reverse] at hpath
    rw [parseSegments, hfile]
    exact congrArg (fun p => (p.1, p.2)) hpath
  have hrelative : u.parseRelative ['x'] =
      .ok (assemble u.scheme u.authority (.segments (parseSegments u.scheme true u.directory
        ['x']).1) (parseSegments u.scheme true u.directory ['x']).2) := rfl
  rw [Url.join, resolve, htidy, hcut]
  simp only [isVerbatim_of_host hhost, hfile, hrelative, hsegments]
  rfl

/-- All references that name a path are resolved alike exactly if scheme, authority and directory
are the same. -/
theorem join_eq_iff (hhttp : Web.isHttp u) (hhost : u.host.isSome) (hhttp' : Web.isHttp f)
    (hhost' : f.host.isSome) :
    (∀ t, isBare t = false → u.join t = f.join t) ↔ u.SharesDirectory f := by
  refine ⟨fun h => ?_, fun h t ht => h.join hhttp hhost ht⟩
  have hletter := h ['x'] (by decide)
  rw [join_letter hhttp hhost, join_letter hhttp' hhost'] at hletter
  simp only [assemble, Except.ok.injEq, Url.mk.injEq, Path.segments.injEq] at hletter
  obtain ⟨hscheme, hauthority, -, hsegments, -⟩ := hletter
  exact ⟨hscheme, hauthority, List.append_cancel_right hsegments⟩

end EndpointScout.Url
