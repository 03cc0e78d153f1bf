import EndpointScout.Environment
import EndpointScout.Proofs.Candidate.Admission
import EndpointScout.Proofs.Candidate.Canonical
import EndpointScout.Proofs.Candidate.NormalPath
import EndpointScout.Proofs.Store.Mining
import EndpointScout.Proofs.Url.Hostless

/-! What admission would make of the values that are stored. It is asked about the text that was
found; the value is the normal form of that text and need not be admitted itself. -/
namespace EndpointScout

namespace Candidate
open Url
variable {value : Text}

theorem head?_normalizePath (h : value.head? = some '/') :
    (normalizePath value).head? = some '/' := by
  obtain ⟨t, rfl⟩ := List.head?_eq_some_iff.1 h
  by_cases href : IsReference ('/' :: t)
  · obtain ⟨u, hu⟩ := href
    rw [normalizePath_of_ok hu]
    exact head?_collapsePath (head?_pathText_join (by decide) (by decide) (by decide) hu)
  · rw [normalizePath_of_not_isReference href]
    refine head?_collapsePath ?_
    cases hsuffix : Text.dropSuffix? ('/' :: t) "?*".toList with
    | none => rfl
    | some front =>
      have hfront := congrArg List.head? (Text.dropSuffix?_eq_some hsuffix)
      cases front with
      | nil => cases hfront
      | cons c cs => exact hfront.symm

theorem head?_canonical_of_path (h : value.head? = some '/') :
    (canonical value).head? = some '/' := by
  rw [canonical, if_pos (by simp [h])]
  exact head?_normalizePath h

theorem stored_eq_scheme_append (u : Url) : ∃ rest, stored u = u.scheme ++ ':' :: rest := by
  have htext (w : Url) : ∃ rest, w.text = w.scheme ++ ':' :: rest :=
    ⟨_, by rw [text, beforePath, List.append_assoc, List.append_assoc, List.append_assoc,
      List.cons_append]⟩
  obtain ⟨rest, hrest⟩ := htext (u.withoutFragment.withPath
    (Text.dropEndWhile isSlash u.withoutFragment.pathText))
  have hscheme : stored u = if u.withoutFragment.query.isNone then
      Text.dropEndWhile isSlash (u.scheme ++ ':' :: rest) else u.scheme ++ ':' :: rest :=
    hrest ▸ rfl
  rw [hscheme]
  split
  · rw [Text.dropEndWhile_append_cons (by decide)]
    exact ⟨_, rfl⟩
  · exact ⟨_, rfl⟩

theorem front_canonical (hblank : value.dropWhile Text.isBlank = value)
    (hhead : value.head? ≠ some '/') :
    (canonical value).dropWhile Text.isBlank = canonical value ∧
      (canonical value).head? ≠ some '/' := by
  cases h : parse value with
  | error e =>
    rw [canonical_of_error hhead h]
    exact ⟨hblank, hhead⟩
  | ok u =>
    have hs := isScheme_of_parse h
    obtain ⟨rest, hrest⟩ := stored_eq_scheme_append u
    rw [canonical_of_ok hhead h, hrest]
    cases hscheme : u.scheme with
    | nil =>
      have hfirst := hs.head
      rw [hscheme] at hfirst
      cases hfirst
    | cons c cs =>
      have hc := (schemeChar_spec (hs.chars c (by simp [hscheme]))).2.1
      have hletter : Text.isLetter c = true := by
        have hfirst := hs.head
        rwa [hscheme] at hfirst
      refine ⟨List.dropWhile_cons_of_neg (Text.not_isBlank_of_isLetter hletter), ?_⟩
      exact fun h => hc (Option.some.inj h)

theorem stored_of_authority {scheme tail : Text} {a : Authority} {segs : List Text}
    (ha : ∀ c ∈ a.text, isSlash c = false) :
    (a.text = [] ∧ stored (assemble scheme (some a) (.segments segs) tail) = scheme ++ [':']) ∨
      ∃ rest, stored (assemble scheme (some a) (.segments segs) tail) =
        scheme ++ ':' :: '/' :: '/' :: (a.text ++ rest) := by
  have hsegs : IsCleanPath scheme (storedSegments scheme segs) := isCleanPath_parsePathStart _
  obtain ⟨t, hstored, ht⟩ := stored_assemble scheme a segs tail
  rw [hstored]
  obtain h | ⟨rest, h, -⟩ := stored_form ha hsegs (fun q hq => queryText_parseTail hq) ht
  · exact .inl h
  · exact .inr ⟨rest, h⟩

theorem minLength_le_stored {u : Url} (hread : IsRead u)
    (hnamed : isSpecialScheme u.scheme = false → u.host ≠ none) :
    minLength ≤ (stored u).length := by
  cases hread with
  | @hosted scheme a segs tail hs hfile ha hsegs =>
    have htext : a.text ≠ [] := fun hnil =>
      hnamed (host_of_text_nil ha hnil).1 (host_of_text_nil ha hnil).2
    have hscheme : scheme ≠ [] := by
      rintro rfl
      cases hs.head
    have hinner : ∀ c ∈ a.text, isSlash c = false := fun c hc =>
      isSlash_of_inner (ha.text_spec c hc).2
    obtain ⟨hnil, -⟩ | ⟨rest, hrest⟩ := stored_of_authority hinner
    · exact absurd hnil htext
    · have hlong := List.length_pos_of_ne_nil htext
      have hletter := List.length_pos_of_ne_nil hscheme
      rw [hrest]
      simp only [minLength, List.length_append, List.length_cons]
      omega
  | @file host segs tail hhost hsegs =>
    have hinner := isSlash_fileAuthority fun h hh => (hhost h hh).1
    obtain ⟨-, hbare⟩ | ⟨rest, hrest⟩ := stored_of_authority hinner
    · rw [hbare]
      decide
    · rw [hrest]
      simp [minLength]
  | rooted hs hspecial hsegs hne => exact absurd rfl (hnamed hspecial)
  | verbatim hs hspecial hpath hhead => exact absurd rfl (hnamed hspecial)

/-- Where the judged copy of a text is a URL with a domain, the text is stored long enough: what
the copy is made from begins the text, which must then have a host of its own. -/
theorem minLength_le_canonical [SuffixList] (hblank : value.dropWhile Text.isBlank = value)
    (hhead : value.head? ≠ some '/') (hlength : minLength ≤ value.length) {d : Text}
    (hd : Domain.ofText? (judged value) = some d) : minLength ≤ (canonical value).length := by
  cases h : parse value with
  | error e => rwa [canonical_of_error hhead h]
  | ok u =>
    rw [canonical_of_ok hhead h]
    refine minLength_le_stored (isRead_parse h) fun hspecial hnone => ?_
    have hkept := stripNoise_prefix hblank
    cases hparse : parse (judged value) with
    | error e =>
      rw [Domain.ofText?_of_error hparse] at hd
      cases hd
    | ok w =>
      have hw := host_of_lowered h hspecial hnone hkept (Text.lowers_lower _) hparse
      rw [Domain.ofText?_of_ok hparse, Domain.ofUrl?, hw] at hd
      cases hd

end Candidate

namespace Store
open Candidate

/-- Every value that a script adds to a store is the normal form of one of its finds, and it is
the text of that find that was admitted. A path is stored as a path, and would be admitted again
unless it has become too short or ends in noise. Any other value is long enough, and would be
admitted again unless it ends in noise or its judged copy has lost the domain. -/
theorem mined_value [SuffixList] (target : Target) (s : Store) (t : Script.Tree) (e : Candidate)
    (he : e ∈ (s.mine target t).1.entries) (hnew : e ∉ s.entries) :
    ∃ f ∈ t.finds, e = candidateOf f ∧ target.accepts (cleanLiteral f.text) = true ∧
      (e.kind = .relative → e.value.head? = some '/' ∧
        (target.accepts e.value = true ↔
          minLength ≤ e.value.length ∧ isNoise (judged e.value) = false)) ∧
      (e.kind = .external → e.value.head? ≠ some '/' ∧ minLength ≤ e.value.length ∧
        (target.accepts e.value = true ↔ isNoise (judged e.value) = false ∧
          ∃ d, Domain.ofText? (judged e.value) = some d ∧
            ∀ scope, target.domain = some scope → d = scope)) := by
  obtain he | ⟨f, hf, haccepts, rfl⟩ := mem_entries_acceptAll he
  · exact absurd he hnew
  refine ⟨f, hf, rfl, haccepts, fun hkind => ?_, fun hkind => ?_⟩
  · have hvalue := head?_canonical_of_path (head?_of_classify_relative hkind)
    refine ⟨hvalue, ?_⟩
    rw [Target.accepts, isEndpointLike_iff]
    simp [candidateOf, head?_judged_of_path hvalue]
  · have hblank := dropWhile_cleanLiteral f.text
    have hhead := head?_of_classify hkind
    obtain ⟨hblank', hvalue⟩ := front_canonical hblank hhead
    obtain ⟨hlength, -, hpath | ⟨d, hd, -⟩⟩ := (isEndpointLike_iff _ _).1 haccepts
    · exact absurd hpath (head?_judged hblank hhead)
    have hlong : minLength ≤ (canonical (cleanLiteral f.text)).length :=
      minLength_le_canonical hblank hhead hlength hd
    refine ⟨hvalue, hlong, ?_⟩
    rw [Target.accepts, isEndpointLike_iff]
    simp [candidateOf, head?_judged hblank' hvalue, hlong]

def plainScript : Script.Tree := .program
  [.literal (.string "/api/v1/".toList), .literal (.string "https://a.co/list#top".toList)]

attribute [local instance] Environment.plain

theorem mined_value_plainScript :
    let target := Target.ofDomain "a.co".toList
    let path : Candidate := ⟨"/api/v1".toList, .relative, .static, none, none⟩
    let url : Candidate := ⟨"https://a.co/list".toList, .external, .static, none, none⟩
    (path ∈ (empty.mine target plainScript).1.entries ∧ target.accepts path.value = true) ∧
    (url ∈ (empty.mine target plainScript).1.entries ∧ target.accepts url.value = true) := by
  intro target path url
  have hpath : path ∈ (empty.mine target plainScript).1.entries := by decide +kernel
  have hurl : url ∈ (empty.mine target plainScript).1.entries := by decide +kernel
  obtain ⟨f, -, -, -, hrelative, -⟩ := mined_value target empty plainScript path hpath
    (by simp [empty])
  obtain ⟨g, -, -, -, -, hexternal⟩ := mined_value target empty plainScript url hurl
    (by simp [empty])
  refine ⟨⟨hpath, (hrelative rfl).2.2 ⟨by decide, by decide +kernel⟩⟩,
    ⟨hurl, (hexternal rfl).2.2.2 ⟨by decide +kernel, "a.co".toList, ?_, ?_⟩⟩⟩
  · decide +kernel
  · rintro scope ⟨⟩
    decide

/-- Texts of which only a script or too little is left without a query or a fragment. -/
def strippedScript : Script.Tree := .program
  [.literal (.string "/app.js?v=1".toList), .literal (.string "/a?bcd".toList),
    .literal (.string "https://a.co/x.js#top".toList)]

/-- A URL whose host is its last word once the slash is gone, so that judging strips the host. -/
def bareHostScript : Script.Tree := .literal (.string "https://a.co;/".toList)

theorem strippedScript_rejected :
    (let target := Target.ofDomain "a.co".toList
     let entries := (empty.mine target strippedScript).1.entries
     (entries.map fun e => e.value) =
       ["/app.js".toList, "/a".toList, "https://a.co/x.js".toList] ∧
     ∀ e ∈ entries, target.accepts e.value = false) ∧
    (let target := Target.ofDomain "a.co;".toList
     let entries := (empty.mine target bareHostScript).1.entries
     (entries.map fun e => e.value) = ["https://a.co;".toList] ∧
     ∀ e ∈ entries, target.accepts e.value = false) := by
  decide +kernel

end Store

end EndpointScout
