import EndpointScout.Environment
import EndpointScout.Proofs.Html.Links

/-! Which of a page's anchors lead to pages of the site, and the list of the pages. What a script,
a mail or a telephone number is named by leads to no page, whatever the page is. -/
namespace EndpointScout

namespace Url
variable {base u : Url} {t scheme rest : Text}

theorem join_eq_parse (h : cutScheme? (tidy t) = some (scheme, rest))
    (hspecial : isSpecialScheme scheme = false) : base.join t = parse t := by
  have hfile := isFileScheme_of_not_special hspecial
  simp only [join, parse, resolve, h, hspecial, hfile, Bool.false_eq_true, if_false]

theorem scheme_join (hs : IsScheme scheme) (hspecial : isSpecialScheme scheme = false)
    (h : base.join (scheme ++ ':' :: rest) = .ok u) : u.scheme = scheme := by
  obtain ⟨t, ht⟩ := tidy_scheme_append hs rest
  have hcut : cutScheme? (tidy (scheme ++ ':' :: rest)) = some (scheme, t) := by
    rw [ht, cutScheme?_append hs]
  rw [join_eq_parse hcut hspecial] at h
  obtain ⟨t', hcut'⟩ := exists_cutScheme?_of_parse h
  rw [hcut] at hcut'
  exact (Prod.mk.inj (Option.some.inj hcut')).1.symm

end Url

namespace Html

def otherSchemes : List Text := ["javascript".toList, "mailto".toList, "tel".toList]

theorem otherSchemes_spec : ∀ scheme ∈ otherSchemes,
    Url.IsScheme scheme ∧ Url.isSpecialScheme scheme = false ∧
      scheme ≠ "http".toList ∧ scheme ≠ "https".toList := by
  have hscheme {s : Text} (hhead : (s.head?.map Text.isLetter).getD false = true)
      (hchars : s.all Url.isSchemeChar) (hlower : s.map Url.lowerLetter = s) : Url.IsScheme s :=
    ⟨hhead, List.all_eq_true.1 hchars, hlower⟩
  simp only [otherSchemes, List.forall_mem_cons, List.not_mem_nil, false_imp_iff, implies_true,
    and_true]
  exact ⟨⟨hscheme (by decide) (by decide) (by decide), by decide, by decide, by decide⟩,
    ⟨hscheme (by decide) (by decide) (by decide), by decide, by decide, by decide⟩,
    hscheme (by decide) (by decide) (by decide), by decide, by decide, by decide⟩

theorem passedOver_iff {t : Text} :
    (["javascript:", "mailto:", "tel:", "#"].any fun s => Text.startsWith t s.toList) = true ↔
      (∃ scheme ∈ otherSchemes, Text.startsWith t (scheme ++ [':'])) ∨ t.head? = some '#' := by
  have hmark : Text.startsWith t ['#'] = true ↔ t.head? = some '#' := by
    cases t with
    | nil => decide
    | cons c t => simpa [Text.startsWith] using eq_comm
  simp [otherSchemes, hmark, or_assoc]

theorem pairwise_withoutDuplicates {seen ls : List Text} :
    (withoutDuplicates seen ls).Pairwise fun a b =>
      ∀ before after, ls = before ++ b :: after → a ∈ before := by
  induction ls generalizing seen with
  | nil => simp [withoutDuplicates]
  | cons l ls ih =>
    have hlater {a b : Text} (hne : b ≠ l)
        (hab : ∀ before after, ls = before ++ b :: after → a ∈ before) :
        ∀ before after, l :: ls = before ++ b :: after → a ∈ before := by
      intro before after hsplit
      cases before with
      | nil => exact absurd (List.cons.inj hsplit).1.symm hne
      | cons c before => exact List.mem_cons_of_mem c (hab before after (List.cons.inj hsplit).2)
    rw [withoutDuplicates]
    by_cases hl : l ∈ seen
    · rw [if_pos hl]
      refine ih.imp_of_mem fun _ hb hab => hlater ?_ hab
      rintro rfl
      exact ((mem_withoutDuplicates seen ls _).1 hb).2 hl
    · rw [if_neg hl, List.pairwise_cons]
      have hne {b : Text} (hb : b ∈ withoutDuplicates (l :: seen) ls) : b ≠ l := fun hbl =>
        ((mem_withoutDuplicates _ ls b).1 hb).2 (hbl ▸ List.mem_cons_self)
      refine ⟨fun b hb before after hsplit => ?_, ih.imp_of_mem fun _ hb hab => hlater (hne hb) hab⟩
      cases before with
      | nil => exact absurd (List.cons.inj hsplit).1.symm (hne hb)
      | cons c before =>
        rw [(List.cons.inj hsplit).1]
        exact List.mem_cons_self

section Leading
variable {base : Url} {target : Target} {reference l l' : Text} [SuffixList]

/-- An anchor leads to a page of the site if it is neither blank nor a fragment alone and is
resolved to a web page with the domain of the site; the page is named without a fragment. -/
def LeadsTo (base : Url) (target : Target) (reference l : Text) : Prop :=
  Text.trim reference ≠ [] ∧ (Text.trim reference).head? ≠ some '#' ∧
    ∃ u, base.join (Text.trim reference) = .ok u ∧
      (u.scheme = "http".toList ∨ u.scheme = "https".toList) ∧
      Domain.ofUrl? u = target.domain ∧ l = u.withoutFragment.text

theorem LeadsTo.unique (h : LeadsTo base target reference l)
    (h' : LeadsTo base target reference l') : l = l' := by
  obtain ⟨-, -, u, hu, -, -, rfl⟩ := h
  obtain ⟨-, -, u', hu', -, -, rfl⟩ := h'
  rw [Except.ok.inj (hu.symm.trans hu')]

theorem not_leadsTo_of_otherScheme {scheme : Text} (hs : scheme ∈ otherSchemes)
    (h : Text.startsWith (Text.trim reference) (scheme ++ [':'])) :
    ¬LeadsTo base target reference l := by
  rintro ⟨-, -, u, hu, hweb, -, -⟩
  obtain ⟨hscheme, hspecial, hhttp, hhttps⟩ := otherSchemes_spec scheme hs
  obtain ⟨rest, hrest⟩ := List.isPrefixOf_iff_prefix.1 h
  rw [← hrest, List.append_assoc] at hu
  have hu := Url.scheme_join hscheme hspecial hu
  obtain hweb | hweb := hweb
  · exact hhttp (hu.symm.trans hweb)
  · exact hhttps (hu.symm.trans hweb)

/-- The first characters of a reference decide nothing that its resolution does not. -/
theorem leadsTo_iff :
    LeadsTo base target reference l ↔
      ∃ u, pageLink? base reference = some u ∧ target.matchesUrl u ∧ l = u.text := by
  have hmatches (u : Url) : target.matchesUrl u.withoutFragment ↔
      Domain.ofUrl? u = target.domain := beq_iff_eq
  rw [pageLink?]
  by_cases hblank : Text.trim reference = []
  · simp [LeadsTo, hblank]
  by_cases hpassed : (["javascript:", "mailto:", "tel:", "#"].any fun s =>
      Text.startsWith (Text.trim reference) s.toList) = true
  · have hnone : ¬LeadsTo base target reference l := by
      obtain ⟨scheme, hs, hstart⟩ | hmark := passedOver_iff.1 hpassed
      · exact not_leadsTo_of_otherScheme hs hstart
      · exact fun h => h.2.1 hmark
    simp [hpassed, hnone]
  · have hmark : (Text.trim reference).head? ≠ some '#' := fun hmark =>
      hpassed (passedOver_iff.2 (.inr hmark))
    rw [LeadsTo, if_neg (by simp [hblank, hpassed])]
    cases hjoin : base.join (Text.trim reference) with
    | error e => simp
    | ok u =>
      have hweb : (u.scheme == "http".toList || u.scheme == "https".toList) = true ↔
          u.scheme = "http".toList ∨ u.scheme = "https".toList := by
        rw [Bool.or_eq_true, beq_iff_eq, beq_iff_eq]
      simp only [hweb, ne_eq, hblank, hmark, not_false_eq_true, true_and, Except.ok.injEq,
        exists_eq_left', Option.ite_none_right_eq_some, Option.some.injEq, ← hmatches]
      grind

def foundPages (base : Url) (target : Target) (references : List Text) : List Text :=
  ((references.filterMap (pageLink? base)).filter target.matchesUrl).map Url.text

theorem mem_foundPages {references : List Text} :
    l ∈ foundPages base target references ↔
      ∃ reference ∈ references, LeadsTo base target reference l := by
  simp only [foundPages, List.mem_map, List.mem_filter, List.mem_filterMap, leadsTo_iff]
  grind

theorem foundPages_split (h : LeadsTo base target reference l) (before after : List Text) :
    foundPages base target (before ++ reference :: after) =
      foundPages base target before ++ l :: foundPages base target after := by
  obtain ⟨u, hu, hmatches, rfl⟩ := leadsTo_iff.1 h
  simp [foundPages, hu, hmatches]

/-- For every page and whatever its anchors refer to: each page of the site that a reference leads
to is listed once, and no other; of two listed pages, the first is led to by a reference in front
of every one that leads to the second. A reference to a script, a mail or a telephone number leads
to no page. -/
theorem pageLinks_sound_complete {page pageUrl : Text} (hbase : Url.parse pageUrl = .ok base)
    (target : Target) :
    pageLinks page pageUrl target = pageLinksOf base target (anchorTargets page) ∧
    ∀ references : List Text,
      (pageLinksOf base target references).Nodup ∧
      (∀ l, l ∈ pageLinksOf base target references ↔
        ∃ reference ∈ references, LeadsTo base target reference l) ∧
      (pageLinksOf base target references).Pairwise (fun a b =>
        ∀ before reference after, references = before ++ reference :: after →
          LeadsTo base target reference b → ∃ earlier ∈ before, LeadsTo base target earlier a) ∧
      ∀ reference ∈ references, (∃ scheme ∈ otherSchemes,
        Text.startsWith (Text.trim reference) (scheme ++ [':'])) →
          ∀ l, ¬LeadsTo base target reference l := by
  refine ⟨by rw [pageLinks, hbase], fun references => ?_⟩
  have hlinks : pageLinksOf base target references =
      withoutDuplicates [] (foundPages base target references) := rfl
  rw [hlinks]
  refine ⟨nodup_withoutDuplicates _ _, fun l => ?_, ?_, ?_⟩
  · simp [mem_withoutDuplicates, mem_foundPages]
  · refine pairwise_withoutDuplicates.imp fun hab before reference after hsplit hb => ?_
    rw [hsplit, foundPages_split hb] at hab
    exact mem_foundPages.1 (hab _ _ rfl)
  · rintro reference - ⟨scheme, hs, hstart⟩ l
    exact not_leadsTo_of_otherScheme hs hstart

end Leading

def shopPage : Text := ("<a href=' /about#team '>1</a><a href='http://b.a.co/'>2</a>" ++
  "<a href='/about'>3</a><a href='http://c.org/'>4</a><a href='mailto:x@a.co'>5</a>" ++
  "<a href='JavaScript:go()'>6</a><a href='#top'>7</a>").toList

attribute [local instance] Environment.plain

theorem pageLinks_sound_complete_shop :
    ∃ base, Url.parse "http://a.co/shop".toList = .ok base ∧
      (pageLinks shopPage "http://a.co/shop".toList (.ofDomain "a.co".toList)).Nodup ∧
      pageLinks shopPage "http://a.co/shop".toList (.ofDomain "a.co".toList) =
        ["http://a.co/about".toList, "http://b.a.co/".toList] ∧
      (∃ reference ∈ anchorTargets shopPage,
        LeadsTo base (.ofDomain "a.co".toList) reference "http://b.a.co/".toList) ∧
      ∀ l, ¬LeadsTo base (.ofDomain "a.co".toList) "mailto:x@a.co".toList l := by
  obtain ⟨base, hbase⟩ : ∃ base, Url.parse "http://a.co/shop".toList = .ok base := by
    exact ⟨_, rfl⟩
  obtain ⟨hpage, hlinks⟩ : pageLinks shopPage "http://a.co/shop".toList
      (.ofDomain "a.co".toList) = _ ∧ _ := pageLinks_sound_complete hbase _
  obtain ⟨hnodup, hmem, -, hother⟩ := hlinks (anchorTargets shopPage)
  have hlist : pageLinks shopPage "http://a.co/shop".toList (.ofDomain "a.co".toList) =
      ["http://a.co/about".toList, "http://b.a.co/".toList] := by decide +kernel
  refine ⟨base, hbase, hpage ▸ hnodup, hlist, ?_, ?_⟩
  · exact (hmem _).1 (hpage ▸ hlist ▸ by simp)
  · exact hother _ (by decide +kernel) ⟨"mailto".toList, by simp [otherSchemes], by decide⟩

end Html

end EndpointScout
