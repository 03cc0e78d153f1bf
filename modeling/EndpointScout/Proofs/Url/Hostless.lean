import EndpointScout.Proofs.Text.LetterCase
import EndpointScout.Proofs.Url.Shape
import Mathlib.Data.List.Infix

/-! URLs without a host, files and their like apart. Such a URL has no authority or one that is
empty but for the marks of credentials, and so has whatever begins its text, in lower case too. -/
namespace EndpointScout.Url
open Text (Lowers IsMark)

section Authority
variable {scheme t : Text} {u : Url}

def emptyAuthorities : List Text := [[], [':'], ['@'], [':', '@']]

/-- The text begins with an authority that names no host. -/
def NamesNoHost (t : Text) : Prop :=
  (t.takeWhile fun c => !endsAuthority false c) ∈ emptyAuthorities

theorem follows_of_endsAuthority {c : Char} (h : endsAuthority false c) :
    c = '/' ∨ c = '?' ∨ c = '#' := by
  simpa [endsAuthority, isSlash, or_assoc] using h

theorem follows_dropWhile (t : Text) :
    FollowsAuthority (t.dropWhile fun c => !endsAuthority false c) := by
  cases hrest : t.dropWhile fun c => !endsAuthority false c with
  | nil => exact .inl rfl
  | cons c rest =>
    have hends := List.head?_dropWhile_not (fun c => !endsAuthority false c) t
    rw [hrest] at hends
    exact .inr ⟨c, rest, rfl, follows_of_endsAuthority (by simpa using hends)⟩

theorem cutHost_of_namesNoHost (ht : NamesNoHost t) {username password rest : Text}
    (h : parseUserinfo false t = .ok (username, password, rest)) :
    (cutHost false false rest).1 = [] := by
  have hfollows := follows_dropWhile t
  have hsplit := List.takeWhile_append_dropWhile (p := fun c => !endsAuthority false c) (l := t)
  rw [NamesNoHost] at ht
  generalize (t.takeWhile fun c => !endsAuthority false c) = front at ht hsplit
  generalize (t.dropWhile fun c => !endsAuthority false c) = behind at hfollows hsplit
  subst hsplit
  have hempty : ∀ c ∈ ([] : Text), isHostPart c := by simp
  have hend : cutHost false false behind = ([], behind) := cutHost_of_end (.inl hfollows)
  simp only [emptyAuthorities, List.mem_cons, List.not_mem_nil, or_false] at ht
  obtain rfl | rfl | rfl | rfl := ht
  · have hcut : cutUserinfo false ([] ++ behind) = none := cutUserinfo_none hempty hfollows
    rw [parseUserinfo, hcut] at h
    cases h
    exact congrArg Prod.fst hend
  · have hcut : cutUserinfo false ([':'] ++ behind) = none :=
      cutUserinfo_none (Text.forall_of_all (by decide)) hfollows
    rw [parseUserinfo, hcut] at h
    cases h
    rfl
  · have hcut : cutUserinfo false ([] ++ '@' :: ([] ++ behind)) = some ([], behind) :=
      cutUserinfo_some (by simp) hempty hfollows
    rw [parseUserinfo, show cutUserinfo false (['@'] ++ behind) = _ from hcut] at h
    simp only at h
    split at h
    · cases h
    · cases h
      exact congrArg Prod.fst hend
  · have hcut : cutUserinfo false ([':'] ++ '@' :: ([] ++ behind)) = some ([':'], behind) :=
      cutUserinfo_some (Text.forall_of_all (by decide)) hempty hfollows
    rw [parseUserinfo, show cutUserinfo false ([':', '@'] ++ behind) = _ from hcut] at h
    cases h
    exact congrArg Prod.fst hend

theorem cutUserinfo_eq_some {info rest : Text} (h : cutUserinfo false t = some (info, rest)) :
    t = info ++ '@' :: rest := by
  have hsplit := List.takeWhile_append_dropWhile (p := fun c => !endsAuthority false c) (l := t)
  simp only [cutUserinfo] at h
  generalize (t.takeWhile fun c => !endsAuthority false c) = front at h hsplit
  generalize (t.dropWhile fun c => !endsAuthority false c) = behind at hsplit
  split at h
  · rename_i hat
    have hmem : '@' ∈ front.reverse := by simpa using hat
    obtain ⟨host, before, hreverse, hhost⟩ := List.eq_append_cons_of_mem hmem
    have htake : front.reverse.takeWhile (· != '@') = host := by
      have hkept : ∀ c ∈ host, (c != '@') = true := fun c hc => by
        simpa using ne_of_mem_of_not_mem hc hhost
      rw [hreverse, List.takeWhile_append_of_pos hkept]
      simp
    have hfront : front = before.reverse ++ '@' :: host.reverse := by
      rw [← List.reverse_reverse front, hreverse]
      simp
    obtain ⟨rfl, rfl⟩ := Prod.mk.inj (Option.some.inj h)
    have hlength : front.length - host.length = before.reverse.length + 1 := by
      rw [hfront]
      simp only [List.length_append, List.length_cons, List.length_reverse]
      omega
    rw [htake, hlength, Nat.add_sub_cancel, ← hsplit, hfront, List.take_left, List.append_assoc,
      List.cons_append, List.drop_append]
    simp
  · cases h

theorem parseOpaqueHost_eq_none (h : parseOpaqueHost t = .ok none) : t = [] := by
  rw [parseOpaqueHost.eq_def] at h
  split at h
  · rfl
  · split at h
    · split at h <;> cases h
    · cases h
  · split at h <;> cases h

theorem namesNoHost_of_userinfo {rest : Text} (h : parseUserinfo false t = .ok ([], [], rest))
    (hrest : FollowsAuthority rest) : NamesNoHost t := by
  have hnames (front : Text) (hfront : front ∈ emptyAuthorities) :
      NamesNoHost (front ++ rest) := by
    have hinner : ∀ front ∈ emptyAuthorities,
        front.all (fun c => decide (endsAuthority false c = false)) = true := by decide
    rwa [NamesNoHost, takeWhile_of_follows (Text.forall_of_all (hinner front hfront)) hrest]
  rw [parseUserinfo] at h
  split at h
  · cases h
    exact hnames [] (by decide)
  · rename_i hcut
    split at h
    · cases h
    · cases h
      rw [cutUserinfo_eq_some hcut]
      exact hnames ['@'] (by decide)
  · rename_i info _ hne hcut
    simp only [Except.ok.injEq, Prod.mk.injEq] at h
    obtain ⟨hname, hword, rfl⟩ := h
    have hnil {part : Text} (h : percentEncode encodedInUserinfo part = []) : part = [] := by
      by_contra hpart
      exact percentEncode_ne_nil encodedInUserinfo hpart h
    cases hparts : Text.cutAt? ':' info with
    | none =>
      rw [hparts] at hname
      exact (hne (hnil hname)).elim
    | some parts =>
      obtain ⟨name, word⟩ := parts
      rw [hparts] at hname hword
      obtain rfl : name = [] := hnil hname
      obtain rfl : word = [] := hnil hword
      rw [cutUserinfo_eq_some hcut, Text.cutAt?_eq_some hparts]
      exact hnames [':', '@'] (by decide)

theorem cutHost_eq_nil (h : (cutHost false false t).1 = []) :
    (cutHost false false t).2 = t ∧ (FollowsAuthority t ∨ ∃ rest, t = ':' :: rest) := by
  cases t with
  | nil => exact ⟨rfl, .inl (.inl rfl)⟩
  | cons c t =>
    rw [cutHost] at h ⊢
    split at h
    · rename_i hend
      rw [if_pos hend]
      refine ⟨rfl, ?_⟩
      simp only [Bool.not_false, Bool.and_true, Bool.or_eq_true, beq_iff_eq] at hend
      obtain rfl | hend := hend
      · exact .inr ⟨t, rfl⟩
      · exact .inl (.inr ⟨c, t, rfl, follows_of_endsAuthority hend⟩)
    · cases h

theorem host_parseAfterSlashes (hspecial : isSpecialScheme scheme = false)
    (h : parseAfterSlashes scheme t = .ok u) : u.host = none ↔ NamesNoHost t := by
  rw [parseAfterSlashes, hspecial] at h
  obtain ⟨⟨username, password, behind⟩, huserinfo, h⟩ := bind_eq_ok h
  simp only [Bool.false_and, Bool.false_eq_true, if_false] at h
  obtain ⟨host, hhost, h⟩ := bind_eq_ok h
  obtain ⟨⟨port, rest⟩, hport, h⟩ := bind_eq_ok h
  simp only at h
  split at h
  · cases h
  rename_i hbare
  obtain rfl := Except.ok.inj h
  show host = none ↔ NamesNoHost t
  rw [readHost, if_neg Bool.false_ne_true] at hhost
  constructor
  · rintro rfl
    obtain ⟨hkept, hend⟩ := cutHost_eq_nil (parseOpaqueHost_eq_none hhost)
    rw [hkept] at hport
    obtain ⟨rfl, rfl⟩ : username = [] ∧ password = [] := by simpa using hbare
    obtain hfollows | ⟨rest, rfl⟩ := hend
    · exact namesNoHost_of_userinfo huserinfo hfollows
    · cases hport
  · intro ht
    rw [cutHost_of_namesNoHost ht huserinfo] at hhost
    exact (Except.ok.inj hhost).symm

theorem host_parseGeneral (hspecial : isSpecialScheme scheme = false)
    (h : parseGeneral scheme t = .ok u) :
    u.host = none ↔ ∀ rest, t = '/' :: '/' :: rest → NamesNoHost rest := by
  rw [parseGeneral.eq_def] at h
  split at h
  · rename_i rest
    rw [host_parseAfterSlashes hspecial h]
    constructor
    · rintro hrest _ ⟨⟩
      exact hrest
    · exact fun hall => hall rest rfl
  · rename_i rest hslashes
    cases h
    refine iff_of_true rfl ?_
    rintro behind ⟨⟩
    exact absurd rfl (hslashes behind)
  · rename_i hslashes _
    cases h
    exact iff_of_true rfl fun rest hrest => absurd hrest (hslashes rest)

end Authority

section Lowered
variable {s t s' : Text}

theorem isMark_endsAuthority : IsMark (endsAuthority false) := by
  refine Text.isMark_of_codes (fun c hc => ?_) (by decide)
  obtain rfl | rfl | rfl := follows_of_endsAuthority hc <;> decide

theorem namesNoHost_lowered (ht : NamesNoHost t) (hs : s <+: t) (h : Lowers s s') :
    NamesNoHost s' := by
  have hprefixes : ∀ front ∈ emptyAuthorities, ∀ part ∈ front.inits,
      part ∈ emptyAuthorities := by decide
  have hlower : ∀ front ∈ emptyAuthorities, front.all (fun c => decide (Text.isAscii c)) = true ∧
      front.map Text.asciiLowerChar = front := by decide
  have hfront : (s.takeWhile fun c => !endsAuthority false c) ∈ emptyAuthorities :=
    hprefixes _ ht _ ((List.mem_inits _ _).2 (Text.takeWhile_mono hs))
  obtain ⟨hascii, hsame⟩ := hlower _ hfront
  rw [NamesNoHost, (h.takeWhile_not isMark_endsAuthority).eq_of_ascii
    (Text.forall_of_all hascii), hsame]
  exact hfront

theorem tidy_mono (h : s <+: t) : tidy s <+: tidy t :=
  (Text.dropEndWhile_mono (Text.dropWhile_mono h)).filter _

theorem lowers_tidy (h : Lowers s s') : Lowers (tidy s) (tidy s') := by
  have hcontrol : IsMark fun c => decide (c.toNat ≤ 0x20) :=
    Text.isMark_of_codes (fun c hc => by have := of_decide_eq_true hc; omega) (by decide)
  have hbreak : IsMark fun c => c == '\t' || c == '\n' || c == '\r' := by
    refine Text.isMark_of_codes (fun c hc => ?_) (by decide)
    simp only [Bool.or_eq_true, beq_iff_eq, or_assoc] at hc
    obtain rfl | rfl | rfl := hc <;> decide
  exact ((h.dropWhile hcontrol).dropEndWhile hcontrol).filter_not hbreak

theorem cutScheme?_lowered {scheme rest scheme' rest' : Text}
    (ht : cutScheme? t = some (scheme, rest)) (hs : s <+: t) (h : Lowers s s')
    (hs' : cutScheme? s' = some (scheme', rest')) :
    scheme' = scheme ∧ ∃ part, part <+: rest ∧ Lowers part rest' := by
  obtain ⟨front, rfl, rfl, hfront⟩ := cutScheme?_spec ht
  have hmark : front ++ [':'] <+: front ++ ':' :: rest := ⟨rest, by simp⟩
  -- A part that ends inside the scheme has no colon, and lowering makes none.
  have hshort (hs : s <+: front) : False := by
    have hchars : ∀ c ∈ s, isSchemeChar c := fun c hc => hfront c (hs.mem hc)
    have hlower := h.eq_of_ascii fun c hc => isAscii_of_isSchemeChar (hchars c hc)
    obtain ⟨front', hsplit, -⟩ := cutScheme?_spec hs'
    have hcolon : ':' ∈ s.map Text.asciiLowerChar := by
      rw [← hlower, hsplit]
      simp
    obtain ⟨c, hc, hcolon⟩ := List.mem_map.1 hcolon
    exact (schemeChar_spec (schemeChar_spec (hchars c hc)).2.2.2.1).1 hcolon
  have hlong : ∃ part, s = front ++ [':'] ++ part := by
    obtain hs | ⟨part, hpart⟩ := List.prefix_or_prefix_of_prefix hs hmark
    · obtain rfl | hs := List.prefix_concat_iff.1 hs
      · exact ⟨[], by simp⟩
      · exact (hshort hs).elim
    · exact ⟨part, hpart.symm⟩
  obtain ⟨part, rfl⟩ := hlong
  have hpart : part <+: rest := by
    rw [List.append_assoc, List.singleton_append] at hs
    simpa using (List.prefix_append_right_inj front).1 hs
  have hascii : ∀ c ∈ front ++ [':'], Text.isAscii c :=
    List.forall_mem_append.2 ⟨fun c hc => isAscii_of_isSchemeChar (hfront c hc),
      List.forall_mem_singleton.2 (by decide)⟩
  obtain ⟨behind, rfl, hbehind⟩ := h.ascii_append hascii
  have hcut : cutScheme? ((front ++ [':']).map Text.asciiLowerChar ++ behind) =
      some (front.map lowerLetter, behind) := by
    rw [List.map_append, List.append_assoc]
    exact cutScheme?_append (cutScheme?_eq_some ht) behind
  rw [hcut] at hs'
  obtain ⟨rfl, rfl⟩ := Prod.mk.inj (Option.some.inj hs')
  exact ⟨rfl, part, hpart, hbehind⟩

end Lowered

/-- If a text is read without a host, so is whatever begins it, in lower case too. -/
theorem host_of_lowered {t s s' : Text} {u w : Url} (ht : parse t = .ok u)
    (hspecial : isSpecialScheme u.scheme = false) (hhost : u.host = none) (hs : s <+: t)
    (h : Lowers s s') (hs' : parse s' = .ok w) : w.host = none := by
  obtain ⟨rest, hrest⟩ := exists_cutScheme?_of_parse ht
  obtain ⟨rest', hrest'⟩ := exists_cutScheme?_of_parse hs'
  obtain ⟨hscheme, part, hpart, hlowers⟩ :=
    cutScheme?_lowered hrest (tidy_mono hs) (lowers_tidy h) hrest'
  rw [hscheme] at hrest'
  rw [parse_of_cutScheme? hrest hspecial] at ht
  rw [parse_of_cutScheme? hrest' hspecial] at hs'
  rw [host_parseGeneral hspecial ht] at hhost
  rw [host_parseGeneral hspecial hs']
  -- Two slashes in lower case are two slashes of the text, so that its authority is the one
  -- that names no host.
  rintro behind' rfl
  obtain ⟨_, rfl, hslash⟩ := hlowers.of_slash
  obtain ⟨behind, rfl, hbehind⟩ := hslash.of_slash
  obtain ⟨more, rfl⟩ := hpart
  exact namesNoHost_lowered (hhost _ rfl) (List.prefix_append behind more) hbehind

end EndpointScout.Url
