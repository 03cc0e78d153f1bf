import EndpointScout.Environment
import EndpointScout.Proofs.Candidate.Canonical
import EndpointScout.Proofs.Script.Literals

/-! What becomes of the hosts that scripts name. A stored URL has the host of the text it is made
from, but of all finds with one path and one source only the first is stored: a host is lost
where a find of another host, or a path, has taken its place. -/
namespace EndpointScout

namespace Script

mutual

theorem Tree.mem_ownTexts_of_mem_level (t : Tree) {n : Nat} {text : Text}
    (h : .literal (.string text) ∈ t.level n) : text ∈ t.ownTexts := by
  cases n with
  | zero =>
    rw [Tree.level, List.mem_singleton] at h
    subst h
    exact List.mem_singleton_self text
  | succ n =>
    cases t with
    | program body => exact mem_ownTextsAll_of_mem_levels body h
    | call callee arguments =>
      obtain h | h := List.mem_append.1 h
      · exact List.mem_append_left _ (callee.mem_ownTexts_of_mem_level h)
      · exact List.mem_append_right _ (mem_ownTextsAll_of_mem_levels arguments h)
    | member object property computed =>
      obtain h | h := List.mem_append.1 h
      · exact List.mem_append_left _ (object.mem_ownTexts_of_mem_level h)
      · exact List.mem_append_right _ (property.mem_ownTexts_of_mem_level h)
    | identifier name => cases h
    | literal value => cases h
    | template quasis expressions =>
      exact List.mem_append_right _ (mem_ownTextsAll_of_mem_levels expressions h)
    | other kind children =>
      exact List.mem_cons_of_mem _ (mem_ownTextsAll_of_mem_levels children h)

theorem mem_ownTextsAll_of_mem_levels (ts : List Tree) {n : Nat} {text : Text}
    (h : .literal (.string text) ∈ Tree.levels n ts) : text ∈ ownTextsAll ts := by
  match ts with
  | [] => cases h
  | t :: ts =>
    obtain h | h := List.mem_append.1 h
    · exact List.mem_append_left _ (t.mem_ownTexts_of_mem_level h)
    · exact List.mem_append_right _ (mem_ownTextsAll_of_mem_levels ts h)

end

variable [SuffixList]

theorem Tree.mem_literalFinds_of_mem_ownTexts {t : Tree} {target : Target} {text : Text}
    (h : text ∈ t.ownTexts) (haccepts : target.accepts (Candidate.cleanLiteral text) = true) :
    ⟨.static, text⟩ ∈ t.literalFinds := by
  have hfilter := t.filter_strings_toDocument (accepts_formWords target)
  have hkept : text ∈ t.ownTexts.filter fun w => target.accepts (Candidate.cleanLiteral w) :=
    List.mem_filter.2 ⟨h, haccepts⟩
  rw [← hfilter] at hkept
  rw [Tree.literalFinds, Json.stringsIn_compact t.plain_toDocument]
  exact List.mem_map_of_mem (List.mem_filter.1 hkept).1

theorem mem_finds_of_mem_ownTexts {t : Tree} {target : Target} {text : Text}
    (h : text ∈ t.ownTexts) (haccepts : target.accepts (Candidate.cleanLiteral text) = true) :
    ⟨.static, text⟩ ∈ t.finds :=
  List.mem_append_left _ (Tree.mem_literalFinds_of_mem_ownTexts h haccepts)

end Script

namespace Url

def hostOf? (t : Text) : Option Host := (parse? t).bind host

theorem hostOf?_of_ok {t : Text} {u : Url} (h : parse t = .ok u) : hostOf? t = u.host := by
  rw [hostOf?, parse?, h]
  rfl

theorem exists_of_hostOf? {t : Text} {h : Host} (ht : hostOf? t = some h) :
    ∃ u, parse t = .ok u ∧ u.host = some h := by
  obtain ⟨u, hu, hhost⟩ := Option.bind_eq_some_iff.1 ht
  rw [parse?] at hu
  cases hparse : parse t with
  | error e =>
    rw [hparse] at hu
    cases hu
  | ok w =>
    rw [hparse] at hu
    obtain rfl := Option.some.inj hu
    exact ⟨w, rfl, hhost⟩

end Url

namespace Candidate

theorem hostOf?_canonical {v : Text} {h : Url.Host} (hv : Url.hostOf? v = some h) :
    Url.hostOf? (canonical v) = some h := by
  obtain ⟨u, hu, hhost⟩ := Url.exists_of_hostOf? hv
  obtain ⟨w, hw, hsame⟩ := parse_canonical (Url.head?_of_parse hu) hu
  rw [Url.hostOf?_of_ok hw, hsame, hhost]

end Candidate

namespace Store
open Candidate

section
variable [SuffixList]

/-- A string literal that is admitted and has a host of its own is offered, and its path is
stored under its source. The entry is unique, it is the first of the offers with this path and
source, and it has the host of the literal whenever no offer with another one, or with none, came
before. -/
theorem literal_host_kept (target : Target) (ts : List Script.Tree) {t : Script.Tree}
    (ht : t ∈ ts) {text : Text} {n : Nat} (hliteral : .literal (.string text) ∈ t.level n)
    (haccepts : target.accepts (cleanLiteral text) = true) {h : Url.Host}
    (hhost : Url.hostOf? (cleanLiteral text) = some h) :
    let offers := offersOf target (ts.flatMap fun t => t.finds)
    let c := candidateOf ⟨.static, text⟩
    c ∈ offers ∧ c.kind = .external ∧ Url.hostOf? c.value = some h ∧
    ∃ e ∈ (empty.mineAll target ts).entries,
      normalizePath e.value = normalizePath c.value ∧ e.source = .static ∧
      offers.find? (fun d => d.key = c.key) = some e ∧
      (∀ e' ∈ (empty.mineAll target ts).entries, e'.key = c.key → e' = e) ∧
      ∀ before after, offers = before ++ c :: after →
        (∀ d ∈ before, d.key = c.key → Url.hostOf? d.value = some h) →
        Url.hostOf? e.value = some h := by
  intro offers c
  have hvalue : Url.hostOf? c.value = some h := hostOf?_canonical hhost
  have hfind : ⟨.static, text⟩ ∈ ts.flatMap fun t => t.finds := List.mem_flatMap.2
    ⟨t, ht, Script.mem_finds_of_mem_ownTexts (t.mem_ownTexts_of_mem_level hliteral) haccepts⟩
  have hoffer : c ∈ offers :=
    List.mem_map.2 ⟨_, List.mem_filter.2 ⟨hfind, haccepts⟩, rfl⟩
  have hexternal : c.kind = .external := by
    obtain ⟨u, hu, -⟩ := Url.exists_of_hostOf? hhost
    have hhead := Url.head?_of_parse hu
    simp [c, candidateOf, Kind.classify, hhead]
  obtain ⟨e, hfirst⟩ : ∃ e, offers.find? (fun d => d.key = c.key) = some e :=
    Option.isSome_iff_exists.1 (List.find?_isSome.2 ⟨c, hoffer, by simp⟩)
  have hkey : e.key = c.key := by simpa using List.find?_some hfirst
  have he : e ∈ (empty.mineAll target ts).entries := by
    rw [mineAll_eq_addAll, mem_entries_addAll_iff, hkey]
    exact hfirst
  refine ⟨hoffer, hexternal, hvalue, e, he, congrArg Key.path hkey, congrArg Key.source hkey,
    hfirst, fun e' he' hkey' => eq_of_key_eq he' he (hkey'.trans hkey.symm),
    fun before after hsplit hbefore => ?_⟩
  -- The entry is the literal itself, or an earlier offer with its key.
  rw [hsplit, List.find?_append] at hfirst
  cases hearly : before.find? (fun d => d.key = c.key) with
  | some d =>
    rw [hearly] at hfirst
    obtain rfl : d = e := Option.some.inj hfirst
    exact hbefore d (List.mem_of_find?_eq_some hearly) hkey
  | none =>
    obtain rfl : c = e := by simpa [hearly] using hfirst
    exact hvalue

end

def shops (path path' : String) : Script.Tree := .program
  [.literal (.string ("https://x.a.co/" ++ path).toList),
    .literal (.string ("https://y.a.co/" ++ path').toList)]

attribute [local instance] Environment.plain

theorem literal_host_kept_shops :
    let target := Target.ofDomain "a.co".toList
    let text := "https://y.a.co/b".toList
    (shops "a" "b" ∈ [shops "a" "b"] ∧ .literal (.string text) ∈ (shops "a" "b").level 1 ∧
      target.accepts (cleanLiteral text) = true ∧
      Url.hostOf? (cleanLiteral text) = some (.domain "y.a.co".toList)) ∧
    ∃ e ∈ (empty.mineAll target [shops "a" "b"]).entries, e.source = .static ∧
      Url.hostOf? e.value = some (.domain "y.a.co".toList) := by
  intro target text
  have hmem : shops "a" "b" ∈ [shops "a" "b"] := List.mem_singleton_self _
  have hliteral : .literal (.string text) ∈ (shops "a" "b").level 1 :=
    List.mem_cons_of_mem _ List.mem_cons_self
  have haccepts : target.accepts (cleanLiteral text) = true := by decide +kernel
  have hhost : Url.hostOf? (cleanLiteral text) = some (.domain "y.a.co".toList) := by
    decide +kernel
  obtain ⟨-, -, -, e, he, -, hsource, -, -, hkeeps⟩ :=
    literal_host_kept target [shops "a" "b"] hmem hliteral haccepts hhost
  exact ⟨⟨hmem, hliteral, haccepts, hhost⟩, e, he, hsource,
    hkeeps [candidateOf ⟨.static, "https://x.a.co/a".toList⟩] [] (by decide +kernel)
      (by decide +kernel)⟩

theorem shops_host_lost :
    let target := Target.ofDomain "a.co".toList
    let text := "https://y.a.co/api".toList
    .literal (.string text) ∈ (shops "api" "api").level 1 ∧
    target.accepts (cleanLiteral text) = true ∧
    Url.hostOf? (cleanLiteral text) = some (.domain "y.a.co".toList) ∧
    ∀ e ∈ (empty.mineAll target [shops "api" "api"]).entries,
      Url.hostOf? e.value ≠ some (.domain "y.a.co".toList) := by
  refine ⟨List.mem_cons_of_mem _ List.mem_cons_self, ?_⟩
  decide +kernel

end Store

end EndpointScout
