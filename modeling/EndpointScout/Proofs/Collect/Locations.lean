import EndpointScout.Collect.Sitemap
import EndpointScout.Proofs.Xml.Writing

/-! Sitemaps that are written entry by entry, each location as text or as a data section. They are
read back entry by entry, and whatever stands behind the last entry undoes none of them. -/
namespace EndpointScout.Sitemap
open Xml (Attribute Event Instruction Reader Reads)

/-- How a location is written: with references, or as a section of data. -/
inductive Form where
  | references
  | data
deriving Repr, DecidableEq

structure Location where
  text : Text
  form : Form
  uncut : form = .data → ¬"]]>".toList <:+: text

namespace Location

def written (l : Location) : Text :=
  match l.form with
  | .references => Xml.escape l.text
  | .data => Xml.dataSection l.text

def entry (l : Location) : Text :=
  Xml.startTag "url".toList [] ++ (Xml.startTag "loc".toList [] ++
    (l.written ++ (Xml.endTag "loc".toList ++ Xml.endTag "url".toList)))

def contentEvents (l : Location) : List Event :=
  match l.form with
  | .references =>
    if l.text.dropWhile Xml.isSpace = [] then []
    else [.text (Xml.escape (Text.trimWhile Xml.isSpace l.text))]
  | .data => [.data l.text]

def events (l : Location) : List Event :=
  .opening "url".toList :: .opening "loc".toList ::
    (l.contentEvents ++ [.closing "loc".toList, .closing "url".toList])

end Location

namespace Location
variable (l : Location) (rest : Text) (opened : List Text)

theorem reads_content :
    Reads ⟨l.written ++ (Xml.endTag "loc".toList ++ rest), "loc".toList :: opened⟩
      (l.contentEvents ++ [.closing "loc".toList]) ⟨rest, opened⟩ := by
  have hclosing := Xml.next?_endTag (by decide : Xml.IsTagName "loc".toList) rest opened
  rw [written, contentEvents]
  cases hform : l.form with
  | references =>
    by_cases hspaces : l.text.dropWhile Xml.isSpace = []
    · rw [if_pos hspaces, Xml.escape_of_spaces hspaces]
      refine .cons ?_ (.nil _)
      rw [Xml.next?_spaces (List.dropWhile_eq_nil_iff.1 hspaces), hclosing]
    · rw [if_neg hspaces]
      exact .cons (Xml.next?_escape hspaces _ _) (.cons hclosing (.nil _))
  | data => exact .cons (Xml.next?_dataSection (l.uncut hform) _ _) (.cons hclosing (.nil _))

theorem reads_entry : Reads ⟨l.entry ++ rest, opened⟩ l.events ⟨rest, opened⟩ := by
  have hcontent := l.reads_content (Xml.endTag "url".toList ++ rest) ("url".toList :: opened)
  have hclosing := Xml.next?_endTag (by decide : Xml.IsTagName "url".toList) rest opened
  have hevents : l.events = .opening "url".toList :: .opening "loc".toList ::
      ((l.contentEvents ++ [.closing "loc".toList]) ++ [.closing "url".toList]) := by
    rw [List.append_assoc]
    rfl
  have hentry : l.entry ++ rest = Xml.startTag "url".toList [] ++ (Xml.startTag "loc".toList [] ++
      (l.written ++ (Xml.endTag "loc".toList ++ (Xml.endTag "url".toList ++ rest)))) := by
    simp only [entry, List.append_assoc]
  rw [hentry, hevents]
  exact .cons (Xml.next?_startTag (by decide) [] _ _)
    (.cons (Xml.next?_startTag (by decide) [] _ _)
      (hcontent.append (.cons hclosing (.nil _))))

theorem length_events_le : l.events.length ≤ l.entry.length := by
  have hcontent : l.contentEvents.length ≤ 1 := by
    rw [contentEvents]
    cases l.form with
    | references =>
      by_cases hspaces : l.text.dropWhile Xml.isSpace = []
      · rw [if_pos hspaces]
        exact Nat.zero_le 1
      · rw [if_neg hspaces]
        exact le_rfl
    | data => exact le_rfl
  simp only [events, entry, Xml.startTag, Xml.endTag, List.length_cons, List.length_append]
  omega

end Location

theorem length_entries_le (ls : List Location) :
    (ls.flatMap Location.events).length ≤ (ls.flatMap Location.entry).length := by
  induction ls with
  | nil => exact le_rfl
  | cons l ls ih =>
    rw [List.flatMap_cons, List.flatMap_cons, List.length_append, List.length_append]
    exact Nat.add_le_add l.length_events_le ih

theorem isBlank_of_isSpace {c : Char} (h : Xml.isSpace c = true) : Text.isBlank c = true := by
  simp only [Xml.isSpace, Bool.or_eq_true, beq_iff_eq] at h
  obtain ((rfl | rfl) | rfl) | rfl := h <;> decide

theorem trim_trimWhile_isSpace (t : Text) :
    Text.trim (Text.trimWhile Xml.isSpace t) = Text.trim t := by
  obtain ⟨front, back, ht, hfront, hback⟩ := Text.exists_trimWhile Xml.isSpace t
  have hwhole := Text.trimWhile_append (fun c hc => isBlank_of_isSpace (hfront c hc))
    (fun c hc => isBlank_of_isSpace (hback c hc)) (Text.trimWhile Xml.isSpace t)
  rw [← ht] at hwhole
  exact hwhole.symm

/-- The locations of some entries: their texts, trimmed, without the blank ones. -/
def found (ls : List Location) : List Text :=
  (ls.map fun l => Text.trim l.text).filter (· ≠ [])

theorem found_cons (l : Location) (ls : List Location) :
    found (l :: ls) = found [l] ++ found ls := by
  rw [found, ← List.singleton_append, List.map_append, List.filter_append]
  rfl

theorem locationsGo_content (l : Location) (es : List Event) :
    ∃ u, locationsGo (some []) (l.contentEvents ++ es) = locationsGo (some u) es ∧
      Text.trim u = Text.trim l.text := by
  rw [Location.contentEvents]
  cases l.form with
  | references =>
    by_cases hspaces : l.text.dropWhile Xml.isSpace = []
    · refine ⟨[], by rw [if_pos hspaces, List.nil_append], ?_⟩
      rw [← trim_trimWhile_isSpace l.text, Text.trimWhile, hspaces]
      rfl
    · refine ⟨Text.trimWhile Xml.isSpace l.text, ?_, trim_trimWhile_isSpace _⟩
      rw [if_neg hspaces, List.singleton_append, locationsGo, Xml.unescape?_escape]
      rfl
  | data => exact ⟨l.text, rfl, rfl⟩

theorem locationsGo_events (l : Location) (es : List Event) :
    locationsGo none (l.events ++ es) = found [l] ++ locationsGo none es := by
  have hopening : locationsGo none (l.events ++ es) = locationsGo (some [])
      (l.contentEvents ++ (.closing "loc".toList :: .closing "url".toList :: es)) := by
    rw [Location.events, List.cons_append, List.cons_append, List.append_assoc]
    rfl
  obtain ⟨u, hcontent, htrim⟩ :=
    locationsGo_content l (.closing "loc".toList :: .closing "url".toList :: es)
  have hclosing : locationsGo (some u) (.closing "loc".toList :: .closing "url".toList :: es) =
      if (Text.trim u).isEmpty then locationsGo none es
      else Text.trim u :: locationsGo none es := rfl
  rw [hopening, hcontent, hclosing, htrim, found, List.map_singleton]
  cases Text.trim l.text with
  | nil => rfl
  | cons c t => rfl

theorem locationsGo_entries (ls : List Location) (es : List Event) :
    locationsGo none (ls.flatMap Location.events ++ es) = found ls ++ locationsGo none es := by
  induction ls with
  | nil => rfl
  | cons l ls ih =>
    rw [List.flatMap_cons, List.append_assoc, locationsGo_events, ih, found_cons l ls,
      List.append_assoc]

theorem reads_entries (ls : List Location) (rest : Text) (opened : List Text) :
    Reads ⟨ls.flatMap Location.entry ++ rest, opened⟩ (ls.flatMap Location.events)
      ⟨rest, opened⟩ := by
  induction ls with
  | nil => exact .nil _
  | cons l ls ih =>
    rw [List.flatMap_cons, List.flatMap_cons, List.append_assoc]
    exact (l.reads_entry _ opened).append ih

def opening (declaration : Option Instruction) (as : List Attribute) : Text :=
  (declaration.map Instruction.text).getD [] ++ Xml.startTag "urlset".toList as

def openingEvents (declaration : Option Instruction) : List Event :=
  (declaration.map fun _ => [.other]).getD [] ++ [.opening "urlset".toList]

section
variable (declaration : Option Instruction) (as : List Attribute)

theorem reads_opening (rest : Text) : Reads ⟨opening declaration as ++ rest, []⟩
    (openingEvents declaration) ⟨rest, ["urlset".toList]⟩ := by
  have htag : Reads ⟨Xml.startTag "urlset".toList as ++ rest, []⟩ [.opening "urlset".toList]
      ⟨rest, ["urlset".toList]⟩ :=
    .cons (Xml.next?_startTag (by decide) as rest []) (.nil _)
  cases declaration with
  | none => exact htag
  | some i =>
    rw [opening, openingEvents, List.append_assoc]
    exact .cons (Xml.next?_instruction i _ _) htag

theorem length_openingEvents_le :
    (openingEvents declaration).length ≤ (opening declaration as).length := by
  cases declaration with
  | none => simp [openingEvents, opening, Xml.startTag]
  | some i => simp [openingEvents, opening, Xml.startTag, Instruction.text]

theorem head_opening (rest : Text) : ∃ t, opening declaration as ++ rest = '<' :: t := by
  cases declaration with
  | none => exact ⟨_, rfl⟩
  | some i => exact ⟨_, rfl⟩

/-- The events of the entries come first, whatever follows the entries. -/
theorem events_written (ls : List Location) (g : Text) : ∃ fuel,
    Xml.events (opening declaration as ++ (ls.flatMap Location.entry ++ g)) =
      openingEvents declaration ++ (ls.flatMap Location.events ++
        Xml.eventsGo fuel ⟨g, ["urlset".toList]⟩) := by
  have hreads := (reads_opening declaration as _).append (reads_entries ls g ["urlset".toList])
  have hopening := length_openingEvents_le declaration as
  have hentries := length_entries_le ls
  obtain ⟨t, ht⟩ := head_opening declaration as (ls.flatMap Location.entry ++ g)
  have hevents : Xml.events ('<' :: t) = Xml.eventsGo (('<' :: t).length + 1) ⟨'<' :: t, []⟩ := rfl
  rw [← ht] at hevents
  obtain ⟨fuel, hfuel⟩ := Nat.exists_eq_add_of_le' (show
    (openingEvents declaration ++ ls.flatMap Location.events).length ≤
      (opening declaration as ++ (ls.flatMap Location.entry ++ g)).length + 1 by
    simp only [List.length_append]
    omega)
  refine ⟨fuel, ?_⟩
  rw [hevents, hfuel, hreads.eventsGo_add, List.append_assoc]

theorem locations_entries (ls : List Location) (g : Text) : ∃ fuel,
    locations (opening declaration as ++ (ls.flatMap Location.entry ++ g)) =
      found ls ++ locationsGo none (Xml.eventsGo fuel ⟨g, ["urlset".toList]⟩) := by
  obtain ⟨fuel, hevents⟩ := events_written declaration as ls g
  have hopening (es : List Event) :
      locationsGo none (openingEvents declaration ++ es) = locationsGo none es := by
    cases declaration <;> rfl
  refine ⟨fuel, ?_⟩
  rw [locations, hevents, hopening, locationsGo_entries]

theorem locationsGo_urlset (fuel : Nat) :
    locationsGo none (Xml.eventsGo fuel ⟨Xml.endTag "urlset".toList, ["urlset".toList]⟩) = [] := by
  cases fuel with
  | zero => rfl
  | succ fuel =>
    have hclosing := Xml.next?_endTag (by decide : Xml.IsTagName "urlset".toList) [] []
    rw [List.append_nil] at hclosing
    rw [Xml.eventsGo, hclosing]
    cases fuel <;> rfl

/-- The locations of a written sitemap are read back in order, and no continuation of it, well
formed or not, changes what was read of its entries. -/
theorem locations_written (ls : List Location) :
    (∀ g, found ls <+: locations (opening declaration as ++ (ls.flatMap Location.entry ++ g))) ∧
      locations (opening declaration as ++
        (ls.flatMap Location.entry ++ Xml.endTag "urlset".toList)) = found ls := by
  constructor
  · intro g
    obtain ⟨fuel, hlocations⟩ := locations_entries declaration as ls g
    exact ⟨_, hlocations.symm⟩
  · obtain ⟨fuel, hlocations⟩ := locations_entries declaration as ls (Xml.endTag "urlset".toList)
    rw [hlocations, locationsGo_urlset, List.append_nil]

end

def twoLocations : List Location :=
  [⟨"https://a.co/x?a=1&b=2".toList, .references, nofun⟩,
    ⟨" https://a.co/y?<z> ".toList, .data, by decide +kernel⟩]

def xmlDeclaration : Instruction :=
  ⟨"xml version=\"1.0\"".toList, by decide, by decide, by decide +kernel⟩

def versionAttribute : Attribute := ⟨"version".toList, "1".toList, by decide, by decide⟩

theorem locations_written_twoLocations :
    ["https://a.co/x?a=1&b=2".toList, "https://a.co/y?<z>".toList] <+:
      locations ("<?xml version=\"1.0\"?><urlset version=\"1\">".toList ++
        "<url><loc>https://a.co/x?a=1&amp;b=2</loc></url>".toList ++
        "<url><loc><![CDATA[ https://a.co/y?<z> ]]></loc></url>".toList ++
        "<url><loc>https://a.co/w</url>&".toList) ∧
    locations ("<?xml version=\"1.0\"?><urlset version=\"1\">".toList ++
        "<url><loc>https://a.co/x?a=1&amp;b=2</loc></url>".toList ++
        "<url><loc><![CDATA[ https://a.co/y?<z> ]]></loc></url>".toList ++
        "</urlset>".toList) =
      ["https://a.co/x?a=1&b=2".toList, "https://a.co/y?<z>".toList] := by
  have hfound : found twoLocations =
      ["https://a.co/x?a=1&b=2".toList, "https://a.co/y?<z>".toList] := by decide +kernel
  have htext (rest : Text) : "<?xml version=\"1.0\"?><urlset version=\"1\">".toList ++
      "<url><loc>https://a.co/x?a=1&amp;b=2</loc></url>".toList ++
      "<url><loc><![CDATA[ https://a.co/y?<z> ]]></loc></url>".toList ++ rest =
        opening (some xmlDeclaration) [versionAttribute] ++
          (twoLocations.flatMap Location.entry ++ rest) := by
    rw [← List.append_assoc]
    exact congrArg (· ++ rest) (by decide +kernel)
  obtain ⟨hfirst, hwhole⟩ :=
    locations_written (some xmlDeclaration) [versionAttribute] twoLocations
  rw [htext, htext, ← hfound]
  exact ⟨hfirst _, hwhole⟩

end EndpointScout.Sitemap
