import EndpointScout.Proofs.Text.Ascii
import EndpointScout.Proofs.Text.Split
import EndpointScout.Proofs.Text.Trim
import EndpointScout.Xml.Event
import EndpointScout.Xml.Reference

/-! Written XML and the events that are read from it: tags, text whose marks are replaced by
references, and data sections. -/
namespace EndpointScout.Xml
variable {t rest name : Text} {opened : List Text} {c : Char}

def escapeChar (c : Char) : Text :=
  if c = '&' then "&amp;".toList
  else if c = '<' then "&lt;".toList
  else if c = '>' then "&gt;".toList
  else [c]

def escape (t : Text) : Text := t.flatMap escapeChar

theorem escape_cons (c : Char) (t : Text) : escape (c :: t) = escapeChar c ++ escape t :=
  List.flatMap_cons

theorem unescapeGo_reference {pending : Text} (hname : ∀ d ∈ name, d ≠ '&' ∧ d ≠ ';')
    (hc : referent? (pending.reverse ++ name) = some c) (t : Text) :
    unescapeGo (some pending) (name ++ ';' :: t) = (unescapeGo none t).map (c :: ·) := by
  induction name generalizing pending with
  | nil =>
    rw [List.append_nil] at hc
    rw [List.nil_append, unescapeGo, hc]
    cases unescapeGo none t <;> rfl
  | cons d name ih =>
    obtain ⟨⟨hamp, hend⟩, hname⟩ := List.forall_mem_cons.1 hname
    rw [List.cons_append, unescapeGo]
    · exact ih hname (by simpa using hc)
    · exact fun h => hamp h
    · exact fun h => hend h

theorem unescapeGo_escapeChar (c : Char) (t : Text) :
    unescapeGo none (escapeChar c ++ t) = (unescapeGo none t).map (c :: ·) := by
  have hreference {c : Char} {name : Text} (hname : name.all fun d => d != '&' && d != ';')
      (hc : referent? name = some c) :
      unescapeGo none ('&' :: (name ++ ';' :: t)) = (unescapeGo none t).map (c :: ·) := by
    change unescapeGo (some []) (name ++ ';' :: t) = _
    refine unescapeGo_reference (fun d hd => ?_) (by simpa using hc) t
    simpa using List.all_eq_true.1 hname d hd
  rw [escapeChar]
  by_cases hamp : c = '&'
  · rw [if_pos hamp, hamp]
    exact hreference (by decide) (by decide : referent? "amp".toList = some '&')
  by_cases hless : c = '<'
  · rw [if_neg hamp, if_pos hless, hless]
    exact hreference (by decide) (by decide : referent? "lt".toList = some '<')
  by_cases hgreater : c = '>'
  · rw [if_neg hamp, if_neg hless, if_pos hgreater, hgreater]
    exact hreference (by decide) (by decide : referent? "gt".toList = some '>')
  · rw [if_neg hamp, if_neg hless, if_neg hgreater, List.singleton_append, unescapeGo]
    exact fun h => hamp h

theorem unescape?_escape (t : Text) : unescape? (escape t) = some t := by
  rw [unescape?]
  induction t with
  | nil => rfl
  | cons c t ih => rw [escape_cons, unescapeGo_escapeChar, ih, Option.map_some]

theorem escapeChar_eq (c : Char) :
    escapeChar c = "&amp;".toList ∨ escapeChar c = "&lt;".toList ∨ escapeChar c = "&gt;".toList ∨
      escapeChar c = [c] ∧ c ≠ '<' := by
  rw [escapeChar]
  grind

theorem less_notMem_escape (t : Text) : '<' ∉ escape t := by
  intro h
  obtain ⟨c, -, hc⟩ := List.mem_flatMap.1 h
  obtain he | he | he | ⟨he, hne⟩ := escapeChar_eq c
  · rw [he] at hc
    revert hc
    decide
  · rw [he] at hc
    revert hc
    decide
  · rw [he] at hc
    revert hc
    decide
  · rw [he, List.mem_singleton] at hc
    exact hne hc.symm

theorem escapeChar_of_isSpace (h : isSpace c = true) : escapeChar c = [c] := by
  rw [escapeChar, if_neg, if_neg, if_neg]
  · rintro rfl
    cases h
  · rintro rfl
    cases h
  · rintro rfl
    cases h

theorem escapeChar_of_not_isSpace (h : isSpace c = false) :
    (∃ d ds, escapeChar c = d :: ds ∧ isSpace d = false) ∧
      ∃ d ds, (escapeChar c).reverse = d :: ds ∧ isSpace d = false := by
  obtain he | he | he | ⟨he, -⟩ := escapeChar_eq c
  · exact he ▸ ⟨⟨'&', _, rfl, by decide⟩, ';', _, rfl, by decide⟩
  · exact he ▸ ⟨⟨'&', _, rfl, by decide⟩, ';', _, rfl, by decide⟩
  · exact he ▸ ⟨⟨'&', _, rfl, by decide⟩, ';', _, rfl, by decide⟩
  · exact he ▸ ⟨⟨c, [], rfl, h⟩, c, [], rfl, h⟩

theorem dropWhile_flatMap {p : Char → Bool} {f : Char → Text} (hkept : ∀ c, p c = true → f c = [c])
    (hplain : ∀ c, p c = false → ∃ d ds, f c = d :: ds ∧ p d = false) (t : Text) :
    (t.flatMap f).dropWhile p = (t.dropWhile p).flatMap f := by
  induction t with
  | nil => rfl
  | cons c t ih =>
    rw [List.flatMap_cons]
    cases hc : p c with
    | true => rw [hkept c hc, List.singleton_append, List.dropWhile_cons_of_pos hc,
        List.dropWhile_cons_of_pos hc, ih]
    | false =>
      obtain ⟨d, ds, hd, hpd⟩ := hplain c hc
      rw [hd, List.cons_append, List.dropWhile_cons_of_neg (by simp [hpd]),
        List.dropWhile_cons_of_neg (by simp [hc]), List.flatMap_cons, hd, List.cons_append]

theorem dropWhile_escape (t : Text) : (escape t).dropWhile isSpace = escape (t.dropWhile isSpace) :=
  dropWhile_flatMap (fun _ hc => escapeChar_of_isSpace hc)
    (fun _ hc => (escapeChar_of_not_isSpace hc).1) t

theorem dropEndWhile_escape (t : Text) :
    Text.dropEndWhile isSpace (escape t) = escape (Text.dropEndWhile isSpace t) := by
  have hdrop := dropWhile_flatMap (f := fun c => (escapeChar c).reverse)
    (fun _ hc => by rw [escapeChar_of_isSpace hc]; rfl)
    (fun _ hc => (escapeChar_of_not_isSpace hc).2) t.reverse
  rw [Text.dropEndWhile, Text.dropEndWhile, escape, List.reverse_flatMap]
  simp only [Function.comp_def]
  rw [hdrop, List.reverse_flatMap]
  simp [escape, Function.comp_def]

structure IsTagName (name : Text) : Prop where
  ne_nil : name ≠ []
  letters : ∀ c ∈ name, Text.isLetter c = true

theorem isTagName_iff : (name ≠ [] && name.all Text.isLetter) = true ↔ IsTagName name := by
  rw [Bool.and_eq_true, decide_eq_true_iff, List.all_eq_true]
  exact ⟨fun h => ⟨h.1, h.2⟩, fun h => ⟨h.ne_nil, h.letters⟩⟩

instance : DecidablePred IsTagName := fun _ => decidable_of_iff _ isTagName_iff

/-- Characters of a tag that neither end it nor open a quoted part. -/
def IsPlain (t : Text) : Prop := ∀ c ∈ t, c ≠ '>' ∧ c ≠ '"' ∧ c ≠ '\''

theorem isPlain_iff : (t.all fun c => c ≠ '>' ∧ c ≠ '"' ∧ c ≠ '\'') = true ↔ IsPlain t := by
  simp [IsPlain]

instance : DecidablePred IsPlain := fun _ => decidable_of_iff _ isPlain_iff

theorem letter_spec (h : Text.isLetter c = true) :
    (c ≠ '>' ∧ c ≠ '"' ∧ c ≠ '\'') ∧ (c ≠ '/' ∧ c ≠ '!' ∧ c ≠ '?') ∧ isSpace c = false := by
  have hcodes : ∀ n < 128, decide (Text.isLetter (Char.ofNat n) = true →
      (Char.ofNat n ≠ '>' ∧ Char.ofNat n ≠ '"' ∧ Char.ofNat n ≠ '\'') ∧
      (Char.ofNat n ≠ '/' ∧ Char.ofNat n ≠ '!' ∧ Char.ofNat n ≠ '?') ∧
      isSpace (Char.ofNat n) = false) = true := by decide
  exact of_decide_eq_true (Text.forall_ascii (p := fun c => decide (Text.isLetter c = true →
    (c ≠ '>' ∧ c ≠ '"' ∧ c ≠ '\'') ∧ (c ≠ '/' ∧ c ≠ '!' ∧ c ≠ '?') ∧ isSpace c = false))
    hcodes (Text.isAscii_of_isLetter h)) h

theorem IsTagName.isPlain (h : IsTagName name) : IsPlain name :=
  fun c hc => (letter_spec (h.letters c hc)).1

structure Attribute where
  name : Text
  value : Text
  plain : IsPlain name
  unquoted : '"' ∉ value

def Attribute.text (a : Attribute) : Text := ' ' :: (a.name ++ '=' :: '"' :: (a.value ++ ['"']))

theorem tagBody?_append {s : Text} (hs : IsPlain s) (t : Text) :
    tagBody? none (s ++ t) = (tagBody? none t).map fun p => (s ++ p.1, p.2) := by
  induction s with
  | nil => simp
  | cons c s ih =>
    obtain ⟨⟨hend, hdouble, hsingle⟩, hs⟩ := List.forall_mem_cons.1 hs
    rw [List.cons_append, tagBody?, if_neg (by simp [hdouble, hsingle]), ih hs, Option.map_map]
    · rfl
    · exact fun h => hend h

theorem tagBody?_quoted {v : Text} (hv : '"' ∉ v) (t : Text) :
    tagBody? (some '"') (v ++ '"' :: t) =
      (tagBody? none t).map fun p => (v ++ '"' :: p.1, p.2) := by
  induction v with
  | nil => simp [tagBody?]
  | cons c v ih =>
    rw [List.mem_cons, not_or] at hv
    rw [List.cons_append, tagBody?, if_neg (by simpa using Ne.symm hv.1), ih hv.2, Option.map_map]
    rfl

theorem tagBody?_attribute (a : Attribute) (t : Text) :
    tagBody? none (a.text ++ t) = (tagBody? none t).map fun p => (a.text ++ p.1, p.2) := by
  have hopen : IsPlain (' ' :: (a.name ++ ['='])) := by
    refine List.forall_mem_cons.2 ⟨by decide, List.forall_mem_append.2 ⟨a.plain, ?_⟩⟩
    exact List.forall_mem_singleton.2 (by decide)
  have htext (t : Text) :
      a.text ++ t = (' ' :: (a.name ++ ['='])) ++ '"' :: (a.value ++ '"' :: t) := by
    simp [Attribute.text]
  have hquote : tagBody? none ('"' :: (a.value ++ '"' :: t)) =
      (tagBody? (some '"') (a.value ++ '"' :: t)).map fun p => ('"' :: p.1, p.2) := rfl
  rw [htext, tagBody?_append hopen, hquote, tagBody?_quoted a.unquoted, Option.map_map,
    Option.map_map]
  simp [Attribute.text, Function.comp_def]

theorem tagBody?_attributes (as : List Attribute) (t : Text) :
    tagBody? none (as.flatMap Attribute.text ++ t) =
      (tagBody? none t).map fun p => (as.flatMap Attribute.text ++ p.1, p.2) := by
  induction as with
  | nil => simp
  | cons a as ih =>
    rw [List.flatMap_cons, List.append_assoc, tagBody?_attribute, ih, Option.map_map]
    simp [Function.comp_def]

def startTag (name : Text) (as : List Attribute) : Text :=
  '<' :: (name ++ (as.flatMap Attribute.text ++ ['>']))

def endTag (name : Text) : Text := '<' :: '/' :: (name ++ ['>'])

theorem getLast?_tag (h : IsTagName name) (as : List Attribute) :
    (name ++ as.flatMap Attribute.text).getLast? ≠ some '/' := by
  obtain rfl | ⟨as, a, rfl⟩ := List.eq_nil_or_concat' as
  · intro hlast
    rw [List.flatMap_nil, List.append_nil] at hlast
    exact (letter_spec (h.letters _ (List.mem_of_getLast? hlast))).2.1.1 rfl
  · have htext : name ++ (as ++ [a]).flatMap Attribute.text =
        (name ++ (as.flatMap Attribute.text ++ ' ' :: (a.name ++ '=' :: '"' :: a.value))) ++
          ['"'] := by
      simp [Attribute.text]
    rw [htext, List.getLast?_concat]
    decide

theorem takeWhile_tag (h : IsTagName name) (as : List Attribute) :
    (name ++ as.flatMap Attribute.text).takeWhile (fun c => !isSpace c) = name := by
  rw [List.takeWhile_append_of_pos fun c hc => by simp [(letter_spec (h.letters c hc)).2.2]]
  cases as with
  | nil => simp
  | cons a as => simp [Attribute.text, isSpace]

theorem next?_opening (hc : c ≠ '/' ∧ c ≠ '!' ∧ c ≠ '?') (t : Text) (opened : List Text) :
    next? ⟨'<' :: c :: t, opened⟩ = opening? ⟨'<' :: c :: t, opened⟩ (c :: t) := by
  obtain ⟨hslash, hbang, hquestion⟩ := hc
  have hnot {d : Char} {u : Text} (hd : c ≠ d) (h : '<' :: c :: t = '<' :: d :: u) : False :=
    hd (List.cons.inj (List.cons.inj h).2).1
  rw [next?, List.dropWhile_cons_of_neg (by decide)]
  -- The cases in front ask for another character behind the bracket, or for none.
  split
  case h_1 heq => cases heq
  case h_2 heq => exact (hnot hbang heq).elim
  case h_3 heq => exact (hnot hslash heq).elim
  case h_4 heq => exact (hnot hquestion heq).elim
  case h_5 heq => exact (hnot hquestion heq).elim
  case h_6 heq => cases heq
  case h_7 heq => rw [(List.cons.inj heq).2]
  case h_8 hless => exact absurd rfl (hless (c :: t))

theorem next?_startTag (h : IsTagName name) (as : List Attribute) (rest : Text)
    (opened : List Text) :
    next? ⟨startTag name as ++ rest, opened⟩ = some (.opening name, ⟨rest, name :: opened⟩) := by
  have hbody : tagBody? none (name ++ (as.flatMap Attribute.text ++ '>' :: rest)) =
      some (name ++ as.flatMap Attribute.text, rest) := by
    rw [tagBody?_append h.isPlain, tagBody?_attributes]
    simp [tagBody?]
  have hlast : ((name ++ as.flatMap Attribute.text).getLast? == some '/') = false :=
    beq_eq_false_iff_ne.2 (getLast?_tag h as)
  have htext : startTag name as ++ rest =
      '<' :: (name ++ (as.flatMap Attribute.text ++ '>' :: rest)) := by
    simp [startTag]
  rw [htext]
  obtain ⟨d, ds, hname⟩ := List.exists_cons_of_ne_nil h.ne_nil
  have hmark := (letter_spec (h.letters d (hname ▸ List.mem_cons_self))).2.1
  have hnext := next?_opening hmark (ds ++ (as.flatMap Attribute.text ++ '>' :: rest)) opened
  rw [← List.cons_append, ← hname] at hnext
  rw [hnext, opening?, hbody, Option.map_some]
  simp only [hlast, takeWhile_tag h as]
  rfl

theorem next?_endTag (h : IsTagName name) (rest : Text) (opened : List Text) :
    next? ⟨endTag name ++ rest, name :: opened⟩ = some (.closing name, ⟨rest, opened⟩) := by
  have hbody : tagBody? none (name ++ '>' :: rest) = some (name, rest) := by
    rw [tagBody?_append h.isPlain]
    simp [tagBody?]
  have hname : Text.dropEndWhile isSpace name = name :=
    Text.dropEndWhile_of_forall fun c hc => (letter_spec (h.letters c hc)).2.2
  have htext : endTag name ++ rest = '<' :: '/' :: (name ++ '>' :: rest) := by
    simp [endTag]
  rw [htext]
  change closing? _ (name ++ '>' :: rest) = _
  simp [closing?, hbody, hname]

theorem next?_spaces (ht : ∀ c ∈ t, isSpace c = true) (rest : Text) (opened : List Text) :
    next? ⟨t ++ rest, opened⟩ = next? ⟨rest, opened⟩ := by
  rw [next?, next?, List.dropWhile_append_of_pos ht]
  rfl

theorem next?_text (hc : isSpace c = false) (ht : '<' ∉ c :: t) (rest : Text)
    (opened : List Text) :
    next? ⟨c :: t ++ '<' :: rest, opened⟩ =
      some (.text (Text.dropEndWhile isSpace (c :: t)), ⟨'<' :: rest, opened⟩) := by
  have hne : ∀ d ∈ c :: t, (d != '<') = true := fun d hd => by
    rw [bne_iff_ne]
    exact fun h => ht (h ▸ hd)
  have hmark : ∀ d ∈ ('<' :: rest).head?, (d != '<') = false := by simp
  have htake := Text.takeWhile_append_of_head hne hmark
  have hdrop := Text.dropWhile_append_of_head hne hmark
  have hless : c ≠ '<' := fun h => ht (h ▸ List.mem_cons_self)
  have hnot (u v : Text) (h : c :: u = '<' :: v) : False := hless (List.cons.inj h).1
  rw [next?, List.cons_append, List.dropWhile_cons_of_neg (by simp [hc]), ← List.cons_append]
  split
  case h_1 heq => cases heq
  case h_8 => rw [htake, hdrop]
  all_goals
    rename_i heq
    exact (hnot _ _ heq).elim

theorem next?_escape (ht : t.dropWhile isSpace ≠ []) (rest : Text) (opened : List Text) :
    next? ⟨escape t ++ '<' :: rest, opened⟩ =
      some (.text (escape (Text.trimWhile isSpace t)), ⟨'<' :: rest, opened⟩) := by
  obtain ⟨c, u, hu⟩ := List.exists_cons_of_ne_nil ht
  have hc : isSpace c = false := by
    have hhead := List.head?_dropWhile_not isSpace t
    rwa [hu] at hhead
  obtain ⟨⟨d, ds, hd, hspace⟩, -⟩ := escapeChar_of_not_isSpace hc
  have hkept : escape (t.dropWhile isSpace) = d :: (ds ++ escape u) := by
    rw [hu, escape_cons, hd, List.cons_append]
  have hspaces : ∀ e ∈ (escape t).takeWhile isSpace, isSpace e = true :=
    fun e he => List.mem_takeWhile_imp he
  have hsplit : escape t = (escape t).takeWhile isSpace ++ (d :: (ds ++ escape u)) := by
    rw [← hkept, ← dropWhile_escape, List.takeWhile_append_dropWhile]
  rw [hsplit, List.append_assoc, next?_spaces hspaces, next?_text hspace]
  · rw [← hkept, dropEndWhile_escape, Text.trimWhile]
  · rw [← hkept]
    exact less_notMem_escape _

theorem escape_of_spaces (ht : t.dropWhile isSpace = []) : escape t = t := by
  have hspaces := List.dropWhile_eq_nil_iff.1 ht
  induction t with
  | nil => rfl
  | cons c t ih =>
    obtain ⟨hc, ht⟩ := List.forall_mem_cons.1 hspaces
    rw [escape_cons, escapeChar_of_isSpace hc, ih (List.dropWhile_eq_nil_iff.2 ht) ht,
      List.singleton_append]

/-- A text is cut at an ending that does not occur in it, if the last character of the ending is
none of the others. -/
theorem cutAtText?_append {mark : Text} (hmark : c ∉ mark) (ht : ¬mark ++ [c] <:+: t)
    (rest : Text) : cutAtText? (mark ++ [c]) (t ++ (mark ++ [c] ++ rest)) = some (t, rest) := by
  induction t with
  | nil =>
    have hdrop := Text.dropPrefix?_append (mark ++ [c]) rest
    rw [List.nil_append]
    cases hwhole : mark ++ [c] ++ rest with
    | nil => simp at hwhole
    | cons d u =>
      rw [hwhole] at hdrop
      rw [cutAtText?, hdrop]
  | cons d t ih =>
    have hnone : Text.dropPrefix? (d :: (t ++ (mark ++ [c] ++ rest))) (mark ++ [c]) = none := by
      refine Option.eq_none_iff_forall_ne_some.2 fun u hu => ?_
      have hsplit : (d :: t) ++ (mark ++ [c] ++ rest) = (mark ++ [c]) ++ u :=
        Text.dropPrefix?_eq_some hu
      obtain ⟨v, hv, hmore⟩ | ⟨v, hv, -⟩ := List.append_eq_append_iff.1 hsplit
      · -- The ending would begin inside the text and reach into the ending that is written, so
        -- that its last character would be one of the others.
        obtain rfl | ⟨v, e, rfl⟩ := List.eq_nil_or_concat' v
        · exact ht ⟨[], [], by rw [hv, List.nil_append, List.append_nil, List.append_nil]⟩
        · rw [← List.append_assoc] at hv
          obtain ⟨rfl, he⟩ := List.append_inj' hv rfl
          obtain rfl := List.singleton_injective he
          rw [List.append_assoc (d :: t ++ v), List.append_assoc v] at hmore
          have hat := congrArg (·[v.length]?) hmore
          have hshort : v.length < (d :: t ++ v).length := by
            rw [List.length_append, List.length_cons]
            omega
          rw [List.getElem?_append_left hshort, List.getElem?_append_right le_rfl,
            Nat.sub_self] at hat
          exact hmark (List.mem_of_getElem? hat)
      · exact ht ⟨[], v, by rw [hv, List.nil_append]⟩
    rw [List.cons_append, cutAtText?, hnone,
      ih fun h => ht (h.trans (List.suffix_cons d t).isInfix)]
    rfl

def dataSection (t : Text) : Text := "<![CDATA[".toList ++ (t ++ "]]>".toList)

theorem next?_dataSection (ht : ¬"]]>".toList <:+: t) (rest : Text) (opened : List Text) :
    next? ⟨dataSection t ++ rest, opened⟩ = some (.data t, ⟨rest, opened⟩) := by
  have hcut : cutAtText? ([']', ']'] ++ ['>']) (t ++ ([']', ']'] ++ ['>'] ++ rest)) =
      some (t, rest) := cutAtText?_append (by decide) (by simpa using ht) rest
  have htext : dataSection t ++ rest =
      '<' :: '!' :: '[' :: 'C' :: 'D' :: 'A' :: 'T' :: 'A' :: '[' ::
        (t ++ ([']', ']', '>'] ++ rest)) := by
    change "<![CDATA[".toList ++ (t ++ "]]>".toList) ++ rest = _
    simp only [String.reduceToList, List.append_assoc, List.cons_append, List.nil_append]
  rw [htext, next?, List.dropWhile_cons_of_neg (by decide)]
  simpa [declaration?] using hcut

/-- An instruction, such as the declaration in front of a document. -/
structure Instruction where
  body : Text
  ne_nil : body ≠ []
  head : body.head? ≠ some '>'
  uncut : ¬"?>".toList <:+: body

def Instruction.text (i : Instruction) : Text := "<?".toList ++ (i.body ++ "?>".toList)

theorem next?_instruction (i : Instruction) (rest : Text) (opened : List Text) :
    next? ⟨i.text ++ rest, opened⟩ = some (.other, ⟨rest, opened⟩) := by
  have hcut : cutAtText? (['?'] ++ ['>']) (i.body ++ (['?'] ++ ['>'] ++ rest)) =
      some (i.body, rest) := cutAtText?_append (by decide) (by simpa using i.uncut) rest
  have htext : i.text ++ rest = '<' :: '?' :: (i.body ++ (['?', '>'] ++ rest)) := by
    simp [Instruction.text]
  obtain ⟨d, u, hbody⟩ := List.exists_cons_of_ne_nil i.ne_nil
  have hd : d ≠ '>' := fun h => i.head (by rw [hbody, h]; rfl)
  rw [hbody] at hcut
  rw [htext, hbody, next?, List.dropWhile_cons_of_neg (by decide)]
  simpa [hd] using congrArg (Option.map fun p => (Event.other, Reader.mk p.2 opened)) hcut

/-- Some events are read, one after the other. -/
inductive Reads : Reader → List Event → Reader → Prop
  | nil (r : Reader) : Reads r [] r
  | cons {r r' r'' : Reader} {e : Event} {es : List Event} (h : next? r = some (e, r'))
      (hes : Reads r' es r'') : Reads r (e :: es) r''

theorem Reads.append {r r' r'' : Reader} {es fs : List Event} (h : Reads r es r')
    (h' : Reads r' fs r'') : Reads r (es ++ fs) r'' := by
  induction h with
  | nil r => exact h'
  | cons h _ ih => exact .cons h (ih h')

theorem Reads.eventsGo_add {r r' : Reader} {es : List Event} (h : Reads r es r') (fuel : Nat) :
    eventsGo (fuel + es.length) r = es ++ eventsGo fuel r' := by
  induction h with
  | nil r => rfl
  | cons h _ ih =>
    rw [List.length_cons, ← Nat.add_assoc, eventsGo, h]
    exact congrArg _ ih

end EndpointScout.Xml
