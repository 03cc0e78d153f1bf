import EndpointScout.Url.Parser
import EndpointScout.Proofs.Url.Address
import EndpointScout.Proofs.Url.Idna
import EndpointScout.Proofs.Url.Percent

/-! Hosts are read back from their written form, and their written form stands in a URL
without being taken for anything else. -/
namespace EndpointScout.Url

def isNameChar (c : Char) : Bool :=
  0x20 < c.toNat && c.toNat < 0x7F && !"#/:?@[\\]|".toList.contains c

theorem isNameChar_of_allowed {c : Char} (ha : Text.isAscii c) (hd : Idna.isDenied c = false) :
    isNameChar c := by
  have h : ∀ n < 128, (Idna.isDenied (Char.ofNat n) || isNameChar (Char.ofNat n)) = true := by
    decide
  have := Text.forall_ascii (p := fun c => Idna.isDenied c || isNameChar c) h ha
  simpa [hd] using this

theorem parseHost_of_toAscii? {name : Text} (hne : name ≠ []) (h : Idna.toAscii? name = some name) :
    parseHost name = hostOfName name := by
  have hchars := (Idna.toAscii?_toAscii? h).2
  have hpercent : '%' ∉ name := fun hp => by
    have := (hchars '%' hp).2.2
    revert this
    decide
  have hbracket : ∀ inner, name ≠ '[' :: inner := by
    rintro inner rfl
    have := (hchars '[' List.mem_cons_self).2.2
    revert this
    decide
  obtain ⟨c, cs, rfl⟩ := List.exists_cons_of_ne_nil hne
  rw [parseHost, percentDecode_of_not_mem hpercent,
    Text.Utf8.decode?_encode_of_ascii fun c hc => (hchars c hc).1]
  · simp only [Option.bind_some, h]
  · exact hbracket

section Digits

theorem digit_spec {c : Char} (h : Text.isDigit c) :
    Text.isAscii c ∧ Idna.mapChar? c = some [c] ∧ Idna.direction c = 4 ∧
      Idna.isDenied c = false ∧ c ≠ 'x' := by
  have hascii := Text.isAscii_of_isDigit h
  have hcodes : ∀ n < 128, (!Text.isDigit (Char.ofNat n) ||
      (Idna.mapChar? (Char.ofNat n) == some [Char.ofNat n] && Idna.direction (Char.ofNat n) == 4 &&
        !Idna.isDenied (Char.ofNat n) && Char.ofNat n != 'x')) = true := by
    decide +kernel
  have hall := Text.forall_ascii (p := fun c => !Text.isDigit c ||
    (Idna.mapChar? c == some [c] && Idna.direction c == 4 && !Idna.isDenied c && c != 'x'))
    hcodes hascii
  simpa [h, hascii, and_assoc] using hall

theorem labelForms?_of_digits {label : Text} (h : ∀ c ∈ label, Text.isDigit c) :
    Idna.labelForms? label = some (label, label) := by
  have hstable : Idna.isStable label := Idna.isStable_iff.2 fun c hc => (digit_spec (h c hc)).2.1
  have hascii : label.all Text.isAscii := List.all_eq_true.2 fun c hc => (digit_spec (h c hc)).1
  have hplain : Text.dropPrefix? label Idna.marker = none := by
    cases hcode : Text.dropPrefix? label Idna.marker with
    | none => rfl
    | some code =>
      have hx : 'x' ∈ label := by
        rw [Text.dropPrefix?_eq_some hcode]
        exact List.mem_append_left _ (by decide)
      exact absurd rfl (digit_spec (h 'x' hx)).2.2.2.2
  simp only [Idna.labelForms?, hstable, hplain, hascii, Bool.not_true, Bool.false_eq_true,
    if_false, if_true]

theorem mapM_labelForms?_of_digits {labels : List Text}
    (h : ∀ l ∈ labels, ∀ c ∈ l, Text.isDigit c) :
    labels.mapM Idna.labelForms? = some (labels.map fun l => (l, l)) := by
  induction labels with
  | nil => rfl
  | cons l ls ih =>
    obtain ⟨hl, hls⟩ := List.forall_mem_cons.1 h
    rw [List.mapM_cons, labelForms?_of_digits hl, ih hls]
    rfl

theorem toAscii?_of_digits {t : Text} (h : ∀ c ∈ t, Text.isDigit c ∨ c = '.') :
    Idna.toAscii? t = some t := by
  have hdot : Text.isAscii '.' ∧ Idna.mapChar? '.' = some ['.'] ∧ Idna.isDenied '.' = false := by
    decide +kernel
  have hchar : ∀ c ∈ t, Text.isAscii c ∧ Idna.mapChar? c = some [c] ∧ Idna.isDenied c = false := by
    intro c hc
    obtain hd | rfl := h c hc
    · obtain ⟨ha, hm, -, hd, -⟩ := digit_spec hd
      exact ⟨ha, hm, hd⟩
    · exact hdot
  have hlabels : ∀ l ∈ Text.splitAt '.' t, ∀ c ∈ l, Text.isDigit c := by
    intro l hl c hc
    have hmem : c ∈ t := Text.join_splitAt '.' t ▸ Text.subset_join hl hc
    obtain hd | rfl := h c hmem
    · exact hd
    · exact absurd hc (Text.not_mem_of_mem_splitAt hl)
  have hright : ((Text.splitAt '.' t).map fun l => (l, l)).map (·.1) = Text.splitAt '.' t := by
    simp [Function.comp_def]
  have hascii : ((Text.splitAt '.' t).map fun l => (l, l)).map (·.2) = Text.splitAt '.' t := by
    simp [Function.comp_def]
  have hdirection : (Text.splitAt '.' t).any Idna.isRightToLeft = false := by
    rw [List.any_eq_false]
    intro l hl
    simp only [Idna.isRightToLeft, List.any_eq_true, not_exists, not_and]
    intro c hc
    rw [(digit_spec (hlabels l hl c hc)).2.2.1]
    decide
  have hdenied : t.any Idna.isDenied = false := by
    rw [List.any_eq_false]
    exact fun c hc => by simp [(hchar c hc).2.2]
  rw [Idna.toAscii?, Idna.mapText?_of_isStable fun c hc => (hchar c hc).2.1]
  simp only [Option.bind_eq_bind, Option.bind_some]
  rw [Idna.compose_of_ascii fun c hc => (hchar c hc).1, mapM_labelForms?_of_digits hlabels]
  simp only [Option.bind_some, hright, hascii, hdirection, Text.join_splitAt, hdenied,
    Bool.false_and, Bool.false_eq_true, if_false]

end Digits

theorem toAscii?_ipv4Text (n : Nat) : Idna.toAscii? (ipv4Text n) = some (ipv4Text n) := by
  refine toAscii?_of_digits fun c hc => ?_
  obtain h | ⟨p, hp, hc⟩ := Text.mem_join hc
  · exact .inr h
  · left
    simp only [List.mem_cons, List.not_mem_nil, or_false] at hp
    obtain rfl | rfl | rfl | rfl := hp <;> exact Text.isDigit_of_mem_ofNat c hc

theorem ipv4Text_ne_nil (n : Nat) : ipv4Text n ≠ [] := fun h => by
  have hlen := congrArg List.length (splitAt_ipv4Text n)
  rw [h] at hlen
  cases hlen

theorem parseHost_eq_ok {t : Text} {h : Host} (hp : parseHost t = .ok h) :
    (∃ inner ps, ipv6? inner = some ps ∧ h = .ipv6 ps) ∨
    ∃ name, name ≠ [] ∧ Idna.toAscii? name = some name ∧ hostOfName name = .ok h := by
  rw [parseHost.eq_def] at hp
  split at hp
  · split at hp
    · split at hp
      · rename_i ps hps
        cases hp
        exact .inl ⟨_, ps, hps, rfl⟩
      · cases hp
    · cases hp
  · split at hp
    · cases hp
    · cases hp
    · rename_i name hnil hname
      obtain ⟨text, -, hname⟩ := Option.bind_eq_some_iff.1 hname
      exact .inr ⟨name, hnil, (Idna.toAscii?_toAscii? hname).1, hp⟩

theorem hostOfName_eq_ok {name : Text} {h : Host} (hp : hostOfName name = .ok h) :
    h = .domain name ∨ ∃ n, ipv4? name = some n ∧ h = .ipv4 n := by
  rw [hostOfName] at hp
  split at hp
  · split at hp
    · rename_i n hn
      cases hp
      exact .inr ⟨n, hn, rfl⟩
    · cases hp
  · cases hp
    exact .inl rfl

/-- A host is read back from its written form. -/
theorem parseHost_text {t : Text} {h : Host} (hp : parseHost t = .ok h) :
    parseHost h.text = .ok h := by
  obtain ⟨inner, ps, hps, rfl⟩ | ⟨name, hne, hname, hhost⟩ := parseHost_eq_ok hp
  · simp [parseHost, Host.text, ipv6?_ipv6Text (isIpv6_of_ipv6? hps)]
  · obtain rfl | ⟨n, hn, rfl⟩ := hostOfName_eq_ok hhost
    · rw [Host.text, parseHost_of_toAscii? hne hname, hhost]
    · rw [Host.text, parseHost_of_toAscii? (ipv4Text_ne_nil n) (toAscii?_ipv4Text n), hostOfName,
        if_pos (endsInNumber_ipv4Text n), ipv4?_ipv4Text (ipv4?_lt hn)]

def hostText (h : Option Host) : Text := (h.map Host.text).getD []

theorem percentEncode_ne_nil (encoded : Char → Bool) {t : Text} (h : t ≠ []) :
    percentEncode encoded t ≠ [] := by
  obtain ⟨c, cs, rfl⟩ := List.exists_cons_of_ne_nil h
  have hbytes := Text.Utf8.encodeChar_ne_nil c
  have hchar : percentChar encoded c ≠ [] := by
    rw [percentChar]
    split
    · obtain ⟨b, bs, hb⟩ := List.exists_cons_of_ne_nil hbytes
      simp [hb, percentByte]
    · simp
  rw [percentEncode, List.flatMap_cons]
  exact List.append_ne_nil_of_left_ne_nil hchar _

theorem opaque_codes : isForbiddenInOpaqueHost '%' = false ∧
    ∀ k < 16, isForbiddenInOpaqueHost (Text.hexChar true k) = false := by decide

theorem parseOpaqueHost_text {t : Text} {h : Option Host} (hp : parseOpaqueHost t = .ok h) :
    parseOpaqueHost (hostText h) = .ok h := by
  rw [parseOpaqueHost.eq_def] at hp
  split at hp
  · cases hp
    rfl
  · split at hp
    · split at hp
      · rename_i ps hps
        cases hp
        simp [hostText, parseOpaqueHost, Host.text, ipv6?_ipv6Text (isIpv6_of_ipv6? hps)]
      · cases hp
    · cases hp
  · rename_i hnil hbracket
    split at hp
    · cases hp
    · rename_i hallowed
      cases hp
      have hchars : ∀ c ∈ percentEncode isControl t, isForbiddenInOpaqueHost c = false := by
        intro c hc
        obtain ⟨hc, -⟩ | rfl | ⟨k, hk, rfl⟩ := mem_percentEncode hc
        · simp only [List.any_eq_true, not_exists, not_and, Bool.not_eq_true] at hallowed
          exact hallowed c hc
        · exact opaque_codes.1
        · exact opaque_codes.2 k hk
      -- Encoding leaves nothing to encode, and brings in no character that would be refused.
      have hagain := percentEncode_eq_self (percentEncode_clean keepsCodes_isControl t)
      obtain ⟨c, cs, hcs⟩ := List.exists_cons_of_ne_nil (percentEncode_ne_nil isControl hnil)
      have hany : (percentEncode isControl t).any isForbiddenInOpaqueHost = false := by
        rw [List.any_eq_false]
        exact fun c hc => by simp [hchars c hc]
      have hhead : ∀ inner, c :: cs ≠ '[' :: inner := by
        rintro inner hinner
        have := hchars '[' (by simp [hcs, hinner])
        revert this
        decide
      rw [hcs] at hany hagain ⊢
      simp only [hostText, Option.map_some, Option.getD_some, Host.text]
      rw [parseOpaqueHost, hany, hagain]
      · rfl
      · exact List.cons_ne_nil c cs
      · exact hhead

theorem readHost_true {t : Text} {h : Option Host} (hp : readHost true t = .ok h) :
    ∃ g, parseHost t = .ok g ∧ h = some g := by
  rw [readHost, if_pos rfl] at hp
  cases hg : parseHost t with
  | error e =>
    rw [hg] at hp
    cases hp
  | ok g =>
    rw [hg] at hp
    exact ⟨g, rfl, (Except.ok.inj hp).symm⟩

theorem readHost_text {special : Bool} {t : Text} {h : Option Host}
    (hp : readHost special t = .ok h) : readHost special (hostText h) = .ok h := by
  cases special with
  | false => exact parseOpaqueHost_text hp
  | true =>
    obtain ⟨g, hg, rfl⟩ := readHost_true hp
    rw [readHost, if_pos rfl, hostText, Option.map_some, Option.getD_some, parseHost_text hg]
    rfl

def IsHostText (t : Text) : Prop :=
  (∀ c ∈ t, isNameChar c) ∨
    ∃ inner, t = '[' :: (inner ++ [']']) ∧ ∀ c ∈ inner, isNameChar c ∨ c = ':'

theorem isHostText_ipv6 (ps : List Nat) : IsHostText (Host.ipv6 ps).text := by
  refine .inr ⟨ipv6Text ps, rfl, fun c hc => ?_⟩
  have hhex : ∀ k < 16, isNameChar (Text.hexChar false k) = true := by decide
  have hpieces (qs : List Nat) (h : c ∈ Text.join [':'] (qs.map Text.hex)) :
      isNameChar c ∨ c = ':' := by
    obtain h | ⟨p, hp, hc⟩ := Text.mem_join h
    · exact .inr h
    · obtain ⟨n, -, rfl⟩ := List.mem_map.1 hp
      obtain ⟨k, hk, rfl⟩ := Text.exists_of_mem_hex hc
      exact .inl (hhex k hk)
  simp only [ipv6Text] at hc
  split at hc
  · exact hpieces _ hc
  · obtain hc | hc := List.mem_append.1 hc
    · obtain hc | hc := List.mem_append.1 hc
      · exact hpieces _ hc
      · right
        simpa using hc
    · exact hpieces _ hc

theorem isHostText_ipv4 (n : Nat) : IsHostText (Host.ipv4 n).text := by
  refine .inl fun c hc => ?_
  have hchars := (Idna.toAscii?_toAscii? (toAscii?_ipv4Text n)).2 c hc
  exact isNameChar_of_allowed hchars.1 hchars.2.2

theorem isNameChar_of_opaque {c : Char} (hcontrol : isControl c = false)
    (hallowed : isForbiddenInOpaqueHost c = false) : isNameChar c := by
  have hascii : Text.isAscii c := by
    simp only [isControl, Bool.or_eq_false_iff, decide_eq_false_iff_not] at hcontrol
    exact decide_eq_true (by omega)
  have h : ∀ n < 128, (isControl (Char.ofNat n) || isForbiddenInOpaqueHost (Char.ofNat n) ||
      isNameChar (Char.ofNat n)) = true := by
    decide
  have := Text.forall_ascii
    (p := fun c => isControl c || isForbiddenInOpaqueHost c || isNameChar c) h hascii
  simpa [hcontrol, hallowed] using this

theorem isHostText_parseHost {t : Text} {h : Host} (hp : parseHost t = .ok h) :
    IsHostText h.text := by
  obtain ⟨inner, ps, hps, rfl⟩ | ⟨name, hne, hname, hhost⟩ := parseHost_eq_ok hp
  · exact isHostText_ipv6 ps
  · obtain rfl | ⟨n, hn, rfl⟩ := hostOfName_eq_ok hhost
    · refine .inl fun c hc => ?_
      have hchars := (Idna.toAscii?_toAscii? hname).2 c hc
      exact isNameChar_of_allowed hchars.1 hchars.2.2
    · exact isHostText_ipv4 n

theorem isHostText_parseOpaqueHost {t : Text} {h : Option Host} (hp : parseOpaqueHost t = .ok h) :
    IsHostText (hostText h) := by
  rw [parseOpaqueHost.eq_def] at hp
  split at hp
  · cases hp
    exact .inl (by simp [hostText])
  · split at hp
    · split at hp
      · cases hp
        exact isHostText_ipv6 _
      · cases hp
    · cases hp
  · split at hp
    · cases hp
    · rename_i hallowed
      cases hp
      have hcodes := opaque_codes
      refine .inl fun c hc =>
        isNameChar_of_opaque (percentEncode_clean keepsCodes_isControl t c hc) ?_
      obtain ⟨hc, -⟩ | rfl | ⟨k, hk, rfl⟩ := mem_percentEncode hc
      · simp only [List.any_eq_true, not_exists, not_and, Bool.not_eq_true] at hallowed
        exact hallowed c hc
      · exact hcodes.1
      · exact hcodes.2 k hk

theorem isHostText_readHost {special : Bool} {t : Text} {h : Option Host}
    (hp : readHost special t = .ok h) : IsHostText (hostText h) := by
  cases special with
  | false => exact isHostText_parseOpaqueHost hp
  | true =>
    obtain ⟨g, hg, rfl⟩ := readHost_true hp
    exact isHostText_parseHost hg

end EndpointScout.Url
