import EndpointScout.Proofs.Url.Host

/-! Authorities are read back from their written form, whatever path follows. -/
namespace EndpointScout.Url

def FollowsAuthority (t : Text) : Prop :=
  t = [] ∨ ∃ c rest, t = c :: rest ∧ (c = '/' ∨ c = '?' ∨ c = '#')

theorem endsAuthority_of_follows {special : Bool} {c : Char} (h : c = '/' ∨ c = '?' ∨ c = '#') :
    endsAuthority special c := by
  obtain rfl | rfl | rfl := h <;> cases special <;> rfl

theorem takeWhile_of_follows {special : Bool} {front rest : Text}
    (hfront : ∀ c ∈ front, endsAuthority special c = false) (hrest : FollowsAuthority rest) :
    (front ++ rest).takeWhile (fun c => !endsAuthority special c) = front := by
  refine Text.takeWhile_append_of_head (by simpa using hfront) (fun c hc => ?_)
  obtain rfl | ⟨d, t, rfl, hd⟩ := hrest
  · cases hc
  · obtain rfl := Option.some.inj hc
    simp [endsAuthority_of_follows hd]

def isHostPart (c : Char) : Bool := isNameChar c || ":[]".toList.contains c

theorem endsAuthority_of_not_mem {c : Char} (h : c ∉ ['/', '\\', '?', '#']) (special : Bool) :
    endsAuthority special c = false := by
  simp only [List.mem_cons, List.not_mem_nil, or_false, not_or] at h
  simp [endsAuthority, isSlash, h]

theorem isHostPart_spec {c : Char} (h : isHostPart c) (special : Bool) :
    c ≠ '@' ∧ endsAuthority special c = false := by
  have hmarks : ∀ d ∈ '@' :: ['/', '\\', '?', '#'], isHostPart d = false :=
    Text.forall_of_all (by decide)
  have hc : c ∉ '@' :: ['/', '\\', '?', '#'] := fun hc => by simp [hmarks c hc] at h
  exact ⟨List.ne_of_not_mem_cons hc,
    endsAuthority_of_not_mem (List.not_mem_of_not_mem_cons hc) special⟩

theorem userinfo_spec {c : Char} (h : encodedInUserinfo c = false) (special : Bool) :
    c ≠ ':' ∧ c ≠ '@' ∧ endsAuthority special c = false := by
  have hmarks : ∀ d ∈ ':' :: '@' :: ['/', '\\', '?', '#'], encodedInUserinfo d = true :=
    Text.forall_of_all (by decide)
  have hc : c ∉ ':' :: '@' :: ['/', '\\', '?', '#'] := fun hc => by simp [hmarks c hc] at h
  have hat := List.not_mem_of_not_mem_cons hc
  exact ⟨List.ne_of_not_mem_cons hc, List.ne_of_not_mem_cons hat,
    endsAuthority_of_not_mem (List.not_mem_of_not_mem_cons hat) special⟩

section Userinfo
variable {special : Bool} {body rest : Text}

theorem cutUserinfo_none (hbody : ∀ c ∈ body, isHostPart c) (hrest : FollowsAuthority rest) :
    cutUserinfo special (body ++ rest) = none := by
  have hat : '@' ∉ body := fun h => (isHostPart_spec (hbody _ h) special).1 rfl
  rw [cutUserinfo,
    takeWhile_of_follows (fun c hc => (isHostPart_spec (hbody c hc) special).2) hrest]
  simp [hat]

theorem cutUserinfo_some {info : Text} (hinfo : ∀ c ∈ info, endsAuthority special c = false)
    (hbody : ∀ c ∈ body, isHostPart c) (hrest : FollowsAuthority rest) :
    cutUserinfo special (info ++ '@' :: (body ++ rest)) = some (info, body ++ rest) := by
  have hat : ∀ c ∈ body.reverse, (c != '@') = true := by
    intro c hc
    simpa using (isHostPart_spec (hbody c (List.mem_reverse.1 hc)) special).1
  have hfront : ∀ c ∈ info ++ '@' :: body, endsAuthority special c = false := by
    intro c hc
    obtain hc | hc := List.mem_append.1 hc
    · exact hinfo c hc
    · obtain rfl | hc := List.mem_cons.1 hc
      · cases special <;> rfl
      · exact (isHostPart_spec (hbody c hc) special).2
  have htake := takeWhile_of_follows hfront hrest
  rw [List.append_assoc, List.cons_append] at htake
  have hlast : ((info ++ '@' :: body).reverse.takeWhile (· != '@')).length = body.length := by
    rw [List.reverse_append, List.reverse_cons, List.append_assoc,
      List.takeWhile_append_of_pos hat]
    simp
  have hlen : (info ++ '@' :: body).length = info.length + (1 + body.length) := by
    simp only [List.length_append, List.length_cons]
    omega
  have hcontains : (info ++ '@' :: body).contains '@' = true := by simp
  have hdrop : info.length + (1 + body.length) - body.length = info.length + 1 := by omega
  simp only [cutUserinfo, htake, hlast, hlen, hdrop]
  rw [if_pos hcontains, Nat.add_sub_cancel, List.take_left, List.drop_append]
  simp

theorem parseUserinfo_text (special : Bool) {a : Authority}
    (hname : ∀ c ∈ a.username, encodedInUserinfo c = false)
    (hword : ∀ c ∈ a.password, encodedInUserinfo c = false) (hbody : ∀ c ∈ body, isHostPart c)
    (hrest : FollowsAuthority rest) :
    parseUserinfo special (a.credentials ++ (body ++ rest)) =
      .ok (a.username, a.password, body ++ rest) := by
  have hcolon : ':' ∉ a.username := fun h => (userinfo_spec (hname _ h) special).1 rfl
  by_cases hempty : a.username = [] ∧ a.password = []
  · rw [Authority.credentials, hempty.1, hempty.2, parseUserinfo]
    simp [cutUserinfo_none hbody hrest]
  · have hcredentials : a.credentials =
        (a.username ++ if a.password.isEmpty then [] else ':' :: a.password) ++ ['@'] := by
      rw [Authority.credentials, if_neg]
      simpa using hempty
    have hinfo : ∀ c ∈ a.username ++ (if a.password.isEmpty then [] else ':' :: a.password),
        endsAuthority special c = false := by
      intro c hc
      obtain hc | hc := List.mem_append.1 hc
      · exact (userinfo_spec (hname c hc) special).2.2
      · split at hc
        · cases hc
        · obtain rfl | hc := List.mem_cons.1 hc
          · cases special <;> rfl
          · exact (userinfo_spec (hword c hc) special).2.2
    have hparts : (Text.cutAt? ':' (a.username ++
        if a.password.isEmpty then [] else ':' :: a.password)).getD
        (a.username ++ (if a.password.isEmpty then [] else ':' :: a.password), []) =
        (a.username, a.password) := by
      cases hp : a.password with
      | nil => simp [Text.cutAt?_of_not_mem hcolon]
      | cons c cs => simp [Text.cutAt?_append hcolon]
    have hne : a.username ++ (if a.password.isEmpty then [] else ':' :: a.password) ≠ [] := by
      cases hp : a.password <;> simp_all
    have hcut := cutUserinfo_some hinfo hbody hrest
    rw [hcredentials, List.append_assoc, List.singleton_append, parseUserinfo, hcut]
    obtain ⟨c, cs, hc⟩ := List.exists_cons_of_ne_nil hne
    rw [hc] at hparts ⊢
    simp only [hparts, percentEncode_eq_self hname, percentEncode_eq_self hword]

end Userinfo

theorem isNameChar_ne {c : Char} (h : isNameChar c) : c ≠ ':' ∧ c ≠ '[' ∧ c ≠ ']' := by
  refine ⟨?_, ?_, ?_⟩ <;>
  · rintro rfl
    revert h
    decide

theorem cutHost_of_end {special : Bool} {rest : Text}
    (hrest : FollowsAuthority rest ∨ ∃ u, rest = ':' :: u) :
    cutHost special false rest = ([], rest) := by
  obtain (rfl | ⟨c, u, rfl, hc⟩) | ⟨u, rfl⟩ := hrest
  · rfl
  · rw [cutHost, if_pos (by simp [endsAuthority_of_follows hc])]
  · rfl

theorem cutHost_names {special : Bool} {t : Text} (h : ∀ c ∈ t, isNameChar c) (rest : Text) :
    cutHost special false (t ++ rest) =
      (t ++ (cutHost special false rest).1, (cutHost special false rest).2) := by
  induction t with
  | nil => rfl
  | cons c t ih =>
    obtain ⟨hc, ht⟩ := List.forall_mem_cons.1 h
    have hends := (isHostPart_spec (by simp [isHostPart, hc] : isHostPart c) special).2
    obtain ⟨hcolon, hopen, hclose⟩ := isNameChar_ne hc
    rw [List.cons_append, cutHost, if_neg (by simp [hcolon, hends]), if_neg (by simp [hopen]),
      if_neg (by simp [hclose]), ih ht]
    rfl

theorem cutHost_brackets {special : Bool} {t : Text} (h : ∀ c ∈ t, isNameChar c ∨ c = ':')
    (rest : Text) :
    cutHost special true (t ++ ']' :: rest) =
      (t ++ ']' :: (cutHost special false rest).1, (cutHost special false rest).2) := by
  induction t with
  | nil => cases special <;> simp [cutHost, endsAuthority, isSlash]
  | cons c t ih =>
    obtain ⟨hc, ht⟩ := List.forall_mem_cons.1 h
    have hpart : isHostPart c := by
      obtain hc | rfl := hc
      · simp [isHostPart, hc]
      · decide
    have hends := (isHostPart_spec hpart special).2
    have hbrackets : c ≠ '[' ∧ c ≠ ']' := by
      obtain hc | rfl := hc
      · exact (isNameChar_ne hc).2
      · decide
    rw [List.cons_append, cutHost, if_neg (by simp [hends]), if_neg (by simp [hbrackets.1]),
      if_neg (by simp [hbrackets.2]), ih ht]
    rfl

theorem cutHost_append {special : Bool} {t rest : Text} (h : IsHostText t)
    (hrest : FollowsAuthority rest ∨ ∃ u, rest = ':' :: u) :
    cutHost special false (t ++ rest) = (t, rest) := by
  have hend : cutHost special false rest = ([], rest) :=
    cutHost_of_end hrest
  obtain h | ⟨inner, rfl, h⟩ := h
  · rw [cutHost_names h, hend, List.append_nil]
  · have hopen : cutHost special false ('[' :: (inner ++ ']' :: rest)) =
        ('[' :: (cutHost special true (inner ++ ']' :: rest)).1,
          (cutHost special true (inner ++ ']' :: rest)).2) := by
      cases special <;> rfl
    rw [List.cons_append, List.append_assoc, List.singleton_append, hopen, cutHost_brackets h, hend]

/-- An authority as `parseAfterSlashes` leaves it for a scheme. -/
structure Authority.IsClean (scheme : Text) (a : Authority) : Prop where
  username : ∀ c ∈ a.username, encodedInUserinfo c = false
  password : ∀ c ∈ a.password, encodedInUserinfo c = false
  host : readHost (isSpecialScheme scheme) (hostText a.host) = .ok a.host
  hostText : IsHostText (hostText a.host)
  port : ∀ p, a.port = some p → p ≤ 65535 ∧ defaultPort? scheme ≠ some p
  bare : a.host = none → a.username = [] ∧ a.password = [] ∧ a.port = none

def portText (port : Option Nat) : Text := (port.map fun p => ':' :: Text.ofNat p).getD []

theorem Authority.text_eq (a : Authority) :
    a.text = a.credentials ++ (Url.hostText a.host ++ portText a.port) := by
  rw [Authority.text, List.append_assoc]
  rfl

theorem text_fileAuthority (host : Option Host) : (fileAuthority host).text = hostText host := by
  rw [Authority.text_eq]
  exact List.append_nil _

theorem parsePort_ofNat {scheme rest : Text} {p : Nat} (hp : p ≤ 65535)
    (hdefault : defaultPort? scheme ≠ some p) (hrest : FollowsAuthority rest) :
    parsePort scheme (Text.ofNat p ++ rest) = .ok (some p, rest) := by
  have hdigits : ∀ c ∈ Text.ofNat p, Text.isDigit c = true := Text.isDigit_of_mem_ofNat
  have hbehind : ∀ c ∈ rest.head?, Text.isDigit c = false := by
    obtain rfl | ⟨c, u, rfl, rfl | rfl | rfl⟩ := hrest <;> simp [Text.isDigit]
  have htake := Text.takeWhile_append_of_head hdigits hbehind
  have hdrop := Text.dropWhile_append_of_head hdigits hbehind
  have hend : ((rest.head?.map fun c => !endsAuthority true c).getD false) = false := by
    obtain rfl | ⟨c, u, rfl, hc⟩ := hrest
    · rfl
    · simp [endsAuthority_of_follows hc]
  have hsize : ¬p > 65535 := by omega
  have hkeep : ¬((Text.ofNat p).isEmpty || defaultPort? scheme == some p) = true := by
    simp [Text.ofNat_ne_nil, hdefault]
  simp only [parsePort, htake, hdrop, Text.digitsValue_ofNat, if_neg hsize, hend,
    Bool.false_eq_true, if_false, if_neg hkeep]

theorem readPort_text {scheme rest : Text} {a : Authority} (ha : a.IsClean scheme)
    (hrest : FollowsAuthority rest) :
    readPort scheme a.host (portText a.port ++ rest) = .ok (a.port, rest) := by
  cases hport : a.port with
  | none => obtain rfl | ⟨c, u, rfl, rfl | rfl | rfl⟩ := hrest <;> rfl
  | some p =>
    have hhost : ¬a.host.isNone = true := fun h => by
      have := (ha.bare (Option.isNone_iff_eq_none.1 h)).2.2
      rw [hport] at this
      cases this
    obtain ⟨hsize, hdefault⟩ := ha.port p hport
    rw [portText, Option.map_some, Option.getD_some, List.cons_append, readPort, if_neg hhost,
      parsePort_ofNat hsize hdefault hrest]

theorem isHostPart_portText {port : Option Nat} : ∀ c ∈ portText port, isHostPart c := by
  have hdigits : ∀ n < 128, (!Text.isDigit (Char.ofNat n) || isHostPart (Char.ofNat n)) = true := by
    decide
  intro c hc
  cases port with
  | none => cases hc
  | some p =>
    obtain rfl | hc := List.mem_cons.1 hc
    · decide
    · have hd := Text.isDigit_of_mem_ofNat c hc
      have := Text.forall_ascii (p := fun c => !Text.isDigit c || isHostPart c) hdigits
        (Text.isAscii_of_isDigit hd)
      simpa [hd] using this

theorem IsHostText.isHostPart {t : Text} (h : IsHostText t) : ∀ c ∈ t, isHostPart c := by
  have hname {c : Char} (hc : isNameChar c) : Url.isHostPart c := by simp [Url.isHostPart, hc]
  obtain h | ⟨inner, rfl, h⟩ := h
  · exact fun c hc => hname (h c hc)
  · intro c hc
    obtain rfl | hc := List.mem_cons.1 hc
    · decide
    · obtain hc | hc := List.mem_append.1 hc
      · obtain hc | rfl := h c hc
        · exact hname hc
        · decide
      · rw [List.mem_singleton.1 hc]
        decide

theorem readHost_special_nil : readHost true [] = .error .emptyHost := by decide +kernel

/-- An authority is read back, and the path is read from right behind it. -/
theorem parseAfterSlashes_text {scheme rest : Text} {a : Authority} (ha : a.IsClean scheme)
    (hrest : FollowsAuthority rest) :
    parseAfterSlashes scheme (a.text ++ rest) =
      .ok (assemble scheme (some a) (.segments (parsePathStart scheme true rest).1)
        (parsePathStart scheme true rest).2) := by
  have hbody : ∀ c ∈ hostText a.host ++ portText a.port, isHostPart c :=
    List.forall_mem_append.2 ⟨ha.hostText.isHostPart, isHostPart_portText⟩
  have huserinfo := parseUserinfo_text (isSpecialScheme scheme) ha.username ha.password
    hbody hrest
  have hhost : cutHost (isSpecialScheme scheme) false
      (hostText a.host ++ (portText a.port ++ rest)) =
      (hostText a.host, portText a.port ++ rest) := by
    refine cutHost_append ha.hostText ?_
    cases a.port with
    | none => exact .inl hrest
    | some p => exact .inr ⟨_, rfl⟩
  have hnamed : ¬(isSpecialScheme scheme && (hostText a.host).isEmpty) = true := by
    rw [Bool.and_eq_true, List.isEmpty_iff]
    rintro ⟨hspecial, hnil⟩
    have hread := ha.host
    rw [hspecial, hnil, readHost_special_nil] at hread
    cases hread
  have hbare : ¬(a.host.isNone && !(a.username.isEmpty && a.password.isEmpty)) = true := by
    rw [Bool.and_eq_true, Option.isNone_iff_eq_none]
    rintro ⟨hnone, hcredentials⟩
    simp [ha.bare hnone] at hcredentials
  rw [List.append_assoc] at huserinfo
  rw [Authority.text_eq, List.append_assoc, List.append_assoc, parseAfterSlashes]
  simp only [huserinfo, bind, Except.bind, hhost, if_neg hnamed, ha.host, readPort_text ha hrest,
    if_neg hbare]
  rfl

theorem bind_eq_ok {ε α β : Type} {x : Except ε α} {f : α → Except ε β} {b : β}
    (h : x >>= f = .ok b) : ∃ a, x = .ok a ∧ f a = .ok b := by
  cases x with
  | error e => cases h
  | ok a => exact ⟨a, rfl, h⟩

theorem toOption_eq_some_iff {ε α : Type} {x : Except ε α} {a : α} :
    x.toOption = some a ↔ x = .ok a := by
  cases x with
  | error e => simp [Except.toOption]
  | ok b => simp [Except.toOption]

theorem parseUserinfo_clean {special : Bool} {t username password rest : Text}
    (h : parseUserinfo special t = .ok (username, password, rest)) :
    (∀ c ∈ username, encodedInUserinfo c = false) ∧
      ∀ c ∈ password, encodedInUserinfo c = false := by
  rw [parseUserinfo] at h
  split at h
  · cases h
    simp
  · split at h
    · cases h
    · cases h
      simp
  · cases h
    exact ⟨percentEncode_clean keepsCodes_encodedInUserinfo _,
      percentEncode_clean keepsCodes_encodedInUserinfo _⟩

theorem readPort_clean {scheme t rest : Text} {host : Option Host} {port : Option Nat}
    (h : readPort scheme host t = .ok (port, rest)) :
    (∀ p, port = some p → p ≤ 65535 ∧ defaultPort? scheme ≠ some p) ∧
      (host = none → port = none) := by
  rw [readPort.eq_def] at h
  split at h
  · split at h
    · cases h
    · rename_i hhost
      refine ⟨?_, fun hnone => absurd (by simp [hnone]) hhost⟩
      rintro p rfl
      simp only [parsePort] at h
      split at h
      · cases h
      · split at h
        · cases h
        · rename_i hsize _
          simp only [Except.ok.injEq, Prod.mk.injEq] at h
          obtain ⟨h, -⟩ := h
          split at h
          · cases h
          · rename_i hkeep
            cases h
            simp only [Bool.or_eq_true, beq_iff_eq, not_or] at hkeep
            exact ⟨by omega, hkeep.2⟩
  · cases h
    simp

theorem parseAfterSlashes_eq_ok {scheme t : Text} {u : Url}
    (h : parseAfterSlashes scheme t = .ok u) :
    ∃ a rest, Authority.IsClean scheme a ∧ u = assemble scheme (some a)
      (.segments (parsePathStart scheme true rest).1) (parsePathStart scheme true rest).2 := by
  rw [parseAfterSlashes] at h
  obtain ⟨⟨username, password, t₁⟩, huserinfo, h⟩ := bind_eq_ok h
  simp only at h
  split at h
  · cases h
  obtain ⟨host, hhost, h⟩ := bind_eq_ok h
  obtain ⟨⟨port, rest⟩, hport, h⟩ := bind_eq_ok h
  simp only at h
  split at h
  · cases h
  rename_i hbare
  obtain ⟨hname, hword⟩ := parseUserinfo_clean huserinfo
  obtain ⟨hsize, hnone⟩ := readPort_clean hport
  refine ⟨⟨username, password, host, port⟩, rest, ⟨hname, hword, readHost_text hhost,
    isHostText_readHost hhost, hsize, ?_⟩, (Except.ok.inj h).symm⟩
  rintro rfl
  simp at hbare
  exact ⟨hbare.1, hbare.2, hnone rfl⟩

end EndpointScout.Url
