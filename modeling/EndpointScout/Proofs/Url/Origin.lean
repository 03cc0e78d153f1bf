import EndpointScout.Proofs.Url.Shape
import EndpointScout.Url.Edit
import EndpointScout.Web.Client

/-! A path hung off the origin of a web page stays there: the slash ends the authority, whatever
stands behind it. -/
namespace EndpointScout.Url
variable {u w : Url} {a : Authority}

def port (u : Url) : Option Nat := u.authority.bind (·.port)

/-- Scheme, host and port are the same, and are written alike. -/
structure SharesOrigin (u w : Url) : Prop where
  scheme : w.scheme = u.scheme
  host : w.host = u.host
  port : w.port = u.port
  origin : w.origin = u.origin

def Authority.withoutCredentials (a : Authority) : Authority := ⟨[], [], a.host, a.port⟩

theorem Authority.IsClean.withoutCredentials {scheme : Text} (h : a.IsClean scheme) :
    a.withoutCredentials.IsClean scheme :=
  ⟨by simp [Authority.withoutCredentials], by simp [Authority.withoutCredentials], h.host,
    h.hostText, h.port, fun hnone => ⟨rfl, rfl, (h.bare hnone).2.2⟩⟩

theorem isHttp_iff :
    Web.isHttp u = true ↔ u.scheme = "http".toList ∨ u.scheme = "https".toList := by
  rw [Web.isHttp, Bool.or_eq_true, beq_iff_eq, beq_iff_eq]

theorem origin_of_web (hweb : u.scheme = "http".toList ∨ u.scheme = "https".toList)
    (ha : u.authority = some a) (hhost : a.host.isSome) :
    u.origin = u.scheme ++ ':' :: '/' :: '/' :: a.withoutCredentials.text := by
  obtain ⟨h, hhost⟩ := Option.isSome_iff_exists.1 hhost
  have hport : ∃ p, defaultPort? u.scheme = some p := by
    obtain hweb | hweb := hweb
    · exact ⟨80, by rw [hweb]; decide⟩
    · exact ⟨443, by rw [hweb]; decide⟩
  have hblob : (u.scheme == "blob".toList) = false := by
    obtain hweb | hweb := hweb <;> rw [hweb] <;> decide
  obtain ⟨p, hp⟩ := hport
  have htuple : u.tupleOrigin? = some (u.scheme ++ "://".toList ++ h.text ++ portText a.port) := by
    simp [tupleOrigin?, hp, host, ha, hhost, portText]
  have htext : a.withoutCredentials.text = h.text ++ portText a.port := by
    rw [Authority.text_eq]
    simp [Authority.withoutCredentials, Authority.credentials, hostText, hhost]
  rw [origin, hblob, htuple, htext]
  simp

theorem IsRead.exists_authority (h : IsRead u)
    (hweb : u.scheme = "http".toList ∨ u.scheme = "https".toList) :
    ∃ a, u.authority = some a ∧ a.IsClean u.scheme ∧ a.host.isSome := by
  obtain ⟨hspecial, hfile⟩ := special_of_web hweb
  obtain ⟨scheme, a, segs, tail, -, ha, -, rfl⟩ := h.exists_hosted hspecial hfile
  refine ⟨a, rfl, ha, ?_⟩
  cases hhost : a.host with
  | some h => rfl
  | none =>
    have hread := ha.host
    rw [show isSpecialScheme scheme = true from hspecial, hhost] at hread
    exact absurd (readHost_special_nil.symm.trans hread) (by simp)

/-- What begins with a slash is read as a path behind the origin, however it goes on. -/
theorem parse_origin_append (h : IsRead u)
    (hweb : u.scheme = "http".toList ∨ u.scheme = "https".toList) (t : Text) :
    ∃ w, parse (u.origin ++ '/' :: t) = .ok w ∧ SharesOrigin u w := by
  obtain ⟨a, ha, hclean, hhost⟩ := h.exists_authority hweb
  have hbare := hclean.withoutCredentials
  have horigin := origin_of_web hweb ha hhost
  have hfront : ∀ c ∈ u.origin, 0x20 < c.toNat := by
    rw [horigin]
    refine List.forall_mem_append.2 ⟨h.isScheme.plain, ?_⟩
    refine List.forall_mem_cons.2 ⟨by decide, List.forall_mem_cons.2 ⟨by decide,
      List.forall_mem_cons.2 ⟨by decide, fun c hc => (hbare.text_spec c hc).1⟩⟩⟩
  obtain ⟨rest, hrest⟩ := tidy_append_cons hfront (by decide : 0x20 < '/'.toNat) t
  have htidy : tidy (u.origin ++ '/' :: t) =
      u.scheme ++ ':' :: '/' :: '/' :: (a.withoutCredentials.text ++ '/' :: rest) := by
    rw [hrest, horigin]
    simp
  refine ⟨_, parse_of_tidy_hosted h.isScheme (special_of_web hweb).2 hbare
    (.inr ⟨'/', rest, rfl, .inl rfl⟩) htidy, rfl, ?_, ?_, ?_⟩
  · simp only [host, ha]
    rfl
  · simp only [port, ha]
    rfl
  · rw [horigin]
    exact origin_of_web (a := a.withoutCredentials) hweb rfl hhost

end EndpointScout.Url
