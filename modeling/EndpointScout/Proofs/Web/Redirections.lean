import EndpointScout.Web.Client
import Mathlib.Data.List.Basic

/-! Requests that are redirected. A request comes to an answer that leads no further, or it fails:
its chain of redirections is too long, or ends at a URL that cannot be asked for or does not
answer. -/
namespace EndpointScout.Web

def IsAskable (u : Url) : Prop := isHttp u = true ∧ u.host.isSome = true

section
variable (site : Site) (mode : Mode)

/-- The number of redirections that lead a request for one URL to another one, with the exchanges
before and after. -/
inductive Redirects : Nat → Url → Log → Url → Log → Prop
  | refl (u : Url) (log : Log) : Redirects 0 u log u log
  | hop {n : Nat} {u next v : Url} {log log' : Log} {r : Response} (hu : IsAskable u)
      (hr : site log ⟨mode, wireText u⟩ = .answered r) (hnext : redirection? u r = some next)
      (h : Redirects n next (⟨⟨mode, wireText u⟩, .answered r⟩ :: log) v log') :
      Redirects (n + 1) u log v log'

/-- At most `hops` redirections lead to an answer that leads no further. -/
def Settles (hops : Nat) (u : Url) (log : Log) (r : Response) : Prop :=
  ∃ n v log', n ≤ hops ∧ Redirects site mode n u log v log' ∧ IsAskable v ∧
    site log' ⟨mode, wireText v⟩ = .answered r ∧ redirection? v r = none

/-- There are more than `hops` redirections, or they lead astray. -/
inductive Fails (hops : Nat) (u : Url) (log : Log) : Prop
  | tooLong {v : Url} {log' : Log} (h : Redirects site mode (hops + 1) u log v log')
  | unaskable {n : Nat} {v : Url} {log' : Log} (hn : n ≤ hops)
      (h : Redirects site mode n u log v log') (hv : ¬IsAskable v)
  | unanswered {n : Nat} {v : Url} {log' : Log} (hn : n ≤ hops)
      (h : Redirects site mode n u log v log') (hv : IsAskable v)
      (hsilent : ∀ r, site log' ⟨mode, wireText v⟩ ≠ .answered r)

end

variable {site : Site} {mode : Mode} {hops n : Nat} {u v next : Url} {log log' : Log}
  {r : Response}

theorem not_isAskable_iff : ¬IsAskable u ↔ isHttp u = false ∨ u.host = none := by
  rw [IsAskable, Classical.not_and_iff_not_or_not, Bool.not_eq_true, Option.not_isSome_iff_eq_none]

theorem follow_of_not_isAskable (hu : ¬IsAskable u) :
    follow site hops mode u log = (none, log) := by
  have hno : (!isHttp u || u.host.isNone) = true := by simpa using not_isAskable_iff.1 hu
  rw [follow.eq_def]
  exact if_pos hno

section Sent
variable (hu : IsAskable u)
include hu

theorem follow_of_isAskable :
    follow site hops mode u log =
      match site log ⟨mode, wireText u⟩ with
      | .answered r =>
        match redirection? u r with
        | none => (some r, ⟨⟨mode, wireText u⟩, .answered r⟩ :: log)
        | some next =>
          match hops with
          | 0 => (none, ⟨⟨mode, wireText u⟩, .answered r⟩ :: log)
          | hops + 1 =>
            follow site hops mode next (⟨⟨mode, wireText u⟩, .answered r⟩ :: log)
      | d => (none, ⟨⟨mode, wireText u⟩, d⟩ :: log) := by
  have hweb : ¬(!isHttp u || u.host.isNone) = true := by
    simp [hu.1, Option.isSome_iff_ne_none.1 hu.2]
  rw [follow.eq_def]
  simp only [if_neg hweb]
  cases site log ⟨mode, wireText u⟩ with
  | undelivered => rfl
  | dropped => rfl
  | answered r => rfl

theorem follow_of_unanswered (h : ∀ r, site log ⟨mode, wireText u⟩ ≠ .answered r) :
    (follow site hops mode u log).1 = none := by
  rw [follow_of_isAskable hu]
  split
  · rename_i r hr
    exact absurd hr (h r)
  · rfl

theorem follow_of_answer (hr : site log ⟨mode, wireText u⟩ = .answered r)
    (hlast : redirection? u r = none) : (follow site hops mode u log).1 = some r := by
  rw [follow_of_isAskable hu, hr]
  simp only [hlast]

theorem follow_of_last_hop (hr : site log ⟨mode, wireText u⟩ = .answered r)
    (hnext : redirection? u r = some next) : (follow site 0 mode u log).1 = none := by
  rw [follow_of_isAskable hu, hr]
  simp only [hnext]

theorem follow_of_redirection (hr : site log ⟨mode, wireText u⟩ = .answered r)
    (hnext : redirection? u r = some next) :
    follow site (hops + 1) mode u log =
      follow site hops mode next (⟨⟨mode, wireText u⟩, .answered r⟩ :: log) := by
  rw [follow_of_isAskable hu, hr]
  simp only [hnext]

end Sent

theorem Redirects.follow_eq (h : Redirects site mode n u log v log') (hops : Nat) :
    follow site (n + hops) mode u log = follow site hops mode v log' := by
  induction h with
  | refl u log => rw [Nat.zero_add]
  | hop hu hr hnext h ih => rw [Nat.add_right_comm, follow_of_redirection hu hr hnext, ih]

theorem Redirects.exists_last (h : Redirects site mode (n + 1) u log v log') :
    ∃ w log'' r, Redirects site mode n u log w log'' ∧ IsAskable w ∧
      site log'' ⟨mode, wireText w⟩ = .answered r ∧ redirection? w r = some v := by
  induction n generalizing u log with
  | zero =>
    cases h with
    | hop hu hr hnext h =>
      cases h with
      | refl => exact ⟨_, _, _, .refl _ _, hu, hr, hnext⟩
  | succ n ih =>
    cases h with
    | hop hu hr hnext h =>
      obtain ⟨w, log'', s, hw, hlast⟩ := ih h
      exact ⟨w, log'', s, .hop hu hr hnext hw, hlast⟩

theorem follow_of_settles (h : Settles site mode hops u log r) :
    (follow site hops mode u log).1 = some r := by
  obtain ⟨n, v, log', hn, hchain, hv, hr, hlast⟩ := h
  obtain ⟨more, rfl⟩ := Nat.exists_eq_add_of_le hn
  rw [hchain.follow_eq]
  exact follow_of_answer hv hr hlast

theorem follow_of_fails (h : Fails site mode hops u log) :
    (follow site hops mode u log).1 = none := by
  cases h with
  | tooLong h =>
    obtain ⟨w, log'', s, hchain, hw, hr, hnext⟩ := h.exists_last
    rw [← Nat.add_zero hops, hchain.follow_eq]
    exact follow_of_last_hop hw hr hnext
  | unaskable hn h hv =>
    obtain ⟨more, rfl⟩ := Nat.exists_eq_add_of_le hn
    rw [h.follow_eq, follow_of_not_isAskable hv]
  | unanswered hn h hv hsilent =>
    obtain ⟨more, rfl⟩ := Nat.exists_eq_add_of_le hn
    rw [h.follow_eq, follow_of_unanswered hv hsilent]

theorem Settles.hop (hu : IsAskable u) (hr : site log ⟨mode, wireText u⟩ = .answered r)
    (hnext : redirection? u r = some next) {s : Response}
    (h : Settles site mode hops next (⟨⟨mode, wireText u⟩, .answered r⟩ :: log) s) :
    Settles site mode (hops + 1) u log s := by
  obtain ⟨n, v, log', hn, hchain, hend⟩ := h
  exact ⟨n + 1, v, log', Nat.succ_le_succ hn, .hop hu hr hnext hchain, hend⟩

theorem Fails.hop (hu : IsAskable u) (hr : site log ⟨mode, wireText u⟩ = .answered r)
    (hnext : redirection? u r = some next)
    (h : Fails site mode hops next (⟨⟨mode, wireText u⟩, .answered r⟩ :: log)) :
    Fails site mode (hops + 1) u log := by
  cases h with
  | tooLong h => exact .tooLong (.hop hu hr hnext h)
  | unaskable hn h hv => exact .unaskable (Nat.succ_le_succ hn) (.hop hu hr hnext h) hv
  | unanswered hn h hv hsilent =>
    exact .unanswered (Nat.succ_le_succ hn) (.hop hu hr hnext h) hv hsilent

theorem settles_or_fails (site : Site) (mode : Mode) (hops : Nat) (u : Url) (log : Log) :
    (∃ r, Settles site mode hops u log r) ∨ Fails site mode hops u log := by
  induction hops using Nat.strongRecOn generalizing u log with
  | ind hops ih =>
    by_cases hu : IsAskable u
    · by_cases hsilent : ∀ r, site log ⟨mode, wireText u⟩ ≠ .answered r
      · exact .inr (.unanswered (Nat.zero_le _) (.refl u log) hu hsilent)
      obtain ⟨r, hr⟩ := not_forall_not.1 hsilent
      cases hnext : redirection? u r with
      | none => exact .inl ⟨r, 0, u, log, Nat.zero_le _, .refl u log, hu, hr, hnext⟩
      | some next =>
        cases hops with
        | zero => exact .inr (.tooLong (.hop hu hr hnext (.refl _ _)))
        | succ rest =>
          obtain ⟨s, hs⟩ | hfails :=
            ih rest (Nat.lt_succ_self rest) next (⟨⟨mode, wireText u⟩, .answered r⟩ :: log)
          · exact .inl ⟨s, hs.hop hu hr hnext⟩
          · exact .inr (hfails.hop hu hr hnext)
    · exact .inr (.unaskable (Nat.zero_le _) (.refl u log) hu)

theorem follow_eq_some_iff :
    (follow site hops mode u log).1 = some r ↔ Settles site mode hops u log r := by
  constructor
  · intro h
    obtain ⟨s, hs⟩ | hfails := settles_or_fails site mode hops u log
    · rw [follow_of_settles hs] at h
      exact Option.some.inj h ▸ hs
    · rw [follow_of_fails hfails] at h
      cases h
  · exact follow_of_settles

theorem follow_eq_none_iff :
    (follow site hops mode u log).1 = none ↔ Fails site mode hops u log := by
  constructor
  · intro h
    obtain ⟨s, hs⟩ | hfails := settles_or_fails site mode hops u log
    · rw [follow_of_settles hs] at h
      cases h
    · exact hfails
  · exact follow_of_fails

/-- The exchanges of a request, last first: they are all made in its mode, and the first is for
the URL itself. -/
structure AreSent (site : Site) (mode : Mode) (u : Url) (log sent : Log) : Prop where
  mode_eq : ∀ x ∈ sent, x.request.mode = mode
  first : IsAskable u →
    sent.getLast? = some ⟨⟨mode, wireText u⟩, site log ⟨mode, wireText u⟩⟩
  silent : ¬IsAskable u → sent = []

theorem AreSent.ne_nil_iff {sent : Log} (h : AreSent site mode u log sent) :
    sent ≠ [] ↔ IsAskable u := by
  constructor
  · intro hne
    by_contra hu
    exact hne (h.silent hu)
  · intro hu hnil
    have hfirst := h.first hu
    rw [hnil] at hfirst
    cases hfirst

/-- A request is not sent at all, or it is sent and nothing follows, or a redirection goes on. -/
theorem follow_log_cases (site : Site) (mode : Mode) (hops : Nat) (u : Url) (log : Log) :
    (¬IsAskable u ∧ (follow site hops mode u log).2 = log) ∨
    IsAskable u ∧
      ((follow site hops mode u log).2 =
          ⟨⟨mode, wireText u⟩, site log ⟨mode, wireText u⟩⟩ :: log ∨
        ∃ rest r next, hops = rest + 1 ∧ site log ⟨mode, wireText u⟩ = .answered r ∧
          redirection? u r = some next ∧ (follow site hops mode u log).2 =
            (follow site rest mode next (⟨⟨mode, wireText u⟩, .answered r⟩ :: log)).2) := by
  by_cases hu : IsAskable u
  · refine .inr ⟨hu, ?_⟩
    cases hd : site log ⟨mode, wireText u⟩ with
    | undelivered => simp [follow_of_isAskable hu, hd]
    | dropped => simp [follow_of_isAskable hu, hd]
    | answered r =>
      cases hnext : redirection? u r with
      | none => simp [follow_of_isAskable hu, hd, hnext]
      | some next =>
        cases hops with
        | zero => simp [follow_of_isAskable hu, hd, hnext]
        | succ rest =>
          exact .inr ⟨rest, r, next, rfl, rfl, hnext,
            congrArg Prod.snd (follow_of_redirection hu hd hnext)⟩
  · exact .inl ⟨hu, congrArg Prod.snd (follow_of_not_isAskable hu)⟩

theorem follow_areSent (site : Site) (mode : Mode) (hops : Nat) (u : Url) (log : Log) :
    ∃ sent, (follow site hops mode u log).2 = sent ++ log ∧
      AreSent site mode u log sent := by
  induction hops using Nat.strongRecOn generalizing u log with
  | ind hops ih =>
    obtain ⟨hu, hlog⟩ | ⟨hu, hlog | ⟨rest, r, next, rfl, hr, -, hlog⟩⟩ :=
      follow_log_cases site mode hops u log
    · exact ⟨[], hlog, by simp, fun h => absurd h hu, fun _ => rfl⟩
    · exact ⟨[_], hlog, by simp, fun _ => rfl, fun h => absurd hu h⟩
    · obtain ⟨sent, hsum, hsent⟩ :=
        ih rest (Nat.lt_succ_self rest) next (⟨⟨mode, wireText u⟩, .answered r⟩ :: log)
      refine ⟨sent ++ [⟨⟨mode, wireText u⟩, .answered r⟩], by simp [hlog, hsum], ?_⟩
      refine ⟨?_, by simp [hr], fun h => absurd hu h⟩
      exact List.forall_mem_append.2 ⟨hsent.mode_eq, by simp⟩

end EndpointScout.Web
