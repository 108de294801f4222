import AgentSandbox.Proofs.Url.User

/-!
# Hosts and what ends them

The host and the port of a URL end at the first solidus, backslash, question mark or number sign: what
follows has no part in them (`readAuthority_append`).
-/

namespace AgentSandbox.Url

variable {cs : List Char} {d : Char}

theorem hostText_append (inside : Bool) (hd : endsAuthority true d = true) (rest : List Char) :
    hostText true inside (cs ++ d :: rest) =
      ((hostText true inside cs).1, (hostText true inside cs).2 ++ d :: rest) := by
  induction cs generalizing inside with
  | nil =>
    show hostText true inside (d :: rest) = ([], d :: rest)
    rw [hostText, if_pos (by rw [hd, Bool.or_true])]
  | cons c cs ih =>
    rw [List.cons_append, hostText, hostText]
    split
    · rfl
    · simp only [ih]

theorem readHost_append (hd : endsAuthority true d = true) (rest : List Char) :
    readHost .web (cs ++ d :: rest) =
      (readHost .web cs).map fun r => (r.1, r.2 ++ d :: rest) := by
  simp only [readHost, Kind.hasBackslash, hostText_append false hd rest]
  split
  · rfl
  · simp only [if_pos]
    cases Host.parse (hostText true false cs).1 <;> rfl

theorem isDigit_of_endsAuthority (hd : endsAuthority true d = true) : d.isDigit = false := by
  simp only [endsAuthority, Bool.true_and, Bool.or_eq_true, decide_eq_true_eq] at hd
  rcases hd with ((rfl | rfl) | rfl) | rfl <;> decide

theorem port?_append (hd : endsAuthority true d = true) (rest : List Char) :
    port? (cs ++ d :: rest) = (port? cs).map fun r => (r.1, r.2 ++ d :: rest) := by
  have hdigit := isDigit_of_endsAuthority hd
  have hends : ((cs.dropWhile Char.isDigit ++ d :: rest).head?.all (endsAuthority true)) =
      (cs.dropWhile Char.isDigit).head?.all (endsAuthority true) := by
    cases cs.dropWhile Char.isDigit with
    | nil => exact hd
    | cons c cs => rfl
  unfold port?
  simp only [Text.takeWhile_append_cons hdigit, Text.dropWhile_append_cons hdigit, hends]
  split
  · split <;> rfl
  · split <;> rfl
  · rfl

theorem splitUser_append (hd : endsAuthority true d = true) (rest : List Char) :
    splitUser true (cs ++ d :: rest) =
      ((splitUser true cs).1, (splitUser true cs).2 ++ d :: rest) := by
  have hcut : (cs ++ d :: rest).takeWhile (fun c => !endsAuthority true c) =
      cs.takeWhile fun c => !endsAuthority true c :=
    Text.takeWhile_append_cons (by rw [hd]; rfl) cs rest
  unfold splitUser
  simp only [hcut]
  split
  · next hat =>
    have hpos := List.length_pos_of_mem (List.contains_iff_mem.1 hat)
    have hle : (cs.takeWhile fun c => !endsAuthority true c).length ≤ cs.length :=
      (List.takeWhile_prefix _).length_le
    rw [List.drop_append_of_le_length (by rw [List.length_take]; omega)]
  · rfl

/-! ## Hosts of the web -/

variable {scheme : String} {user : Option User} {host : Option Host}

/-- The port behind a host, which is left out if it is the usual one. -/
def withPort (scheme : String) (user : Option User) (host : Option Host) :
    List Char → Except Fault (Authority × List Char)
  | ':' :: cs =>
    (port? cs).map fun r => (⟨user, host, r.1.filter fun p => usualPort? scheme ≠ some p⟩, r.2)
  | cs => .ok (⟨user, host, none⟩, cs)

theorem withPort_append (hd : endsAuthority true d = true) (rest : List Char) :
    withPort scheme user host (cs ++ d :: rest) =
      (withPort scheme user host cs).map fun r => (r.1, r.2 ++ d :: rest) := by
  cases cs with
  | nil =>
    have hcolon : d ≠ ':' := by
      rintro rfl
      cases hd
    rw [List.nil_append, withPort]
    · rfl
    · rintro _ ⟨⟩
      exact hcolon rfl
  | cons c cs =>
    by_cases hc : c = ':'
    · subst hc
      rw [List.cons_append, withPort, withPort, port?_append hd]
      cases port? cs <;> rfl
    · rw [List.cons_append, withPort, withPort]
      · rfl
      · rintro _ ⟨⟩
        exact hc rfl
      · rintro _ ⟨⟩
        exact hc rfl

/-- There is no host in front of what ends it. -/
theorem readHost_of_head? (h : cs.head?.any (endsAuthority true) = true) :
    readHost .web cs = .error .emptyHost := by
  cases cs with
  | nil => cases h
  | cons c cs =>
    have htext : hostText true false (c :: cs) = ([], c :: cs) :=
      if_pos (by rw [show endsAuthority true c = true from h, Bool.or_true])
    unfold readHost
    simp only [Kind.hasBackslash, htext]
    rfl

theorem readHost_eq (cs : List Char) :
    readHost .web cs =
      if (hostText true false cs).1 = [] then .error .emptyHost
      else (Host.parse (hostText true false cs).1).map fun h =>
        (some h, (hostText true false cs).2) := by
  unfold readHost
  simp only [Kind.hasBackslash, List.isEmpty_iff, bind, Except.bind]
  split
  · rfl
  · simp only [if_pos]
    cases Host.parse (hostText true false cs).1 <;> rfl

/-- The authority of a URL of the web: what names a user is read apart from the host. -/
theorem readAuthority_eq (hkind : kindOf scheme = .web) (cs : List Char) :
    readAuthority scheme cs = (readHost .web (splitUser true cs).2).bind fun r =>
      withPort scheme ((splitUser true cs).1.bind User.ofText?) r.1 r.2 := by
  have hbackslash : Kind.web.hasBackslash = true := rfl
  unfold readAuthority
  rw [hkind]
  simp only [hbackslash, bind, Except.bind]
  by_cases hempty : (decide ((splitUser true cs).1 = some []) &&
      (splitUser true cs).2.head?.any (endsAuthority true)) = true
  · rw [if_pos hempty, readHost_of_head? (Bool.and_eq_true_iff.1 hempty).2]
  rw [if_neg hempty, readHost_eq]
  by_cases htext : (hostText true false (splitUser true cs).2).1 = []
  · rw [if_pos htext]
  rw [if_neg htext]
  cases Host.parse (hostText true false (splitUser true cs).2).1 with
  | error e => rfl
  | ok h =>
    simp only [Except.map, Option.isNone_some, Bool.false_and, Bool.false_eq_true, if_false]
    cases (hostText true false (splitUser true cs).2).2 with
    | nil => rfl
    | cons c rest =>
      by_cases hc : c = ':'
      · subst hc
        rw [withPort]
        cases hport : port? rest <;> simp only [hport, Except.map]
      · rw [withPort]
        · split
          · next heq => exact absurd (List.cons.inj heq).1 hc
          · rfl
        · rintro _ ⟨⟩
          exact hc rfl

theorem readAuthority_append (hkind : kindOf scheme = .web) (hd : endsAuthority true d = true)
    (rest : List Char) :
    readAuthority scheme (cs ++ d :: rest) =
      (readAuthority scheme cs).map fun r => (r.1, r.2 ++ d :: rest) := by
  rw [readAuthority_eq hkind, readAuthority_eq hkind, splitUser_append hd, readHost_append hd]
  cases readHost .web (splitUser true cs).2 with
  | error e => rfl
  | ok r => exact withPort_append hd rest

/-- What follows the authority is read apart from it. -/
theorem withAuthority_append (hkind : kindOf scheme = .web)
    (hcs : ∀ c ∈ cs, endsAuthority true c = false) (hd : endsAuthority true d = true)
    (rest : List Char) :
    withAuthority scheme (cs ++ d :: rest) =
      (readAuthority scheme cs).map fun r => withRest scheme (some r.1) (rooted .web) (d :: rest) := by
  unfold withAuthority
  rw [readAuthority_append hkind hd, hkind]
  cases hread : readAuthority scheme cs with
  | error e => rfl
  | ok r =>
    obtain ⟨a, behind⟩ := r
    obtain rfl := rest_of_readAuthority hkind hcs hread
    rfl

/-! ## Hosts without a user and a port -/

theorem hostText_fst_append_snd (inside : Bool) (cs : List Char) :
    (hostText true inside cs).1 ++ (hostText true inside cs).2 = cs := by
  induction cs generalizing inside with
  | nil => rfl
  | cons c cs ih =>
    rw [hostText]
    split
    · rfl
    · simp only [List.cons_append, ih]

/-- Nothing but digits is a port, if nothing ends it. -/
theorem isDigit_of_port? {port : Option Nat} {rest : List Char}
    (hcs : ∀ c ∈ cs, endsAuthority true c = false) (h : port? cs = .ok (port, rest)) :
    ∀ c ∈ cs, c.isDigit = true := by
  have hrest : rest = cs.dropWhile Char.isDigit := by
    unfold port? at h
    dsimp only at h
    split at h
    · split at h
      · cases h
        rfl
      · cases h
    · split at h
      · cases h
        rfl
      · cases h
    · cases h
  have hall : cs.takeWhile Char.isDigit = cs := by
    rw [← List.append_nil (cs.takeWhile _), ← rest_of_port? hcs h, hrest,
      List.takeWhile_append_dropWhile]
  rw [← List.all_eq_true, ← hall]
  exact List.all_takeWhile

theorem dot_mem_of_append {text port front suffix : List Char}
    (h : text ++ ':' :: port = front ++ '.' :: suffix) (hcolon : ':' ∉ suffix) : '.' ∈ port := by
  rcases List.append_eq_append_iff.1 h with ⟨between, -, h⟩ | ⟨between, -, h⟩
  · cases between with
    | nil => cases h
    | cons c between =>
      rw [(List.cons.inj h).2]
      exact List.mem_append_right _ List.mem_cons_self
  · cases between with
    | nil => cases h
    | cons c between =>
      rw [(List.cons.inj h).2] at hcolon
      exact absurd (List.mem_append_right _ List.mem_cons_self) hcolon

/-- A text that names no user and has no colon behind its last full stop is the host alone. -/
theorem exists_host {a : Authority} {rest front suffix : List Char} (hkind : kindOf scheme = .web)
    (hcs : ∀ c ∈ front ++ '.' :: suffix, endsAuthority true c = false ∧ c ≠ '@')
    (hcolon : ':' ∉ suffix) (h : readAuthority scheme (front ++ '.' :: suffix) = .ok (a, rest)) :
    ∃ host, Host.parse (front ++ '.' :: suffix) = .ok host ∧ a = ⟨none, some host, none⟩ := by
  have hends : ∀ c ∈ front ++ '.' :: suffix, endsAuthority true c = false :=
    fun c hc => (hcs c hc).1
  have hwhole := hostText_fst_append_snd false (front ++ '.' :: suffix)
  rw [readAuthority_eq hkind, splitUser_of_notMem fun hat => (hcs _ hat).2 rfl, readHost_eq] at h
  split at h
  · cases h
  cases hparse : Host.parse (hostText true false (front ++ '.' :: suffix)).1 with
  | error e =>
    rw [hparse] at h
    cases h
  | ok host =>
    rw [hparse] at h
    replace h : withPort scheme none (some host) (hostText true false (front ++ '.' :: suffix)).2 =
      .ok (a, rest) := h
    rcases hostText_of_forall false hends with hnone | ⟨port, hport, hmem⟩
    · rw [hnone, List.append_nil] at hwhole
      rw [hnone] at h
      cases h
      exact ⟨host, hwhole ▸ hparse, rfl⟩
    · rw [hport] at h hwhole
      cases hread : port? port with
      | error e =>
        rw [withPort, hread] at h
        cases h
      | ok r =>
        -- the full stop would be a digit of the port
        have hdot := dot_mem_of_append hwhole hcolon
        have hdigit := isDigit_of_port? (fun c hc => hends c (hmem c hc)) hread '.' hdot
        cases hdigit

end AgentSandbox.Url
