import AgentSandbox.Proofs.Text.Blank
import AgentSandbox.Proofs.Url.Path
import AgentSandbox.Url.Reader
import AgentSandbox.Proofs.Success

/-!
# URLs that were read

The path of a URL that was read holds a solidus only between its segments (`isPlain_of_parse`).  A URL
that ends with its host and port is the root of its host, without a query (`root_of_isBare`).
-/

namespace AgentSandbox.Url

/-- Between two characters that are no control characters and no spaces, only what is not held does
not count. -/
theorem cleaned_eq_held {s : String} {c d : Char} {cs : List Char} (hs : s.toList = c :: cs ++ [d])
    (hc : 0x20 < c.toNat) (hd : 0x20 < d.toNat) : cleaned s = (held s).toList := by
  let isOuter (c : Char) : Bool := c.toNat ≤ 0x20
  have hfront : (c :: cs ++ [d]).dropWhile isOuter = c :: cs ++ [d] :=
    List.dropWhile_cons_of_neg (by simpa [isOuter] using hc)
  have hback : Text.dropEndWhile isOuter (c :: cs ++ [d]) = c :: cs ++ [d] :=
    Text.dropEndWhile_append_cons (by simpa [isOuter] using hd) _ []
  have hcleaned : cleaned s = (Text.dropEndWhile isOuter (s.toList.dropWhile isOuter)).filter
      fun c => c ≠ '\t' && c ≠ '\n' && c ≠ '\r' := rfl
  rw [hcleaned, toList_held, hs, hfront, hback]

namespace Path

variable {kind : Kind} {items : List (List Char)}

theorem forall_mem_shorten {P : List Char → Prop} (h : ∀ s ∈ items, P s) :
    ∀ s ∈ shorten kind items, P s := by
  unfold shorten
  split
  · split
    · exact h
    · exact fun s hs => absurd hs List.not_mem_nil
  · exact fun s hs => h s (List.dropLast_subset _ hs)

theorem solidus_not_mem_add {piece : List Char} (hpiece : '/' ∉ piece)
    (h : ∀ s ∈ items, '/' ∉ s) (last : Bool) : ∀ s ∈ add kind pathSet items piece last, '/' ∉ s := by
  have hescape : '/' ∉ escape pathSet piece := not_mem_escape (by decide) rfl (.inr hpiece)
  have hconcat {items : List (List Char)} {t : List Char} (h : ∀ s ∈ items, '/' ∉ s)
      (ht : '/' ∉ t) : ∀ s ∈ items ++ [t], '/' ∉ s := by
    intro s hs
    rcases List.mem_append.1 hs with hs | hs
    · exact h s hs
    · rwa [List.mem_singleton.1 hs]
  have hended {items : List (List Char)} (h : ∀ s ∈ items, '/' ∉ s) :
      ∀ s ∈ if last then items ++ [[]] else items, '/' ∉ s := by
    split
    · exact hconcat h List.not_mem_nil
    · exact h
  unfold add
  dsimp only
  split
  · exact hended (forall_mem_shorten h)
  split
  · exact hended h
  split
  · refine hconcat h fun hmem => ?_
    rcases List.mem_append.1 hmem with hmem | hmem
    · exact hescape (List.mem_of_mem_take hmem)
    · exact absurd hmem (by decide)
  · exact hconcat h hescape

theorem solidus_not_mem_addAll {pieces : List (List Char)} (hpieces : ∀ p ∈ pieces, '/' ∉ p)
    (h : ∀ s ∈ items, '/' ∉ s) : ∀ s ∈ addAll kind items pieces, '/' ∉ s := by
  fun_induction addAll kind items pieces with
  | case1 => exact h
  | case2 items piece => exact solidus_not_mem_add (hpieces _ List.mem_cons_self) h true
  | case3 items piece pieces hne ih =>
    exact ih (fun p hp => hpieces p (List.mem_cons_of_mem _ hp))
      (solidus_not_mem_add (hpieces _ List.mem_cons_self) h false)

theorem mem_of_mem_dropEmpty {s : List Char} (h : s ∈ dropEmpty items) : s ∈ items := by
  fun_induction dropEmpty items with
  | case1 s' rest ih => exact List.mem_cons_of_mem _ (ih h)
  | case2 => exact h

theorem solidus_not_mem_split (kind : Kind) (cs : List Char) : ∀ s ∈ split kind cs, '/' ∉ s := by
  have hall : ∀ s ∈ addAll kind []
      (Text.cut (fun c => c = '/' || (kind.hasBackslash && c = '\\')) cs), '/' ∉ s := by
    refine solidus_not_mem_addAll (fun p hp hmem => ?_) fun s hs => absurd hs List.not_mem_nil
    have hsep := Text.eq_false_of_mem_cut hp hmem
    simp at hsep
  unfold split
  dsimp only
  split
  · exact fun s hs => hall s (mem_of_mem_dropEmpty hs)
  · exact hall

end Path

theorem isPlain_rooted (kind : Kind) (cs : List Char) : (rooted kind cs).IsPlain := by
  intro items h
  unfold rooted at h
  split at h
  · split at h
    · cases h
      exact fun s hs => absurd hs List.not_mem_nil
    · cases h
      exact fun s hs => List.mem_singleton.1 hs ▸ List.not_mem_nil
  · split at h
    · cases h
      exact Path.solidus_not_mem_split kind _
    · cases h
      exact Path.solidus_not_mem_split kind _

theorem path_withRest (scheme : String) (authority : Option Authority) (path : List Char → Path)
    (cs : List Char) : (withRest scheme authority path cs).path =
      path (cs.takeWhile fun c => c ≠ '?' && c ≠ '#') := rfl

theorem isPlain_withRest (scheme : String) (authority : Option Authority) (kind : Kind)
    (cs : List Char) : (withRest scheme authority (rooted kind) cs).path.IsPlain := by
  rw [path_withRest]
  exact isPlain_rooted _ _

variable {scheme s : String} {cs : List Char} {u : Url}

theorem isPlain_of_withAuthority (h : withAuthority scheme cs = .ok u) : u.path.IsPlain := by
  unfold withAuthority at h
  cases hread : readAuthority scheme cs with
  | error e =>
    rw [hread] at h
    cases h
  | ok r =>
    rw [hread] at h
    cases h
    exact isPlain_withRest _ _ _ _

/-- The URL of a file names no user and no port. -/
theorem exists_of_file (h : file cs = .ok u) : ∃ (host : Option Host) (rest : List Char),
    u = withRest "file" (some ⟨none, host, none⟩) (rooted .file) rest := by
  have hmade {host : Option Host} {rest : List Char}
      (h : (if (withRest "file" (some ⟨none, host, none⟩) (rooted .file) rest).startsWithDrive then
        { withRest "file" (some ⟨none, host, none⟩) (rooted .file) rest with
          authority := some ⟨none, none, none⟩ }
        else withRest "file" (some ⟨none, host, none⟩) (rooted .file) rest) = u) :
      ∃ (host : Option Host) (rest : List Char),
        u = withRest "file" (some ⟨none, host, none⟩) (rooted .file) rest := by
    subst h
    split
    · exact ⟨none, rest, rfl⟩
    · exact ⟨host, rest, rfl⟩
  unfold file at h
  split at h
  · next a b rest =>
    split at h
    · cases hhost : fileHost rest with
      | error e =>
        rw [hhost] at h
        cases h
      | ok r =>
        rw [hhost] at h
        exact hmade (Except.ok.inj h)
    · exact hmade (Except.ok.inj h)
  · exact hmade (Except.ok.inj h)

theorem isPlain_of_file (h : file cs = .ok u) : u.path.IsPlain := by
  obtain ⟨host, rest, rfl⟩ := exists_of_file h
  exact isPlain_withRest _ _ _ _

/-- The path of a URL that was read holds a solidus only between its segments. -/
theorem isPlain_of_parse (h : parse s = .ok u) : u.path.IsPlain := by
  unfold parse at h
  split at h
  · cases h
  split at h
  · exact isPlain_of_withAuthority h
  · exact isPlain_of_file h
  · exact isPlain_of_withAuthority h
  · cases h
    exact isPlain_withRest _ _ _ _
  · cases h
    exact fun items => nofun

/-! ## URLs without a path -/

/-- A text of the web that says nothing behind the host and the port. -/
structure IsBare (cs : List Char) (scheme : String) (solidi authority : List Char) : Prop where
  text : cs = scheme.toList ++ ':' :: (solidi ++ authority)
  scheme : scheme = "http" ∨ scheme = "https"
  solidi : ∀ c ∈ solidi, c = '/' ∨ c = '\\'
  authority : ∀ c ∈ authority, endsAuthority true c = false

theorem mem_of_mem_splitUser {backslash : Bool} {c : Char} (h : c ∈ (splitUser backslash cs).2) :
    c ∈ cs := by
  unfold splitUser at h
  dsimp only at h
  split at h
  · exact List.mem_of_mem_drop h
  · exact h

/-- What follows a host is the port, if nothing ends the two. -/
theorem hostText_of_forall {backslash : Bool} (inside : Bool)
    (hcs : ∀ c ∈ cs, endsAuthority backslash c = false) :
    (hostText backslash inside cs).2 = [] ∨
      ∃ rest, (hostText backslash inside cs).2 = ':' :: rest ∧ ∀ c ∈ rest, c ∈ cs := by
  induction cs generalizing inside with
  | nil => exact .inl rfl
  | cons c cs ih =>
    have hc := hcs c List.mem_cons_self
    unfold hostText
    split
    · next h =>
      rw [hc, Bool.or_false, Bool.and_eq_true, decide_eq_true_eq] at h
      exact .inr ⟨cs, by rw [h.1], fun d hd => List.mem_cons_of_mem _ hd⟩
    · rcases ih (c = '[' || (inside && c ≠ ']')) fun d hd => hcs d (List.mem_cons_of_mem _ hd) with
        h | ⟨rest, h, hrest⟩
      · exact .inl h
      · exact .inr ⟨rest, h, fun d hd => List.mem_cons_of_mem _ (hrest d hd)⟩

theorem rest_of_readHost {kind : Kind} {host : Option Host} {rest : List Char}
    (h : readHost kind cs = .ok (host, rest)) : rest = (hostText kind.hasBackslash false cs).2 := by
  unfold readHost at h
  dsimp only [bind, Except.bind] at h
  split at h
  · split at h
    · cases h
    · cases h
      rfl
  · split at h
    · split at h
      · cases h
      · cases h
        rfl
    · split at h
      · cases h
      · cases h
        rfl

theorem rest_of_port? {port : Option Nat} {rest : List Char}
    (hcs : ∀ c ∈ cs, endsAuthority true c = false) (h : port? cs = .ok (port, rest)) :
    rest = [] := by
  have hends (hrest : (cs.dropWhile Char.isDigit).head?.all (endsAuthority true) = true) :
      cs.dropWhile Char.isDigit = [] := by
    cases hd : cs.dropWhile Char.isDigit with
    | nil => rfl
    | cons c ds =>
      have hmem : c ∈ cs := List.dropWhile_subset _ (hd ▸ List.mem_cons_self)
      rw [hd, List.head?_cons, Option.all_some, hcs c hmem] at hrest
      cases hrest
  unfold port? at h
  dsimp only at h
  split at h
  · split at h
    · cases h
      exact hends ‹_›
    · cases h
  · split at h
    · cases h
      exact hends ‹_›
    · cases h
  · cases h

/-- Nothing follows a host and a port that nothing ends. -/
theorem rest_of_readAuthority {a : Authority} {rest : List Char} (hkind : kindOf scheme = .web)
    (hcs : ∀ c ∈ cs, endsAuthority true c = false) (h : readAuthority scheme cs = .ok (a, rest)) :
    rest = [] := by
  have huser : ∀ c ∈ (splitUser true cs).2, endsAuthority true c = false :=
    fun c hc => hcs c (mem_of_mem_splitUser hc)
  unfold readAuthority at h
  rw [hkind] at h
  dsimp only [bind, Except.bind] at h
  replace h := ok_of_guard h
  cases hread : readHost .web (splitUser true cs).2 with
  | error e =>
    simp only [Kind.hasBackslash, hread] at h
    cases h
  | ok r =>
    obtain ⟨host, behind⟩ := r
    obtain rfl := rest_of_readHost hread
    simp only [Kind.hasBackslash, hread] at h
    replace h := ok_of_guard h
    rcases hostText_of_forall false huser with hnone | ⟨port, hport, hmem⟩
    · simp only [hnone] at h
      cases h
      rfl
    · simp only [hport] at h
      cases hread : port? port with
      | error e =>
        rw [hread] at h
        cases h
      | ok r =>
        rw [hread] at h
        cases h
        exact rest_of_port? (fun c hc => huser c (hmem c hc)) hread

theorem withAuthority_of_bare (hcs : ∀ c ∈ cs, endsAuthority true c = false)
    (hkind : kindOf scheme = .web)
    (h : withAuthority scheme cs = .ok u) : u.path = .segments [[]] ∧ u.query = none := by
  unfold withAuthority at h
  cases hread : readAuthority scheme cs with
  | error e =>
    rw [hread] at h
    cases h
  | ok r =>
    obtain ⟨a, rest⟩ := r
    obtain rfl := rest_of_readAuthority hkind hcs hread
    rw [hread] at h
    cases h
    rw [hkind]
    exact ⟨rfl, rfl⟩

theorem scheme?_web {scheme : String} (h : scheme = "http" ∨ scheme = "https")
    (rest : List Char) : scheme? (scheme.toList ++ ':' :: rest) = some (scheme, rest) := by
  rcases h with rfl | rfl
  · rfl
  · rfl

/-- A URL without a path is the root of its host, without a query. -/
theorem root_of_isBare {scheme : String} {solidi authority : List Char}
    (hbare : IsBare (cleaned s) scheme solidi authority) (h : parse s = .ok u) :
    u.path = .segments [[]] ∧ u.query = none := by
  have hkind : kindOf scheme = .web := by
    rcases hbare.scheme with rfl | rfl <;> decide
  have hrest : (solidi ++ authority).dropWhile (fun c => c = '/' || c = '\\') = authority := by
    rw [List.dropWhile_append_of_pos fun c hc => by simpa using hbare.solidi c hc]
    cases authority with
    | nil => rfl
    | cons c cs =>
      have hc := hbare.authority c List.mem_cons_self
      simp only [endsAuthority, Bool.or_eq_false_iff, Bool.true_and] at hc
      rw [List.dropWhile_cons_of_neg (by rw [hc.1.1.1, hc.2]; decide)]
  rw [parse, hbare.text, scheme?_web hbare.scheme] at h
  simp only [hkind, hrest] at h
  exact withAuthority_of_bare hbare.authority hkind h

end AgentSandbox.Url
