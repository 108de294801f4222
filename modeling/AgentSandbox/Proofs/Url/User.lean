import AgentSandbox.Proofs.Url.Reader

/-!
# URLs that name no user

A URL names a user only if there is an at sign in its text: without one, a request to it is sent
with no other authorization than the client gives (`userAuthorization?_of_parse`).
-/

namespace AgentSandbox.Url

variable {scheme s : String} {cs : List Char} {u : Url}

theorem splitUser_of_notMem {backslash : Bool} (hat : '@' ∉ cs) :
    splitUser backslash cs = (none, cs) := by
  have hnone : (cs.takeWhile fun c => !endsAuthority backslash c).contains '@' = false := by
    rw [List.contains_eq_mem, decide_eq_false_iff_not]
    exact fun h => hat (List.takeWhile_subset _ h)
  unfold splitUser
  simp only [hnone, Bool.false_eq_true, if_false]

theorem user_of_readAuthority {a : Authority} {rest : List Char} (hat : '@' ∉ cs)
    (h : readAuthority scheme cs = .ok (a, rest)) : a.user = none := by
  unfold readAuthority at h
  simp only [splitUser_of_notMem hat, Option.bind_none, bind, Except.bind] at h
  replace h := ok_of_guard h
  cases hread : readHost (kindOf scheme) cs with
  | error e =>
    simp only [hread] at h
    cases h
  | ok r =>
    simp only [hread] at h
    replace h := ok_of_guard h
    split at h
    · split at h
      · cases h
      · cases h
        rfl
    · cases h
      rfl

theorem userAuthorization?_withRest {a : Authority} (h : a.user = none) (path : List Char → Path)
    (cs : List Char) : (withRest scheme (some a) path cs).userAuthorization? = none := by
  show a.user.bind User.authorization? = none
  rw [h, Option.bind_none]

theorem userAuthorization?_of_withAuthority (hat : '@' ∉ cs)
    (h : withAuthority scheme cs = .ok u) : u.userAuthorization? = none := by
  unfold withAuthority at h
  cases hread : readAuthority scheme cs with
  | error e =>
    rw [hread] at h
    cases h
  | ok r =>
    rw [hread] at h
    cases h
    exact userAuthorization?_withRest (user_of_readAuthority hat hread) _ _

/-- What follows a scheme stands in the text. -/
theorem mem_of_scheme? {rest : List Char} (h : scheme? cs = some (scheme, rest)) {c : Char}
    (hc : c ∈ rest) : c ∈ cs := by
  unfold scheme? at h
  split at h
  · next hrest =>
    cases h
    exact List.dropWhile_subset _ (hrest ▸ List.mem_cons_of_mem _ hc)
  · cases h

theorem mem_of_mem_cleaned {c : Char} (h : c ∈ cleaned s) : c ∈ s.toList := by
  have hinner := List.mem_reverse.1 (List.mem_filter.1 h).1
  exact List.dropWhile_subset _ (List.mem_reverse.1 (List.dropWhile_subset _ hinner))

/-- A URL whose text has no at sign authorizes nobody. -/
theorem userAuthorization?_of_parse (hat : '@' ∉ s.toList) (h : parse s = .ok u) :
    u.userAuthorization? = none := by
  unfold parse at h
  split at h
  · cases h
  next scheme rest hscheme =>
  replace hat : '@' ∉ rest := fun hmem => hat (mem_of_mem_cleaned (mem_of_scheme? hscheme hmem))
  split at h
  · exact userAuthorization?_of_withAuthority
      (fun hmem => hat (List.dropWhile_subset _ hmem)) h
  · obtain ⟨host, rest, rfl⟩ := exists_of_file h
    exact userAuthorization?_withRest rfl _ _
  · exact userAuthorization?_of_withAuthority
      (fun hmem => hat (List.mem_cons_of_mem _ (List.mem_cons_of_mem _ hmem))) h
  · cases h
    rfl
  · cases h
    rfl

end AgentSandbox.Url
