import AgentSandbox.Exchange.Message

/-!
# Headers as they are sent

A request is sent with the headers that the client gives, and in front of them with the
authorization of the user whom its URL names (`Request.values_authorization`); no other header is
added (`Request.values_of_ne`).  That authorization can always stand in a header
(`Request.isHeaderValue_of_mem_sentHeaders`).
-/

namespace AgentSandbox

theorem mem_base64 {bytes : List UInt8} {c : Char} (h : c ∈ base64 bytes) :
    c = '=' ∨ ∃ n < 64, c = base64Digit n := by
  fun_induction base64 bytes with
  | case1 => cases h
  | case2 a n =>
    have ha : a.toNat < 256 := a.toNat_lt
    simp only [List.mem_cons, List.not_mem_nil, or_false, or_self] at h
    rcases h with rfl | rfl | rfl
    · exact .inr ⟨_, by omega, rfl⟩
    · exact .inr ⟨_, by omega, rfl⟩
    · exact .inl rfl
  | case3 a b n =>
    have ha : a.toNat < 256 := a.toNat_lt
    have hb : b.toNat < 256 := b.toNat_lt
    simp only [List.mem_cons, List.not_mem_nil, or_false] at h
    rcases h with rfl | rfl | rfl | rfl
    · exact .inr ⟨_, by omega, rfl⟩
    · exact .inr ⟨_, by omega, rfl⟩
    · exact .inr ⟨_, by omega, rfl⟩
    · exact .inl rfl
  | case4 a b d bytes n ih =>
    have ha : a.toNat < 256 := a.toNat_lt
    have hb : b.toNat < 256 := b.toNat_lt
    have hd : d.toNat < 256 := d.toNat_lt
    simp only [List.mem_cons] at h
    rcases h with rfl | rfl | rfl | rfl | h
    · exact .inr ⟨_, by omega, rfl⟩
    · exact .inr ⟨_, by omega, rfl⟩
    · exact .inr ⟨_, by omega, rfl⟩
    · exact .inr ⟨_, by omega, rfl⟩
    · exact ih h

namespace Request

/-- The value of a header that the client gives. -/
def header? (r : Request) (name : String) : Option String := r.headers.lookup name

/-- The values that stand in some headers under a name. -/
def valuesIn (headers : List (String × String)) (name : String) : List String :=
  (headers.filter (·.1 = name)).map (·.2)

/-- The values that are sent under the name of a header. -/
def values (r : Request) (name : String) : List String := valuesIn r.sentHeaders name

theorem valuesIn_append (headers headers' : List (String × String)) (name : String) :
    valuesIn (headers ++ headers') name = valuesIn headers name ++ valuesIn headers' name := by
  rw [valuesIn, List.filter_append, List.map_append]
  rfl

/-- The user of the URL is authorized in front of what the client gives. -/
theorem values_authorization (r : Request) :
    r.values "authorization" =
      r.url.userAuthorization?.toList ++ valuesIn r.headers "authorization" := by
  rw [values, sentHeaders, valuesIn_append]
  cases r.url.userAuthorization? <;> rfl

/-- No other header is sent than the client gives. -/
theorem values_of_ne {name : String} (hname : "authorization" ≠ name) (r : Request) :
    r.values name = valuesIn r.headers name := by
  rw [values, sentHeaders, valuesIn_append]
  cases r.url.userAuthorization? with
  | none => rfl
  | some value =>
    have hnone : valuesIn [("authorization", value)] name = [] := by
      rw [valuesIn, List.filter_cons_of_neg (by simpa using hname), List.filter_nil, List.map_nil]
    rw [Option.map_some, Option.toList_some, hnone, List.nil_append]

/-! ## Values that can be written -/

theorem isHeaderValue_append (x y : String) :
    isHeaderValue (x ++ y) = (isHeaderValue x && isHeaderValue y) := by
  simp only [isHeaderValue, String.toList_append, List.all_append]

/-- Base 64 can stand in a header. -/
theorem isHeaderValue_base64 (bytes : List UInt8) :
    isHeaderValue (String.ofList (base64 bytes)) = true := by
  have hdigit : ∀ n < 64, (base64Digit n = '\t' ||
      (0x20 ≤ (base64Digit n).toNat && (base64Digit n).toNat ≠ 0x7F)) = true := by
    decide
  rw [isHeaderValue, String.toList_ofList, List.all_eq_true]
  intro c hc
  rcases mem_base64 hc with rfl | ⟨n, hn, rfl⟩
  · rfl
  · exact hdigit n hn

theorem isHeaderValue_of_authorization? {user : Url.User} {value : String}
    (h : user.authorization? = some value) : isHeaderValue value = true := by
  unfold Url.User.authorization? at h
  obtain ⟨name, -, h⟩ := Option.bind_eq_some_iff.1 h
  dsimp only at h
  split at h
  · cases h
  · cases h
    rw [isHeaderValue_append, isHeaderValue_base64, Bool.and_true]
    decide

/-- If what the client gives can be written, so can all headers that are sent. -/
theorem isHeaderValue_of_mem_sentHeaders {r : Request} (h : r.isWritable = true) :
    ∀ header ∈ r.sentHeaders, isHeaderValue header.2 = true := by
  intro header hmem
  rcases List.mem_append.1 hmem with huser | hgiven
  · obtain ⟨value, hvalue, rfl⟩ := Option.map_eq_some_iff.1 (Option.mem_toList.1 huser)
    obtain ⟨user, -, hauthorization⟩ := Option.bind_eq_some_iff.1 hvalue
    exact isHeaderValue_of_authorization? hauthorization
  · exact List.all_eq_true.1 (Bool.and_eq_true_iff.1 h).2 header hgiven

end Request

end AgentSandbox
