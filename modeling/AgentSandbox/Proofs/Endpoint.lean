import AgentSandbox.Endpoint
import AgentSandbox.Proofs.Json.Numeral
import AgentSandbox.Proofs.Text.Table

/-!
# What a host tells

The digits of a port hold no hyphen, so the first hyphen of a host ends its port, whatever the id of
the instance is; and what follows the id is the same for all services of a region.  A host of the
region therefore tells the port and the instance (`serviceHost_inj`).  The two URLs of a browser
tell its host and its token, although each of them alone does not (`browserUrls_inj`).
-/

namespace AgentSandbox

theorem hyphen_notMem_toString (n : Nat) : '-' ∉ (toString n).toList := by
  rw [Nat.toString_eq_repr, Nat.toList_repr]
  intro h
  exact absurd (Json.Numeral.isDigit_of_mem_toDigits h) (by decide)

theorem toString_nat_inj {n m : Nat} (h : toString n = toString m) : n = m := by
  rw [Nat.toString_eq_repr, Nat.toString_eq_repr, ← String.toList_inj, Nat.toList_repr,
    Nat.toList_repr] at h
  exact Json.Numeral.toDigits_inj h

/-! ## Hosts -/

variable {port port' : Nat} {id id' region domain host host' token token' : String}

theorem serviceHost_inj :
    serviceHost port id region domain = serviceHost port' id' region domain ↔
      port = port' ∧ id = id' := by
  constructor
  · intro h
    have hfront : toString port ++ "-" ++ id = toString port' ++ "-" ++ id' := by
      simpa only [serviceHost, String.append_left_inj] using h
    rw [String.append_assoc, String.append_assoc] at hfront
    obtain ⟨hport, hid⟩ := Text.append_mark_inj (by decide) (hyphen_notMem_toString port)
      (hyphen_notMem_toString port') hfront
    exact ⟨toString_nat_inj hport, hid⟩
  · rintro ⟨rfl, rfl⟩
    rfl

theorem serviceUrl_inj :
    serviceUrl port id region domain = serviceUrl port' id' region domain ↔
      port = port' ∧ id = id' := by
  rw [serviceUrl, serviceUrl, String.append_right_inj, serviceHost_inj]

/-! ## Browsers -/

/-- Two paths that differ right behind the solidus begin anew behind a common front only if it is
empty. -/
theorem eq_nil_of_paths {x y : Char} (hx : x ≠ '/') (hxy : x ≠ y) {between p p' q q' : List Char}
    (hp : '/' :: x :: p = between ++ '/' :: x :: p')
    (hq : '/' :: y :: q = between ++ '/' :: y :: q') : between = [] := by
  match between with
  | [] => rfl
  | [_] => exact absurd (List.cons.inj (List.cons.inj hp).2).1 hx
  | _ :: _ :: _ =>
    have hxthird := (List.cons.inj (List.cons.inj hp).2).1
    have hythird := (List.cons.inj (List.cons.inj hq).2).1
    exact absurd (hxthird.trans hythird.symm) hxy

theorem eq_of_append_paths {x y : Char} (hx : x ≠ '/') (hxy : x ≠ y)
    {a a' p p' q q' : List Char} (hp : a ++ '/' :: x :: p = a' ++ '/' :: x :: p')
    (hq : a ++ '/' :: y :: q = a' ++ '/' :: y :: q') : a = a' := by
  obtain ⟨between, rfl, hpath⟩ | ⟨between, rfl, hpath⟩ := List.append_eq_append_iff.1 hp
  · rw [List.append_assoc] at hq
    rw [eq_nil_of_paths hx hxy hpath (List.append_cancel_left hq), List.append_nil]
  · rw [List.append_assoc] at hq
    rw [eq_nil_of_paths hx hxy hpath (List.append_cancel_left hq.symm), List.append_nil]

theorem browserUrls_inj (h : browserUrls host token = browserUrls host' token') :
    host = host' ∧ token = token' := by
  simp only [browserUrls, BrowserUrls.mk.injEq, String.append_assoc, String.append_right_inj] at h
  obtain ⟨hvnc, hcdp⟩ := h
  have hhost : host = host' := by
    have hvnclist := congrArg String.toList hvnc
    have hcdplist := congrArg String.toList hcdp
    simp only [String.toList_append] at hvnclist hcdplist
    exact String.toList_inj.1 (eq_of_append_paths (by decide) (by decide) hvnclist hcdplist)
  rw [hhost] at hcdp
  simp only [String.append_right_inj] at hcdp
  exact ⟨hhost, hcdp⟩

end AgentSandbox
