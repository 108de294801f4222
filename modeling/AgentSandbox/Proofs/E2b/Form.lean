import AgentSandbox.E2b.Form
import AgentSandbox.Proofs.Json.Decoding

/-!
# Fields of the records of the REST service

The shapes of what the REST service answers, and that the decoders suit them.
-/

namespace AgentSandbox.E2b

open Json

/-- A new sandbox. -/
def createdShape : Shape :=
  .record [("sandboxID", .text, true), ("envdAccessToken", .text, true)]

/-- A sandbox that is listed. -/
def listedShape : Shape :=
  .record
    [("sandboxID", .text, true), ("templateID", .text, true), ("alias", .text, true),
      ("startedAt", .text, true)]

theorem suits_created : createdShape.Suits Created.ofDocument? :=
  suits_record fun _ _ _ h =>
    .bind_of Text.nonEmpty (h.text_of rfl _ rfl) fun _ _ hid =>
      .bind_of Text.nonEmpty (h.text_of rfl _ rfl) fun _ _ htoken =>
        .some fun hexact => by rw [hid hexact, htoken hexact]

theorem suits_listed : listedShape.Suits listedOfDocument? := by
  let orEmpty := fun s : Option String => s.getD ""
  refine suits_record fun _ _ _ h => ?_
  refine .bind_of orEmpty (h.text_of rfl _ rfl) fun _ _ hid => ?_
  refine .bind_of orEmpty (h.text_of rfl _ rfl) fun _ _ htemplate => ?_
  refine .bind_of Text.nonEmpty (h.text_of rfl _ rfl) fun _ _ hname => ?_
  refine .bind_of orEmpty (h.text_of rfl _ rfl) fun _ _ hstarted => ?_
  refine .some fun hexact => ?_
  have hid := hid hexact
  have htemplate := htemplate hexact
  have hstarted := hstarted hexact
  simp only [orEmpty] at hid htemplate hstarted
  unfold listed
  rw [hid, htemplate, hname hexact, hstarted]

/-- A sandbox without an alias has the name of its template. -/
theorem toolName_of_lacks {d : Document} {i : Instance} (h : listedOfDocument? d = some i)
    (hd : d.Lacks ["alias"]) : i.toolName = i.toolId := by
  obtain ⟨fs, hfs, h⟩ := Option.bind_eq_some_iff.1 h
  obtain ⟨id, -, h⟩ := Option.bind_eq_some_iff.1 h
  obtain ⟨template, -, h⟩ := Option.bind_eq_some_iff.1 h
  simp only [hd.optional hfs, Option.bind_eq_bind, Option.bind_some] at h
  obtain ⟨startedAt, -, h⟩ := Option.bind_eq_some_iff.1 h
  cases h
  rfl

end AgentSandbox.E2b
