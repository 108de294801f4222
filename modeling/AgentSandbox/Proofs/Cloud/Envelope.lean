import AgentSandbox.Cloud.Envelope
import AgentSandbox.Proofs.Json.Meaning

/-!
# Fields of envelopes

An envelope that reports no error stands for the record in it (`openDocument?`), and a removal makes
no more difference to the envelope than to the record (`bears_envelope`), although the record is
given a meaning before it is decoded.
-/

namespace AgentSandbox.Cloud

open Json

variable {α : Type} {decode : Document → Option α}

/-- The record that a response stands for. -/
def recordIn : Value → Value
  | .null => .object []
  | v => v

/-- The envelope reports no error. -/
def IsErrorFree (d : Document) : Prop :=
  ∀ response, responseOfDocument? d = some response → response.member? "Error" = none

/-- What is decoded of the document of a response. -/
def responseOf? (decode : Document → Option α) (d : Document) : Option α :=
  d.value?.bind fun response => decode (.ofValue (recordIn response))

/-- What is decoded of an envelope that reports no error. -/
def openDocument? (decode : Document → Option α) (d : Document) : Option α :=
  (responseOfDocument? d).bind fun response => decode (.ofValue (recordIn response))

theorem openResponse_of_member? (action : String) {response : Value}
    (h : response.member? "Error" = none) :
    openResponse action decode response =
      match decode (.ofValue (recordIn response)) with
      | some a => .ok a
      | none => .error (.decode action) := by
  unfold openResponse
  rw [h]
  cases response <;> rfl

theorem openDocument?_eq (decode : Document → Option α) (d : Document) :
    openDocument? decode d = (d.fields? ["Response"]).bind fun fs =>
      match lookup? "Response" fs.given with
      | none => decode (.record [])
      | some response => responseOf? decode response := by
  unfold openDocument? responseOfDocument? responseOf?
  cases d.fields? ["Response"] with
  | none => rfl
  | some fs =>
    simp only [Option.bind_eq_bind, Option.bind_some, Fields.orDefault]
    cases lookup? "Response" fs.given <;> rfl

/-- The shape of an envelope around a response. -/
def envelopeShape (response : Shape) : Shape := .record [("Response", response, true)]

theorem responseOf?_of_saysNothing {slots : List (String × Shape × Bool)} {d : Document}
    (h : SaysNothing (.record slots) true d) :
    responseOf? decode d = decode (.record []) := by
  rcases h with rfl | ⟨-, hd⟩
  · rfl
  · obtain rfl := List.mem_singleton.1 hd
    rfl

theorem eq_null_of_value? {d : Document} (h : d.value? = some .null) : d = .null := by
  cases d with
  | null => rfl
  | bool _ => cases h
  | number _ => cases h
  | text _ => cases h
  | list items =>
    rw [value?_list] at h
    obtain ⟨_, _, ⟨⟩⟩ := Option.map_eq_some_iff.1 h
  | record ms =>
    rw [value?_record] at h
    obtain ⟨_, _, ⟨⟩⟩ := Option.map_eq_some_iff.1 h
  | hole => cases h

theorem recordIn_of_ne {v : Value} (h : v ≠ .null) : recordIn v = v := by
  cases v with
  | null => exact absurd rfl h
  | _ => rfl

theorem carries_responseOf? {exact : Bool} {shape : Shape} {d d' : Document}
    (h : Removal exact shape d d') (hdecode : shape.Suits decode) :
    Carries exact (responseOf? decode d) (responseOf? decode d') := by
  obtain ⟨hsome, hnone⟩ := h.value?_follows
  unfold responseOf?
  cases hv : d.value? with
  | none => exact .of_none rfl fun hexact => by rw [hnone hexact hv]; rfl
  | some v =>
    obtain ⟨v', hv', hfollows⟩ := hsome v hv
    have hne : v ≠ .null := fun heq => h.ne_null.1 (eq_null_of_value? (heq ▸ hv))
    have hne' : v' ≠ .null := fun heq => h.ne_null.2 (eq_null_of_value? (heq ▸ hv'))
    rw [hv', Option.bind_some, Option.bind_some, recordIn_of_ne hne, recordIn_of_ne hne']
    exact hdecode exact _ _ hfollows

/-- A removal makes no more difference to an envelope than to the record in it. -/
theorem bears_envelope {slots : List (String × Shape × Bool)}
    (hdecode : (Shape.record slots).Suits decode) (hempty : (decode (.record [])).isSome = true) :
    (envelopeShape (.record slots)).Bears (openDocument? decode) := by
  intro exact d d' h
  rw [openDocument?_eq, openDocument?_eq]
  rcases h.recordFollows.fields with ⟨hd, hd'⟩ | ⟨fs, fs', hd, hd', hfs⟩
  · refine .of_none ?_ fun hexact => ?_
    · exact hd ▸ rfl
    · exact hd' hexact ▸ rfl
  · have hresponse := hfs "Response" (.record slots) true rfl
    have hd : d.fields? ["Response"] = some fs := hd
    have hd' : d'.fields? ["Response"] = some fs' := hd'
    rw [hd, hd', Option.bind_some, Option.bind_some]
    generalize lookup? "Response" fs.given = given at hresponse ⊢
    generalize lookup? "Response" fs'.given = given' at hresponse ⊢
    cases hresponse with
    | same => exact .refl exact _
    | vacant silent =>
      rcases given with _ | e
      · exact .refl exact _
      cases exact with
      | true => exact responseOf?_of_saysNothing (silent rfl e rfl)
      | false => exact fun _ => hempty
    | inside h => exact carries_responseOf? h hdecode

/-- What is decoded of an envelope whose response lacks a field is decoded of a record that lacks
it. -/
theorem exists_of_lacks {d : Document} {name : String} (h : d.Lacks ["Response", name]) {a : α}
    (ha : openDocument? decode d = some a) :
    ∃ e : Document, e.Lacks [name] ∧ decode e = some a := by
  have hempty : (Document.record []).Lacks [name] := fun m hm => absurd hm List.not_mem_nil
  rw [openDocument?_eq] at ha
  obtain ⟨fs, hfs, ha⟩ := Option.bind_eq_some_iff.1 ha
  split at ha
  · exact ⟨_, hempty, ha⟩
  · next response hresponse =>
    rcases h.of_lookup? hfs hresponse with rfl | hlacks
    · exact ⟨_, hempty, ha⟩
    · obtain ⟨v, hv, ha⟩ := Option.bind_eq_some_iff.1 ha
      have hlacks := hlacks.ofValue hv
      have hne : v ≠ .null := by
        rintro rfl
        exact hlacks
      rw [recordIn_of_ne hne] at ha
      exact ⟨_, hlacks, ha⟩

end AgentSandbox.Cloud
