import AgentSandbox.Proofs.Json.Bounds

/-!
# Forms that are read again

A type with a decoder and a form `IsStable` if whatever a text is decoded as is written as a text that
is decoded as the same.  It is enough that the form fits into a text and that the document which
spells it is decoded as what it is the form of (`isStableOn_of`).  A list, a map or an optional part
is decoded as it was written if this holds of its parts.
-/

namespace AgentSandbox.Json

variable {α : Type}

/-- What a text is decoded as. -/
def decodeText? (decode : Document → Option α) (text : String) : Option α :=
  (Document.read? text.toList).bind decode

/-- Whatever has the property and a text is decoded as is decoded again from the text of its form,
and then has the same form. -/
def IsStableOn (P : α → Prop) (decode : Document → Option α) (form : α → Value) : Prop :=
  ∀ text x, decodeText? decode text = some x → P x →
    decodeText? decode (form x).toText = some x ∧
      (decodeText? decode (form x).toText).map form = some (form x)

/-- Whatever a text is decoded as is decoded again from the text of its form, and then has the same
form. -/
def IsStable (decode : Document → Option α) (form : α → Value) : Prop :=
  IsStableOn (fun _ => True) decode form

/-- The text of a value that fits is decoded as the document that spells the value. -/
theorem decodeText?_toText {v : Value} (h : v.Fits maxNesting) (decode : Document → Option α) :
    decodeText? decode v.toText = decode (.ofValue v) := by
  rw [decodeText?, Value.toText, String.toList_ofList, Document.read?_print h, Option.bind_some]

theorem isStableOn_of {P : α → Prop} {decode : Document → Option α} {form : α → Value}
    (h : ∀ d x, d.IsBounded maxNesting → decode d = some x → P x →
      (form x).Fits maxNesting ∧ decode (.ofValue (form x)) = some x) :
    IsStableOn P decode form := by
  intro text x hx hP
  obtain ⟨d, hread, hdecode⟩ := Option.bind_eq_some_iff.1 hx
  obtain ⟨hfits, hform⟩ := h d x (Document.isBounded_of_read? hread) hdecode hP
  rw [decodeText?_toText hfits, hform]
  exact ⟨rfl, rfl⟩

/-- A type is stable if every form fits and is decoded as what it is the form of. -/
theorem isStable_of {decode : Document → Option α} {form : α → Value}
    (hfits : ∀ x, (form x).Fits maxNesting) (hform : ∀ x, decode (.ofValue (form x)) = some x) :
    IsStable decode form :=
  isStableOn_of fun _ x _ _ _ => ⟨hfits x, hform x⟩

/-! ## Values that fit -/

namespace Value

variable {room : Nat}

@[simp] theorem fits_null : Value.null.Fits room := .null room

@[simp] theorem fits_bool (b : Bool) : (Value.bool b).Fits room := .bool room b

@[simp] theorem fits_text (s : String) : (Value.text s).Fits room := .text room s

@[simp] theorem fits_object_iff {ms : List (String × Value)} :
    (Value.object ms).Fits (room + 1) ↔ ∀ m ∈ ms, m.2.Fits room := by
  constructor
  · intro h
    cases h with
    | object h => exact h
  · exact .object

@[simp] theorem fits_list_iff {vs : List Value} :
    (Value.list vs).Fits (room + 1) ↔ ∀ v ∈ vs, v.Fits room := by
  constructor
  · intro h
    cases h with
    | list h => exact h
  · exact .list

@[simp] theorem fits_textOrNull (s : Option String) : (textOrNull s).Fits room := by
  cases s with
  | none => exact .null room
  | some s => exact .text room s

@[simp] theorem fits_texts (ss : List String) : (texts ss).Fits (room + 1) := by
  simp [texts]

@[simp] theorem fits_textObject (d : Dictionary String) : (textObject d).Fits (room + 1) := by
  refine .object fun m hm => ?_
  obtain ⟨e, -, rfl⟩ := List.mem_map.1 hm
  exact .text room e.2

@[simp] theorem fits_int_iff {n : Int} : (number (.int n)).Fits room ↔ IsWord n := by
  constructor
  · intro h
    cases h with
    | int _ h => exact h
  · exact .int room

@[simp] theorem fits_nat_iff {n : Nat} : (nat n).Fits room ↔ IsWord n := fits_int_iff

theorem fits_getD_null {o : Option Value} (h : ∀ v, o = some v → v.Fits room) :
    (o.getD .null).Fits room := by
  cases o with
  | none => exact .null room
  | some v => exact h v rfl

/-- The value fits if it is given. -/
def GivenFits (room : Nat) (o : Option Value) : Prop := ∀ v ∈ o, v.Fits room

@[simp] theorem givenFits_none : GivenFits room none := nofun

@[simp] theorem givenFits_some_iff {v : Value} : GivenFits room (some v) ↔ v.Fits room :=
  ⟨fun h => h v rfl, fun h _ hv => Option.some.inj hv ▸ h⟩

theorem givenFits_map {o : Option α} {form : α → Value} (h : ∀ x, (form x).Fits room) :
    GivenFits room (o.map form) := by
  cases o with
  | none => exact givenFits_none
  | some x => exact givenFits_some_iff.2 (h x)

/-- An object of the members that are given fits if these do. -/
theorem fits_givenMembers {ms : List (String × Option Value)} (h : ∀ m ∈ ms, GivenFits room m.2) :
    (object (givenMembers ms)).Fits (room + 1) := by
  refine .object fun m hm => ?_
  obtain ⟨x, hx, hm⟩ := List.mem_filterMap.1 hm
  obtain ⟨v, hv, rfl⟩ := Option.map_eq_some_iff.1 hm
  exact h x hx v hv

end Value

/-! ## Parts that are decoded as they were written -/

namespace Document

theorem ofValue_list (vs : List Value) :
    ofValue (.list vs) = .list (itemDocuments vs) := by
  rw [ofValue]

theorem itemDocuments_eq_map (vs : List Value) : itemDocuments vs = vs.map ofValue := by
  induction vs with
  | nil => rfl
  | cons v vs ih => rw [itemDocuments, ih, List.map_cons]

/-- A list is decoded if each of its items is. -/
theorem listOf?_list_map {β : Type} {decode : Document → Option β} {item : α → Document} {g : α → β}
    {xs : List α} (h : ∀ x ∈ xs, decode (item x) = some (g x)) :
    listOf? decode (.list (xs.map item)) = some (xs.map g) := by
  rw [listOf?]
  induction xs with
  | nil => rfl
  | cons x xs ih =>
    have hx := h x List.mem_cons_self
    have hxs := ih fun y hy => h y (List.mem_cons_of_mem _ hy)
    simp only [List.map_cons, List.mapM_cons, hx, hxs, Option.bind_eq_bind, Option.bind_some]
    rfl

/-- A list is decoded as it was written if its items are. -/
theorem listOf?_map {decode : Document → Option α} {form : α → Value} {xs : List α}
    (h : ∀ x ∈ xs, decode (ofValue (form x)) = some x) :
    listOf? decode (ofValue (.list (xs.map form))) = some xs := by
  have hlist : listOf? decode (.list (xs.map fun x => ofValue (form x))) = some xs := by
    rw [listOf?_list_map h, List.map_id']
  rw [ofValue_list, itemDocuments_eq_map, List.map_map]
  exact hlist

theorem listOf?_texts (ss : List String) : listOf? text? (ofValue (.texts ss)) = some ss :=
  listOf?_map fun _ _ => rfl

/-- A map of texts is decoded as it was written. -/
theorem mapOf?_textObject (d : Dictionary String) :
    mapOf? text? (ofValue (.textObject d)) = some d := by
  have hentries (es : List (String × String)) :
      mapEntries? text? (memberDocuments (es.map fun e => (e.1, .text e.2))) = some es := by
    induction es with
    | nil => rfl
    | cons e es ih =>
      simp only [List.map_cons, memberDocuments, mapEntries?, ofValue, text?, ih]
  rw [Value.textObject, ofValue, mapOf?, hentries, Option.map_some, d.ofList_entries]

/-- A text or none is decoded as it was written. -/
theorem nullable?_textOrNull (s : Option String) :
    (ofValue (.textOrNull s)).nullable? text? = some s := by
  cases s <;> rfl

/-- An optional part is decoded as it was written if it is, and if it is not written as `null`. -/
theorem nullable?_getD {decode : Document → Option α} {form : α → Value} {o : Option α}
    (h : ∀ x, o = some x → decode (ofValue (form x)) = some x)
    (hnull : ∀ x, ofValue (form x) ≠ .null) :
    (ofValue ((o.map form).getD .null)).nullable? decode = some o := by
  cases o with
  | none => rfl
  | some x =>
    rw [Option.map_some, Option.getD_some, nullable?_of_ne (hnull x), h x rfl]
    rfl

end Document

end AgentSandbox.Json
