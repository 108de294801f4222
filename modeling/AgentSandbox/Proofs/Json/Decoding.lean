import AgentSandbox.Proofs.Json.Shape

/-!
# Decoding documents without some of their fields

A decoder `Suits` a shape if exact removals make no difference to it and others do not make it fail.
It is enough that this holds for every field that it decodes (`suits_record`), and it then holds for
any `Edits` of whole documents.  A document `Lacks` a field that is not given, or `null`; the field
is then decoded as none (`Document.Lacks.optional`).
-/

namespace AgentSandbox.Json

variable {α β : Type} {exact : Bool} {R : Shape → Document → Document → Prop}

/-- What is decoded after a removal: the same if the removal is exact, and something in any case if
there was something before. -/
def Carries (exact : Bool) (x x' : Option α) : Prop :=
  match exact with
  | true => x = x'
  | false => x.isSome = true → x'.isSome = true

/-- The decoder suits documents of the shape. -/
def Shape.Suits (shape : Shape) (decode : Document → Option α) : Prop :=
  ∀ exact d d', Follows exact shape d d' → Carries exact (decode d) (decode d')

namespace Carries

theorem refl (exact : Bool) (x : Option α) : Carries exact x x := by
  cases exact with
  | true => exact rfl
  | false => exact id

theorem trans {x x' x'' : Option α} (h : Carries exact x x') (h' : Carries exact x' x'') :
    Carries exact x x'' := by
  cases exact with
  | true => exact Eq.trans h h'
  | false => exact fun hx => h' (h hx)

theorem of_none {x x' : Option α} (h : x = none) (h' : exact = true → x' = none) :
    Carries exact x x' := by
  subst h
  cases exact with
  | true => exact (h' rfl).symm
  | false => exact nofun

theorem some {a a' : α} (h : exact = true → a = a') :
    Carries exact (Option.some a) (Option.some a') := by
  cases exact with
  | true => exact congrArg Option.some (h rfl)
  | false => exact fun _ => rfl

theorem map {x x' : Option α} (h : Carries exact x x') (f : α → β) :
    Carries exact (x.map f) (x'.map f) := by
  cases exact with
  | true => exact congrArg (Option.map f) h
  | false => exact fun hx => by rw [Option.isSome_map] at hx ⊢; exact h hx

/-- A decoder that goes on with a part of what was decoded goes on in the same way. -/
theorem bind_of {γ : Type} {x x' : Option α} (f : α → γ) (h : Carries exact (x.map f) (x'.map f))
    {k k' : α → Option β} (hk : ∀ a a', (exact = true → f a = f a') → Carries exact (k a) (k' a')) :
    Carries exact (x.bind k) (x'.bind k') := by
  cases x with
  | none =>
    refine of_none rfl fun hexact => ?_
    subst hexact
    rw [Option.map_eq_none_iff.1 h.symm]
    rfl
  | some a =>
    cases x' with
    | none =>
      cases exact with
      | true => cases h
      | false => cases h rfl
    | some a' =>
      refine hk a a' fun hexact => ?_
      subst hexact
      exact Option.some.inj h

theorem bind {x x' : Option α} (h : Carries exact x x') {k k' : α → Option β}
    (hk : ∀ a a', (exact = true → a = a') → Carries exact (k a) (k' a')) :
    Carries exact (x.bind k) (x'.bind k') :=
  bind_of id (by rwa [Option.map_id_fun, id, id]) hk

end Carries

/-- There is nothing to remove in a scalar. -/
theorem suits_of_isScalar {shape : Shape} (hshape : shape.IsScalar)
    (decode : Document → Option α) : shape.Suits decode := by
  intro exact d d' h
  cases h with
  | refl => exact .refl exact _
  | _ => exact hshape.elim

theorem suits_text (decode : Document → Option α) : Shape.text.Suits decode :=
  suits_of_isScalar (by exact trivial) decode

theorem suits_mode (decode : Document → Option α) : Shape.mode.Suits decode :=
  suits_of_isScalar (by exact trivial) decode

theorem suits_flag (decode : Document → Option α) : Shape.flag.Suits decode :=
  suits_of_isScalar (by exact trivial) decode

theorem suits_count (decode : Document → Option α) : Shape.count.Suits decode :=
  suits_of_isScalar (by exact trivial) decode

theorem suits_listOf {shape : Shape} {decode : Document → Option α} (hdecode : shape.Suits decode) :
    (Shape.list shape).Suits (Document.listOf? decode) := by
  intro exact d d' h
  cases h with
  | refl => exact .refl exact _
  | @item _ before after e e' h =>
    simp only [Document.listOf?, List.mapM_append, List.mapM_cons]
    refine .bind (.refl exact _) fun as as' has => ?_
    refine .bind (.bind (hdecode exact e e' h) fun a a' ha => ?_) fun bs bs' hbs => ?_
    · refine .bind (.refl exact _) fun bs bs' hbs => .some fun hexact => ?_
      rw [ha hexact, hbs hexact]
    · exact .some fun hexact => by rw [has hexact, hbs hexact]

/-! ## Fields of records -/

/-- What is given for a field after a removal. -/
inductive FieldFollows (exact : Bool) (R : Shape → Document → Document → Prop) (shape : Shape)
    (zeroed : Bool) : Option Document → Option Document → Prop where
  | same (given : Option Document) : FieldFollows exact R shape zeroed given given
  | vacant {given : Option Document}
      (silent : exact = true → ∀ d, given = some d → SaysNothing shape zeroed d) :
      FieldFollows exact R shape zeroed given none
  | inside {d d' : Document} (h : R shape d d') :
      FieldFollows exact R shape zeroed (some d) (some d')

/-- What is given for the fields of a record after a removal. -/
def SlotsFollow (exact : Bool) (R : Shape → Document → Document → Prop)
    (slots : List (String × Shape × Bool)) (fs fs' : Fields) : Prop :=
  ∀ name shape zeroed, lookup? name slots = some (shape, zeroed) →
    FieldFollows exact R shape zeroed (lookup? name fs.given) (lookup? name fs'.given)

theorem FieldFollows.mono {R' : Shape → Document → Document → Prop} {shape : Shape} {zeroed : Bool}
    {given given' : Option Document} (h : FieldFollows exact R shape zeroed given given')
    (parts : ∀ shape e e', R shape e e' → R' shape e e') :
    FieldFollows exact R' shape zeroed given given' := by
  cases h with
  | same => exact .same given
  | vacant silent => exact .vacant silent
  | inside part => exact .inside (parts _ _ _ part)

theorem RecordFollows.fields {slots : List (String × Shape × Bool)} {d d' : Document}
    (h : RecordFollows exact R slots d d') :
    (d.fields? (fieldNames slots) = none ∧
        (exact = true → d'.fields? (fieldNames slots) = none)) ∨
      ∃ fs fs', d.fields? (fieldNames slots) = some fs ∧
        d'.fields? (fieldNames slots) = some fs' ∧ SlotsFollow exact R slots fs fs' := by
  cases h with
  | broken _ _ h h' => exact .inl ⟨h, h'⟩
  | unseen h h' same => exact .inr ⟨_, _, h, h', fun _ _ _ _ => same _ ▸ .same _⟩
  | @vacant name _ _ fs fs' slot h h' same silent removed =>
    refine .inr ⟨fs, fs', h, h', fun other shape zeroed hother => ?_⟩
    by_cases hname : other = name
    · subst hname
      cases slot.symm.trans hother
      rw [removed]
      exact .vacant silent
    · exact same other hname ▸ .same _
  | @inside name _ _ _ _ fs fs' slot h h' same given given' part =>
    refine .inr ⟨fs, fs', h, h', fun other shape zeroed hother => ?_⟩
    by_cases hname : other = name
    · subst hname
      cases slot.symm.trans hother
      rw [given, given']
      exact .inside part
    · exact same other hname ▸ .same _

theorem suits_record {slots : List (String × Shape × Bool)} {k : Fields → Option α}
    (hk : ∀ exact fs fs', SlotsFollow exact (Follows exact) slots fs fs' →
      Carries exact (k fs) (k fs')) :
    (Shape.record slots).Suits fun d => (d.fields? (fieldNames slots)).bind k := by
  intro exact d d' h
  cases h with
  | refl => exact .refl exact _
  | record parts h =>
    rcases h.fields with ⟨hd, hd'⟩ | ⟨fs, fs', hd, hd', hfs⟩
    · refine .of_none ?_ fun hexact => ?_
      · simp only [hd, Option.bind_none]
      · simp only [hd' hexact, Option.bind_none]
    · simp only [hd, hd', Option.bind_some]
      exact hk exact fs fs' fun name shape zeroed slot => (hfs name shape zeroed slot).mono parts

/-- A record is decoded alike with two documents for a field if what is decoded of its fields is
alike. -/
theorem bind_fields?_middle {names : List String} {name : String} (hname : name ∈ names)
    {before after : List (Option String × Document)} {d d' : Document} {k : Fields → Option α}
    (hk : ∀ gb ga, lookup? name gb = none →
      k ⟨gb ++ (name, d) :: ga, false⟩ = k ⟨gb ++ (name, d') :: ga, false⟩) :
    ((Document.record (before ++ (some name, d) :: after)).fields? names).bind k =
      ((Document.record (before ++ (some name, d') :: after)).fields? names).bind k := by
  simp only [Document.fields?, knownMembers?_middle hname, Option.bind_eq_bind]
  cases knownMembers? names before with
  | none => rfl
  | some gb =>
    cases knownMembers? names after with
    | none => rfl
    | some ga =>
      simp only [Option.map_some, Option.bind_some, distinctNames_middle]
      split
      · next hdistinct =>
        rw [Bool.and_eq_true, Bool.and_eq_true] at hdistinct
        exact hk gb ga (Option.isNone_iff_eq_none.1 hdistinct.1.1)
      · rfl

theorem nullable?_of_ne {d : Document} (h : d ≠ .null) (decode : Document → Option α) :
    d.nullable? decode = (decode d).map Option.some := by
  cases d with
  | null => exact absurd rfl h
  | _ => rfl

/-- Every part of a list was decoded from an item of it. -/
theorem Document.exists_of_mem_listOf? {decode : Document → Option α} {d : Document} {xs : List α}
    (h : listOf? decode d = Option.some xs) {x : α} (hx : x ∈ xs) :
    ∃ items, d = .list items ∧ ∃ item ∈ items, decode item = Option.some x := by
  cases d with
  | list items =>
    refine ⟨items, rfl, ?_⟩
    simp only [listOf?] at h
    induction items generalizing xs with
    | nil =>
      cases h
      cases hx
    | cons item items ih =>
      simp only [List.mapM_cons, Option.bind_eq_bind, Option.bind_eq_some_iff] at h
      obtain ⟨y, hy, ys, hys, ⟨⟩⟩ := h
      rcases List.mem_cons.1 hx with rfl | hx
      · exact ⟨item, List.mem_cons_self, hy⟩
      · obtain ⟨item', hmem, hitem'⟩ := ih hx hys
        exact ⟨item', List.mem_cons_of_mem _ hmem, hitem'⟩
  | _ => cases h

theorem Follows.eq_or_ne_null {shape : Shape} {d d' : Document} (h : Follows exact shape d d') :
    d = d' ∨ d ≠ .null ∧ d' ≠ .null := by
  have hfields {names : List String} {d : Document} {fs : Fields} (h : d.fields? names = some fs) :
      d ≠ .null := by
    rintro rfl
    cases h
  cases h with
  | refl => exact .inl rfl
  | item _ => exact .inr ⟨nofun, nofun⟩
  | record _ h =>
    cases h with
    | broken given given' _ _ => exact .inr ⟨given, given'⟩
    | unseen h h' _ => exact .inr ⟨hfields h, hfields h'⟩
    | vacant _ h h' _ _ _ => exact .inr ⟨hfields h, hfields h'⟩
    | inside _ h h' _ _ _ _ => exact .inr ⟨hfields h, hfields h'⟩

/-- An optional field is carried over if its zero value stands for the same as none. -/
theorem FieldFollows.optional_map {shape : Shape} {zeroed : Bool} {name : String} {fs fs' : Fields}
    (h : FieldFollows exact (Follows exact) shape zeroed (lookup? name fs.given)
      (lookup? name fs'.given))
    {decode : Document → Option α} (hdecode : shape.Suits decode) {f : Option α → β}
    (hzero : zeroed = true → ∀ d ∈ shape.zeros, ∃ a, decode d = some a ∧ f (some a) = f none) :
    Carries exact ((fs.optional name decode).map f) ((fs'.optional name decode).map f) := by
  unfold Fields.optional Fields.orDefault
  generalize lookup? name fs.given = given at h ⊢
  generalize lookup? name fs'.given = given' at h ⊢
  cases h with
  | same => exact .refl exact _
  | vacant silent =>
    rcases given with _ | d
    · exact .refl exact _
    cases exact with
    | false => exact fun _ => rfl
    | true =>
      by_cases hnull : d = .null
      · subst hnull
        exact .refl true _
      · rcases silent rfl d rfl with hd | ⟨hzeroed, hd⟩
        · exact absurd hd hnull
        · obtain ⟨a, ha, hf⟩ := hzero hzeroed d hd
          simp only [nullable?_of_ne hnull, ha, Option.map_some, hf]
          exact .refl true _
  | @inside d d' h =>
    rcases h.eq_or_ne_null with rfl | ⟨hd, hd'⟩
    · exact .refl exact _
    · simp only [nullable?_of_ne hd, nullable?_of_ne hd', Option.map_map]
      exact (hdecode exact d d' h).map _

namespace SlotsFollow

variable {slots : List (String × Shape × Bool)} {fs fs' : Fields}
  (h : SlotsFollow exact (Follows exact) slots fs fs') {name : String}

include h

theorem optional_of {shape : Shape} {zeroed : Bool} {decode : Document → Option α}
    (slot : lookup? name slots = some (shape, zeroed)) (hdecode : shape.Suits decode)
    (f : Option α → β)
    (hzero : zeroed = true → ∀ d ∈ shape.zeros, ∃ a, decode d = some a ∧ f (some a) = f none) :
    Carries exact ((fs.optional name decode).map f) ((fs'.optional name decode).map f) :=
  (h _ _ _ slot).optional_map hdecode hzero

theorem optional {shape : Shape} {decode : Document → Option α}
    (slot : lookup? name slots = some (shape, false)) (hdecode : shape.Suits decode) :
    Carries exact (fs.optional name decode) (fs'.optional name decode) := by
  have hid := h.optional_of slot hdecode id nofun
  rwa [Option.map_id_fun, id, id] at hid

theorem text_of (slot : lookup? name slots = some (.text, true)) (f : Option String → β)
    (hempty : f (some "") = f none) :
    Carries exact ((fs.optional name Document.text?).map f)
      ((fs'.optional name Document.text?).map f) := by
  refine h.optional_of slot (suits_text _) f fun _ d hd => ?_
  obtain rfl := List.mem_singleton.1 hd
  exact ⟨"", rfl, hempty⟩

end SlotsFollow

/-! ## Fields that are lacking -/

/-- The document has no field at the end of the path: on the way there a field is not given, or
`null`. -/
def Document.Lacks : List String → Document → Prop
  | name :: path, .record ms => ∀ m ∈ ms, m.1 = some name → m.2 = .null ∨ m.2.Lacks path
  | _, _ => False

theorem Document.Lacks.of_lookup? {name : String} {path : List String} {d : Document}
    (h : d.Lacks (name :: path)) {names : List String} {fs : Fields}
    (hfs : d.fields? names = some fs) {e : Document} (he : lookup? name fs.given = some e) :
    e = .null ∨ e.Lacks path := by
  cases d with
  | record ms =>
    simp only [Document.fields?, Option.bind_eq_bind] at hfs
    obtain ⟨given, hgiven, hfs⟩ := Option.bind_eq_some_iff.1 hfs
    split at hfs
    · cases hfs
      exact h _ (mem_of_knownMembers? hgiven (mem_of_lookup? he)) rfl
    · cases hfs
  | _ => exact h.elim

/-- A field that is lacking is decoded as none. -/
theorem Document.Lacks.optional {α : Type} {name : String} {d : Document} (h : d.Lacks [name])
    {names : List String} {fs : Fields} (hfs : d.fields? names = some fs)
    (decode : Document → Option α) : fs.optional name decode = some none := by
  unfold Fields.optional Fields.orDefault
  cases hgiven : lookup? name fs.given with
  | none => rfl
  | some e =>
    rcases h.of_lookup? hfs hgiven with rfl | hlacks
    · rfl
    · cases e <;> exact hlacks.elim

/-! ## Changes to whole documents -/

/-- Exact removals make no difference to the decoder, and others do not make it fail. -/
def Shape.Bears (shape : Shape) (decode : Document → Option α) : Prop :=
  ∀ exact d d', Removal exact shape d d' → Carries exact (decode d) (decode d')

theorem Shape.Suits.bears {shape : Shape} {decode : Document → Option α}
    (h : shape.Suits decode) : shape.Bears decode :=
  fun exact d d' hremoval => h exact d d' hremoval.follows

/-- Some fields are removed or added, one after the other; those that are added say nothing. -/
inductive Edits (exact : Bool) (shape : Shape) : Document → Document → Prop where
  | refl (d : Document) : Edits exact shape d d
  | remove {d d' d'' : Document} (h : Removal exact shape d d') (rest : Edits exact shape d' d'') :
      Edits exact shape d d''
  | add {d d' d'' : Document} (h : Removal true shape d' d) (rest : Edits exact shape d' d'') :
      Edits exact shape d d''

theorem Edits.carries {shape : Shape} {decode : Document → Option α} (hdecode : shape.Bears decode)
    {d d' : Document} (h : Edits exact shape d d') : Carries exact (decode d) (decode d') := by
  induction h with
  | refl d => exact .refl exact _
  | remove h _ ih => exact (hdecode _ _ _ h).trans ih
  | @add d d' _ h _ ih =>
    have hsame : decode d' = decode d := hdecode true _ _ h
    rwa [← hsame]

end AgentSandbox.Json
