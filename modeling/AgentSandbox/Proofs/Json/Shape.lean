import AgentSandbox.Json.Record

/-!
# Documents without some of their fields

A `Shape` says which fields the records in a document have and what a field that is not given stands
for.  `Removal` takes one field out of a document of a shape, anywhere in it: an unknown one, or a
known one, which says nothing if the removal is to be `exact`.  `Follows` is what is left of this
for a decoder (`Removal.follows`), and `RecordFollows` is its case of records.
-/

namespace AgentSandbox.Json

/-- The parts of a document that a decoder looks at.  A field of a record has a name and a shape;
the flag says whether it stands for the zero value of its type when it is not given, or for none. -/
inductive Shape where
  | text
  /-- The name of a network mode. -/
  | mode
  | flag
  | count
  | list (item : Shape)
  | record (slots : List (String × Shape × Bool))

/-- Documents of the shape have no parts. -/
def Shape.IsScalar : Shape → Prop
  | .list _ => False
  | .record _ => False
  | _ => True

/-- The documents that are the zero value of the type. -/
def Shape.zeros : Shape → List Document
  | .text => [.text ""]
  | .mode => [.text "", .text "PUBLIC"]
  | .flag => [.bool false]
  | .count => [.number (.int 0)]
  | .list _ => [.list []]
  | .record _ => [.record []]

/-- A field with this document stands for the same as one that is not given. -/
def SaysNothing (shape : Shape) (zeroed : Bool) (d : Document) : Prop :=
  d = .null ∨ zeroed = true ∧ d ∈ shape.zeros

/-- The second document is the first one without one field somewhere.  A known field that is removed
stands only once; if the removal is exact, it says nothing.  An unknown field that is removed is a
text or `null`. -/
inductive Removal (exact : Bool) : Shape → Document → Document → Prop where
  | known {slots : List (String × Shape × Bool)} {name : String} {shape : Shape} {zeroed : Bool}
      {before after : List (Option String × Document)} {d : Document}
      (slot : lookup? name slots = some (shape, zeroed))
      (once : ∀ m ∈ before ++ after, m.1 ≠ some name)
      (silent : exact = true → SaysNothing shape zeroed d) :
      Removal exact (.record slots) (.record (before ++ (some name, d) :: after))
        (.record (before ++ after))
  | unknown {slots : List (String × Shape × Bool)} {name : String}
      {before after : List (Option String × Document)} {d : Document}
      (slot : lookup? name slots = none) (plain : d = .null ∨ ∃ s, d = .text s) :
      Removal exact (.record slots) (.record (before ++ (some name, d) :: after))
        (.record (before ++ after))
  | inside {slots : List (String × Shape × Bool)} {name : String} {shape : Shape} {zeroed : Bool}
      {before after : List (Option String × Document)} {d d' : Document}
      (slot : lookup? name slots = some (shape, zeroed)) (h : Removal exact shape d d') :
      Removal exact (.record slots) (.record (before ++ (some name, d) :: after))
        (.record (before ++ (some name, d') :: after))
  /-- A record may be given as the list of its fields. -/
  | position {front back : List (String × Shape × Bool)} {name : String} {shape : Shape}
      {zeroed : Bool} {before after : List Document} {d d' : Document}
      (first : lookup? name front = none) (length : before.length = front.length)
      (h : Removal exact shape d d') :
      Removal exact (.record (front ++ (name, shape, zeroed) :: back)) (.list (before ++ d :: after))
        (.list (before ++ d' :: after))
  | item {shape : Shape} {before after : List Document} {d d' : Document}
      (h : Removal exact shape d d') :
      Removal exact (.list shape) (.list (before ++ d :: after)) (.list (before ++ d' :: after))

/-! ## What a decoder sees of a removal -/

/-- The names of the fields of a record. -/
def fieldNames (slots : List (String × Shape × Bool)) : List String := slots.map (·.1)

/-- What is left of a removal from a record for a decoder that looks at its fields: `R` relates a
field that stands in both records. -/
inductive RecordFollows (exact : Bool) (R : Shape → Document → Document → Prop)
    (slots : List (String × Shape × Bool)) (d d' : Document) : Prop where
  | broken (given : d ≠ .null) (given' : d' ≠ .null) (h : d.fields? (fieldNames slots) = none)
      (h' : exact = true → d'.fields? (fieldNames slots) = none) : RecordFollows exact R slots d d'
  | unseen {fs fs' : Fields}
      (h : d.fields? (fieldNames slots) = some fs) (h' : d'.fields? (fieldNames slots) = some fs')
      (same : ∀ other, lookup? other fs.given = lookup? other fs'.given) :
      RecordFollows exact R slots d d'
  | vacant {name : String} {shape : Shape} {zeroed : Bool} {fs fs' : Fields}
      (slot : lookup? name slots = some (shape, zeroed))
      (h : d.fields? (fieldNames slots) = some fs) (h' : d'.fields? (fieldNames slots) = some fs')
      (same : ∀ other, other ≠ name → lookup? other fs.given = lookup? other fs'.given)
      (silent : exact = true → ∀ e, lookup? name fs.given = some e → SaysNothing shape zeroed e)
      (removed : lookup? name fs'.given = none) : RecordFollows exact R slots d d'
  | inside {name : String} {shape : Shape} {zeroed : Bool} {e e' : Document} {fs fs' : Fields}
      (slot : lookup? name slots = some (shape, zeroed))
      (h : d.fields? (fieldNames slots) = some fs) (h' : d'.fields? (fieldNames slots) = some fs')
      (same : ∀ other, other ≠ name → lookup? other fs.given = lookup? other fs'.given)
      (given : lookup? name fs.given = some e) (given' : lookup? name fs'.given = some e')
      (part : R shape e e') : RecordFollows exact R slots d d'

/-- A decoder of the shape that decodes the first document decodes the second one too, and decodes
the same if `exact`. -/
inductive Follows (exact : Bool) : Shape → Document → Document → Prop where
  | refl (shape : Shape) (d : Document) : Follows exact shape d d
  | item {shape : Shape} {before after : List Document} {d d' : Document}
      (h : Follows exact shape d d') :
      Follows exact (.list shape) (.list (before ++ d :: after)) (.list (before ++ d' :: after))
  | record {R : Shape → Document → Document → Prop} {slots : List (String × Shape × Bool)}
      {d d' : Document} (parts : ∀ shape e e', R shape e e' → Follows exact shape e e')
      (h : RecordFollows exact R slots d d') : Follows exact (.record slots) d d'

theorem knownMembers?_append (known : List String) (ms ms' : List (Option String × Document)) :
    knownMembers? known (ms ++ ms') =
      (knownMembers? known ms).bind fun given => (knownMembers? known ms').map (given ++ ·) := by
  induction ms with
  | nil =>
    rw [List.nil_append, knownMembers?, Option.bind_some]
    simp
  | cons m ms ih =>
    rcases m with ⟨_ | name, d⟩
    · rfl
    · simp only [List.cons_append, knownMembers?, ih]
      cases knownMembers? known ms with
      | none => rfl
      | some given =>
        simp only [Option.bind_some, Option.map_some]
        cases knownMembers? known ms' with
        | none => rfl
        | some given' =>
          simp only [Option.map_some]
          split <;> rfl

theorem knownMembers?_middle {known : List String} {name : String} (hname : name ∈ known)
    (before after : List (Option String × Document)) (d : Document) :
    knownMembers? known (before ++ (some name, d) :: after) =
      (knownMembers? known before).bind fun given =>
        (knownMembers? known after).map fun given' => given ++ (name, d) :: given' := by
  have hcontains : known.contains name = true := List.contains_iff_mem.2 hname
  rw [knownMembers?_append, knownMembers?]
  simp only [hcontains, if_true, Option.map_map]
  rfl

theorem mem_of_knownMembers? {known : List String} {ms : List (Option String × Document)}
    {given : List (String × Document)} (h : knownMembers? known ms = some given)
    {e : String × Document} (he : e ∈ given) : (some e.1, e.2) ∈ ms := by
  induction ms generalizing given with
  | nil =>
    cases h
    exact absurd he List.not_mem_nil
  | cons m ms ih =>
    rcases m with ⟨_ | name, d⟩
    · cases h
    obtain ⟨rest, hrest, rfl⟩ := Option.map_eq_some_iff.1 h
    split at he
    · rcases List.mem_cons.1 he with rfl | he
      · exact List.mem_cons_self
      · exact List.mem_cons_of_mem _ (ih hrest he)
    · exact List.mem_cons_of_mem _ (ih hrest he)

theorem lookup?_eq_none_of_knownMembers? {known : List String}
    {ms : List (Option String × Document)} {given : List (String × Document)}
    (h : knownMembers? known ms = some given) {name : String} (hname : ∀ m ∈ ms, m.1 ≠ some name) :
    lookup? name given = none :=
  lookup?_eq_none fun _ he heq => hname _ (mem_of_knownMembers? h he) (congrArg some heq.symm)

theorem distinctNames_middle (ms ms' : List (String × Document)) (name : String) (d : Document) :
    distinctNames (ms ++ (name, d) :: ms') =
      ((lookup? name ms).isNone && (lookup? name ms').isNone && distinctNames (ms ++ ms')) := by
  induction ms with
  | nil => simp only [List.nil_append, distinctNames, lookup?, Option.isNone_none, Bool.true_and]
  | cons m ms ih =>
    simp only [List.cons_append, distinctNames, ih, lookup?_append, lookup?]
    by_cases h : name = m.1
    · subst h
      simp
    · have h' : m.1 ≠ name := fun heq => h heq.symm
      simp only [if_neg h, if_neg h', Bool.and_assoc, Bool.and_left_comm]

/-! ## Removals are followed -/

variable {exact : Bool} {R : Shape → Document → Document → Prop}

theorem mem_fieldNames {slots : List (String × Shape × Bool)} {name : String} {x : Shape × Bool}
    (h : lookup? name slots = some x) : name ∈ fieldNames slots := by
  induction slots with
  | nil => cases h
  | cons slot slots ih =>
    rw [lookup?] at h
    split at h
    · next heq => exact heq ▸ List.mem_cons_self
    · exact List.mem_cons_of_mem _ (ih h)

theorem not_mem_fieldNames {slots : List (String × Shape × Bool)} {name : String}
    (h : lookup? name slots = none) : name ∉ fieldNames slots := by
  induction slots with
  | nil => exact List.not_mem_nil
  | cons slot slots ih =>
    rw [lookup?] at h
    split at h
    · cases h
    · next hne => exact fun hmem => (List.mem_cons.1 hmem).elim hne (ih h)

theorem Removal.ne_null {shape : Shape} {d d' : Document} (h : Removal exact shape d d') :
    d ≠ .null ∧ d' ≠ .null := by
  cases h <;> exact ⟨nofun, nofun⟩

theorem lookup?_middle {α : Type} {other name : String} (h : other ≠ name)
    (es es' : List (String × α)) (x : α) :
    lookup? other (es ++ (name, x) :: es') = lookup? other (es ++ es') := by
  rw [lookup?_append, lookup?, if_neg h, lookup?_append]

theorem lookup?_middle_self {α : Type} {name : String} {es : List (String × α)}
    (h : lookup? name es = none) (es' : List (String × α)) (x : α) :
    lookup? name (es ++ (name, x) :: es') = some x := by
  rw [lookup?_append, h, lookup?, if_pos rfl]
  rfl

/-- Two records of which the same names are known follow each other as their fields do. -/
theorem recordFollows_record {slots : List (String × Shape × Bool)}
    {ms ms' : List (Option String × Document)}
    (hnone : knownMembers? (fieldNames slots) ms = none →
      knownMembers? (fieldNames slots) ms' = none)
    (hsome : ∀ given, knownMembers? (fieldNames slots) ms = some given →
      ∃ given', knownMembers? (fieldNames slots) ms' = some given' ∧
        distinctNames given' = distinctNames given ∧
        (distinctNames given = true →
          (Document.record ms).fields? (fieldNames slots) = some ⟨given, false⟩ →
          (Document.record ms').fields? (fieldNames slots) = some ⟨given', false⟩ →
          RecordFollows exact R slots (.record ms) (.record ms'))) :
    RecordFollows exact R slots (.record ms) (.record ms') := by
  cases hgiven : knownMembers? (fieldNames slots) ms with
  | none =>
    refine .broken nofun nofun ?_ fun _ => ?_
    · simp only [Document.fields?, hgiven, Option.bind_eq_bind, Option.bind_none]
    · simp only [Document.fields?, hnone hgiven, Option.bind_eq_bind, Option.bind_none]
  | some given =>
    obtain ⟨given', hgiven', hdistinct, hfollows⟩ := hsome given hgiven
    cases hd : distinctNames given with
    | false =>
      refine .broken nofun nofun ?_ fun _ => ?_
      · simp [Document.fields?, hgiven, hd]
      · simp [Document.fields?, hgiven', hdistinct, hd]
    | true =>
      refine hfollows hd ?_ ?_
      · simp [Document.fields?, hgiven, hd]
      · simp [Document.fields?, hgiven', hdistinct, hd]

theorem recordFollows_of_known {slots : List (String × Shape × Bool)} {name : String} {shape : Shape}
    {zeroed : Bool} {before after : List (Option String × Document)} {d : Document}
    (slot : lookup? name slots = some (shape, zeroed))
    (once : ∀ m ∈ before ++ after, m.1 ≠ some name)
    (silent : exact = true → SaysNothing shape zeroed d) :
    RecordFollows exact R slots (.record (before ++ (some name, d) :: after))
      (.record (before ++ after)) := by
  refine recordFollows_record (fun h => ?_) fun given h => ?_
  · rw [knownMembers?_middle (mem_fieldNames slot)] at h
    rw [knownMembers?_append]
    cases hbefore : knownMembers? (fieldNames slots) before with
    | none => rfl
    | some gb =>
      rw [hbefore, Option.bind_some] at h
      rw [Option.bind_some, Option.map_eq_none_iff.1 h]
      rfl
  · rw [knownMembers?_middle (mem_fieldNames slot)] at h
    obtain ⟨gb, hbefore, h⟩ := Option.bind_eq_some_iff.1 h
    obtain ⟨ga, hafter, rfl⟩ := Option.map_eq_some_iff.1 h
    have hgb : lookup? name gb = none :=
      lookup?_eq_none_of_knownMembers? hbefore fun m hm => once m (List.mem_append_left _ hm)
    have hga : lookup? name ga = none :=
      lookup?_eq_none_of_knownMembers? hafter fun m hm => once m (List.mem_append_right _ hm)
    refine ⟨gb ++ ga, ?_, ?_, fun _ hd hd' => ?_⟩
    · rw [knownMembers?_append, hbefore, hafter]
      rfl
    · rw [distinctNames_middle, hgb, hga]
      rfl
    · refine .vacant slot hd hd' (fun other hother => lookup?_middle hother gb ga d) ?_ ?_
      · intro hexact e he
        rw [lookup?_middle_self hgb] at he
        exact Option.some.inj he ▸ silent hexact
      · rw [lookup?_append, hgb, hga]
        rfl

theorem recordFollows_of_unknown {slots : List (String × Shape × Bool)} {name : String}
    (slot : lookup? name slots = none) (before after : List (Option String × Document))
    (d : Document) :
    RecordFollows exact R slots (.record (before ++ (some name, d) :: after))
      (.record (before ++ after)) := by
  have hsame : knownMembers? (fieldNames slots) (before ++ (some name, d) :: after) =
      knownMembers? (fieldNames slots) (before ++ after) := by
    have hcontains : (fieldNames slots).contains name = false := by
      simpa using not_mem_fieldNames slot
    rw [knownMembers?_append, knownMembers?_append, knownMembers?]
    simp only [hcontains, Bool.false_eq_true, if_false, Option.map_id']
  refine recordFollows_record (fun h => hsame ▸ h) fun given h => ?_
  exact ⟨given, hsame ▸ h, rfl, fun _ hd hd' => .unseen hd hd' fun _ => rfl⟩

theorem recordFollows_of_inside {slots : List (String × Shape × Bool)} {name : String} {shape : Shape}
    {zeroed : Bool} {before after : List (Option String × Document)} {d d' : Document}
    (slot : lookup? name slots = some (shape, zeroed)) (h : R shape d d') :
    RecordFollows exact R slots (.record (before ++ (some name, d) :: after))
      (.record (before ++ (some name, d') :: after)) := by
  have hmem := mem_fieldNames slot
  refine recordFollows_record (fun h => ?_) fun given hgiven => ?_
  · rw [knownMembers?_middle hmem] at h ⊢
    cases hbefore : knownMembers? (fieldNames slots) before with
    | none => rfl
    | some gb =>
      rw [hbefore, Option.bind_some] at h
      rw [Option.bind_some, Option.map_eq_none_iff.1 h]
      rfl
  · rw [knownMembers?_middle hmem] at hgiven
    obtain ⟨gb, hbefore, hgiven⟩ := Option.bind_eq_some_iff.1 hgiven
    obtain ⟨ga, hafter, rfl⟩ := Option.map_eq_some_iff.1 hgiven
    refine ⟨gb ++ (name, d') :: ga, ?_, ?_, fun hdistinct hd hd' => ?_⟩
    · rw [knownMembers?_middle hmem, hbefore, hafter]
      rfl
    · rw [distinctNames_middle, distinctNames_middle]
    · rw [distinctNames_middle, Bool.and_eq_true, Bool.and_eq_true] at hdistinct
      have hgb : lookup? name gb = none := Option.isNone_iff_eq_none.1 hdistinct.1.1
      refine .inside slot hd hd' (fun other hother => ?_) (lookup?_middle_self hgb ga d)
        (lookup?_middle_self hgb ga d') h
      rw [lookup?_middle hother, lookup?_middle hother]

theorem lookup?_zip_eq_none {name : String} {slots : List (String × Shape × Bool)}
    (h : lookup? name slots = none) (ds : List Document) :
    lookup? name ((fieldNames slots).zip ds) = none := by
  refine lookup?_eq_none fun e he heq => not_mem_fieldNames h ?_
  exact heq ▸ (List.of_mem_zip he).1

theorem recordFollows_of_position {front back : List (String × Shape × Bool)} {name : String}
    {shape : Shape} {zeroed : Bool} {before after : List Document} {d d' : Document}
    (first : lookup? name front = none) (length : before.length = front.length)
    (h : R shape d d') :
    RecordFollows exact R (front ++ (name, shape, zeroed) :: back) (.list (before ++ d :: after))
      (.list (before ++ d' :: after)) := by
  have hzip (x : Document) :
      (fieldNames (front ++ (name, shape, zeroed) :: back)).zip (before ++ x :: after) =
        (fieldNames front).zip before ++ (name, x) :: (fieldNames back).zip after := by
    rw [fieldNames, List.map_append, List.zip_append (by rw [List.length_map, length])]
    rfl
  have hfields (x : Document) : (Document.list (before ++ x :: after)).fields?
      (fieldNames (front ++ (name, shape, zeroed) :: back)) =
        if (before ++ x :: after).length ≤
            (fieldNames (front ++ (name, shape, zeroed) :: back)).length then
          some ⟨(fieldNames front).zip before ++ (name, x) :: (fieldNames back).zip after, true⟩
        else none := by
    rw [Document.fields?, hzip]
  have hsame : (before ++ d' :: after).length = (before ++ d :: after).length := by
    simp only [List.length_append, List.length_cons]
  have hnone := lookup?_zip_eq_none first before
  by_cases hle : (before ++ d :: after).length ≤
      (fieldNames (front ++ (name, shape, zeroed) :: back)).length
  · refine .inside (lookup?_middle_self first back _) ((hfields d).trans (if_pos hle))
      ((hfields d').trans (if_pos (hsame ▸ hle))) (fun other hother => ?_)
      (lookup?_middle_self hnone _ d) (lookup?_middle_self hnone _ d') h
    rw [lookup?_middle hother, lookup?_middle hother]
  · exact .broken nofun nofun ((hfields d).trans (if_neg hle))
      fun _ => (hfields d').trans (if_neg (hsame ▸ hle))

/-- A removal from a record removes one of its fields, or a part of one. -/
theorem Removal.recordFollows {slots : List (String × Shape × Bool)} {d d' : Document}
    (h : Removal exact (.record slots) d d') : RecordFollows exact (Removal exact) slots d d' := by
  cases h with
  | known slot once silent => exact recordFollows_of_known slot once silent
  | unknown slot plain => exact recordFollows_of_unknown slot _ _ _
  | inside slot h => exact recordFollows_of_inside slot h
  | position first length h => exact recordFollows_of_position first length h

theorem Follows.of_record {slots : List (String × Shape × Bool)} {d d' : Document}
    (h : RecordFollows exact (Follows exact) slots d d') : Follows exact (.record slots) d d' :=
  .record (fun _ _ _ part => part) h

theorem Removal.follows {shape : Shape} {d d' : Document} (h : Removal exact shape d d') :
    Follows exact shape d d' := by
  induction h with
  | known slot once silent => exact .of_record (recordFollows_of_known slot once silent)
  | unknown slot plain => exact .of_record (recordFollows_of_unknown slot _ _ _)
  | inside slot _ ih => exact .of_record (recordFollows_of_inside slot ih)
  | position first length _ ih => exact .of_record (recordFollows_of_position first length ih)
  | item _ ih => exact .item ih

end AgentSandbox.Json
