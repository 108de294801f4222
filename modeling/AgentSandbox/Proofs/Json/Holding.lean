import AgentSandbox.Proofs.Dictionary
import AgentSandbox.Proofs.Json.Decoding

/-!
# Documents of a shape

`Shape.Holds` says which documents are of a shape, without a word about decoding: a record may lack
any of its fields, and any of them may be `null`, but none may stand twice.  A decoder that
`Shape.Decides` a shape decodes exactly the documents of the shape.  For a record it is enough that it
looks at every field in turn and never fails on its own (`Fields.Decodes`).
-/

namespace AgentSandbox.Json

/-- The document is of the shape: every known part of it is, or is `null` in a record. -/
inductive Shape.Holds : Shape → Document → Prop where
  | text (s : String) : Holds .text (.text s)
  | mode (s : String) : Holds .mode (.text s)
  | flag (b : Bool) : Holds .flag (.bool b)
  | count (n : Nat) : Holds .count (.number (.int n))
  | list {item : Shape} {items : List Document} (parts : ∀ d ∈ items, Holds item d) :
      Holds (.list item) (.list items)
  | record {slots : List (String × Shape × Bool)} {ms : List (Option String × Document)}
      (named : ∀ m ∈ ms, m.1 ≠ none)
      (once : ∀ name ∈ fieldNames slots, (ms.map (·.1)).count (some name) ≤ 1)
      (parts : ∀ slot ∈ slots, ∀ d, (some slot.1, d) ∈ ms → d ≠ .null → Holds slot.2.1 d) :
      Holds (.record slots) (.record ms)
  /-- A record may be given as the list of its fields, from the first one on. -/
  | positional {slots : List (String × Shape × Bool)} {items : List Document}
      (short : items.length ≤ slots.length)
      (parts : ∀ p ∈ slots.zip items, p.2 ≠ .null → Holds p.1.2.1 p.2) :
      Holds (.record slots) (.list items)

/-- The fields that are given are of the shapes of their slots, or `null`. -/
def Fields.Hold (fs : Fields) (slots : List (String × Shape × Bool)) : Prop :=
  ∀ slot ∈ slots, ∀ d, lookup? slot.1 fs.given = some d → d ≠ .null → slot.2.1.Holds d

section

variable {slots : List (String × Shape × Bool)}

theorem named_of_knownMembers? {known : List String} {ms : List (Option String × Document)}
    {given : List (String × Document)} (h : knownMembers? known ms = some given) :
    ∀ m ∈ ms, m.1 ≠ none := by
  induction ms generalizing given with
  | nil => exact fun m hm => absurd hm List.not_mem_nil
  | cons m ms ih =>
    rcases m with ⟨_ | name, d⟩
    · cases h
    · obtain ⟨rest, hrest, -⟩ := Option.map_eq_some_iff.1 h
      exact List.forall_mem_cons.2 ⟨nofun, ih hrest⟩

/-- The members with a known name are given if every member has a name. -/
theorem exists_knownMembers? {known : List String} {ms : List (Option String × Document)}
    (h : ∀ m ∈ ms, m.1 ≠ none) :
    ∃ given, knownMembers? known ms = some given ∧ ∀ e ∈ given, e.1 ∈ known := by
  induction ms with
  | nil => exact ⟨[], rfl, fun e he => absurd he List.not_mem_nil⟩
  | cons m ms ih =>
    obtain ⟨hm, hms⟩ := List.forall_mem_cons.1 h
    obtain ⟨given, hgiven, hknown⟩ := ih hms
    rcases m with ⟨_ | name, d⟩
    · exact absurd rfl hm
    simp only [knownMembers?, hgiven, Option.map_some]
    refine ⟨_, rfl, fun e he => ?_⟩
    split at he
    · next hname =>
      rcases List.mem_cons.1 he with rfl | he
      · exact List.contains_iff_mem.1 hname
      · exact hknown e he
    · exact hknown e he

/-- A known name is given as often as it stands in the record, and with the same parts. -/
theorem given_of_knownMembers? {known : List String} {ms : List (Option String × Document)}
    {given : List (String × Document)} (h : knownMembers? known ms = some given) {name : String}
    (hname : name ∈ known) :
    (∀ d, (some name, d) ∈ ms → (name, d) ∈ given) ∧
      (given.map (·.1)).count name = (ms.map (·.1)).count (some name) := by
  induction ms generalizing given with
  | nil =>
    cases h
    exact ⟨fun d hd => absurd hd List.not_mem_nil, rfl⟩
  | cons m ms ih =>
    rcases m with ⟨_ | other, e⟩
    · cases h
    obtain ⟨rest, hrest, rfl⟩ := Option.map_eq_some_iff.1 h
    obtain ⟨hmem, hcount⟩ := ih hrest
    by_cases hother : other ∈ known
    · rw [if_pos (List.contains_iff_mem.2 hother)]
      refine ⟨fun d hd => ?_, ?_⟩
      · rcases List.mem_cons.1 hd with hd | hd
        · cases hd
          exact List.mem_cons_self
        · exact List.mem_cons_of_mem _ (hmem d hd)
      · simp only [List.map_cons, List.count_cons, hcount, beq_iff_eq, Option.some.injEq]
    · have hne : other ≠ name := fun heq => hother (heq ▸ hname)
      rw [if_neg (mt List.contains_iff_mem.1 hother)]
      refine ⟨fun d hd => ?_, ?_⟩
      · rcases List.mem_cons.1 hd with hd | hd
        · cases hd
          exact absurd rfl hne
        · exact hmem d hd
      · simp only [List.map_cons, List.count_cons, hcount, beq_iff_eq, Option.some.injEq, hne,
          if_false, Nat.add_zero]

theorem distinctNames_iff (es : List (String × Document)) :
    distinctNames es = true ↔ (es.map (·.1)).Nodup := by
  induction es with
  | nil => exact ⟨fun _ => .nil, fun _ => rfl⟩
  | cons e es ih =>
    rw [distinctNames, Bool.and_eq_true, Option.isNone_iff_eq_none, lookup?_eq_none_iff, ih,
      List.map_cons, List.nodup_cons]

/-- Every member has a name, and no known name stands twice. -/
structure Names (known : List String) (ms : List (Option String × Document)) : Prop where
  named : ∀ m ∈ ms, m.1 ≠ none
  once : ∀ name ∈ known, (ms.map (·.1)).count (some name) ≤ 1

theorem fields?_record {known : List String} {ms : List (Option String × Document)}
    {given : List (String × Document)} (h : knownMembers? known ms = some given) :
    (Document.record ms).fields? known =
      if distinctNames given then some ⟨given, false⟩ else none := by
  simp only [Document.fields?, h, Option.bind_eq_bind, Option.bind_some]

/-- The known names are those of the fields of a record. -/
theorem Names.exists_fields? {known : List String} {ms : List (Option String × Document)}
    (h : Names known ms) :
    ∃ fs, (Document.record ms).fields? known = some fs ∧
      ∀ name ∈ known, ∀ d, lookup? name fs.given = some d ↔ (some name, d) ∈ ms := by
  obtain ⟨given, hgiven, hknown⟩ :
      ∃ given, knownMembers? known ms = some given ∧ ∀ e ∈ given, e.1 ∈ known :=
    exists_knownMembers? h.named
  have hnodup : (given.map (·.1)).Nodup := by
    refine List.nodup_iff_count.2 fun name => ?_
    by_cases hname : name ∈ known
    · rw [(given_of_knownMembers? hgiven hname).2]
      exact h.once name hname
    · have hnone : name ∉ given.map (·.1) := by
        intro hmem
        obtain ⟨e, he, rfl⟩ := List.mem_map.1 hmem
        exact hname (hknown e he)
      rw [List.count_eq_zero.2 hnone]
      exact Nat.zero_le _
  refine ⟨⟨given, false⟩, ?_, fun name hname d => ⟨fun hd => ?_, fun hd => ?_⟩⟩
  · rw [fields?_record hgiven, if_pos ((distinctNames_iff _).2 hnodup)]
  · exact mem_of_knownMembers? hgiven (mem_of_lookup? hd)
  · exact lookup?_of_nodup hnodup ((given_of_knownMembers? hgiven hname).1 d hd)

theorem names_of_fields? {known : List String} {ms : List (Option String × Document)} {fs : Fields}
    (h : (Document.record ms).fields? known = some fs) : Names known ms := by
  cases hgiven : knownMembers? known ms with
  | none => simp [Document.fields?, hgiven] at h
  | some given =>
    rw [fields?_record hgiven] at h
    split at h
    · next hdistinct =>
      refine ⟨named_of_knownMembers? hgiven, fun name hname => ?_⟩
      rw [← (given_of_knownMembers? hgiven hname).2]
      exact List.nodup_iff_count.1 ((distinctNames_iff _).1 hdistinct) name
    · cases h

theorem holds_record_iff_of_record (ms : List (Option String × Document)) :
    (Shape.record slots).Holds (.record ms) ↔
      ∃ fs, (Document.record ms).fields? (fieldNames slots) = some fs ∧ fs.Hold slots := by
  have hname {slot : String × Shape × Bool} (hslot : slot ∈ slots) : slot.1 ∈ fieldNames slots :=
    List.mem_map_of_mem hslot
  constructor
  · rintro (_ | _ | _ | _ | _ | ⟨named, once, parts⟩)
    obtain ⟨fs, hfs, hlookup⟩ := Names.exists_fields? ⟨named, once⟩
    exact ⟨fs, hfs, fun slot hslot d hd => parts slot hslot d ((hlookup _ (hname hslot) d).1 hd)⟩
  · rintro ⟨fs, hfs, hholds⟩
    have hnames := names_of_fields? hfs
    obtain ⟨fs', hfs', hlookup⟩ := hnames.exists_fields?
    cases hfs.symm.trans hfs'
    exact .record hnames.named hnames.once fun slot hslot d hd =>
      hholds slot hslot d ((hlookup _ (hname hslot) d).2 hd)

/-- The fields that are given by position are those beside their slots. -/
theorem hold_zip_iff (hslots : (fieldNames slots).Nodup) (items : List Document) :
    Fields.Hold ⟨(fieldNames slots).zip items, true⟩ slots ↔
      ∀ p ∈ slots.zip items, p.2 ≠ .null → p.1.2.1.Holds p.2 := by
  induction slots generalizing items with
  | nil => exact ⟨fun _ p hp => absurd hp List.not_mem_nil, fun _ s hs => absurd hs List.not_mem_nil⟩
  | cons slot slots ih =>
    obtain ⟨hslot, hslots⟩ : slot.1 ∉ fieldNames slots ∧ _ := List.nodup_cons.1 hslots
    cases items with
    | nil => exact ⟨fun _ p hp => absurd hp List.not_mem_nil, fun _ s _ d hd => nomatch hd⟩
    | cons item items =>
      have hfirst (d : Document) :
          lookup? slot.1 ((slot.1, item) :: (fieldNames slots).zip items) = some d ↔ item = d := by
        rw [lookup?, if_pos rfl, Option.some.injEq]
      have hlater (s : String × Shape × Bool) (hs : s ∈ slots) :
          lookup? s.1 ((slot.1, item) :: (fieldNames slots).zip items) =
            lookup? s.1 ((fieldNames slots).zip items) := by
        have hne : s.1 ≠ slot.1 := by
          intro heq
          have hmem : s.1 ∈ fieldNames slots := List.mem_map_of_mem hs
          exact hslot (heq ▸ hmem)
        rw [lookup?, if_neg hne]
      have hrest : (∀ s ∈ slots, ∀ d,
          lookup? s.1 ((slot.1, item) :: (fieldNames slots).zip items) = some d → d ≠ .null →
            s.2.1.Holds d) ↔ Fields.Hold ⟨(fieldNames slots).zip items, true⟩ slots :=
        forall₂_congr fun s hs => by rw [hlater s hs]
      rw [List.zip_cons_cons, List.forall_mem_cons, ← ih hslots items, ← hrest]
      show (∀ s ∈ slot :: slots, _) ↔ _
      rw [List.forall_mem_cons]
      refine and_congr ⟨fun h => h item ((hfirst item).2 rfl), fun h d hd => ?_⟩ Iff.rfl
      exact (hfirst d).1 hd ▸ h

theorem holds_record_iff_of_list (hslots : (fieldNames slots).Nodup) (items : List Document) :
    (Shape.record slots).Holds (.list items) ↔
      ∃ fs, (Document.list items).fields? (fieldNames slots) = some fs ∧ fs.Hold slots := by
  have hlength : (fieldNames slots).length = slots.length := List.length_map _
  rw [Document.fields?, hlength]
  constructor
  · rintro (_ | _ | _ | _ | _ | _ | ⟨short, parts⟩)
    exact ⟨_, if_pos short, (hold_zip_iff hslots items).2 parts⟩
  · rintro ⟨fs, hfs, hholds⟩
    split at hfs
    · next short =>
      cases hfs
      exact .positional short ((hold_zip_iff hslots items).1 hholds)
    · cases hfs

/-- A record of the shape is one whose fields are given and hold the slots. -/
theorem holds_record_iff (hslots : (fieldNames slots).Nodup) (d : Document) :
    (Shape.record slots).Holds d ↔ ∃ fs, d.fields? (fieldNames slots) = some fs ∧ fs.Hold slots := by
  cases d with
  | record ms => exact holds_record_iff_of_record ms
  | list items => exact holds_record_iff_of_list hslots items
  | _ => exact ⟨nofun, nofun⟩

end

/-! ## Deciding a shape -/

variable {α β γ : Type}

/-- The decoder decodes exactly the documents of the shape. -/
def Shape.Decides (shape : Shape) (decode : Document → Option α) : Prop :=
  ∀ d, (decode d).isSome = true ↔ shape.Holds d

theorem decides_text : Shape.text.Decides Document.text? := by
  intro d
  cases d with
  | text s => exact ⟨fun _ => .text s, fun _ => rfl⟩
  | _ => exact ⟨nofun, nofun⟩

theorem decides_mode : Shape.mode.Decides Document.text? := by
  intro d
  cases d with
  | text s => exact ⟨fun _ => .mode s, fun _ => rfl⟩
  | _ => exact ⟨nofun, nofun⟩

theorem decides_flag : Shape.flag.Decides Document.bool? := by
  intro d
  cases d with
  | bool b => exact ⟨fun _ => .flag b, fun _ => rfl⟩
  | _ => exact ⟨nofun, nofun⟩

theorem decides_count : Shape.count.Decides Document.nat? := by
  intro d
  cases d with
  | number n =>
    rcases n with (n | n) | x
    · exact ⟨fun _ => .count n, fun _ => rfl⟩
    · exact ⟨nofun, nofun⟩
    · exact ⟨nofun, nofun⟩
  | _ => exact ⟨nofun, nofun⟩

theorem isSome_mapM_iff {p : Document → Prop} {decode : Document → Option α}
    (h : ∀ d, (decode d).isSome = true ↔ p d) (ds : List Document) :
    (ds.mapM decode).isSome = true ↔ ∀ d ∈ ds, p d := by
  induction ds with
  | nil => exact ⟨fun _ _ hd => absurd hd List.not_mem_nil, fun _ => rfl⟩
  | cons d ds ih =>
    rw [List.mapM_cons, List.forall_mem_cons, ← h, ← ih]
    cases decode d with
    | none => exact ⟨nofun, nofun⟩
    | some a =>
      cases ds.mapM decode with
      | none => exact ⟨nofun, nofun⟩
      | some as => exact ⟨fun _ => ⟨rfl, rfl⟩, fun _ => rfl⟩

theorem decides_listOf {shape : Shape} {decode : Document → Option α} (h : shape.Decides decode) :
    (Shape.list shape).Decides (Document.listOf? decode) := by
  intro d
  cases d with
  | list items =>
    refine (isSome_mapM_iff h items).trans ⟨.list, ?_⟩
    rintro (_ | _ | _ | _ | hparts)
    exact hparts
  | _ => exact ⟨nofun, nofun⟩

namespace Fields

/-- What is decoded of some fields is there if and only if the fields hold the slots. -/
def Decodes (fs : Fields) (slots : List (String × Shape × Bool)) (x : Option α) : Prop :=
  x.isSome = true ↔ fs.Hold slots

variable {fs : Fields} {slots : List (String × Shape × Bool)} {name : String} {shape : Shape}
  {zeroed : Bool}

theorem isSome_optional {decode : Document → Option α} (h : shape.Decides decode) :
    (fs.optional name decode).isSome = true ↔
      ∀ d, lookup? name fs.given = some d → d ≠ .null → shape.Holds d := by
  unfold optional orDefault
  cases lookup? name fs.given with
  | none => exact ⟨fun _ _ => nofun, fun _ => rfl⟩
  | some d =>
    by_cases hd : d = .null
    · subst hd
      exact ⟨fun _ _ he hne => absurd (Option.some.inj he).symm hne, fun _ => rfl⟩
    · simp only [nullable?_of_ne hd, Option.isSome_map, h d]
      exact ⟨fun hholds _ he _ => Option.some.inj he ▸ hholds, fun hall => hall d rfl hd⟩

namespace Decodes

theorem done {x : Option α} (h : x.isSome = true) : fs.Decodes [] x :=
  ⟨fun _ _ hslot => absurd hslot List.not_mem_nil, fun _ => h⟩

/-- One more field is decoded in front of the others. -/
theorem optional {decode : Document → Option α} (h : shape.Decides decode)
    {k : Option α → Option γ} (hk : ∀ a, fs.Decodes slots (k a)) :
    fs.Decodes ((name, shape, zeroed) :: slots) ((fs.optional name decode).bind k) := by
  have hfield : (fs.optional name decode).isSome = true ↔
      ∀ d, lookup? name fs.given = some d → d ≠ .null → shape.Holds d := isSome_optional h
  unfold Decodes Hold
  rw [List.forall_mem_cons, ← hfield]
  cases fs.optional name decode with
  | none => exact ⟨nofun, nofun⟩
  | some a => exact ⟨fun hsome => ⟨rfl, (hk _).1 hsome⟩, fun hall => (hk _).2 hall.2⟩

/-- The same with something made of the field. -/
theorem optional_map {decode : Document → Option α} (h : shape.Decides decode) {f : Option α → β}
    {k : β → Option γ} (hk : ∀ b, fs.Decodes slots (k b)) :
    fs.Decodes ((name, shape, zeroed) :: slots) (((fs.optional name decode).map f).bind k) := by
  rw [Option.bind_map]
  exact optional h fun a => hk (f a)

theorem last {decode : Document → Option α} (h : shape.Decides decode) :
    fs.Decodes [(name, shape, zeroed)] (fs.optional name decode) := by
  have hlast : fs.Decodes [(name, shape, zeroed)] ((fs.optional name decode).bind some) :=
    optional h fun _ => done rfl
  rwa [Option.bind_fun_some] at hlast

theorem last_map {decode : Document → Option α} (h : shape.Decides decode) (f : Option α → β) :
    fs.Decodes [(name, shape, zeroed)] ((fs.optional name decode).map f) := by
  have hlast : fs.Decodes [(name, shape, zeroed)] (((fs.optional name decode).map f).bind some) :=
    optional_map h fun _ => done rfl
  rwa [Option.bind_fun_some] at hlast

end Decodes

end Fields

/-- A decoder that looks at every field decides the shape of the record. -/
theorem decides_record {slots : List (String × Shape × Bool)} (hslots : (fieldNames slots).Nodup)
    {k : Fields → Option α} (hk : ∀ fs : Fields, fs.Decodes slots (k fs)) :
    (Shape.record slots).Decides fun d => (d.fields? (fieldNames slots)).bind k := by
  intro d
  rw [holds_record_iff hslots d]
  dsimp only
  cases d.fields? (fieldNames slots) with
  | none => exact ⟨nofun, nofun⟩
  | some fs =>
    rw [Option.bind_some]
    refine (hk fs).trans ⟨fun h => ⟨fs, rfl, h⟩, ?_⟩
    rintro ⟨_, ⟨⟩, h⟩
    exact h

end AgentSandbox.Json
