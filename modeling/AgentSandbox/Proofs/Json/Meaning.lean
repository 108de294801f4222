import AgentSandbox.Proofs.Dictionary
import AgentSandbox.Proofs.Json.Decoding

/-!
# Values without some of their fields

A document that is given a meaning first loses the fields that stand more than once: the last one of
each name wins.  What is removed from a document is then missing in its meaning, so that a decoder
which reads the meaning sees no more of a removal than one that reads the document
(`Removal.value?_follows`).
-/

namespace AgentSandbox.Json

variable {exact : Bool} {R : Shape → Document → Document → Prop}

theorem itemValues?_cons (d : Document) (ds : List Document) :
    itemValues? (d :: ds) = d.value?.bind fun v => (itemValues? ds).map (v :: ·) := by
  rw [itemValues?]
  cases d.value? <;> cases itemValues? ds <;> rfl

theorem memberValues?_cons (name : Option String) (d : Document)
    (ms : List (Option String × Document)) :
    memberValues? ((name, d) :: ms) =
      name.bind fun k => d.value?.bind fun v => (memberValues? ms).map ((k, v) :: ·) := by
  cases name with
  | none => simp [memberValues?]
  | some k =>
    cases hd : d.value? with
    | none => simp [memberValues?, hd]
    | some v => cases hms : memberValues? ms <;> simp [memberValues?, hd, hms]

theorem itemValues?_middle (before after : List Document) (d : Document) :
    itemValues? (before ++ d :: after) =
      (itemValues? before).bind fun vs => d.value?.bind fun v =>
        (itemValues? after).map fun vs' => vs ++ v :: vs' := by
  induction before with
  | nil =>
    rw [List.nil_append, itemValues?_cons, itemValues?]
    rfl
  | cons x xs ih =>
    rw [List.cons_append, itemValues?_cons, ih, itemValues?_cons]
    cases x.value? <;> cases itemValues? xs <;> cases d.value? <;> cases itemValues? after <;> rfl

theorem memberValues?_append (before after : List (Option String × Document)) :
    memberValues? (before ++ after) =
      (memberValues? before).bind fun ms => (memberValues? after).map (ms ++ ·) := by
  induction before with
  | nil =>
    rw [List.nil_append, memberValues?]
    cases memberValues? after <;> rfl
  | cons m ms ih =>
    obtain ⟨name, x⟩ := m
    rw [List.cons_append, memberValues?_cons, ih, memberValues?_cons]
    cases name <;> cases x.value? <;> cases memberValues? ms <;> cases memberValues? after <;> rfl

theorem memberValues?_middle (before after : List (Option String × Document)) (name : String)
    (d : Document) :
    memberValues? (before ++ (some name, d) :: after) =
      (memberValues? before).bind fun ms => d.value?.bind fun v =>
        (memberValues? after).map fun ms' => ms ++ (name, v) :: ms' := by
  rw [memberValues?_append, memberValues?_cons]
  cases memberValues? before <;> cases d.value? <;> cases memberValues? after <;> rfl

theorem itemValues?_middle_eq_none {before after : List Document} {d : Document} :
    itemValues? (before ++ d :: after) = none ↔
      itemValues? before = none ∨ d.value? = none ∨ itemValues? after = none := by
  rw [itemValues?_middle]
  cases itemValues? before <;> cases d.value? <;> cases itemValues? after <;> simp

theorem memberValues?_append_eq_none {before after : List (Option String × Document)} :
    memberValues? (before ++ after) = none ↔
      memberValues? before = none ∨ memberValues? after = none := by
  rw [memberValues?_append]
  cases memberValues? before <;> cases memberValues? after <;> simp

theorem memberValues?_middle_eq_none {before after : List (Option String × Document)}
    {name : String} {d : Document} :
    memberValues? (before ++ (some name, d) :: after) = none ↔
      memberValues? before = none ∨ d.value? = none ∨ memberValues? after = none := by
  rw [memberValues?_middle]
  cases memberValues? before <;> cases d.value? <;> cases memberValues? after <;> simp

theorem itemDocuments_middle (vs vs' : List Value) (v : Value) :
    itemDocuments (vs ++ v :: vs') = itemDocuments vs ++ Document.ofValue v :: itemDocuments vs' := by
  induction vs with
  | nil => rfl
  | cons x xs ih => rw [List.cons_append, itemDocuments, ih, itemDocuments, List.cons_append]

theorem exists_of_memberValues? {ms : List (Option String × Document)}
    {vs : List (String × Value)} (h : memberValues? ms = some vs) {v : String × Value}
    (hv : v ∈ vs) : ∃ d, (some v.1, d) ∈ ms ∧ d.value? = some v.2 := by
  induction ms generalizing vs with
  | nil =>
    rw [memberValues?] at h
    cases h
    exact absurd hv List.not_mem_nil
  | cons m ms ih =>
    obtain ⟨name, d⟩ := m
    rw [memberValues?_cons] at h
    obtain ⟨k, rfl, hk⟩ := Option.bind_eq_some_iff.1 h
    obtain ⟨x, hd, hx⟩ := Option.bind_eq_some_iff.1 hk
    obtain ⟨rest, hrest, rfl⟩ := Option.map_eq_some_iff.1 hx
    rcases List.mem_cons.1 hv with rfl | hv
    · exact ⟨d, List.mem_cons_self, hd⟩
    · obtain ⟨d', hmem, hd'⟩ := ih hrest hv
      exact ⟨d', List.mem_cons_of_mem _ hmem, hd'⟩

theorem ne_of_memberValues? {ms : List (Option String × Document)} {vs : List (String × Value)}
    (h : memberValues? ms = some vs) {name : String} (hname : ∀ m ∈ ms, m.1 ≠ some name) :
    ∀ v ∈ vs, name ≠ v.1 := by
  intro v hv heq
  obtain ⟨d, hmem, -⟩ := exists_of_memberValues? h hv
  exact hname _ hmem (congrArg some heq.symm)

/-- The known members of a record that spells some members. -/
def knownMembers (names : List String) (ms : List (String × Value)) : List (String × Document) :=
  (ms.filter fun m => names.contains m.1).map fun m => (m.1, Document.ofValue m.2)

theorem knownMembers_cons (names : List String) (k : String) (v : Value)
    (ms : List (String × Value)) :
    knownMembers names ((k, v) :: ms) =
      if names.contains k then (k, Document.ofValue v) :: knownMembers names ms
      else knownMembers names ms := by
  unfold knownMembers
  rw [List.filter_cons]
  split <;> rfl

theorem knownMembers?_memberDocuments (names : List String) (ms : List (String × Value)) :
    knownMembers? names (memberDocuments ms) = some (knownMembers names ms) := by
  induction ms with
  | nil => rfl
  | cons m ms ih =>
    obtain ⟨k, v⟩ := m
    rw [memberDocuments, knownMembers?, ih, Option.map_some, knownMembers_cons]

theorem lookup?_knownMembers (names : List String) (ms : List (String × Value)) (name : String) :
    lookup? name (knownMembers names ms) =
      if names.contains name then (lookup? name ms).map Document.ofValue else none := by
  induction ms with
  | nil => exact (ite_self none).symm
  | cons m ms ih =>
    obtain ⟨k, v⟩ := m
    rw [knownMembers_cons, lookup?]
    by_cases hk : name = k
    · subst hk
      rw [if_pos rfl]
      split
      · rw [lookup?, if_pos rfl]
        rfl
      · next hknown => rw [ih, if_neg hknown]
    · rw [if_neg hk, ← ih]
      split
      · rw [lookup?, if_neg hk]
      · rfl

theorem distinctNames_knownMembers {ms : List (String × Value)} (h : Increasing ms)
    (names : List String) : distinctNames (knownMembers names ms) = true := by
  induction ms with
  | nil => rfl
  | cons m ms ih =>
    obtain ⟨k, v⟩ := m
    obtain ⟨hk, hms⟩ := List.pairwise_cons.1 h
    rw [knownMembers_cons]
    split
    · have hnone : lookup? k ms = none :=
        lookup?_eq_none fun e he heq => String.lt_irrefl _ (heq ▸ hk e he)
      rw [distinctNames, lookup?_knownMembers, hnone, Option.map_none, ite_self, ih hms]
      rfl
    · exact ih hms

/-- The fields that the spelling of a dictionary gives. -/
theorem fields?_ofValue (names : List String) (d : Dictionary Value) :
    (Document.ofValue (.object d.entries)).fields? names =
      some ⟨knownMembers names d.entries, false⟩ := by
  simp [Document.ofValue, Document.fields?, knownMembers?_memberDocuments,
    distinctNames_knownMembers d.increasing]

/-! ## Removals are followed -/

/-- The document that spells the meaning of a record with some members. -/
def spelled (ms : List (String × Value)) : Document :=
  Document.ofValue (.object (Dictionary.ofList ms).entries)

theorem lookup?_ofList (names : List String) (ms : List (String × Value)) (name : String) :
    lookup? name (knownMembers names (Dictionary.ofList ms).entries) =
      if names.contains name then (lookup? name ms.reverse).map Document.ofValue else none := by
  rw [lookup?_knownMembers, ← Dictionary.find?_ofList]
  rfl

theorem lookup?_reverse_eq_none {name : String} {ms : List (String × Value)}
    (h : ∀ m ∈ ms, name ≠ m.1) : lookup? name ms.reverse = none :=
  lookup?_eq_none fun m hm => h m (List.mem_reverse.1 hm)

theorem reverse_middle {α : Type} (xs ys : List α) (x : α) :
    (xs ++ x :: ys).reverse = ys.reverse ++ x :: xs.reverse := by
  rw [List.reverse_append, List.reverse_cons, List.append_assoc]
  rfl

variable {slots : List (String × Shape × Bool)} {name : String} {shape : Shape} {zeroed : Bool}
  {before after : List (String × Value)}

theorem contains_fieldNames {x : Shape × Bool} (slot : lookup? name slots = some x) :
    (fieldNames slots).contains name = true :=
  List.contains_iff_mem.2 (mem_fieldNames slot)

theorem recordFollows_spelled_of_known {v : Value} (slot : lookup? name slots = some (shape, zeroed))
    (hbefore : ∀ m ∈ before, name ≠ m.1) (hafter : ∀ m ∈ after, name ≠ m.1)
    (silent : exact = true → SaysNothing shape zeroed (Document.ofValue v)) :
    RecordFollows exact R slots (spelled (before ++ (name, v) :: after))
      (spelled (before ++ after)) := by
  refine .vacant slot (fields?_ofValue _ _) (fields?_ofValue _ _) (fun other hother => ?_) ?_ ?_
  · rw [lookup?_ofList, lookup?_ofList, reverse_middle, lookup?_middle hother, List.reverse_append]
  · intro hexact e he
    rw [lookup?_ofList, if_pos (contains_fieldNames slot), reverse_middle,
      lookup?_middle_self (lookup?_reverse_eq_none hafter)] at he
    exact Option.some.inj he ▸ silent hexact
  · rw [lookup?_ofList, List.reverse_append, lookup?_append, lookup?_reverse_eq_none hafter,
      lookup?_reverse_eq_none hbefore]
    exact ite_self none

theorem recordFollows_spelled_of_unknown (slot : lookup? name slots = none) (v : Value) :
    RecordFollows exact R slots (spelled (before ++ (name, v) :: after))
      (spelled (before ++ after)) := by
  refine .unseen (fields?_ofValue _ _) (fields?_ofValue _ _) fun other => ?_
  rw [lookup?_ofList, lookup?_ofList, reverse_middle, List.reverse_append]
  by_cases hother : other = name
  · have hunknown : ¬ (fieldNames slots).contains other = true :=
      fun h => not_mem_fieldNames slot (hother ▸ List.contains_iff_mem.1 h)
    rw [if_neg hunknown, if_neg hunknown]
  · rw [lookup?_middle hother]

theorem recordFollows_spelled_of_inside {v v' : Value} (slot : lookup? name slots = some (shape, zeroed))
    (h : R shape (Document.ofValue v) (Document.ofValue v')) :
    RecordFollows exact R slots (spelled (before ++ (name, v) :: after))
      (spelled (before ++ (name, v') :: after)) := by
  have hknown := contains_fieldNames slot
  cases hlater : lookup? name after.reverse with
  | some x =>
    -- a later member of the name hides the change
    refine .unseen (fields?_ofValue _ _) (fields?_ofValue _ _) fun other => ?_
    simp only [lookup?_ofList, reverse_middle]
    by_cases hother : other = name
    · rw [hother, lookup?_append, lookup?_append, hlater]
      rfl
    · rw [lookup?_middle hother, lookup?_middle hother]
  | none =>
    refine .inside slot (fields?_ofValue _ _) (fields?_ofValue _ _) (fun other hother => ?_) ?_ ?_ h
    · simp only [lookup?_ofList, reverse_middle, lookup?_middle hother]
    · rw [lookup?_ofList, if_pos hknown, reverse_middle, lookup?_middle_self hlater]
      rfl
    · rw [lookup?_ofList, if_pos hknown, reverse_middle, lookup?_middle_self hlater]
      rfl

theorem SaysNothing.spelled {d : Document} (h : SaysNothing shape zeroed d) :
    ∃ v, d.value? = some v ∧ Document.ofValue v = d := by
  rcases h with rfl | ⟨-, hd⟩
  · exact ⟨.null, rfl, rfl⟩
  · cases shape with
    | text =>
      obtain rfl := List.mem_singleton.1 hd
      exact ⟨.text "", rfl, rfl⟩
    | mode =>
      simp only [Shape.zeros, List.mem_cons, List.not_mem_nil, or_false] at hd
      rcases hd with rfl | rfl
      · exact ⟨.text "", rfl, rfl⟩
      · exact ⟨.text "PUBLIC", rfl, rfl⟩
    | flag =>
      obtain rfl := List.mem_singleton.1 hd
      exact ⟨.bool false, rfl, rfl⟩
    | count =>
      obtain rfl := List.mem_singleton.1 hd
      exact ⟨.number (.int 0), rfl, rfl⟩
    | list item =>
      obtain rfl := List.mem_singleton.1 hd
      exact ⟨.list [], rfl, rfl⟩
    | record slots =>
      obtain rfl := List.mem_singleton.1 hd
      exact ⟨.object [], rfl, rfl⟩

theorem value?_record (ms : List (Option String × Document)) :
    (Document.record ms).value? =
      (memberValues? ms).map fun vs => .object (Dictionary.ofList vs).entries := by
  rw [Document.value?]

theorem value?_list (ds : List Document) :
    (Document.list ds).value? = (itemValues? ds).map Value.list := by
  rw [Document.value?]

theorem exists_of_value?_record {before after : List (Option String × Document)} {name : String}
    {d : Document} {v : Value}
    (h : (Document.record (before ++ (some name, d) :: after)).value? = some v) :
    ∃ vb x va, memberValues? before = some vb ∧ d.value? = some x ∧ memberValues? after = some va ∧
      Document.ofValue v = spelled (vb ++ (name, x) :: va) := by
  rw [value?_record, memberValues?_middle] at h
  obtain ⟨vs, hvs, rfl⟩ := Option.map_eq_some_iff.1 h
  obtain ⟨vb, hbefore, hx⟩ := Option.bind_eq_some_iff.1 hvs
  obtain ⟨x, hd, ha⟩ := Option.bind_eq_some_iff.1 hx
  obtain ⟨va, hafter, rfl⟩ := Option.map_eq_some_iff.1 ha
  exact ⟨vb, x, va, hbefore, hd, hafter, rfl⟩

theorem exists_of_value?_list {before after : List Document} {d : Document} {v : Value}
    (h : (Document.list (before ++ d :: after)).value? = some v) :
    ∃ vb x va, itemValues? before = some vb ∧ d.value? = some x ∧ itemValues? after = some va ∧
      Document.ofValue v = .list (itemDocuments vb ++ Document.ofValue x :: itemDocuments va) := by
  rw [value?_list, itemValues?_middle] at h
  obtain ⟨vs, hvs, rfl⟩ := Option.map_eq_some_iff.1 h
  obtain ⟨vb, hbefore, hx⟩ := Option.bind_eq_some_iff.1 hvs
  obtain ⟨x, hd, ha⟩ := Option.bind_eq_some_iff.1 hx
  obtain ⟨va, hafter, rfl⟩ := Option.map_eq_some_iff.1 ha
  exact ⟨vb, x, va, hbefore, hd, hafter, by rw [Document.ofValue, itemDocuments_middle]⟩

theorem value?_record_eq_none {ms : List (Option String × Document)} :
    (Document.record ms).value? = none ↔ memberValues? ms = none := by
  rw [value?_record, Option.map_eq_none_iff]

theorem value?_list_eq_none {ds : List Document} :
    (Document.list ds).value? = none ↔ itemValues? ds = none := by
  rw [value?_list, Option.map_eq_none_iff]

theorem length_itemDocuments (vs : List Value) : (itemDocuments vs).length = vs.length := by
  induction vs with
  | nil => rfl
  | cons v vs ih => rw [itemDocuments, List.length_cons, ih, List.length_cons]

theorem length_of_itemValues? {ds : List Document} {vs : List Value}
    (h : itemValues? ds = some vs) : vs.length = ds.length := by
  induction ds generalizing vs with
  | nil =>
    rw [itemValues?] at h
    cases h
    rfl
  | cons d ds ih =>
    rw [itemValues?_cons] at h
    obtain ⟨v, -, hv⟩ := Option.bind_eq_some_iff.1 h
    obtain ⟨rest, hrest, rfl⟩ := Option.map_eq_some_iff.1 hv
    rw [List.length_cons, ih hrest, List.length_cons]

/-- Whether a list has a meaning depends on each item. -/
theorem value?_list_middle_eq_none {before after : List Document} {d d' : Document}
    (h : d.value? = none → d'.value? = none)
    (hnone : (Document.list (before ++ d :: after)).value? = none) :
    (Document.list (before ++ d' :: after)).value? = none := by
  rw [value?_list_eq_none, itemValues?_middle_eq_none] at hnone ⊢
  exact hnone.imp_right (.imp_left h)

/-- A removal from a document that has a meaning leaves one that has a meaning, and the meanings
follow each other; if it is exact, it does not give a meaning to a document that has none. -/
theorem Removal.value?_follows {shape : Shape} {d d' : Document} (h : Removal exact shape d d') :
    (∀ v, d.value? = some v →
      ∃ v', d'.value? = some v' ∧ Follows exact shape (Document.ofValue v) (Document.ofValue v')) ∧
    (exact = true → d.value? = none → d'.value? = none) := by
  induction h with
  | @known slots name shape zeroed before after d slot once silent =>
    refine ⟨fun v hv => ?_, fun hexact hnone => ?_⟩
    · obtain ⟨vb, x, va, hbefore, hd, hafter, hspelled⟩ := exists_of_value?_record hv
      refine ⟨.object (Dictionary.ofList (vb ++ va)).entries, ?_, ?_⟩
      · rw [value?_record, memberValues?_append, hbefore, hafter]
        rfl
      · rw [hspelled]
        refine .of_record (recordFollows_spelled_of_known slot ?_ ?_ fun hexact => ?_)
        · exact ne_of_memberValues? hbefore fun m hm => once m (List.mem_append_left _ hm)
        · exact ne_of_memberValues? hafter fun m hm => once m (List.mem_append_right _ hm)
        · obtain ⟨x', hx', hspell⟩ := (silent hexact).spelled
          cases hd.symm.trans hx'
          exact hspell.symm ▸ silent hexact
    · obtain ⟨x, hx, -⟩ := (silent hexact).spelled
      rw [value?_record_eq_none, memberValues?_middle_eq_none, hx] at hnone
      rw [value?_record_eq_none, memberValues?_append_eq_none]
      exact hnone.imp_right fun h => h.resolve_left nofun
  | @unknown slots name before after d slot plain =>
    obtain ⟨x, hx⟩ : ∃ x, d.value? = some x := by
      rcases plain with rfl | ⟨s, rfl⟩
      · exact ⟨_, rfl⟩
      · exact ⟨_, rfl⟩
    refine ⟨fun v hv => ?_, fun _ hnone => ?_⟩
    · obtain ⟨vb, x, va, hbefore, -, hafter, hspelled⟩ := exists_of_value?_record hv
      refine ⟨.object (Dictionary.ofList (vb ++ va)).entries, ?_, ?_⟩
      · rw [value?_record, memberValues?_append, hbefore, hafter]
        rfl
      · rw [hspelled]
        exact .of_record (recordFollows_spelled_of_unknown slot x)
    · rw [value?_record_eq_none, memberValues?_middle_eq_none, hx] at hnone
      rw [value?_record_eq_none, memberValues?_append_eq_none]
      exact hnone.imp_right fun h => h.resolve_left nofun
  | @inside slots name shape zeroed before after d d' slot h ih =>
    refine ⟨fun v hv => ?_, fun hexact hnone => ?_⟩
    · obtain ⟨vb, x, va, hbefore, hd, hafter, hspelled⟩ := exists_of_value?_record hv
      obtain ⟨x', hd', hfollows⟩ := ih.1 x hd
      refine ⟨.object (Dictionary.ofList (vb ++ (name, x') :: va)).entries, ?_, ?_⟩
      · rw [value?_record, memberValues?_middle, hbefore, hd', hafter]
        rfl
      · rw [hspelled]
        exact .of_record (recordFollows_spelled_of_inside slot hfollows)
    · rw [value?_record_eq_none, memberValues?_middle_eq_none] at hnone ⊢
      exact hnone.imp_right (.imp_left (ih.2 hexact))
  | @position front back name shape zeroed before after d d' first length h ih =>
    refine ⟨fun v hv => ?_, fun hexact => value?_list_middle_eq_none (ih.2 hexact)⟩
    obtain ⟨vb, x, va, hbefore, hd, hafter, hspelled⟩ := exists_of_value?_list hv
    obtain ⟨x', hd', hfollows⟩ := ih.1 x hd
    refine ⟨.list (vb ++ x' :: va), ?_, ?_⟩
    · rw [value?_list, itemValues?_middle, hbefore, hd', hafter]
      rfl
    · rw [hspelled, Document.ofValue, itemDocuments_middle]
      refine .of_record (recordFollows_of_position first ?_ hfollows)
      rw [length_itemDocuments, length_of_itemValues? hbefore, length]
  | @item shape before after d d' h ih =>
    refine ⟨fun v hv => ?_, fun hexact => value?_list_middle_eq_none (ih.2 hexact)⟩
    obtain ⟨vb, x, va, hbefore, hd, hafter, hspelled⟩ := exists_of_value?_list hv
    obtain ⟨x', hd', hfollows⟩ := ih.1 x hd
    refine ⟨.list (vb ++ x' :: va), ?_, ?_⟩
    · rw [value?_list, itemValues?_middle, hbefore, hd', hafter]
      rfl
    · rw [hspelled, Document.ofValue, itemDocuments_middle]
      exact .item hfollows

/-! ## Fields that are lacking -/

theorem exists_of_mem_memberDocuments {ms : List (String × Value)} {m : Option String × Document}
    (h : m ∈ memberDocuments ms) : ∃ v ∈ ms, m = (some v.1, Document.ofValue v.2) := by
  induction ms with
  | nil => exact absurd h List.not_mem_nil
  | cons v ms ih =>
    rcases List.mem_cons.1 h with rfl | h
    · exact ⟨v, List.mem_cons_self, rfl⟩
    · obtain ⟨v', hmem, hv'⟩ := ih h
      exact ⟨v', List.mem_cons_of_mem _ hmem, hv'⟩

/-- What a document lacks is missing in its meaning too. -/
theorem Document.Lacks.ofValue {path : List String} {d : Document} (h : d.Lacks path) {v : Value}
    (hv : d.value? = some v) : (Document.ofValue v).Lacks path := by
  induction path generalizing d v with
  | nil => cases d <;> exact h.elim
  | cons name path ih =>
    cases d with
    | record ms =>
      rw [value?_record] at hv
      obtain ⟨vs, hvs, rfl⟩ := Option.map_eq_some_iff.1 hv
      intro m hm hname
      obtain ⟨e, he, rfl⟩ := exists_of_mem_memberDocuments hm
      obtain ⟨x, hx, hvalue⟩ := exists_of_memberValues? hvs (Dictionary.mem_of_mem_ofList he)
      rcases h _ hx hname with hnull | hlacks
      · have hnull : x = .null := hnull
        subst hnull
        have hvalue : Value.null = e.2 := Option.some.inj hvalue
        exact .inl (congrArg Document.ofValue hvalue.symm)
      · exact .inr (ih hlacks hvalue)
    | _ => exact h.elim

end AgentSandbox.Json
