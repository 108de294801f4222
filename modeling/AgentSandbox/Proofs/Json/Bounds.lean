import AgentSandbox.Json.Reader
import AgentSandbox.Proofs.Json.Meaning
import AgentSandbox.Proofs.Json.Printing

/-!
# What a text can hold

A document that was read `IsBounded`: no more containers are nested in each other than a reader
follows, and an integer has 64 bits (`Document.isBounded_of_scan?`).  So the meaning of such a
document is in order, and it fits into a text again if it holds no float
(`Document.IsBounded.meaning`).
-/

namespace AgentSandbox.Json

/-- No more than `room` containers are nested in each other, and every integer has 64 bits. -/
inductive Document.IsBounded : Nat → Document → Prop where
  | null (room : Nat) : IsBounded room .null
  | bool (room : Nat) (b : Bool) : IsBounded room (.bool b)
  | int (room : Nat) {n : Int} (h : IsWord n) : IsBounded room (.number (.int n))
  | float (room : Nat) (x : Binary64) : IsBounded room (.number (.float x))
  | text (room : Nat) (s : String) : IsBounded room (.text s)
  | hole (room : Nat) : IsBounded room .hole
  | list {room : Nat} {items : List Document} (h : ∀ d ∈ items, IsBounded room d) :
      IsBounded (room + 1) (.list items)
  | record {room : Nat} {members : List (Option String × Document)}
      (h : ∀ m ∈ members, IsBounded room m.2) : IsBounded (room + 1) (.record members)

/-- Every number in the value is an integer. -/
inductive Value.IsIntegral : Value → Prop where
  | null : IsIntegral .null
  | bool (b : Bool) : IsIntegral (.bool b)
  | int (n : Int) : IsIntegral (.number (.int n))
  | text (s : String) : IsIntegral (.text s)
  | list {items : List Value} (h : ∀ v ∈ items, IsIntegral v) : IsIntegral (.list items)
  | object {members : List (String × Value)} (h : ∀ m ∈ members, IsIntegral m.2) :
      IsIntegral (.object members)

/-! ## Numbers -/

namespace Numeral

theorem gather_lt {n : Nat} (h : n < 0x10000000000000000) (ds : List Char) :
    (gather n ds).1 < 0x10000000000000000 := by
  induction ds generalizing n with
  | nil => exact h
  | cons c ds ih =>
    rw [gather]
    split
    · next hnext => exact ih hnext
    · exact h

theorem float?_ne_int {negative : Bool} {significand : Nat} {exponent : Int} {n : Int} :
    float? negative significand exponent ≠ some (.int n) := by
  intro h
  obtain ⟨_, -, ⟨⟩⟩ := Option.map_eq_some_iff.1 h

/-- An integer that a numeral means has 64 bits. -/
theorem isWord_of_number? {x : Numeral} {n : Int} (h : x.number? = some (.int n)) : IsWord n := by
  unfold number? at h
  have hlt := gather_lt (n := 0) (by decide) x.whole
  generalize gather 0 x.whole = g at h hlt
  obtain ⟨significand, left⟩ := g
  dsimp only at h hlt
  split at h
  · split at h
    · unfold integer? at h
      split at h
      · split at h
        · exact absurd h float?_ne_int
        · cases h
          constructor <;> omega
      · cases h
        constructor <;> omega
    · exact absurd h float?_ne_int
  · split at h
    · exact absurd h float?_ne_int
    · split at h
      · exact absurd h float?_ne_int
      · split at h
        · cases h
        · exact absurd h float?_ne_int

end Numeral

/-! ## Reading -/

theorem isBounded_scalar? {cs rest : List Char} {d : Document} (h : scalar? cs = some (d, rest))
    (room : Nat) : d.IsBounded room := by
  unfold scalar? at h
  split at h
  · cases h
    exact .null room
  · cases h
    exact .bool room true
  · cases h
    exact .bool room false
  · obtain ⟨⟨x, rest'⟩, -, hd⟩ := Option.map_eq_some_iff.1 h
    cases hd
    cases hnumber : x.number? with
    | none => exact .hole room
    | some n =>
      cases n with
      | int n => exact .int room (Numeral.isWord_of_number? hnumber)
      | float x => exact .float room x

/-- A container is bounded if its parts are, where it is no hole. -/
theorem isBounded_nested {room : Nat} {d : Document} (h : ∀ k, room = k + 1 → d.IsBounded room) :
    (nested room d).IsBounded room := by
  unfold nested
  split
  · exact .hole room
  · next hne => exact h (room - 1) (by omega)

/-- What is read with some fuel is bounded by the room that there is. -/
structure ReadsBounded (fuel : Nat) : Prop where
  value : ∀ {room cs d rest}, value? fuel room cs = some (d, rest) → d.IsBounded room
  items : ∀ {room cs ds rest}, items? fuel room cs = some (ds, rest) → ∀ d ∈ ds, d.IsBounded room
  members : ∀ {room cs ms rest}, members? fuel room cs = some (ms, rest) →
    ∀ m ∈ ms, m.2.IsBounded room

theorem isBounded_value? {fuel : Nat} (ih : ReadsBounded fuel) {room : Nat} {cs rest : List Char}
    {d : Document} (h : value? (fuel + 1) room cs = some (d, rest)) : d.IsBounded room := by
  rw [value?] at h
  split at h
  · obtain ⟨⟨s, rest'⟩, -, hd⟩ := Option.map_eq_some_iff.1 h
    cases hd
    cases s with
    | none => exact .hole room
    | some s => exact .text room s
  · split at h
    · cases h
      refine isBounded_nested fun k hk => ?_
      exact hk ▸ .list (List.forall_mem_nil _)
    · obtain ⟨⟨ds, rest'⟩, hds, hd⟩ := Option.map_eq_some_iff.1 h
      cases hd
      refine isBounded_nested fun k hk => ?_
      subst hk
      exact .list (ih.items hds)
  · split at h
    · cases h
      refine isBounded_nested fun k hk => ?_
      exact hk ▸ .record (List.forall_mem_nil _)
    · obtain ⟨⟨ms, rest'⟩, hms, hd⟩ := Option.map_eq_some_iff.1 h
      cases hd
      refine isBounded_nested fun k hk => ?_
      subst hk
      exact .record (ih.members hms)
  · exact isBounded_scalar? h room

theorem isBounded_items? {fuel : Nat} (ih : ReadsBounded fuel) {room : Nat} {cs rest : List Char}
    {ds : List Document} (h : items? (fuel + 1) room cs = some (ds, rest)) :
    ∀ d ∈ ds, d.IsBounded room := by
  rw [items?] at h
  split at h
  · cases h
  · next d cs' hd =>
    have hfirst := ih.value hd
    split at h
    · obtain ⟨⟨ds', rest'⟩, hds, hcons⟩ := Option.map_eq_some_iff.1 h
      cases hcons
      exact List.forall_mem_cons.2 ⟨hfirst, ih.items hds⟩
    · cases h
      exact List.forall_mem_singleton.2 hfirst
    · cases h

theorem isBounded_members? {fuel : Nat} (ih : ReadsBounded fuel) {room : Nat} {cs rest : List Char}
    {ms : List (Option String × Document)} (h : members? (fuel + 1) room cs = some (ms, rest)) :
    ∀ m ∈ ms, m.2.IsBounded room := by
  rw [members?] at h
  split at h
  · split at h
    · cases h
    · split at h
      · split at h
        · cases h
        · next d cs' hd =>
          have hfirst := ih.value hd
          split at h
          · obtain ⟨⟨ms', rest'⟩, hms, hcons⟩ := Option.map_eq_some_iff.1 h
            cases hcons
            exact List.forall_mem_cons.2 ⟨hfirst, ih.members hms⟩
          · cases h
            exact List.forall_mem_singleton.2 hfirst
          · cases h
      · cases h
  · cases h

theorem readsBounded (fuel : Nat) : ReadsBounded fuel := by
  induction fuel with
  | zero => exact ⟨nofun, nofun, nofun⟩
  | succ fuel ih => exact ⟨isBounded_value? ih, isBounded_items? ih, isBounded_members? ih⟩

/-- A document that a text spells is bounded. -/
theorem Document.isBounded_of_scan? {cs : List Char} {d : Document} (h : scan? cs = some d) :
    d.IsBounded maxNesting := by
  unfold scan? at h
  split at h
  · next d' rest hd =>
    split at h
    · cases h
      exact (readsBounded _).value hd
    · cases h
  · cases h

theorem Document.isBounded_of_read? {cs : List Char} {d : Document} (h : read? cs = some d) :
    d.IsBounded maxNesting := by
  unfold read? at h
  split at h
  · cases h
  · exact isBounded_of_scan? h

/-! ## The parts of a bounded document -/

namespace Document

theorem IsBounded.of_lookup? {room : Nat} {d : Document} (h : d.IsBounded room)
    {names : List String} {fs : Fields} (hfs : d.fields? names = some fs) {name : String}
    {e : Document} (he : lookup? name fs.given = some e) : e.IsBounded (room - 1) := by
  cases h with
  | record hmembers =>
    simp only [fields?, Option.bind_eq_bind] at hfs
    obtain ⟨given, hgiven, hfs⟩ := Option.bind_eq_some_iff.1 hfs
    split at hfs
    · cases hfs
      exact hmembers _ (mem_of_knownMembers? hgiven (mem_of_lookup? he))
    · cases hfs
  | list hitems =>
    simp only [fields?] at hfs
    split at hfs
    · cases hfs
      exact hitems _ (List.of_mem_zip (mem_of_lookup? he)).2
    · cases hfs
  | _ => cases hfs

theorem exists_of_itemValues? {ds : List Document} {vs : List Value}
    (h : itemValues? ds = some vs) {v : Value} (hv : v ∈ vs) : ∃ d ∈ ds, d.value? = some v := by
  induction ds generalizing vs with
  | nil =>
    rw [itemValues?] at h
    cases h
    exact absurd hv List.not_mem_nil
  | cons d ds ih =>
    rw [itemValues?_cons] at h
    obtain ⟨x, hd, hx⟩ := Option.bind_eq_some_iff.1 h
    obtain ⟨rest, hrest, rfl⟩ := Option.map_eq_some_iff.1 hx
    rcases List.mem_cons.1 hv with rfl | hv
    · exact ⟨d, List.mem_cons_self, hd⟩
    · obtain ⟨d', hmem, hd'⟩ := ih hrest hv
      exact ⟨d', List.mem_cons_of_mem _ hmem, hd'⟩

/-- The meaning of a bounded document is in order, and it fits into a text if it holds no float. -/
theorem IsBounded.meaning {room : Nat} {d : Document} (h : d.IsBounded room) {v : Value}
    (hv : d.value? = some v) : v.IsOrdered ∧ (v.IsIntegral → v.Fits room) := by
  induction h generalizing v with
  | null room =>
    cases hv
    exact ⟨.null, fun _ => .null room⟩
  | bool room b =>
    cases hv
    exact ⟨.bool b, fun _ => .bool room b⟩
  | int room hn =>
    cases hv
    exact ⟨.number _, fun _ => .int room hn⟩
  | float room x =>
    cases hv
    exact ⟨.number _, nofun⟩
  | text room s =>
    cases hv
    exact ⟨.text s, fun _ => .text room s⟩
  | hole room => cases hv
  | list _ ih =>
    rw [value?_list] at hv
    obtain ⟨vs, hvs, rfl⟩ := Option.map_eq_some_iff.1 hv
    refine ⟨.list fun x hx => ?_, fun hintegral => .list fun x hx => ?_⟩
    · obtain ⟨d, hmem, hd⟩ := exists_of_itemValues? hvs hx
      exact (ih d hmem hd).1
    · obtain ⟨d, hmem, hd⟩ := exists_of_itemValues? hvs hx
      cases hintegral with
      | list hitems => exact (ih d hmem hd).2 (hitems x hx)
  | @record room _ _ ih =>
    rw [value?_record] at hv
    obtain ⟨vs, hvs, rfl⟩ := Option.map_eq_some_iff.1 hv
    have hmember (m : String × Value) (hm : m ∈ (Dictionary.ofList vs).entries) :
        m.2.IsOrdered ∧ (m.2.IsIntegral → m.2.Fits room) := by
      obtain ⟨d, hmem, hd⟩ := exists_of_memberValues? hvs (Dictionary.mem_of_mem_ofList hm)
      exact ih _ hmem hd
    refine ⟨.object (Dictionary.ofList vs).increasing fun m hm => (hmember m hm).1,
      fun hintegral => .object fun m hm => (hmember m hm).2 ?_⟩
    cases hintegral with
    | object hmembers => exact hmembers m hm

end Document

end AgentSandbox.Json
