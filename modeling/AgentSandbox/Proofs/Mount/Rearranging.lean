import Mathlib.Logic.Relation
import AgentSandbox.Mount.Spec
import AgentSandbox.Proofs.Mount.Pieces

/-!
# Rearranging specifications

`Change keys` are the changes of the pieces of a specification that a reader of the keys `keys` does
not notice: another order of pieces with different keys, a piece that is blank, has another key or
has a key that is bound again later, and blanks around a piece, its key or its value.  No change
alters the value that holds for a key of `keys` (`Change.lastFor?_eq`), and the readers see no more
than these values (`ofBindings_congr`, `optionOfBindings_congr`), so specifications that are one
another's rearrangements are read alike (`parse_rearranged`).
-/

namespace AgentSandbox.Mount

/-! ## The key of a piece -/

/-- The key of a piece: what stands before its first equals sign, without the blanks around it. -/
def keyOf? (piece : List Char) : Option (List Char) :=
  if Text.trim piece = [] then none else some (Text.trim (piece.takeWhile (· != '=')))

theorem keyOf?_eq (piece : List Char) : keyOf? piece = (bound? piece).map (·.1) := by
  by_cases heq : '=' ∈ piece
  · obtain ⟨key, value, rfl, hkey⟩ := List.eq_append_cons_of_mem heq
    have hall : ∀ c ∈ key, (c != '=') = true := fun c hc => bne_iff_ne.2 fun h => hkey (h ▸ hc)
    rw [bound?_pair hkey, keyOf?, Text.trim_append_cons (by decide), if_neg (by simp),
      List.takeWhile_append_of_pos hall, List.takeWhile_cons_of_neg (by simp), List.append_nil]
    rfl
  · by_cases hne : Text.trim piece = []
    · rw [keyOf?, bound?, if_pos hne, if_pos hne]
      rfl
    · have htake : piece.takeWhile (· != '=') = piece := by
        rw [← List.append_nil piece, List.takeWhile_append_of_pos, List.takeWhile_nil]
        exact fun c hc => bne_iff_ne.2 fun h => heq (h ▸ hc)
      rw [bound?_of_notMem heq hne, keyOf?, if_neg hne, htake]
      rfl

theorem isSome_valueFor?_iff {key piece : List Char} :
    (valueFor? key piece).isSome ↔ keyOf? piece = some key := by
  rw [keyOf?_eq, valueFor?]
  cases bound? piece with
  | none => simp
  | some b => by_cases h : b.1 = key <;> simp [h]

theorem valueFor?_of_ne {key piece : List Char} (h : keyOf? piece ≠ some key) :
    valueFor? key piece = none := by
  rwa [← Option.not_isSome_iff_eq_none, isSome_valueFor?_iff]

theorem lastFor?_append (key : List Char) (ps qs : List (List Char)) :
    lastFor? key (ps ++ qs) = (lastFor? key qs).or (lastFor? key ps) := by
  rw [lastFor?, List.reverse_append, List.findSome?_append]
  rfl

theorem lastFor?_cons (key p : List Char) (ps : List (List Char)) :
    lastFor? key (p :: ps) = (lastFor? key ps).or (valueFor? key p) := by
  rw [← List.singleton_append, lastFor?_append]
  congr 1
  rw [lastFor?, List.reverse_singleton, List.findSome?_singleton]

/-- Only the pieces with a key count for its value. -/
theorem lastFor?_filter (key : List Char) (ps : List (List Char)) :
    lastFor? key (ps.filter (keyOf? · = some key)) = lastFor? key ps := by
  induction ps with
  | nil => rfl
  | cons p ps ih =>
    rw [lastFor?_cons, ← ih]
    by_cases h : keyOf? p = some key
    · rw [List.filter_cons_of_pos (by simpa using h), lastFor?_cons]
    · rw [List.filter_cons_of_neg (by simpa using h), valueFor?_of_ne h, Option.or_none]

/-- A piece whose value does not count can be left out. -/
theorem lastFor?_remove {key p : List Char} (before after : List (List Char))
    (h : valueFor? key p = none ∨ (lastFor? key after).isSome) :
    lastFor? key (before ++ p :: after) = lastFor? key (before ++ after) := by
  rw [lastFor?_append, lastFor?_append, lastFor?_cons]
  rcases h with h | h
  · rw [h, Option.or_none]
  · obtain ⟨v, hv⟩ := Option.isSome_iff_exists.1 h
    rw [hv]
    rfl

theorem lastFor?_replace {key p q : List Char} (before after : List (List Char))
    (h : bound? p = bound? q) :
    lastFor? key (before ++ p :: after) = lastFor? key (before ++ q :: after) := by
  rw [lastFor?_append, lastFor?_append, lastFor?_cons, lastFor?_cons, valueFor?, valueFor?, h]

theorem bound?_around {a b : List Char} (ha : ∀ c ∈ a, Text.isBlank c = true)
    (hb : ∀ c ∈ b, Text.isBlank c = true) (piece : List Char) :
    bound? (a ++ piece ++ b) = bound? piece := by
  rw [bound?, Text.trim_append_right hb, Text.trim_append_left ha, bound?]

theorem bound?_inside {a b key : List Char} (ha : ∀ c ∈ a, Text.isBlank c = true)
    (hb : ∀ c ∈ b, Text.isBlank c = true) (hkey : '=' ∉ key) (value : List Char) :
    bound? (key ++ a ++ '=' :: (b ++ value)) = bound? (key ++ '=' :: value) := by
  have hkey' : '=' ∉ key ++ a := by
    intro h
    rcases List.mem_append.1 h with h | h
    · exact hkey h
    · exact absurd (ha _ h) (by decide)
  rw [bound?_pair hkey', bound?_pair hkey, Text.trim_append_right ha, Text.trim_append_left hb]

/-! ## Changes -/

/-- A change of the pieces of a specification that a reader of some keys does not notice. -/
inductive Change (keys : List String) : List (List Char) → List (List Char) → Prop
  /-- Another order, in which pieces with the same key follow one another as before. -/
  | reorder {ps qs : List (List Char)} (hperm : ps.Perm qs)
      (hkeys : ∀ key, ps.filter (keyOf? · = some key) = qs.filter (keyOf? · = some key)) :
      Change keys ps qs
  /-- A piece with a key that is not one of the keys. -/
  | unrecognised (before after : List (List Char)) {piece : List Char} {key : String}
      (hkey : keyOf? piece = some key.toList) (hkeys : key ∉ keys) :
      Change keys (before ++ piece :: after) (before ++ after)
  /-- A piece of blanks. -/
  | blank (before after : List (List Char)) {piece : List Char}
      (h : ∀ c ∈ piece, Text.isBlank c = true) :
      Change keys (before ++ piece :: after) (before ++ after)
  /-- Blanks around a piece. -/
  | around (before after : List (List Char)) {a b : List Char} (piece : List Char)
      (ha : ∀ c ∈ a, Text.isBlank c = true) (hb : ∀ c ∈ b, Text.isBlank c = true) :
      Change keys (before ++ (a ++ piece ++ b) :: after) (before ++ piece :: after)
  /-- Blanks around the equals sign that ends the key. -/
  | inside (before after : List (List Char)) {a b key : List Char} (value : List Char)
      (ha : ∀ c ∈ a, Text.isBlank c = true) (hb : ∀ c ∈ b, Text.isBlank c = true)
      (hkey : '=' ∉ key) :
      Change keys (before ++ (key ++ a ++ '=' :: (b ++ value)) :: after)
        (before ++ (key ++ '=' :: value) :: after)
  /-- A piece whose key is bound again later. -/
  | overridden (before after : List (List Char)) {piece later key : List Char}
      (hpiece : keyOf? piece = some key) (hlater : keyOf? later = some key)
      (hmem : later ∈ after) :
      Change keys (before ++ piece :: after) (before ++ after)

/-- The specifications become the same by changes that a reader of the keys does not notice, made
to either of them. -/
def Rearranged (keys : List String) (s t : String) : Prop :=
  Relation.EqvGen (Change keys) (pieces ',' s.toList) (pieces ',' t.toList)

/-- Two neighbours with different keys may change places. -/
theorem Change.swap {keys : List String} (before after : List (List Char)) {p q : List Char}
    (h : keyOf? p ≠ keyOf? q) :
    Change keys (before ++ p :: q :: after) (before ++ q :: p :: after) := by
  refine .reorder ((List.Perm.swap q p after).append_left before) fun key => ?_
  rw [List.filter_append, List.filter_append]
  by_cases hp : keyOf? p = some key
  · have hq : keyOf? q ≠ some key := fun hq => h (hp.trans hq.symm)
    simp [hp, hq]
  · simp [List.filter_cons, hp]

theorem isSome_lastFor? {key p : List Char} {ps : List (List Char)} (hp : p ∈ ps)
    (h : keyOf? p = some key) : (lastFor? key ps).isSome := by
  rw [lastFor?, List.findSome?_isSome_iff]
  exact ⟨p, List.mem_reverse.2 hp, isSome_valueFor?_iff.2 h⟩

/-- A change does not alter the values of the keys. -/
theorem Change.lastFor?_eq {keys : List String} {ps qs : List (List Char)} (h : Change keys ps qs)
    {key : String} (hkey : key ∈ keys) : lastFor? key.toList ps = lastFor? key.toList qs := by
  cases h with
  | reorder hperm hkeys => rw [← lastFor?_filter, hkeys, lastFor?_filter]
  | @unrecognised before after piece other hother hkeys =>
    refine lastFor?_remove before after (.inl (valueFor?_of_ne fun h => hkeys ?_))
    rw [hother, Option.some.injEq, String.toList_inj] at h
    rwa [h]
  | @blank before after piece h =>
    refine lastFor?_remove before after (.inl (valueFor?_of_ne ?_))
    have htrim : Text.trim piece = [] := by
      have := Text.trim_append_left h []
      rwa [List.append_nil] at this
    rw [keyOf?, if_pos htrim]
    exact nofun
  | around before after piece ha hb => exact lastFor?_replace before after (bound?_around ha hb _)
  | inside before after value ha hb hkey =>
    exact lastFor?_replace before after (bound?_inside ha hb hkey _)
  | @overridden before after piece later other hpiece hlater hmem =>
    refine lastFor?_remove before after ?_
    by_cases hother : other = key.toList
    · exact .inr (isSome_lastFor? hmem (hother ▸ hlater))
    · refine .inl (valueFor?_of_ne ?_)
      rw [hpiece]
      exact fun h => hother (Option.some.inj h)

/-- So no number of changes, made to either of two specifications, alters them. -/
theorem lastFor?_eq_of_eqvGen {keys : List String} {ps qs : List (List Char)}
    (h : Relation.EqvGen (Change keys) ps qs) {key : String} (hkey : key ∈ keys) :
    lastFor? key.toList ps = lastFor? key.toList qs := by
  induction h with
  | rel _ _ h => exact h.lastFor?_eq hkey
  | refl _ => rfl
  | symm _ _ _ ih => exact ih.symm
  | trans _ _ _ _ _ ih₁ ih₂ => exact ih₁.trans ih₂

theorem Rearranged.lastValue?_eq {keys : List String} {s t : String} (h : Rearranged keys s t)
    {key : String} (hkey : key ∈ keys) :
    lastValue? key.toList (bindings s.toList) = lastValue? key.toList (bindings t.toList) := by
  rw [lastValue?_bindings, lastValue?_bindings, lastFor?_eq_of_eqvGen h hkey]

/-! ## What the readers see -/

/-- The keys of a mount specification. -/
def mountKeys : List String := ["type", "name", "dst", "readonly", "bucket", "src", "endpoint"]

/-- The keys of a mount option specification. -/
def optionKeys : List String := ["name", "dst", "readonly", "subpath"]

section

variable {bs cs : List (List Char × List Char)}

theorem given?_congr {key : String}
    (h : lastValue? key.toList bs = lastValue? key.toList cs) : given? key bs = given? key cs := by
  rw [given?, h, given?]

theorem ofBindings_congr
    (h : ∀ key ∈ mountKeys, lastValue? key.toList bs = lastValue? key.toList cs) :
    ofBindings bs = ofBindings cs := by
  have hg : ∀ key ∈ mountKeys, given? key bs = given? key cs :=
    fun key hkey => given?_congr (h key hkey)
  simp only [ofBindings, required, absolute, absolute?, flag?, source, cosSource, optional,
    h "readonly" (by decide), hg "type" (by decide), hg "name" (by decide), hg "dst" (by decide),
    hg "bucket" (by decide), hg "src" (by decide), hg "endpoint" (by decide)]

theorem optionOfBindings_congr
    (h : ∀ key ∈ optionKeys, lastValue? key.toList bs = lastValue? key.toList cs) :
    optionOfBindings bs = optionOfBindings cs := by
  have hg : ∀ key ∈ optionKeys, given? key bs = given? key cs :=
    fun key hkey => given?_congr (h key hkey)
  simp only [optionOfBindings, required, absolute?, flag?, optional, h "readonly" (by decide),
    hg "name" (by decide), hg "dst" (by decide), hg "subpath" (by decide)]

end

/-- Specifications that are one another's rearrangements are read alike: as the same mount or mount
option, or with the same fault. -/
theorem parse_rearranged (s t : String) :
    (Rearranged mountKeys s t → StorageMount.parse s = StorageMount.parse t) ∧
      (Rearranged optionKeys s t → MountOption.parse s = MountOption.parse t) :=
  ⟨fun h => ofBindings_congr fun _ => h.lastValue?_eq,
    fun h => optionOfBindings_congr fun _ => h.lastValue?_eq⟩

theorem Change.eqvGen {keys : List String} {ps qs rs : List (List Char)} (h : Change keys ps qs)
    (hrest : Relation.EqvGen (Change keys) qs rs) : Relation.EqvGen (Change keys) ps rs :=
  .trans _ _ _ (.rel _ _ h) hrest

/-- A specification in no good order becomes a tidy one step by step: a piece with another key, an
overridden one and a blank one go, blanks inside and around a piece go, and two pieces change
places. -/
theorem parse_rearranged_untidy :
    (Rearranged mountKeys "x=1,dst=/mnt,name=old,type=cos, name = data,\t,src=/,bucket=b"
        "dst=/mnt,type=cos,name=data,bucket=b,src=/" ∧
      StorageMount.parse "x=1,dst=/mnt,name=old,type=cos, name = data,\t,src=/,bucket=b" =
        StorageMount.parse "dst=/mnt,type=cos,name=data,bucket=b,src=/") ∧
    Rearranged optionKeys "type=cos,readonly,name=data" "name=data,readonly" ∧
      MountOption.parse "type=cos,readonly,name=data" = MountOption.parse "name=data,readonly" := by
  have hmount : Rearranged mountKeys
      "x=1,dst=/mnt,name=old,type=cos, name = data,\t,src=/,bucket=b"
      "dst=/mnt,type=cos,name=data,bucket=b,src=/" := by
    let dst := "dst=/mnt".toList
    let type := "type=cos".toList
    let src := "src=/".toList
    let bucket := "bucket=b".toList
    have hblank : ∀ c ∈ [' '], Text.isBlank c = true := List.forall_mem_singleton.2 (by decide)
    refine (Change.unrecognised []
      [dst, "name=old".toList, type, " name = data".toList, ['\t'], src, bucket]
      (show keyOf? "x=1".toList = some "x".toList by decide) (by decide)).eqvGen ?_
    refine (Change.overridden [dst] [type, " name = data".toList, ['\t'], src, bucket]
      (show keyOf? "name=old".toList = some "name".toList by decide)
      (show keyOf? " name = data".toList = some "name".toList by decide) (by simp)).eqvGen ?_
    refine (Change.blank [dst, type, " name = data".toList] [src, bucket]
      (List.forall_mem_singleton.2 (show Text.isBlank '\t' = true by decide))).eqvGen ?_
    refine (Change.inside [dst, type] [src, bucket] "data".toList hblank hblank
      (show '=' ∉ " name".toList by decide)).eqvGen ?_
    refine (Change.around [dst, type] [src, bucket] "name=data".toList hblank
      (List.forall_mem_nil _)).eqvGen ?_
    exact (Change.swap [dst, type, "name=data".toList] []
      (show keyOf? src ≠ keyOf? bucket by decide)).eqvGen (.refl _)
  have hoption : Rearranged optionKeys "type=cos,readonly,name=data" "name=data,readonly" := by
    refine (Change.unrecognised [] ["readonly".toList, "name=data".toList]
      (show keyOf? "type=cos".toList = some "type".toList by decide) (by decide)).eqvGen ?_
    exact (Change.swap [] []
      (show keyOf? "readonly".toList ≠ keyOf? "name=data".toList by decide)).eqvGen (.refl _)
  exact ⟨⟨hmount, (parse_rearranged _ _).1 hmount⟩, hoption, (parse_rearranged _ _).2 hoption⟩

end AgentSandbox.Mount
