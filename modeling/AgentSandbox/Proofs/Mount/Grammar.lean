import AgentSandbox.Proofs.Mount.Pieces
import AgentSandbox.Proofs.Mount.Spec

/-!
# The grammar of specifications

`Mount.valueOf` is the value that a specification gives a key, `Mount.Specifies` and
`Mount.SpecifiesOption` say which mount or mount option given values describe, and
`Mount.mountChecks` and `Mount.optionChecks` list what is asked of them, in order, each with its
fault.  Reading answers the mount or option that is described, or else the fault of the first check
that does not hold (`parse_grammar`).

The order of the faults is proved from `Performs`, which relates a computation to the checks that it
makes, with a rule for each way to put computations together.
-/

namespace AgentSandbox

namespace Mount

/-! ## Checks in order -/

/-- Something that is asked for, and the fault of what does not have it. -/
structure Check where
  holds : Prop
  fault : MountError

/-- The check of a source within a specification. -/
def Check.ofSource (c : Check) : Check := ⟨c.holds, .source c.fault⟩

/-- `FirstFault cs e` says that some check of `cs` does not hold and that `e` is the fault of the
first one. -/
inductive FirstFault : List Check → MountError → Prop
  | here {c : Check} {cs : List Check} (h : ¬c.holds) : FirstFault (c :: cs) c.fault
  | later {c : Check} {cs : List Check} {e : MountError} (h : c.holds) (hcs : FirstFault cs e) :
      FirstFault (c :: cs) e

theorem firstFault_cons_iff {c : Check} {cs : List Check} {e : MountError} :
    FirstFault (c :: cs) e ↔ ¬c.holds ∧ c.fault = e ∨ c.holds ∧ FirstFault cs e := by
  constructor
  · intro h
    cases h with
    | here h => exact .inl ⟨h, rfl⟩
    | later h hcs => exact .inr ⟨h, hcs⟩
  · rintro (⟨h, rfl⟩ | ⟨h, hcs⟩)
    · exact .here h
    · exact .later h hcs

theorem not_firstFault_nil (e : MountError) : ¬FirstFault [] e := nofun

theorem exists_firstFault_iff {cs : List Check} :
    (∃ e, FirstFault cs e) ↔ ¬∀ c ∈ cs, c.holds := by
  induction cs with
  | nil => simp [not_firstFault_nil]
  | cons c cs ih =>
    simp only [firstFault_cons_iff, List.forall_mem_cons, Classical.not_and_iff_not_or_not, ← ih]
    by_cases h : c.holds <;> simp [h]

theorem firstFault_append_iff {cs ds : List Check} {e : MountError} :
    FirstFault (cs ++ ds) e ↔ FirstFault cs e ∨ (∀ c ∈ cs, c.holds) ∧ FirstFault ds e := by
  induction cs with
  | nil => simp [not_firstFault_nil]
  | cons c cs ih =>
    rw [List.cons_append, firstFault_cons_iff, firstFault_cons_iff, ih, List.forall_mem_cons]
    by_cases h : c.holds <;> simp [h]

theorem firstFault_map_ofSource_iff {cs : List Check} {e : MountError} :
    FirstFault (cs.map Check.ofSource) e ↔ ∃ f, FirstFault cs f ∧ e = .source f := by
  induction cs with
  | nil => simp [not_firstFault_nil]
  | cons c cs ih =>
    rw [List.map_cons, firstFault_cons_iff, ih]
    simp only [firstFault_cons_iff, Check.ofSource]
    by_cases h : c.holds <;> simp [h, eq_comm]

/-- The computation fails exactly if some check does not hold, and then with the fault of the first
one. -/
def Performs {α : Type} (x : Except MountError α) (cs : List Check) : Prop :=
  ∀ e, x = .error e ↔ FirstFault cs e

section

variable {α β : Type}

theorem performs_ok (a : α) : Performs (.ok a : Except MountError α) [] := by
  intro e
  simp [not_firstFault_nil]

/-- A check that holds may stand in front of the others. -/
theorem Performs.pass {x : Except MountError α} {c : Check} {cs : List Check} (h : c.holds)
    (hx : Performs x cs) : Performs x (c :: cs) := by
  intro e
  rw [firstFault_cons_iff, hx e]
  simp [h]

/-- After a check that does not hold, no other is made. -/
theorem performs_error {p : Prop} (h : ¬p) (e : MountError) (cs : List Check) :
    Performs (.error e : Except MountError α) (⟨p, e⟩ :: cs) := by
  intro f
  rw [firstFault_cons_iff]
  simp [h]

theorem performs_one {x : Except MountError α} {c : Check} (hok : c.holds → ∃ a, x = .ok a)
    (herror : ¬c.holds → x = .error c.fault) : Performs x [c] := by
  by_cases h : c.holds
  · obtain ⟨a, rfl⟩ := hok h
    exact (performs_ok a).pass h
  · rw [herror h]
    exact performs_error h _ []

/-- A computation that succeeds made checks that all hold. -/
theorem Performs.holds {x : Except MountError α} {cs : List Check} (h : Performs x cs) {a : α}
    (ha : x = .ok a) : ∀ c ∈ cs, c.holds := by
  refine Classical.not_not.1 fun hcs => ?_
  obtain ⟨e, he⟩ := exists_firstFault_iff.2 hcs
  cases ha.symm.trans ((h e).2 he)

theorem Performs.bind {x : Except MountError α} {f : α → Except MountError β} {cs ds : List Check}
    (hx : Performs x cs) (hf : ∀ a, x = .ok a → Performs (f a) ds) :
    Performs (x >>= f) (cs ++ ds) := by
  intro e
  rw [firstFault_append_iff]
  cases x with
  | error e' =>
    have hcs := (hx e').1 rfl
    have hnot : ¬∀ c ∈ cs, c.holds := exists_firstFault_iff.1 ⟨e', hcs⟩
    simp only [hnot, false_and, or_false, ← hx e]
    exact ⟨fun h => congrArg _ (Except.error.inj h), fun h => congrArg _ (Except.error.inj h)⟩
  | ok a =>
    have hno : ¬FirstFault cs e := fun h => by cases (hx e).2 h
    simp only [hno, false_or, and_iff_right (hx.holds rfl), ← hf a rfl e]
    exact Iff.rfl

theorem Performs.map {x : Except MountError α} {cs : List Check} (hx : Performs x cs)
    (f : α → β) : Performs (x.map f) cs := by
  intro e
  rw [← hx e]
  cases x <;> simp [Except.map]

theorem Performs.mapError_source {x : Except MountError α} {cs : List Check}
    (hx : Performs x cs) : Performs (x.mapError .source) (cs.map Check.ofSource) := by
  intro e
  rw [firstFault_map_ofSource_iff]
  simp only [← hx _]
  cases x with
  | error e' =>
    change Except.error (MountError.source e') = .error e ↔ _
    simp [eq_comm]
  | ok a =>
    change Except.ok a = .error e ↔ _
    simp

end

/-! ## The values of a specification -/

/-- The specification is a list of pieces joined by commas, of which the last that binds the key
binds it to the value. -/
def LastBinds (spec key value : String) : Prop :=
  ∃ before piece after, [','].intercalate (before ++ piece :: after) = spec.toList ∧
    (∀ p ∈ before ++ piece :: after, ',' ∉ p) ∧ Binds piece key.toList value.toList ∧
    ∀ p ∈ after, ∀ v, ¬Binds p key.toList v

/-- The text that the last binding of a key gives it. -/
def valueIn (bs : List (List Char × List Char)) (key : String) : Option String :=
  (lastValue? key.toList bs).map String.ofList

/-- The value that a specification gives a key. -/
def valueOf (spec : String) : String → Option String :=
  valueIn (bindings spec.toList)

theorem valueOf_eq_some_iff {spec key value : String} :
    valueOf spec key = some value ↔ LastBinds spec key value := by
  have hne (before after : List (List Char)) (piece : List Char) :
      before ++ piece :: after ≠ [] := by simp
  rw [valueOf, valueIn, lastValue?_bindings, Option.map_eq_some_iff]
  simp only [ofList_eq_iff, exists_eq_right, lastFor?_eq_some_iff]
  constructor
  · rintro ⟨before, piece, after, hps, h⟩
    obtain ⟨hspec, hcomma⟩ := (pieces_eq_iff (hne _ _ _)).1 hps
    exact ⟨before, piece, after, hspec, hcomma, h⟩
  · rintro ⟨before, piece, after, hspec, hcomma, h⟩
    exact ⟨before, piece, after, (pieces_eq_iff (hne _ _ _)).2 ⟨hspec, hcomma⟩, h⟩

/-- The value is there and not empty. -/
def IsGiven (value : Option String) : Prop := ∃ s ∈ value, s ≠ ""

/-- The path starts with a solidus. -/
def IsAbsolute (path : String) : Prop := path.toList.head? = some '/'

/-- The texts that stand for a truth value. -/
def flagTexts : Bool → List String
  | true => ["true", "1", "yes"]
  | false => ["false", "0", "no"]

/-- The text stands for a truth value, in any case of its letters. -/
def IsFlag (text : String) (flag : Bool) : Prop := Text.lowerAscii text ∈ flagTexts flag

variable {bs : List (List Char × List Char)} {key : String}

theorem given?_eq_some_toList_iff {s : String} :
    given? key bs = some s.toList ↔ valueIn bs key = some s ∧ s ≠ "" := by
  rw [given?_eq_some_iff, valueIn, Option.map_eq_some_iff, ne_eq, String.toList_eq_nil_iff]
  simp only [ofList_eq_iff, exists_eq_right]

theorem optional_eq : optional key bs = Text.nonEmpty (valueIn bs key) := by
  refine Option.ext fun s => ?_
  rw [optional_eq_some_iff, given?_eq_some_toList_iff, Text.nonEmpty, Option.filter_eq_some_iff]
  simp

theorem isGiven_iff : IsGiven (valueIn bs key) ↔ ∃ v, given? key bs = some v := by
  constructor
  · rintro ⟨s, hs, hne⟩
    exact ⟨_, given?_eq_some_toList_iff.2 ⟨hs, hne⟩⟩
  · rintro ⟨v, hv⟩
    rw [← String.toList_ofList (l := v)] at hv
    exact ⟨_, given?_eq_some_toList_iff.1 hv⟩

theorem flagValue?_eq_some_iff {v : List Char} {flag : Bool} :
    flagValue? v = some flag ↔ IsFlag (String.ofList v) flag := by
  rw [IsFlag, Text.lowerAscii, String.toList_ofList, flagValue?]
  generalize String.ofList (v.map Char.toLower) = w
  have htrue : w = "true" ∨ w = "1" ∨ w = "yes" ↔ w ∈ flagTexts true := by simp [flagTexts]
  have hfalse : w = "false" ∨ w = "0" ∨ w = "no" ↔ w ∈ flagTexts false := by simp [flagTexts]
  have hdisjoint : ∀ t ∈ flagTexts true, t ∉ flagTexts false := by decide
  simp only [htrue, hfalse]
  cases flag with
  | true => by_cases h : w ∈ flagTexts true <;> simp [h]
  | false => by_cases h : w ∈ flagTexts true <;> simp [h, hdisjoint]

theorem IsFlag.unique {text : String} {a b : Bool} (ha : IsFlag text a) (hb : IsFlag text b) :
    a = b := by
  rw [← String.ofList_toList (s := text), ← flagValue?_eq_some_iff] at ha hb
  exact Option.some.inj (ha.symm.trans hb)

theorem flag?_eq_ok_none_iff : flag? key bs = .ok none ↔ valueIn bs key = none := by
  unfold flag? valueIn
  cases lastValue? key.toList bs with
  | none => simp
  | some v => cases hf : flagValue? v <;> simp [hf]

theorem flag?_eq_ok_some_iff {flag : Bool} :
    flag? key bs = .ok (some flag) ↔ ∃ s ∈ valueIn bs key, IsFlag s flag := by
  unfold flag? valueIn
  cases lastValue? key.toList bs with
  | none => simp
  | some v =>
    simp only [Option.map_some, Option.mem_some_iff, exists_eq_left', ← flagValue?_eq_some_iff]
    cases flagValue? v <;> simp

/-! ## What is described -/

/-- The values describe a mount: the type is that of an object store, the names are not empty, the
paths are absolute, the flag is absent or stands for a truth value, and an empty endpoint is
none. -/
structure Specifies (value : String → Option String) (m : StorageMount) : Prop where
  type : value "type" = some "cos"
  name : value "name" = some m.name ∧ m.name ≠ ""
  mountPath : value "dst" = some m.mountPath ∧ IsAbsolute m.mountPath
  readOnly : value "readonly" = none ∧ m.readOnly = false ∨
    ∃ s, value "readonly" = some s ∧ IsFlag s m.readOnly
  source : ∃ bucketName bucketPath,
    m.source = some (.cos bucketName bucketPath (Text.nonEmpty (value "endpoint"))) ∧
    (value "bucket" = some bucketName ∧ bucketName ≠ "") ∧
    value "src" = some bucketPath ∧ IsAbsolute bucketPath

/-- The values describe a mount option: the name is not empty, a path that is given is absolute,
and the flag is absent or true. -/
structure SpecifiesOption (value : String → Option String) (o : MountOption) : Prop where
  name : value "name" = some o.name ∧ o.name ≠ ""
  mountPath : o.mountPath = Text.nonEmpty (value "dst") ∧ ∀ path ∈ o.mountPath, IsAbsolute path
  subPath : o.subPath = Text.nonEmpty (value "subpath")
  readOnly : value "readonly" = none ∧ o.readOnly = .inherit ∨
    ∃ s, value "readonly" = some s ∧ IsFlag s true ∧ o.readOnly = .force

/-- The value is given. -/
def givenCheck (value : String → Option String) (key : String) : Check :=
  ⟨IsGiven (value key), .missingField key⟩

/-- The value, if it is given, is an absolute path. -/
def pathCheck (value : String → Option String) (key : String) : Check :=
  ⟨∀ s ∈ Text.nonEmpty (value key), IsAbsolute s, .notAbsolute key⟩

/-- The value, if there is one, stands for a truth value. -/
def flagCheck (value : String → Option String) (key : String) : Check :=
  ⟨∀ s ∈ value key, ∃ b, IsFlag s b, .invalidFlag key ((value key).getD "")⟩

/-- What is asked of the values of a mount specification, in this order. -/
def mountChecks (value : String → Option String) : List Check :=
  [⟨IsGiven (value "type"), .missingType⟩,
    givenCheck value "name",
    givenCheck value "dst", pathCheck value "dst",
    flagCheck value "readonly",
    ⟨value "type" = some "cos", .unsupportedType ((value "type").getD "")⟩] ++
  [givenCheck value "bucket", givenCheck value "src", pathCheck value "src"].map Check.ofSource

/-- What is asked of the values of a mount option specification, in this order. -/
def optionChecks (value : String → Option String) : List Check :=
  [givenCheck value "name",
    pathCheck value "dst",
    flagCheck value "readonly",
    ⟨∀ s ∈ value "readonly", ¬IsFlag s false, .loosenReadOnly ((value "name").getD "")⟩]

/-! ## Which checks the readers perform -/

theorem performs_required : Performs (required key bs) [givenCheck (valueIn bs) key] := by
  refine performs_one (fun h => ?_) (fun h => ?_)
  · obtain ⟨v, hv⟩ := isGiven_iff.1 h
    exact ⟨_, by rw [required, hv]⟩
  · unfold required
    split
    · next v hv => exact absurd (isGiven_iff.2 ⟨v, hv⟩) h
    · rfl

theorem pathCheck_holds_iff :
    (pathCheck (valueIn bs) key).holds ↔ ∀ v, given? key bs = some v → v.head? = some '/' := by
  simp only [pathCheck, ← optional_eq, Option.mem_def, optional_eq_some_iff]
  constructor
  · intro h v hv
    rw [← String.toList_ofList (l := v)] at hv ⊢
    exact h _ hv
  · exact fun h s hs => h _ hs

theorem performs_absolute? : Performs (absolute? key bs) [pathCheck (valueIn bs) key] := by
  unfold absolute?
  refine performs_one (fun h => ?_) (fun h => ?_)
  · split
    · next v hv => exact ⟨_, if_pos (pathCheck_holds_iff.1 h v hv)⟩
    · exact ⟨_, rfl⟩
  · split
    · next v hv =>
      refine if_neg fun hs => h (pathCheck_holds_iff.2 fun w hw => ?_)
      rwa [← Option.some.inj (hv.symm.trans hw)]
    · next hv => exact absurd (pathCheck_holds_iff.2 fun w hw => by rw [hv] at hw; cases hw) h

/-- A path that must be given is a path that may be given and is. -/
theorem absolute_eq : absolute key bs = required key bs >>= fun s =>
    (absolute? key bs).map fun _ => s := by
  unfold absolute absolute? required
  cases given? key bs with
  | none => rfl
  | some v => by_cases h : v.head? = some '/' <;> simp [h, bind, Except.bind, Except.map]

theorem performs_absolute :
    Performs (absolute key bs) [givenCheck (valueIn bs) key, pathCheck (valueIn bs) key] := by
  rw [absolute_eq]
  exact performs_required.bind fun s _ => performs_absolute?.map _

theorem performs_flag? : Performs (flag? key bs) [flagCheck (valueIn bs) key] := by
  refine performs_one (fun h => ?_) (fun h => ?_)
  · cases hv : valueIn bs key with
    | none => exact ⟨none, flag?_eq_ok_none_iff.2 hv⟩
    | some s =>
      obtain ⟨b, hb⟩ := h s hv
      exact ⟨some b, flag?_eq_ok_some_iff.2 ⟨s, hv, hb⟩⟩
  · simp only [flagCheck, valueIn, flag?] at h ⊢
    cases hv : lastValue? key.toList bs with
    | none => simp [hv] at h
    | some v =>
      simp only [hv, Option.map_some, Option.mem_some_iff, forall_eq',
        ← flagValue?_eq_some_iff] at h
      cases hf : flagValue? v with
      | none => simp [hf]
      | some b => exact absurd ⟨b, hf⟩ h

theorem performs_cosSource : Performs (cosSource bs) [givenCheck (valueIn bs) "bucket",
    givenCheck (valueIn bs) "src", pathCheck (valueIn bs) "src"] :=
  performs_required.bind fun _ _ => performs_absolute.bind fun _ _ => performs_ok _

theorem performs_source {type : String} (htype : valueIn bs "type" = some type) :
    Performs (Mount.source type bs)
      (⟨valueIn bs "type" = some "cos", .unsupportedType ((valueIn bs "type").getD "")⟩ ::
        [givenCheck (valueIn bs) "bucket", givenCheck (valueIn bs) "src",
          pathCheck (valueIn bs) "src"].map Check.ofSource) := by
  rw [htype]
  unfold Mount.source
  split
  · next h => exact performs_cosSource.mapError_source.pass (congrArg some h)
  · next h => exact performs_error (fun hcos => h (Option.some.inj hcos)) _ _

/-- Reading a mount makes the checks of mounts. -/
theorem performs_ofBindings : Performs (ofBindings bs) (mountChecks (valueIn bs)) := by
  unfold ofBindings
  split
  · next v hv =>
    have htype : valueIn bs "type" = some (String.ofList v) :=
      (given?_eq_some_toList_iff.1 (hv.trans (by rw [String.toList_ofList]))).1
    refine .pass (isGiven_iff.2 ⟨v, hv⟩) ?_
    exact performs_required.bind fun _ _ => performs_absolute.bind fun _ _ =>
      performs_flag?.bind fun _ _ => (performs_source htype).bind fun _ _ => performs_ok _
  · next hv =>
    refine performs_error (p := IsGiven (valueIn bs "type")) (fun h => ?_) _ _
    obtain ⟨v, hv'⟩ := isGiven_iff.1 h
    rw [hv] at hv'
    cases hv'

/-- Reading a mount option makes the checks of mount options. -/
theorem performs_optionOfBindings :
    Performs (optionOfBindings bs) (optionChecks (valueIn bs)) := by
  refine performs_required.bind fun name hname => performs_absolute?.bind fun _ _ =>
    performs_flag?.bind fun flag hflag => ?_
  obtain ⟨hn, -⟩ := given?_eq_some_toList_iff.1 (required_eq_ok_iff.1 hname)
  rw [hn, Option.getD_some]
  match flag, hflag with
  | none, hflag =>
    refine (performs_ok _).pass fun s hs => ?_
    rw [flag?_eq_ok_none_iff.1 hflag] at hs
    cases hs
  | some true, hflag =>
    obtain ⟨s, hs, htrue⟩ := flag?_eq_ok_some_iff.1 hflag
    refine (performs_ok _).pass fun t ht hfalse => ?_
    cases htrue.unique (Option.mem_unique hs ht ▸ hfalse)
  | some false, hflag =>
    obtain ⟨s, hs, hfalse⟩ := flag?_eq_ok_some_iff.1 hflag
    exact performs_error (fun h => h s hs hfalse) _ []

/-! ## What the readers answer -/

theorem ofBindings_eq_ok_iff_specifies {m : StorageMount} :
    ofBindings bs = .ok m ↔ Specifies (valueIn bs) m := by
  have hcos : "cos" ≠ "" := by decide
  have habs {s : String} (h : IsAbsolute s) : s ≠ "" := by
    rintro rfl
    cases h
  rw [ofBindings_eq_ok_iff]
  constructor
  · rintro ⟨htype, hname, hpath, habs, ⟨flag, hflag, hread⟩, bucket, dir, hsrc, hb, hd, hdabs⟩
    rw [given?_eq_some_toList_iff] at htype hname hpath hb hd
    refine ⟨htype.1, hname, ⟨hpath.1, habs⟩, ?_, bucket, dir, ?_, hb, hd.1, hdabs⟩
    · cases flag with
      | none => exact .inl ⟨flag?_eq_ok_none_iff.1 hflag, hread⟩
      | some b =>
        obtain ⟨s, hs, hb⟩ := flag?_eq_ok_some_iff.1 hflag
        exact .inr ⟨s, hs, by rwa [hread]⟩
    · rw [hsrc, optional_eq]
  · rintro ⟨htype, hname, ⟨hpath, hpabs⟩, hread, bucket, dir, hsrc, hb, hd, hdabs⟩
    refine ⟨given?_eq_some_toList_iff.2 ⟨htype, hcos⟩, given?_eq_some_toList_iff.2 hname,
      given?_eq_some_toList_iff.2 ⟨hpath, habs hpabs⟩, hpabs, ?_, bucket, dir, ?_,
      given?_eq_some_toList_iff.2 hb, given?_eq_some_toList_iff.2 ⟨hd, habs hdabs⟩, hdabs⟩
    · rcases hread with ⟨hnone, hread⟩ | ⟨s, hs, hflag⟩
      · exact ⟨none, flag?_eq_ok_none_iff.2 hnone, hread⟩
      · exact ⟨some m.readOnly, flag?_eq_ok_some_iff.2 ⟨s, hs, hflag⟩, rfl⟩
    · rw [hsrc, optional_eq]

theorem absolute?_eq_ok_iff {path : Option String} : absolute? key bs = .ok path ↔
    path = Text.nonEmpty (valueIn bs key) ∧ ∀ s ∈ path, IsAbsolute s := by
  rw [← optional_eq]
  unfold absolute? optional
  constructor
  · intro h
    split at h
    · next v hv =>
      split at h
      · next habs =>
        cases h
        refine ⟨by rw [hv]; rfl, ?_⟩
        rintro _ ⟨⟩
        rwa [IsAbsolute, String.toList_ofList]
      · cases h
    · next hv =>
      cases h
      exact ⟨by rw [hv]; rfl, nofun⟩
  · rintro ⟨rfl, h⟩
    split
    · next v hv =>
      rw [hv] at h
      have habs := h (String.ofList v) rfl
      rw [IsAbsolute, String.toList_ofList] at habs
      rw [if_pos habs, hv]
      rfl
    · next hv =>
      rw [hv]
      rfl

theorem optionOfBindings_eq_ok_iff {o : MountOption} :
    optionOfBindings bs = .ok o ↔ SpecifiesOption (valueIn bs) o := by
  simp only [optionOfBindings, bind_eq_ok_iff, required_eq_ok_iff, absolute?_eq_ok_iff,
    given?_eq_some_toList_iff, optional_eq]
  constructor
  · rintro ⟨name, hname, path, hpath, flag, hflag, h⟩
    match flag, hflag, h with
    | none, hflag, h =>
      cases h
      exact ⟨hname, hpath, rfl, .inl ⟨flag?_eq_ok_none_iff.1 hflag, rfl⟩⟩
    | some true, hflag, h =>
      cases h
      obtain ⟨s, hs, htrue⟩ := flag?_eq_ok_some_iff.1 hflag
      exact ⟨hname, hpath, rfl, .inr ⟨s, hs, htrue, rfl⟩⟩
    | some false, hflag, h => cases h
  · obtain ⟨name, path, subPath, readOnly⟩ := o
    rintro ⟨hname, hpath, rfl, ⟨hnone, rfl⟩ | ⟨s, hs, htrue, rfl⟩⟩
    · exact ⟨name, hname, path, hpath, none, flag?_eq_ok_none_iff.2 hnone, rfl⟩
    · exact ⟨name, hname, path, hpath, some true, flag?_eq_ok_some_iff.2 ⟨s, hs, htrue⟩, rfl⟩

end Mount

/-- A specification gives a key the value of the last piece that binds it.  It is read as the mount
or mount option that these values describe, and otherwise with the fault of the first check of
mounts or mount options that the values fail. -/
theorem parse_grammar (spec : String) :
    (∀ key value, Mount.valueOf spec key = some value ↔ Mount.LastBinds spec key value) ∧
    (∀ m, StorageMount.parse spec = .ok m ↔ Mount.Specifies (Mount.valueOf spec) m) ∧
    (∀ e, StorageMount.parse spec = .error e ↔
      Mount.FirstFault (Mount.mountChecks (Mount.valueOf spec)) e) ∧
    (∀ o, MountOption.parse spec = .ok o ↔ Mount.SpecifiesOption (Mount.valueOf spec) o) ∧
    (∀ e, MountOption.parse spec = .error e ↔
      Mount.FirstFault (Mount.optionChecks (Mount.valueOf spec)) e) :=
  ⟨fun _ _ => Mount.valueOf_eq_some_iff, fun _ => Mount.ofBindings_eq_ok_iff_specifies,
    Mount.performs_ofBindings, fun _ => Mount.optionOfBindings_eq_ok_iff,
    Mount.performs_optionOfBindings⟩

/-- Of a relative path, a flag that is none and a type of no store, the path is the first fault. -/
example : StorageMount.parse "type=nfs,name=n,dst=mnt,readonly=maybe" =
    .error (.notAbsolute "dst") := rfl

end AgentSandbox
