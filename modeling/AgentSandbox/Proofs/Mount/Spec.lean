import AgentSandbox.Mount.Spec
import AgentSandbox.Proofs.Mount.Bindings
import AgentSandbox.Proofs.Success

/-!
# Which mounts a specification describes

`Mount.Describes` collects what the checks of `Mount.ofBindings` ask of some bindings, without their
order, and `StorageMount.IsExpressible` says of a mount alone that a specification for it exists.
The mounts that are read from specifications are exactly the expressible ones, and exactly those
that are read back from the specification written for them (`parse_image`).
-/

namespace AgentSandbox

theorem ofList_eq_iff {v : List Char} {s : String} : String.ofList v = s ↔ v = s.toList := by
  rw [← String.toList_inj, String.toList_ofList]

namespace Mount

/-! ## Reading fields -/

variable {bs : List (List Char × List Char)} {key : String}

theorem given?_eq_some_iff {v : List Char} :
    given? key bs = some v ↔ lastValue? key.toList bs = some v ∧ v ≠ [] := by
  rw [given?, Option.filter_eq_some_iff]
  simp

theorem required_eq_ok_iff {s : String} :
    required key bs = .ok s ↔ given? key bs = some s.toList := by
  unfold required
  split
  · next v hv => simp [hv, ofList_eq_iff]
  · next hv => simp [hv]

theorem absolute_eq_ok_iff {s : String} :
    absolute key bs = .ok s ↔ given? key bs = some s.toList ∧ s.toList.head? = some '/' := by
  unfold absolute absolute?
  cases hv : given? key bs with
  | none => simp
  | some v =>
    by_cases hs : v.head? = some '/'
    · simp only [hs, if_true, Except.ok.injEq, ofList_eq_iff, Option.some.injEq]
      exact ⟨fun h => ⟨h, h ▸ hs⟩, And.left⟩
    · simp only [hs, if_false, reduceCtorEq, Option.some.injEq, false_iff]
      rintro ⟨rfl, h⟩
      exact hs h

theorem optional_eq_some_iff {s : String} :
    optional key bs = some s ↔ given? key bs = some s.toList := by
  rw [optional, Option.map_eq_some_iff]
  simp [ofList_eq_iff]

theorem cosSource_eq_ok_iff {source : StorageSource} :
    cosSource bs = .ok source ↔ ∃ bucketName bucketPath,
      source = .cos bucketName bucketPath (optional "endpoint" bs) ∧
      given? "bucket" bs = some bucketName.toList ∧
      given? "src" bs = some bucketPath.toList ∧ bucketPath.toList.head? = some '/' := by
  simp only [cosSource, bind_eq_ok_iff, required_eq_ok_iff, absolute_eq_ok_iff, Except.ok.injEq]
  constructor
  · rintro ⟨bucketName, hb, bucketPath, ⟨hp, hs⟩, rfl⟩
    exact ⟨bucketName, bucketPath, rfl, hb, hp, hs⟩
  · rintro ⟨bucketName, bucketPath, rfl, hb, hp, hs⟩
    exact ⟨bucketName, hb, bucketPath, ⟨hp, hs⟩, rfl⟩

theorem source_eq_ok_iff {type : String} {source : StorageSource} :
    Mount.source type bs = .ok source ↔ type = "cos" ∧ cosSource bs = .ok source := by
  unfold Mount.source
  split
  · next h => rw [mapError_eq_ok_iff, and_iff_right h]
  · next h => simp [h]

/-- What the checks of a specification's bindings ask for, all at once. -/
structure Describes (bs : List (List Char × List Char)) (m : StorageMount) : Prop where
  type : given? "type" bs = some "cos".toList
  name : given? "name" bs = some m.name.toList
  mountPath : given? "dst" bs = some m.mountPath.toList
  mountPath_absolute : m.mountPath.toList.head? = some '/'
  readOnly : ∃ flag, flag? "readonly" bs = .ok flag ∧ m.readOnly = flag.getD false
  source : ∃ bucketName bucketPath,
    m.source = some (.cos bucketName bucketPath (optional "endpoint" bs)) ∧
    given? "bucket" bs = some bucketName.toList ∧
    given? "src" bs = some bucketPath.toList ∧ bucketPath.toList.head? = some '/'

theorem ofBindings_eq_ok_iff {m : StorageMount} : ofBindings bs = .ok m ↔ Describes bs m := by
  unfold ofBindings
  split
  · next v hv =>
    simp only [bind_eq_ok_iff, required_eq_ok_iff, absolute_eq_ok_iff, source_eq_ok_iff,
      cosSource_eq_ok_iff, Except.ok.injEq]
    constructor
    · rintro ⟨type, rfl, name, hn, path, ⟨hp, hs⟩, flag, hf, src, ⟨ht, bucket, dir, rfl, hb⟩, rfl⟩
      rw [ofList_eq_iff] at ht
      exact ⟨ht ▸ hv, hn, hp, hs, ⟨flag, hf, rfl⟩, ⟨bucket, dir, rfl, hb⟩⟩
    · rintro ⟨ht, hn, hp, hs, ⟨flag, hf, hr⟩, ⟨bucket, dir, hm, hb⟩⟩
      have hcos : String.ofList v = "cos" := ofList_eq_iff.2 (Option.some.inj (hv.symm.trans ht))
      refine ⟨_, rfl, m.name, hn, m.mountPath, ⟨hp, hs⟩, flag, hf, _,
        ⟨hcos, bucket, dir, rfl, hb⟩, ?_⟩
      rw [← hr, ← hm]
  · next hv =>
    refine ⟨fun h => ?_, fun h => ?_⟩
    · cases h
    · rw [h.type] at hv
      cases hv

end Mount

/-! ## The image of reading -/

namespace StorageMount

/-- A string without a comma and without a blank at its ends. -/
def IsPlainText (s : String) : Prop := ',' ∉ s.toList ∧ Text.trimString s = s

theorem isPlainText_iff {s : String} : IsPlainText s ↔ Mount.IsPlain s.toList := by
  rw [IsPlainText, Mount.IsPlain, Text.trimString, ofList_eq_iff]

/-- A mount that some specification describes: its source is in an object store, its names are not
empty, its paths are absolute, an endpoint that is given is not empty, and all these texts can stand
in a specification as they are. -/
def IsExpressible (m : StorageMount) : Prop :=
  ∃ bucketName bucketPath endpoint, m.source = some (.cos bucketName bucketPath endpoint) ∧
    m.name ≠ "" ∧ bucketName ≠ "" ∧ m.mountPath.toList.head? = some '/' ∧
    bucketPath.toList.head? = some '/' ∧ endpoint ≠ some "" ∧
    ∀ s ∈ [m.name, m.mountPath, bucketName, bucketPath] ++ endpoint.toList, IsPlainText s

/-- A value given in a specification is neither empty nor in need of trimming. -/
theorem isPlainText_of_given? {spec : List Char} {key s : String}
    (h : Mount.given? key (Mount.bindings spec) = some s.toList) : s ≠ "" ∧ IsPlainText s := by
  obtain ⟨hv, hne⟩ := Mount.given?_eq_some_iff.1 h
  obtain ⟨b, hb, hbs⟩ := Mount.mem_of_lastValue? hv
  refine ⟨fun hs => hne (by rw [hs]; rfl), isPlainText_iff.2 ?_⟩
  rw [← hbs]
  exact Mount.isPlain_of_mem_bindings hb

theorem isExpressible_of_parse {spec : String} {m : StorageMount} (h : parse spec = .ok m) :
    m.IsExpressible := by
  obtain ⟨-, hname, hpath, habs, -, bucket, dir, hsrc, hbucket, hdir, hdirabs⟩ :=
    Mount.ofBindings_eq_ok_iff.1 h
  have hend {e : String} (he : Mount.optional "endpoint" (Mount.bindings spec.toList) = some e) :=
    isPlainText_of_given? (Mount.optional_eq_some_iff.1 he)
  refine ⟨bucket, dir, _, hsrc, (isPlainText_of_given? hname).1, (isPlainText_of_given? hbucket).1,
    habs, hdirabs, fun he => (hend he).1 rfl, fun s hs => ?_⟩
  rcases List.mem_append.1 hs with hs | hs
  · simp only [List.mem_cons, List.not_mem_nil, or_false] at hs
    rcases hs with rfl | rfl | rfl | rfl
    · exact (isPlainText_of_given? hname).2
    · exact (isPlainText_of_given? hpath).2
    · exact (isPlainText_of_given? hbucket).2
    · exact (isPlainText_of_given? hdir).2
  · exact (hend (Option.mem_toList.1 hs)).2

/-! ## Reading what was written -/

/-- The bindings that a mount with these texts is written as. -/
def specBindings (name path bucket dir : String) (readOnly : Bool) (endpoint : Option String) :
    List (List Char × List Char) :=
  [("type".toList, "cos".toList), ("name".toList, name.toList), ("bucket".toList, bucket.toList),
    ("src".toList, dir.toList), ("dst".toList, path.toList)] ++
  (if readOnly then [("readonly".toList, "true".toList)] else []) ++
  endpoint.toList.map fun e => ("endpoint".toList, e.toList)

theorem writes_field {label value : String} {key : List Char} {ps : List (List Char)}
    {bs : List (List Char × List Char)} (hl : label.toList = key ++ ['=']) (hk : Mount.IsKey key)
    (hv : IsPlainText value) (h : Mount.Writes ps bs) :
    Mount.Writes ((label ++ value).toList :: ps) ((key, value.toList) :: bs) := by
  rw [String.toList_append, hl, List.append_assoc, List.singleton_append]
  exact .value hk (isPlainText_iff.1 hv) h

theorem bindings_spec {name path bucket dir : String} {readOnly : Bool} {endpoint : Option String}
    (h : ∀ s ∈ [name, path, bucket, dir] ++ endpoint.toList, IsPlainText s) :
    Mount.bindings (spec ⟨name, path, readOnly, some (.cos bucket dir endpoint)⟩).toList =
      specBindings name path bucket dir readOnly endpoint := by
  have hendpoint : Mount.Writes ((endpoint.toList.map ("endpoint=" ++ ·)).map String.toList)
      (endpoint.toList.map fun e => ("endpoint".toList, e.toList)) := by
    cases endpoint with
    | none => exact .nil
    | some e => exact writes_field rfl (by decide) (h e (by simp)) .nil
  have hflag : Mount.Writes
      (((if readOnly then ["readonly"] else []) ++ endpoint.toList.map ("endpoint=" ++ ·)).map
        String.toList)
      ((if readOnly then [("readonly".toList, "true".toList)] else []) ++
        endpoint.toList.map fun e => ("endpoint".toList, e.toList)) := by
    cases readOnly with
    | false => exact hendpoint
    | true => exact .bare (by decide) hendpoint
  have hwrites : Mount.Writes
      ((specParts ⟨name, path, readOnly, some (.cos bucket dir endpoint)⟩).map String.toList)
      (specBindings name path bucket dir readOnly endpoint) := by
    simp only [specParts, specBindings, List.append_assoc]
    rw [show "type=cos" = "type=" ++ "cos" from rfl]
    refine writes_field rfl (by decide) (isPlainText_iff.2 (by decide)) ?_
    refine writes_field rfl (by decide) (h name (by simp)) ?_
    refine writes_field rfl (by decide) (h bucket (by simp)) ?_
    refine writes_field rfl (by decide) (h dir (by simp)) ?_
    exact writes_field rfl (by decide) (h path (by simp)) hflag
  rw [spec, String.toList_intercalate]
  exact hwrites.bindings_intercalate (by simp [specParts])

section

variable (name path bucket dir : String) (readOnly : Bool) (endpoint : Option String)

theorem lastValue?_endpoint :
    Mount.lastValue? "endpoint".toList (specBindings name path bucket dir readOnly endpoint) =
      endpoint.map String.toList := by
  cases readOnly <;> cases endpoint <;> rfl

theorem lastValue?_readonly :
    Mount.lastValue? "readonly".toList (specBindings name path bucket dir readOnly endpoint) =
      if readOnly then some "true".toList else none := by
  cases readOnly <;> cases endpoint <;> rfl

/-- The flag and the endpoint are not in the way of the other fields. -/
theorem given?_specBindings {key value : String} (hr : "readonly".toList ≠ key.toList)
    (he : "endpoint".toList ≠ key.toList) (hne : value.toList ≠ [])
    (h : Mount.lastValue? key.toList [("type".toList, "cos".toList), ("name".toList, name.toList),
      ("bucket".toList, bucket.toList), ("src".toList, dir.toList), ("dst".toList, path.toList)] =
        some value.toList) :
    Mount.given? key (specBindings name path bucket dir readOnly endpoint) = some value.toList := by
  have hflag : Mount.lastValue? key.toList
      (if readOnly then [("readonly".toList, "true".toList)] else []) = none := by
    cases readOnly with
    | false => rfl
    | true => exact Mount.lastValue?_singleton_of_ne hr _
  have hendpoint : Mount.lastValue? key.toList
      (endpoint.toList.map fun e => ("endpoint".toList, e.toList)) = none := by
    cases endpoint with
    | none => rfl
    | some e => exact Mount.lastValue?_singleton_of_ne he _
  rw [Mount.given?_eq_some_iff, specBindings, Mount.lastValue?_append, Mount.lastValue?_append,
    hflag, hendpoint, Option.none_or, Option.none_or]
  exact ⟨h, hne⟩

theorem optional_specBindings (hend : endpoint ≠ some "") :
    Mount.optional "endpoint" (specBindings name path bucket dir readOnly endpoint) =
      endpoint := by
  cases endpoint with
  | none =>
    rw [Mount.optional, Mount.given?, lastValue?_endpoint]
    rfl
  | some e =>
    have he : e.toList ≠ [] := fun h => hend (congrArg some (String.toList_eq_nil_iff.1 h))
    exact Mount.optional_eq_some_iff.2
      (Mount.given?_eq_some_iff.2 ⟨lastValue?_endpoint _ _ _ _ _ _, he⟩)

theorem describes_specBindings (hname : name ≠ "") (hbucket : bucket ≠ "")
    (hpath : path.toList.head? = some '/') (hdir : dir.toList.head? = some '/')
    (hend : endpoint ≠ some "") :
    Mount.Describes (specBindings name path bucket dir readOnly endpoint)
      ⟨name, path, readOnly, some (.cos bucket dir endpoint)⟩ := by
  have hne {s : String} (hs : s ≠ "") : s.toList ≠ [] :=
    fun h => hs (String.toList_eq_nil_iff.1 h)
  have habs {s : String} (hs : s.toList.head? = some '/') : s.toList ≠ [] := by
    intro h
    rw [h] at hs
    cases hs
  constructor
  case type => exact given?_specBindings _ _ _ _ _ _ (by decide) (by decide) (by decide) rfl
  case name => exact given?_specBindings _ _ _ _ _ _ (by decide) (by decide) (hne hname) rfl
  case mountPath => exact given?_specBindings _ _ _ _ _ _ (by decide) (by decide) (habs hpath) rfl
  case mountPath_absolute => exact hpath
  case readOnly =>
    refine ⟨if readOnly then some true else none, ?_, by cases readOnly <;> rfl⟩
    rw [Mount.flag?, lastValue?_readonly]
    cases readOnly <;> rfl
  case source =>
    refine ⟨bucket, dir, ?_, ?_, ?_, hdir⟩
    · rw [optional_specBindings _ _ _ _ _ _ hend]
    · exact given?_specBindings _ _ _ _ _ _ (by decide) (by decide) (hne hbucket) rfl
    · exact given?_specBindings _ _ _ _ _ _ (by decide) (by decide) (habs hdir) rfl

end

theorem parse_spec {m : StorageMount} (h : m.IsExpressible) : parse m.spec = .ok m := by
  obtain ⟨name, path, readOnly, source⟩ := m
  obtain ⟨bucket, dir, endpoint, rfl, hname, hbucket, hpath, hdir, hend, hplain⟩ := h
  rw [parse, bindings_spec hplain]
  exact Mount.ofBindings_eq_ok_iff.2
    (describes_specBindings name path bucket dir readOnly endpoint hname hbucket hpath hdir hend)

/-- The mounts that are read from specifications are the expressible ones, and also those that are
read back from the specification written for them.  So reading, writing and reading again gives the
mount that was read first. -/
theorem parse_image (m : StorageMount) :
    ((∃ s, parse s = .ok m) ↔ m.IsExpressible) ∧ (parse m.spec = .ok m ↔ m.IsExpressible) ∧
      ∀ s m', parse s = .ok m' → parse m'.spec = .ok m' := by
  refine ⟨⟨?_, fun h => ⟨m.spec, parse_spec h⟩⟩, ⟨isExpressible_of_parse, parse_spec⟩, ?_⟩
  · rintro ⟨s, h⟩
    exact isExpressible_of_parse h
  · exact fun s m' h => parse_spec (isExpressible_of_parse h)

/-- A specification in no good order is read as the mount that its tidy form is read as. -/
theorem parse_image_untidy :
    parse " name=old, type = cos,,dst=/mnt ,bucket=b,src=/a=b,Readonly,readonly,name = new\u3000" =
        .ok ⟨"new", "/mnt", true, some (.cos "b" "/a=b" none)⟩ ∧
      parse (spec ⟨"new", "/mnt", true, some (.cos "b" "/a=b" none)⟩) =
        .ok ⟨"new", "/mnt", true, some (.cos "b" "/a=b" none)⟩ :=
  have h := by rfl
  ⟨h, (parse_image ⟨"new", "/mnt", true, some (.cos "b" "/a=b" none)⟩).2.2 _ _ h⟩

end StorageMount

end AgentSandbox
