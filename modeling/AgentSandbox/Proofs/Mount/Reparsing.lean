import AgentSandbox.Proofs.Mount.Grammar

/-!
# What written mounts are read as

Nothing is escaped in the specification of a mount.  So a text with a comma is cut at it: the field
is bound to the piece before the comma, and the other pieces bind what they look like, which may be
another field (`bindings_field`, `bindings_spec_eq`).  Without commas, a mount is read back with its
texts trimmed, or not at all (`parse_spec_trimmed`).
-/

namespace AgentSandbox

namespace Mount

/-- Joined texts bind what each of them binds, in turn. -/
theorem bindings_intercalate {ts : List (List Char)} (hne : ts ≠ []) :
    bindings ([','].intercalate ts) = ts.flatMap bindings := by
  induction ts with
  | nil => exact absurd rfl hne
  | cons t ts ih =>
    cases ts with
    | nil => rw [List.intercalate_singleton, List.flatMap_singleton]
    | cons u us =>
      rw [List.intercalate_cons_cons, List.append_assoc, List.singleton_append, List.flatMap_cons,
        ← ih (List.cons_ne_nil _ _)]
      simp only [bindings_eq_filterMap, pieces_append_cons, List.filterMap_append]

/-- What a field with a text binds: its key to the piece of the text before the first comma, and
whatever the other pieces bind. -/
def fieldBindings (key text : String) : List (List Char × List Char) :=
  match pieces ',' text.toList with
  | [] => []
  | first :: others => (key.toList, Text.trim first) :: others.filterMap bound?

theorem bindings_field (label key : String) (hlabel : label.toList = key.toList ++ ['='])
    (hkey : IsKey key.toList) (text : String) :
    bindings (label ++ text).toList = fieldBindings key text := by
  have hcomma : ',' ∉ key.toList ++ ['='] := by simpa using hkey.1.1
  obtain ⟨first, others, htext, hall⟩ := pieces_append_left hcomma text.toList
  rw [bindings_eq_filterMap, String.toList_append, hlabel, hall, fieldBindings, htext,
    List.append_assoc, List.singleton_append,
    List.filterMap_cons_some (bound?_pair hkey.2.2 first), hkey.1.2]

theorem fieldBindings_of_notMem {text : String} (h : ',' ∉ text.toList) (key : String) :
    fieldBindings key text = [(key.toList, (Text.trimString text).toList)] := by
  rw [fieldBindings, pieces_of_notMem h, Text.trimString, String.toList_ofList]
  rfl

/-- A field binds its key, and what the pieces of its text after a comma bind. -/
theorem mem_fieldBindings {key text : String} {b : List Char × List Char}
    (h : b ∈ fieldBindings key text) :
    b.1 = key.toList ∨ ∃ piece ∈ (pieces ',' text.toList).tail, Binds piece b.1 b.2 := by
  unfold fieldBindings at h
  split at h
  · cases h
  · next first others htext =>
    rcases List.mem_cons.1 h with rfl | h
    · exact .inl rfl
    · obtain ⟨piece, hpiece, hb⟩ := List.mem_filterMap.1 h
      rw [htext]
      exact .inr ⟨piece, hpiece, bound?_eq_some_iff.1 hb⟩

theorem mem_of_valueIn {bs : List (List Char × List Char)} {key value : String}
    (h : valueIn bs key = some value) : (key.toList, value.toList) ∈ bs := by
  obtain ⟨v, hv, rfl⟩ := Option.map_eq_some_iff.1 h
  obtain ⟨b, hb, rfl⟩ := Option.map_eq_some_iff.1 hv
  have hkey : b.1 = key.toList := by simpa using List.find?_some hb
  rw [← hkey, String.toList_ofList]
  exact List.mem_reverse.1 (List.mem_of_find?_eq_some hb)

theorem valueIn_eq_some {bs : List (List Char × List Char)} {key value : String}
    (h : lastValue? key.toList bs = some value.toList) : valueIn bs key = some value := by
  rw [valueIn, h, Option.map_some, String.ofList_toList]

end Mount

namespace StorageMount

/-- The texts of a mount. -/
def texts (m : StorageMount) : List String :=
  [m.name, m.mountPath] ++
    match m.source with
    | none => []
    | some (.cos bucketName bucketPath endpoint) => [bucketName, bucketPath] ++ endpoint.toList

/-- What the specification of a mount binds. -/
def written (m : StorageMount) : List (List Char × List Char) :=
  let flag := if m.readOnly then [("readonly".toList, "true".toList)] else []
  match m.source with
  | none => Mount.fieldBindings "name" m.name ++ Mount.fieldBindings "dst" m.mountPath ++ flag
  | some (.cos bucketName bucketPath endpoint) =>
    [("type".toList, "cos".toList)] ++ Mount.fieldBindings "name" m.name ++
      Mount.fieldBindings "bucket" bucketName ++ Mount.fieldBindings "src" bucketPath ++
      Mount.fieldBindings "dst" m.mountPath ++ flag ++
      endpoint.toList.flatMap (Mount.fieldBindings "endpoint")

theorem bindings_spec_eq (m : StorageMount) : Mount.bindings m.spec.toList = m.written := by
  have hparts : m.specParts ≠ [] := by
    unfold specParts
    cases m.source with
    | none => exact List.cons_ne_nil _ _
    | some source =>
      cases source
      exact List.cons_ne_nil _ _
  have htype : Mount.bindings "type=cos".toList = [("type".toList, "cos".toList)] := rfl
  have hflag : (if m.readOnly then ["readonly"] else []).flatMap (Mount.bindings ·.toList) =
      if m.readOnly then [("readonly".toList, "true".toList)] else [] := by
    cases m.readOnly <;> rfl
  have hname := Mount.bindings_field "name=" "name" rfl (by decide)
  have hpath := Mount.bindings_field "dst=" "dst" rfl (by decide)
  have hbucket := Mount.bindings_field "bucket=" "bucket" rfl (by decide)
  have hdir := Mount.bindings_field "src=" "src" rfl (by decide)
  have hend := Mount.bindings_field "endpoint=" "endpoint" rfl (by decide)
  rw [spec, String.toList_intercalate]
  rw [show ",".toList = [','] from rfl, Mount.bindings_intercalate (by simpa using hparts),
    List.flatMap_map, specParts, written]
  cases m.source with
  | none => simp only [List.flatMap_append, List.flatMap_cons, List.flatMap_nil, hname, hpath, hflag,
      List.append_nil]
  | some source =>
    cases source
    simp only [List.flatMap_append, List.flatMap_cons, List.flatMap_nil, List.flatMap_map, htype,
      hname, hbucket, hdir, hpath, hflag, hend, List.append_nil, List.append_assoc]

/-- The mount with its texts trimmed, and without an endpoint of which nothing is left. -/
def trimmed (m : StorageMount) : StorageMount where
  name := Text.trimString m.name
  mountPath := Text.trimString m.mountPath
  readOnly := m.readOnly
  source := m.source.map fun
    | .cos bucketName bucketPath endpoint =>
      .cos (Text.trimString bucketName) (Text.trimString bucketPath)
        (Text.nonEmpty (endpoint.map Text.trimString))

theorem valueIn_specBindings (name path bucket dir : String) (readOnly : Bool)
    (endpoint : Option String) :
    let value := Mount.valueIn (specBindings name path bucket dir readOnly endpoint)
    value "type" = some "cos" ∧ value "name" = some name ∧ value "bucket" = some bucket ∧
      value "src" = some dir ∧ value "dst" = some path ∧
      value "readonly" = (if readOnly then some "true" else none) ∧ value "endpoint" = endpoint := by
  have hflag : Mount.valueIn (specBindings name path bucket dir readOnly endpoint) "readonly" =
      if readOnly then some "true" else none := by
    rw [Mount.valueIn, lastValue?_readonly]
    cases readOnly <;> rfl
  have hend : Mount.valueIn (specBindings name path bucket dir readOnly endpoint) "endpoint" =
      endpoint := by
    rw [Mount.valueIn, lastValue?_endpoint, Option.map_map]
    cases endpoint <;> simp
  refine ⟨Mount.valueIn_eq_some ?_, Mount.valueIn_eq_some ?_, Mount.valueIn_eq_some ?_,
    Mount.valueIn_eq_some ?_, Mount.valueIn_eq_some ?_, hflag, hend⟩ <;>
  · cases readOnly <;> cases endpoint <;> rfl

/-- Texts that are bound as they are describe the mount that has them, without an empty endpoint. -/
theorem specifies_specBindings_iff {name path bucket dir : String} {readOnly : Bool}
    {endpoint : Option String} {m : StorageMount} :
    Mount.Specifies (Mount.valueIn (specBindings name path bucket dir readOnly endpoint)) m ↔
      m = ⟨name, path, readOnly, some (.cos bucket dir (Text.nonEmpty endpoint))⟩ ∧ name ≠ "" ∧
        Mount.IsAbsolute path ∧ bucket ≠ "" ∧ Mount.IsAbsolute dir := by
  obtain ⟨htype, hname, hbucket, hdir, hpath, hflag, hend⟩ :=
    valueIn_specBindings name path bucket dir readOnly endpoint
  have htrue : Mount.IsFlag "true" true := List.mem_cons_self
  generalize Mount.valueIn (specBindings name path bucket dir readOnly endpoint) = value at *
  constructor
  · obtain ⟨name', path', readOnly', source'⟩ := m
    rintro ⟨-, ⟨hn, hne⟩, ⟨hp, hpabs⟩, hread, b, d, rfl, ⟨hb, hbne⟩, hd, hdabs⟩
    obtain rfl := Option.some.inj (hname.symm.trans hn)
    obtain rfl := Option.some.inj (hpath.symm.trans hp)
    obtain rfl := Option.some.inj (hbucket.symm.trans hb)
    obtain rfl := Option.some.inj (hdir.symm.trans hd)
    obtain rfl : readOnly' = readOnly := by
      rw [hflag] at hread
      cases readOnly with
      | false => simpa using hread
      | true =>
        obtain ⟨s, hs, hb⟩ : ∃ s, some "true" = some s ∧ Mount.IsFlag s readOnly' := by
          simpa using hread
        cases hs
        exact hb.unique htrue
    exact ⟨by rw [hend], hne, hpabs, hbne, hdabs⟩
  · rintro ⟨rfl, hne, hpabs, hbne, hdabs⟩
    refine ⟨htype, ⟨hname, hne⟩, ⟨hpath, hpabs⟩, ?_, bucket, dir, ?_, ⟨hbucket, hbne⟩, hdir, hdabs⟩
    · rw [hflag]
      cases readOnly with
      | false => exact .inl ⟨rfl, rfl⟩
      | true => exact .inr ⟨"true", rfl, htrue⟩
    · rw [hend]

/-- Without commas, the texts are bound trimmed. -/
theorem written_of_notMem {name path bucket dir : String} {readOnly : Bool}
    {endpoint : Option String}
    (h : ∀ s ∈ texts ⟨name, path, readOnly, some (.cos bucket dir endpoint)⟩, ',' ∉ s.toList) :
    written ⟨name, path, readOnly, some (.cos bucket dir endpoint)⟩ =
      specBindings (Text.trimString name) (Text.trimString path) (Text.trimString bucket)
        (Text.trimString dir) readOnly (endpoint.map Text.trimString) := by
  obtain ⟨hname, hpath, hbucket, hdir, hend⟩ : ',' ∉ name.toList ∧ ',' ∉ path.toList ∧
      ',' ∉ bucket.toList ∧ ',' ∉ dir.toList ∧ ∀ e ∈ endpoint, ',' ∉ e.toList := by
    simpa [texts] using h
  simp only [written, specBindings, Mount.fieldBindings_of_notMem hname,
    Mount.fieldBindings_of_notMem hpath, Mount.fieldBindings_of_notMem hbucket,
    Mount.fieldBindings_of_notMem hdir]
  cases endpoint with
  | none => rfl
  | some e =>
    simp only [Option.toList_some, List.flatMap_singleton,
      Mount.fieldBindings_of_notMem (hend e rfl)]
    rfl

/-- The texts of a mount without a source bind a type only behind a comma. -/
theorem exists_binds_type {m : StorageMount} (h : m.source = none) {type : String}
    (htype : Mount.valueIn m.written "type" = some type) :
    ∃ s ∈ [m.name, m.mountPath], ∃ piece ∈ (Mount.pieces ',' s.toList).tail,
      Mount.Binds piece "type".toList type.toList := by
  have hmem := Mount.mem_of_valueIn htype
  have hflag : ("type".toList, type.toList) ∉
      if m.readOnly then [("readonly".toList, "true".toList)] else [] := by
    cases m.readOnly <;> simp
  simp only [written, h, List.mem_append, hflag, or_false] at hmem
  rcases hmem with hmem | hmem
  · obtain hkey | hpiece := Mount.mem_fieldBindings hmem
    · exact absurd hkey (show "type".toList ≠ "name".toList by decide)
    · exact ⟨m.name, by simp, hpiece⟩
  · obtain hkey | hpiece := Mount.mem_fieldBindings hmem
    · exact absurd hkey (show "type".toList ≠ "dst".toList by decide)
    · exact ⟨m.mountPath, by simp, hpiece⟩

theorem parse_spec_eq_missingType {m : StorageMount}
    (htype : Mount.valueIn m.written "type" = none) : parse m.spec = .error .missingType := by
  rw [parse, bindings_spec_eq, Mount.performs_ofBindings]
  refine .here ?_
  rintro ⟨s, hs, -⟩
  rw [htype] at hs
  cases hs

theorem parse_spec_eq_ok_iff {m m' : StorageMount} :
    parse m.spec = .ok m' ↔ Mount.Specifies (Mount.valueIn m.written) m' := by
  rw [parse, bindings_spec_eq, Mount.ofBindings_eq_ok_iff_specifies]

/-- Without commas, a mount is read back with its texts trimmed, or not at all. -/
theorem parse_spec_trimmed {m : StorageMount} (h : ∀ s ∈ m.texts, ',' ∉ s.toList)
    (m' : StorageMount) : parse m.spec = .ok m' ↔ m.trimmed = m' ∧ m'.IsExpressible := by
  obtain ⟨name, path, readOnly, source⟩ := m
  cases source with
  | none =>
    constructor
    · intro hm'
      obtain ⟨s, hs, piece, hpiece, -⟩ := exists_binds_type rfl (parse_spec_eq_ok_iff.1 hm').type
      rw [Mount.pieces_of_notMem (h s (List.mem_append_left _ hs))] at hpiece
      cases hpiece
    · rintro ⟨rfl, b, d, e, hsrc, -⟩
      cases hsrc
  | some source =>
    obtain ⟨bucket, dir, endpoint⟩ := source
    constructor
    · intro hm'
      refine ⟨?_, isExpressible_of_parse hm'⟩
      rw [parse_spec_eq_ok_iff, written_of_notMem h, specifies_specBindings_iff] at hm'
      exact hm'.1.symm
    · rintro ⟨rfl, b, d, e, hsrc, hname, hbucket, hpath, hdir, -⟩
      cases hsrc
      rw [parse_spec_eq_ok_iff, written_of_notMem h, specifies_specBindings_iff]
      exact ⟨rfl, hname, hpath, hbucket, hdir⟩

/-- The specification of a mount is read as the mount that the pieces of its texts describe, the
last binding of each key holding, and it is read as the mount itself exactly if the mount is
expressible.  If no text holds a comma, nothing else than the mount with its texts trimmed is read,
and this exactly if it is expressible.  A mount without a source is refused for the missing type,
unless its name or its path binds a type behind a comma. -/
theorem parse_written (m : StorageMount) :
    (∀ m', parse m.spec = .ok m' ↔ Mount.Specifies (Mount.valueIn m.written) m') ∧
    (parse m.spec = .ok m ↔ m.IsExpressible) ∧
    ((∀ s ∈ m.texts, ',' ∉ s.toList) →
      ∀ m', parse m.spec = .ok m' ↔ m.trimmed = m' ∧ m'.IsExpressible) ∧
    (m.source = none → parse m.spec = .error .missingType ∨
      ∃ s ∈ [m.name, m.mountPath], ∃ piece ∈ (Mount.pieces ',' s.toList).tail, ∃ type,
        Mount.Binds piece "type".toList type) := by
  refine ⟨fun _ => parse_spec_eq_ok_iff, ⟨isExpressible_of_parse, parse_spec⟩,
    parse_spec_trimmed, fun h => ?_⟩
  cases htype : Mount.valueIn m.written "type" with
  | none => exact .inl (parse_spec_eq_missingType htype)
  | some type =>
    obtain ⟨s, hs, piece, hpiece, hbinds⟩ := exists_binds_type h htype
    exact .inr ⟨s, hs, piece, hpiece, _, hbinds⟩

/-- A mount with blanks at the ends of its texts and an empty endpoint, and one without a source
whose path binds no type. -/
theorem parse_written_blanks :
    parse (spec ⟨" data", "/m\t", true, some (.cos "b" "/s" (some " "))⟩) =
        .ok ⟨"data", "/m", true, some (.cos "b" "/s" none)⟩ ∧
      parse (spec ⟨"data", "/m,typ=cos", false, none⟩) = .error .missingType := by
  have hcomma : ∀ s ∈ texts ⟨" data", "/m\t", true, some (.cos "b" "/s" (some " "))⟩,
      ',' ∉ s.toList := by decide
  have hexpressible : IsExpressible ⟨"data", "/m", true, some (.cos "b" "/s" none)⟩ :=
    ((parse_written _).2.1).1 (by rfl)
  refine ⟨((parse_written _).2.2.1 hcomma _).2 ⟨by decide, hexpressible⟩, ?_⟩
  have hkeys : ∀ s ∈ ["data", "/m,typ=cos"], ∀ piece ∈ (Mount.pieces ',' s.toList).tail,
      (Mount.bound? piece).map (·.1) ≠ some "type".toList := by decide
  refine ((parse_written ⟨"data", "/m,typ=cos", false, none⟩).2.2.2 rfl).resolve_right ?_
  rintro ⟨s, hs, piece, hpiece, type, hbinds⟩
  refine hkeys s hs piece hpiece ?_
  rw [Mount.bound?_eq_some_iff.2 hbinds, Option.map_some]

/-- A comma in a name, also in that of a mount without a source, and a blank at the start of one:
each of these mounts is read back as another one. -/
theorem parse_spec_other :
    parse (spec ⟨"a,readonly", "/m", false, some (.cos "b" "/s" none)⟩) =
        .ok ⟨"a", "/m", true, some (.cos "b" "/s" none)⟩ ∧
      parse (spec ⟨"a,type=cos,bucket=b,src=/s", "/m", false, none⟩) =
        .ok ⟨"a", "/m", false, some (.cos "b" "/s" none)⟩ ∧
      parse (spec ⟨" a", "/m", false, some (.cos "b" "/s" none)⟩) =
        .ok ⟨"a", "/m", false, some (.cos "b" "/s" none)⟩ :=
  ⟨by rfl, by rfl, by rfl⟩

end StorageMount

end AgentSandbox
