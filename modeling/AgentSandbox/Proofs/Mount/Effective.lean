import AgentSandbox.Proofs.Mount.Grammar
import AgentSandbox.Proofs.Mount.Option

/-!
# Effective mounts

`StorageMount.IsEffective` holds of the mounts of specifications and of what options of
specifications make of them, in any number.  No such change leaves the mounts that specifications
can express (`isExpressible_change`): a target path that an option gives can stand in a
specification as it is, and so can a bucket path that is joined with a sub-path, which keeps the
solidus at its start.  So every effective mount is read back from the specification that is written
for it (`parse_spec_effective`).
-/

namespace AgentSandbox

open StorageMount (IsPlainText isPlainText_iff)

/-! ## Joined paths in a specification -/

namespace Mount

theorem head?_joinPath {path : String} (h : path.toList.head? = some '/') (subPath : String) :
    (joinPath path subPath).toList.head? = some '/' := by
  obtain ⟨b, -, hb⟩ := Text.exists_blanks_dropEndWhile (· == '/') path.toList
  rw [toList_joinPath]
  cases hE : Text.dropEndWhile (· == '/') path.toList with
  | nil => rfl
  | cons c cs =>
    rw [hb, hE] at h
    exact h

theorem getLast?_joinPath {path subPath : String} {c : Char}
    (h : (joinPath path subPath).toList.getLast? = some c) :
    c = '/' ∨ subPath.toList.getLast? = some c := by
  rw [toList_joinPath, List.getLast?_append, List.getLast?_cons, Option.some_or,
    Option.some.injEq] at h
  cases hD : (subPath.toList.dropWhile (· == '/')).getLast? with
  | none =>
    rw [hD] at h
    exact .inl h.symm
  | some d =>
    rw [hD, Option.getD_some] at h
    refine .inr ?_
    rw [← List.takeWhile_append_dropWhile (p := (· == '/')) (l := subPath.toList),
      List.getLast?_append, hD, h, Option.some_or]

/-- A path that is joined from two texts that can stand in a specification, the first of them an
absolute path, can stand in one, too. -/
theorem isPlainText_joinPath {path subPath : String} (hpath : IsPlainText path)
    (habs : path.toList.head? = some '/') (hsub : IsPlainText subPath) :
    IsPlainText (joinPath path subPath) := by
  rw [isPlainText_iff] at hpath hsub ⊢
  refine ⟨fun hc => ?_, Text.trim_eq_self_iff.2 ⟨fun c hc => ?_, fun c hc => ?_⟩⟩
  · obtain ⟨b, -, hb⟩ := Text.exists_blanks_dropEndWhile (· == '/') path.toList
    rw [toList_joinPath, List.mem_append, List.mem_cons] at hc
    rcases hc with hc | hc | hc
    · exact hpath.1 (hb ▸ List.mem_append_left b hc)
    · cases hc
    · exact hsub.1 ((List.dropWhile_suffix _).subset hc)
  · rw [head?_joinPath habs] at hc
    cases hc
    decide
  · rcases getLast?_joinPath hc with rfl | hc
    · decide
    · exact (Text.trim_eq_self_iff.1 hsub.2).2 c hc

end Mount

/-! ## Options from specifications -/

/-- A mount option whose paths can stand in a specification as they are, its target path being
absolute. -/
structure MountOption.IsExpressible (o : MountOption) : Prop where
  mountPath : ∀ path ∈ o.mountPath, IsPlainText path ∧ path.toList.head? = some '/'
  subPath : ∀ path ∈ o.subPath, IsPlainText path

theorem MountOption.isExpressible_of_parse {spec : String} {o : MountOption}
    (h : parse spec = .ok o) : o.IsExpressible := by
  obtain ⟨-, ⟨hpath, habs⟩, hsub, -⟩ := Mount.optionOfBindings_eq_ok_iff.1 h
  rw [← Mount.optional_eq] at hpath hsub
  have hplain {key path : String}
      (hk : Mount.optional key (Mount.bindings spec.toList) = some path) : IsPlainText path :=
    (StorageMount.isPlainText_of_given? (Mount.optional_eq_some_iff.1 hk)).2
  exact ⟨fun path hp => ⟨hplain (hpath ▸ hp), habs path hp⟩, fun path hp => hplain (hsub ▸ hp)⟩

theorem MountOption.apply_eq_ok_iff {o : MountOption} {m m' : StorageMount} :
    o.apply m = .ok m' ↔ o.name = m.name ∧ o.change m = m' := by
  unfold apply
  split
  · next h => rw [Except.ok.injEq, and_iff_right h]
  · next h => simp [h]

/-! ## Effective mounts -/

namespace StorageMount

theorem mountPath_change {m : StorageMount} {o : MountOption} (ho : o.IsExpressible)
    (hplain : IsPlainText m.mountPath) (habs : m.mountPath.toList.head? = some '/') :
    IsPlainText (o.change m).mountPath ∧ (o.change m).mountPath.toList.head? = some '/' := by
  rw [MountOption.change]
  cases hp : o.mountPath with
  | none => exact ⟨hplain, habs⟩
  | some path => exact ho.mountPath path hp

theorem source_change {m : StorageMount} {o : MountOption} {bucket dir : String}
    {endpoint : Option String} (ho : o.IsExpressible)
    (hsrc : m.source = some (.cos bucket dir endpoint)) (hplain : IsPlainText dir)
    (habs : dir.toList.head? = some '/') :
    ∃ dir', (o.change m).source = some (.cos bucket dir' endpoint) ∧ IsPlainText dir' ∧
      dir'.toList.head? = some '/' := by
  rw [MountOption.change, hsrc]
  cases hs : o.subPath with
  | none => exact ⟨dir, rfl, hplain, habs⟩
  | some sub =>
    exact ⟨Mount.joinPath dir sub, rfl,
      Mount.isPlainText_joinPath hplain habs (ho.subPath sub hs), Mount.head?_joinPath habs sub⟩

/-- An option of a specification makes nothing that specifications cannot express. -/
theorem isExpressible_change {m : StorageMount} {o : MountOption} (hm : m.IsExpressible)
    (ho : o.IsExpressible) : (o.change m).IsExpressible := by
  obtain ⟨bucket, dir, endpoint, hsrc, hname, hbucket, hpath, hdir, hend, hplain⟩ := hm
  obtain ⟨hplainName, hplainPath, hplainBucket, hplainDir⟩ :
      IsPlainText m.name ∧ IsPlainText m.mountPath ∧ IsPlainText bucket ∧ IsPlainText dir := by
    simpa using fun s hs => hplain s (List.mem_append_left _ hs)
  obtain ⟨hplainPath', hpath'⟩ := mountPath_change ho hplainPath hpath
  obtain ⟨dir', hsrc', hplainDir', hdir'⟩ := source_change ho hsrc hplainDir hdir
  refine ⟨bucket, dir', endpoint, hsrc', hname, hbucket, hpath', hdir', hend, fun s hs => ?_⟩
  rcases List.mem_append.1 hs with hs | hs
  · simp only [List.mem_cons, List.not_mem_nil, or_false] at hs
    rcases hs with rfl | rfl | rfl | rfl
    · exact hplainName
    · exact hplainPath'
    · exact hplainBucket
    · exact hplainDir'
  · exact hplain s (List.mem_append_right _ hs)

/-- The mounts that can take effect: those of specifications, and what an option of a specification
makes of one of them. -/
inductive IsEffective : StorageMount → Prop
  | declared {spec : String} {m : StorageMount} (h : parse spec = .ok m) : IsEffective m
  | applied {m m' : StorageMount} {spec : String} {o : MountOption} (hm : IsEffective m)
      (ho : MountOption.parse spec = .ok o) (h : o.apply m = .ok m') : IsEffective m'

theorem IsEffective.isExpressible {m : StorageMount} (h : IsEffective m) : m.IsExpressible := by
  induction h with
  | declared h => exact isExpressible_of_parse h
  | applied _ ho h ih =>
    obtain ⟨-, rfl⟩ := MountOption.apply_eq_ok_iff.1 h
    exact isExpressible_change ih (MountOption.isExpressible_of_parse ho)

/-- Every effective mount is read back from the specification written for it. -/
theorem parse_spec_effective {m : StorageMount} (h : IsEffective m) : parse m.spec = .ok m :=
  parse_spec h.isExpressible

/-- Sub-paths with blanks and solidi at their ends, one of which leads nowhere. -/
theorem parse_spec_effective_blanks :
    IsEffective ⟨"data", "/w", true, some (.cos "b" "/a / x//" none)⟩ ∧
      parse (spec ⟨"data", "/w", true, some (.cos "b" "/a / x//" none)⟩) =
        .ok ⟨"data", "/w", true, some (.cos "b" "/a / x//" none)⟩ := by
  have hdeclared : IsEffective ⟨"data", "/mnt", false, some (.cos "b" "/a /" none)⟩ :=
    .declared (show parse "type=cos,name=data,bucket=b,src=/a /,dst=/mnt" = _ from rfl)
  have hnowhere : IsEffective ⟨"data", "/w", false, some (.cos "b" "/a /" none)⟩ :=
    hdeclared.applied (show MountOption.parse "name=data,subpath=//,dst=/w" = _ from rfl) rfl
  have heffective : IsEffective ⟨"data", "/w", true, some (.cos "b" "/a / x//" none)⟩ :=
    hnowhere.applied (show MountOption.parse "name=data,readonly,subpath=/ x//" = _ from rfl) rfl
  exact ⟨heffective, parse_spec_effective heffective⟩

end StorageMount

end AgentSandbox
