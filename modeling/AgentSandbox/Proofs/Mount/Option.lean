import Mathlib.Data.List.DropRight
import AgentSandbox.Mount.Option
import AgentSandbox.Proofs.Text.Blank

/-!
# Mount options in turn

What some options in turn make of a mount has a closed form (`applyAll_closed_form`): the options
for other mounts do nothing, the last target path holds, one option that forces reading only is
enough, and the sub-paths are joined to one.  Joining paths with one solidus at the joint is
associative (`joinPath_assoc`), also for paths of solidi only, so a bucket path that is extended
step by step is extended once by the joined sub-path.
-/

namespace AgentSandbox

/-! ## Joining paths -/

namespace Mount

/-- Two paths with one solidus at the joint; those at the other ends are kept. -/
def joinPath (path subPath : String) : String :=
  Text.dropEndSlashes path ++ "/" ++ Text.dropSlashes subPath

theorem toList_joinPath (path subPath : String) : (joinPath path subPath).toList =
    Text.dropEndWhile (· == '/') path.toList ++ '/' :: subPath.toList.dropWhile (· == '/') := by
  simp [joinPath, Text.dropEndSlashes, Text.dropSlashes]

/-- All characters satisfy `p`, or there is a first one that does not. -/
theorem all_or_first_not (p : Char → Bool) (cs : List Char) : (∀ c ∈ cs, p c = true) ∨
    ∃ a c b, (∀ d ∈ a, p d = true) ∧ p c = false ∧ cs = a ++ c :: b := by
  induction cs with
  | nil => exact .inl nofun
  | cons c cs ih =>
    cases hc : p c with
    | false => exact .inr ⟨[], c, cs, nofun, hc, rfl⟩
    | true =>
      refine ih.imp (fun h => List.forall_mem_cons.2 ⟨hc, h⟩) ?_
      rintro ⟨a, d, b, ha, hd, rfl⟩
      exact ⟨c :: a, d, b, List.forall_mem_cons.2 ⟨hc, ha⟩, hd, rfl⟩

/-- Where texts are joined by one character of a kind, of which nothing else is kept at the joint,
it does not matter which joint is made first. -/
theorem joint_assoc {p : Char → Bool} {j : Char} (hj : p j = true) (a b c : List Char) :
    Text.dropEndWhile p (Text.dropEndWhile p a ++ j :: b.dropWhile p) ++ j :: c.dropWhile p =
      Text.dropEndWhile p a ++ j :: (Text.dropEndWhile p b ++ j :: c.dropWhile p).dropWhile p := by
  rcases all_or_first_not p b with hb | ⟨s, x, t, hs, hx, rfl⟩
  · -- Nothing is left of `b`, and the two joints become the one of its neighbours.
    have hstart : b.dropWhile p = [] := by
      rw [← List.append_nil b, List.dropWhile_append_of_pos hb, List.dropWhile_nil]
    have hend : Text.dropEndWhile p b = [] := Text.dropEndWhile_append hb []
    have hidem : Text.dropEndWhile p (Text.dropEndWhile p a) = Text.dropEndWhile p a :=
      List.rdropWhile_idempotent _ _
    rw [hstart, hend, Text.dropEndWhile_append (by simpa using hj), hidem, List.nil_append,
      List.dropWhile_cons_of_pos hj, List.dropWhile_idempotent]
  · -- The first other character of `b` keeps the two joints apart.
    have hstart (u : List Char) : (s ++ x :: u).dropWhile p = x :: u := by
      rw [List.dropWhile_append_of_pos hs, List.dropWhile_cons_of_neg (by simp [hx])]
    calc Text.dropEndWhile p (Text.dropEndWhile p a ++ j :: (s ++ x :: t).dropWhile p) ++
          j :: c.dropWhile p
        = Text.dropEndWhile p ((Text.dropEndWhile p a ++ [j]) ++ x :: t) ++ j :: c.dropWhile p := by
          rw [hstart, List.append_assoc, List.singleton_append]
      _ = Text.dropEndWhile p a ++ j :: x :: (Text.dropEndWhile p t ++ j :: c.dropWhile p) := by
          rw [Text.dropEndWhile_append_cons hx]
          simp only [List.append_assoc, List.cons_append, List.nil_append]
      _ = _ := by
          rw [Text.dropEndWhile_append_cons hx, List.append_assoc, List.cons_append, hstart]

/-- Joining paths is associative. -/
theorem joinPath_assoc (a b c : String) :
    joinPath (joinPath a b) c = joinPath a (joinPath b c) := by
  rw [← String.toList_inj]
  simp only [toList_joinPath]
  exact joint_assoc (by decide) _ _ _

instance : Std.Associative joinPath := ⟨joinPath_assoc⟩

/-- The sub-path that leads where some sub-paths in turn lead. -/
def joinedPath? : List String → Option String
  | [] => none
  | s :: ss => some (ss.foldl joinPath s)

theorem foldl_joinPath (path : String) (ss : List String) :
    ss.foldl joinPath path = (joinedPath? ss).elim path (joinPath path) := by
  cases ss with
  | nil => rfl
  | cons s ss => exact List.foldl_assoc

/-- The source with the same bucket and endpoint and another path in the bucket. -/
def withPath (f : String → String) : StorageSource → StorageSource
  | .cos bucketName bucketPath endpoint => .cos bucketName (f bucketPath) endpoint

theorem withPath_id : withPath (fun path => path) = id :=
  funext fun | .cos .. => rfl

theorem below_eq_withPath (subPath : String) (source : StorageSource) :
    source.below subPath = withPath (joinPath · subPath) source := by
  cases source
  rfl

/-- The source below some sub-paths in turn. -/
theorem foldl_below (subPaths : List String) (source : StorageSource) :
    subPaths.foldl (fun source p => source.below p) source =
      withPath (fun path => subPaths.foldl joinPath path) source := by
  induction subPaths generalizing source with
  | nil => exact (congrFun withPath_id source).symm
  | cons p ps ih =>
    rw [List.foldl_cons, ih, below_eq_withPath]
    cases source
    rfl

end Mount

/-! ## Options in turn -/

namespace MountOption

/-- Those of some options that are for mounts of this name. -/
def named (name : String) (os : List MountOption) : List MountOption :=
  os.filter fun o => o.name = name

theorem toOption_apply (o : MountOption) (m : StorageMount) :
    (o.apply m).toOption.getD m = if o.name = m.name then o.change m else m := by
  unfold apply
  split <;> rfl

theorem applyAll_cons (o : MountOption) (os : List MountOption) (m : StorageMount) :
    applyAll (o :: os) m = applyAll os (if o.name = m.name then o.change m else m) := by
  rw [applyAll, List.foldl_cons, toOption_apply, applyAll]

/-- Options for other mounts do nothing, and the others make their changes. -/
theorem applyAll_eq_foldl (os : List MountOption) (m : StorageMount) :
    applyAll os m = (named m.name os).foldl (fun m o => o.change m) m := by
  induction os generalizing m with
  | nil => rfl
  | cons o os ih =>
    rw [applyAll_cons, ih]
    by_cases h : o.name = m.name
    · rw [if_pos h, named, named, List.filter_cons_of_pos (by simpa using h), List.foldl_cons]
      rfl
    · rw [if_neg h, named, named, List.filter_cons_of_neg (by simpa using h)]

section

variable (os : List MountOption) (m : StorageMount)

theorem name_foldl_change : (os.foldl (fun m o => o.change m) m).name = m.name := by
  induction os generalizing m with
  | nil => rfl
  | cons o os ih => exact ih (o.change m)

theorem mountPath_foldl_change : (os.foldl (fun m o => o.change m) m).mountPath =
    (os.filterMap (·.mountPath)).getLast?.getD m.mountPath := by
  induction os generalizing m with
  | nil => rfl
  | cons o os ih =>
    rw [List.foldl_cons, ih]
    cases h : o.mountPath with
    | none => rw [List.filterMap_cons_none h, change, h, Option.getD_none]
    | some path =>
      rw [List.filterMap_cons_some h, List.getLast?_cons, change, h, Option.getD_some,
        Option.getD_some]

theorem readOnly_foldl_change : (os.foldl (fun m o => o.change m) m).readOnly = true ↔
    m.readOnly = true ∨ ∃ o ∈ os, o.readOnly = .force := by
  induction os generalizing m with
  | nil => simp
  | cons o os ih =>
    rw [List.foldl_cons, ih, List.exists_mem_cons_iff, change]
    simp [or_assoc]

theorem source_foldl_change : (os.foldl (fun m o => o.change m) m).source =
    m.source.map ((os.filterMap (·.subPath)).foldl fun source p => source.below p) := by
  induction os generalizing m with
  | nil => simp
  | cons o os ih =>
    rw [List.foldl_cons, ih]
    cases h : o.subPath with
    | none => rw [List.filterMap_cons_none h, change, h]
    | some path =>
      rw [List.filterMap_cons_some h, change, h, Option.map_map]
      rfl

end

/-- What is shown for an option after some others: the mount that it makes of theirs, or that it is
for another mount. -/
theorem getElem?_applyEach {ε : Type} (fault : MountError → ε) (os : List MountOption)
    (m : StorageMount) (i : Nat) : (applyEach fault (os.map .ok) m)[i]? =
      os[i]?.map fun (o : MountOption) => if o.name = m.name then .ok (applyAll (os.take (i + 1)) m)
        else .error (fault (.nameMismatch o.name m.name)) := by
  induction os generalizing m i with
  | nil => rfl
  | cons o os ih =>
    rw [List.map_cons, applyEach]
    cases i with
    | zero =>
      rw [List.getElem?_cons_zero, List.getElem?_cons_zero, Option.map_some, List.take_succ_cons,
        List.take_zero, applyAll_cons, apply]
      by_cases h : o.name = m.name
      · rw [if_pos h, if_pos h, if_pos h]
        rfl
      · rw [if_neg h, if_neg h]
        rfl
    | succ i =>
      have hname : (if o.name = m.name then o.change m else m).name = m.name := by
        split <;> rfl
      rw [List.getElem?_cons_succ, List.getElem?_cons_succ, toOption_apply, ih, hname,
        List.take_succ_cons, applyAll_cons]

/-- Some options in turn have a closed form.  Each of them fails exactly if it is for a mount of
another name, and then it leaves the mount as it is.  In the end the mount has its name, the last
target path that an option for it gives, and is read-only if it was or if such an option forces it.
Its source has the same bucket and endpoint, and the path in the bucket is extended by the sub-path
of each such option that has one, which is the same as extending it once by the sub-paths joined. -/
theorem applyAll_closed_form {ε : Type} (fault : MountError → ε) (os : List MountOption)
    (m : StorageMount) :
    (∀ i : Nat, (applyEach fault (os.map .ok) m)[i]? = os[i]?.map fun (o : MountOption) =>
      if o.name = m.name then Except.ok (applyAll (os.take (i + 1)) m)
      else Except.error (fault (.nameMismatch o.name m.name))) ∧
    (applyAll os m).name = m.name ∧
    (applyAll os m).mountPath =
      ((named m.name os).filterMap (·.mountPath)).getLast?.getD m.mountPath ∧
    ((applyAll os m).readOnly = true ↔
      m.readOnly = true ∨ ∃ o ∈ named m.name os, o.readOnly = .force) ∧
    (applyAll os m).source = m.source.map (Mount.withPath fun path =>
      ((named m.name os).filterMap (·.subPath)).foldl Mount.joinPath path) ∧
    (applyAll os m).source = (change ⟨m.name, none,
      Mount.joinedPath? ((named m.name os).filterMap (·.subPath)), .inherit⟩ m).source := by
  have hsource : (applyAll os m).source = m.source.map (Mount.withPath fun path =>
      ((named m.name os).filterMap (·.subPath)).foldl Mount.joinPath path) := by
    rw [applyAll_eq_foldl, source_foldl_change]
    congr 1
    exact funext (Mount.foldl_below _)
  refine ⟨getElem?_applyEach fault os m, ?_, ?_, ?_, hsource, ?_⟩
  · rw [applyAll_eq_foldl, name_foldl_change]
  · rw [applyAll_eq_foldl, mountPath_foldl_change]
  · rw [applyAll_eq_foldl, readOnly_foldl_change]
  · rw [hsource, change]
    simp only [Mount.foldl_joinPath]
    cases Mount.joinedPath? ((named m.name os).filterMap (·.subPath)) with
    | none => simp only [Option.elim_none, Mount.withPath_id, Option.map_id, id]
    | some path => simp only [Option.elim_some, Mount.below_eq_withPath]

/-- Sub-paths of solidi only lead nowhere, and the solidi at the end of the last one are kept. -/
example : (applyAll
      [⟨"data", none, some "//", .inherit⟩, ⟨"logs", some "/", some "x", .force⟩,
        ⟨"data", none, some "/a /", .inherit⟩, ⟨"data", none, some "b//", .inherit⟩]
      ⟨"data", "/mnt", false, some (.cos "bucket" "/" none)⟩) =
    ⟨"data", "/mnt", false, some (.cos "bucket" "/a /b//" none)⟩ := by
  decide

end MountOption

end AgentSandbox
