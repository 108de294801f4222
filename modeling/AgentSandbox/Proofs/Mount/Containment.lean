import Mathlib.Data.List.Induction
import AgentSandbox.Proofs.Mount.Effective

/-!
# Where sub-paths lead

`Mount.resolve` is the directory that a path in a bucket leads to when its segments are followed one
by one: empty ones and `.` stay, and `..` leaves the last directory.  `Mount.climb` is what the
segments of a sub-path do to any directory: `up` levels are left, and then a path leads down.

So a sub-path may lead out of the directory that a mount declares.  An option keeps all mounts of
its name inside their declared directories exactly if its sub-path at no point has left more
directories than it has entered (`staysWithin_iff`).
-/

namespace AgentSandbox

namespace Mount

/-! ## Following segments -/

/-- The segment that leads to the parent directory. -/
def parent : List Char := ['.', '.']

/-- A segment that leads nowhere. -/
def IsIdle (segment : List Char) : Prop := segment = [] ∨ segment = ['.']

instance (segment : List Char) : Decidable (IsIdle segment) := inferInstanceAs (Decidable (_ ∨ _))

/-- The name of a directory within another one. -/
def IsDirectory (segment : List Char) : Prop := ¬IsIdle segment ∧ segment ≠ parent

instance (segment : List Char) : Decidable (IsDirectory segment) :=
  inferInstanceAs (Decidable (_ ∧ _))

theorem not_isIdle_parent : ¬IsIdle parent := by decide

theorem segment_cases (segment : List Char) :
    IsIdle segment ∨ segment = parent ∨ IsDirectory segment := by
  unfold IsDirectory
  tauto

/-- The directory that a segment leads to; there is none above the topmost one. -/
def enter (dir : List (List Char)) (segment : List Char) : List (List Char) :=
  if IsIdle segment then dir
  else if segment = parent then dir.dropLast
  else dir ++ [segment]

/-- The directory that the segments of a path lead to, one after the other. -/
def follow (dir : List (List Char)) (path : List Char) : List (List Char) :=
  (pieces '/' path).foldl enter dir

/-- The directory that a path leads to from the topmost one. -/
def resolve (path : String) : List (List Char) := follow [] path.toList

/-- The path leads to the directory that `base` leads to, or to one below it. -/
def IsWithin (path base : String) : Prop := resolve base <+: resolve path

instance (path base : String) : Decidable (IsWithin path base) :=
  inferInstanceAs (Decidable (_ <+: _))

theorem follow_append_cons (dir : List (List Char)) (a b : List Char) :
    follow dir (a ++ '/' :: b) = follow (follow dir a) b := by
  rw [follow, pieces_append_cons, List.foldl_append, follow, follow]

theorem follow_cons (dir : List (List Char)) (cs : List Char) :
    follow dir ('/' :: cs) = follow dir cs :=
  follow_append_cons dir [] cs

theorem follow_solidi {b : List Char} (hb : ∀ c ∈ b, (c == '/') = true) (dir : List (List Char)) :
    follow dir b = dir := by
  induction b with
  | nil => rfl
  | cons c b ih =>
    obtain ⟨hc, hb⟩ := List.forall_mem_cons.1 hb
    rw [beq_iff_eq.1 hc, follow_cons, ih hb]

theorem follow_dropWhile (dir : List (List Char)) (cs : List Char) :
    follow dir (cs.dropWhile (· == '/')) = follow dir cs := by
  induction cs with
  | nil => rfl
  | cons c cs ih =>
    by_cases hc : c = '/'
    · rw [List.dropWhile_cons_of_pos (by simpa using hc), ih, hc, follow_cons]
    · rw [List.dropWhile_cons_of_neg (by simpa using hc)]

theorem follow_dropEndWhile (dir : List (List Char)) (cs : List Char) :
    follow dir (Text.dropEndWhile (· == '/') cs) = follow dir cs := by
  obtain ⟨b, hb, hcs⟩ := Text.exists_blanks_dropEndWhile (· == '/') cs
  cases b with
  | nil => rw [List.append_nil] at hcs; rw [← hcs]
  | cons c b =>
    obtain ⟨hc, hb⟩ := List.forall_mem_cons.1 hb
    rw [beq_iff_eq.1 hc] at hcs
    conv_rhs => rw [hcs, follow_append_cons, follow_solidi hb]

/-- A joined path leads where the second path leads from the first one. -/
theorem resolve_joinPath (path subPath : String) :
    resolve (joinPath path subPath) = follow (resolve path) subPath.toList := by
  rw [resolve, toList_joinPath, follow_append_cons, follow_dropWhile, follow_dropEndWhile, resolve]

/-! ## What segments do to any directory -/

/-- A way from a directory: some levels up, and then down a path. -/
structure Way where
  up : Nat
  down : List (List Char)

namespace Way

/-- The directory that a way leads to. -/
def reach (w : Way) (dir : List (List Char)) : List (List Char) :=
  dir.take (dir.length - w.up) ++ w.down

/-- The way with one more segment. -/
def enter (w : Way) (segment : List Char) : Way :=
  if IsIdle segment then w
  else if segment = parent then
    if w.down = [] then ⟨w.up + 1, []⟩ else ⟨w.up, w.down.dropLast⟩
  else ⟨w.up, w.down ++ [segment]⟩

theorem enter_reach (w : Way) (segment : List Char) (dir : List (List Char)) :
    Mount.enter (w.reach dir) segment = (w.enter segment).reach dir := by
  unfold Mount.enter enter
  split
  · rfl
  split
  · split
    · next hd =>
      simp only [reach, hd, List.append_nil, List.dropLast_eq_take, List.length_take, List.take_take,
        Nat.min_eq_left (Nat.sub_le _ _), Nat.sub_sub,
        Nat.min_eq_left (Nat.sub_le_sub_left (Nat.le_succ w.up) dir.length)]
    · next hd => rw [reach, reach, List.dropLast_append_of_ne_nil hd]
  · simp only [reach, List.append_assoc]

/-- The way does not leave the directory exactly if its path down leads back into what it left. -/
theorem prefix_reach_iff (w : Way) (dir : List (List Char)) :
    dir <+: w.reach dir ↔ dir.drop (dir.length - w.up) <+: w.down := by
  rw [reach]
  generalize dir.length - w.up = kept
  conv_lhs => lhs; rw [← List.take_append_drop kept dir]
  exact List.prefix_append_right_inj _

/-- A segment leads no level further up, or it leads up from the end of a way that is only up. -/
theorem enter_cases (w : Way) (segment : List Char) :
    (w.enter segment).up = w.up ∨ w.enter segment = ⟨w.up + 1, []⟩ := by
  unfold enter
  split
  · exact .inl rfl
  split
  · split
    · exact .inr rfl
    · exact .inl rfl
  · exact .inl rfl

end Way

/-- The way that some segments take. -/
def climb (segments : List (List Char)) : Way := segments.foldl Way.enter ⟨0, []⟩

theorem climb_concat (segments : List (List Char)) (segment : List Char) :
    climb (segments ++ [segment]) = (climb segments).enter segment := by
  rw [climb, List.foldl_append, List.foldl_cons, List.foldl_nil, climb]

theorem foldl_enter (segments dir : List (List Char)) :
    segments.foldl enter dir = (climb segments).reach dir := by
  have hstart : (⟨0, []⟩ : Way).reach dir = dir := by simp [Way.reach]
  conv_lhs => rw [← hstart]
  exact List.foldl_hom (Way.reach · dir) fun w s => w.enter_reach s dir

/-- Every directory that was entered is on the path down, or was left again. -/
theorem length_down_climb (segments : List (List Char)) :
    (climb segments).down.length + segments.count parent =
      segments.countP IsDirectory + (climb segments).up := by
  induction segments using List.reverseRecOn with
  | nil => rfl
  | append_singleton segments s ih =>
    rw [climb_concat, List.count_append, List.countP_append, Way.enter]
    rcases segment_cases s with hidle | rfl | hdir
    · have hne : s ≠ parent := fun h => not_isIdle_parent (h ▸ hidle)
      simpa [hidle, hne, IsDirectory] using ih
    · cases hd : (climb segments).down with
      | nil =>
        simp [hd, not_isIdle_parent, IsDirectory] at ih ⊢
        omega
      | cons d ds =>
        simp [hd, not_isIdle_parent, IsDirectory] at ih ⊢
        omega
    · simp [hdir.1, hdir.2, hdir]
      omega

/-- The segments at no point have left more directories than they have entered. -/
def StaysBelow (segments : List (List Char)) : Prop :=
  ∀ begun, begun <+: segments → begun.count parent ≤ begun.countP IsDirectory

theorem up_climb_eq_zero_iff (segments : List (List Char)) :
    (climb segments).up = 0 ↔ StaysBelow segments := by
  induction segments using List.reverseRecOn with
  | nil => simp [climb, StaysBelow]
  | append_singleton segments s ih =>
    have hprefix : StaysBelow (segments ++ [s]) ↔
        (segments ++ [s]).count parent ≤ (segments ++ [s]).countP IsDirectory ∧
          (climb segments).up = 0 := by
      simp only [StaysBelow, List.prefix_concat_iff, forall_eq_or_imp, ih]
    have hbalance := length_down_climb (segments ++ [s])
    rw [climb_concat] at hbalance
    rw [climb_concat, hprefix]
    rcases (climb segments).enter_cases s with hup | hway
    · rw [hup] at hbalance ⊢
      omega
    · rw [hway, List.length_nil] at hbalance
      rw [hway]
      dsimp only at hbalance ⊢
      omega

end Mount

/-! ## What an option does to the directory of a mount -/

namespace MountOption

open Mount (IsWithin StaysBelow climb pieces resolve)

/-- The segments of the sub-path of an option, none if it has no sub-path. -/
def segments (o : MountOption) : List (List Char) :=
  o.subPath.elim [] fun path => pieces '/' path.toList

/-- An option makes of a mount of its name one whose directory is where the segments of the
sub-path lead from the declared one. -/
theorem exists_apply {o : MountOption} {m : StorageMount} (h : o.name = m.name)
    {bucket dir : String} {endpoint : Option String}
    (hsrc : m.source = some (.cos bucket dir endpoint)) :
    ∃ m' dir', o.apply m = .ok m' ∧ m'.source = some (.cos bucket dir' endpoint) ∧
      resolve dir' = (climb o.segments).reach (resolve dir) := by
  rw [← Mount.foldl_enter, segments]
  cases hsub : o.subPath with
  | none => exact ⟨o.change m, dir, if_pos h, by rw [change, hsub, hsrc], rfl⟩
  | some sub =>
    exact ⟨o.change m, Mount.joinPath dir sub, if_pos h, by rw [change, hsub, hsrc]; rfl,
      Mount.resolve_joinPath dir sub⟩

/-- The option makes of the mount one of the same bucket whose directory is the declared one or
below it. -/
def KeepsWithin (o : MountOption) (m : StorageMount) : Prop :=
  ∃ m' bucket dir dir' endpoint, o.apply m = .ok m' ∧ m.source = some (.cos bucket dir endpoint) ∧
    m'.source = some (.cos bucket dir' endpoint) ∧ IsWithin dir' dir

theorem keepsWithin_iff {o : MountOption} {m : StorageMount} (h : o.name = m.name)
    {bucket dir : String} {endpoint : Option String}
    (hsrc : m.source = some (.cos bucket dir endpoint)) :
    o.KeepsWithin m ↔ resolve dir <+: (climb o.segments).reach (resolve dir) := by
  obtain ⟨m', dir', happly, hsrc', hdir'⟩ := exists_apply h hsrc
  rw [← hdir']
  constructor
  · rintro ⟨n, b, d, d', e, hn, hd, hd', hwithin⟩
    obtain rfl : m' = n := Except.ok.inj (happly.symm.trans hn)
    obtain ⟨rfl, rfl, rfl⟩ : bucket = b ∧ dir = d ∧ endpoint = e := by
      simpa using hsrc.symm.trans hd
    obtain rfl : dir' = d' := by simpa using hsrc'.symm.trans hd'
    exact hwithin
  · exact fun hwithin => ⟨m', bucket, dir, dir', endpoint, happly, hsrc, hsrc', hwithin⟩

/-- A sub-path that at no point has left more directories than it has entered keeps every mount
where it is declared. -/
theorem keepsWithin_of_staysBelow {o : MountOption} {m : StorageMount}
    (hstays : StaysBelow o.segments) (h : o.name = m.name) {bucket dir : String}
    {endpoint : Option String} (hsrc : m.source = some (.cos bucket dir endpoint)) :
    o.KeepsWithin m := by
  rw [keepsWithin_iff h hsrc, Mount.Way.prefix_reach_iff,
    (Mount.up_climb_eq_zero_iff _).2 hstays, Nat.sub_zero, List.drop_length]
  exact List.nil_prefix

/-- The two directories by which ways that lead up are told apart. -/
def IsShallow (dir : String) : Prop := dir = "/a" ∨ dir = "/b"

theorem isExpressible_shallow {name dir : String} (hne : name ≠ "")
    (hplain : StorageMount.IsPlainText name) (hdir : IsShallow dir) :
    StorageMount.IsExpressible ⟨name, "/", false, some (.cos "b" dir none)⟩ := by
  have hroot : "/".toList.head? = some '/' ∧ StorageMount.IsPlainText "/" :=
    ⟨by decide, StorageMount.isPlainText_iff.2 (by decide)⟩
  have hbucket : StorageMount.IsPlainText "b" := StorageMount.isPlainText_iff.2 (by decide)
  have hpath : dir.toList.head? = some '/' ∧ StorageMount.IsPlainText dir := by
    rcases hdir with rfl | rfl <;> exact ⟨by decide, StorageMount.isPlainText_iff.2 (by decide)⟩
  refine ⟨"b", dir, none, rfl, hne, by decide, hroot.1, hpath.1, nofun, ?_⟩
  simpa using ⟨hplain, hroot.2, hbucket, hpath.2⟩

/-- A way that leads up does not lead back into both of the directories. -/
theorem exists_shallow (w : Mount.Way) (hup : w.up ≠ 0) :
    ∃ dir, IsShallow dir ∧ ¬resolve dir <+: w.reach (resolve dir) := by
  have hiff {dir : String} (hlength : (resolve dir).length = 1) :
      resolve dir <+: w.reach (resolve dir) ↔ resolve dir <+: w.down := by
    rw [Mount.Way.prefix_reach_iff, hlength,
      Nat.sub_eq_zero_of_le (Nat.one_le_iff_ne_zero.2 hup), List.drop_zero]
  by_cases ha : resolve "/a" <+: w.down
  · refine ⟨"/b", .inr rfl, fun hb => ?_⟩
    rw [hiff (by decide)] at hb
    have := (List.prefix_of_prefix_length_le ha hb (by decide)).eq_of_length (by decide)
    exact absurd this (by decide)
  · exact ⟨"/a", .inl rfl, fun h => ha ((hiff (by decide)).1 h)⟩

/-- A sub-path that leaves more directories than it has entered leads out of that of some mount. -/
theorem exists_not_keepsWithin {o : MountOption} (hne : o.name ≠ "")
    (hplain : StorageMount.IsPlainText o.name) (hstays : ¬StaysBelow o.segments) :
    ∃ m : StorageMount, m.IsExpressible ∧ o.name = m.name ∧ ¬o.KeepsWithin m := by
  have hup : (climb o.segments).up ≠ 0 := fun h => hstays ((Mount.up_climb_eq_zero_iff _).1 h)
  obtain ⟨dir, hshallow, hout⟩ := exists_shallow _ hup
  refine ⟨_, isExpressible_shallow hne hplain hshallow, rfl, ?_⟩
  rwa [keepsWithin_iff rfl rfl]

/-- An option of a specification makes of each mount of a specification with its name one whose
directory is where its sub-path leads from the declared one: as many levels up as it leaves more
directories than it has entered, and then down.  So the mount stays where it is declared exactly if
the way down leads back into what was left, and all mounts of this name do exactly if the sub-path
at no point has left more directories than it has entered. -/
theorem leads_within {optionSpec : String} {o : MountOption} (ho : parse optionSpec = .ok o) :
    (∀ spec m, StorageMount.parse spec = .ok m → o.name = m.name →
      ∃ m' bucket dir dir' endpoint, o.apply m = .ok m' ∧
        m.source = some (.cos bucket dir endpoint) ∧ m'.source = some (.cos bucket dir' endpoint) ∧
        resolve dir' = (resolve dir).take ((resolve dir).length - (climb o.segments).up) ++
          (climb o.segments).down ∧
        (IsWithin dir' dir ↔ (resolve dir).drop ((resolve dir).length - (climb o.segments).up) <+:
          (climb o.segments).down)) ∧
    ((∀ spec m, StorageMount.parse spec = .ok m → o.name = m.name → o.KeepsWithin m) ↔
      StaysBelow o.segments) := by
  refine ⟨fun spec m hm hname => ?_, fun h => ?_, fun hstays spec m hm hname => ?_⟩
  · obtain ⟨bucket, dir, endpoint, hsrc, -⟩ := StorageMount.isExpressible_of_parse hm
    obtain ⟨m', dir', happly, hsrc', hdir'⟩ := exists_apply hname hsrc
    refine ⟨m', bucket, dir, dir', endpoint, happly, hsrc, hsrc', hdir', ?_⟩
    rw [IsWithin, hdir', Mount.Way.prefix_reach_iff]
  · obtain ⟨⟨hname, hne⟩, -⟩ := Mount.optionOfBindings_eq_ok_iff.1 ho
    by_contra hstays
    have hgiven := Mount.given?_eq_some_toList_iff.2 ⟨hname, hne⟩
    obtain ⟨m, hm, hmname, hout⟩ :=
      exists_not_keepsWithin hne (StorageMount.isPlainText_of_given? hgiven).2 hstays
    exact hout (h m.spec m (StorageMount.parse_spec hm) hmname)
  · obtain ⟨bucket, dir, endpoint, hsrc, -⟩ := StorageMount.isExpressible_of_parse hm
    exact keepsWithin_of_staysBelow hstays hname hsrc

/-- A sub-path with all kinds of segments that stays below every declared directory. -/
theorem leads_within_parents :
    parse "name=data,subpath=/a/.//../b/" = .ok ⟨"data", none, some "/a/.//../b/", .inherit⟩ ∧
      ∀ spec m, StorageMount.parse spec = .ok m → "data" = m.name →
        KeepsWithin ⟨"data", none, some "/a/.//../b/", .inherit⟩ m :=
  have ho : parse "name=data,subpath=/a/.//../b/" =
    .ok ⟨"data", none, some "/a/.//../b/", .inherit⟩ := by rfl
  ⟨ho, (leads_within ho).2.2 ((Mount.up_climb_eq_zero_iff _).1 (by rfl))⟩

/-- A sub-path leads from the directory of one tenant to that of another one. -/
theorem leads_to_neighbour :
    StorageMount.parse "type=cos,name=data,bucket=b,src=/tenants/a,dst=/mnt" =
        .ok ⟨"data", "/mnt", false, some (.cos "b" "/tenants/a" none)⟩ ∧
      parse "name=data,subpath=../b" = .ok ⟨"data", none, some "../b", .inherit⟩ ∧
      apply ⟨"data", none, some "../b", .inherit⟩
          ⟨"data", "/mnt", false, some (.cos "b" "/tenants/a" none)⟩ =
        .ok ⟨"data", "/mnt", false, some (.cos "b" "/tenants/a/../b" none)⟩ ∧
      resolve "/tenants/a/../b" = resolve "/tenants/b" ∧
      ¬IsWithin "/tenants/a/../b" "/tenants/a" ∧
      ¬KeepsWithin ⟨"data", none, some "../b", .inherit⟩
        ⟨"data", "/mnt", false, some (.cos "b" "/tenants/a" none)⟩ := by
  refine ⟨rfl, rfl, by decide, by decide, by decide, ?_⟩
  rw [keepsWithin_iff rfl rfl]
  decide

end MountOption

end AgentSandbox
