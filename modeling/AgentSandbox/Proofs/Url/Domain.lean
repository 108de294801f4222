import AgentSandbox.Proofs.Text.NormalForm
import AgentSandbox.Proofs.Text.Table
import AgentSandbox.Proofs.Text.Utf8
import AgentSandbox.Proofs.Url.Path
import AgentSandbox.Url.Host

/-!
# Names of hosts

A domain name may be cut at a full stop: the labels on one side have no part in those on the other
(`labelsOf?_append`).  What stands behind a full stop in ASCII is sent as it is, but in lower case
(`exists_front`), and what stands in front of the first hyphen is sent as it is as well, unless its label
has to be put into Punycode (`front_cases`).
-/

namespace AgentSandbox.Url

open Text

/-! ## Labels -/

/-- The labels that a name spells. -/
def labelsOf? (name : List Char) : Option (List (List Char)) :=
  ((cut (· = '.') name).mapM foldedLabels?).map List.flatten

variable {bytes : List UInt8} {name front : List Char} {labels : List (List Char)}

theorem domainToAscii?_eq_some_iff :
    domainToAscii? bytes = some front ↔
      ∃ name labels meanings, Utf8.decodeStrict? bytes = some name ∧ labelsOf? name = some labels ∧
        labels.mapM Label.meaning? = some meanings ∧ areLabels meanings = true ∧
        joinLabels (labels.map Label.toAscii) = front := by
  simp only [domainToAscii?, labelsOf?, Option.bind_eq_bind, Option.bind_eq_some_iff,
    Option.map_eq_some_iff]
  constructor
  · rintro ⟨name, hname, parts, hparts, meanings, hmeanings, h⟩
    split at h
    · next hproper =>
      exact ⟨name, _, meanings, hname, ⟨parts, hparts, rfl⟩, hmeanings, hproper, Option.some.inj h⟩
    · cases h
  · rintro ⟨name, _, meanings, hname, ⟨parts, hparts, rfl⟩, hmeanings, hproper, h⟩
    refine ⟨name, hname, parts, hparts, meanings, hmeanings, ?_⟩
    rw [if_pos hproper, h]

theorem labelsOf?_append (a b : List Char) :
    labelsOf? (a ++ '.' :: b) =
      (labelsOf? a).bind fun xs => (labelsOf? b).map fun ys => xs ++ ys := by
  rw [labelsOf?, cut_append_cons rfl, List.mapM_append, labelsOf?, labelsOf?]
  cases (cut (· = '.') a).mapM foldedLabels? with
  | none => rfl
  | some xs =>
    cases (cut (· = '.') b).mapM foldedLabels? with
    | none => rfl
    | some ys => exact congrArg some List.flatten_append

/-- The labels of the part in front of the first full stop come first. -/
theorem exists_of_labelsOf? (h : labelsOf? name = some labels) {part : List Char}
    {parts : List (List Char)} (hname : cut (· = '.') name = part :: parts) :
    ∃ first rest, foldedLabels? part = some first ∧ labels = first ++ rest := by
  rw [labelsOf?, hname, List.mapM_cons] at h
  cases hfirst : foldedLabels? part with
  | none =>
    rw [hfirst] at h
    cases h
  | some first =>
    rw [hfirst] at h
    cases hparts : parts.mapM foldedLabels? with
    | none =>
      rw [hparts] at h
      cases h
    | some rest =>
      rw [hparts] at h
      cases h
      exact ⟨first, rest.flatten, rfl, rfl⟩

theorem labelsOf?_ne_nil (h : labelsOf? name = some labels) : labels ≠ [] := by
  obtain ⟨part, parts, hname⟩ := List.exists_cons_of_ne_nil (cut_ne_nil (· = '.') name)
  obtain ⟨first, rest, hfirst, rfl⟩ := exists_of_labelsOf? h hname
  obtain ⟨cs, -, rfl⟩ := Option.map_eq_some_iff.1 hfirst
  exact List.append_ne_nil_of_left_ne_nil (cut_ne_nil _ _) rest

theorem areLabels_left {xs ys : List (List Char)} (h : areLabels (xs ++ ys) = true) :
    areLabels xs = true := by
  simp only [areLabels, List.all_append, List.any_append, Bool.and_eq_true, Bool.or_eq_true,
    Bool.not_eq_true', Bool.or_eq_false_iff] at h ⊢
  exact ⟨h.1.1, h.2.imp And.left And.left⟩

/-! ## Labels joined -/

theorem joinLabels_cons (label : List Char) (labels : List (List Char)) :
    ∃ rest, joinLabels (label :: labels) = label ++ rest := by
  cases labels with
  | nil => exact ⟨[], (List.append_nil _).symm⟩
  | cons next labels => exact ⟨_, rfl⟩

theorem joinLabels_append {xs ys : List (List Char)} (hxs : xs ≠ []) (hys : ys ≠ []) :
    joinLabels (xs ++ ys) = joinLabels xs ++ '.' :: joinLabels ys := by
  induction xs with
  | nil => exact absurd rfl hxs
  | cons x xs ih =>
    cases xs with
    | nil =>
      obtain ⟨y, ys, rfl⟩ := List.exists_cons_of_ne_nil hys
      rfl
    | cons x' xs =>
      show x ++ '.' :: joinLabels (x' :: xs ++ ys) =
        (x ++ '.' :: joinLabels (x' :: xs)) ++ '.' :: joinLabels ys
      rw [ih (List.cons_ne_nil _ _), List.append_assoc, List.cons_append]

theorem joinLabels_cut (cs : List Char) : joinLabels (cut (· = '.') cs) = cs := by
  induction cs with
  | nil => rfl
  | cons c cs ih =>
    obtain ⟨part, parts, hcs⟩ := List.exists_cons_of_ne_nil (cut_ne_nil (· = '.') cs)
    rw [hcs] at ih
    by_cases hc : c = '.'
    · subst hc
      have hcut : cut (· = '.') ('.' :: cs) = [] :: part :: parts := (if_pos rfl).trans (by rw [hcs])
      rw [hcut]
      exact congrArg (List.cons '.') ih
    · rw [cut_cons_of_neg (decide_eq_false hc) hcs, ← ih]
      cases parts <;> rfl

/-! ## Names in ASCII -/

theorem toLower_lt {c : Char} (hc : c.toNat < 0x80) : c.toLower.toNat < 0x80 := by
  have hall : ∀ n < 0x80, (Char.ofNat n).toLower.toNat < 0x80 := by decide
  simpa only [Char.ofNat_toNat] using hall c.toNat hc

theorem toLower_eq_dot {c : Char} : c.toLower = '.' ↔ c = '.' := by
  refine ⟨eq_of_toLower rfl, ?_⟩
  rintro rfl
  rfl

theorem folded?_of_lt {c : Char} (hc : c.toNat < 0x80) : folded? c = some [c.toLower] := by
  rw [folded?, if_pos hc]

theorem mapM_of_forall {α β : Type} {f : α → Option β} {g : α → β} {xs : List α}
    (h : ∀ x ∈ xs, f x = some (g x)) : xs.mapM f = some (xs.map g) := by
  induction xs with
  | nil => rfl
  | cons x xs ih =>
    obtain ⟨hx, hxs⟩ := List.forall_mem_cons.1 h
    rw [List.mapM_cons, hx, ih hxs]
    rfl

theorem forall_mem_lower {cs : List Char} (hcs : ∀ c ∈ cs, c.toNat < 0x80) :
    ∀ c ∈ cs.map Char.toLower, c.toNat < 0x80 := by
  intro c hc
  obtain ⟨d, hd, rfl⟩ := List.mem_map.1 hc
  exact toLower_lt (hcs d hd)

theorem mapM_folded? {cs : List Char} (hcs : ∀ c ∈ cs, c.toNat < 0x80) :
    cs.mapM folded? = some (cs.map fun c => [c.toLower]) :=
  mapM_of_forall fun c hc => folded?_of_lt (hcs c hc)

theorem foldedLabels?_of_forall {part : List Char} (hpart : ∀ c ∈ part, c.toNat < 0x80)
    (hdot : '.' ∉ part) : foldedLabels? part = some [part.map Char.toLower] := by
  have hlower := forall_mem_lower hpart
  have hnodot : ∀ c ∈ part.map Char.toLower, decide (c = '.') = false := by
    intro c hc
    obtain ⟨d, hd, rfl⟩ := List.mem_map.1 hc
    exact decide_eq_false fun h => hdot (toLower_eq_dot.1 h ▸ hd)
  have hflatten : (part.map fun c => [c.toLower]).flatten = part.map Char.toLower :=
    List.map_eq_flatMap.symm
  rw [foldedLabels?, mapM_folded? hpart, Option.map_some, hflatten,
    normalForm_of_forall fun c hc => Nat.lt_trans (hlower c hc) (by decide), cut_of_forall hnodot]

/-- The labels of a name in ASCII are its parts in lower case. -/
theorem labelsOf?_of_forall (hname : ∀ c ∈ name, c.toNat < 0x80) :
    labelsOf? name = some (cut (· = '.') (name.map Char.toLower)) := by
  have hparts : (cut (· = '.') name).mapM foldedLabels? =
      some ((cut (· = '.') name).map fun part => [part.map Char.toLower]) := by
    refine mapM_of_forall fun part hpart => foldedLabels?_of_forall ?_ fun hdot => ?_
    · exact fun c hc => hname c (mem_of_mem_cut hpart hc)
    · exact absurd (eq_false_of_mem_cut hpart hdot) (by decide)
  have hlower : ∀ c : Char, decide (c.toLower = '.') = decide (c = '.') :=
    fun c => decide_eq_decide.2 toLower_eq_dot
  rw [labelsOf?, hparts, cut_map hlower, Option.map_some]
  exact congrArg some List.map_eq_flatMap.symm

theorem toAscii_of_forall {label : List Char} (h : ∀ c ∈ label, c.toNat < 0x80) :
    Label.toAscii label = label := by
  have hascii : Label.isAscii label = true :=
    List.all_eq_true.2 fun c hc => decide_eq_true (h c hc)
  rw [Label.toAscii, if_pos hascii]

theorem joinLabels_toAscii_cut {cs : List Char} (hcs : ∀ c ∈ cs, c.toNat < 0x80) :
    joinLabels ((cut (· = '.') cs).map Label.toAscii) = cs := by
  have hsame : ∀ label ∈ cut (· = '.') cs, Label.toAscii label = id label :=
    fun label hlabel => toAscii_of_forall fun c hc => hcs c (mem_of_mem_cut hlabel hc)
  rw [List.map_congr_left hsame, List.map_id, joinLabels_cut]

/-! ## Names that are spelled -/

theorem decodeStrict?_unescape {cs : List Char} (hpercent : '%' ∉ cs) :
    Utf8.decodeStrict? (unescape cs) = some cs := by
  have hencode := Utf8.decodeStrict?_encode (String.ofList cs)
  rwa [Utf8.encode, String.toList_ofList, ← unescape_of_notMem hpercent] at hencode

/-- A text that is spelled may be cut at an ASCII character that is neither a percent sign nor a
digit. -/
theorem decodeStrict?_unescape_append {d : Char} (hd : d.toNat < 0x80) (hpercent : d ≠ '%')
    (hdigit : Json.hexValue? d = none) (cs ds : List Char) :
    Utf8.decodeStrict? (unescape (cs ++ d :: ds)) =
      (Utf8.decodeStrict? (unescape cs)).bind fun xs =>
        (Utf8.decodeStrict? (unescape ds)).map fun ys => xs ++ d :: ys := by
  have hlt : d.toNat < 256 := Nat.lt_trans hd (by decide)
  have hbyte : UInt8.ofNat d.toNat < 0x80 := by
    rw [UInt8.lt_iff_toNat_lt, Utf8.toNat_byte hlt]
    exact hd
  rw [unescape_append hdigit, unescape_cons hpercent, Utf8.utf8EncodeChar_of_lt hd,
    List.singleton_append, Utf8.decodeStrict?_append_ascii hbyte, Utf8.toNat_byte hlt,
    Char.ofNat_toNat]

/-- What follows a full stop is in the name that is sent as it is in the text, but in lower case. -/
theorem exists_front {cs suffix name : List Char} (hsuffix : ∀ c ∈ suffix, c.toNat < 0x80)
    (hpercent : '%' ∉ suffix) (h : domainToAscii? (unescape (cs ++ '.' :: suffix)) = some name) :
    ∃ front, domainToAscii? (unescape cs) = some front ∧
      name = front ++ '.' :: suffix.map Char.toLower := by
  obtain ⟨text, labels, meanings, htext, hlabels, hmeanings, hproper, rfl⟩ :=
    domainToAscii?_eq_some_iff.1 h
  rw [decodeStrict?_unescape_append (by decide) (by decide) rfl,
    decodeStrict?_unescape hpercent] at htext
  obtain ⟨front, hfront, htext⟩ := Option.bind_eq_some_iff.1 htext
  obtain rfl := Option.some.inj htext
  rw [labelsOf?_append, labelsOf?_of_forall hsuffix] at hlabels
  obtain ⟨xs, hxs, hlabels⟩ := Option.bind_eq_some_iff.1 hlabels
  obtain rfl := Option.some.inj hlabels
  rw [List.mapM_append] at hmeanings
  obtain ⟨before, hbefore, hmeanings⟩ := Option.bind_eq_some_iff.1 hmeanings
  obtain ⟨behind, -, hmeanings⟩ := Option.bind_eq_some_iff.1 hmeanings
  obtain rfl := Option.some.inj hmeanings
  have hxs' : xs.map Label.toAscii ≠ [] := mt List.map_eq_nil_iff.1 (labelsOf?_ne_nil hxs)
  have hys' : (cut (· = '.') (suffix.map Char.toLower)).map Label.toAscii ≠ [] :=
    mt List.map_eq_nil_iff.1 (cut_ne_nil _ _)
  refine ⟨_, domainToAscii?_eq_some_iff.2
    ⟨front, xs, before, hfront, hxs, hbefore, areLabels_left hproper, rfl⟩, ?_⟩
  rw [List.map_append, joinLabels_append hxs' hys',
    joinLabels_toAscii_cut (forall_mem_lower hsuffix)]

/-- A name in ASCII is sent in lower case. -/
theorem front_of_forall {name front : List Char} (hdecode : Utf8.decodeStrict? bytes = some name)
    (hname : ∀ c ∈ name, c.toNat < 0x80) (h : domainToAscii? bytes = some front) :
    front = name.map Char.toLower := by
  obtain ⟨text, labels, meanings, htext, hlabels, -, -, rfl⟩ := domainToAscii?_eq_some_iff.1 h
  obtain rfl := Option.some.inj (hdecode.symm.trans htext)
  rw [labelsOf?_of_forall hname] at hlabels
  obtain rfl := Option.some.inj hlabels
  exact joinLabels_toAscii_cut (forall_mem_lower hname)

/-- Text that a label is sent with as it is: in ASCII, without capitals and full stops. -/
def IsLabelText (cs : List Char) : Prop :=
  ∀ c ∈ cs, c.toNat < 0x80 ∧ c.toLower = c ∧ c ≠ '.'

instance : DecidablePred IsLabelText := fun cs => List.decidableBAll _ cs

theorem IsLabelText.ne_dot {cs : List Char} (hcs : IsLabelText cs) :
    ∀ c ∈ cs, decide (c = '.') = false :=
  fun c hc => decide_eq_false (hcs c hc).2.2

theorem exists_of_foldedLabels? {start rest : List Char} {labels : List (List Char)}
    (hstart : IsLabelText start) (h : foldedLabels? (start ++ '-' :: rest) = some labels) :
    ∃ label others, labels = (start ++ label) :: others := by
  have hascii : ∀ c ∈ start, c.toNat < 0x80 := fun c hc => (hstart c hc).1
  have hlower : (start.map fun c => [c.toLower]).flatten = start := by
    refine List.map_eq_flatMap.symm.trans ?_
    rw [List.map_congr_left fun c hc => (hstart c hc).2.1, List.map_id']
  obtain ⟨cs, hcs, rfl⟩ := Option.map_eq_some_iff.1 h
  rw [List.mapM_append, mapM_folded? hascii, List.mapM_cons, folded?_of_lt (by decide)] at hcs
  cases hrest : rest.mapM folded? with
  | none =>
    rw [hrest] at hcs
    cases hcs
  | some ds =>
    rw [hrest] at hcs
    obtain rfl : (start.map fun c => [c.toLower]) ++ ['-'] :: ds = cs := Option.some.inj hcs
    obtain ⟨label, others, hlabel⟩ :=
      List.exists_cons_of_ne_nil (cut_ne_nil (· = '.') (normalForm ('-' :: ds.flatten)))
    refine ⟨label, others, ?_⟩
    rw [List.flatten_append, hlower, List.flatten_cons, List.singleton_append,
      normalForm_append (fun c hc => Nat.lt_trans (hascii c hc) (by decide)) (by decide),
      cut_append_of_forall hstart.ne_dot hlabel]

/-- What stands in front of the first label stays there, if a hyphen follows it, unless the label has
to be put into Punycode.  The hyphen itself may go with a mark behind it. -/
theorem front_cases {start rest front : List Char} (hstart : IsLabelText start)
    (hdecode : Utf8.decodeStrict? bytes = some (start ++ '-' :: rest))
    (h : domainToAscii? bytes = some front) :
    start <+: front ∨ "xn--".toList <+: front := by
  obtain ⟨text, labels, meanings, htext, hlabels, -, -, rfl⟩ := domainToAscii?_eq_some_iff.1 h
  obtain rfl := Option.some.inj (hdecode.symm.trans htext)
  obtain ⟨part, parts, hrest⟩ := List.exists_cons_of_ne_nil (cut_ne_nil (· = '.') rest)
  have hcut := cut_append_of_forall hstart.ne_dot (cut_cons_of_neg (c := '-') rfl hrest)
  obtain ⟨first, others, hfirst, rfl⟩ := exists_of_labelsOf? hlabels hcut
  obtain ⟨label, more, rfl⟩ := exists_of_foldedLabels? hstart hfirst
  obtain ⟨behind, hjoin⟩ := joinLabels_cons (Label.toAscii (start ++ label))
    ((more ++ others).map Label.toAscii)
  rw [List.cons_append, List.map_cons, hjoin, Label.toAscii]
  split
  · rw [List.append_assoc]
    exact .inl (List.prefix_append _ _)
  · exact .inr (List.prefix_append "xn--".toList _)

/-- A host without square brackets is a name. -/
theorem Host.exists_name_of_parse {cs : List Char} {host : Host} (hcs : cs.head? ≠ some '[')
    (h : Host.parse cs = .ok host) :
    ∃ name, domainToAscii? (unescape cs) = some name ∧ Host.ofName name = .ok host := by
  unfold Host.parse at h
  split at h
  · exact absurd rfl hcs
  · split at h
    · next name hname => exact ⟨name, hname, h⟩
    · cases h

end AgentSandbox.Url
