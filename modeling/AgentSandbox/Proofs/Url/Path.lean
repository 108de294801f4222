import AgentSandbox.Proofs.Text.Table
import AgentSandbox.Proofs.Url.Percent
import AgentSandbox.Url.Path

/-!
# Segments that are added to a path

A text that is added to a path becomes one segment, whose bytes are those of the text without the
characters that no URL holds (`Path.push_of_ne`).  The exceptions are the segments of one and of two
full stops, which mean something else: as a text they are not added (`Path.push_of_dots`), and a text
that turns into one of them counts as it is read (`Path.push_of_held_dot`, `Path.push_of_held_dots`).
-/

namespace AgentSandbox.Url

/-- What is left of a text in a URL: tabs and line breaks are not held. -/
def held (s : String) : String :=
  String.ofList (s.toList.filter fun c => c ≠ '\t' && c ≠ '\n' && c ≠ '\r')

theorem toList_held (s : String) :
    (held s).toList = s.toList.filter fun c => c ≠ '\t' && c ≠ '\n' && c ≠ '\r' :=
  String.toList_ofList

theorem forall_mem_held {p : Char → Prop} {s : String} (h : ∀ c ∈ s.toList, p c) :
    ∀ c ∈ (held s).toList, p c := by
  intro c hc
  rw [toList_held] at hc
  exact h c (List.mem_filter.1 hc).1

theorem held_append (s t : String) : held (s ++ t) = held s ++ held t := by
  rw [held, String.toList_append, List.filter_append, String.ofList_append]
  rfl

/-- Whether a text is one segment of a path, which means nothing but itself. -/
structure IsSegment (s : List Char) : Prop where
  solidus : '/' ∉ s
  question : '?' ∉ s
  hash : '#' ∉ s
  single : isSingleDot s = false
  double : isDoubleDot s = false

/-! ## Full stops -/

theorem eq_of_toLower {c d : Char} (hd : d.isLower = false) (h : c.toLower = d) : c = d := by
  unfold Char.toLower at h
  split at h
  · next hc =>
    subst h
    have hlower := UInt32.le_iff_toNat_le.1 hc.1
    have hupper := UInt32.le_iff_toNat_le.1 hc.2
    have hd : (decide (c.val + ('a'.val - 'A'.val) ≥ 'a'.val) &&
        decide (c.val + ('a'.val - 'A'.val) ≤ 'z'.val)) = false := hd
    rw [Bool.and_eq_false_iff, decide_eq_false_iff_not, decide_eq_false_iff_not, ge_iff_le,
      UInt32.le_iff_toNat_le, UInt32.le_iff_toNat_le] at hd
    simp at hlower hupper hd
    omega
  · exact h

theorem eq_of_toLower_eq_e {c : Char} (h : c.toLower = 'e') : c = 'e' ∨ c = 'E' := by
  unfold Char.toLower at h
  split at h
  · next hc =>
    have hval : c.val + 32 = 101 := congrArg Char.val h
    have hupper : c.val = 101 - 32 := by rw [← hval, UInt32.add_sub_cancel]
    exact .inr (Char.ext hupper)
  · exact .inl h

/-- A full stop may be written as its byte. -/
theorem unescape_append_of_dot {s : List Char}
    (h : s.map Char.toLower = ['.'] ∨ s.map Char.toLower = ['%', '2', 'e']) (rest : List Char) :
    unescape (s ++ rest) = 0x2E :: unescape rest := by
  have hdot {c : Char} := eq_of_toLower (c := c) (d := '.') rfl
  have hpercent {c : Char} := eq_of_toLower (c := c) (d := '%') rfl
  have htwo {c : Char} := eq_of_toLower (c := c) (d := '2') rfl
  simp only [List.map_eq_cons_iff, List.map_eq_nil_iff] at h
  rcases h with ⟨c, _, rfl, hc, rfl⟩ | ⟨c, _, rfl, hc, d, _, rfl, hd, e, _, rfl, he, rfl⟩
  · obtain rfl := hdot hc
    exact unescape_cons (by decide) rest
  · obtain rfl := hpercent hc
    obtain rfl := htwo hd
    rcases eq_of_toLower_eq_e he with rfl | rfl <;> rfl

theorem unescape_of_isSingleDot {s : List Char} (h : isSingleDot s = true) :
    unescape s = Utf8.encode "." := by
  simp only [isSingleDot, Bool.or_eq_true, beq_iff_eq] at h
  rw [← List.append_nil s, unescape_append_of_dot h]
  rfl

theorem unescape_of_isDoubleDot {s : List Char} (h : isDoubleDot s = true) :
    unescape s = Utf8.encode ".." := by
  have hparts : ∃ x y, s.map Char.toLower = x ++ y ∧ (x = ['.'] ∨ x = ['%', '2', 'e']) ∧
      (y = ['.'] ∨ y = ['%', '2', 'e']) := by
    simp only [isDoubleDot, Bool.or_eq_true, beq_iff_eq] at h
    rcases h with ((h | h) | h) | h
    · exact ⟨_, _, h, .inl rfl, .inl rfl⟩
    · exact ⟨_, _, h, .inl rfl, .inr rfl⟩
    · exact ⟨_, _, h, .inr rfl, .inl rfl⟩
    · exact ⟨_, _, h, .inr rfl, .inr rfl⟩
  obtain ⟨x, y, hmap, hx, hy⟩ := hparts
  obtain ⟨a, b, rfl, rfl, rfl⟩ := List.map_eq_append_iff.1 hmap
  rw [← List.append_nil b, unescape_append_of_dot hx, unescape_append_of_dot hy]
  rfl

section

variable {set : Char → Bool} {s : String}

theorem isSingleDot_escape (hpercent : set '%' = true) (hs : s ≠ ".") :
    isSingleDot (escape set s.toList) = false := by
  refine Bool.eq_false_iff.2 fun h => hs (Utf8.encode_inj ?_)
  rw [← unescape_escape hpercent, unescape_of_isSingleDot h]

theorem isDoubleDot_escape (hpercent : set '%' = true) (hs : s ≠ "..") :
    isDoubleDot (escape set s.toList) = false := by
  refine Bool.eq_false_iff.2 fun h => hs (Utf8.encode_inj ?_)
  rw [← unescape_escape hpercent, unescape_of_isDoubleDot h]

theorem isSegment_escape (backslash : Bool) (hdot : s ≠ ".") (hdots : s ≠ "..") :
    IsSegment (escape (segmentSet backslash) s.toList) where
  solidus := not_mem_escape (by decide) rfl (.inl (by cases backslash <;> rfl))
  question := not_mem_escape (by decide) rfl (.inl (by cases backslash <;> rfl))
  hash := not_mem_escape (by decide) rfl (.inl (by cases backslash <;> rfl))
  single := isSingleDot_escape (by cases backslash <;> rfl) hdot
  double := isDoubleDot_escape (by cases backslash <;> rfl) hdots

end

namespace Path

/-! ## One more segment -/

variable {kind : Kind} {items : List (List Char)} {s : String}

theorem text_concat (items : List (List Char)) (segment : List Char) :
    (segments (items ++ [segment])).text = (segments items).text ++ '/' :: segment := by
  simp only [text, List.flatMap_append, List.flatMap_singleton]

theorem push_eq (hs : s ≠ ".") (hs' : s ≠ "..") :
    (segments items).push kind s.toList =
      .segments (add kind (segmentSet kind.hasBackslash) (if items = [[]] then [] else items)
        (held s).toList true) := by
  have hdot : ¬ (s.toList = ['.'] ∨ s.toList = ['.', '.']) := by
    rintro (h | h)
    · exact hs (String.toList_inj.1 h)
    · exact hs' (String.toList_inj.1 h)
  rw [push, if_neg hdot, held, String.toList_ofList]

/-- One and two full stops are not added. -/
theorem push_of_dots (hs : s = "." ∨ s = "..") :
    (segments items).push kind s.toList = .segments items := by
  rcases hs with rfl | rfl <;> rfl

/-- A text that turns into one full stop stands for nothing. -/
theorem push_of_held_dot (hs : s ≠ ".") (hheld : held s = ".") (hitems : items ≠ [[]]) :
    (segments items).push kind s.toList = .segments (items ++ [[]]) := by
  have hdots : s ≠ ".." := fun h => absurd (h ▸ hheld) (by decide)
  rw [push_eq hs hdots, if_neg hitems, hheld]
  cases kind <;> rfl

/-- A text that turns into two full stops takes back the last segment. -/
theorem push_of_held_dots (hs : s ≠ "..") (hheld : held s = "..") (hitems : items ≠ [[]]) :
    (segments items).push kind s.toList = .segments (shorten kind items ++ [[]]) := by
  have hdot : s ≠ "." := fun h => absurd (h ▸ hheld) (by decide)
  rw [push_eq hdot hs, if_neg hitems, hheld]
  cases kind <;> rfl

/-- Any other text is added as one segment; only in front of all others may it be a drive. -/
theorem push_of_ne (hdot : held s ≠ ".") (hdots : held s ≠ "..") (hitems : items ≠ [[]])
    (hdrive : items ≠ [] ∨ isDrive (escape (segmentSet kind.hasBackslash) (held s).toList) = false) :
    (segments items).push kind s.toList =
      .segments (items ++ [escape (segmentSet kind.hasBackslash) (held s).toList]) := by
  have hs : s ≠ "." := fun h => hdot (by rw [h]; rfl)
  have hs' : s ≠ ".." := fun h => hdots (by rw [h]; rfl)
  obtain ⟨-, -, -, hsingle, hdouble⟩ := isSegment_escape kind.hasBackslash hdot hdots
  have hnodrive : ¬ (kind = .file && items.isEmpty &&
      isDrive (escape (segmentSet kind.hasBackslash) (held s).toList)) = true := by
    rcases hdrive with h | h
    · simp [h]
    · simp [h]
  rw [push_eq hs hs', if_neg hitems, add]
  simp only [hsingle, hdouble, hnodrive, Bool.false_eq_true, if_false]

/-! ## Below a path -/

/-- A path without the solidus at its end; of two solidi alone neither is left. -/
def stem (p : Path) : List Char :=
  let rest := if p.text.getLast? = some '/' then p.text.dropLast else p.text
  if rest = ['/'] then [] else rest

/-- A path whose segments hold no solidus. -/
def IsPlain (p : Path) : Prop := ∀ items, p = .segments items → ∀ s ∈ items, '/' ∉ s

theorem text_eq_nil : (segments items).text = [] ↔ items = [] := by
  cases items with
  | nil => exact ⟨fun _ => rfl, fun _ => rfl⟩
  | cons s items => exact ⟨nofun, nofun⟩

theorem text_eq_solidus : (segments items).text = ['/'] ↔ items = [[]] := by
  constructor
  · intro h
    rcases items with _ | ⟨_ | ⟨c, s⟩, items⟩
    · cases h
    · obtain rfl := text_eq_nil.1 (List.cons.inj h).2
      rfl
    · cases h
  · rintro rfl
    rfl

theorem getLast?_text (items : List (List Char)) {s : List Char} (hs : s ≠ []) :
    (segments (items ++ [s])).text.getLast? = s.getLast? := by
  obtain ⟨s, c, rfl⟩ := List.eq_nil_or_concat s |>.resolve_left hs
  rw [text_concat, List.concat_eq_append, ← List.cons_append, ← List.append_assoc,
    List.getLast?_concat, List.getLast?_concat]

/-- The text of a path of several segments without an empty one at its end. -/
theorem exists_popEmpty (hplain : IsPlain (segments items)) (hne : items ≠ [[]]) :
    ∃ popped, (segments items).popEmpty = .segments popped ∧ (segments popped).text =
      if (segments items).text.getLast? = some '/' then (segments items).text.dropLast
      else (segments items).text := by
  rcases List.eq_nil_or_concat items with rfl | ⟨init, last, rfl⟩
  · exact ⟨[], rfl, rfl⟩
  rw [List.concat_eq_append] at hplain hne ⊢
  by_cases hlast : last = []
  · subst hlast
    have hinit : init ≠ [] := fun h => hne (by rw [h, List.nil_append])
    have hlength : 1 < (init ++ [[]]).length := by
      have := List.length_pos_iff.2 hinit
      rw [List.length_append, List.length_singleton]
      omega
    refine ⟨init, ?_, ?_⟩
    · rw [popEmpty, if_pos ⟨List.getLast?_concat, hlength⟩, List.dropLast_concat]
    · rw [text_concat, if_pos List.getLast?_concat, List.dropLast_concat]
  · refine ⟨init ++ [last], ?_, ?_⟩
    · rw [popEmpty, if_neg fun h => hlast (Option.some.inj (List.getLast?_concat.symm.trans h.1))]
    · rw [getLast?_text _ hlast, if_neg fun h => ?_]
      exact hplain _ rfl last (by simp) (List.mem_of_getLast? h)

/-- Segments are added behind the stem of a path. -/
theorem exists_stem (hplain : IsPlain (segments items)) :
    ∃ base, base ≠ [[]] ∧ (segments base).text = (segments items).stem ∧
      ∀ kind s, s ≠ "." → s ≠ ".." →
        (segments items).popEmpty.push kind s.toList = (segments base).push kind s.toList := by
  have hempty (kind : Kind) {s : String} (hs : s ≠ ".") (hs' : s ≠ "..") :
      (segments [[]]).push kind s.toList = (segments []).push kind s.toList := by
    rw [push_eq hs hs', push_eq hs hs']
    rfl
  by_cases hone : items = [[]]
  · subst hone
    exact ⟨[], by simp, rfl, fun kind s hs hs' => hempty kind hs hs'⟩
  obtain ⟨popped, hpop, htext⟩ := exists_popEmpty hplain hone
  by_cases hpopped : popped = [[]]
  · subst hpopped
    refine ⟨[], by simp, ?_, fun kind s hs hs' => by rw [hpop, hempty kind hs hs']⟩
    rw [stem, ← htext]
    rfl
  · refine ⟨popped, hpopped, ?_, fun kind s hs hs' => by rw [hpop]⟩
    rw [stem, ← htext]
    exact (if_neg (mt text_eq_solidus.1 hpopped)).symm

end Path

end AgentSandbox.Url
