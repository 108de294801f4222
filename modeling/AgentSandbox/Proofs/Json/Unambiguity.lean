import AgentSandbox.Proofs.Json.Printing

/-!
# Values with one text

A text that begins with that of a value tells where the value ends, whatever follows it, and so two
values whose texts are equal are equal (`Value.IsExact.eq_of_toText`).  Nothing is said here of
floating-point numbers, which no request holds.
-/

namespace AgentSandbox.Json

/-- The value holds no floating-point number. -/
inductive Value.IsExact : Value → Prop where
  | null : IsExact .null
  | bool (b : Bool) : IsExact (.bool b)
  | int (n : Int) : IsExact (.number (.int n))
  | text (s : String) : IsExact (.text s)
  | list {items : List Value} (h : ∀ v ∈ items, IsExact v) : IsExact (.list items)
  | object {members : List (String × Value)} (h : ∀ m ∈ members, IsExact m.2) :
      IsExact (.object members)

/-! ## Strings and numerals -/

theorem printText_append_inj {s t : String} {rest rest' : List Char}
    (h : printText s ++ rest = printText t ++ rest') : s = t ∧ rest = rest' := by
  obtain ⟨body, hs, hread⟩ := exists_printText s
  obtain ⟨body', ht, hread'⟩ := exists_printText t
  rw [hs, ht, List.cons_append, List.cons_append, List.cons.injEq] at h
  have hsame := (hread rest).symm.trans ((congrArg string? h.2).trans (hread' rest'))
  simpa using hsame

theorem Numeral.ofInt_inj {n m : Int} (h : ofInt n = ofInt m) : n = m := by
  simp only [ofInt, Numeral.mk.injEq, decide_eq_decide, and_true] at h
  obtain ⟨hsign, hdigits⟩ := h
  have habs : n.natAbs = m.natAbs := toDigits_inj hdigits
  omega

theorem print_int_append_inj {n m : Int} {rest rest' : List Char} (hr : EndsNumeral rest)
    (hr' : EndsNumeral rest') (h : (Number.int n).print ++ rest = (Number.int m).print ++ rest') :
    n = m ∧ rest = rest' := by
  have hread := Numeral.read?_print hr n
  rw [h, Numeral.read?_print hr' m, Option.some.injEq, Prod.mk.injEq] at hread
  exact ⟨(Numeral.ofInt_inj hread.1).symm, hread.2.symm⟩

/-! ## Lists of texts -/

/-- Some texts with commas between them. -/
def commas : List (List Char) → List Char
  | [] => []
  | [t] => t
  | t :: ts => t ++ ',' :: commas ts

/-- What follows the first text: the end of the list, or a comma and the other texts. -/
def commasTail (stop : List Char) : List (List Char) → List Char
  | [] => stop
  | t :: ts => ',' :: (commas (t :: ts) ++ stop)

theorem commas_cons_append (t : List Char) (ts : List (List Char)) (stop : List Char) :
    commas (t :: ts) ++ stop = t ++ commasTail stop ts := by
  cases ts with
  | nil => rfl
  | cons u us => simp only [commas, commasTail, List.append_assoc, List.cons_append]

theorem printItems_eq (vs : List Value) : printItems vs = commas (vs.map Value.print) := by
  induction vs with
  | nil => rw [printItems]; rfl
  | cons v vs ih =>
    cases vs with
    | nil => rw [printItems]; rfl
    | cons w ws =>
      rw [printItems, ih]
      · rfl
      · exact List.cons_ne_nil w ws

/-- The text of a member. -/
def printMember (m : String × Value) : List Char := printText m.1 ++ ':' :: m.2.print

theorem printMembers_eq (ms : List (String × Value)) :
    printMembers ms = commas (ms.map printMember) := by
  induction ms with
  | nil => rw [printMembers]; rfl
  | cons m ms ih =>
    cases ms with
    | nil => rw [printMembers]; rfl
    | cons n ns =>
      rw [printMembers, ih]
      · simp only [List.map_cons, commas, printMember, List.append_assoc, List.cons_append]
      · exact List.cons_ne_nil n ns

section

variable {α : Type} {f : α → List Char} {stop : Char} {xs ys : List α}

/-- What a list is closed with, or a comma, ends a numeral. -/
theorem endsNumeral_commasTail {rest : List Char} (hstop : EndsNumeral (stop :: rest))
    (ts : List (List Char)) : EndsNumeral (commasTail (stop :: rest) ts) := by
  cases ts with
  | nil => exact hstop
  | cons t ts => exact endsNumeral_cons (by decide) (by decide) (by decide) (by decide) _

/-- Texts with commas between them are told apart if each tells where it ends and none begins with
what closes the list. -/
theorem commas_append_inj (hcomma : stop ≠ ',') (hends : ∀ rest, EndsNumeral (stop :: rest))
    (hbegins : ∀ x ∈ xs ++ ys, ∃ c cs, f x = c :: cs ∧ c ≠ stop)
    (hinj : ∀ x ∈ xs, ∀ y ∈ ys, ∀ rest rest', EndsNumeral rest → EndsNumeral rest' →
      f x ++ rest = f y ++ rest' → x = y ∧ rest = rest') {rest rest' : List Char}
    (h : commas (xs.map f) ++ stop :: rest = commas (ys.map f) ++ stop :: rest') :
    xs = ys ∧ rest = rest' := by
  have hclosed {z : α} (hz : z ∈ xs ++ ys) (zs : List α) (before after : List Char) :
      stop :: before ≠ commas ((z :: zs).map f) ++ after := by
    obtain ⟨c, cs, hz, hc⟩ := hbegins z hz
    rw [List.map_cons, commas_cons_append, hz, List.cons_append]
    exact fun heq => hc (List.cons.inj heq).1.symm
  induction xs generalizing ys with
  | nil =>
    cases ys with
    | nil => exact ⟨rfl, (List.cons.inj h).2⟩
    | cons y ys => exact absurd h (hclosed List.mem_cons_self ys _ _)
  | cons x xs ih =>
    cases ys with
    | nil => exact absurd h.symm (hclosed List.mem_cons_self xs _ _)
    | cons y ys =>
      rw [List.map_cons, List.map_cons, commas_cons_append, commas_cons_append] at h
      obtain ⟨rfl, htail⟩ := hinj x List.mem_cons_self y List.mem_cons_self _ _
        (endsNumeral_commasTail (hends rest) _) (endsNumeral_commasTail (hends rest') _) h
      have hmem {z : α} (hz : z ∈ xs ++ ys) : z ∈ x :: xs ++ x :: ys := by
        rcases List.mem_append.1 hz with hz | hz
        · exact List.mem_append_left _ (List.mem_cons_of_mem _ hz)
        · exact List.mem_append_right _ (List.mem_cons_of_mem _ hz)
      have hrest : commas (xs.map f) ++ stop :: rest = commas (ys.map f) ++ stop :: rest' := by
        cases xs with
        | nil =>
          cases ys with
          | nil => exact htail
          | cons => exact absurd (List.cons.inj htail).1 hcomma
        | cons =>
          cases ys with
          | nil => exact absurd (List.cons.inj htail).1.symm hcomma
          | cons => exact (List.cons.inj htail).2
      obtain ⟨rfl, hend⟩ := ih (fun z hz => hbegins z (hmem hz))
        (fun z hz w hw => hinj z (List.mem_cons_of_mem _ hz) w (List.mem_cons_of_mem _ hw)) hrest
        fun hz => hclosed (hmem hz)
      exact ⟨rfl, hend⟩

end

/-! ## Values -/

/-- The first character of the text tells the kind of the value. -/
def Value.IsLedBy (c : Char) : Value → Prop
  | .null => c = 'n'
  | .bool true => c = 't'
  | .bool false => c = 'f'
  | .number _ => c = '-' ∨ c.isDigit = true
  | .text _ => c = '"'
  | .list _ => c = '['
  | .object _ => c = '{'

/-- The values are of one kind, and the same if they are truth values. -/
def Value.IsAkin : Value → Value → Prop
  | .null, .null | .number _, .number _ | .text _, .text _ | .list _, .list _
  | .object _, .object _ => True
  | .bool b, .bool b' => b = b'
  | _, _ => False

theorem Value.IsExact.exists_print {v : Value} (h : v.IsExact) :
    ∃ c cs, v.print = c :: cs ∧ v.IsLedBy c := by
  cases h with
  | null => exact ⟨_, _, by rw [print], rfl⟩
  | bool b => cases b <;> exact ⟨_, _, by rw [print], rfl⟩
  | int n =>
    obtain ⟨c, cs, hprint, hc⟩ := Numeral.exists_print_int n
    exact ⟨c, cs, by rw [print, hprint], hc⟩
  | text s => exact ⟨'"', _, by rw [print]; rfl, rfl⟩
  | list h => exact ⟨'[', _, by rw [print]; rfl, rfl⟩
  | object h => exact ⟨'{', _, by rw [print]; rfl, rfl⟩

/-- No value begins with what closes a list. -/
theorem Value.IsExact.exists_print_ne {v : Value} (h : v.IsExact) :
    ∃ c cs, v.print = c :: cs ∧ c ≠ ']' := by
  obtain ⟨c, cs, hprint, hc⟩ := h.exists_print
  refine ⟨c, cs, hprint, ?_⟩
  rintro rfl
  rcases v with _ | (_ | _) | _ | _ | _ | _
  case number => rcases hc with hc | hc <;> cases hc
  all_goals cases hc

/-- Values whose texts begin alike are of one kind. -/
theorem Value.IsExact.isAkin {v w : Value} (hv : v.IsExact) (hw : w.IsExact)
    {rest rest' : List Char} (h : v.print ++ rest = w.print ++ rest') : v.IsAkin w := by
  obtain ⟨c, cs, hprint, hc⟩ := hv.exists_print
  obtain ⟨c', cs', hprint', hc'⟩ := hw.exists_print
  rw [hprint, hprint', List.cons_append, List.cons_append, List.cons.injEq] at h
  obtain rfl := h.1
  rcases v with _ | (_ | _) | _ | _ | _ | _ <;> rcases w with _ | (_ | _) | _ | _ | _ | _ <;>
    simp_all [IsLedBy, IsAkin]

/-- The text of a value tells where it ends. -/
theorem Value.IsExact.print_append_inj {v w : Value} (hv : v.IsExact) (hw : w.IsExact)
    {rest rest' : List Char} (hr : EndsNumeral rest) (hr' : EndsNumeral rest')
    (h : v.print ++ rest = w.print ++ rest') : v = w ∧ rest = rest' := by
  have hends (c : Char) (hc : c = ']' ∨ c = '}') (rest : List Char) : EndsNumeral (c :: rest) := by
    rcases hc with rfl | rfl <;>
      exact endsNumeral_cons (by decide) (by decide) (by decide) (by decide) rest
  induction hv generalizing w rest rest' with
  | null =>
    have hakin := IsExact.null.isAkin hw h
    cases hw with
    | null => exact ⟨rfl, List.append_cancel_left h⟩
    | _ => cases hakin
  | bool b =>
    have hakin := (IsExact.bool b).isAkin hw h
    cases hw with
    | bool b' =>
      obtain rfl : b = b' := hakin
      exact ⟨rfl, List.append_cancel_left h⟩
    | _ => cases hakin
  | int n =>
    have hakin := (IsExact.int n).isAkin hw h
    cases hw with
    | int m =>
      rw [print, print] at h
      obtain ⟨rfl, hrest⟩ := print_int_append_inj hr hr' h
      exact ⟨rfl, hrest⟩
    | _ => cases hakin
  | text s =>
    have hakin := (IsExact.text s).isAkin hw h
    cases hw with
    | text t =>
      rw [print, print] at h
      obtain ⟨rfl, hrest⟩ := printText_append_inj h
      exact ⟨rfl, hrest⟩
    | _ => cases hakin
  | @list items hitems ih =>
    have hakin := (IsExact.list hitems).isAkin hw h
    cases hw with
    | @list items' hitems' =>
      simp only [print, printItems_eq, List.cons_append, List.append_assoc, List.nil_append,
        List.cons.injEq, true_and] at h
      obtain ⟨rfl, hrest⟩ := commas_append_inj (by decide) (hends _ (.inl rfl))
        (fun x hx => ((List.mem_append.1 hx).elim (hitems x) (hitems' x)).exists_print_ne)
        (fun x hx y hy _ _ hr hr' => ih x hx (hitems' y hy) hr hr') h
      exact ⟨rfl, hrest⟩
    | _ => cases hakin
  | @object members hmembers ih =>
    have hakin := (IsExact.object hmembers).isAkin hw h
    cases hw with
    | @object members' hmembers' =>
      simp only [print, printMembers_eq, List.cons_append, List.append_assoc, List.nil_append,
        List.cons.injEq, true_and] at h
      have hmember : ∀ m ∈ members, ∀ m' ∈ members', ∀ rest rest', EndsNumeral rest →
          EndsNumeral rest' → printMember m ++ rest = printMember m' ++ rest' →
          m = m' ∧ rest = rest' := by
        intro m hm m' hm' rest rest' hr hr' heq
        unfold printMember at heq
        rw [List.append_assoc, List.append_assoc] at heq
        obtain ⟨hname, hvalue⟩ := printText_append_inj heq
        obtain ⟨hvalue, hrest⟩ := ih m hm (hmembers' m' hm') hr hr' (List.cons.inj hvalue).2
        exact ⟨Prod.ext hname hvalue, hrest⟩
      obtain ⟨rfl, hrest⟩ := commas_append_inj (by decide) (hends _ (.inr rfl))
        (fun m _ => ⟨'"', _, rfl, by decide⟩) hmember h
      exact ⟨rfl, hrest⟩
    | _ => cases hakin

/-- Values with one text are equal. -/
theorem Value.IsExact.eq_of_toText {v w : Value} (hv : v.IsExact) (hw : w.IsExact)
    (h : v.toText = w.toText) : v = w := by
  have hprint : v.print ++ [] = w.print ++ [] := by
    rw [List.append_nil, List.append_nil]
    exact String.ofList_inj.1 h
  exact (hv.print_append_inj hw endsNumeral_nil endsNumeral_nil hprint).1

end AgentSandbox.Json
