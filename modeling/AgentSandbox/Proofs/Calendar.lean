import AgentSandbox.Calendar

/-!
# The Gregorian calendar

`CivilDate.next` is the rule of the calendar: how long a month is and which date comes after another.
`CivilDate.IsDay` counts days by that rule alone, forth and back from 1970-01-01, and a date has the
number of a day exactly if `CivilDate.ofDays` makes it from that number (`CivilDate.isDay_iff`).
-/

namespace AgentSandbox.CivilDate

/-- Whether a year has a leap day. -/
def isLeap (year : Int) : Bool := year % 4 = 0 && (year % 100 ≠ 0 || year % 400 = 0)

/-- The days of a month of a year with or without a leap day. -/
def monthLength (leap : Bool) (month : Nat) : Nat :=
  match month with
  | 2 => if leap then 29 else 28
  | 4 | 6 | 9 | 11 => 30
  | _ => 31

/-- The date of the day after, in a year with or without a leap day. -/
def nextIn (leap : Bool) (d : CivilDate) : CivilDate :=
  if d.day < monthLength leap d.month then ⟨d.year, d.month, d.day + 1⟩
  else if d.month < 12 then ⟨d.year, d.month + 1, 1⟩
  else ⟨d.year + 1, 1, 1⟩

/-- The date of the day after. -/
def next (d : CivilDate) : CivilDate := d.nextIn (isLeap d.year)

/-- The date is one of the calendar. -/
structure IsProper (d : CivilDate) : Prop where
  month_pos : 1 ≤ d.month
  month_le : d.month ≤ 12
  day_pos : 1 ≤ d.day
  day_le : d.day ≤ monthLength (isLeap d.year) d.month

/-- The number of the day of a date, counted forth and back from 1970-01-01. -/
inductive IsDay : Int → CivilDate → Prop where
  | epoch : IsDay 0 ⟨1970, 1, 1⟩
  | after {n : Int} {d : CivilDate} (h : IsDay n d) : IsDay (n + 1) d.next
  | before {n : Int} {d : CivilDate} (proper : d.IsProper) (h : IsDay (n + 1) d.next) : IsDay n d

theorem next_cases {d : CivilDate} (hd : d.IsProper) :
    d.next = ⟨d.year, d.month, d.day + 1⟩ ∨
      d.day = monthLength (isLeap d.year) d.month ∧
        (d.next = ⟨d.year, d.month + 1, 1⟩ ∨ d.month = 12 ∧ d.next = ⟨d.year + 1, 1, 1⟩) := by
  unfold next nextIn
  split
  · exact .inl rfl
  · next hday =>
    have hlast := Nat.le_antisymm hd.day_le (Nat.le_of_not_lt hday)
    split
    · exact .inr ⟨hlast, .inl rfl⟩
    · next hmonth =>
      exact .inr ⟨hlast, .inr ⟨Nat.le_antisymm hd.month_le (Nat.le_of_not_lt hmonth), rfl⟩⟩

/-- The date of the day before. -/
def previous (d : CivilDate) : CivilDate :=
  if 1 < d.day then ⟨d.year, d.month, d.day - 1⟩
  else if 1 < d.month then ⟨d.year, d.month - 1, monthLength (isLeap d.year) (d.month - 1)⟩
  else ⟨d.year - 1, 12, 31⟩

theorem previous_next {d : CivilDate} (hd : d.IsProper) : d.next.previous = d := by
  have hday := hd.day_pos
  have hmonth := hd.month_pos
  obtain ⟨year, month, day⟩ := d
  rcases next_cases hd with h | ⟨hlast, h | ⟨rfl, h⟩⟩
  · have hlt : 1 < day + 1 := Nat.lt_succ_of_le hday
    simp only [h, previous, if_pos hlt, Nat.add_sub_cancel]
  · have hlt : 1 < month + 1 := Nat.lt_succ_of_le hmonth
    simp only [h, previous, Nat.lt_irrefl, if_false, if_pos hlt, Nat.add_sub_cancel]
    exact congrArg _ hlast.symm
  · have hsub : year + 1 - 1 = year := by omega
    simp only [h, previous, Nat.lt_irrefl, if_false, hsub]
    exact congrArg _ hlast.symm

/-! ## Years from March -/

/-- The date of a day of a year that begins with March; days are counted from zero. -/
def ofMarch (year : Int) (dayOfYear : Nat) : CivilDate :=
  let m := (5 * dayOfYear + 2) / 153
  let month := if m < 10 then m + 3 else m - 9
  ⟨year + (if month ≤ 2 then 1 else 0), month, dayOfYear - (153 * m + 2) / 5 + 1⟩

/-- The days of a year that begins with March, given whether it ends with a leap day. -/
def marchLength (leap : Bool) : Nat := if leap then 366 else 365

/-- The date some years later. -/
def later (years : Int) (d : CivilDate) : CivilDate := { d with year := years + d.year }

theorem ofMarch_eq (year : Int) (k : Nat) : ofMarch year k = (ofMarch 0 k).later year := by
  simp only [ofMarch, later, Int.zero_add]

theorem nextIn_later (leap : Bool) (years : Int) (d : CivilDate) :
    (d.later years).nextIn leap = (d.nextIn leap).later years := by
  unfold nextIn later
  split
  · rfl
  split
  · rfl
  · simp only [Int.add_assoc]

theorem ofMarch_table : ∀ leap : Bool, ∀ k < marchLength leap,
    let d := ofMarch 0 k
    (1 ≤ d.month ∧ d.month ≤ 12 ∧ 1 ≤ d.day ∧ d.day ≤ monthLength leap d.month) ∧
      (d.month = 2 → d.year = 1) ∧
      d.nextIn leap = if k + 1 < marchLength leap then ofMarch 0 (k + 1) else ofMarch 1 0 := by
  decide +kernel

theorem monthLength_eq {month : Nat} (h : month ≠ 2) (leap leap' : Bool) :
    monthLength leap month = monthLength leap' month := by
  unfold monthLength
  split
  · exact absurd rfl h
  all_goals rfl

section

variable {year : Int} {k : Nat} (hk : k < marchLength (isLeap (year + 1)))

include hk

/-- In the months of a year from March the leap day is that of the civil year in which it ends. -/
theorem monthLength_ofMarch :
    monthLength (isLeap (ofMarch year k).year) (ofMarch year k).month =
      monthLength (isLeap (year + 1)) (ofMarch year k).month := by
  obtain ⟨-, hyear, -⟩ := ofMarch_table _ k hk
  by_cases h : (ofMarch 0 k).month = 2
  · rw [ofMarch_eq, later, hyear h]
  · rw [ofMarch_eq]
    exact monthLength_eq h _ _

theorem isProper_ofMarch : (ofMarch year k).IsProper := by
  obtain ⟨⟨hm, hm', hd, hd'⟩, -⟩ := ofMarch_table _ k hk
  have hlength := monthLength_ofMarch hk
  refine ⟨?_, ?_, ?_, ?_⟩
  · rw [ofMarch_eq]
    exact hm
  · rw [ofMarch_eq]
    exact hm'
  · rw [ofMarch_eq]
    exact hd
  · rw [hlength, ofMarch_eq]
    exact hd'

theorem next_ofMarch :
    (ofMarch year k).next =
      if k + 1 < marchLength (isLeap (year + 1)) then ofMarch year (k + 1)
      else ofMarch (year + 1) 0 := by
  have hnext : (ofMarch year k).next = (ofMarch year k).nextIn (isLeap (year + 1)) := by
    unfold next nextIn
    rw [monthLength_ofMarch hk]
  rw [hnext, ofMarch_eq, nextIn_later, (ofMarch_table _ k hk).2.2]
  split
  · exact (ofMarch_eq _ _).symm
  · rw [ofMarch_eq 1, ofMarch_eq (year + 1)]
    simp only [later, Int.add_assoc]

end

/-! ## Eras -/

/-- The days before a year that begins with March, counted from a year that 400 divides. -/
def daysBefore (year : Nat) : Nat := 365 * year + year / 4 - year / 100 + year / 400

/-- The year of a day of an era, before it is rounded to whole years. -/
def yearDays (day : Nat) : Nat := day - day / 1460 + day / 36524 - day / 146096

theorem yearDays_mono {day day' : Nat} (h : day ≤ day') (h' : day' < 146097) :
    yearDays day ≤ yearDays day' := by
  unfold yearDays
  omega

theorem yearDays_table : ∀ year < 400,
    365 * year ≤ yearDays (daysBefore year) ∧
      yearDays (daysBefore (year + 1) - 1) < 365 * (year + 1) := by
  decide +kernel

theorem daysBefore_succ (era : Int) {year : Nat} (h : year < 400) :
    daysBefore (year + 1) = daysBefore year + marchLength (isLeap (era * 400 + year + 1)) := by
  have hleap : isLeap (era * 400 + year + 1) =
      decide ((year + 1) % 4 = 0 ∧ ((year + 1) % 100 ≠ 0 ∨ year + 1 = 400)) := by
    unfold isLeap
    rw [Bool.eq_iff_iff]
    simp only [Bool.and_eq_true, Bool.or_eq_true, decide_eq_true_eq, ne_eq]
    omega
  unfold daysBefore marchLength
  rw [hleap]
  by_cases hend : (year + 1) % 4 = 0 ∧ ((year + 1) % 100 ≠ 0 ∨ year + 1 = 400)
  · rw [decide_eq_true hend, if_pos rfl]
    omega
  · rw [decide_eq_false hend, if_neg Bool.false_ne_true]
    omega

/-- Every day falls in a year. -/
theorem exists_daysBefore_le {day years : Nat} (h : day < daysBefore years) :
    ∃ year < years, daysBefore year ≤ day ∧ day < daysBefore (year + 1) := by
  induction years with
  | zero => cases h
  | succ years ih =>
    by_cases hyear : day < daysBefore years
    · obtain ⟨year, hlt, hday⟩ := ih hyear
      exact ⟨year, Nat.lt_succ_of_lt hlt, hday⟩
    · exact ⟨years, Nat.lt_succ_self years, Nat.le_of_not_lt hyear, h⟩

/-- The year that is computed for a day of an era is the one in which the day falls. -/
theorem yearDays_div {year day : Nat} (hyear : year < 400) (h : daysBefore year ≤ day)
    (h' : day < daysBefore (year + 1)) : yearDays day / 365 = year := by
  obtain ⟨hfirst, hlast⟩ := yearDays_table year hyear
  have hera : daysBefore (year + 1) ≤ 146097 := by
    unfold daysBefore
    omega
  have hmono := yearDays_mono h (Nat.lt_of_lt_of_le h' hera)
  have hmono' := yearDays_mono (Nat.le_sub_one_of_lt h') (by omega)
  omega

theorem ofDays_eq (era : Int) {year k : Nat} (hyear : year < 400)
    (hk : k < marchLength (isLeap (era * 400 + year + 1))) :
    ofDays (era * 146097 + (daysBefore year + k) - epoch) = ofMarch (era * 400 + year) k := by
  have hsucc := daysBefore_succ era hyear
  have hdiv := yearDays_div hyear (Nat.le_add_right _ k) (by omega)
  have hday : daysBefore year + k < 146097 := by
    have hera : daysBefore (year + 1) ≤ 146097 := by
      unfold daysBefore
      omega
    omega
  have hz : era * 146097 + (daysBefore year + k) - epoch + epoch =
      era * 146097 + ((daysBefore year + k : Nat) : Int) := by omega
  have hfdiv : Int.fdiv (era * 146097 + ((daysBefore year + k : Nat) : Int)) 146097 = era := by
    rw [Int.fdiv_eq_ediv_of_nonneg _ (by decide)]
    omega
  have hrest : (era * 146097 + ((daysBefore year + k : Nat) : Int) - era * 146097).toNat =
      daysBefore year + k := by omega
  have hk' : daysBefore year + k - (365 * year + year / 4 - year / 100) = k := by
    unfold daysBefore
    omega
  unfold yearDays at hdiv
  unfold ofDays
  simp only [hz, hfdiv, hrest, hdiv, hk']
  rfl

/-- Every day is one of a year from March. -/
theorem exists_ofMarch (n : Int) :
    ∃ (era : Int) (year k : Nat), year < 400 ∧ k < marchLength (isLeap (era * 400 + year + 1)) ∧
      n = era * 146097 + (daysBefore year + k) - epoch := by
  have hday : ((n + epoch) % 146097).toNat < daysBefore 400 := by
    have h : daysBefore 400 = 146097 := rfl
    omega
  obtain ⟨year, hyear, hle, hlt⟩ := exists_daysBefore_le hday
  have hsucc := daysBefore_succ ((n + epoch) / 146097) hyear
  exact ⟨(n + epoch) / 146097, year, ((n + epoch) % 146097).toNat - daysBefore year, hyear,
    by omega, by omega⟩

theorem isProper_ofDays (n : Int) : (ofDays n).IsProper := by
  obtain ⟨era, year, k, hyear, hk, rfl⟩ := exists_ofMarch n
  rw [ofDays_eq era hyear hk]
  exact isProper_ofMarch hk

/-- The date of the day after a day is the next one of the calendar. -/
theorem ofDays_succ (n : Int) : ofDays (n + 1) = (ofDays n).next := by
  obtain ⟨era, year, k, hyear, hk, rfl⟩ := exists_ofMarch n
  rw [ofDays_eq era hyear hk, next_ofMarch hk]
  by_cases hlast : k + 1 < marchLength (isLeap (era * 400 + year + 1))
  · rw [if_pos hlast, ← ofDays_eq era hyear hlast]
    congr 1
    omega
  -- the last day of a year is followed by the first one of the next year, or of the next era
  have hfirst (leap : Bool) : 0 < marchLength leap := by cases leap <;> decide
  have hsucc := daysBefore_succ era hyear
  rw [if_neg hlast]
  by_cases hera : year + 1 < 400
  · have hyears : era * 400 + year + 1 = era * 400 + (year + 1 : Nat) := by omega
    rw [hyears, ← ofDays_eq era hera (hfirst _)]
    congr 1
    omega
  · obtain rfl : year = 399 := by omega
    have hend : daysBefore (399 + 1) = 146097 := rfl
    have hyears : era * 400 + (399 : Nat) + 1 = (era + 1) * 400 + (0 : Nat) := by omega
    rw [hyears, ← ofDays_eq (era + 1) (by decide) (hfirst _)]
    have hzero : daysBefore 0 = 0 := rfl
    congr 1
    omega

theorem ofDays_zero : ofDays 0 = ⟨1970, 1, 1⟩ := by decide

theorem isDay_ofDays (n : Int) : IsDay n (ofDays n) := by
  have hforth (k : Nat) : IsDay k (ofDays k) := by
    induction k with
    | zero => exact ofDays_zero ▸ .epoch
    | succ k ih =>
      have h := ih.after
      rwa [← ofDays_succ] at h
  have hback (k : Nat) : IsDay (-k) (ofDays (-k)) := by
    induction k with
    | zero => exact ofDays_zero ▸ .epoch
    | succ k ih =>
      have hk : -((k + 1 : Nat) : Int) + 1 = -k := by omega
      refine .before (isProper_ofDays _) ?_
      rwa [← ofDays_succ, hk]
  rcases Int.le_total 0 n with h | h
  · obtain ⟨k, rfl⟩ := Int.eq_ofNat_of_zero_le h
    exact hforth k
  · obtain ⟨k, hk⟩ := Int.eq_ofNat_of_zero_le (Int.neg_nonneg_of_nonpos h)
    obtain rfl : n = -k := by omega
    exact hback k

/-- The date that is made from the number of a day is the one that the calendar counts. -/
theorem isDay_iff {n : Int} {d : CivilDate} : IsDay n d ↔ d = ofDays n := by
  refine ⟨fun h => ?_, fun h => h ▸ isDay_ofDays n⟩
  induction h with
  | epoch => exact ofDays_zero.symm
  | after _ ih => rw [ofDays_succ, ih]
  | before proper _ ih =>
    rw [ofDays_succ] at ih
    rw [← previous_next proper, ih, previous_next (isProper_ofDays _)]

end AgentSandbox.CivilDate
