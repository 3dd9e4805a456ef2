/-
CoachClient.Proofs.Time.Calendar — days and nanoseconds are counted as they pass.

* `daysBeforeYear_succ`, `daysBeforeMonth_thirteen` — a year is as long as its months, a leap
  year one day longer than the others.
* `Date.next?_cases`, `Date.next?_dayNumber` — what the next day is, and that its number is the
  next one, over the ends of months and years.
* `Date.dayNumber_inj`, `Date.exists_next?` — no two days have one number, and every day but
  the last has a next one.
* `Date.DaysFrom` — how many days one goes on, or back, from one day to another;
  `Date.daysFrom_iff` — it is the distance between their numbers.
* `Instant.Elapses`, `Instant.elapses_iff` — the nanoseconds that pass between two instants
  that are in no leap second, and that these are counted.
* `Instant.nanosUntil_bounds`, `Instant.minutesUntil_bounds` — there are never more of them than
  in all years of the calendar, so nothing outgrows a signed word of 64 bits.
* `RoundsTo`, `Instant.minutesUntil_rounds` — the whole units in a difference, rounded toward
  zero, and that minutes are.
-/
import CoachClient.Proofs.Time.Wire
import Mathlib.Tactic.IntervalCases

namespace CoachClient.Time

/-! ## 1. Months and years -/

theorem daysBeforeMonth_succ (year : Int) (month : Nat) :
    daysBeforeMonth year (month + 1) = daysBeforeMonth year month + daysInMonth year month := rfl

/-- The months of a year are a year. -/
theorem daysBeforeMonth_thirteen (year : Int) :
    daysBeforeMonth year 13 = if isLeapYear year then 366 else 365 := by
  cases h : isLeapYear year <;> simp [daysBeforeMonth, daysInMonth, h]

theorem daysBeforeMonth_mono (year : Int) {m n : Nat} (h : m ≤ n) :
    daysBeforeMonth year m ≤ daysBeforeMonth year n := by
  induction n, h using Nat.le_induction with
  | base => exact Nat.le_refl _
  | succ n _ ih =>
    rw [daysBeforeMonth_succ]
    omega

/-- The next year begins when the months of this one are over. -/
theorem daysBeforeYear_succ (year : Int) :
    daysBeforeYear (year + 1) = daysBeforeYear year + daysBeforeMonth year 13 := by
  rw [daysBeforeMonth_thirteen]
  simp only [daysBeforeYear, isLeapYear, Bool.and_eq_true, Bool.or_eq_true, beq_iff_eq, bne_iff_ne]
  split <;> omega

theorem daysBeforeYear_mono {m n : Int} (h : m ≤ n) : daysBeforeYear m ≤ daysBeforeYear n := by
  simp only [daysBeforeYear]
  omega

/-! ## 2. The next day -/

namespace Date

/-- What is known of every day of the calendar. -/
theorem bounds (d : Date) :
    (minYear ≤ d.year ∧ d.year ≤ maxYear) ∧ (1 ≤ d.month ∧ d.month ≤ 12) ∧
      1 ≤ d.day ∧ d.day ≤ daysInMonth d.year d.month := by
  have hdate := d.exists_day
  simp only [isDate, Bool.and_eq_true, decide_eq_true_eq] at hdate
  obtain ⟨⟨hyear, hlow⟩, hhigh⟩ := hdate
  exact ⟨hyear, month_of_daysInMonth (Nat.lt_of_lt_of_le hlow hhigh), hlow, hhigh⟩

theorem of?_eq_some {year : Int} {month day : Nat} {d : Date} (h : of? year month day = some d) :
    d.year = year ∧ d.month = month ∧ d.day = day := by
  unfold of? at h
  split at h
  · rw [← Option.some.inj h]
    exact ⟨rfl, rfl, rfl⟩
  · cases h

theorem exists_of? {year : Int} {month day : Nat} (hyear : minYear ≤ year ∧ year ≤ maxYear)
    (hlow : 1 ≤ day) (hhigh : day ≤ daysInMonth year month) :
    ∃ d, of? year month day = some d := by
  have hdate : isDate year month day = true := by
    simp only [isDate, Bool.and_eq_true, decide_eq_true_eq]
    exact ⟨⟨hyear, hlow⟩, hhigh⟩
  exact ⟨_, dif_pos hdate⟩

/-- The next day is in the same month, or it is the first of the next one. -/
theorem next?_cases {d e : Date} (h : d.next? = some e) :
    (e.year = d.year ∧ e.month = d.month ∧ e.day = d.day + 1) ∨
      (d.day = daysInMonth d.year d.month ∧ e.day = 1 ∧
        (e.year = d.year ∧ e.month = d.month + 1 ∨
          d.month = 12 ∧ e.year = d.year + 1 ∧ e.month = 1)) := by
  obtain ⟨-, ⟨-, hmonth⟩, -, hlast⟩ := d.bounds
  unfold next? at h
  split at h
  · exact Or.inl (of?_eq_some h)
  · right
    split at h
    · obtain ⟨hyear, hnext, hday⟩ := of?_eq_some h
      exact ⟨by omega, hday, Or.inl ⟨hyear, hnext⟩⟩
    · obtain ⟨hyear, hnext, hday⟩ := of?_eq_some h
      exact ⟨by omega, hday, Or.inr ⟨by omega, hyear, hnext⟩⟩

/-- Its number is the next one. -/
theorem next?_dayNumber {d e : Date} (h : d.next? = some e) : e.dayNumber = d.dayNumber + 1 := by
  unfold dayNumber
  rcases next?_cases h with
    ⟨hyear, hmonth, hday⟩ | ⟨hlast, hday, ⟨hyear, hmonth⟩ | ⟨hmonth, hyear, hnext⟩⟩
  · rw [hyear, hmonth, hday]
    omega
  · rw [hyear, hmonth, hday, daysBeforeMonth_succ]
    omega
  · -- the year is over, so its months are
    have hyears := daysBeforeYear_succ d.year
    rw [daysBeforeMonth_succ, ← hmonth] at hyears
    have hfirst : daysBeforeMonth e.year 1 = 0 := rfl
    rw [hyear, hnext, hday, hyears]
    rw [hyear] at hfirst
    omega

/-! ## 3. Numbers of days -/

/-- A day is within its month. -/
theorem dayNumber_month (d : Date) :
    daysBeforeYear d.year + daysBeforeMonth d.year d.month ≤ d.dayNumber ∧
      d.dayNumber < daysBeforeYear d.year + daysBeforeMonth d.year (d.month + 1) := by
  obtain ⟨-, -, hlow, hhigh⟩ := d.bounds
  rw [daysBeforeMonth_succ]
  unfold dayNumber
  omega

/-- And within its year. -/
theorem dayNumber_year (d : Date) :
    daysBeforeYear d.year ≤ d.dayNumber ∧ d.dayNumber < daysBeforeYear (d.year + 1) := by
  obtain ⟨hlow, hhigh⟩ := d.dayNumber_month
  obtain ⟨-, ⟨-, hmonth⟩, -⟩ := d.bounds
  have hmonths := daysBeforeMonth_mono d.year (show d.month + 1 ≤ 13 by omega)
  have hyear := daysBeforeYear_succ d.year
  omega

theorem year_le_of_dayNumber_le {a b : Date} (h : a.dayNumber ≤ b.dayNumber) :
    a.year ≤ b.year := by
  by_contra hlater
  have hyears := daysBeforeYear_mono (show b.year + 1 ≤ a.year by omega)
  have hlow := a.dayNumber_year.1
  have hhigh := b.dayNumber_year.2
  omega

theorem month_le_of_dayNumber_le {a b : Date} (hyear : a.year = b.year)
    (h : a.dayNumber ≤ b.dayNumber) : a.month ≤ b.month := by
  by_contra hlater
  have hmonths := daysBeforeMonth_mono b.year (show b.month + 1 ≤ a.month by omega)
  have hlow := a.dayNumber_month.1
  have hhigh := b.dayNumber_month.2
  rw [hyear] at hlow
  omega

/-- No two days have one number. -/
theorem dayNumber_inj {a b : Date} (h : a.dayNumber = b.dayNumber) : a = b := by
  have hyear : a.year = b.year :=
    Int.le_antisymm (year_le_of_dayNumber_le (Int.le_of_eq h))
      (year_le_of_dayNumber_le (Int.le_of_eq h.symm))
  have hmonth : a.month = b.month :=
    Nat.le_antisymm (month_le_of_dayNumber_le hyear (Int.le_of_eq h))
      (month_le_of_dayNumber_le hyear.symm (Int.le_of_eq h.symm))
  have hday : a.day = b.day := by
    unfold dayNumber at h
    rw [hyear, hmonth] at h
    omega
  obtain ⟨_, _, _, _⟩ := a
  obtain ⟨_, _, _, _⟩ := b
  simp only at hyear hmonth hday
  subst hyear hmonth hday
  rfl

theorem daysInMonth_pos (year : Int) {month : Nat} (hlow : 1 ≤ month) (hhigh : month ≤ 12) :
    1 ≤ daysInMonth year month := by
  interval_cases month <;> cases h : isLeapYear year <;> simp [daysInMonth, h]

/-- A day that is not the last of the calendar has a next one. -/
theorem exists_next? {a b : Date} (h : a.dayNumber < b.dayNumber) : ∃ d, a.next? = some d := by
  obtain ⟨⟨hmin, hmax⟩, ⟨hfirst, hmonth⟩, hlow, hhigh⟩ := a.bounds
  unfold next?
  split
  · exact exists_of? ⟨hmin, hmax⟩ (by omega) (by omega)
  split
  · exact exists_of? ⟨hmin, hmax⟩ (Nat.le_refl 1) (daysInMonth_pos _ (by omega) (by omega))
  · rename_i hlast hdecember
    have hend : a.month = 12 ∧ a.day = daysInMonth a.year 12 := by
      have hmonth : a.month = 12 := by omega
      rw [hmonth] at hlast hhigh
      exact ⟨hmonth, by omega⟩
    have hwithin : a.year + 1 ≤ maxYear := by
      -- in the last year there would be no number left for the other day
      by_contra hover
      obtain ⟨⟨-, hmax'⟩, -⟩ := b.bounds
      have hyears := daysBeforeYear_mono (show b.year + 1 ≤ a.year + 1 by omega)
      have hother := b.dayNumber_year.2
      have hyear := daysBeforeYear_succ a.year
      rw [daysBeforeMonth_succ] at hyear
      have hnumber : a.dayNumber = daysBeforeYear a.year + daysBeforeMonth a.year a.month +
        (a.day : Int) - 1 := rfl
      rw [hend.1, hend.2] at hnumber
      omega
    have hmin' : minYear ≤ a.year + 1 := by omega
    exact exists_of? ⟨hmin', hwithin⟩ (Nat.le_refl 1) (daysInMonth_pos _ (by decide) (by decide))

/-! ## 4. From day to day -/

/-- Going from day to day one comes from `a` to a day in so many steps, those back counted as
negative ones. -/
inductive DaysFrom (a : Date) : Int → Date → Prop where
  | here : DaysFrom a 0 a
  | forth {n : Int} {b c : Date} : DaysFrom a n b → b.next? = some c → DaysFrom a (n + 1) c
  | back {n : Int} {b c : Date} : DaysFrom a n b → c.next? = some b → DaysFrom a (n - 1) c

/-- Each step changes the number of the day by one, so all of them do by as many as they
are. -/
theorem DaysFrom.dayNumber {a b : Date} {n : Int} (h : DaysFrom a n b) :
    b.dayNumber = a.dayNumber + n := by
  induction h with
  | here => omega
  | forth _ hnext ih =>
    rw [next?_dayNumber hnext]
    omega
  | back _ hnext ih =>
    rw [next?_dayNumber hnext] at ih
    omega

/-- One can start a day earlier. -/
theorem DaysFrom.earlier {a a' b : Date} {n : Int} (hnext : a.next? = some a')
    (h : DaysFrom a' n b) : DaysFrom a (n + 1) b := by
  induction h with
  | here => exact .forth .here hnext
  | forth _ hstep ih => exact .forth ih hstep
  | @back n b c _ hstep ih =>
    have hcount : n - 1 + 1 = n + 1 - 1 := by omega
    rw [hcount]
    exact .back ih hstep

theorem daysFrom_later {a b : Date} (k : Nat) (h : b.dayNumber = a.dayNumber + k) :
    DaysFrom a k b := by
  induction k generalizing a with
  | zero =>
    obtain rfl : a = b := dayNumber_inj (by omega)
    exact .here
  | succ k ih =>
    obtain ⟨a', hnext⟩ := exists_next? (show a.dayNumber < b.dayNumber by omega)
    have hstep := next?_dayNumber hnext
    exact (ih (by omega)).earlier hnext

theorem daysFrom_earlier {a b : Date} (k : Nat) (h : a.dayNumber = b.dayNumber + k) :
    DaysFrom a (-k) b := by
  induction k generalizing b with
  | zero =>
    obtain rfl : a = b := dayNumber_inj (by omega)
    exact .here
  | succ k ih =>
    obtain ⟨b', hnext⟩ := exists_next? (show b.dayNumber < a.dayNumber by omega)
    have hstep := next?_dayNumber hnext
    have hcount : -((k + 1 : Nat) : Int) = -(k : Int) - 1 := by omega
    rw [hcount]
    exact .back (ih (by omega)) hnext

/-- From every day one comes to every other one, in as many steps as their numbers are
apart. -/
theorem daysFrom_iff {a b : Date} {n : Int} :
    DaysFrom a n b ↔ n = b.dayNumber - a.dayNumber := by
  constructor
  · intro h
    have hnumber := h.dayNumber
    omega
  · rintro rfl
    rcases Int.le_total a.dayNumber b.dayNumber with hle | hle
    · obtain ⟨k, hk⟩ := Int.eq_ofNat_of_zero_le (show 0 ≤ b.dayNumber - a.dayNumber by omega)
      rw [hk]
      exact daysFrom_later k (by omega)
    · obtain ⟨k, hk⟩ := Int.eq_ofNat_of_zero_le (show 0 ≤ a.dayNumber - b.dayNumber by omega)
      have hcount : b.dayNumber - a.dayNumber = -(k : Int) := by omega
      rw [hcount]
      exact daysFrom_earlier k (by omega)

/-- The calendar has this many days. -/
theorem dayNumber_bounds (d : Date) : -95745764 ≤ d.dayNumber ∧ d.dayNumber < 95745765 := by
  have hmin : minYear = -262143 := rfl
  have hmax : maxYear = 262142 := rfl
  obtain ⟨⟨hlow, hhigh⟩, -⟩ := d.bounds
  have hfirst := daysBeforeYear_mono (show -262143 ≤ d.year by omega)
  have hlast := daysBeforeYear_mono (show d.year + 1 ≤ 262143 by omega)
  rw [show daysBeforeYear (-262143) = -95745764 by decide] at hfirst
  rw [show daysBeforeYear 262143 = 95745765 by decide] at hlast
  have hyear := d.dayNumber_year
  omega

end Date

/-! ## 5. From instant to instant -/

/-- The nanoseconds from one instant to another, neither of them in a leap second: those of
the days from date to date, and those between the two times of day. -/
def Instant.Elapses (a b : Instant) (nanos : Int) : Prop :=
  ∃ days, Date.DaysFrom a.date days b.date ∧
    nanos = (days * 24 * 60 * 60 + ((b.second : Int) - a.second)) * 1000000000 +
      ((b.nano : Int) - a.nano)

/-- They are counted. -/
theorem Instant.elapses_iff {a b : Instant} (ha : a.isLeap = false) (hb : b.isLeap = false)
    {nanos : Int} : a.Elapses b nanos ↔ nanos = a.nanosUntil b := by
  have hleap : leapAdjustment a b = 0 := by simp [leapAdjustment, ha, hb]
  have hday : (secondsPerDay : Int) = 86400 := rfl
  have hsecond : (nanosPerSecond : Int) = 1000000000 := rfl
  simp only [Elapses, Date.daysFrom_iff, exists_eq_left, nanosUntil, hleap, hday, hsecond]
  constructor <;> (intro h; omega)

/-- There are never more of them than a signed word of 64 bits holds milliseconds. -/
theorem Instant.nanosUntil_bounds (a b : Instant) :
    -((2 ^ 63 - 1) * 1000000) ≤ a.nanosUntil b ∧ a.nanosUntil b ≤ (2 ^ 63 - 1) * 1000000 := by
  have hday : secondsPerDay = 86400 := rfl
  have hsecond : nanosPerSecond = 1000000000 := rfl
  have hleap : -1 ≤ leapAdjustment a b ∧ leapAdjustment a b ≤ 1 := by
    unfold leapAdjustment
    repeat' split
    all_goals decide
  have hparts : ∀ t : Instant, t.second < 86400 ∧ t.nano < 2000000000 := by
    intro t
    have htime := t.exists_time
    simp only [isTimeOfDay, Bool.and_eq_true, decide_eq_true_eq] at htime
    omega
  have ha := hparts a
  have hb := hparts b
  have hfirst := a.date.dayNumber_bounds
  have hlast := b.date.dayNumber_bounds
  simp only [nanosUntil, hday, hsecond]
  omega

/-- `count` whole units are in a difference, rounded toward zero: what is left of it is less
than a unit, and on the same side of zero. -/
def RoundsTo (unit difference count : Int) : Prop :=
  ∃ rest, difference = count * unit + rest ∧
    (0 ≤ difference → 0 ≤ rest ∧ rest < unit) ∧ (difference ≤ 0 → -unit < rest ∧ rest ≤ 0)

theorem roundsTo_tdiv {unit : Int} (hunit : 0 < unit) (difference : Int) :
    RoundsTo unit difference (difference.tdiv unit) := by
  refine ⟨difference.tmod unit, (Int.tdiv_mul_add_tmod difference unit).symm,
    fun h => ?_, fun h => ?_⟩
  · exact ⟨Int.tmod_nonneg unit h, Int.tmod_lt_of_pos difference hunit⟩
  · -- the mirror image
    have hnonneg : 0 ≤ (-difference).tmod unit := Int.tmod_nonneg unit (by omega)
    have hlt : (-difference).tmod unit < unit := Int.tmod_lt_of_pos _ hunit
    rw [Int.neg_tmod] at hnonneg hlt
    omega

/-- The nanoseconds of a minute. -/
def nanosPerMinute : Int := 60000000000

/-- The minutes from one instant to another are the whole ones. -/
theorem Instant.minutesUntil_rounds (a b : Instant) :
    RoundsTo nanosPerMinute (a.nanosUntil b) (a.minutesUntil b) :=
  roundsTo_tdiv (by decide) _

/-- The number of minutes fits into a signed word of 64 bits. -/
theorem Instant.minutesUntil_bounds (a b : Instant) :
    -2 ^ 63 ≤ a.minutesUntil b ∧ a.minutesUntil b < 2 ^ 63 := by
  have hminute : nanosPerMinute = 60000000000 := rfl
  have hbounds := a.nanosUntil_bounds b
  obtain ⟨rest, hnanos, hpos, hneg⟩ := a.minutesUntil_rounds b
  rw [hminute] at hnanos hpos hneg
  omega

end CoachClient.Time
