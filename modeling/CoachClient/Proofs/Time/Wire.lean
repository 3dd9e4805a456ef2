/-
CoachClient.Proofs.Time.Wire — instants that are written read back.

* `scanNumber_padded` — digits of any width are read, if no more of them follow
  or no more are wanted.
* `scanPart_padded`, `scanYear_yearText`, `scanFraction_fractionText`,
  `scanTime_timeText` — so is every part of an instant, with what follows it.
* `Instant.read_wire` — and so is every instant, those in leap seconds and those
  outside the years of four digits included.
-/
import CoachClient.Proofs.Text.Decimal
import CoachClient.Time.Reading

namespace CoachClient.Time

open CoachClient.Text

/-! ## 1. Numbers -/

/-- What follows does not go on with digits. -/
def EndsDigits (rest : List Char) : Prop := ∀ c ∈ rest.head?, isDigit c = false

theorem endsDigits_cons {c : Char} (h : isDigit c = false) (rest : List Char) :
    EndsDigits (c :: rest) := by
  intro d hd
  rw [← Option.some.inj hd]
  exact h

/-- Digits are read onto what has been read before, as far as they fit. -/
theorem scanDigits_append {max acc : Nat} {ds rest : List Char} (hds : ∀ c ∈ ds, isDigit c = true)
    (hmax : ds.length ≤ max) (hend : ds.length = max ∨ EndsDigits rest)
    (hfits : digitsOnto acc ds ≤ maxInt64) :
    scanDigits max acc (ds ++ rest) = .ok (digitsOnto acc ds, rest) := by
  induction ds generalizing max acc with
  | nil =>
    cases max with
    | zero => rfl
    | succ max =>
      have hrest : EndsDigits rest := hend.resolve_left (by simp)
      cases rest with
      | nil => rfl
      | cons c rest =>
        have hc : isDigit c = false := hrest c rfl
        simp only [List.nil_append, scanDigits, hc, Bool.false_eq_true, if_false]
        rfl
  | cons d ds ih =>
    obtain ⟨max, rfl⟩ : ∃ k, max = k + 1 := ⟨max - 1, by simp at hmax; omega⟩
    rw [digitsOnto_cons] at hfits ⊢
    have hd : isDigit d = true := hds d List.mem_cons_self
    have hstep : 10 * acc + digitValue d ≤ maxInt64 :=
      Nat.le_trans (le_digitsOnto _ ds) hfits
    simp only [List.cons_append, scanDigits, hd, if_true, if_pos hstep]
    refine ih (fun c hc => hds c (List.mem_cons_of_mem d hc)) ?_ ?_ hfits
    · simpa using hmax
    · simpa using hend

/-- A number with zeros in front is read. -/
theorem scanNumber_padded {width n max : Nat} {rest : List Char} (hn : n ≤ maxInt64)
    (hmax : (padded width n).length ≤ max)
    (hend : (padded width n).length = max ∨ EndsDigits rest) :
    scanNumber max (padded width n ++ rest) = .ok (n, rest) := by
  have hvalue : digitsOnto 0 (padded width n) = n := digitsValue_padded width n
  have hscan : scanDigits max 0 (padded width n ++ rest) = .ok (n, rest) := by
    have hds : ∀ c ∈ padded width n, isDigit c = true := fun c hc => isDigit_of_mem_padded hc
    rw [scanDigits_append hds hmax hend (by rw [hvalue]; exact hn), hvalue]
  obtain ⟨d, ds, hcons⟩ := List.exists_cons_of_ne_nil (padded_ne_nil width n)
  have hd : isDigit d = true := isDigit_of_mem_padded (by rw [hcons]; exact List.mem_cons_self)
  rw [hcons, List.cons_append] at hscan ⊢
  simp only [scanNumber, hd, if_true, hscan]

theorem not_blank_of_isDigit {c : Char} (h : isDigit c = true) : isBlank c = false := by
  unfold isDigit at h
  simp only [Bool.and_eq_true, decide_eq_true_eq] at h
  have hlow : 48 ≤ c.toNat := h.1
  have hhigh : c.toNat ≤ 57 := h.2
  unfold isBlank
  simp
  omega

/-- No blanks stand before a number that is written. -/
theorem dropWhile_padded (width n : Nat) (rest : List Char) :
    (padded width n ++ rest).dropWhile isBlank = padded width n ++ rest := by
  obtain ⟨d, ds, hcons⟩ := List.exists_cons_of_ne_nil (padded_ne_nil width n)
  have hd : isDigit d = true := isDigit_of_mem_padded (by rw [hcons]; exact List.mem_cons_self)
  rw [hcons, List.cons_append, List.dropWhile_cons_of_neg (by simp [not_blank_of_isDigit hd])]

/-- A part of a date or a time is read. -/
theorem scanPart_padded {low high n : Nat} (hlow : low ≤ n) (hhigh : n ≤ high) (hn : n < 100)
    (rest : List Char) : scanPart low high (padded 2 n ++ rest) = .ok (n, rest) := by
  have hlength : (padded 2 n).length = 2 := length_padded (by decide) hn
  have hfits : n ≤ maxInt64 := by
    have : maxInt64 = 2 ^ 63 - 1 := rfl
    omega
  have hnumber : scanNumber 2 (padded 2 n ++ rest) = .ok (n, rest) :=
    scanNumber_padded hfits (Nat.le_of_eq hlength) (Or.inl hlength)
  simp [scanPart, dropWhile_padded, hnumber, bind, Except.bind, hlow, hhigh]

theorem scanMark_cons {mark : Char} (h : isBlank mark = false) (rest : List Char) :
    scanMark mark (mark :: rest) = .ok rest := by
  simp [scanMark, h]

/-! ## 2. Years and fractions -/

/-- A year is read. -/
theorem scanYear_yearText {year : Int} (hlow : minYear ≤ year) (hhigh : year ≤ maxYear)
    {rest : List Char} (hrest : EndsDigits rest) :
    scanYear (yearText year ++ rest) = .ok (year, rest) := by
  have hmin : minYear = -262143 := rfl
  have hmax : maxYear = 262142 := rfl
  have hword : maxInt64 = 2 ^ 63 - 1 := rfl
  have hinside : -2147483648 ≤ year ∧ year < 2147483648 := by omega
  have hsigned : scanNumber ((padded 4 year.natAbs).length + rest.length)
      (padded 4 year.natAbs ++ rest) = .ok (year.natAbs, rest) :=
    scanNumber_padded (by omega) (Nat.le_add_right _ _) (Or.inr hrest)
  unfold yearText
  split
  · rename_i hfour
    simp only [Bool.and_eq_true, decide_eq_true_eq] at hfour
    have hlength : (padded 4 year.toNat).length = 4 := length_padded (by decide) (by omega)
    have hnumber : scanNumber 4 (padded 4 year.toNat ++ rest) = .ok (year.toNat, rest) :=
      scanNumber_padded (by omega) (Nat.le_of_eq hlength) (Or.inl hlength)
    have hyear : ((year.toNat : Nat) : Int) = year := Int.toNat_of_nonneg hfour.1
    have hdrop := dropWhile_padded 4 year.toNat rest
    obtain ⟨d, ds, hcons⟩ := List.exists_cons_of_ne_nil (padded_ne_nil 4 year.toNat)
    have hd : isDigit d = true :=
      isDigit_of_mem_padded (by rw [hcons]; exact List.mem_cons_self)
    rw [hcons, List.cons_append] at hnumber hdrop ⊢
    -- a digit is no sign
    have hmatch : d ≠ '-' ∧ d ≠ '+' := by
      constructor <;> (rintro rfl; exact absurd hd (by decide))
    simp [scanYear, hdrop, hmatch, hnumber, Except.map, bind, Except.bind, hyear, hinside]
  · rename_i hfour
    simp only [Bool.and_eq_true, decide_eq_true_eq] at hfour
    have hblank : isBlank '-' = false ∧ isBlank '+' = false := by decide
    generalize hm : year.natAbs = m at hsigned ⊢
    split
    · rename_i hneg
      have hyear : -(m : Int) = year := by omega
      simp [scanYear, hblank, hsigned, Except.map, bind, Except.bind, hyear, hinside]
    · rename_i hneg
      have hyear : (m : Int) = year := by omega
      simp [scanYear, hblank, hsigned, Except.map, bind, Except.bind, hyear, hinside]

/-- A fraction of some digits is read in nanoseconds. -/
theorem scanFraction_digits {width n : Nat} (hwidth : 0 < width) (hwidth' : width ≤ 9)
    (hn : n < 10 ^ width) {rest : List Char} (hrest : EndsDigits rest) :
    scanFraction ('.' :: padded width n ++ rest) = .ok (n * 10 ^ (9 - width), rest) := by
  have hlength : (padded width n).length = width := length_padded hwidth hn
  have hfits : n ≤ maxInt64 := by
    have hword : maxInt64 = 2 ^ 63 - 1 := rfl
    have hpow : 10 ^ width ≤ 10 ^ 9 := Nat.pow_le_pow_right (by decide) hwidth'
    omega
  have hnumber : scanNumber 9 (padded width n ++ rest) = .ok (n, rest) :=
    scanNumber_padded hfits (by omega) (Or.inr hrest)
  have hdrop : rest.dropWhile isDigit = rest := by
    cases rest with
    | nil => rfl
    | cons c rest => exact List.dropWhile_cons_of_neg (by simp [hrest c rfl])
  have hplaces : (padded width n ++ rest).length - rest.length = width := by
    rw [List.length_append, hlength]
    omega
  simp only [scanFraction, List.cons_append, hnumber, bind, Except.bind, hplaces, hdrop,
    Nat.pow_eq]

/-- The fraction of a second is read. -/
theorem scanFraction_fractionText {nano : Nat} (hnano : nano < nanosPerSecond)
    {rest : List Char} (hrest : EndsDigits rest) (hpoint : ∀ c ∈ rest.head?, c ≠ '.') :
    scanFraction (fractionText nano ++ rest) = .ok (nano, rest) := by
  have hsecond : nanosPerSecond = 10 ^ 9 := rfl
  unfold fractionText
  split
  · rename_i hzero
    rw [List.nil_append, hzero]
    cases rest with
    | nil => rfl
    | cons c rest =>
      have hc : c ≠ '.' := hpoint c rfl
      simp [scanFraction, hc]
  split
  · rename_i hmillis
    have hvalue : nano / 1000000 * 10 ^ (9 - 3) = nano := by omega
    rw [scanFraction_digits (by decide) (by decide) (by omega) hrest, hvalue]
  split
  · rename_i hmicros
    have hvalue : nano / 1000 * 10 ^ (9 - 6) = nano := by omega
    rw [scanFraction_digits (by decide) (by decide) (by omega) hrest, hvalue]
  · rw [scanFraction_digits (by decide) (by decide) (by omega) hrest]
    simp

/-! ## 3. Instants -/

/-- The time of day as it stands on the wire. -/
def timeText (second nano : Nat) : List Char :=
  padded 2 (second / 3600) ++ ':' :: padded 2 (second / 60 % 60)
    ++ ':' :: padded 2 (second % 60 + nano / nanosPerSecond)
    ++ fractionText (nano % nanosPerSecond) ++ ['Z']

/-- A time of day is read, and it is that of UTC. -/
theorem scanTime_timeText {second nano : Nat} (h : isTimeOfDay second nano = true) :
    scanTime (timeText second nano) = .ok (second, nano, 0, []) := by
  have hday : secondsPerDay = 86400 := rfl
  have hunit : nanosPerSecond = 1000000000 := rfl
  have hover : nano / nanosPerSecond = nano / 1000000000 := rfl
  have hrest : nano % nanosPerSecond = nano % 1000000000 := rfl
  simp only [isTimeOfDay, Bool.and_eq_true, Bool.or_eq_true, decide_eq_true_eq, beq_iff_eq] at h
  obtain ⟨⟨hsecond, hnano⟩, hleap⟩ := h
  have hcolon : isBlank ':' = false := by decide
  have hzone : EndsDigits ['Z'] := endsDigits_cons (by decide) []
  have hpoint : ∀ c ∈ (['Z'] : List Char).head?, c ≠ '.' := by simp
  have hfraction : scanFraction (fractionText (nano % nanosPerSecond) ++ ['Z']) =
      .ok (nano % nanosPerSecond, ['Z']) :=
    scanFraction_fractionText (Nat.mod_lt _ (by decide)) hzone hpoint
  have hblank : (['Z'] : List Char).dropWhile isBlank = ['Z'] := by decide
  simp only [timeText, List.append_assoc, List.cons_append, scanTime, bind, Except.bind]
  rw [scanPart_padded (by omega) (by omega) (by omega)]
  dsimp only
  rw [scanMark_cons hcolon]
  dsimp only
  rw [scanPart_padded (by omega) (by omega) (by omega)]
  dsimp only
  rw [scanMark_cons hcolon]
  dsimp only
  rw [scanPart_padded (by omega) (by omega) (by omega)]
  dsimp only
  rw [hfraction]
  dsimp only
  rw [hblank]
  simp only [scanZone]
  -- the second sixty is the leap second that it was
  split
  · rename_i hsixty
    have hparts : second / 3600 * 3600 + second / 60 % 60 * 60 + 59 = second ∧
        nano % nanosPerSecond + nanosPerSecond = nano := by omega
    rw [hparts.1, hparts.2]
  · rename_i hsixty
    have hparts : second / 3600 * 3600 + second / 60 % 60 * 60 +
        (second % 60 + nano / nanosPerSecond) = second ∧ nano % nanosPerSecond = nano := by omega
    rw [hparts.1, hparts.2]

theorem daysInMonth_le (year : Int) (month : Nat) : daysInMonth year month ≤ 31 := by
  unfold daysInMonth
  split <;> (try split) <;> omega

theorem month_of_daysInMonth {year : Int} {month : Nat} (h : 0 < daysInMonth year month) :
    1 ≤ month ∧ month ≤ 12 := by
  unfold daysInMonth at h
  split at h <;> omega

/-- The clocks of UTC show the instant itself. -/
theorem Instant.ofLocal_utc (t : Instant) : Instant.ofLocal t.date t.second t.nano 0 = .ok t := by
  obtain ⟨date, second, nano, htime⟩ := t
  have hday : secondsPerDay = 86400 := rfl
  have hsecond : second < secondsPerDay := by
    have hparts := htime
    simp only [isTimeOfDay, Bool.and_eq_true, decide_eq_true_eq] at hparts
    exact hparts.1.1
  have hmoved : ((second : Int) % (secondsPerDay : Int)).toNat = second := by
    rw [hday]
    omega
  have hof : Instant.of? date second nano = some ⟨date, second, nano, htime⟩ := dif_pos htime
  have hnonneg : ¬ (second : Int) < 0 := by omega
  have hwithin : (second : Int) < (secondsPerDay : Int) := by omega
  simp only [Instant.ofLocal, Int.natAbs_zero, Int.sub_zero, if_neg hnonneg, if_pos hwithin, hmoved,
    hof]
  rfl

/-- Every instant reads back from the form on the wire. -/
theorem Instant.read_wire (t : Instant) : Instant.read t.wire = .ok t := by
  obtain ⟨date, second, nano, htime⟩ := t
  obtain ⟨year, month, day, hdate⟩ := date
  have hexists := hdate
  simp only [isDate, Bool.and_eq_true, decide_eq_true_eq] at hexists
  obtain ⟨⟨⟨hlow, hhigh⟩, hday⟩, hday'⟩ := hexists
  obtain ⟨hmonth, hmonth'⟩ := month_of_daysInMonth (Nat.lt_of_lt_of_le hday hday')
  have hdays := daysInMonth_le year month
  have hdash : isBlank '-' = false := by decide
  have hdashEnds : ∀ rest, EndsDigits ('-' :: rest) := endsDigits_cons (by decide)
  have htext : (Instant.wire ⟨⟨year, month, day, hdate⟩, second, nano, htime⟩).toList =
      yearText year ++ '-' :: (padded 2 month ++ '-' :: (padded 2 day ++
        'T' :: timeText second nano)) := by
    simp [Instant.wire, Date.text, timeText]
  have hof : Date.of? year month day = some ⟨year, month, day, hdate⟩ := dif_pos hdate
  have hlocal := Instant.ofLocal_utc ⟨⟨year, month, day, hdate⟩, second, nano, htime⟩
  simp only [Instant.read, htext, bind, Except.bind]
  rw [scanYear_yearText hlow hhigh (hdashEnds _)]
  dsimp only
  rw [scanMark_cons hdash]
  dsimp only
  rw [scanPart_padded hmonth hmonth' (by omega)]
  dsimp only
  rw [scanMark_cons hdash]
  dsimp only
  rw [scanPart_padded hday (by omega) (by omega)]
  dsimp only
  simp only [beq_self_eq_true, Bool.or_true, Bool.true_or, if_true, scanTime_timeText htime,
    List.dropWhile_nil, List.isEmpty_nil, Bool.not_true, Bool.false_eq_true, if_false, hof, hlocal]

end CoachClient.Time
