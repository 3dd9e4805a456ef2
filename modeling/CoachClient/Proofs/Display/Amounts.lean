/-
CoachClient.Proofs.Display.Amounts — prices and durations say what they stand for.

* `IsWhole` — digits without a leading zero.
* `IsPrice` — the form of a price: sign, units, two places and the currency;
  `price_isPrice` — prices have it.
* `IsPrice.unique` — the amount is read off it, so `prices_lose_nothing`: no two amounts of a
  currency are shown alike, and only nothing at all is free.
* `IsDuration` — the form of a duration, minutes below one hour and hours from there on;
  `minutesIn` — the number of minutes that is read off a text.
* `duration_isDuration` — durations have it; `rightColumn_injective` — they are told apart in a
  column as well.
* `Session.LastsTruly` — the minutes of a session are those that pass between its instants;
  `durations_are_true` — they are, and sessions are told apart by them.
-/
import CoachClient.Display.View
import CoachClient.Proofs.Text.Decimal
import CoachClient.Proofs.Time.Calendar
import CoachClient.Text.Parts
import Mathlib.Data.List.TakeWhile

namespace CoachClient.Display

open CoachClient.Coaching CoachClient.Text CoachClient.Time

/-! ## 1. Prices -/

/-- Decimal digits as numbers are written: without leading zeros. -/
structure IsWhole (ds : List Char) : Prop where
  digits : ∀ c ∈ ds, isDigit c = true
  nonempty : ds ≠ []
  leading : ds.head? = some '0' → ds = ['0']

theorem digits_isWhole (n : Nat) : IsWhole (digits n) where
  digits _ := isDigit_of_mem_digits
  nonempty := digits_ne_nil n
  leading := digits_of_head_zero

/-- What stands behind an amount. -/
def currencyMark (currency : String) : List Char :=
  if currency = "" then [] else ' ' :: currency.toList

/-- A number of hundredths as a price: a minus if it is negative, the units, a point and two
digits for the rest, and then the currency if there is one. -/
structure IsPrice (cents : Int) (currency : String) (text : String) : Prop where
  form : ∃ units places,
    text.toList = (if cents < 0 then ['-'] else []) ++ units ++ '.' :: places ++
      currencyMark currency ∧
    IsWhole units ∧ (∀ c ∈ places, isDigit c = true) ∧ places.length = 2 ∧
    100 * digitsValue units + digitsValue places = cents.natAbs

/-- Prices look like that. -/
theorem price_isPrice {cents : Int} (h : cents ≠ 0) (currency : String) :
    IsPrice cents currency (price cents currency) := by
  refine ⟨digits (cents.natAbs / 100), padded 2 (cents.natAbs % 100), ?_, digits_isWhole _,
    fun _ => isDigit_of_mem_padded, length_padded (by decide) (by omega), ?_⟩
  · have hprice : price cents currency = String.ofList (amount cents ++ currencyMark currency) := by
      unfold price currencyMark
      rw [if_neg h]
      by_cases hcurrency : currency = ""
      · simp [hcurrency]
      · simp [hcurrency, String.isEmpty_iff]
    rw [hprice, String.toList_ofList, amount]
  · rw [digitsValue_digits, digitsValue_padded]
    omega

/-- A sign is not the beginning of a number. -/
theorem IsWhole.ne_sign {ds rest : List Char} (h : IsWhole ds) : '-' :: rest ≠ ds := by
  rintro rfl
  exact absurd (h.digits '-' List.mem_cons_self) (by decide)

/-- The amount can be read off its price. -/
theorem IsPrice.unique {a b : Int} {currency text : String} (ha : IsPrice a currency text)
    (hb : IsPrice b currency text) : a = b := by
  obtain ⟨units, places, htext, hwhole, -, hlength, hvalue⟩ := ha.form
  obtain ⟨units', places', htext', hwhole', -, hlength', hvalue'⟩ := hb.form
  have hamount := List.append_cancel_right (htext.symm.trans htext')
  obtain ⟨hfront, hplaces⟩ := List.append_inj' hamount (by simp [hlength, hlength'])
  obtain rfl := (List.cons.inj hplaces).2
  -- the signs are the same, or else a number would begin with one
  by_cases hneg : a < 0 <;> by_cases hneg' : b < 0
  · simp only [hneg, hneg', if_true, List.cons_append, List.nil_append, List.cons.injEq,
      true_and] at hfront
    rw [hfront] at hvalue
    omega
  · simp only [hneg, hneg', if_true, if_false, List.cons_append, List.nil_append] at hfront
    exact absurd hfront hwhole'.ne_sign
  · simp only [hneg, hneg', if_true, if_false, List.cons_append, List.nil_append] at hfront
    exact absurd hfront.symm hwhole.ne_sign
  · simp only [hneg, hneg', if_false, List.nil_append] at hfront
    rw [hfront] at hvalue
    omega

/-- It is not free. -/
theorem IsPrice.ne_free {cents : Int} {currency text : String} (h : IsPrice cents currency text) :
    text ≠ "free" := by
  rintro rfl
  obtain ⟨units, places, htext, -⟩ := h.form
  have hpoint : '.' ∈ "free".toList := by
    rw [htext]
    simp
  exact absurd hpoint (by decide)

/-- Nothing at all is free. -/
theorem price_eq_free_iff (cents : Int) (currency : String) :
    price cents currency = "free" ↔ cents = 0 := by
  constructor
  · intro hfree
    by_contra h
    exact (price_isPrice h currency).ne_free hfree
  · rintro rfl
    exact if_pos rfl

theorem price_injective (currency : String) : Function.Injective (price · currency) := by
  intro a b (hsame : price a currency = price b currency)
  by_cases ha : a = 0
  · have hfree : price b currency = "free" := hsame ▸ (price_eq_free_iff a currency).mpr ha
    rw [ha, (price_eq_free_iff b currency).mp hfree]
  · have hb : b ≠ 0 := by
      rintro rfl
      exact ha ((price_eq_free_iff a currency).mp hsame)
    have hprice := price_isPrice ha currency
    rw [hsame] at hprice
    exact hprice.unique (price_isPrice hb currency)

/-- **Prices lose nothing.** Every amount but zero is shown with its sign, its units and its
hundredths, and the currency if there is one. Zero is free, and nothing else is. So in one
currency no two amounts are shown alike. -/
theorem prices_lose_nothing (currency : String) :
    (∀ cents : Int, cents ≠ 0 → IsPrice cents currency (price cents currency)) ∧
      (∀ cents : Int, price cents currency = "free" ↔ cents = 0) ∧
      Function.Injective (price · currency) :=
  ⟨fun _ h => price_isPrice h currency, fun cents => price_eq_free_iff cents currency,
    price_injective currency⟩

/-- The least amount of all that fit into 64 bits. -/
theorem least_amount_is_shown :
    Int64.minValue.toInt ≠ 0 ∧
      IsPrice Int64.minValue.toInt "EUR" (price Int64.minValue.toInt "EUR") ∧
      price Int64.minValue.toInt "EUR" = "-92233720368547758.08 EUR" := by
  have hne : Int64.minValue.toInt ≠ 0 := by decide
  exact ⟨hne, (prices_lose_nothing "EUR").1 _ hne, by decide⟩

/-! ## 2. Durations -/

/-- The number that decimal digits denote, with a minus in front if it is negative. -/
def signedValue : List Char → Int
  | '-' :: ds => -(digitsValue ds : Int)
  | ds => digitsValue ds

theorem signedValue_digits (n : Nat) : signedValue (digits n) = n := by
  obtain ⟨d, ds, hcons, hminus, -⟩ := digits_ne_sign n
  rw [hcons, signedValue.eq_2 _ (by simp [hminus]), ← hcons, digitsValue_digits]

theorem signedValue_signed (i : Int) : signedValue (signed i) = i := by
  unfold signed
  split
  · simp only [signedValue, digitsValue_digits]
    omega
  · rw [signedValue_digits]
    omega

/-- The minutes that a text stands for: hours up to an `h`, minutes up to an `m`. -/
def minutesIn (text : List Char) : Int :=
  match cutAt 'h' text with
  | (minutes, none) => signedValue (minutes.filter (· != 'm'))
  | (hours, some rest) => 60 * signedValue hours + signedValue (rest.filter isDigit)

/-- A number of minutes as a duration. -/
structure IsDuration (minutes : Int) (text : List Char) : Prop where
  /-- Below one hour, the number itself. -/
  few : minutes < 60 → text = signed minutes ++ ['m']
  /-- From there on, hours, and minutes if there are any besides. -/
  many : 60 ≤ minutes → ∃ hours rest : Nat, (60 * hours + rest : Int) = minutes ∧ rest < 60 ∧
    text = digits hours ++ 'h' :: (if rest = 0 then [] else ' ' :: digits rest ++ ['m'])
  /-- Either way the number can be read off. -/
  told : minutesIn text = minutes

theorem bne_of_not_mem {mark : Char} {cs : List Char} (h : mark ∉ cs) :
    ∀ c ∈ cs, (c != mark) = true := by
  intro c hc
  rw [bne_iff_ne]
  rintro rfl
  exact h hc

theorem cutAt_of_not_mem {mark : Char} {cs : List Char} (h : mark ∉ cs) :
    cutAt mark cs = (cs, none) := by
  rw [cutAt, List.dropWhile_eq_nil_iff.mpr (bne_of_not_mem h)]

theorem cutAt_append {mark : Char} {cs : List Char} (h : mark ∉ cs) (rest : List Char) :
    cutAt mark (cs ++ mark :: rest) = (cs, some rest) := by
  rw [cutAt, List.dropWhile_append_of_pos (bne_of_not_mem h),
    List.takeWhile_append_of_pos (bne_of_not_mem h)]
  simp

theorem minutesIn_few (minutes : Int) : minutesIn (signed minutes ++ ['m']) = minutes := by
  have hmark : 'h' ∉ signed minutes ++ ['m'] := by
    simp [not_mem_signed (show isDigit 'h' = false by decide)]
  have hfilter : (signed minutes ++ ['m']).filter (· != 'm') = signed minutes := by
    rw [List.filter_append,
      List.filter_eq_self.mpr (bne_of_not_mem (not_mem_signed (by decide) (by decide) minutes))]
    simp
  rw [minutesIn, cutAt_of_not_mem hmark]
  simp only [hfilter, signedValue_signed]

theorem minutesIn_many (hours rest : Nat) :
    minutesIn (digits hours ++ 'h' :: (if rest = 0 then [] else ' ' :: digits rest ++ ['m'])) =
      60 * hours + rest := by
  have hrest : signedValue ((if rest = 0 then [] else ' ' :: digits rest ++ ['m']).filter isDigit) =
      rest := by
    split
    · rename_i hzero
      rw [hzero]
      rfl
    · have hkept : (digits rest).filter isDigit = digits rest :=
        List.filter_eq_self.mpr fun _ => isDigit_of_mem_digits
      rw [List.cons_append, List.filter_cons_of_neg (by decide), List.filter_append, hkept,
        List.filter_cons_of_neg (by decide), List.filter_nil, List.append_nil, signedValue_digits]
  rw [minutesIn, cutAt_append (not_mem_digits (by decide) hours)]
  simp only [hrest, signedValue_digits]

/-- The text of a duration. -/
theorem duration_eq (minutes : Int) :
    (duration minutes).toList =
      if minutes < 60 then signed minutes ++ ['m']
      else digits (minutes / 60).toNat ++ 'h' ::
        (if (minutes % 60).toNat = 0 then [] else ' ' :: digits (minutes % 60).toNat ++ ['m']) := by
  unfold duration
  split
  · rw [String.toList_ofList]
  · have hhours : signed (minutes / 60) = digits (minutes / 60).toNat := by
      rw [signed, if_neg (by omega)]
      congr 1
      omega
    have hrest : signed (minutes % 60) = digits (minutes % 60).toNat := by
      rw [signed, if_neg (by omega)]
      congr 1
      omega
    rw [hhours, hrest]
    split
    · rw [if_pos (by omega), String.toList_ofList]
    · rw [if_neg (by omega), String.toList_ofList]
      simp

/-- Durations look like that. -/
theorem duration_isDuration (minutes : Int) : IsDuration minutes (duration minutes).toList where
  few h := by rw [duration_eq, if_pos h]
  many h := by
    refine ⟨(minutes / 60).toNat, (minutes % 60).toNat, by omega, by omega, ?_⟩
    rw [duration_eq, if_neg (by omega)]
  told := by
    rw [duration_eq]
    split
    · exact minutesIn_few minutes
    · rw [minutesIn_many]
      omega

theorem duration_injective : Function.Injective duration := by
  intro a b hsame
  rw [← (duration_isDuration a).told, hsame, (duration_isDuration b).told]

theorem signed_ne_nil (i : Int) : signed i ≠ [] := by
  unfold signed
  split
  · exact List.cons_ne_nil _ _
  · exact digits_ne_nil _

/-- A duration does not begin with a blank. -/
theorem exists_duration_eq_append (minutes : Int) :
    ∃ front rest, (duration minutes).toList = front ++ rest ∧ front ≠ [] ∧ ' ' ∉ front := by
  rw [duration_eq]
  split
  · exact ⟨_, _, rfl, signed_ne_nil minutes, not_mem_signed (by decide) (by decide) minutes⟩
  · exact ⟨_, _, rfl, digits_ne_nil _, not_mem_digits (by decide) _⟩

/-- So it can be read off its column. -/
theorem dropWhile_rightColumn (width : Nat) (minutes : Int) :
    (rightColumn width (duration minutes)).dropWhile (· == ' ') = (duration minutes).toList := by
  obtain ⟨front, rest, hduration, hne, hblank⟩ := exists_duration_eq_append minutes
  obtain ⟨c, cs, rfl⟩ := List.exists_cons_of_ne_nil hne
  have hc : c ≠ ' ' := fun h => hblank (h ▸ List.mem_cons_self)
  rw [rightColumn, List.dropWhile_append_of_pos (by simp), hduration, List.cons_append,
    List.dropWhile_cons_of_neg (by simpa using hc)]

theorem rightColumn_injective (width : Nat) :
    Function.Injective fun minutes => rightColumn width (duration minutes) := by
  intro a b (hsame : rightColumn width (duration a) = rightColumn width (duration b))
  have htexts := congrArg (List.dropWhile (· == ' ')) hsame
  rw [dropWhile_rightColumn, dropWhile_rightColumn] at htexts
  exact duration_injective (String.toList_inj.mp htexts)

/-! ## 3. Sessions -/

/-- The minutes of a session are the whole minutes that pass between its instants. -/
structure LastsTruly (s : Session) : Prop where
  /-- One number of nanoseconds passes, forward or back, within what a signed word of 64 bits
  holds as milliseconds; the whole minutes in it are those of the session. -/
  passes : ∃ nanos, (∀ n, s.startsAt.Elapses s.endsAt n ↔ n = nanos) ∧
    (-((2 ^ 63 - 1) * 1000000) ≤ nanos ∧ nanos ≤ (2 ^ 63 - 1) * 1000000) ∧
    RoundsTo nanosPerMinute nanos s.durationMinutes
  /-- Their number fits into such a word. -/
  fits : -2 ^ 63 ≤ s.durationMinutes ∧ s.durationMinutes < 2 ^ 63

theorem lastsTruly {s : Session} (hstart : s.startsAt.isLeap = false)
    (hend : s.endsAt.isLeap = false) : LastsTruly s where
  passes := ⟨_, fun _ => Instant.elapses_iff hstart hend, Instant.nanosUntil_bounds _ _,
    Instant.minutesUntil_rounds _ _⟩
  fits := Instant.minutesUntil_bounds _ _

/-- **Durations are true, and told apart.** The minutes of a session that begins and ends
outside leap seconds are those that pass, all over the calendar. Every number of minutes is
shown so that it can be read off. So two sessions are shown with one duration, by itself or in
the column of a table, just if their numbers of minutes are the same. -/
theorem durations_are_true :
    (∀ s : Session, s.startsAt.isLeap = false → s.endsAt.isLeap = false → LastsTruly s) ∧
      (∀ minutes : Int, IsDuration minutes (duration minutes).toList) ∧
      ∀ a b : Session,
        (duration a.durationMinutes = duration b.durationMinutes ↔
          a.durationMinutes = b.durationMinutes) ∧
        (rightColumn durationWidth (duration a.durationMinutes) =
            rightColumn durationWidth (duration b.durationMinutes) ↔
          a.durationMinutes = b.durationMinutes) :=
  ⟨fun _ => lastsTruly, duration_isDuration, fun _ _ =>
    ⟨duration_injective.eq_iff, (rightColumn_injective durationWidth).eq_iff⟩⟩

/-- A session from the first second of the calendar to its last one. -/
def longestSession : Session where
  id := "s1"
  coachId := "c1"
  coachName := none
  title := "Always"
  startsAt := ⟨⟨-262143, 1, 1, by decide⟩, 0, 0, by decide⟩
  endsAt := ⟨⟨262142, 12, 31, by decide⟩, 86399, 999999999, by decide⟩
  maxParticipants := none
  priceCents := 0
  currency := ""
  status := "scheduled"

/-- It is not too long to be shown, and turned around it is as long. -/
theorem longest_session_is_shown :
    longestSession.startsAt.isLeap = false ∧ longestSession.endsAt.isLeap = false ∧
      LastsTruly longestSession ∧
      duration longestSession.durationMinutes = "4595796695h 59m" ∧
      duration (longestSession.endsAt.minutesUntil longestSession.startsAt) = "-275747801759m" := by
  have hstart : longestSession.startsAt.isLeap = false := by decide
  have hend : longestSession.endsAt.isLeap = false := by decide
  exact ⟨hstart, hend, durations_are_true.1 _ hstart hend, by decide, by decide⟩

end CoachClient.Display
