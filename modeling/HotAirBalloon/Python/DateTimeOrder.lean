import HotAirBalloon.Library.FixedWidth
import HotAirBalloon.Python.DateTime

/-!
# ISO texts in the order of time

`isoformat` writes a UTC datetime in fields of fixed width, but for the fraction of a second,
which is left out when it is zero. The texts are still in the order of the datetimes: `civil`
takes days to dates in their order (`civil_lt`), and the plus sign of the offset sorts before the
point of a fraction (`fractionOffset_le`). Four digits hold a year up to 9999.
-/

namespace HotAirBalloon.Python.DateTime

open Library

/-! ## The calendar -/

/-- The number of days before a year that starts in March. -/
def yearStart (year : Int) : Int := 365 * year + year / 4 - year / 100 + year / 400

theorem yearStart_mono {a b : Int} (h : a ≤ b) : yearStart a ≤ yearStart b := by
  unfold yearStart
  omega

/-- The year of an era that a day of it falls into. -/
def yearOfEra (doe : Int) : Int := (doe - doe / 1460 + doe / 36524 - doe / 146096) / 365

theorem yearOfEra_spec {doe : Int} (h0 : 0 ≤ doe) (h1 : doe < 146097) :
    0 ≤ yearOfEra doe ∧ yearOfEra doe < 400 ∧ yearStart (yearOfEra doe) ≤ doe ∧
      doe < yearStart (yearOfEra doe + 1) := by
  by_cases hlast : doe = 146096
  · subst hlast
    decide
  have hleap : doe / 146096 = 0 := by omega
  obtain ⟨year, hyear⟩ : ∃ year, year = yearOfEra doe := ⟨_, rfl⟩
  have hdiv : 365 * year ≤ doe - doe / 1460 + doe / 36524 ∧
      doe - doe / 1460 + doe / 36524 < 365 * year + 365 := by
    unfold yearOfEra at hyear
    omega
  rw [← hyear]
  unfold yearStart
  obtain ⟨century, hcentury⟩ : ∃ century, century = doe / 36524 := ⟨_, rfl⟩
  obtain ⟨cycle, hcycle⟩ : ∃ cycle, cycle = doe / 1460 := ⟨_, rfl⟩
  rw [← hcentury, ← hcycle] at hdiv
  have hc : century = 0 ∨ century = 1 ∨ century = 2 ∨ century = 3 := by omega
  have hcycle' : 1460 * cycle ≤ doe ∧ doe < 1460 * cycle + 1460 := by omega
  have hcentury' : 36524 * century ≤ doe ∧ doe < 36524 * century + 36524 := by omega
  clear hyear hleap hlast hcentury hcycle
  -- the century is a constant from here on, so that the arithmetic is linear
  have hy : 100 * century ≤ year ∧ year < 100 * century + 100 := by
    rcases hc with rfl | rfl | rfl | rfl <;> omega
  obtain ⟨q, hq⟩ : ∃ q, q = year / 4 := ⟨_, rfl⟩
  have hqy : 4 * q ≤ year ∧ year < 4 * q + 4 := by omega
  have hf : q ≤ cycle ∧ cycle ≤ q + 1 := by
    rcases hc with rfl | rfl | rfl | rfl <;> omega
  have h100 : year / 100 = century := by omega
  have h400 : year / 400 = 0 := by omega
  refine ⟨by omega, by omega, by omega, ?_⟩
  by_cases hend : year = 100 * century + 99
  · rcases hc with rfl | rfl | rfl | rfl <;> omega
  · have hs : year = 4 * q ∨ year = 4 * q + 1 ∨ year = 4 * q + 2 ∨ year = 4 * q + 3 := by
      omega
    have h100' : (year + 1) / 100 = century := by omega
    have h400' : (year + 1) / 400 = 0 := by omega
    rcases hs with hs | hs | hs | hs <;> omega

/-- The number of days of a year before a month, both counted from March. -/
def monthStart (month : Int) : Int := (153 * month + 2) / 5

/-- A day in a calendar whose years start in March. -/
structure MarchDate (year month day : Int) (date : Int × Int × Int) : Prop where
  year_le : yearStart year ≤ day
  lt_year : day < yearStart (year + 1)
  zero_le : 0 ≤ month
  lt_twelve : month < 12
  month_le : monthStart month ≤ day - yearStart year
  lt_month : day - yearStart year < monthStart (month + 1)
  date_eq : date = (if month < 10 then
    (year, month + 3, day - yearStart year - monthStart month + 1)
    else (year + 1, month - 9, day - yearStart year - monthStart month + 1))

theorem yearStart_succ_le (year : Int) : yearStart (year + 1) ≤ yearStart year + 366 := by
  unfold yearStart
  omega

theorem yearStart_era (year era : Int) :
    yearStart (year + era * 400) = yearStart year + 146097 * era := by
  unfold yearStart
  omega

/-- `civil`, once the day of the year is known. -/
theorem civil_eq {day era yoe doy mp : Int} (hera : era = (day + 719468) / 146097)
    (hyoe : yoe = yearOfEra ((day + 719468) % 146097))
    (hdoy : doy = (day + 719468) % 146097 - (365 * yoe + yoe / 4 - yoe / 100))
    (hmp : mp = (5 * doy + 2) / 153) :
    civil day = (yoe + era * 400 + (if (if mp < 10 then mp + 3 else mp - 9) ≤ 2 then 1 else 0),
      if mp < 10 then mp + 3 else mp - 9, doy - (153 * mp + 2) / 5 + 1) := by
  subst hmp hdoy hyoe hera
  rfl

/-- 719468 days lie between the first of March of the year 0 and 1970-01-01. -/
theorem civil_marchDate (day : Int) :
    ∃ year month, MarchDate year month (day + 719468) (civil day) := by
  obtain ⟨era, hera⟩ : ∃ era, era = (day + 719468) / 146097 := ⟨_, rfl⟩
  obtain ⟨yoe, hyoe⟩ : ∃ yoe, yoe = yearOfEra ((day + 719468) % 146097) := ⟨_, rfl⟩
  obtain ⟨hpos, hlt, hle, hday⟩ :=
    @yearOfEra_spec ((day + 719468) % 146097) (by omega) (by omega)
  rw [← hyoe] at hpos hlt hle hday
  have hyear : yearStart (yoe + era * 400) = yearStart yoe + 146097 * era := yearStart_era yoe era
  have hnext : yearStart (yoe + era * 400 + 1) = yearStart (yoe + 1) + 146097 * era := by
    rw [← yearStart_era]
    congr 1
    omega
  have hlength := yearStart_succ_le yoe
  obtain ⟨doy, hdoy⟩ : ∃ doy, doy = day + 719468 - yearStart (yoe + era * 400) := ⟨_, rfl⟩
  have hdoy' : doy = (day + 719468) % 146097 - (365 * yoe + yoe / 4 - yoe / 100) := by
    have hyoe400 : yearStart yoe = 365 * yoe + yoe / 4 - yoe / 100 := by
      unfold yearStart
      omega
    omega
  obtain ⟨mp, hmp⟩ : ∃ mp, mp = (5 * doy + 2) / 153 := ⟨_, rfl⟩
  have hcivil := civil_eq hera hyoe hdoy' hmp
  clear hdoy' hyoe
  refine ⟨yoe + era * 400, mp, ?_, ?_, ?_, ?_, ?_, ?_, ?_⟩
  · omega
  · omega
  · omega
  · omega
  · rw [← hdoy]
    unfold monthStart
    omega
  · rw [← hdoy]
    unfold monthStart
    omega
  · rw [hcivil, ← hdoy]
    unfold monthStart
    by_cases h : mp < 10
    · rw [if_pos h, if_pos h, if_neg (by omega), Int.add_zero]
    · rw [if_neg h, if_neg h, if_pos (by omega)]

theorem MarchDate.lt {year month day year' month' day' : Int} {date date' : Int × Int × Int}
    (h : MarchDate year month day date) (h' : MarchDate year' month' day' date')
    (hlt : day < day') :
    date.1 < date'.1 ∨ date.1 = date'.1 ∧ (date.2.1 < date'.2.1 ∨
      date.2.1 = date'.2.1 ∧ date.2.2 < date'.2.2) := by
  obtain ⟨h1, h2, h3, h4, h5, h6, rfl⟩ := h
  obtain ⟨h1', h2', h3', h4', h5', h6', rfl⟩ := h'
  have hyear : year ≤ year' := by
    by_contra hgt
    have := yearStart_mono (show year' + 1 ≤ year by omega)
    omega
  rcases hyear.lt_or_eq with hyear | rfl
  · split_ifs <;> simp <;> omega
  have hmonth : month ≤ month' := by
    unfold monthStart at *
    omega
  rcases hmonth.lt_or_eq with hmonth | rfl
  · split_ifs <;> simp <;> omega
  · split_ifs <;> simp <;> omega

theorem MarchDate.bounds {year month day : Int} {date : Int × Int × Int}
    (h : MarchDate year month day date) :
    1 ≤ date.2.1 ∧ date.2.1 ≤ 12 ∧ 1 ≤ date.2.2 ∧ date.2.2 ≤ 31 := by
  obtain ⟨h1, h2, h3, h4, h5, h6, rfl⟩ := h
  unfold monthStart at h5 h6 ⊢
  split_ifs <;> simp <;> omega

theorem civil_lt {a b : Int} (h : a < b) :
    (civil a).1 < (civil b).1 ∨ (civil a).1 = (civil b).1 ∧ ((civil a).2.1 < (civil b).2.1 ∨
      (civil a).2.1 = (civil b).2.1 ∧ (civil a).2.2 < (civil b).2.2) := by
  obtain ⟨year, month, ha⟩ := civil_marchDate a
  obtain ⟨year', month', hb⟩ := civil_marchDate b
  exact ha.lt hb (by omega)

theorem civil_bounds (day : Int) :
    1 ≤ (civil day).2.1 ∧ (civil day).2.1 ≤ 12 ∧ 1 ≤ (civil day).2.2 ∧ (civil day).2.2 ≤ 31 := by
  obtain ⟨year, month, h⟩ := civil_marchDate day
  exact h.bounds

/-! ## Texts -/

theorem toNat_lt_pow {width : Nat} {n : Int} (hn : n < 10 ^ width) : n.toNat < 10 ^ width := by
  have hpow : (0 : Int) < 10 ^ width := by positivity
  zify
  omega

theorem padded_eq {width : Nat} (hwidth : 0 < width) {n : Int} (hn : n < 10 ^ width) :
    padded width n = String.ofList (decimalField width n.toNat) := by
  unfold padded
  rw [← padded_toDigits hwidth (toNat_lt_pow hn), String.ofList_append]
  dsimp only
  rw [Nat.toString_eq_ofList_toDigits]
  simp

/-- The first padded number that differs decides. -/
theorem padded_append_le {width : Nat} (hwidth : 0 < width) {m n : Int} (hm : 0 ≤ m)
    (hn : n < 10 ^ width) {u v : String} (h : m < n ∨ m = n ∧ u ≤ v) :
    padded width m ++ u ≤ padded width n ++ v := by
  have hmn : m < 10 ^ width := by
    rcases h with h | h <;> omega
  rw [padded_eq hwidth hmn, padded_eq hwidth hn]
  apply decimalField_append_le
  · exact toNat_lt_pow hn
  · rcases h with h | ⟨rfl, h⟩
    · exact Or.inl (by omega)
    · exact Or.inr ⟨rfl, h⟩

/-- A datetime of the years that Python has. -/
def InYears (d : DateTime) : Prop :=
  1 ≤ (civil (d / dayMicros)).1 ∧ (civil (d / dayMicros)).1 ≤ 9999

instance (d : DateTime) : Decidable (InYears d) := inferInstanceAs (Decidable (_ ∧ _))

/-- The fraction of a second and the offset. -/
def fractionOffset (fraction : Int) : String :=
  (if fraction = 0 then "" else "." ++ padded 6 fraction) ++ "+00:00"

theorem fractionOffset_le {m n : Int} (hm : 0 ≤ m) (hle : m ≤ n) (hn : n < 1000000) :
    fractionOffset m ≤ fractionOffset n := by
  unfold fractionOffset
  by_cases hn0 : n = 0
  · obtain rfl : m = n := by omega
    exact le_rfl
  · rw [if_neg hn0, String.append_assoc]
    by_cases hm0 : m = 0
    -- a missing fraction sorts first: the offset starts with a plus sign, a fraction with a point
    · rw [if_pos hm0, String.empty_append]
      apply le_of_lt
      have hplus : "+" ++ "00:00" < "." ++ (padded 6 n ++ "+00:00") :=
        text_append_lt (by decide) (by decide) _ _
      exact hplus
    · rw [if_neg hm0, String.append_assoc]
      apply text_append_le
      apply padded_append_le (by decide) hm (by omega)
      rcases hle.lt_or_eq with hlt | rfl
      · exact Or.inl hlt
      · exact Or.inr ⟨rfl, le_rfl⟩

/-- The ISO text of a date and the microseconds of the day. -/
def isoText (date : Int × Int × Int) (micros : Int) : String :=
  padded 4 date.1 ++ ("-" ++ (padded 2 date.2.1 ++ ("-" ++ (padded 2 date.2.2 ++ ("T" ++
    (padded 2 (micros / 1000000 / 3600) ++ (":" ++
      (padded 2 (micros / 1000000 / 60 % 60) ++ (":" ++
        (padded 2 (micros / 1000000 % 60) ++ fractionOffset (micros % 1000000)))))))))))

theorem isoformat_eq (d : DateTime) :
    isoformat d = isoText (civil (d / dayMicros)) (d % dayMicros) := by
  unfold isoformat isoText fractionOffset secondMicros
  simp only [String.append_assoc]

/-- One day has texts in the order of time. -/
theorem isoTime_le {micros micros' : Int} (hpos : 0 ≤ micros) (hle : micros ≤ micros')
    (hlt : micros' < 86400000000) (date : Int × Int × Int) :
    isoText date micros ≤ isoText date micros' := by
  unfold isoText
  iterate 6 apply text_append_le
  apply padded_append_le (by decide) (by omega) (by omega)
  have hhour : micros / 1000000 / 3600 < micros' / 1000000 / 3600 ∨
    micros / 1000000 / 3600 = micros' / 1000000 / 3600 := by omega
  refine hhour.imp_right fun hhour => ⟨hhour, text_append_le _ ?_⟩
  apply padded_append_le (by decide) (by omega) (by omega)
  have hminute : micros / 1000000 / 60 % 60 < micros' / 1000000 / 60 % 60 ∨
    micros / 1000000 / 60 % 60 = micros' / 1000000 / 60 % 60 := by omega
  refine hminute.imp_right fun hminute => ⟨hminute, text_append_le _ ?_⟩
  apply padded_append_le (by decide) (by omega) (by omega)
  have hsecond : micros / 1000000 % 60 < micros' / 1000000 % 60 ∨
    micros / 1000000 % 60 = micros' / 1000000 % 60 := by omega
  refine hsecond.imp_right fun hsecond => ⟨hsecond, ?_⟩
  exact fractionOffset_le (by omega) (by omega) (by omega)

/-- Days have texts in their order, whatever the times. -/
theorem isoDate_le {a b : Int} (h : a < b) (hfirst : 1 ≤ (civil a).1)
    (hlast : (civil b).1 ≤ 9999) (micros micros' : Int) :
    isoText (civil a) micros ≤ isoText (civil b) micros' := by
  obtain ⟨hm1, hm2, hd1, hd2⟩ := civil_bounds a
  obtain ⟨hm1', hm2', hd1', hd2'⟩ := civil_bounds b
  have hdate := civil_lt h
  unfold isoText
  apply padded_append_le (by decide) (by omega) (by omega)
  refine hdate.imp_right (And.imp_right fun hmonth => text_append_le _ ?_)
  apply padded_append_le (by decide) (by omega) (by omega)
  refine hmonth.imp_right (And.imp_right fun hday => text_append_le _ ?_)
  apply padded_append_le (by decide) (by omega) (by omega)
  exact Or.inl hday

theorem day_le {a b : Int} (h : a ≤ b) :
    a / dayMicros < b / dayMicros ∨
      a / dayMicros = b / dayMicros ∧ a % dayMicros ≤ b % dayMicros := by
  unfold dayMicros secondMicros
  omega

theorem micros_bounds (a : Int) : 0 ≤ a % dayMicros ∧ a % dayMicros < 86400000000 := by
  unfold dayMicros secondMicros
  omega

/-- The ISO texts of datetimes are in the order of time, with and without a fraction. -/
theorem isoformat_le {d d' : DateTime} (h : InYears d) (h' : InYears d') (hle : d ≤ d') :
    isoformat d ≤ isoformat d' := by
  rw [isoformat_eq, isoformat_eq]
  rcases day_le hle with hday | ⟨hday, hmicros⟩
  · exact isoDate_le hday h.1 h'.2 _ _
  · rw [hday]
    exact isoTime_le (micros_bounds d).1 hmicros (micros_bounds d').2 _

end HotAirBalloon.Python.DateTime
