import Mathlib
import ChatArchive.Time.Civil

namespace ChatArchive.Civil

-- A day of a 400-year era: its century `c`, its four-year cycle `q` in the century, its year `r` in
-- the cycle and its day `d` in that year.
structure EraDay where
  c : Int
  q : Int
  r : Int
  d : Int
  hc : 0 ≤ c ∧ c ≤ 3
  hq : 0 ≤ q ∧ q ≤ 24
  hr : 0 ≤ r ∧ r ≤ 3
  hd : 0 ≤ d ∧ (d ≤ 364 ∨ d = 365 ∧ r = 3 ∧ (q < 24 ∨ c = 3))

namespace EraDay

def days (e : EraDay) : Int := 36524 * e.c + 1461 * e.q + 365 * e.r + e.d

def year (e : EraDay) : Int := 100 * e.c + 4 * e.q + e.r

theorem exists_days {doe : Int} (h0 : 0 ≤ doe) (h1 : doe ≤ 146096) : ∃ e : EraDay, e.days = doe := by
  let c := min (doe / 36524) 3
  let q := (doe - 36524 * c) / 1461
  let r := min ((doe - 36524 * c - 1461 * q) / 365) 3
  refine ⟨⟨c, q, r, doe - 36524 * c - 1461 * q - 365 * r, by omega, by omega, by omega, by omega⟩, ?_⟩
  simp only [days]
  omega

theorem yearOfEra (e : EraDay) :
    (e.days - e.days / 1460 + e.days / 36524 - e.days / 146096) / 365 = e.year := by
  have := e.hc
  have := e.hq
  have := e.hr
  have := e.hd
  have h1 : e.days / 1460 = 25 * e.c + e.q + (24 * e.c + e.q + 365 * e.r + e.d) / 1460 := by
    unfold days
    omega
  have h2 : e.days / 36524 = e.c + (1461 * e.q + 365 * e.r + e.d) / 36524 := by
    unfold days
    omega
  have h3 : (24 * e.c + e.q + 365 * e.r + e.d) / 1460 =
      if 1460 ≤ 24 * e.c + e.q + 365 * e.r + e.d then 1 else 0 := by
    split <;> omega
  have h4 : (1461 * e.q + 365 * e.r + e.d) / 36524 = if e.d = 365 ∧ e.q = 24 then 1 else 0 := by
    split <;> omega
  have h5 : e.days / 146096 = if e.d = 365 ∧ e.q = 24 ∧ e.c = 3 then 1 else 0 := by
    unfold days
    split <;> omega
  rw [h1, h2, h3, h4, h5]
  unfold days year
  split <;> split <;> split <;> omega

theorem year_bounds (e : EraDay) : 0 ≤ e.year ∧ e.year ≤ 399 := by
  have := e.hc
  have := e.hq
  have := e.hr
  unfold year
  omega

theorem dayOfYear (e : EraDay) : e.days - (365 * e.year + e.year / 4 - e.year / 100) = e.d := by
  have := e.hc
  have := e.hq
  have := e.hr
  unfold days year
  omega

theorem isLeap_of_leapDay (e : EraDay) (h : e.d = 365) (era : Int) :
    isLeap (e.year + era * 400 + 1) = true := by
  have := e.hc
  have := e.hq
  have := e.hd
  simp only [isLeap, year, Bool.or_eq_true, Bool.and_eq_true, beq_iff_eq, bne_iff_ne, ne_eq]
  omega

end EraDay

theorem civilFromDays_spec (z : Int) :
    ∃ (era : Int) (e : EraDay), z + 719468 = era * 146097 + e.days ∧
      civilFromDays z =
        let mp := (5 * e.d + 2) / 153
        let m := if mp < 10 then mp + 3 else mp - 9
        (if m ≤ 2 then e.year + era * 400 + 1 else e.year + era * 400, m.toNat,
          (e.d - (153 * mp + 2) / 5 + 1).toNat) := by
  obtain ⟨e, he⟩ := EraDay.exists_days
    (by omega : 0 ≤ z + 719468 - (z + 719468) / 146097 * 146097) (by omega)
  refine ⟨(z + 719468) / 146097, e, by omega, ?_⟩
  simp only [civilFromDays, ← he, e.yearOfEra, e.dayOfYear]

theorem monthLength_le (y : Int) (m : Nat) : monthLength y m ≤ 31 := by
  unfold monthLength
  split
  · split <;> omega
  all_goals omega

theorem civilFromDays_valid (z : Int) :
    1 ≤ (civilFromDays z).2.1 ∧ (civilFromDays z).2.1 ≤ 12 ∧ 1 ≤ (civilFromDays z).2.2 ∧
      (civilFromDays z).2.2 ≤ monthLength (civilFromDays z).1 (civilFromDays z).2.1 := by
  obtain ⟨era, e, -, hc⟩ := civilFromDays_spec z
  have := e.hd
  rw [hc]
  dsimp only
  generalize hmp : (5 * e.d + 2) / 153 = mp
  have hlo : 0 ≤ mp := by omega
  have hhi : mp ≤ 11 := by omega
  interval_cases mp
  case «11» =>
    -- February ends the year counted from March: its 29th day is the leap day
    by_cases h365 : e.d = 365
    · simp [monthLength, e.isLeap_of_leapDay h365 era]
      omega
    · simp [monthLength]
      split <;> omega
  -- every other month has a fixed length
  all_goals
    simp [monthLength]
    omega

theorem daysFromCivil_civilFromDays (z : Int) :
    daysFromCivil (civilFromDays z).1 (civilFromDays z).2.1 (civilFromDays z).2.2 = z := by
  obtain ⟨era, e, hz, hc⟩ := civilFromDays_spec z
  have := e.hd
  have hy := e.year_bounds
  have hdoy := e.dayOfYear
  rw [hc]
  dsimp only
  generalize hmp : (5 * e.d + 2) / 153 = mp
  have hlo : 0 ≤ mp := by omega
  have hhi : mp ≤ 11 := by omega
  unfold daysFromCivil
  unfold EraDay.days at hz hdoy
  dsimp only
  split_ifs <;> omega

theorem civilFromDays_year_bounds {z : Int} (hlo : -96465292 ≤ z) (hhi : z ≤ 95026236) :
    -262143 ≤ (civilFromDays z).1 ∧ (civilFromDays z).1 ≤ 262142 := by
  obtain ⟨era, ⟨c, q, r, d, hc, hq, hr, hd⟩, hz, hdate⟩ := civilFromDays_spec z
  rw [hdate]
  dsimp only
  generalize hmp : (5 * d + 2) / 153 = mp
  unfold EraDay.days at hz
  unfold EraDay.year
  dsimp only at hz ⊢
  -- omega needs the era and the century fixed to see that the years run out with the days
  have hcs : c = 0 ∨ c = 1 ∨ c = 2 ∨ c = 3 := by omega
  have hera : era = -656 ∨ era = 655 ∨ (-655 ≤ era ∧ era ≤ 654) := by omega
  split_ifs <;> rcases hcs with rfl | rfl | rfl | rfl <;> rcases hera with rfl | rfl | hera <;> omega

end ChatArchive.Civil
