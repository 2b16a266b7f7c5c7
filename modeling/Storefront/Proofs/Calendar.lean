/-
The moments that have a place in the calendar.

A day is placed by its era, its year of the era and its day of the year, each found by dividing what
the one before leaves.  All of that is linear over the integers once the quotients are named, so the
days of the years with four digits are the days between the first and the last of them, and the
seconds of those days are the seconds that have a place.

A moment has a text when what a clock tells of it has a place.  A token expires so many minutes
after it is issued.  It has a time to expire at when that time and the time of its issue have a
place, and then no other limit is met on the way.
-/
import Mathlib
import Storefront.Proofs.Bodies
import Storefront.Token

namespace Storefront

/-! ### Days and seconds -/

namespace Date

variable {days : Int}

theorem year_ofDays_lt_one (h : days < -719162) : (ofDays days).year < 1 := by
  simp only [ofDays, Int.fdiv_eq_ediv_of_nonneg _ (by decide : (0 : Int) ≤ 146097),
    Int.fmod_eq_emod_of_nonneg _ (by decide : (0 : Int) ≤ 146097)]
  have hera : (days + 719468) / 146097 ≤ -1 ∨
      (days + 719468) / 146097 = 0 ∧ (days + 719468) % 146097 ≤ 305 := by
    omega
  have hnonneg : 0 ≤ (days + 719468) % 146097 := by omega
  have hlt : (days + 719468) % 146097 < 146097 := by omega
  generalize (days + 719468) / 146097 = era at *
  generalize (days + 719468) % 146097 = dayOfEra at *
  rcases hera with hera | ⟨rfl, hday⟩
  · have hyear :
        (dayOfEra - dayOfEra / 1460 + dayOfEra / 36524 - dayOfEra / 146096) / 365 ≤ 399 := by
      omega
    split <;> omega
  -- The first era starts in March, and its first year is not over.
  · have hyear :
        (dayOfEra - dayOfEra / 1460 + dayOfEra / 36524 - dayOfEra / 146096) / 365 = 0 := by
      omega
    rw [hyear]
    omega

theorem one_le_year_ofDays (h : -719162 ≤ days) : 1 ≤ (ofDays days).year := by
  simp only [ofDays, Int.fdiv_eq_ediv_of_nonneg _ (by decide : (0 : Int) ≤ 146097),
    Int.fmod_eq_emod_of_nonneg _ (by decide : (0 : Int) ≤ 146097)]
  omega

theorem year_ofDays_le (h : days ≤ 2932896) : (ofDays days).year ≤ 9999 := by
  simp only [ofDays, Int.fdiv_eq_ediv_of_nonneg _ (by decide : (0 : Int) ≤ 146097),
    Int.fmod_eq_emod_of_nonneg _ (by decide : (0 : Int) ≤ 146097)]
  omega

theorem lt_year_ofDays (h : 2932896 < days) : 9999 < (ofDays days).year := by
  simp only [ofDays, Int.fdiv_eq_ediv_of_nonneg _ (by decide : (0 : Int) ≤ 146097),
    Int.fmod_eq_emod_of_nonneg _ (by decide : (0 : Int) ≤ 146097)]
  omega

/-- The years with four digits are those from the first to the last day of them. -/
theorem isCommon_ofDays : (ofDays days).isCommon = true ↔ -719162 ≤ days ∧ days ≤ 2932896 := by
  simp only [isCommon, Bool.and_eq_true, decide_eq_true_eq]
  constructor
  · rintro ⟨hfirst, hlast⟩
    refine ⟨?_, ?_⟩
    · by_contra hbefore
      have hyear := year_ofDays_lt_one (not_le.mp hbefore)
      omega
    · by_contra hafter
      have hyear := lt_year_ofDays (not_le.mp hafter)
      omega
  · rintro ⟨hfirst, hlast⟩
    exact ⟨one_le_year_ofDays hfirst, year_ofDays_le hlast⟩

end Date

namespace Token

/-- The first second of the year 1, counted from the start of 1970. -/
def firstSecond : Int := -62135596800

/-- The last second of the year 9999, counted from the start of 1970. -/
def lastSecond : Int := 253402300799

/-- A second is in one of the years that are written with four digits. -/
def InCalendar (seconds : Int) : Prop :=
  firstSecond ≤ seconds ∧ seconds ≤ lastSecond

theorem isCommon_iff {seconds : Int} :
    (Date.ofDays (seconds.fdiv 86400)).isCommon = true ↔ InCalendar seconds := by
  rw [Date.isCommon_ofDays, Int.fdiv_eq_ediv_of_nonneg seconds (by decide), InCalendar, firstSecond,
    lastSecond]
  omega

/-- The limits of a clock are wider than the calendar. -/
theorem ofSeconds_of_inCalendar {seconds : Int} (h : InCalendar seconds) :
    Date.ofSeconds seconds = .ok (Date.ofDays (seconds.fdiv 86400)) := by
  have hyear := isCommon_iff.mpr h
  simp only [Date.isCommon, Bool.and_eq_true, decide_eq_true_eq] at hyear
  unfold InCalendar firstSecond lastSecond at h
  rw [Date.ofSeconds, if_neg (by omega)]
  exact if_neg (by omega)

theorem inCalendar_eq_ok {seconds : Int} {u : Unit} :
    inCalendar seconds = .ok u ↔ InCalendar seconds := by
  simp only [inCalendar, Except.bind_eq_ok]
  constructor
  · rintro ⟨date, hdate, h⟩
    obtain rfl : date = Date.ofDays (seconds.fdiv 86400) := by
      unfold Date.ofSeconds at hdate
      split at hdate
      · cases hdate
      · simp only at hdate
        split at hdate
        · cases hdate
        · exact (Except.ok.inj hdate).symm
    by_contra houtside
    rw [if_neg (isCommon_iff.not.mpr houtside)] at h
    cases h
  · intro h
    exact ⟨_, ofSeconds_of_inCalendar h, if_pos (isCommon_iff.mpr h)⟩

/-! ### The life of a token -/

theorem lifetime_eq_ok {minutes life : Int} (h : lifetime minutes = .ok life) :
    life = 60 * minutes := by
  simp only [lifetime] at h
  split at h
  · cases h
  · split at h
    · cases h
    · exact (Except.ok.inj h).symm

/-- The limits of a life are wider than the calendar. -/
theorem lifetime_of_inCalendar {now minutes : Int} (hnow : InCalendar now)
    (hexpires : InCalendar (now + 60 * minutes)) : lifetime minutes = .ok (60 * minutes) := by
  have hdays : minutes.fdiv 1440 = minutes / 1440 :=
    Int.fdiv_eq_ediv_of_nonneg minutes (by decide)
  unfold InCalendar firstSecond lastSecond at hnow hexpires
  simp only [lifetime, hdays]
  rw [if_neg (by omega), if_neg (by omega)]

/-- A token has a time to expire at exactly when that time and the clock are in the calendar. -/
theorem expiry_eq_ok {s : Settings} {now expires : Int} :
    expiry s now = .ok expires ↔
      InCalendar now ∧ InCalendar expires ∧ expires = now + 60 * s.tokenMinutes := by
  simp only [expiry, Except.bind_eq_ok, Except.mapError_eq_ok, inCalendar_eq_ok]
  constructor
  · rintro ⟨-, hnow, life, hlife, h⟩
    obtain rfl := lifetime_eq_ok hlife
    split at h
    · next hcounts =>
      obtain rfl := Except.ok.inj h
      exact ⟨hnow, inCalendar_eq_ok.mp hcounts, rfl⟩
    · cases h
  · rintro ⟨hnow, hexpires, rfl⟩
    refine ⟨(), hnow, _, lifetime_of_inCalendar hnow hexpires, ?_⟩
    have hcounts : inCalendar (now + 60 * s.tokenMinutes) = .ok () := inCalendar_eq_ok.mpr hexpires
    rw [hcounts]
    rfl

end Token

/-! ### The text of a moment -/

namespace Timestamp

/-- What a clock tells of a moment is in one of the years that are written with four digits. -/
def HasPlace (t : Timestamp) : Prop :=
  ∃ told, t.rounded = .ok told ∧ Token.InCalendar (told.micros.fdiv 1000000)

theorem exists_isoText {t : Timestamp} (h : t.HasPlace) : ∃ text, t.isoText = .ok text := by
  obtain ⟨told, htold, hplace⟩ := h
  have hdate := Token.ofSeconds_of_inCalendar hplace
  have hcommon := Token.isCommon_iff.mpr hplace
  unfold isoText
  simp only [htold, bind, Except.bind, hdate, if_pos hcommon]
  exact ⟨_, rfl⟩

end Timestamp

end Storefront
