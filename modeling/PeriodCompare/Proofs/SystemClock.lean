import PeriodCompare.Time.Instant

set_option autoImplicit false

namespace PeriodCompare.Instant

theorem wholeMillis_distance (t : Instant) : t.distance.wholeMillis = t.millis.natAbs := by
  simp only [Duration.wholeMillis, secs_distance, nanos_distance]
  omega

theorem millis_ofSystem_toSystem (t : Instant) :
    (ofSystem t.toSystem).millis = max t.millis (-maxMillis) := by
  have low := t.min_le
  have high := t.le_max
  by_cases past : t.millis < 0
  · simp only [toSystem, if_pos past, ofSystem, millis_ofMillis, span, wholeMillis_distance]
    simp only [minMillis, maxMillis] at low ⊢
    omega
  · simp only [toSystem, if_neg past, ofSystem, millis_ofMillis, span, wholeMillis_distance]
    simp only [minMillis, maxMillis] at high ⊢
    omega

theorem ofSystem_eq_iff_of_toSystem? {shows : SystemMoment → Bool} {t : Instant} {m : SystemMoment}
    (shown : t.toSystem? shows = some m) :
    (ofSystem m = t ↔ t.millis ≠ minMillis) ∧
      (t.millis = minMillis → (ofSystem m).millis = t.millis + 1) := by
  obtain ⟨-, rfl⟩ := toSystem?_eq_some.1 shown
  have back := millis_ofSystem_toSystem t
  have low := t.min_le
  refine ⟨⟨fun same first => ?_, fun later => ext ?_⟩, fun first => ?_⟩
  · rw [same, first] at back
    exact absurd back (by decide)
  · simp only [minMillis, maxMillis] at back low later
    omega
  · simp only [minMillis, maxMillis] at back first
    omega

def dayBeforeEpoch : Instant := ⟨-86400000, by decide, by decide⟩

theorem ofSystem_dayBeforeEpoch :
    dayBeforeEpoch.toSystem? SystemMoment.hasSignedSeconds = some (.before (.ofSecs 86400)) ∧
      ofSystem (.before (.ofSecs 86400)) = dayBeforeEpoch := by
  have shown : dayBeforeEpoch.toSystem? SystemMoment.hasSignedSeconds =
      some (.before (.ofSecs 86400)) := by
    decide
  exact ⟨shown, (ofSystem_eq_iff_of_toSystem? shown).1.2 (by decide)⟩

def first : Instant := ⟨minMillis, by decide, by decide⟩

theorem ofSystem_first_late :
    first.toSystem? SystemMoment.hasSignedSeconds =
        some (.before ⟨9223372036854775, 808000000, by decide, by decide⟩) ∧
      ofSystem (.before ⟨9223372036854775, 808000000, by decide, by decide⟩) ≠ first := by
  decide

end PeriodCompare.Instant
