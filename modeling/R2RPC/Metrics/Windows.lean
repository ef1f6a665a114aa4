import R2RPC.Library.DateText
import R2RPC.Metrics.Aggregation

/-!
# The windows of cleanup and rebuild

The cutoffs of {lit}`cleanupOldRequests` and {lit}`rebuildRecent` as the services compute
them: milliseconds are subtracted from the clock, days from the day of the month, and a
cutoff date is the beginning of a timestamp.

Main results:

- Theorem {lit}`rebuildWindow_eq`: the window begins on a whole day, unless that lies before
  the first date.
- Theorems {lit}`rebuildRecent_window` and {lit}`cleanupOldRequests_rows`: the rows that the
  statements take are those of the windows.
- Theorem {lit}`cleanup_spares_rebuild`: what a cleanup deletes is in no later window, and a
  row is deleted and inserted by its one day.

Current gaps:

- Numbers are exact: a number of days that a double rounds leads to no {lit}`Date` at all.
-/

namespace R2RPC
namespace Metrics

open Calendar hiding millisecondsPerDay

/-- `cutoffTime` of `cleanupOldRequests`; an invalid `Date` throws when it is written. -/
def cleanupCutoff (now : Timestamp) (retentionDays : Nat) : Option Int :=
  timeClip (now - retentionDays * 86400000)

/-- `cutoffTime` of `rebuildRecent`. -/
def rebuildCutoff (now : Timestamp) (days : Nat) : Option Int :=
  let date := gregorian.dateOf (dayOf now)
  dateUTC date.year date.month (date.day - (days - 1))

/-- What the deletions of `rebuildRecent` compare `stat_date` with, and what its insertions
compare `created_at` with, unless a statement fails. -/
def rebuildWindow (now : Timestamp) (days : Nat) : Option (Day × Int) := do
  let cutoffTime ← rebuildCutoff now days
  let cutoffDate ← pgDate (isoDate cutoffTime)
  return (cutoffDate, cutoffTime)

/-- `job.createdAt.slice(0, 10)` as `stat_date`. -/
def statDate (createdAt : Int) : Option Day := pgDate (isoDate createdAt)

section

variable {now : Timestamp} {days : Nat}

/-- The clock is behind the years that `Date.UTC` moves. -/
theorem fullYear_now (now : Timestamp) :
    fullYear (gregorian.dateOf (dayOf now)).year = (gregorian.dateOf (dayOf now)).year := by
  have hyear : 1970 ≤ (gregorian.dateOf (dayOf now)).year := by
    rw [YearRule.dateOf_year, ← gregorian.firstDay_le_iff]
    simp only [gregorian, dayOf, Calendar.millisecondsPerDay]
    omega
  rw [fullYear, if_neg (by omega)]

theorem rebuildCutoff_eq (now : Timestamp) (days : Nat) :
    rebuildCutoff now days = timeClip (cutoffDate now days * millisecondsPerDay) := by
  have hcount := gregorian.makeDay_sub (gregorian.dateOf (dayOf now)).year
    (gregorian.dateOf (dayOf now)).month (gregorian.dateOf (dayOf now)).day (days - 1)
  rw [gregorian.makeDay_dateOf] at hcount
  simp only [rebuildCutoff, dateUTC, fullYear_now, hcount]
  rfl

theorem timeClip_eq_some {time clipped : Int} (h : timeClip time = some clipped) :
    clipped = time := by
  unfold timeClip at h
  split_ifs at h
  exact (Option.some.inj h).symm

/-- A window begins with a day, and fails before the first date. -/
theorem rebuildWindow_eq (hlast : now < 253402300800000) (hdays : 1 ≤ days) :
    rebuildWindow now days =
      if firstDate ≤ cutoffDate now days then
        some (cutoffDate now days, cutoffDate now days * millisecondsPerDay)
      else none := by
  have hnow : (now : Int) < 253402300800000 := Int.ofNat_lt.mpr hlast
  obtain ⟨cutoff, hcutoff, hvalue⟩ : ∃ cutoff : Int, cutoffDate now days = cutoff ∧
      cutoff = (now : Int) / 86400000 - (days - 1) := ⟨_, rfl, rfl⟩
  rw [rebuildWindow, rebuildCutoff_eq, hcutoff]
  have hday : dayOf (cutoff * millisecondsPerDay) = cutoff := Int.mul_ediv_cancel _ (by decide)
  have hbefore : cutoff < 2932897 := by omega
  by_cases hdate : (-719162 : Int) ≤ cutoff
  · have hclip : timeClip (cutoff * millisecondsPerDay) = some (cutoff * millisecondsPerDay) := by
      rw [timeClip, if_pos]
      simp only [millisecondsPerDay]
      omega
    have hfirst : firstDate ≤ cutoff := hdate
    simp [hclip, pgDate_isoDate, hday, hbefore, hdate, hfirst]
  · have hfirst : ¬ firstDate ≤ cutoff := hdate
    rw [if_neg hfirst, timeClip]
    split
    · simp [pgDate_isoDate, hday, hdate]
    · rfl

/-- The rebuild of the tables deletes and inserts by this window. -/
theorem rebuildRecent_window (t : DailyTables) (rows : List RequestLogRow)
    (hlast : now < 253402300800000) (hdays : 1 ≤ days) :
    t.rebuildRecent rows now days = (rebuildWindow now days).bind fun window => do
      let recent := rows.filter fun row => decide (window.2 ≤ row.createdAt)
      let rpc ← Aggregates.insertSelect
        (Aggregates.deleteWhere (fun key => decide (window.1 ≤ key.statDate)) t.rpc)
        (Aggregates.groupBy RequestLogRow.rpcKey aggregate recent)
      let device ← Aggregates.insertSelect
        (Aggregates.deleteWhere (fun key => decide (window.1 ≤ key.statDate)) t.device)
        (Aggregates.groupBy RequestLogRow.deviceKey aggregate (recent.filter (·.clientId.isSome)))
      return ⟨rpc, device⟩ := by
  rw [rebuildWindow_eq hlast hdays, DailyTables.rebuildRecent]
  by_cases hfirst : firstDate ≤ cutoffDate now days
  · rw [if_pos hfirst, if_neg (Int.not_lt.mpr hfirst)]
    rfl
  · rw [if_neg hfirst, if_pos (Int.not_le.mp hfirst)]
    rfl

/-- A cutoff that is no `Date` lies before all of them. -/
theorem cleanupCutoff_cases (days : Nat) (hlast : now < 253402300800000) :
    cleanupCutoff now days = some (now - days * millisecondsPerDay) ∨
      cleanupCutoff now days = none ∧
        (now : Int) - days * millisecondsPerDay < -8640000000000000 := by
  have hnow : (now : Int) < 253402300800000 := Int.ofNat_lt.mpr hlast
  simp only [cleanupCutoff, timeClip, millisecondsPerDay]
  split_ifs with hclip
  · exact .inl rfl
  · exact .inr ⟨rfl, by omega⟩

/-- The cleanup of the table deletes what lies before its cutoff, among the rows that a `Date`
can be of. -/
theorem cleanupOldRequests_rows {logs : RequestLogs} (hlast : now < 253402300800000)
    (hrows : ∀ row ∈ logs.rows, -8640000000000000 ≤ row.createdAt) :
    (logs.cleanupOldRequests now days).rows = logs.rows.filter fun row =>
      !(cleanupCutoff now days).any fun cutoff => decide (row.createdAt < cutoff) := by
  rw [RequestLogs.cleanupOldRequests]
  refine List.filter_congr fun row hrow => ?_
  rcases cleanupCutoff_cases days hlast with hcutoff | ⟨hcutoff, hbefore⟩
  · rw [hcutoff, Option.any_some]
  · have hkept : ¬ row.createdAt < (now : Int) - days * millisecondsPerDay := by
      have hfirst := hrows row hrow
      omega
    rw [hcutoff, Option.any_none, decide_eq_false hkept]

/-- What a cleanup deletes is in no window of a later rebuild with as many days; a row that
has a date is deleted from the aggregates with its day exactly when it is counted again, for
the same day. -/
theorem cleanup_spares_rebuild {t₁ t₂ : Timestamp} (horder : t₁ ≤ t₂)
    (hlast : t₂ < 253402300800000) (hdays : 1 ≤ days) (row : RequestLogRow) :
    (∀ cleanup rebuild, cleanupCutoff t₁ days = some cleanup → rebuildCutoff t₂ days = some rebuild →
      row.createdAt < cleanup → ¬ rebuild ≤ row.createdAt) ∧
    ((rebuildWindow t₂ days).isSome = true ↔ firstDate ≤ cutoffDate t₂ days) ∧
    (∀ day, statDate row.createdAt = some day →
      row.rpcKey.statDate = day ∧ row.deviceKey.statDate = day ∧
        ∀ window, rebuildWindow t₂ days = some window →
          (window.1 ≤ day ↔ window.2 ≤ row.createdAt)) ∧
    (0 ≤ row.createdAt → row.createdAt < 253402300800000 →
      (statDate row.createdAt).isSome = true) := by
  refine ⟨?_, ?_, ?_, ?_⟩
  · intro cleanup rebuild hcleanup hrebuild hdeleted
    have hlater : (t₁ : Int) ≤ t₂ := Int.ofNat_le.mpr horder
    have hcleanup := timeClip_eq_some hcleanup
    rw [rebuildCutoff_eq] at hrebuild
    have hrebuild := timeClip_eq_some hrebuild
    simp only [cutoffDate, utcDay, millisecondsPerDay] at hrebuild
    omega
  · rw [rebuildWindow_eq hlast hdays]
    split <;> simp [*]
  · intro day hday
    rw [statDate, pgDate_isoDate] at hday
    split_ifs at hday
    obtain rfl := Option.some.inj hday
    refine ⟨rfl, rfl, fun window hwindow => ?_⟩
    rw [rebuildWindow_eq hlast hdays] at hwindow
    split_ifs at hwindow
    obtain rfl := Option.some.inj hwindow
    exact Int.le_ediv_iff_mul_le (by decide)
  · intro hfirst hlast
    rw [statDate, pgDate_isoDate, if_pos]
    · rfl
    · simp only [dayOf, Calendar.millisecondsPerDay]
      omega

end

/-- A row of midnight at the end of a February. -/
def februaryRow : RequestLogRow :=
  ⟨1, 1, "billing", "quote", none, none, none, none, "ok", none, none, none, .indexed, 1772150400000,
    none⟩

theorem cleanup_spares_rebuild_sample :
    ∃ window, rebuildWindow 1772366400000 3 = some window ∧
      (window.1 ≤ 20511 ↔ window.2 ≤ februaryRow.createdAt) ∧
      cleanupCutoff 1772366400000 3 = some 1772107200000 := by
  have hstatDate : statDate februaryRow.createdAt = some 20511 := by decide +kernel
  have hwindow : rebuildWindow 1772366400000 3 = some (20511, 1772150400000) := by decide +kernel
  have hspares := cleanup_spares_rebuild (le_refl 1772366400000) (by decide)
    (show 1 ≤ 3 by decide) februaryRow
  exact ⟨_, hwindow, (hspares.2.2.1 20511 hstatDate).2.2 _ hwindow, by decide⟩

end Metrics
end R2RPC
