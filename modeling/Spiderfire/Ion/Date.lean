import Mathlib.Algebra.Group.Int

namespace Spiderfire

/-- The day of `NaiveDate::MIN`, -262143-01-01, counted from 1970-01-01. -/
def minDay : Int := -96465292

/-- The day of `NaiveDate::MAX`, 262142-12-31, counted from 1970-01-01. -/
def maxDay : Int := 95026236

/-- chrono's `DateTime<Utc>`, by its Unix timestamp in seconds and the nanosecond field of its
time of day. The field is at least 10^9 only within a leap second, which follows a minute's 59th
second, and the day is within chrono's range. -/
structure DateTime where
  timestamp : Int
  nanos : Nat
  nanos_lt : nanos < 2000000000
  leap : 1000000000 ≤ nanos → timestamp % 60 = 59
  in_range : minDay ≤ timestamp / 86400 ∧ timestamp / 86400 ≤ maxDay

namespace DateTime

@[ext] theorem ext {a b : DateTime} (timestamp : a.timestamp = b.timestamp) (nanos : a.nanos = b.nanos) :
    a = b := by
  cases a; cases b; cases timestamp; cases nanos; rfl

/-- `DateTime::UNIX_EPOCH`. -/
def unixEpoch : DateTime := ⟨0, 0, by decide, by decide, by decide⟩

/-- `timestamp_millis`: the timestamp in milliseconds, with `timestamp_subsec_millis`, the
nanosecond field in milliseconds, which reaches past 999 within a leap second. -/
def timestampMillis (t : DateTime) : Int := t.timestamp * 1000 + (t.nanos / 1000000 : Nat)

/-- The instant with its nanoseconds cut to whole milliseconds. -/
def truncMillis (t : DateTime) : DateTime where
  timestamp := t.timestamp
  nanos := t.nanos / 1000000 * 1000000
  nanos_lt := by have := t.nanos_lt; omega
  leap within := t.leap (by omega)
  in_range := t.in_range

/-- `Utc.timestamp_millis_opt(ms).single()`: the instant `ms` milliseconds from the epoch, its
seconds and milliseconds split by Euclidean division, if its day is within chrono's range. -/
def fromTimestampMillis (ms : Int) : Option DateTime :=
  if inRange : minDay ≤ ms / 1000 / 86400 ∧ ms / 1000 / 86400 ≤ maxDay then
    some ⟨ms / 1000, (ms % 1000).toNat * 1000000, by omega, by omega, inRange⟩
  else none

theorem timestampMillis_natAbs_lt (t : DateTime) : t.timestampMillis.natAbs < 8640000000000000 := by
  have := t.in_range
  have := t.nanos_lt
  simp only [timestampMillis, minDay, maxDay] at *
  omega

theorem nanos_lt_of_fromTimestampMillis {ms : Int} {t : DateTime} (read : fromTimestampMillis ms = some t) :
    t.nanos < 1000000000 := by
  unfold fromTimestampMillis at read
  split at read
  · cases read
    show (ms % 1000).toNat * 1000000 < 1000000000
    omega
  · cases read

/-- Outside a leap second, reading an instant's milliseconds back gives the instant cut to whole
milliseconds. -/
theorem fromTimestampMillis_timestampMillis {t : DateTime} (notLeap : t.nanos < 1000000000) :
    fromTimestampMillis t.timestampMillis = some t.truncMillis := by
  have range := t.in_range
  have seconds : t.timestampMillis / 1000 = t.timestamp := by unfold timestampMillis; omega
  rw [fromTimestampMillis, dif_pos (by rw [seconds]; exact range)]
  congr 1
  ext
  · exact seconds
  · show (t.timestampMillis % 1000).toNat * 1000000 = t.nanos / 1000000 * 1000000
    unfold timestampMillis
    omega

end DateTime

/-- An `f64` as the date code meets it: NaN, or an integral value, which is all that an `i64`
cast and a time value can be. -/
inductive F64 where
  | nan
  | int (value : Int)
  deriving DecidableEq, Repr

/-- `f64::MAX`, (2^53 - 1) * 2^971. -/
def f64Max : Int := (2 ^ 53 - 1) * 2 ^ 971

/-- `i as f64` for an `i64`: the nearest value with 53 significant bits, ties to even. -/
def i64AsF64 (i : Int) : F64 :=
  let n := i.natAbs
  let dropped := n.log2 + 1 - 53
  let kept := n / 2 ^ dropped
  let rest := n % 2 ^ dropped
  let half := 2 ^ dropped / 2
  let rounded := if half < rest ∨ (rest = half ∧ 0 < dropped ∧ kept % 2 = 1) then kept + 1 else kept
  .int (i.sign * (rounded * 2 ^ dropped : Nat))

/-- `x as i64` for an `f64`: NaN is 0 and the value saturates at the bounds of `i64`. -/
def f64AsI64 : F64 → Int
  | .nan => 0
  | .int v => max (-2 ^ 63) (min v (2 ^ 63 - 1))

theorem i64AsF64_of_lt {i : Int} (small : i.natAbs < 2 ^ 53) : i64AsF64 i = .int i := by
  have exact : i.natAbs.log2 + 1 - 53 = 0 := by
    by_cases zero : i.natAbs = 0
    · simp [zero]
    · have := (Nat.log2_lt zero).mpr small
      omega
  simp only [i64AsF64, exact, Nat.pow_zero, Nat.div_one, Nat.mod_one, Nat.lt_irrefl, false_and, and_false,
    or_self, if_false, Nat.mul_one, Int.sign_mul_natAbs]

/-- A `Date` object by its time value: NaN for an invalid date, otherwise a whole number of
milliseconds from the epoch within ECMAScript's ±8.64 * 10^15. -/
structure Date where
  value : F64
  clipped : ∀ v, value = .int v → v.natAbs ≤ 8640000000000000

namespace Date

/-- `Date::from_date`: `NewDateObject` on a `ClippedTime` built directly from the time's
`timestamp_millis() as f64`, which chrono's range keeps within the clip. -/
def fromDate (time : DateTime) : Date where
  value := i64AsF64 time.timestampMillis
  clipped v made := by
    have bound := time.timestampMillis_natAbs_lt
    rw [i64AsF64_of_lt (by omega), F64.int.injEq] at made
    omega

/-- `Date::is_valid`: `DateIsValid`, which reads whether the time value is a number. -/
def isValid (d : Date) : Bool := d.value != .nan

/-- `Date::to_date`: the time value `DateGetMsecSinceEpoch` reads, which it reads for every `Date`;
`None` for `f64::MAX`; otherwise `Utc.timestamp_millis_opt(milliseconds as i64).single()`. -/
def toDate (d : Date) : Option DateTime :=
  let milliseconds := d.value
  if milliseconds = .int f64Max then none
  else DateTime.fromTimestampMillis (f64AsI64 milliseconds)

theorem toDate_fromDate (time : DateTime) :
    (fromDate time).toDate = DateTime.fromTimestampMillis time.timestampMillis := by
  have bound := time.timestampMillis_natAbs_lt
  rw [toDate, fromDate]
  simp only [i64AsF64_of_lt (show time.timestampMillis.natAbs < 2 ^ 53 by omega), F64.int.injEq, f64AsI64]
  rw [if_neg (by unfold f64Max; omega)]
  congr 1
  omega

/-- `to_date` after `from_date` gives back the time cut to whole milliseconds exactly when the time
is not within a leap second: within one, chrono's `timestamp_millis` counts the leap second's
milliseconds into the next second. -/
theorem toDate_fromDate_eq_iff (time : DateTime) :
    (fromDate time).toDate = some time.truncMillis ↔ time.nanos < 1000000000 := by
  rw [toDate_fromDate]
  constructor
  · intro read
    have := DateTime.nanos_lt_of_fromTimestampMillis read
    simp only [DateTime.truncMillis] at this
    omega
  · exact DateTime.fromTimestampMillis_timestampMillis

/-- The last second of 2016 was a leap second: 23:59:60.5 comes back as 00:00:00.5 of 2017. -/
example : (fromDate ⟨1483228799, 1500000000, by decide, fun _ => by decide, by decide⟩).toDate =
    some ⟨1483228800, 500000000, by decide, by decide, by decide⟩ := by
  rw [toDate_fromDate]
  rfl

/-- An invalid `Date` converts to the epoch, not to `None`: its NaN time value passes the `f64::MAX`
test and casts to 0 milliseconds. -/
theorem toDate_of_invalid (d : Date) (invalid : d.isValid = false) : d.toDate = some DateTime.unixEpoch := by
  have nan : d.value = .nan := by simpa [isValid] using invalid
  rw [toDate, nan, if_neg F64.noConfusion]
  rfl

end Date

def invalidDate : Date := ⟨.nan, nofun⟩

theorem invalid_date_read_as_epoch :
    invalidDate.isValid = false ∧ invalidDate.toDate = some DateTime.unixEpoch :=
  ⟨rfl, Date.toDate_of_invalid invalidDate rfl⟩

end Spiderfire
