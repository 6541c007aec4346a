/-
  MetricQuery.Time.Bucket
  ───────────────────────
  **TIME BUCKETS.**

  A bucket is named by its key, the instant at which it starts.  Local time is
  cut down to a multiple of the bucket size and taken back to universal time, so
  buckets follow the local calendar across changes of the clock.  Keys are numbers
  of any size, as those of the calendar are far from the limits of 64 bits.

    • `bucketKey`      — the start of the bucket of an instant,
    • `nextBucketKey`  — the start of the following bucket,
    • `bucketKeys`     — every start in a half-open range,
    • `key_lt_nextBucketKey` — the following bucket starts later, whatever the clock says.
-/
import MetricQuery.Resolution
import MetricQuery.Time.Day
import MetricQuery.Time.Zone

namespace MetricQuery

/-! ## §1. One bucket. -/

/-- The size of a bucket as a number of seconds to compute with. -/
def Resolution.size (r : Resolution) : Int :=
  r.seconds

theorem Resolution.size_pos (r : Resolution) : 0 < r.size := by
  cases r <;> decide

/-- **The start of the bucket of an instant.**  The offset is looked up at the instant and again
at the truncated local time, so that a change of the clock between the two does not move the
instant into a neighbouring bucket.  A day that starts twice starts at the earlier time; any other
bucket prefers the offset of the instant itself. -/
def bucketKey (clock : Clock) (r : Resolution) (t : Int) : Int :=
  let offset := clock.offsetAt t
  let localTime := t + offset
  let start := localTime - localTime % r.size
  -- A day states no preference, which takes the earlier of two starts.
  start - clock.localOffset start (if r = .day then none else some offset)

/-- **The start of the bucket after the one that starts at `key`.**  The step is one and a half
buckets, which lands inside the next one even when that is an hour longer or shorter. -/
def nextBucketKey (clock : Clock) (r : Resolution) (key : Int) : Int :=
  let next := bucketKey clock r (key + r.size + r.size / 2)
  -- Where the clock stands still or goes back, the plain size is the step.
  if next ≤ key then key + r.size else next

/-- **The following bucket starts later,** whatever the clock says. -/
theorem key_lt_nextBucketKey (clock : Clock) (r : Resolution) (key : Int) :
    key < nextBucketKey clock r key := by
  have := r.size_pos
  simp only [nextBucketKey]
  split <;> omega

/-! ## §2. The buckets of a range. -/

/-- The bucket starts from `key` on that are before `stop`. -/
def bucketKeysFrom (clock : Clock) (r : Resolution) (stop key : Int) : List Int :=
  if key < stop then key :: bucketKeysFrom clock r stop (nextBucketKey clock r key) else []
termination_by (stop - key).toNat
decreasing_by
  have := key_lt_nextBucketKey clock r key
  omega

/-- **Every bucket start in `[start, stop)`.**  A bucket that begins before `start` is left out. -/
def bucketKeys (clock : Clock) (r : Resolution) (start stop : Int) : List Int :=
  let first := bucketKey clock r start
  bucketKeysFrom clock r stop (if first < start then nextBucketKey clock r first else first)

theorem bucketKeysFrom_of_lt {clock : Clock} {r : Resolution} {stop key : Int} (h : key < stop) :
    bucketKeysFrom clock r stop key =
      key :: bucketKeysFrom clock r stop (nextBucketKey clock r key) := by
  rw [bucketKeysFrom, if_pos h]

theorem bucketKeysFrom_of_le {clock : Clock} {r : Resolution} {stop key : Int} (h : stop ≤ key) :
    bucketKeysFrom clock r stop key = [] := by
  rw [bucketKeysFrom, if_neg (by omega)]

end MetricQuery
