/-
  MetricQuery.Proofs.Series.Window
  ────────────────────────────────
  **A RECURRING WINDOW, POINT BY POINT.**

  The sweep carries the start of one occurrence along.  It is always the
  earliest occurrence that is not over yet, however many of them lie between two
  points and however far occurrences overlap, and so a point is inside the
  window if and only if it lies at or past that start.

    • `Window.inside_iff_covers` — one instant, tested on its own,
    • `Window.Current`           — the invariant of the sweep,
    • `Current.advance`          — moving on past a point preserves it,
    • `Current.covers_iff`       — and decides the point,
    • `sweep_eq_filter`          — the sweep tests every point on its own,
    • `filterWindow_exact`       — a filtered series holds the points inside.
-/
import Mathlib.Tactic.Ring
import MetricQuery.Proofs.Series.Points
import MetricQuery.Series.Window

namespace MetricQuery

namespace Window

variable {w : Window} {start t : Int}

/-! ## §1. One instant. -/

/-- The instant lies inside the window: not before its first start, and less than its length after
the latest start up to it. -/
def inside (w : Window) (t : Int) : Bool :=
  w.first ≤ t && (t - w.first) % w.distance < w.length

/-- **The latest start decides.**  An instant lies in some occurrence if and only if it lies in the
one that started last. -/
theorem inside_iff_covers (hdistance : 0 < w.distance) : w.inside t = true ↔ w.Covers t := by
  have hdivision := Int.mul_ediv_add_emod (t - w.first) w.distance
  have hremainder := Int.emod_nonneg (t - w.first) (Int.ne_of_gt hdistance)
  unfold inside Covers
  rw [Bool.and_eq_true, decide_eq_true_eq, decide_eq_true_eq]
  constructor
  · intro h
    obtain ⟨hfirst, hlength⟩ := h
    have hperiods : 0 ≤ (t - w.first) / w.distance :=
      Int.ediv_nonneg (by omega) (Int.le_of_lt hdistance)
    refine ⟨((t - w.first) / w.distance).toNat, ?_⟩
    rw [Int.toNat_of_nonneg hperiods, Int.mul_comm]
    omega
  · intro h
    obtain ⟨n, hstart, hstop⟩ := h
    have hsince : 0 ≤ (n : Int) * w.distance :=
      Int.mul_nonneg (Int.natCast_nonneg n) (Int.le_of_lt hdistance)
    refine ⟨by omega, ?_⟩
    -- The occurrence started no later than the latest one did.
    have hperiods : (n : Int) ≤ (t - w.first) / w.distance :=
      (Int.le_ediv_iff_mul_le hdistance).2 (by omega)
    have hlatest := Int.mul_le_mul_of_nonneg_right hperiods (Int.le_of_lt hdistance)
    rw [Int.mul_comm] at hdivision
    omega

/-! ## §2. The occurrence that the sweep carries. -/

/-- The occurrence from `start` on is the earliest one that may not be over by `t`. -/
structure Current (w : Window) (start t : Int) : Prop where
  occurs : ∃ n : Nat, start = w.first + n * w.distance
  earliest : ∀ n : Nat, w.first + n * w.distance < start →
    w.first + n * w.distance + w.length ≤ t

/-- The sweep sets out with the first occurrence. -/
theorem current_first (hdistance : 0 < w.distance) (t : Int) : w.Current w.first t where
  occurs := ⟨0, by simp⟩
  earliest n hn := by
    have hsince : 0 ≤ (n : Int) * w.distance :=
      Int.mul_nonneg (Int.natCast_nonneg n) (Int.le_of_lt hdistance)
    omega

/-- What is over stays over. -/
theorem Current.mono (h : w.Current start t) {u : Int} (hle : t ≤ u) : w.Current start u where
  occurs := h.occurs
  earliest n hn := by
    have hover := h.earliest n hn
    omega

/-- **An instant before the end of the current occurrence** is inside the window if and only if the
occurrence has started. -/
theorem Current.covers_iff (h : w.Current start t) (hlt : t < start + w.length) :
    w.Covers t ↔ start ≤ t := by
  constructor
  · intro hcovers
    obtain ⟨n, hstart, hstop⟩ := hcovers
    by_contra hn
    have hover := h.earliest n (by omega)
    omega
  · intro hstart
    obtain ⟨n, hn⟩ := h.occurs
    exact ⟨n, by omega, by omega⟩

/-- **Moving on past a point** leads to the earliest occurrence that is not over by then. -/
theorem Current.advance (h : w.Current start t) (hdistance : 0 < w.distance) :
    w.Current (w.advance start t) t ∧ t < w.advance start t + w.length := by
  unfold Window.advance
  show w.Current (if start + w.length ≤ t then _ else start) t ∧
    t < (if start + w.length ≤ t then _ else start) + w.length
  by_cases hover : start + w.length ≤ t
  · rw [if_pos hover]
    obtain ⟨n, hn⟩ := h.occurs
    have hperiods : 0 ≤ (t - (start + w.length)) / w.distance :=
      Int.ediv_nonneg (by omega) (Int.le_of_lt hdistance)
    obtain ⟨m, hm⟩ := Int.eq_ofNat_of_zero_le hperiods
    have hbefore := Int.ediv_mul_le (t - (start + w.length)) (Int.ne_of_gt hdistance)
    have hafter := Int.lt_ediv_add_one_mul_self (t - (start + w.length)) hdistance
    rw [hm] at hbefore hafter ⊢
    have hstart : start + ((m : Int) + 1) * w.distance =
        w.first + ((n + m + 1 : Nat) : Int) * w.distance := by
      rw [hn]
      push_cast
      ring
    refine ⟨⟨⟨n + m + 1, hstart⟩, ?_⟩, by omega⟩
    intro k hk
    -- An earlier occurrence is at least one period earlier.
    rw [hstart] at hk
    have hlt : (k : Int) < ((n + m + 1 : Nat) : Int) :=
      Int.lt_of_mul_lt_mul_right (by omega) (Int.le_of_lt hdistance)
    have hle : (k : Int) * w.distance ≤ ((n : Int) + m) * w.distance :=
      Int.mul_le_mul_of_nonneg_right (by omega) (Int.le_of_lt hdistance)
    rw [Int.add_mul] at hle
    omega
  · rw [if_neg hover]
    exact ⟨h, by omega⟩

/-! ## §3. The sweep. -/

/-- **The sweep tests every point on its own.** -/
theorem sweep_eq_filter {α : Type} (hlength : 0 < w.length) (hdistance : 0 < w.distance)
    {points : List (Int × α)} (hasc : points.Pairwise fun p q => p.1 < q.1)
    (hcurrent : ∀ p ∈ points, w.Current start p.1) :
    w.sweep start points = points.filter fun p => w.inside p.1 := by
  -- The carried occurrence is the current one for the points that are left.
  induction points generalizing start with
  | nil => rfl
  | cons p rest ih =>
      obtain ⟨hfirst, hrest⟩ := List.pairwise_cons.1 hasc
      have hp := hcurrent p List.mem_cons_self
      unfold sweep
      by_cases hbefore : p.1 < start
      · have hout : ¬ w.inside p.1 = true := by
          rw [inside_iff_covers hdistance, hp.covers_iff (by omega)]
          omega
        rw [if_pos hbefore, List.filter_cons, if_neg hout]
        exact ih hrest fun q hq => hcurrent q (List.mem_cons_of_mem p hq)
      · obtain ⟨hnext, hlt⟩ := hp.advance hdistance
        have hlater : ∀ q ∈ rest, w.Current (w.advance start p.1) q.1 :=
          fun q hq => hnext.mono (Int.le_of_lt (hfirst q hq))
        have hdecides : w.inside p.1 = true ↔ w.advance start p.1 ≤ p.1 := by
          rw [inside_iff_covers hdistance, hnext.covers_iff hlt]
        rw [if_neg hbefore]
        show (if w.advance start p.1 ≤ p.1 ∧ p.1 < w.advance start p.1 + w.length then
          p :: w.sweep (w.advance start p.1) rest else w.sweep (w.advance start p.1) rest) = _
        rw [ih hrest hlater]
        by_cases hin : w.advance start p.1 ≤ p.1
        · rw [if_pos ⟨hin, hlt⟩, List.filter_cons, if_pos (hdecides.2 hin)]
        · rw [if_neg fun hboth => hin hboth.1, List.filter_cons,
            if_neg fun hinside => hin (hdecides.1 hinside)]

end Window

/-! ## §4. Filtered series. -/

/-- A filtered series holds the points of the series that are inside the window. -/
theorem getElem?_filterWindow {α : Type} {w : Window} (hlength : 0 < w.length)
    (hdistance : 0 < w.distance) (s : Series α) {t : Int} {v : α} :
    (s.filterWindow w)[t]? = some v ↔ s[t]? = some v ∧ w.inside t = true := by
  have hsweep : w.sweep w.first s.points = s.points.filter fun p => w.inside p.1 :=
    Window.sweep_eq_filter hlength hdistance s.pairwise_points
      fun p _ => Window.current_first hdistance p.1
  rw [Series.filterWindow, hsweep, Series.getElem?_ofPoints, Series.lastAt_eq_some_iff]
  · rw [List.mem_filter, Series.mem_points]
  · -- A series has one value at an instant.
    intro u hu hv
    have hu' := Series.mem_points.1 (List.mem_of_mem_filter hu)
    have hv' := Series.mem_points.1 (List.mem_of_mem_filter hv)
    rw [hu'] at hv'
    exact Option.some.inj hv'

/-- **A recurring window is exact.**  If its length and its distance are positive, however they
compare, a filtered series holds exactly the points of the series that lie in some occurrence, with
their values; it is the series with each point tested on its own. -/
theorem filterWindow_exact (first length distance : Int) (hlength : 0 < length)
    (hdistance : 0 < distance) :
    ∃ w, Window.checked first length distance = .ok w ∧
      ∀ (α : Type) (s : Series α),
        (∀ t v, (s.filterWindow w)[t]? = some v ↔ s[t]? = some v ∧
          ∃ n : Nat, first + n * distance ≤ t ∧ t < first + n * distance + length) ∧
        s.filterWindow w = s.filter fun t _ => w.inside t := by
  refine ⟨⟨first, length, distance⟩, if_neg (by omega), ?_⟩
  intro α s
  constructor
  · intro t v
    rw [getElem?_filterWindow hlength hdistance, Window.inside_iff_covers hdistance]
    rfl
  · apply Std.ExtTreeMap.ext_getElem?
    intro t
    apply Option.ext
    intro v
    rw [getElem?_filterWindow hlength hdistance, Std.ExtTreeMap.getElem?_filter',
      Option.filter_eq_some_iff]

/-- Ten seconds of every minute from twenty seconds before zero on.  Of four points one comes before
the window, one stands in its first occurrence, one at the end of its second and one in its
fourth. -/
theorem filterWindow_exact_minutes :
    (0 : Int) < 10 ∧ (0 : Int) < 60 ∧ ∃ w, Window.checked (-20) 10 60 = .ok w ∧
      (Series.filterWindow w (Series.ofPoints [(-25, 1), (-15, 2), (50, 3), (165, 4)])).toList =
        [(-15, 2), (165, 4)] := by
  obtain ⟨w, hw, hexact⟩ := filterWindow_exact (-20) 10 60 (by decide) (by decide)
  refine ⟨by decide, by decide, w, hw, ?_⟩
  obtain ⟨-, heq⟩ := hexact Nat (Series.ofPoints [(-25, 1), (-15, 2), (50, 3), (165, 4)])
  rw [heq]
  cases hw
  decide +kernel

end MetricQuery
