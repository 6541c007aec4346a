/-
  MetricQuery.Proofs.Store.Listing
  ────────────────────────────────
  **A LISTING CUTS THE RECORDS UP INTO GROUPS AND COUNTS THEM.**

  A listing looks at the records one by one, in the order in which they were
  recorded, and keeps one count for each group that it has met.  What it comes
  to depends on no order: a row is in the listing if and only if it says how many
  matching records its group has, and when the first and the last of them were.
  A coarser listing adds nothing to a finer one; its rows are the rows of the
  finer one, merged.

    • `AnomalyCount.Counts`   — the count of some times,
    • `AnomalyCount.Merges`   — the count that several counts make together,
    • `AnomalyQuery.matching` — the records that a query is about,
    • `Tallied.countRecord`   — one more record,
    • `Tallied.foldl`         — all records,
    • `mem_groupedAnomalies`  — the rows of a listing,
    • `CutUp`                 — rows that count the parts of a list of records,
    • `groupedAnomalies_partition` — order, groups, counts and merges.
-/
import MetricQuery.Proofs.Partition
import MetricQuery.Store.Anomaly

namespace MetricQuery

/-! ## §1. Counts of times. -/

attribute [ext] AnomalyCount AnomalyRow

namespace AnomalyCount

variable {c d : AnomalyCount} {times more : List Int}

/-- How many times there are, which is the first and which is the last. -/
structure Counts (c : AnomalyCount) (times : List Int) : Prop where
  count : c.count = times.length
  first : IsLeast {t | t ∈ times} c.firstSeen
  last : IsGreatest {t | t ∈ times} c.lastSeen

/-- Several counts taken together: their sum, the first of their first times and the last of their
last ones. -/
structure Merges (c : AnomalyCount) (parts : List AnomalyCount) : Prop where
  count : c.count = (parts.map AnomalyCount.count).sum
  first : IsLeast (AnomalyCount.firstSeen '' {d | d ∈ parts}) c.firstSeen
  last : IsGreatest (AnomalyCount.lastSeen '' {d | d ∈ parts}) c.lastSeen

theorem counts_one (t : Int) : (one t).Counts [t] where
  count := rfl
  first := ⟨List.mem_singleton_self t, fun _ hu => Int.le_of_eq (List.mem_singleton.1 hu).symm⟩
  last := ⟨List.mem_singleton_self t, fun _ hu => Int.le_of_eq (List.mem_singleton.1 hu)⟩

/-- **Two counts of different times count all of them.** -/
theorem Counts.merge (h : c.Counts times) (h' : d.Counts more) :
    (c.merge d).Counts (times ++ more) := by
  have hunion : {t | t ∈ times ++ more} = {t | t ∈ times} ∪ {t | t ∈ more} :=
    Set.ext fun _ => List.mem_append
  refine ⟨?_, ?_, ?_⟩
  · rw [List.length_append, ← h.count, ← h'.count]
    rfl
  · rw [hunion]
    exact h.first.union h'.first
  · rw [hunion]
    exact h.last.union h'.last

/-- Times have one count. -/
theorem Counts.unique (h : c.Counts times) (h' : d.Counts times) : c = d :=
  AnomalyCount.ext (h.count.trans h'.count.symm) (h.first.unique h'.first) (h.last.unique h'.last)

/-- Counts make one count together. -/
theorem Merges.unique {parts : List AnomalyCount} (h : c.Merges parts) (h' : d.Merges parts) :
    c = d :=
  AnomalyCount.ext (h.count.trans h'.count.symm) (h.first.unique h'.first) (h.last.unique h'.last)

theorem Counts.some_eq_iff (h : c.Counts times) : some c = some d ↔ d.Counts times := by
  constructor
  · intro heq
    cases heq
    exact h
  · intro h'
    rw [h.unique h']

theorem Counts.perm (h : c.Counts times) (hperm : times.Perm more) : c.Counts more := by
  have hset : {t | t ∈ times} = {t | t ∈ more} := Set.ext fun _ => hperm.mem_iff
  exact ⟨h.count.trans hperm.length_eq, hset ▸ h.first, hset ▸ h.last⟩

/-- **Times have a count** if and only if there are any. -/
theorem exists_counts_iff : (∃ c : AnomalyCount, c.Counts times) ↔ times ≠ [] := by
  constructor
  · intro h
    obtain ⟨c, hc⟩ := h
    exact List.ne_nil_of_mem hc.first.1
  · intro hne
    induction times with
    | nil => exact absurd rfl hne
    | cons t times ih =>
        cases times with
        | nil => exact ⟨_, counts_one t⟩
        | cons u times =>
            obtain ⟨c, hc⟩ := ih (List.cons_ne_nil u times)
            exact ⟨_, (counts_one t).merge hc⟩

end AnomalyCount

/-! ## §2. The records of a query. -/

/-- The record is in the range of the query, and its entity is one of those that are listed if any
are. -/
def AnomalyQuery.Matches (q : AnomalyQuery) (r : AnomalyRecord) : Prop :=
  q.start ≤ r.timestamp ∧ r.timestamp < q.stop ∧ (q.entities = [] ∨ r.entity ∈ q.entities)

instance (q : AnomalyQuery) (r : AnomalyRecord) : Decidable (q.Matches r) :=
  inferInstanceAs (Decidable (_ ∧ _ ∧ _))

/-- The records that a query is about. -/
def AnomalyQuery.matching (q : AnomalyQuery) (records : List AnomalyRecord) : List AnomalyRecord :=
  records.filter fun r => q.Matches r

theorem AnomalyQuery.filter_selects (q : AnomalyQuery) (records : List AnomalyRecord) :
    records.filter q.selects = q.matching records := by
  refine List.filter_congr ?_
  intro r _
  rw [Bool.eq_iff_iff, decide_eq_true_iff]
  simp [AnomalyQuery.selects, AnomalyQuery.Matches, and_assoc]

/-- When the records with this key were, by a function that gives records keys. -/
def timesAt (key : AnomalyRecord → GroupKey) (records : List AnomalyRecord) (k : GroupKey) :
    List Int :=
  (records.filter fun r => key r == k).map AnomalyRecord.timestamp

section timesAt

variable {key : AnomalyRecord → GroupKey} {records : List AnomalyRecord} {k : GroupKey}

theorem mem_timesAt {t : Int} : t ∈ timesAt key records k ↔
    ∃ r ∈ records, key r = k ∧ r.timestamp = t := by
  simp [timesAt, and_assoc]

theorem timesAt_ne_nil_iff : timesAt key records k ≠ [] ↔ ∃ r ∈ records, key r = k := by
  constructor
  · intro h
    obtain ⟨t, ht⟩ := List.exists_mem_of_ne_nil _ h
    obtain ⟨r, hr, hk, -⟩ := mem_timesAt.1 ht
    exact ⟨r, hr, hk⟩
  · intro h
    obtain ⟨r, hr, hk⟩ := h
    exact List.ne_nil_of_mem (mem_timesAt.2 ⟨r, hr, hk, rfl⟩)

theorem timesAt_append (more : List AnomalyRecord) :
    timesAt key (records ++ more) k = timesAt key records k ++ timesAt key more k := by
  unfold timesAt
  rw [List.filter_append, List.map_append]

theorem timesAt_singleton (key : AnomalyRecord → GroupKey) (r : AnomalyRecord) (k : GroupKey) :
    timesAt key [r] k = if key r = k then [r.timestamp] else [] := by
  unfold timesAt
  by_cases h : key r = k <;> simp [h]

theorem timesAt_perm {records' : List AnomalyRecord} (h : records'.Perm records) :
    (timesAt key records' k).Perm (timesAt key records k) :=
  (h.filter _).map _

end timesAt

/-! ## §3. One record after another. -/

/-- The counts are those of the groups of the records. -/
def Tallied (g : Grouping) (records : List AnomalyRecord)
    (counts : Std.ExtTreeMap GroupKey AnomalyCount) : Prop :=
  ∀ (k : GroupKey) (c : AnomalyCount), counts[k]? = some c ↔ c.Counts (timesAt g.keyOf records k)

theorem tallied_nil (g : Grouping) : Tallied g [] ∅ := by
  intro k c
  have hnone : ¬ c.Counts (timesAt g.keyOf [] k) :=
    fun h => AnomalyCount.exists_counts_iff.1 ⟨c, h⟩ rfl
  simp [hnone]

section Tallied

variable {g : Grouping} {seen : List AnomalyRecord}
  {counts : Std.ExtTreeMap GroupKey AnomalyCount}

/-- A group that has no count has no records. -/
theorem Tallied.timesAt_eq_nil (h : Tallied g seen counts) {k : GroupKey} (hk : counts[k]? = none) :
    timesAt g.keyOf seen k = [] := by
  by_contra hne
  obtain ⟨c, hc⟩ := AnomalyCount.exists_counts_iff.2 hne
  rw [(h k c).2 hc] at hk
  cases hk

/-- **One more record** joins the count of its group, or is the first one of it. -/
theorem Tallied.countRecord (h : Tallied g seen counts) (r : AnomalyRecord) :
    Tallied g (seen ++ [r]) (countRecord g counts r) := by
  intro k c
  unfold MetricQuery.countRecord
  rw [Std.ExtTreeMap.getElem?_alter, timesAt_append, timesAt_singleton]
  by_cases hk : g.keyOf r = k
  · subst hk
    rw [if_pos Std.ReflCmp.compare_self, if_pos rfl]
    cases hcount : counts[g.keyOf r]? with
    | none =>
        rw [h.timesAt_eq_nil hcount, List.nil_append]
        exact (AnomalyCount.counts_one r.timestamp).some_eq_iff
    | some d =>
        have hd := (h _ d).1 hcount
        exact (hd.merge (AnomalyCount.counts_one r.timestamp)).some_eq_iff
  · -- The other groups are as they were.
    have hother : ¬ compare (g.keyOf r) k = .eq := fun heq => hk (Std.LawfulEqOrd.eq_of_compare heq)
    rw [if_neg hother, if_neg hk, List.append_nil]
    exact h k c

/-- **All records,** one after another. -/
theorem Tallied.foldl (records : List AnomalyRecord) : ∀ {seen : List AnomalyRecord}
    {counts : Std.ExtTreeMap GroupKey AnomalyCount}, Tallied g seen counts →
      Tallied g (seen ++ records) (records.foldl (MetricQuery.countRecord g) counts) := by
  induction records with
  | nil =>
      intro seen counts h
      rw [List.append_nil]
      exact h
  | cons r records ih =>
      intro seen counts h
      rw [List.append_cons, List.foldl_cons]
      exact ih (h.countRecord r)

end Tallied

/-! ## §4. The rows of a listing. -/

section Rows

variable {records : List AnomalyRecord} {q : AnomalyQuery}

/-- The counts that a listing comes to. -/
theorem tallied_matching (records : List AnomalyRecord) (q : AnomalyQuery) :
    Tallied q.grouping (q.matching records)
      ((records.filter q.selects).foldl (countRecord q.grouping) ∅) := by
  rw [q.filter_selects]
  exact (tallied_nil q.grouping).foldl (q.matching records)

/-- **A row is in the listing** if and only if it counts the matching records of its group. -/
theorem mem_groupedAnomalies {row : AnomalyRow} :
    row ∈ groupedAnomalies records q ↔
      row.count.Counts (timesAt q.grouping.keyOf (q.matching records) row.key) := by
  rw [← tallied_matching records q row.key row.count,
    ← Std.ExtTreeMap.mem_toList_iff_getElem?_eq_some]
  unfold groupedAnomalies
  rw [List.mem_map]
  constructor
  · intro h
    obtain ⟨⟨k, c⟩, hmem, rfl⟩ := h
    exact hmem
  · intro h
    exact ⟨(row.key, row.count), h, rfl⟩

/-- **The rows ascend,** by entity and then by detector. -/
theorem pairwise_groupedAnomalies (records : List AnomalyRecord) (q : AnomalyQuery) :
    (groupedAnomalies records q).Pairwise fun a b => compare a.key b.key = .lt := by
  unfold groupedAnomalies
  exact List.pairwise_map.2 Std.ExtTreeMap.ordered_keys_toList

theorem nodup_keys_groupedAnomalies (records : List AnomalyRecord) (q : AnomalyQuery) :
    ((groupedAnomalies records q).map AnomalyRow.key).Nodup := by
  refine List.pairwise_map.2 ((pairwise_groupedAnomalies records q).imp ?_)
  intro a b hlt heq
  have hself : compare b.key b.key = .eq := Std.ReflCmp.compare_self
  rw [heq, hself] at hlt
  cases hlt

/-- **A group has a row** if and only if it has a matching record. -/
theorem exists_row_iff {k : GroupKey} :
    (∃ row ∈ groupedAnomalies records q, row.key = k) ↔
      ∃ r ∈ q.matching records, q.grouping.keyOf r = k := by
  rw [← timesAt_ne_nil_iff, ← AnomalyCount.exists_counts_iff]
  constructor
  · intro h
    obtain ⟨row, hrow, rfl⟩ := h
    exact ⟨row.count, mem_groupedAnomalies.1 hrow⟩
  · intro h
    obtain ⟨c, hc⟩ := h
    exact ⟨⟨k, c⟩, mem_groupedAnomalies.2 hc, rfl⟩

/-- **The order in which records come does not matter.** -/
theorem groupedAnomalies_perm {records' : List AnomalyRecord} (h : records'.Perm records) :
    groupedAnomalies records' q = groupedAnomalies records q := by
  have hmatching : (q.matching records').Perm (q.matching records) := h.filter _
  have hcounts : (records'.filter q.selects).foldl (countRecord q.grouping) ∅ =
      (records.filter q.selects).foldl (countRecord q.grouping) ∅ := by
    refine Std.ExtTreeMap.ext_getElem? fun {k} => Option.ext fun c => ?_
    rw [tallied_matching records' q k c, tallied_matching records q k c]
    constructor
    · intro hc
      exact hc.perm (timesAt_perm hmatching)
    · intro hc
      exact hc.perm (timesAt_perm hmatching.symm)
  unfold groupedAnomalies
  rw [hcounts]

end Rows

/-! ## §5. Parts of a list of records. -/

/-- The rows count the parts into which a function that gives records keys cuts them up. -/
structure CutUp (key : AnomalyRecord → GroupKey) (records : List AnomalyRecord)
    (rows : List AnomalyRow) : Prop where
  counts : ∀ row ∈ rows, row.count.Counts (timesAt key records row.key)
  nodup : (rows.map AnomalyRow.key).Nodup
  cover : ∀ r ∈ records, key r ∈ rows.map AnomalyRow.key

namespace CutUp

variable {key : AnomalyRecord → GroupKey} {records : List AnomalyRecord} {rows : List AnomalyRow}

/-- **The counts add up** to the number of records. -/
theorem sum_count (h : CutUp key records rows) :
    (rows.map fun row => row.count.count).sum = records.length := by
  rw [← sum_length_filter h.nodup h.cover, List.map_map]
  refine congrArg List.sum (List.map_congr_left ?_)
  intro row hrow
  rw [(h.counts row hrow).count]
  exact List.length_map _

/-- **The counts of the parts make the count of the whole together.** -/
theorem merges (h : CutUp key records rows) {c : AnomalyCount}
    (hc : c.Counts (records.map AnomalyRecord.timestamp)) :
    c.Merges (rows.map AnomalyRow.count) := by
  have hsub : ∀ row ∈ rows, {t | t ∈ timesAt key records row.key} ⊆
      {t | t ∈ records.map AnomalyRecord.timestamp} := by
    intro row _ t ht
    obtain ⟨r, hr, -, rfl⟩ := mem_timesAt.1 ht
    exact List.mem_map_of_mem hr
  have hcover : ∀ t ∈ {t | t ∈ records.map AnomalyRecord.timestamp},
      ∃ row ∈ rows, t ∈ {t | t ∈ timesAt key records row.key} := by
    intro t ht
    obtain ⟨r, hr, rfl⟩ := List.mem_map.1 ht
    obtain ⟨row, hrow, hkey⟩ := List.mem_map.1 (h.cover r hr)
    exact ⟨row, hrow, mem_timesAt.2 ⟨r, hr, hkey.symm, rfl⟩⟩
  have himage : ∀ f : AnomalyCount → Int, f '' {d | d ∈ rows.map AnomalyRow.count} =
      (fun row : AnomalyRow => f row.count) '' {row | row ∈ rows} := by
    intro f
    ext t
    simp
  refine ⟨?_, ?_, ?_⟩
  · rw [hc.count, List.length_map, List.map_map]
    exact h.sum_count.symm
  · rw [himage]
    exact isLeast_of_parts (fun row hrow => (h.counts row hrow).first) hsub hcover hc.first
  · rw [himage]
    exact isGreatest_of_parts (fun row hrow => (h.counts row hrow).last) hsub hcover hc.last

end CutUp

/-- The rows of a listing count the groups of the matching records. -/
theorem cutUp_groupedAnomalies (records : List AnomalyRecord) (q : AnomalyQuery) :
    CutUp q.grouping.keyOf (q.matching records) (groupedAnomalies records q) where
  counts _ hrow := mem_groupedAnomalies.1 hrow
  nodup := nodup_keys_groupedAnomalies records q
  cover r hr := List.mem_map.2 (exists_row_iff.2 ⟨r, hr, rfl⟩)

/-! ## §6. Coarser listings. -/

/-- The group of a coarser grouping in which a group of the finest one lies. -/
def Grouping.coarsen (g : Grouping) (k : GroupKey) : GroupKey :=
  match g with
  | .entity => ⟨k.entity, none⟩
  | .detector => ⟨none, k.detector⟩
  | .entityAndDetector => k

theorem Grouping.keyOf_eq_coarsen (g : Grouping) (r : AnomalyRecord) :
    g.keyOf r = g.coarsen (Grouping.entityAndDetector.keyOf r) := by
  cases g <;> rfl

/-- The rows by entity and detector that lie in a group of the query. -/
def partsOf (records : List AnomalyRecord) (q : AnomalyQuery) (k : GroupKey) : List AnomalyRow :=
  (groupedAnomalies records { q with grouping := .entityAndDetector }).filter fun part =>
    q.grouping.coarsen part.key == k

section partsOf

variable {records : List AnomalyRecord} {q : AnomalyQuery} {k : GroupKey}

theorem mem_partsOf {part : AnomalyRow} :
    part ∈ partsOf records q k ↔
      part.count.Counts
          (timesAt Grouping.entityAndDetector.keyOf (q.matching records) part.key) ∧
        q.grouping.coarsen part.key = k := by
  unfold partsOf
  rw [List.mem_filter, mem_groupedAnomalies, beq_iff_eq]
  rfl

/-- **The finer rows of a group cut its records up.** -/
theorem cutUp_partsOf (records : List AnomalyRecord) (q : AnomalyQuery) (k : GroupKey) :
    CutUp Grouping.entityAndDetector.keyOf
      ((q.matching records).filter fun r => q.grouping.keyOf r == k) (partsOf records q k) where
  counts part hpart := by
    obtain ⟨hcounts, hkey⟩ := mem_partsOf.1 hpart
    -- All records of the part are of the group.
    have hsame : timesAt Grouping.entityAndDetector.keyOf
        ((q.matching records).filter fun r => q.grouping.keyOf r == k) part.key =
        timesAt Grouping.entityAndDetector.keyOf (q.matching records) part.key := by
      unfold timesAt
      rw [List.filter_filter]
      refine congrArg (List.map AnomalyRecord.timestamp) (List.filter_congr ?_)
      intro r _
      by_cases hr : Grouping.entityAndDetector.keyOf r = part.key
      · simp [hr, q.grouping.keyOf_eq_coarsen r, hkey]
      · simp [hr]
    rw [hsame]
    exact hcounts
  nodup := by
    have hnodup := nodup_keys_groupedAnomalies records { q with grouping := .entityAndDetector }
    exact hnodup.sublist (List.filter_sublist.map _)
  cover r hr := by
    obtain ⟨hmem, hkey⟩ := List.mem_filter.1 hr
    obtain ⟨part, hpart, hpartKey⟩ :=
      (exists_row_iff (q := { q with grouping := .entityAndDetector })).2 ⟨r, hmem, rfl⟩
    refine List.mem_map.2 ⟨part, List.mem_filter.2 ⟨hpart, ?_⟩, hpartKey⟩
    rw [hpartKey]
    show (q.grouping.coarsen (Grouping.entityAndDetector.keyOf r) == k) = true
    rw [← q.grouping.keyOf_eq_coarsen r]
    exact hkey

/-- The row of a group merges its finer rows. -/
theorem merges_partsOf {row : AnomalyRow} (hrow : row ∈ groupedAnomalies records q) :
    row.count.Merges ((partsOf records q row.key).map AnomalyRow.count) :=
  (cutUp_partsOf records q row.key).merges (mem_groupedAnomalies.1 hrow)

/-- **A row is in the listing** if and only if it merges the finer rows of its group. -/
theorem mem_groupedAnomalies_iff_merges {row : AnomalyRow} :
    row ∈ groupedAnomalies records q ↔
      row.count.Merges ((partsOf records q row.key).map AnomalyRow.count) := by
  constructor
  · exact merges_partsOf
  · intro hmerges
    -- There is a finer row, so the group has a record and a row, which merges the same.
    obtain ⟨_, hcount, -⟩ := hmerges.first.1
    obtain ⟨part, hpart, -⟩ := List.mem_map.1 hcount
    obtain ⟨hcounts, hkey⟩ := mem_partsOf.1 hpart
    obtain ⟨r, hr, hpartKey⟩ :=
      timesAt_ne_nil_iff.1 (AnomalyCount.exists_counts_iff.1 ⟨_, hcounts⟩)
    have hgroup : q.grouping.keyOf r = row.key := by
      rw [q.grouping.keyOf_eq_coarsen, hpartKey, hkey]
    obtain ⟨row', hrow', hsame⟩ := exists_row_iff.2 ⟨r, hr, hgroup⟩
    have heq : row'.count = row.count := by
      have hmerges' := merges_partsOf hrow'
      rw [hsame] at hmerges'
      exact hmerges'.unique hmerges
    obtain rfl : row' = row := AnomalyRow.ext hsame heq
    exact hrow'

end partsOf

/-! ## §7. The listing as a whole. -/

/-- **A listing is a partition of the matching records, counted.**  Its rows ascend strictly by
entity and detector, and a group has a row if and only if it has a matching record.  A row says how
many matching records its group has, and which is the first and which the last; the numbers add up
to that of all matching records.  The order of recording does not matter.  The rows of any grouping
are the merges of the rows by entity and detector. -/
theorem groupedAnomalies_partition (records : List AnomalyRecord) (q : AnomalyQuery) :
    (groupedAnomalies records q).Pairwise (fun a b => compare a.key b.key = .lt) ∧
      (∀ k, (∃ row ∈ groupedAnomalies records q, row.key = k) ↔
        ∃ r ∈ q.matching records, q.grouping.keyOf r = k) ∧
      (∀ row ∈ groupedAnomalies records q,
        row.count.Counts (timesAt q.grouping.keyOf (q.matching records) row.key)) ∧
      ((groupedAnomalies records q).map fun row => row.count.count).sum =
        (q.matching records).length ∧
      (∀ records', records'.Perm records →
        groupedAnomalies records' q = groupedAnomalies records q) ∧
      ∀ row, row ∈ groupedAnomalies records q ↔
        row.count.Merges ((partsOf records q row.key).map AnomalyRow.count) :=
  ⟨pairwise_groupedAnomalies records q, fun _ => exists_row_iff,
    fun _ hrow => mem_groupedAnomalies.1 hrow, (cutUp_groupedAnomalies records q).sum_count,
    fun _ hperm => groupedAnomalies_perm hperm, fun _ => mem_groupedAnomalies_iff_merges⟩

/-- Anomalies of two entities, not in the order of time; one lies outside the first thousand
seconds. -/
def fiveAnomalies : List AnomalyRecord :=
  [⟨⟨"1", "1"⟩, 200, "three_sigma", 1⟩, ⟨⟨"1", "1"⟩, 100, "three_sigma", 1⟩,
    ⟨⟨"1", "1"⟩, 300, "holt_winters", 1⟩, ⟨⟨"2", "1"⟩, 150, "three_sigma", 1⟩,
    ⟨⟨"2", "1"⟩, 5000, "three_sigma", 1⟩]

/-- By entity, the first entity has three of them and the second has one.  The row of the first
merges two finer ones, recorded in whatever order. -/
theorem groupedAnomalies_partition_five :
    groupedAnomalies fiveAnomalies ⟨[], 0, 1000, .entity⟩ =
        [⟨⟨some ⟨"1", "1"⟩, none⟩, ⟨3, 100, 300⟩⟩, ⟨⟨some ⟨"2", "1"⟩, none⟩, ⟨1, 150, 150⟩⟩] ∧
      groupedAnomalies fiveAnomalies.reverse ⟨[], 0, 1000, .entity⟩ =
        groupedAnomalies fiveAnomalies ⟨[], 0, 1000, .entity⟩ ∧
      AnomalyCount.Counts ⟨3, 100, 300⟩ [200, 100, 300] ∧
      AnomalyCount.Merges ⟨3, 100, 300⟩ [⟨1, 300, 300⟩, ⟨2, 100, 200⟩] := by
  have hrows : groupedAnomalies fiveAnomalies ⟨[], 0, 1000, .entity⟩ =
      [⟨⟨some ⟨"1", "1"⟩, none⟩, ⟨3, 100, 300⟩⟩, ⟨⟨some ⟨"2", "1"⟩, none⟩, ⟨1, 150, 150⟩⟩] := by
    decide +kernel
  have hfirst : ⟨⟨some ⟨"1", "1"⟩, none⟩, ⟨3, 100, 300⟩⟩ ∈
      groupedAnomalies fiveAnomalies ⟨[], 0, 1000, .entity⟩ := by
    rw [hrows]
    exact List.mem_cons_self
  obtain ⟨-, -, hcounts, -, hperm, hmerges⟩ :=
    groupedAnomalies_partition fiveAnomalies ⟨[], 0, 1000, .entity⟩
  refine ⟨hrows, hperm _ (List.reverse_perm _), ?_, ?_⟩
  · exact hcounts _ hfirst
  · have hparts : (partsOf fiveAnomalies ⟨[], 0, 1000, .entity⟩ ⟨some ⟨"1", "1"⟩, none⟩).map
        AnomalyRow.count = [⟨1, 300, 300⟩, ⟨2, 100, 200⟩] := by
      decide +kernel
    rw [← hparts]
    exact (hmerges _).1 hfirst

end MetricQuery
