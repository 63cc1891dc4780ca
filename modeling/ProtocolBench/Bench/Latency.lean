import Mathlib.Tactic
import Mathlib.Data.List.Sort

/-!
The latency part of `metrics.c`: `benchmark_metrics_init`, `benchmark_record_latency` and
`benchmark_compute_percentiles`, with the driver's guarded call of the second from
`benchmark.c`. Latencies are `uint64_t`, their values naturals; `total_latency_ns` wraps modulo
`2^64`. `latency_samples` is the array of `MAX_LATENCY_SAMPLES` slots as a function of the index.
`qsort` with `compare_uint64` is a library call: it is modelled by its contract, a sort of the
first `latency_sample_count` slots into ascending order (`List.mergeSort` on `≤`). The timers, the
other counters and the printing are left out.

A sequence of calls is described by `Recorded`: the count is the number of latencies up to the
cap, the slots hold the first latencies, the total is the sum of all of them, and the minimum and
maximum bound all of them. The total therefore counts the latencies past the cap too; only the
driver's guard, which stops calling once the array is full, keeps it to the retained samples.
-/

namespace ProtocolBench.Bench

/-- `MAX_LATENCY_SAMPLES`. -/
def maxLatencySamples : Nat := 10000

/-- `2^64`: `uint64_t` arithmetic is modulo it. -/
def wordMod : Nat := 2 ^ 64

/-- The latency fields of `benchmark_metrics_t`. -/
structure LatencyMetrics where
  latencySamples : Nat → Nat
  latencySampleCount : Nat
  totalLatencyNs : Nat
  minLatencyNs : Nat
  maxLatencyNs : Nat
  avgLatencyNs : Nat
  p50LatencyNs : Nat
  p90LatencyNs : Nat
  p99LatencyNs : Nat

/-- `benchmark_metrics_init`: all zero, except `min_latency_ns = UINT64_MAX`. -/
def benchmarkMetricsInit : LatencyMetrics where
  latencySamples := fun _ => 0
  latencySampleCount := 0
  totalLatencyNs := 0
  minLatencyNs := wordMod - 1
  maxLatencyNs := 0
  avgLatencyNs := 0
  p50LatencyNs := 0
  p90LatencyNs := 0
  p99LatencyNs := 0

/-- `benchmark_record_latency(metrics, latency_ns)`: store the sample while there is room, and
update the total, the minimum and the maximum in any case. -/
def benchmarkRecordLatency (m : LatencyMetrics) (latencyNs : Nat) : LatencyMetrics :=
  let m :=
    if m.latencySampleCount < maxLatencySamples then
      { m with
        latencySamples := Function.update m.latencySamples m.latencySampleCount latencyNs
        latencySampleCount := m.latencySampleCount + 1 }
    else m
  let m := { m with totalLatencyNs := (m.totalLatencyNs + latencyNs) % wordMod }
  let m := if latencyNs < m.minLatencyNs then { m with minLatencyNs := latencyNs } else m
  if latencyNs > m.maxLatencyNs then { m with maxLatencyNs := latencyNs } else m

/-- The driver's call, `if (sample_latency && latency_sample_count < MAX_LATENCY_SAMPLES)`. -/
def sampleLatency (m : LatencyMetrics) (latencyNs : Nat) : LatencyMetrics :=
  if m.latencySampleCount < maxLatencySamples then benchmarkRecordLatency m latencyNs else m

/-- `qsort(a, n, sizeof(uint64_t), compare_uint64)`: the slots below `n` in ascending order. -/
def sortPrefix (a : Nat → Nat) (n : Nat) : Nat → Nat :=
  fun i => if i < n then (((List.range n).map a).mergeSort fun x y => decide (x ≤ y)).getD i 0
    else a i

/-- `pP_idx = latency_sample_count * P / 100`. -/
def percentileIdx (count p : Nat) : Nat := count * p / 100

/-- `benchmark_compute_percentiles`. -/
def benchmarkComputePercentiles (m : LatencyMetrics) : LatencyMetrics :=
  if m.latencySampleCount = 0 then m
  else
    let samples := sortPrefix m.latencySamples m.latencySampleCount
    { m with
      latencySamples := samples
      p50LatencyNs := samples (percentileIdx m.latencySampleCount 50)
      p90LatencyNs := samples (percentileIdx m.latencySampleCount 90)
      p99LatencyNs := samples (percentileIdx m.latencySampleCount 99)
      avgLatencyNs := m.totalLatencyNs / m.latencySampleCount }

/-- The metrics after `benchmark_metrics_init` and a call of `benchmark_record_latency` for each
latency of `ls`, in order. -/
def recordLatencies (ls : List Nat) : LatencyMetrics :=
  ls.foldl benchmarkRecordLatency benchmarkMetricsInit

/-- The samples `latency_samples[0 .. latency_sample_count)`. -/
def LatencyMetrics.retained (m : LatencyMetrics) : List Nat :=
  (List.range m.latencySampleCount).map m.latencySamples

/-- What the calls for the latencies `ls` leave in the metrics. -/
structure Recorded (m : LatencyMetrics) (ls : List Nat) : Prop where
  count : m.latencySampleCount = min ls.length maxLatencySamples
  retained : m.retained = ls.take maxLatencySamples
  total : m.totalLatencyNs = ls.sum % wordMod
  min_le : ∀ x ∈ ls, m.minLatencyNs ≤ x
  le_max : ∀ x ∈ ls, x ≤ m.maxLatencyNs

section Record

variable {m : LatencyMetrics} {ls : List Nat}

theorem recorded_init : Recorded benchmarkMetricsInit [] :=
  ⟨rfl, rfl, rfl, fun _ h => absurd h (List.not_mem_nil _), fun _ h => absurd h (List.not_mem_nil _)⟩

@[simp] theorem benchmarkRecordLatency_count (x : Nat) :
    (benchmarkRecordLatency m x).latencySampleCount =
      if m.latencySampleCount < maxLatencySamples then m.latencySampleCount + 1
      else m.latencySampleCount := by
  unfold benchmarkRecordLatency
  dsimp only
  split_ifs <;> rfl

@[simp] theorem benchmarkRecordLatency_samples (x : Nat) :
    (benchmarkRecordLatency m x).latencySamples =
      if m.latencySampleCount < maxLatencySamples then
        Function.update m.latencySamples m.latencySampleCount x
      else m.latencySamples := by
  unfold benchmarkRecordLatency
  dsimp only
  split_ifs <;> rfl

@[simp] theorem benchmarkRecordLatency_total (x : Nat) :
    (benchmarkRecordLatency m x).totalLatencyNs = (m.totalLatencyNs + x) % wordMod := by
  unfold benchmarkRecordLatency
  dsimp only
  split_ifs <;> rfl

@[simp] theorem benchmarkRecordLatency_min (x : Nat) :
    (benchmarkRecordLatency m x).minLatencyNs = if x < m.minLatencyNs then x else m.minLatencyNs := by
  unfold benchmarkRecordLatency
  dsimp only
  split_ifs <;> rfl

@[simp] theorem benchmarkRecordLatency_max (x : Nat) :
    (benchmarkRecordLatency m x).maxLatencyNs = if x > m.maxLatencyNs then x else m.maxLatencyNs := by
  unfold benchmarkRecordLatency
  dsimp only
  split_ifs <;> rfl

/-- The samples of a store at the first free slot: the old ones, then the new one. -/
theorem retained_update {a : Nat → Nat} {n x : Nat} :
    (List.range (n + 1)).map (Function.update a n x) = (List.range n).map a ++ [x] := by
  rw [List.range_succ, List.map_append, List.map_singleton, Function.update_same]
  congr 1
  exact List.map_congr_left fun i hi => Function.update_noteq (List.mem_range.1 hi).ne _ _

theorem Recorded.record (h : Recorded m ls) (x : Nat) :
    Recorded (benchmarkRecordLatency m x) (ls ++ [x]) := by
  have hc := h.count
  refine ⟨?_, ?_, ?_, fun y hy => ?_, fun y hy => ?_⟩
  · simp only [benchmarkRecordLatency_count, hc, List.length_append, List.length_singleton]
    split_ifs <;> omega
  · simp only [LatencyMetrics.retained, benchmarkRecordLatency_count,
      benchmarkRecordLatency_samples]
    split_ifs with hlt
    · have hlen : ls.length = m.latencySampleCount := by omega
      rw [retained_update, ← LatencyMetrics.retained, h.retained, List.take_of_length_le (by omega),
        List.take_of_length_le (by simp only [List.length_append, List.length_singleton]; omega)]
    · rw [← LatencyMetrics.retained, h.retained, List.take_append_of_le_length (by omega)]
  · rw [benchmarkRecordLatency_total, h.total, List.sum_append, List.sum_singleton, Nat.mod_add_mod]
  · rw [benchmarkRecordLatency_min]
    rcases List.mem_append.1 hy with hy | hy
    · have := h.min_le y hy
      split_ifs <;> omega
    · rw [List.mem_singleton.1 hy]
      split_ifs <;> omega
  · rw [benchmarkRecordLatency_max]
    rcases List.mem_append.1 hy with hy | hy
    · have := h.le_max y hy
      split_ifs <;> omega
    · rw [List.mem_singleton.1 hy]
      split_ifs <;> omega

theorem recorded_foldl (h : Recorded m ls) (xs : List Nat) :
    Recorded (xs.foldl benchmarkRecordLatency m) (ls ++ xs) := by
  induction xs generalizing m ls with
  | nil => simpa using h
  | cons x xs ih => simpa using ih (h.record x)

theorem recorded_recordLatencies (ls : List Nat) : Recorded (recordLatencies ls) ls := by
  simpa using recorded_foldl recorded_init ls

end Record

/-- What `benchmark_compute_percentiles` makes of the metrics `m`: the samples sorted in place, a
permutation of those retained, each percentile read at its index, which is in range, and the
percentiles ordered between the minimum and the maximum. -/
structure PercentilesOrdered (m m' : LatencyMetrics) : Prop where
  sorted : m'.retained.Sorted (· ≤ ·)
  perm : m'.retained.Perm m.retained
  idx_lt : ∀ p < 100, m.latencySampleCount * p / 100 < m.latencySampleCount
  p50 : m'.p50LatencyNs = m'.latencySamples (m.latencySampleCount * 50 / 100)
  p90 : m'.p90LatencyNs = m'.latencySamples (m.latencySampleCount * 90 / 100)
  p99 : m'.p99LatencyNs = m'.latencySamples (m.latencySampleCount * 99 / 100)
  min_le_p50 : m'.minLatencyNs ≤ m'.p50LatencyNs
  p50_le_p90 : m'.p50LatencyNs ≤ m'.p90LatencyNs
  p90_le_p99 : m'.p90LatencyNs ≤ m'.p99LatencyNs
  p99_le_max : m'.p99LatencyNs ≤ m'.maxLatencyNs

section Percentiles

variable {m : LatencyMetrics}

/-- The sort of the retained samples, as `qsort` leaves them. -/
def LatencyMetrics.sorted (m : LatencyMetrics) : List Nat :=
  m.retained.mergeSort fun x y => decide (x ≤ y)

theorem sorted_length (m : LatencyMetrics) : m.sorted.length = m.latencySampleCount := by
  simp [LatencyMetrics.sorted, LatencyMetrics.retained]

theorem sorted_sorted (m : LatencyMetrics) : m.sorted.Sorted (· ≤ ·) :=
  (List.sorted_mergeSort (fun _ _ _ h₁ h₂ => by simp only [decide_eq_true_eq] at *; omega)
    (fun a b => by simp only [Bool.or_eq_true, decide_eq_true_eq]; omega) _).imp
    fun h => by simpa using h

/-- The index `count * P / 100` of a percentile below 100 is a retained sample's. -/
theorem percentile_index_lt {n p : Nat} (hn : n ≠ 0) (hp : p < 100) : n * p / 100 < n :=
  (Nat.div_lt_iff_lt_mul (by decide)).2 (Nat.mul_lt_mul_of_pos_left hp (Nat.pos_of_ne_zero hn))

theorem computePercentiles_samples_of_lt (hn : m.latencySampleCount ≠ 0) {i : Nat}
    (hi : i < m.latencySampleCount) :
    (benchmarkComputePercentiles m).latencySamples i = m.sorted.getD i 0 := by
  simp only [benchmarkComputePercentiles, if_neg hn, sortPrefix, if_pos hi]
  rfl

theorem computePercentiles_retained (hn : m.latencySampleCount ≠ 0) :
    (benchmarkComputePercentiles m).retained = m.sorted := by
  have hcount : (benchmarkComputePercentiles m).latencySampleCount = m.latencySampleCount := by
    simp only [benchmarkComputePercentiles, if_neg hn]
  apply List.ext_getElem
  · simp only [LatencyMetrics.retained, List.length_map, List.length_range, hcount, sorted_length]
  · intro i h₁ h₂
    simp only [LatencyMetrics.retained, List.length_map, List.length_range, hcount] at h₁
    simp only [LatencyMetrics.retained, List.getElem_map, List.getElem_range]
    rw [computePercentiles_samples_of_lt hn h₁, List.getD_eq_getElem _ _ h₂]

theorem getD_le_of_sorted {l : List Nat} (h : l.Sorted (· ≤ ·)) {i j : Nat} (hij : i ≤ j)
    (hj : j < l.length) : l.getD i 0 ≤ l.getD j 0 := by
  rw [List.getD_eq_getElem _ _ (by omega), List.getD_eq_getElem _ _ hj]
  simpa using @List.Sorted.rel_get_of_le Nat (· ≤ ·) _ l h ⟨i, by omega⟩ ⟨j, hj⟩ hij

theorem computePercentiles_ordered {ls : List Nat} (h : Recorded m ls)
    (hn : m.latencySampleCount ≠ 0) : PercentilesOrdered m (benchmarkComputePercentiles m) := by
  have hret := computePercentiles_retained hn
  have hlen := sorted_length m
  have hfield : ∀ p < 100, (benchmarkComputePercentiles m).latencySamples
      (m.latencySampleCount * p / 100) = m.sorted.getD (m.latencySampleCount * p / 100) 0 :=
    fun _ hp => computePercentiles_samples_of_lt hn (percentile_index_lt hn hp)
  have hmem : ∀ p < 100, m.sorted.getD (m.latencySampleCount * p / 100) 0 ∈ ls := fun p hp => by
    have hi : m.latencySampleCount * p / 100 < m.sorted.length :=
      hlen.symm ▸ percentile_index_lt hn hp
    rw [List.getD_eq_getElem _ _ hi]
    exact List.mem_of_mem_take (h.retained ▸ List.mem_mergeSort.1 (List.getElem_mem hi))
  have hle : ∀ p q, p ≤ q → q < 100 → m.sorted.getD (m.latencySampleCount * p / 100) 0 ≤
      m.sorted.getD (m.latencySampleCount * q / 100) 0 := fun p q hpq hq =>
    getD_le_of_sorted (sorted_sorted m) (Nat.div_le_div_right (Nat.mul_le_mul_left _ hpq))
      (hlen.symm ▸ percentile_index_lt hn hq)
  -- the fields `benchmark_compute_percentiles` writes, and the two it leaves
  obtain ⟨h50, h90, h99, hmin, hmax⟩ :
      let m' := benchmarkComputePercentiles m
      m'.p50LatencyNs = m'.latencySamples (m.latencySampleCount * 50 / 100) ∧
      m'.p90LatencyNs = m'.latencySamples (m.latencySampleCount * 90 / 100) ∧
      m'.p99LatencyNs = m'.latencySamples (m.latencySampleCount * 99 / 100) ∧
      m'.minLatencyNs = m.minLatencyNs ∧ m'.maxLatencyNs = m.maxLatencyNs := by
    simp only [benchmarkComputePercentiles, if_neg hn, percentileIdx, and_self]
  refine ⟨hret ▸ sorted_sorted m, hret ▸ List.mergeSort_perm _ _, fun _ hp => percentile_index_lt hn hp,
    h50, h90, h99, ?_, ?_, ?_, ?_⟩
  · rw [hmin, h50, hfield 50 (by decide)]
    exact h.min_le _ (hmem 50 (by decide))
  · rw [h50, h90, hfield 50 (by decide), hfield 90 (by decide)]
    exact hle 50 90 (by decide) (by decide)
  · rw [h90, h99, hfield 90 (by decide), hfield 99 (by decide)]
    exact hle 90 99 (by decide) (by decide)
  · rw [hmax, h99, hfield 99 (by decide)]
    exact h.le_max _ (hmem 99 (by decide))

end Percentiles

/-- For every sequence of calls that records a sample, `benchmark_compute_percentiles` sorts the
retained samples, which are the first latencies recorded, and orders its percentiles between the
minimum and the maximum. -/
theorem computePercentiles_afterRecords (ls : List Nat) (hls : ls ≠ []) :
    (recordLatencies ls).retained = ls.take maxLatencySamples ∧
    PercentilesOrdered (recordLatencies ls) (benchmarkComputePercentiles (recordLatencies ls)) := by
  have h := recorded_recordLatencies ls
  have hpos := List.length_pos.2 hls
  exact ⟨h.retained, computePercentiles_ordered h (by rw [h.count]; unfold maxLatencySamples; omega)⟩

theorem computePercentiles_afterRecords_three :
    (recordLatencies [5, 3, 9]).retained = [5, 3, 9].take maxLatencySamples ∧
    PercentilesOrdered (recordLatencies [5, 3, 9])
      (benchmarkComputePercentiles (recordLatencies [5, 3, 9])) :=
  computePercentiles_afterRecords [5, 3, 9] (by decide)

section Cap

/-- The average that `benchmark_compute_percentiles` stores: the total over the count. -/
theorem computePercentiles_avg (m : LatencyMetrics) :
    (benchmarkComputePercentiles m).avgLatencyNs =
      if m.latencySampleCount = 0 then m.avgLatencyNs
      else m.totalLatencyNs / m.latencySampleCount := by
  unfold benchmarkComputePercentiles
  split_ifs <;> rfl

/-- While no latency was dropped, the total is the sum of the samples, which are all the
latencies, and the average is their mean. -/
theorem Recorded.total_of_le {m : LatencyMetrics} {ls : List Nat} (h : Recorded m ls)
    (hls : ls.length ≤ maxLatencySamples) :
    m.retained = ls ∧ m.totalLatencyNs = m.retained.sum % wordMod ∧
      (m.latencySampleCount ≠ 0 → (benchmarkComputePercentiles m).avgLatencyNs =
        m.retained.sum % wordMod / m.latencySampleCount) := by
  have hret : m.retained = ls := by rw [h.retained, List.take_of_length_le hls]
  rw [hret, computePercentiles_avg, h.total]
  exact ⟨rfl, rfl, fun h0 => if_neg h0⟩

/-- Up to `MAX_LATENCY_SAMPLES` calls, and past them for the count and the samples: the count
stays within the cap, the samples are the first latencies, and while no latency was dropped the
total is the sum of the samples, so the average is their mean. -/
theorem recordLatencies_capAccounting (ls : List Nat) :
    (recordLatencies ls).latencySampleCount = min ls.length maxLatencySamples ∧
    (recordLatencies ls).latencySampleCount ≤ maxLatencySamples ∧
    (recordLatencies ls).retained = ls.take (recordLatencies ls).latencySampleCount ∧
    (ls.length ≤ maxLatencySamples →
      (recordLatencies ls).totalLatencyNs = (recordLatencies ls).retained.sum % wordMod ∧
      (benchmarkComputePercentiles (recordLatencies ls)).avgLatencyNs =
        (recordLatencies ls).retained.sum % wordMod / (recordLatencies ls).latencySampleCount) := by
  have h := recorded_recordLatencies ls
  refine ⟨h.count, h.count ▸ min_le_right _ _, ?_, fun hls => ⟨(h.total_of_le hls).2.1, ?_⟩⟩
  · rw [h.retained, h.count, List.take_eq_take]
    omega
  · rcases eq_or_ne ls [] with rfl | hne
    · rfl
    · exact (h.total_of_le hls).2.2 (by rw [h.count]; have := List.length_pos.2 hne; omega)

theorem recordLatencies_capAccounting_three :
    (recordLatencies [5, 3, 9]).latencySampleCount = min [5, 3, 9].length maxLatencySamples ∧
    (recordLatencies [5, 3, 9]).latencySampleCount ≤ maxLatencySamples ∧
    (recordLatencies [5, 3, 9]).retained = [5, 3, 9].take (recordLatencies [5, 3, 9]).latencySampleCount ∧
    (recordLatencies [5, 3, 9]).totalLatencyNs = (recordLatencies [5, 3, 9]).retained.sum % wordMod ∧
    (benchmarkComputePercentiles (recordLatencies [5, 3, 9])).avgLatencyNs =
      (recordLatencies [5, 3, 9]).retained.sum % wordMod / (recordLatencies [5, 3, 9]).latencySampleCount :=
  have h := recordLatencies_capAccounting [5, 3, 9]
  ⟨h.1, h.2.1, h.2.2.1, h.2.2.2 (by decide)⟩

/-- Past the cap the total still counts every latency: 10001 calls of 1 ns leave 10000 samples
summing to 10000 and a total of 10001. -/
theorem recordLatencies_pastCapTotalCountsDropped :
    (recordLatencies (List.replicate 10001 1)).totalLatencyNs = 10001 ∧
    (recordLatencies (List.replicate 10001 1)).retained.sum = 10000 := by
  have h := recorded_recordLatencies (List.replicate 10001 1)
  -- stated here so that the sum is the one of `Recorded`, and the kernel does not evaluate it
  have hsum : ∀ n, (List.replicate n 1).sum = n := fun n => by
    rw [List.sum_replicate, smul_eq_mul, mul_one]
  rw [h.total, h.retained, List.take_replicate, hsum, hsum]
  exact ⟨rfl, rfl⟩

end Cap

section Driver

/-- The metrics after the driver's guarded call for each latency of `ls`, in order. -/
def sampleLatencies (ls : List Nat) : LatencyMetrics :=
  ls.foldl sampleLatency benchmarkMetricsInit

theorem foldl_sampleLatency_of_full {m : LatencyMetrics}
    (hfull : m.latencySampleCount = maxLatencySamples) (xs : List Nat) :
    xs.foldl sampleLatency m = m := by
  induction xs with
  | nil => rfl
  | cons x xs ih => rw [List.foldl_cons, sampleLatency, if_neg (by omega), ih]

/-- From the calls for `ls₀`, the guarded calls record the latencies that still fit. -/
theorem foldl_sampleLatency (xs : List Nat) {ls₀ : List Nat}
    (hle : ls₀.length ≤ maxLatencySamples) :
    xs.foldl sampleLatency (recordLatencies ls₀) =
      recordLatencies (ls₀ ++ xs.take (maxLatencySamples - ls₀.length)) := by
  induction xs generalizing ls₀ with
  | nil => simp
  | cons x xs ih =>
    have hc := (recorded_recordLatencies ls₀).count
    by_cases hlt : ls₀.length < maxLatencySamples
    · have hstep : sampleLatency (recordLatencies ls₀) x = recordLatencies (ls₀ ++ [x]) := by
        rw [sampleLatency, if_pos (by omega), recordLatencies, recordLatencies, List.foldl_append]
        rfl
      obtain ⟨k, hk⟩ : ∃ k, maxLatencySamples - ls₀.length = k + 1 := ⟨_, (Nat.succ_pred_eq_of_pos (by omega)).symm⟩
      rw [List.foldl_cons, hstep, ih (by simp only [List.length_append, List.length_singleton]; omega),
        hk, List.take_succ_cons, List.append_assoc, List.singleton_append]
      congr 4
      simp only [List.length_append, List.length_singleton]
      omega
    · rw [List.foldl_cons, sampleLatency, if_neg (by omega),
        foldl_sampleLatency_of_full (by omega), show maxLatencySamples - ls₀.length = 0 by omega,
        List.take_zero, List.append_nil]

theorem sampleLatencies_eq (ls : List Nat) :
    sampleLatencies ls = recordLatencies (ls.take maxLatencySamples) := by
  simpa using @foldl_sampleLatency ls [] (by decide)

/-- The driver's guarded sampling, for every sequence of latencies: at most
`MAX_LATENCY_SAMPLES` samples, the first latencies, and a total that is their sum, so the average
is their mean. -/
theorem sampleLatencies_totalIsRetainedSum (ls : List Nat) :
    (sampleLatencies ls).latencySampleCount ≤ maxLatencySamples ∧
    (sampleLatencies ls).retained = ls.take maxLatencySamples ∧
    (sampleLatencies ls).totalLatencyNs = (sampleLatencies ls).retained.sum % wordMod ∧
    ((sampleLatencies ls).latencySampleCount ≠ 0 →
      (benchmarkComputePercentiles (sampleLatencies ls)).avgLatencyNs =
        (sampleLatencies ls).retained.sum % wordMod / (sampleLatencies ls).latencySampleCount) := by
  have h := recorded_recordLatencies (ls.take maxLatencySamples)
  have hle : (ls.take maxLatencySamples).length ≤ maxLatencySamples := List.length_take_le _ _
  rw [sampleLatencies_eq]
  exact ⟨h.count ▸ min_le_right _ _, (h.total_of_le hle).1, (h.total_of_le hle).2⟩

end Driver

end ProtocolBench.Bench
