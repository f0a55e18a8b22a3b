import BridgeState.Metrics

/-!
# Latencies and their percentiles

The metrics keep the latencies of the last thousand events, in order. A percentile is told of them by
rank: so many samples at most are shorter than it, and more than so many are no longer. That leaves
one amount for each rank, whatever the order in which the samples are kept, and a higher rank never
has a lower amount. Latencies are compared by their exact amounts, and no comparison with one that is
no number holds. A sort by such comparisons may leave the samples out of order, so ranks are told of
samples that are all numbers.
-/

namespace BridgeState

set_option autoImplicit false

/-! ## The window -/

structure ApplyRecord where
  kind : String
  outcome : String
  block : Int
  latency : Latency

namespace Metrics

def recordAll (records : List ApplyRecord) (metrics : Metrics) : Metrics :=
  records.foldl (fun metrics record =>
    metrics.recordApply record.kind record.outcome record.block record.latency) metrics

theorem last_samples_append (earlier later : List Latency) :
    lastSamples (lastSamples earlier ++ later) = lastSamples (earlier ++ later) := by
  unfold lastSamples
  have together : (earlier.drop (earlier.length - sampleLimit) ++ later).length - sampleLimit +
      (earlier.length - sampleLimit) = (earlier ++ later).length - sampleLimit := by
    simp only [List.length_append, List.length_drop]
    omega
  rw [← together, Nat.add_comm, ← List.drop_drop,
    List.drop_append_of_le_length (Nat.sub_le earlier.length sampleLimit)]

theorem length_last_samples (samples : List Latency) :
    (lastSamples samples).length = min samples.length sampleLimit := by
  rw [lastSamples, List.length_drop]
  omega

structure Window (latencies : List Latency) (metrics : Metrics) : Prop where
  applied : metrics.eventsApplied = latencies.length
  samples : metrics.samples = lastSamples latencies

theorem Window.record_apply {latencies : List Latency} {metrics : Metrics}
    (window : Window latencies metrics) (kind outcome : String) (block : Int) (latency : Latency) :
    Window (latencies ++ [latency]) (metrics.recordApply kind outcome block latency) := by
  constructor
  · simp only [recordApply, window.applied, List.length_append, List.length_singleton]
  · simp only [recordApply, window.samples]
    exact last_samples_append latencies [latency]

theorem Window.record_all {latencies : List Latency} {metrics : Metrics}
    (window : Window latencies metrics) (records : List ApplyRecord) :
    Window (latencies ++ records.map ApplyRecord.latency) (metrics.recordAll records) := by
  induction records generalizing latencies metrics with
  | nil => simpa [recordAll] using window
  | cons record rest ih =>
      have step := window.record_apply record.kind record.outcome record.block record.latency
      have run := ih step
      rw [List.append_assoc, List.singleton_append] at run
      exact run

theorem window_zero : Window [] zero :=
  ⟨rfl, rfl⟩

end Metrics

/-! ## Ranks -/

namespace Latency

def AllNumbers (latencies : List Latency) : Prop :=
  ∀ latency ∈ latencies, latency.isNumber = true

instance (latencies : List Latency) : Decidable (AllNumbers latencies) :=
  inferInstanceAs (Decidable (∀ latency ∈ latencies, latency.isNumber = true))

theorem compares_numbers :
    Sorting.Compares isShorter fun latency : Latency => latency.isNumber = true where
  asymm a b isA isB isLess := by
    rw [isShorter_eq_not_atMost isB isA, Bool.not_eq_true'] at isLess
    rw [isShorter_eq_not_atMost isA isB, Bool.not_eq_false']
    exact atMost_total isB isA isLess
  trans a b c isA isB isC first second := by
    rw [isShorter_eq_not_atMost isA isB, Bool.not_eq_false'] at first
    rw [isShorter_eq_not_atMost isB isC, Bool.not_eq_false'] at second
    rw [isShorter_eq_not_atMost isA isC, Bool.not_eq_false']
    exact atMost_trans first second

theorem atMost_refl {latency : Latency} (isNumber : latency.isNumber = true) :
    latency.atMost latency = true := by
  obtain ⟨place, isPlace⟩ := Option.isSome_iff_exists.mp isNumber
  exact atMost_iff.mpr ⟨place, place, isPlace, isPlace, by omega⟩

theorem place_eq_of_atMost {first second : Latency} (up : first.atMost second = true)
    (down : second.atMost first = true) : first.place? = second.place? := by
  obtain ⟨place, other, isPlace, isOther, below⟩ := atMost_iff.mp up
  obtain ⟨other', place', isOther', isPlace', above⟩ := atMost_iff.mp down
  obtain rfl : other = other' := Option.some.inj (isOther.symm.trans isOther')
  obtain rfl : place = place' := Option.some.inj (isPlace.symm.trans isPlace')
  rw [isPlace, isOther]
  refine congrArg some (Prod.ext ?_ ?_) <;> omega

/-- The latency is one of the samples, at most so many of them are shorter, and more than so many are
no longer. -/
structure AtRank (rank : Nat) (samples : List Latency) (latency : Latency) : Prop where
  kept : latency ∈ samples
  shorter : (samples.countP fun sample => sample.isShorter latency) ≤ rank
  noLonger : rank + 1 ≤ samples.countP fun sample => sample.atMost latency

namespace AtRank

variable {samples other : List Latency} {rank : Nat} {latency : Latency}

instance : Decidable (AtRank rank samples latency) :=
  decidable_of_iff (latency ∈ samples ∧
      (samples.countP fun sample => sample.isShorter latency) ≤ rank ∧
      rank + 1 ≤ samples.countP fun sample => sample.atMost latency)
    ⟨fun ⟨kept, shorter, noLonger⟩ => ⟨kept, shorter, noLonger⟩,
      fun ⟨kept, shorter, noLonger⟩ => ⟨kept, shorter, noLonger⟩⟩

theorem of_perm (atRank : AtRank rank samples latency) (perm : samples.Perm other) :
    AtRank rank other latency := by
  obtain ⟨kept, shorter, noLonger⟩ := atRank
  rw [perm.countP_eq] at shorter noLonger
  exact ⟨perm.mem_iff.mp kept, shorter, noLonger⟩

/-- What stands at a rank is no longer than what stands at a higher one: otherwise whatever is no
longer than the second would be shorter than the first. -/
theorem atMost {higher : Nat} {longer : Latency} (numbers : AllNumbers samples)
    (low : AtRank rank samples latency) (high : AtRank higher samples longer)
    (below : rank ≤ higher) : latency.atMost longer = true := by
  cases notAtMost : latency.atMost longer with
  | true => rfl
  | false =>
      have fewer : (samples.countP fun sample => sample.atMost longer) ≤
          samples.countP fun sample => sample.isShorter latency := by
        apply List.countP_mono_left
        intro sample member noLonger
        rw [isShorter_eq_not_atMost (numbers latency low.kept) (numbers sample member),
          Bool.not_eq_true']
        cases long : latency.atMost sample with
        | false => rfl
        | true => rw [atMost_trans long noLonger] at notAtMost; cases notAtMost
      have shorter := low.shorter
      have noLonger := high.noLonger
      omega

/-- A rank has one amount. -/
theorem place_eq {second : Latency} (numbers : AllNumbers samples)
    (first : AtRank rank samples latency) (again : AtRank rank samples second) :
    latency.place? = second.place? :=
  place_eq_of_atMost (first.atMost numbers again (Nat.le_refl rank))
    (again.atMost numbers first (Nat.le_refl rank))

theorem of_sorted (numbers : AllNumbers samples) (sorted : Sorting.InOrder isShorter samples)
    (inside : rank < samples.length) : AtRank rank samples samples[rank] := by
  have isNumber (index : Nat) (bound : index < samples.length) : samples[index].isNumber = true :=
    numbers _ (List.getElem_mem bound)
  have ordered (first second : Nat) (bound : second < samples.length) (before : first ≤ second) :
      samples[first].atMost samples[second] = true := by
    rcases Nat.lt_or_eq_of_le before with earlier | same
    · have notLess := List.pairwise_iff_getElem.mp sorted first second (by omega) bound earlier
      rwa [isShorter_eq_not_atMost (isNumber _ _) (isNumber _ _), Bool.not_eq_false'] at notLess
    · subst same
      exact atMost_refl (isNumber first bound)
  refine ⟨List.getElem_mem inside, ?_, ?_⟩
  · -- Behind the rank nothing is shorter.
    have behind :
        ((samples.drop rank).countP fun sample => sample.isShorter samples[rank]) = 0 := by
      rw [List.countP_eq_zero]
      intro sample member
      obtain ⟨index, bound, rfl⟩ := List.getElem_of_mem member
      rw [List.length_drop] at bound
      rw [List.getElem_drop, isShorter_eq_not_atMost (isNumber _ _) (isNumber _ _)]
      simp [ordered rank (rank + index) (by omega) (by omega)]
    have before := List.countP_le_length (p := fun sample => sample.isShorter samples[rank])
      (l := samples.take rank)
    rw [List.length_take] at before
    have split := congrArg (List.countP fun sample => sample.isShorter samples[rank])
      (List.take_append_drop rank samples)
    rw [List.countP_append, behind] at split
    omega
  · -- Up to the rank nothing is longer.
    have upTo : ((samples.take (rank + 1)).countP fun sample => sample.atMost samples[rank]) =
        rank + 1 := by
      rw [List.countP_eq_length.mpr, List.length_take]
      · omega
      · intro sample member
        obtain ⟨index, bound, rfl⟩ := List.getElem_of_mem member
        rw [List.length_take] at bound
        rw [List.getElem_take]
        exact ordered index rank inside (by omega)
    have split := congrArg (List.countP fun sample => sample.atMost samples[rank])
      (List.take_append_drop (rank + 1) samples)
    rw [List.countP_append, upTo] at split
    omega

end AtRank

end Latency

/-! ## Percentiles -/

namespace Metrics

open Latency

theorem sort_samples_perm (samples : List Latency) : (sortSamples samples).Perm samples :=
  Sorting.sort_perm isShorter samples

theorem sorted_samples {samples : List Latency} (numbers : AllNumbers samples) :
    Sorting.InOrder isShorter (sortSamples samples) :=
  compares_numbers.in_order_sort samples numbers

/-- A position among the samples, as the product of doubles gives it for every number of them, and the
fraction that it is meant to be. -/
structure IsFraction (fraction : Binary64) (numerator denominator : Nat) : Prop where
  proper : numerator < denominator
  rank : ∀ count < sampleLimit + 1, Metrics.rank fraction count = count * numerator / denominator

theorem half_is_fraction : IsFraction half 1 2 :=
  ⟨by decide, by decide +kernel⟩

theorem nineteen_twentieths_is_fraction : IsFraction nineteenTwentieths 19 20 :=
  ⟨by decide, by decide +kernel⟩

theorem ninety_nine_hundredths_is_fraction : IsFraction ninetyNineHundredths 99 100 :=
  ⟨by decide, by decide +kernel⟩

theorem percentile_nil (fraction : Binary64) : percentile fraction [] = none :=
  rfl

/-- Below the whole, a fraction of the samples ends before their last one. -/
theorem IsFraction.within {fraction : Binary64} {numerator denominator : Nat}
    (isFraction : IsFraction fraction numerator denominator) {count : Nat} (some : 0 < count) :
    count * numerator / denominator < count := by
  have proper := Nat.mul_lt_mul_of_pos_right isFraction.proper some
  exact Nat.div_lt_of_lt_mul (by rwa [Nat.mul_comm])

theorem IsFraction.percentile {fraction : Binary64} {numerator denominator : Nat}
    (isFraction : IsFraction fraction numerator denominator) {samples : List Latency}
    (some : samples ≠ []) (few : samples.length ≤ sampleLimit) :
    ∃ latency, percentile fraction samples = .some latency ∧ latency ∈ samples ∧
      samples.length * numerator / denominator < samples.length ∧
      (AllNumbers samples → AtRank (samples.length * numerator / denominator) samples latency) := by
  have within := isFraction.within (List.length_pos_iff.mpr some)
  have perm := sort_samples_perm samples
  have inside : samples.length * numerator / denominator < (sortSamples samples).length := by
    rwa [perm.length_eq]
  refine ⟨(sortSamples samples)[samples.length * numerator / denominator], ?_,
    perm.mem_iff.mp (List.getElem_mem inside), within, ?_⟩
  · rw [Metrics.percentile, isFraction.rank samples.length (Nat.lt_succ_of_le few),
      List.getElem?_eq_getElem inside]
  · intro numbers
    have sorted : AllNumbers (sortSamples samples) := fun latency member =>
      numbers latency (perm.mem_iff.mp member)
    exact (AtRank.of_sorted sorted (sorted_samples numbers) inside).of_perm perm

/-- The amount of a percentile does not depend on the order of the samples. -/
theorem IsFraction.place_of_perm {fraction : Binary64} {numerator denominator : Nat}
    (isFraction : IsFraction fraction numerator denominator) {samples other : List Latency}
    (few : samples.length ≤ sampleLimit) (numbers : AllNumbers samples)
    (perm : other.Perm samples) :
    (Metrics.percentile fraction other).map place? =
      (Metrics.percentile fraction samples).map place? := by
  by_cases empty : samples = []
  · subst empty
    rw [perm.eq_nil]
  · have filled : other ≠ [] := by
      intro nil
      subst nil
      exact empty perm.symm.eq_nil
    have numbers' : AllNumbers other := fun latency member =>
      numbers latency (perm.mem_iff.mp member)
    obtain ⟨latency, found, -, -, atRank⟩ := isFraction.percentile empty few
    obtain ⟨second, foundSecond, -, -, atRankSecond⟩ :=
      isFraction.percentile filled (perm.length_eq ▸ few)
    rw [perm.length_eq] at atRankSecond
    rw [found, foundSecond, Option.map_some, Option.map_some,
      AtRank.place_eq numbers ((atRankSecond numbers').of_perm perm) (atRank numbers)]

def amounts (metrics : Metrics) : List (String × Option (Option (Int × Int))) :=
  metrics.latencies.map fun entry => (entry.1, entry.2.map place?)

/-- However many events are recorded, the samples are the last thousand latencies or all of them, and
all events are counted. Without events there are no percentiles. Otherwise each percentile is one of
the samples, and its position never lies behind the last one. If all samples are numbers, each stands
at its rank, they rise with the rank, and their amounts are the same for every order of the samples. -/
theorem percentiles_are_exact (records : List ApplyRecord) :
    let metrics := zero.recordAll records
    let kept := metrics.samples
    let count := kept.length
    (metrics.eventsApplied = records.length ∧ count = min records.length 1000 ∧
      kept = (records.map ApplyRecord.latency).drop (records.length - 1000)) ∧
    (records = [] → metrics.latencies =
      [("apply_latency_p50_ms", none), ("apply_latency_p95_ms", none),
       ("apply_latency_p99_ms", none)]) ∧
    (records ≠ [] → ∃ middle high highest,
      metrics.latencies =
        [("apply_latency_p50_ms", some middle), ("apply_latency_p95_ms", some high),
         ("apply_latency_p99_ms", some highest)] ∧
      (middle ∈ kept ∧ count / 2 < count) ∧
      (high ∈ kept ∧ count * 19 / 20 < count) ∧
      (highest ∈ kept ∧ count * 99 / 100 < count) ∧
      (AllNumbers kept →
        AtRank (count / 2) kept middle ∧ AtRank (count * 19 / 20) kept high ∧
        AtRank (count * 99 / 100) kept highest ∧
        middle.atMost high = true ∧ high.atMost highest = true)) ∧
    (AllNumbers kept → ∀ other : List Latency, other.Perm kept →
      ({ metrics with samples := other } : Metrics).amounts = metrics.amounts) := by
  intro metrics kept count
  have window : Window (records.map ApplyRecord.latency) metrics := window_zero.record_all records
  have applied : metrics.eventsApplied = records.length := by
    rw [window.applied, List.length_map]
  have samples : kept = (records.map ApplyRecord.latency).drop (records.length - 1000) := by
    have last := window.samples
    rwa [lastSamples, List.length_map] at last
  have counted : count = min records.length 1000 := by
    have bounded := length_last_samples (records.map ApplyRecord.latency)
    rwa [← window.samples, List.length_map] at bounded
  have few : kept.length ≤ sampleLimit := by
    have least := Nat.min_le_right records.length 1000
    rwa [← counted] at least
  refine ⟨⟨applied, counted, samples⟩, ?_, ?_, ?_⟩
  · intro none
    have empty : metrics.samples = [] := by rw [window.samples, none]; rfl
    simp only [latencies, empty, percentile_nil]
  · intro some
    have filled : kept ≠ [] := by
      intro nil
      have recorded := List.length_pos_iff.mpr some
      have noSample : count = 0 := congrArg List.length nil
      omega
    obtain ⟨middle, isMiddle, keptMiddle, within, atMiddle⟩ :=
      half_is_fraction.percentile filled few
    obtain ⟨high, isHigh, keptHigh, withinHigh, atHigh⟩ :=
      nineteen_twentieths_is_fraction.percentile filled few
    obtain ⟨highest, isHighest, keptHighest, withinHighest, atHighest⟩ :=
      ninety_nine_hundredths_is_fraction.percentile filled few
    rw [Nat.mul_one] at within atMiddle
    refine ⟨middle, high, highest, ?_, ⟨keptMiddle, within⟩, ⟨keptHigh, withinHigh⟩,
      ⟨keptHighest, withinHighest⟩, ?_⟩
    · simp only [latencies, kept] at isMiddle isHigh isHighest ⊢
      rw [isMiddle, isHigh, isHighest]
    · intro numbers
      refine ⟨atMiddle numbers, atHigh numbers, atHighest numbers,
        (atMiddle numbers).atMost numbers (atHigh numbers) ?_,
        (atHigh numbers).atMost numbers (atHighest numbers) ?_⟩
      · omega
      · omega
  · intro numbers other perm
    simp only [amounts, latencies, List.map_cons, List.map_nil,
      half_is_fraction.place_of_perm few numbers perm,
      nineteen_twentieths_is_fraction.place_of_perm few numbers perm,
      ninety_nine_hundredths_is_fraction.place_of_perm few numbers perm]
    rfl

def relayedIn (latency : Latency) : ApplyRecord :=
  ⟨"RelayMessage", "CREATED", 7, latency⟩

/-- Three events, the second of which took the least time. -/
theorem percentiles_are_exact_three :
    let records := [relayedIn (.whole 9), relayedIn (.double (.finite false 5 (-1))),
      relayedIn (.whole 4)]
    records ≠ [] ∧ AllNumbers (zero.recordAll records).samples ∧ ∃ middle high highest,
      (zero.recordAll records).latencies =
        [("apply_latency_p50_ms", some middle), ("apply_latency_p95_ms", some high),
         ("apply_latency_p99_ms", some highest)] ∧
      AtRank 1 (zero.recordAll records).samples middle ∧
      AtRank 2 (zero.recordAll records).samples high ∧
      AtRank 2 (zero.recordAll records).samples highest := by
  intro records
  have filled : records ≠ [] := by simp [records]
  have three : min records.length 1000 = 3 := rfl
  have numbers : AllNumbers (zero.recordAll records).samples := by decide
  obtain ⟨⟨-, counted, -⟩, -, told, -⟩ := percentiles_are_exact records
  obtain ⟨middle, high, highest, isTold, -, -, -, ranked⟩ := told filled
  obtain ⟨atMiddle, atHigh, atHighest, -⟩ := ranked numbers
  rw [counted, three] at atMiddle atHigh atHighest
  exact ⟨filled, numbers, middle, high, highest, isTold, atMiddle, atHigh, atHighest⟩

/-- Two milliseconds, no number, and one millisecond 99 times over. No comparison tells the list to be
out of order, so that it stays as it is: the highest percentile is one millisecond, though a rank of 99
among 101 samples is that of the two. -/
theorem percentiles_of_unordered_samples :
    let records := (.whole 2 :: .double .undefined :: List.replicate 99 (.whole 1)).map relayedIn
    let kept := (zero.recordAll records).samples
    kept.length * 99 / 100 = 99 ∧
    (zero.recordAll records).latencies =
      [("apply_latency_p50_ms", some (.whole 1)), ("apply_latency_p95_ms", some (.whole 1)),
       ("apply_latency_p99_ms", some (.whole 1))] ∧
    ¬ AtRank 99 kept (.whole 1) ∧ AtRank 99 kept (.whole 2) := by
  decide +kernel

end Metrics

end BridgeState
