/-!
# Sorting by comparisons

A list is sorted by asking whether one item is less than another, and by nothing else. The run at its
start is taken as it is, or turned round if every item of it is less than the one before; the items
behind the run are inserted one by one, each at the place that halving finds. Where all items can be
compared, the result is in order: `Compares.in_order_sort`. Items of which neither is less than the
other stay wherever the answers leave them. A list of `mergeLimit` items or more that is not one run is
merged; if some of its items cannot be compared, no more is told of the result than that it holds the
same items: `sort_perm`.
-/

namespace BridgeState.Sorting

set_option autoImplicit false

variable {α : Type}

/-! ## Runs -/

/-- Splits a list behind the items that each join the one before. -/
def splitRun (joins : α → α → Bool) (last : α) : List α → List α × List α
  | [] => ([], [])
  | item :: rest =>
    if joins last item then (item :: (splitRun joins item rest).1, (splitRun joins item rest).2)
    else ([], item :: rest)

theorem split_run_append (joins : α → α → Bool) (last : α) (items : List α) :
    (splitRun joins last items).1 ++ (splitRun joins last items).2 = items := by
  induction items generalizing last with
  | nil => rfl
  | cons item rest ih =>
      rw [splitRun]
      split
      · rw [List.cons_append, ih]
      · rfl

/-- If joining is transitive, each item of a run joins all before it. -/
theorem pairwise_split_run (joins : α → α → Bool) {among : α → Prop}
    (trans : ∀ a b c, among a → among b → among c →
      joins a b = true → joins b c = true → joins a c = true)
    (last : α) (items : List α) (all : ∀ item ∈ last :: items, among item) :
    (last :: (splitRun joins last items).1).Pairwise fun first second =>
      joins first second = true := by
  induction items generalizing last with
  | nil => exact List.pairwise_singleton _ last
  | cons item rest ih =>
      rw [splitRun]
      split
      · rename_i joined
        have run := ih item fun other member => all other (List.mem_cons_of_mem last member)
        refine List.pairwise_cons.mpr ⟨?_, run⟩
        intro other member
        rcases List.mem_cons.mp member with rfl | behind
        · exact joined
        · have inRest : other ∈ rest := by
            rw [← split_run_append joins item rest]
            exact List.mem_append_left _ behind
          exact trans last item other (all last (by simp)) (all item (by simp))
            (all other (by simp [inRest])) joined ((List.pairwise_cons.mp run).1 other behind)
      · exact List.pairwise_singleton _ last

/-! ## Places -/

/-- The place that halving finds between two others, given which places an item goes before. -/
def bisect (goesBefore : Nat → Bool) (low high : Nat) : Nat :=
  if low < high then
    if goesBefore ((low + high) / 2) then bisect goesBefore low ((low + high) / 2)
    else bisect goesBefore ((low + high) / 2 + 1) high
  else low
termination_by high - low

/-- If an item goes before all places behind one that it goes before, then the place is the first of
them. -/
theorem bisect_is_first (goesBefore : Nat → Bool) (bound : Nat)
    (rising : ∀ first second, first < second → second < bound →
      goesBefore first = true → goesBefore second = true)
    (low high : Nat) (within : low ≤ high) (bounded : high ≤ bound)
    (below : ∀ index, index < low → goesBefore index = false)
    (above : ∀ index, high ≤ index → index < bound → goesBefore index = true) :
    (∀ index, index < bisect goesBefore low high → goesBefore index = false) ∧
      ∀ index, bisect goesBefore low high ≤ index → index < bound → goesBefore index = true := by
  induction low, high using bisect.induct goesBefore with
  | case1 low high open' isBefore ih =>
      rw [bisect, if_pos open', if_pos isBefore]
      refine ih (by omega) (by omega) below ?_
      intro index least most
      rcases Nat.lt_or_eq_of_le least with later | same
      · exact rising _ index later most isBefore
      · exact same ▸ isBefore
  | case2 low high open' notBefore ih =>
      rw [bisect, if_pos open', if_neg notBefore]
      refine ih (by omega) bounded ?_ above
      intro index most
      rcases Nat.lt_or_eq_of_le (show index ≤ (low + high) / 2 by omega) with earlier | same
      · cases found : goesBefore index with
        | false => rfl
        | true => exact absurd (rising index _ earlier (by omega) found) notBefore
      · exact same ▸ Bool.eq_false_iff.mpr notBefore
  | case3 low high closed =>
      rw [bisect, if_neg closed]
      have same : low = high := by omega
      exact ⟨below, same ▸ above⟩

/-! ## The sorted list -/

section ByComparison

variable (less : α → α → Bool)

/-- The run at the start of a list, put in order, and the items behind it. -/
def firstRun : List α → List α × List α
  | first :: second :: rest =>
    if less second first then
      let (run, behind) := splitRun (fun last item => less item last) first (second :: rest)
      ((first :: run).reverse, behind)
    else
      let (run, behind) := splitRun (fun last item => !less item last) first (second :: rest)
      (first :: run, behind)
  | few => (few, [])

/-- Where an item goes in a list that is in order: behind all that are not greater. -/
def placeOf (item : α) (sorted : List α) : Nat :=
  bisect (fun index => sorted[index]?.any (less item)) 0 sorted.length

def insert (item : α) (sorted : List α) : List α :=
  sorted.take (placeOf less item sorted) ++ item :: sorted.drop (placeOf less item sorted)

def insertAll (items sorted : List α) : List α :=
  items.foldl (fun sorted item => insert less item sorted) sorted

def mergeLimit : Nat := 64

def sort (items : List α) : List α :=
  let (run, rest) := firstRun less items
  if rest.isEmpty then run
  else if items.length < mergeLimit then insertAll less rest run
  else items.mergeSort fun first second => !less second first

theorem first_run_perm (items : List α) :
    ((firstRun less items).1 ++ (firstRun less items).2).Perm items := by
  unfold firstRun
  split
  · split
    · refine ((List.reverse_perm _).append_right _).trans (List.Perm.of_eq ?_)
      rw [List.cons_append, split_run_append]
    · refine List.Perm.of_eq ?_
      rw [List.cons_append, split_run_append]
  · rw [List.append_nil]

theorem insert_perm (item : α) (sorted : List α) :
    (insert less item sorted).Perm (item :: sorted) := by
  refine List.perm_middle.trans ?_
  rw [List.take_append_drop]

theorem insert_all_perm (items sorted : List α) :
    (insertAll less items sorted).Perm (sorted ++ items) := by
  induction items generalizing sorted with
  | nil => rw [List.append_nil, insertAll, List.foldl_nil]
  | cons item rest ih =>
      refine (ih (insert less item sorted)).trans ?_
      refine ((insert_perm less item sorted).append_right rest).trans ?_
      exact List.perm_middle.symm

theorem sort_perm (items : List α) : (sort less items).Perm items := by
  have parts := first_run_perm less items
  simp only [sort]
  split
  · rename_i whole
    rwa [List.isEmpty_iff.mp whole, List.append_nil] at parts
  · split
    · exact (insert_all_perm less _ _).trans parts
    · exact List.mergeSort_perm items _

end ByComparison

/-- No item is less than one before it. -/
def InOrder (less : α → α → Bool) (items : List α) : Prop :=
  items.Pairwise fun first second => less second first = false

/-- The items that are admitted can be compared. -/
structure Compares (less : α → α → Bool) (among : α → Prop) : Prop where
  asymm : ∀ a b, among a → among b → less a b = true → less b a = false
  trans : ∀ a b c, among a → among b → among c →
    less b a = false → less c b = false → less c a = false

namespace Compares

variable {less : α → α → Bool} {among : α → Prop}

theorem less_trans (compares : Compares less among) {a b c : α} (isA : among a) (isB : among b)
    (isC : among c) (first : less a b = true) (second : less b c = true) : less a c = true := by
  cases notLess : less a c with
  | true => rfl
  | false =>
      have notFirst := compares.trans b c a isB isC isA (compares.asymm b c isB isC second) notLess
      rw [first] at notFirst
      cases notFirst

theorem in_order_first_run (compares : Compares less among) (items : List α)
    (all : ∀ item ∈ items, among item) : InOrder less (firstRun less items).1 := by
  match items with
  | [] => exact List.Pairwise.nil
  | [item] => exact List.pairwise_singleton _ item
  | first :: second :: rest =>
      simp only [firstRun]
      split
      · -- A falling run is turned round.
        have falls := pairwise_split_run (fun last item => less item last)
          (fun a b c isA isB isC first second => compares.less_trans isC isB isA second first)
          first (second :: rest) all
        refine List.pairwise_reverse.mpr (falls.imp_of_mem ?_)
        intro earlier later inRun inRun' isLess
        have admitted (item : α) (member : item ∈ first :: (splitRun (fun last item =>
            less item last) first (second :: rest)).1) : among item := by
          refine all item ?_
          rw [← split_run_append (fun last item => less item last) first (second :: rest)]
          exact List.mem_append_left _ member
        exact compares.asymm later earlier (admitted later inRun') (admitted earlier inRun) isLess
      · have rises := pairwise_split_run (fun last item => !less item last)
          (fun a b c isA isB isC first second => by
            rw [Bool.not_eq_true'] at first second ⊢
            exact compares.trans a b c isA isB isC first second)
          first (second :: rest) all
        exact rises.imp fun notLess => Bool.not_eq_true' _ ▸ notLess

/-- In a list that is in order, an item goes before all behind one that it is less than. -/
theorem less_of_less (compares : Compares less among) {item : α} {sorted : List α}
    (all : ∀ other ∈ item :: sorted, among other) (inOrder : InOrder less sorted)
    {first second : Nat} (earlier : first < second) (bound : second < sorted.length)
    (isLess : less item sorted[first] = true) : less item sorted[second] = true := by
  have isOther (index : Nat) (bound : index < sorted.length) : among sorted[index] :=
    all _ (List.mem_cons_of_mem item (List.getElem_mem bound))
  cases notLess : less item sorted[second] with
  | true => rfl
  | false =>
      have between := List.pairwise_iff_getElem.mp inOrder first second (by omega) bound earlier
      have notFirst := compares.trans _ _ item (isOther first (by omega)) (isOther second bound)
        (all item List.mem_cons_self) between notLess
      rw [isLess] at notFirst
      cases notFirst

theorem in_order_insert (compares : Compares less among) (item : α) (sorted : List α)
    (all : ∀ other ∈ item :: sorted, among other) (inOrder : InOrder less sorted) :
    InOrder less (insert less item sorted) := by
  have isItem : among item := all item List.mem_cons_self
  have asked (index : Nat) (bound : index < sorted.length) :
      (sorted[index]?.any (less item)) = less item sorted[index] := by
    rw [List.getElem?_eq_getElem bound, Option.any_some]
  obtain ⟨before, behind⟩ := bisect_is_first
    (fun index => sorted[index]?.any (less item)) sorted.length
    (fun first second earlier bound goesBefore => by
      rw [asked first (by omega)] at goesBefore
      rw [asked second bound]
      exact compares.less_of_less all inOrder earlier bound goesBefore)
    0 sorted.length (Nat.zero_le _) (Nat.le_refl _) (fun index most => by omega)
    (fun index least most => by omega)
  have parts := inOrder
  rw [InOrder, ← List.take_append_drop (placeOf less item sorted) sorted,
    List.pairwise_append] at parts
  obtain ⟨ordered, orderedBehind, across⟩ := parts
  refine List.pairwise_append.mpr ⟨ordered, List.pairwise_cons.mpr ⟨?_, orderedBehind⟩, ?_⟩
  · intro other member
    obtain ⟨index, bound, rfl⟩ := List.mem_drop_iff_getElem.mp member
    have inside : placeOf less item sorted + index < sorted.length := by omega
    have isLess := behind (placeOf less item sorted + index) (Nat.le_add_right _ _) inside
    rw [asked _ inside] at isLess
    exact compares.asymm item _ isItem
      (all _ (List.mem_cons_of_mem item (List.getElem_mem inside))) isLess
  · intro other member greater isGreater
    rcases List.mem_cons.mp isGreater with rfl | inRest
    · obtain ⟨index, bound, rfl⟩ := List.mem_take_iff_getElem.mp member
      have notLess := before index (by rw [Nat.lt_min] at bound; exact bound.1)
      rwa [asked index (by rw [Nat.lt_min] at bound; exact bound.2)] at notLess
    · exact across other member greater inRest

theorem in_order_insert_all (compares : Compares less among) (items sorted : List α)
    (all : ∀ item ∈ sorted ++ items, among item) (inOrder : InOrder less sorted) :
    InOrder less (insertAll less items sorted) := by
  induction items generalizing sorted with
  | nil => exact inOrder
  | cons item rest ih =>
      have moved := (insert_perm less item sorted).append_right rest
      refine ih (insert less item sorted) ?_ (compares.in_order_insert item sorted ?_ inOrder)
      · intro other member
        exact all other (List.perm_middle.symm.mem_iff.mp (moved.mem_iff.mp member))
      · intro other member
        refine all other ?_
        rcases List.mem_cons.mp member with rfl | isOther
        · simp
        · exact List.mem_append_left _ isOther

/-- Merging asks only of the items of the list, so that it is enough if these can be compared. -/
theorem in_order_merged (compares : Compares less among) (items : List α)
    (all : ∀ item ∈ items, among item) :
    InOrder less (items.mergeSort fun first second => !less second first) := by
  have merged : (items.mergeSort fun first second => !less second first) =
      ((items.attachWith among all).mergeSort fun first second =>
        !less second.val first.val).map Subtype.val := by
    rw [List.map_mergeSort (s := fun first second => !less second first)
      fun first _ second _ => rfl, List.attachWith_map_subtype_val]
  rw [merged]
  refine List.pairwise_map.mpr (List.Pairwise.imp ?_ (List.pairwise_mergeSort ?_ ?_ _))
  · intro first second notLess
    rwa [Bool.not_eq_true'] at notLess
  · intro a b c first second
    rw [Bool.not_eq_true'] at first second ⊢
    exact compares.trans a b c a.property b.property c.property first second
  · intro a b
    cases isLess : less b.val a.val with
    | false => simp
    | true => simp [compares.asymm b a b.property a.property isLess]

/-- Where all items can be compared, the sorted list is in order. -/
theorem in_order_sort (compares : Compares less among) (items : List α)
    (all : ∀ item ∈ items, among item) : InOrder less (sort less items) := by
  have run := compares.in_order_first_run items all
  have parts := first_run_perm less items
  simp only [sort]
  split
  · exact run
  · split
    · refine compares.in_order_insert_all _ _ ?_ run
      intro item member
      exact all item (parts.mem_iff.mp member)
    · exact compares.in_order_merged items all

end Compares

end BridgeState.Sorting
