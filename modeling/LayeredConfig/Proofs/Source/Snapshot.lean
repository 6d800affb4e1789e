/-
**Adding sources one by one is the same as having them from the start.**

A snapshot holds the first occurrence of every instance (`firstOccurrences`), sorted by rank and name
(`Handle.precedence`), where instances that share both stay in the order in which they came.

* `insert_ofList`: one more instance inserts as if it had stood behind the others;
* `distinctFrom_append`, `filter_distinctFrom_congr`: what instances behind others contribute, by
  precedence;
* `snapshot_addAll`: any instances, given at once or added later, make one and the same snapshot. So
  the order of adding does not matter where precedence tells the added instances apart.
-/

import LayeredConfig.Proofs.Sorting.Stable
import LayeredConfig.Source.SourceSet
import Mathlib.Data.List.Induction
import Mathlib.Data.Prod.Lex
import Mathlib.Data.String.Basic

namespace LayeredConfig.Source

open LayeredConfig.Sorting

/-! ## Part 1 — precedence -/

/-- Rank and name of a source; the greater pair takes precedence. -/
def Handle.precedence (handle : Handle) : ℤ ×ₗ String :=
  toLex (handle.source.ordinal, handle.source.name)

theorem precedes_eq (first second : Handle) :
    precedes first second = decide (second.precedence ≤ first.precedence) := by
  rw [Bool.eq_iff_iff, decide_eq_true_eq, Handle.precedence, Handle.precedence, Prod.Lex.toLex_le_toLex]
  simp only [precedes, Bool.or_eq_true, Bool.and_eq_true, decide_eq_true_eq, beq_iff_eq]
  constructor
  · rintro (lower | ⟨same, name⟩)
    · exact .inl lower
    · exact .inr ⟨same.symm, name⟩
  · rintro (lower | ⟨same, name⟩)
    · exact .inl lower
    · exact .inr ⟨same.symm, name⟩

theorem mergeSort_precedes (handles : List Handle) :
    handles.mergeSort precedes = byRank Handle.precedence handles := by
  have same : precedes = fun first second => decide (second.precedence ≤ first.precedence) := by
    funext first second
    exact precedes_eq first second
  rw [same]
  rfl

/-! ## Part 2 — first occurrences -/

/-- The instances of some handles. -/
def identities (handles : List Handle) : List Identity := handles.map Handle.identity

/-- The handles in front of which no other one is of the same instance. -/
def firstOccurrences (handles : List Handle) : List Handle :=
  (handles.zipIdx.filter fun entry => entry.1.identity ∉ identities (handles.take entry.2)).map
    Prod.fst

theorem firstOccurrences_append_singleton (handles : List Handle) (handle : Handle) :
    firstOccurrences (handles ++ [handle])
      = firstOccurrences handles ++ if handle.identity ∈ identities handles then [] else [handle] := by
  have before : handles.zipIdx.filter
        (fun entry => decide (entry.1.identity ∉ identities ((handles ++ [handle]).take entry.2)))
      = handles.zipIdx.filter
        (fun entry => decide (entry.1.identity ∉ identities (handles.take entry.2))) := by
    refine List.filter_congr fun entry member => ?_
    have inside : entry.2 < handles.length := by
      have bounds := List.mem_zipIdx (x := entry.1) (i := entry.2) member
      omega
    rw [List.take_append_of_le_length inside.le]
  rw [firstOccurrences, List.zipIdx_append, List.filter_append, before, List.map_append]
  refine congrArg (firstOccurrences handles ++ ·) ?_
  simp only [List.zipIdx_singleton, List.filter_singleton, Nat.zero_add, List.take_left]
  by_cases known : handle.identity ∈ identities handles
  · simp [known]
  · simp [known]

theorem distinctFrom_append (seen : List Identity) (first second : List Handle) :
    distinctFrom seen (first ++ second)
      = distinctFrom seen first
        ++ distinctFrom ((identities (distinctFrom seen first)).reverse ++ seen) second := by
  induction first generalizing seen with
  | nil => rfl
  | cons handle rest hypothesis =>
    by_cases known : handle.identity ∈ seen
    · simp only [List.cons_append, distinctFrom, if_pos known, hypothesis]
    · simp only [List.cons_append, distinctFrom, if_neg known, hypothesis, identities, List.map_cons,
        List.reverse_cons, List.append_assoc, List.nil_append]

theorem mem_identities_distinctFrom (seen : List Identity) (handles : List Handle)
    (identity : Identity) :
    identity ∈ identities (distinctFrom seen handles)
      ↔ identity ∈ identities handles ∧ identity ∉ seen := by
  induction handles generalizing seen with
  | nil => simp [distinctFrom, identities]
  | cons handle rest hypothesis =>
    unfold identities at hypothesis ⊢
    by_cases known : handle.identity ∈ seen
    · rw [distinctFrom, if_pos known, hypothesis, List.map_cons, List.mem_cons]
      constructor
      · exact fun ⟨member, new⟩ => ⟨.inr member, new⟩
      · rintro ⟨rfl | member, new⟩
        · exact absurd known new
        · exact ⟨member, new⟩
    · rw [distinctFrom, if_neg known, List.map_cons, List.map_cons, List.mem_cons, List.mem_cons,
        hypothesis, List.mem_cons]
      by_cases same : identity = handle.identity
      · simp [same, known]
      · simp [same]

theorem mem_identities_distinct (handles : List Handle) (identity : Identity) :
    identity ∈ identities (distinct handles) ↔ identity ∈ identities handles :=
  (mem_identities_distinctFrom [] handles identity).trans (and_iff_left List.not_mem_nil)

theorem distinct_append_singleton (handles : List Handle) (handle : Handle) :
    distinct (handles ++ [handle])
      = distinct handles ++ if handle.identity ∈ identities handles then [] else [handle] := by
  rw [distinct, distinctFrom_append, distinct]
  refine congrArg (distinctFrom [] handles ++ ·) ?_
  have known := mem_identities_distinct handles handle.identity
  unfold distinct at known
  simp only [distinctFrom, List.append_nil, List.mem_reverse, known]

theorem distinct_eq_firstOccurrences (handles : List Handle) :
    distinct handles = firstOccurrences handles := by
  induction handles using List.reverseRecOn with
  | nil => rfl
  | append_singleton handles handle hypothesis =>
    rw [distinct_append_singleton, firstOccurrences_append_singleton, hypothesis]

/-! ## Part 3 — one instance after the other -/

theorem handles_ofList (handles : List Handle) :
    (SourceSet.ofList handles).handles = byRank Handle.precedence (distinct handles) :=
  mergeSort_precedes _

theorem mem_identities_ofList (handles : List Handle) (identity : Identity) :
    identity ∈ identities (SourceSet.ofList handles).handles ↔ identity ∈ identities handles := by
  have permuted : (identities (SourceSet.ofList handles).handles).Perm
      (identities (distinct handles)) := (List.mergeSort_perm _ _).map _
  rw [permuted.mem_iff, mem_identities_distinct]

theorem ofList_singleton (handle : Handle) : SourceSet.ofList [handle] = ⟨[handle]⟩ := by
  have alone : distinct [handle] = [handle] := rfl
  rw [SourceSet.ofList, alone, List.mergeSort_singleton]

theorem contains_eq (set : SourceSet) (handle : Handle) :
    set.contains handle = decide (handle.identity ∈ identities set.handles) := by
  rw [Bool.eq_iff_iff, decide_eq_true_eq, SourceSet.contains, List.any_eq_true, identities,
    List.mem_map]
  simp only [beq_iff_eq]

/-- **One more instance inserts as if it had stood behind the others.** -/
theorem insert_ofList (handles : List Handle) (handle : Handle) :
    (SourceSet.ofList handles).insert handle = SourceSet.ofList (handles ++ [handle]) := by
  have there := mem_identities_ofList handles handle.identity
  rw [SourceSet.insert, contains_eq]
  by_cases known : handle.identity ∈ identities handles
  · rw [if_pos (decide_eq_true (there.mpr known)), SourceSet.ofList, SourceSet.ofList,
      distinct_append_singleton, if_pos known, List.append_nil]
  · have absent : ¬ decide (handle.identity ∈ identities (SourceSet.ofList handles).handles) = true :=
      fun claimed => known (there.mp (of_decide_eq_true claimed))
    rw [if_neg absent, SourceSet.ofList, SourceSet.ofList, distinct_append_singleton, if_neg known,
      mergeSort_precedes, mergeSort_precedes, mergeSort_precedes, byRank_append_byRank]

/-- The set of some instances to which others are added one by one. -/
def SourceSet.addAll (initial added : List Handle) : SourceSet :=
  added.foldl (fun set handle => (set.add handle).result.2) (SourceSet.new initial).result

theorem addAll_eq_ofList (initial added : List Handle) :
    SourceSet.addAll initial added = SourceSet.ofList (initial ++ added) := by
  induction added using List.reverseRecOn with
  | nil => exact congrArg SourceSet.ofList (List.append_nil initial).symm
  | append_singleton added handle hypothesis =>
    rw [SourceSet.addAll, List.foldl_append, ← SourceSet.addAll, hypothesis, ← List.append_assoc]
    exact insert_ofList (initial ++ added) handle

/-! ## Part 4 — orders of adding -/

theorem distinctFrom_sublist (seen : List Identity) (handles : List Handle) :
    (distinctFrom seen handles).Sublist handles := by
  induction handles generalizing seen with
  | nil => exact .slnil
  | cons handle rest hypothesis =>
    by_cases known : handle.identity ∈ seen
    · rw [distinctFrom, if_pos known]
      exact (hypothesis seen).cons handle
    · rw [distinctFrom, if_neg known]
      exact (hypothesis _).cons_cons handle

theorem mem_of_mem_ofList {handles : List Handle} {handle : Handle}
    (member : handle ∈ (SourceSet.ofList handles).handles) : handle ∈ handles :=
  (distinctFrom_sublist [] handles).mem (List.mem_mergeSort.mp member)

theorem nodup_identities_distinctFrom (seen : List Identity) (handles : List Handle) :
    (identities (distinctFrom seen handles)).Nodup := by
  induction handles generalizing seen with
  | nil => exact List.nodup_nil
  | cons handle rest hypothesis =>
    by_cases known : handle.identity ∈ seen
    · rw [distinctFrom, if_pos known]
      exact hypothesis seen
    · rw [distinctFrom, if_neg known]
      refine List.nodup_cons.mpr ⟨fun again => ?_, hypothesis _⟩
      exact ((mem_identities_distinctFrom _ rest _).mp again).2 List.mem_cons_self

theorem nodup_distinctFrom (seen : List Identity) (handles : List Handle) :
    (distinctFrom seen handles).Nodup :=
  (nodup_identities_distinctFrom seen handles).of_map _

/-- Where an instance has one source, all its handles count or none does. -/
theorem mem_distinctFrom_iff (seen : List Identity) {handles : List Handle}
    (instances : ∀ one ∈ handles, ∀ two ∈ handles, one.identity = two.identity → one = two)
    (handle : Handle) :
    handle ∈ distinctFrom seen handles ↔ handle ∈ handles ∧ handle.identity ∉ seen := by
  constructor
  · intro member
    have listed : handle.identity ∈ identities (distinctFrom seen handles) :=
      List.mem_map_of_mem member
    exact ⟨(distinctFrom_sublist seen handles).mem member,
      ((mem_identities_distinctFrom seen handles _).mp listed).2⟩
  · rintro ⟨member, new⟩
    have listed := (mem_identities_distinctFrom seen handles handle.identity).mpr
      ⟨List.mem_map_of_mem member, new⟩
    obtain ⟨other, kept, same⟩ := List.mem_map.mp listed
    rwa [← instances other ((distinctFrom_sublist seen handles).mem kept) handle member same]

/-- Of instances that precedence tells apart at most one is of each precedence, so that their order
does not show. -/
theorem filter_distinctFrom_congr (seen : List Identity) {first second : List Handle}
    (same : ∀ handle, handle ∈ first ↔ handle ∈ second)
    (instances : ∀ one ∈ first, ∀ two ∈ first, one.identity = two.identity → one = two)
    (apart : ∀ one ∈ first, ∀ two ∈ first, one.identity ≠ two.identity →
      one.precedence ≠ two.precedence)
    (level : ℤ ×ₗ String) :
    (distinctFrom seen first).filter (·.precedence = level)
      = (distinctFrom seen second).filter (·.precedence = level) := by
  have others : ∀ one ∈ second, ∀ two ∈ second, one.identity = two.identity → one = two :=
    fun one inOne two inTwo => instances one ((same one).mpr inOne) two ((same two).mpr inTwo)
  have permuted : (distinctFrom seen first).Perm (distinctFrom seen second) := by
    refine (List.perm_ext_iff_of_nodup (nodup_distinctFrom _ _) (nodup_distinctFrom _ _)).mpr ?_
    intro handle
    rw [mem_distinctFrom_iff seen instances, mem_distinctFrom_iff seen others, same]
  have trivial : ∀ handles : List Handle, handles.Pairwise fun _ _ => True :=
    fun handles => List.pairwise_of_forall fun _ _ => True.intro
  refine List.Perm.eq_of_pairwise ?_ (trivial _) (trivial _) (permuted.filter _)
  intro one two inOne inTwo _ _
  obtain ⟨keptOne, levelOne⟩ := List.mem_filter.mp inOne
  obtain ⟨keptTwo, levelTwo⟩ := List.mem_filter.mp inTwo
  have inFirst := (distinctFrom_sublist seen first).mem keptOne
  have inSecond := (same two).mpr ((distinctFrom_sublist seen second).mem keptTwo)
  refine instances one inFirst two inSecond (by_contra fun different => ?_)
  exact apart one inFirst two inSecond different
    ((of_decide_eq_true levelOne).trans (of_decide_eq_true levelTwo).symm)

theorem ofList_append_congr (initial : List Handle) {first second : List Handle}
    (same : ∀ handle, handle ∈ first ↔ handle ∈ second)
    (instances : ∀ one ∈ first, ∀ two ∈ first, one.identity = two.identity → one = two)
    (apart : ∀ one ∈ first, ∀ two ∈ first, one.identity ≠ two.identity →
      one.precedence ≠ two.precedence) :
    SourceSet.ofList (initial ++ first) = SourceSet.ofList (initial ++ second) := by
  rw [SourceSet.ofList, SourceSet.ofList, mergeSort_precedes, mergeSort_precedes]
  refine congrArg SourceSet.mk (byRank_eq Handle.precedence (descending_byRank _ _) fun level => ?_)
  rw [filter_byRank, distinct, distinct, distinctFrom_append, distinctFrom_append,
    List.filter_append, List.filter_append, filter_distinctFrom_congr _ same instances apart]

/-- **Instances that are added one by one make the snapshot that they make together**: the first
occurrences, sorted by precedence. Adding answers whether the instance is new and changes nothing
if it is not. The order of adding does not show where precedence tells the added instances apart. -/
theorem snapshot_addAll (initial : List Handle) :
    (∀ added, SourceSet.addAll initial added = (SourceSet.new (initial ++ added)).result
      ∧ (SourceSet.addAll initial added).handles
        = byRank Handle.precedence (firstOccurrences (initial ++ added)))
    ∧ (∀ added handle,
      (((SourceSet.addAll initial added).add handle).result.1 = true
        ↔ handle.identity ∉ identities (SourceSet.addAll initial added).handles)
      ∧ (handle.identity ∈ identities (SourceSet.addAll initial added).handles
        ↔ handle.identity ∈ identities (initial ++ added))
      ∧ (((SourceSet.addAll initial added).add handle).result.1 = false →
        ((SourceSet.addAll initial added).add handle).result.2 = SourceSet.addAll initial added))
    ∧ ∀ first second : List Handle, (∀ handle, handle ∈ first ↔ handle ∈ second) →
      (∀ one ∈ first, ∀ two ∈ first, one.identity = two.identity → one = two) →
      (∀ one ∈ first, ∀ two ∈ first, one.identity ≠ two.identity →
        (one.source.ordinal, one.source.name) ≠ (two.source.ordinal, two.source.name)) →
      SourceSet.addAll initial first = SourceSet.addAll initial second := by
  refine ⟨fun added => ⟨addAll_eq_ofList initial added, ?_⟩, fun added handle => ?_, ?_⟩
  · rw [addAll_eq_ofList, handles_ofList, distinct_eq_firstOccurrences]
  · refine ⟨?_, ?_, fun refused => ?_⟩
    · show (!(SourceSet.addAll initial added).contains handle) = true ↔ _
      rw [contains_eq, Bool.not_eq_true', decide_eq_false_iff_not]
    · rw [addAll_eq_ofList, mem_identities_ofList]
    · have known : (SourceSet.addAll initial added).contains handle = true := by
        simpa using show (!(SourceSet.addAll initial added).contains handle) = false from refused
      show (SourceSet.addAll initial added).insert handle = _
      rw [SourceSet.insert, if_pos known]
  · intro first second same instances apart
    rw [addAll_eq_ofList, addAll_eq_ofList]
    exact ofList_append_congr initial same instances apart

/-- A shared instance of a source without properties. -/
def sampleInstance (number : Nat) (name : String) (ordinal : Int) : Handle :=
  ⟨.shared number, MapSource.toSource ⟨name, ordinal, []⟩⟩

/-- A source with the rank and name of one that is there already stays behind it in both orders. -/
theorem snapshot_addAll_sample :
    let base := sampleInstance 0 "app" 100
    let twin := sampleInstance 1 "app" 100
    let high := sampleInstance 2 "env" 300
    (∀ handle, handle ∈ [twin, high, twin] ↔ handle ∈ [high, twin])
    ∧ (∀ one ∈ [twin, high, twin], ∀ two ∈ [twin, high, twin],
      one.identity = two.identity → one = two)
    ∧ (∀ one ∈ [twin, high, twin], ∀ two ∈ [twin, high, twin], one.identity ≠ two.identity →
      (one.source.ordinal, one.source.name) ≠ (two.source.ordinal, two.source.name))
    ∧ SourceSet.addAll [base] [twin, high, twin] = SourceSet.addAll [base] [high, twin]
    ∧ (SourceSet.addAll [base] [high, twin]).handles = [high, base, twin] := by
  intro base twin high
  have same : ∀ handle, handle ∈ [twin, high, twin] ↔ handle ∈ [high, twin] := by
    intro handle
    simp only [List.mem_cons, List.not_mem_nil, or_false]
    tauto
  have instances : ∀ one ∈ [twin, high, twin], ∀ two ∈ [twin, high, twin],
      one.identity = two.identity → one = two := by
    simp [twin, high, sampleInstance]
  have apart : ∀ one ∈ [twin, high, twin], ∀ two ∈ [twin, high, twin],
      one.identity ≠ two.identity →
      (one.source.ordinal, one.source.name) ≠ (two.source.ordinal, two.source.name) := by
    simp [twin, high, sampleInstance, MapSource.toSource]
  obtain ⟨snapshot, _, orders⟩ := snapshot_addAll [base]
  refine ⟨same, instances, apart, orders _ _ same instances apart, ?_⟩
  rw [(snapshot [high, twin]).2]
  refine byRank_eq Handle.precedence ?_ fun level => ?_
  · unfold Descending
    decide +kernel
  · show [high, base, twin].filter _ = [base, high, twin].filter _
    have level_twin : twin.precedence = base.precedence := rfl
    have level_high : high.precedence ≠ base.precedence := by decide +kernel
    by_cases here : base.precedence = level
    · simp [level_twin, here, here ▸ level_high]
    · simp [List.filter_cons, level_twin, here]

end LayeredConfig.Source
