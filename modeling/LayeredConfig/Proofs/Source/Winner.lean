/-
**The highest source that defines a name wins, the earliest one among equals.**

The registered instances stand in the order in which they came. The winner of a name is the one among
those that define it of which all earlier ones are lower and all later ones no higher (`Winner`):

* `Displaces.wins` and `winner_of_not_displaces`: one more instance takes the place of the winner, or
  leaves it;
* `value_of_winner`: a name has the value of its winner, for sorting puts the winner in front;
* `value_addAll`: so it is after any additions, and a new instance changes a value exactly if it
  defines the name and is higher than the winner so far.
-/

import LayeredConfig.Proofs.Source.Snapshot

namespace LayeredConfig.Source

open LayeredConfig.Sorting

variable {registered : List Handle} {name : String} {winner handle : Handle}

/-! ## Part 1 — winners -/

/-- The source of an instance gives a value for a name. -/
def Handle.Defines (handle : Handle) (name : String) : Prop := handle.source.value name ≠ none

instance (handle : Handle) (name : String) : Decidable (handle.Defines name) :=
  inferInstanceAs (Decidable (handle.source.value name ≠ none))

/-- An instance has the greatest rank and name of those that define a name, and none of the earlier
ones shares these with it. -/
structure Winner (registered : List Handle) (name : String) (winner : Handle) : Prop where
  defines : winner.Defines name
  place : ∃ before after, registered = before ++ winner :: after
    ∧ (∀ other ∈ before, other.Defines name → other.precedence < winner.precedence)
    ∧ ∀ other ∈ after, other.Defines name → other.precedence ≤ winner.precedence

namespace Winner

theorem mem (wins : Winner registered name winner) : winner ∈ registered := by
  obtain ⟨_, before, after, rfl, _, _⟩ := wins
  exact List.mem_append_right before List.mem_cons_self

/-- One more instance that is not higher leaves the winner. -/
theorem append_singleton (wins : Winner registered name winner)
    (lower : handle.Defines name → handle.precedence ≤ winner.precedence) :
    Winner (registered ++ [handle]) name winner := by
  obtain ⟨defines, before, after, rfl, below, notAbove⟩ := wins
  refine ⟨defines, before, after ++ [handle], by simp, below, fun other member => ?_⟩
  rcases List.mem_append.mp member with earlier | last
  · exact notAbove other earlier
  · rw [List.mem_singleton.mp last]
    exact lower

/-- One more instance that is higher than all others wins. -/
theorem of_last (defines : handle.Defines name)
    (higher : ∀ other ∈ registered, other.Defines name → other.precedence < handle.precedence) :
    Winner (registered ++ [handle]) name handle :=
  ⟨defines, registered, [], rfl, higher, nofun⟩

theorem precedence_le (wins : Winner registered name winner) {other : Handle}
    (member : other ∈ registered) (defines : other.Defines name) :
    other.precedence ≤ winner.precedence := by
  obtain ⟨_, before, after, rfl, below, notAbove⟩ := wins
  rcases List.mem_append.mp member with earlier | later
  · exact (below other earlier defines).le
  · rcases List.mem_cons.mp later with rfl | later
    · exact le_rfl
    · exact notAbove other later defines

end Winner

/-- No instance defines a name. -/
def NoDefiner (registered : List Handle) (name : String) : Prop :=
  ∀ handle ∈ registered, ¬ handle.Defines name

/-- An instance displaces the winner of a name: it defines the name and is higher, if there is a
winner. -/
def Displaces (registered : List Handle) (name : String) (handle : Handle) : Prop :=
  handle.Defines name
    ∧ ∀ winner, Winner registered name winner → winner.precedence < handle.precedence

theorem Displaces.wins
    (decided : NoDefiner registered name ∨ ∃ winner, Winner registered name winner)
    (displaces : Displaces registered name handle) : Winner (registered ++ [handle]) name handle := by
  obtain ⟨defines, higher⟩ := displaces
  refine .of_last defines fun other member defined => ?_
  rcases decided with none | ⟨winner, wins⟩
  · exact absurd defined (none other member)
  · exact (wins.precedence_le member defined).trans_lt (higher winner wins)

/-- An instance that does not displace the winner leaves it, or there is none to be left. -/
theorem winner_of_not_displaces
    (decided : NoDefiner registered name ∨ ∃ winner, Winner registered name winner)
    (kept : ¬ Displaces registered name handle) :
    (NoDefiner registered name ∧ NoDefiner (registered ++ [handle]) name)
      ∨ ∃ winner, Winner registered name winner ∧ Winner (registered ++ [handle]) name winner := by
  by_cases defines : handle.Defines name
  · have rival : ∃ winner, Winner registered name winner ∧ ¬ winner.precedence < handle.precedence := by
      by_contra none
      exact kept ⟨defines, fun winner wins => by_contra fun lower => none ⟨winner, wins, lower⟩⟩
    obtain ⟨winner, wins, lower⟩ := rival
    exact .inr ⟨winner, wins, wins.append_singleton fun _ => not_lt.mp lower⟩
  · rcases decided with none | ⟨winner, wins⟩
    · refine .inl ⟨none, fun other member => ?_⟩
      rcases List.mem_append.mp member with earlier | last
      · exact none other earlier
      · rw [List.mem_singleton.mp last]
        exact defines
    · exact .inr ⟨winner, wins, wins.append_singleton fun defined => absurd defined defines⟩

theorem noDefiner_or_exists_winner (registered : List Handle) (name : String) :
    NoDefiner registered name ∨ ∃ winner, Winner registered name winner := by
  induction registered using List.reverseRecOn with
  | nil => exact .inl fun _ member => absurd member List.not_mem_nil
  | append_singleton registered handle hypothesis =>
    by_cases displaces : Displaces registered name handle
    · exact .inr ⟨handle, displaces.wins hypothesis⟩
    · rcases winner_of_not_displaces hypothesis displaces with none | ⟨winner, _, wins⟩
      · exact .inl none.2
      · exact .inr ⟨winner, wins⟩

/-! ## Part 2 — values -/

/-- Items for which there is nothing may be left out. -/
theorem findSome?_filter_isSome {Item Found : Type} (find : Item → Option Found) (items : List Item) :
    (items.filter fun item => (find item).isSome).findSome? find = items.findSome? find := by
  rw [← List.head?_filterMap, ← List.head?_filterMap, List.filterMap_filter]
  refine congrArg List.head? (List.filterMap_congr fun item _ => ?_)
  cases find item <;> rfl

theorem isSome_valueFrom_iff : (SourceSet.valueFrom name handle).isSome ↔ handle.Defines name := by
  rw [SourceSet.valueFrom, Option.isSome_map, Option.isSome_iff_ne_none]
  rfl

theorem valueFrom_eq_some_iff {found : ConfigValue} :
    SourceSet.valueFrom name handle = some found
      ↔ ∃ raw, handle.source.value name = some raw
        ∧ found = ⟨name, raw, handle.source.name, handle.source.ordinal⟩ := by
  rw [SourceSet.valueFrom, Option.map_eq_some_iff]
  simp only [eq_comm]

/-- The value of a name is looked for among the instances that define it. -/
theorem value_ofList (handles : List Handle) (name : String) :
    (SourceSet.ofList handles).value name
      = (byRank Handle.precedence ((firstOccurrences handles).filter fun handle =>
          (SourceSet.valueFrom name handle).isSome)).findSome? (SourceSet.valueFrom name) := by
  rw [SourceSet.value, handles_ofList, distinct_eq_firstOccurrences, byRank_filter,
    findSome?_filter_isSome]

/-- **A name has the value of its winner.** -/
theorem value_of_winner {handles : List Handle} (wins : Winner (firstOccurrences handles) name winner) :
    (SourceSet.ofList handles).value name = SourceSet.valueFrom name winner := by
  obtain ⟨defines, before, after, split, below, notAbove⟩ := wins
  have first := isSome_valueFrom_iff.mpr defines
  rw [value_ofList, split, List.filter_append, List.filter_cons, if_pos first, byRank_append_cons]
  · obtain ⟨found, given⟩ := Option.isSome_iff_exists.mp first
    rw [List.findSome?_cons, given]
  · intro other member
    obtain ⟨earlier, given⟩ := List.mem_filter.mp member
    exact below other earlier (isSome_valueFrom_iff.mp given)
  · intro other member
    obtain ⟨later, given⟩ := List.mem_filter.mp member
    exact notAbove other later (isSome_valueFrom_iff.mp given)

theorem value_of_noDefiner {handles : List Handle}
    (none : NoDefiner (firstOccurrences handles) name) :
    (SourceSet.ofList handles).value name = Option.none := by
  rw [value_ofList, List.findSome?_eq_none_iff]
  intro handle member
  obtain ⟨listed, given⟩ := List.mem_filter.mp (List.mem_mergeSort.mp member)
  exact absurd (isSome_valueFrom_iff.mp given) (none handle listed)

theorem value_eq_some_iff (handles : List Handle) (name : String) (found : ConfigValue) :
    (SourceSet.ofList handles).value name = some found
      ↔ ∃ winner raw, Winner (firstOccurrences handles) name winner
        ∧ winner.source.value name = some raw
        ∧ found = ⟨name, raw, winner.source.name, winner.source.ordinal⟩ := by
  constructor
  · intro given
    rcases noDefiner_or_exists_winner (firstOccurrences handles) name with none | ⟨winner, wins⟩
    · rw [value_of_noDefiner none] at given
      cases given
    · rw [value_of_winner wins, valueFrom_eq_some_iff] at given
      obtain ⟨raw, here, same⟩ := given
      exact ⟨winner, raw, wins, here, same⟩
  · rintro ⟨winner, raw, wins, here, same⟩
    rw [value_of_winner wins, valueFrom_eq_some_iff]
    exact ⟨raw, here, same⟩

theorem value_ne_none_iff (handles : List Handle) (name : String) :
    (SourceSet.ofList handles).value name ≠ none
      ↔ ∃ handle ∈ firstOccurrences handles, handle.Defines name := by
  rcases noDefiner_or_exists_winner (firstOccurrences handles) name with none | ⟨winner, wins⟩
  · rw [value_of_noDefiner none]
    exact iff_of_false (fun absent => absent rfl) fun ⟨handle, member, defines⟩ =>
      none handle member defines
  · refine iff_of_true ?_ ⟨winner, wins.mem, wins.defines⟩
    rw [value_of_winner wins, ← Option.isSome_iff_ne_none, isSome_valueFrom_iff]
    exact wins.defines

/-! ## Part 3 — one more instance -/

theorem firstOccurrences_append_new {handles : List Handle}
    (new : handle.identity ∉ identities handles) :
    firstOccurrences (handles ++ [handle]) = firstOccurrences handles ++ [handle] := by
  rw [firstOccurrences_append_singleton, if_neg new]

/-- What displaces the winner gives a value from another source than before. -/
theorem value_append_of_displaces {handles : List Handle}
    (new : handle.identity ∉ identities handles)
    (displaces : Displaces (firstOccurrences handles) name handle) :
    (SourceSet.ofList (handles ++ [handle])).value name = SourceSet.valueFrom name handle
      ∧ (SourceSet.ofList handles).value name ≠ SourceSet.valueFrom name handle := by
  have decided := noDefiner_or_exists_winner (firstOccurrences handles) name
  have wins := displaces.wins decided
  rw [← firstOccurrences_append_new new] at wins
  refine ⟨value_of_winner wins, fun same => ?_⟩
  obtain ⟨found, given⟩ := Option.isSome_iff_exists.mp (isSome_valueFrom_iff.mpr displaces.1)
  obtain ⟨raw, _, rfl⟩ := valueFrom_eq_some_iff.mp given
  rw [given, value_eq_some_iff] at same
  obtain ⟨winner, _, previous, _, origin⟩ := same
  -- The winner before would have the same rank and name.
  have level : winner.precedence = handle.precedence := by
    rw [ConfigValue.mk.injEq] at origin
    rw [Handle.precedence, Handle.precedence, origin.2.2.1, origin.2.2.2]
  exact (displaces.2 winner previous).ne level

theorem value_append_of_not_displaces {handles : List Handle}
    (new : handle.identity ∉ identities handles)
    (kept : ¬ Displaces (firstOccurrences handles) name handle) :
    (SourceSet.ofList (handles ++ [handle])).value name = (SourceSet.ofList handles).value name := by
  have decided := noDefiner_or_exists_winner (firstOccurrences handles) name
  have left := winner_of_not_displaces decided kept
  rw [← firstOccurrences_append_new new] at left
  rcases left with ⟨none, stillNone⟩ | ⟨winner, wins, stillWins⟩
  · rw [value_of_noDefiner none, value_of_noDefiner stillNone]
  · rw [value_of_winner wins, value_of_winner stillWins]

/-- **The value of a name comes from its winner, and only an instance that displaces the winner changes
it.** -/
theorem value_addAll (initial added : List Handle) (name : String) :
    ((SourceSet.addAll initial added).value name ≠ none
      ↔ ∃ handle ∈ firstOccurrences (initial ++ added), handle.Defines name)
    ∧ (∀ found, (SourceSet.addAll initial added).value name = some found
      ↔ ∃ winner raw, Winner (firstOccurrences (initial ++ added)) name winner
        ∧ winner.source.value name = some raw
        ∧ found = ⟨name, raw, winner.source.name, winner.source.ordinal⟩)
    ∧ ∀ handle, handle.identity ∉ identities (initial ++ added) →
      (((SourceSet.addAll initial added).add handle).result.2.value name
          ≠ (SourceSet.addAll initial added).value name
        ↔ Displaces (firstOccurrences (initial ++ added)) name handle)
      ∧ (Displaces (firstOccurrences (initial ++ added)) name handle →
        ∃ raw, handle.source.value name = some raw
          ∧ ((SourceSet.addAll initial added).add handle).result.2.value name
            = some ⟨name, raw, handle.source.name, handle.source.ordinal⟩) := by
  rw [addAll_eq_ofList]
  refine ⟨value_ne_none_iff _ name, value_eq_some_iff _ name, fun handle new => ?_⟩
  have grown : ((SourceSet.ofList (initial ++ added)).add handle).result.2
      = SourceSet.ofList (initial ++ added ++ [handle]) := insert_ofList _ handle
  rw [grown]
  refine ⟨⟨fun changed => by_contra fun kept => ?_, fun displaces => ?_⟩, fun displaces => ?_⟩
  · exact changed (value_append_of_not_displaces new kept)
  · obtain ⟨given, other⟩ := value_append_of_displaces new displaces
    rw [given]
    exact other.symm
  · obtain ⟨found, given⟩ := Option.isSome_iff_exists.mp (isSome_valueFrom_iff.mpr displaces.1)
    obtain ⟨raw, here, rfl⟩ := valueFrom_eq_some_iff.mp given
    exact ⟨raw, here, (value_append_of_displaces new displaces).1.trans given⟩

/-- A source that has the port of a server, under a rank that may be negative. -/
def sampleServer (number : Nat) (name : String) (ordinal : Int) (port : String) : Handle :=
  ⟨.shared number, MapSource.toSource ⟨name, ordinal, [("port", port)]⟩⟩

/-- The earlier one of two sources of equal rank and name gives the port. A third one of that rank and
name changes nothing, and one with a greater name displaces it. -/
theorem value_addAll_sample :
    let initial := [sampleServer 0 "low" (-5) "1", sampleInstance 1 "silent" 900]
    let app := sampleServer 2 "app" 100 "2"
    let twin := sampleServer 3 "app" 100 "3"
    let equal := sampleServer 4 "app" 100 "4"
    let greater := sampleServer 4 "base" 100 "4"
    let set := SourceSet.addAll initial [app, twin]
    Winner (firstOccurrences (initial ++ [app, twin])) "port" app
    ∧ set.value "port" = some ⟨"port", "2", "app", 100⟩
    ∧ equal.identity ∉ identities (initial ++ [app, twin])
    ∧ (set.add equal).result.2.value "port" = set.value "port"
    ∧ Displaces (firstOccurrences (initial ++ [app, twin])) "port" greater
    ∧ (set.add greater).result.2.value "port" = some ⟨"port", "4", "base", 100⟩ := by
  intro initial app twin equal greater set
  have registered : firstOccurrences (initial ++ [app, twin]) = initial ++ app :: [twin] := rfl
  have wins : Winner (firstOccurrences (initial ++ [app, twin])) "port" app :=
    ⟨by decide, initial, [twin], registered, by decide, by decide⟩
  have new : equal.identity ∉ identities (initial ++ [app, twin]) := by decide
  have kept : ¬ Displaces (firstOccurrences (initial ++ [app, twin])) "port" equal :=
    fun displaces => absurd (displaces.2 app wins) (by decide)
  have displaces : Displaces (firstOccurrences (initial ++ [app, twin])) "port" greater := by
    have highest : ∀ handle ∈ initial ++ app :: [twin], handle.Defines "port" →
        handle.precedence < greater.precedence := by decide
    exact ⟨by decide, fun winner other => highest winner other.mem other.defines⟩
  obtain ⟨_, origin, update⟩ := value_addAll initial [app, twin] "port"
  obtain ⟨raw, here, changed⟩ := (update greater new).2 displaces
  refine ⟨wins, (origin _).mpr ⟨app, "2", wins, by decide, rfl⟩, new, ?_, displaces, ?_⟩
  · exact by_contra fun different => kept ((update equal new).1.mp different)
  · have port : raw = "4" := Option.some.inj (here.symm.trans (by decide))
    rw [changed, port]
    rfl

end LayeredConfig.Source
