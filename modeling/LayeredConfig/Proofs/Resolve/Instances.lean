/-
**How often an instance of a source takes part.**

Instances are told apart after they have been wrapped, and what a wrapper makes is a new instance, even
where the same one is registered twice:

* `count_identities_ofList`: a set holds one entry for each instance that it is given;
* `sources_addSources`: sources that are added later stand behind what the wrappers made;
* `length_filter_wrappings`: an instance that is made anew has as many entries as registrations;
* `instances_of_build`: so an instance that is left as it is has one entry and is not added again;
* `wrapped_instance_twice`: an instance with two registrations under a wrapper.
-/

import LayeredConfig.Proofs.Resolve.Masking
import LayeredConfig.Proofs.Source.Snapshot
import LayeredConfig.Source.Wrapper

namespace LayeredConfig.Source

/-! ## Part 1 — instances in a set -/

theorem nodup_identities_ofList (handles : List Handle) :
    (identities (SourceSet.ofList handles).handles).Nodup := by
  have permuted : (identities (SourceSet.ofList handles).handles).Perm
      (identities (distinct handles)) := (List.mergeSort_perm _ _).map _
  exact permuted.nodup_iff.mpr (nodup_identities_distinctFrom [] handles)

/-- **A set holds one entry for each instance that it is given.** -/
theorem count_identities_ofList (handles : List Handle) (identity : Identity) :
    (identities (SourceSet.ofList handles).handles).count identity
      = if identity ∈ identities handles then 1 else 0 := by
  rw [(nodup_identities_ofList handles).count]
  exact if_congr (mem_identities_ofList handles identity) rfl rfl

theorem length_identities (handles : List Handle) : (identities handles).length = handles.length :=
  List.length_map _

theorem filter_identities (wanted : Identity → Bool) (handles : List Handle) :
    (identities handles).filter wanted
      = identities (handles.filter fun handle => wanted handle.identity) :=
  List.filter_map

/-- Of instances that a set is given and that differ it holds as many entries. -/
theorem length_filter_ofList {handles given : List Handle} (different : (identities given).Nodup)
    (inside : ∀ handle ∈ given, handle ∈ handles) :
    ((SourceSet.ofList handles).handles.filter fun entry => entry.identity ∈ identities given).length
      = given.length := by
  have same : ((identities (SourceSet.ofList handles).handles).filter
      fun identity => identity ∈ identities given).Perm (identities given) := by
    refine (List.perm_ext_iff_of_nodup ((nodup_identities_ofList handles).filter _) different).mpr ?_
    intro identity
    rw [List.mem_filter, decide_eq_true_eq, mem_identities_ofList]
    refine ⟨And.right, fun member => ⟨?_, member⟩⟩
    obtain ⟨handle, listed, rfl⟩ := List.mem_map.mp member
    exact List.mem_map_of_mem (inside handle listed)
  calc ((SourceSet.ofList handles).handles.filter fun entry => entry.identity ∈ identities given).length
      = ((identities (SourceSet.ofList handles).handles).filter
          fun identity => identity ∈ identities given).length := by
        rw [filter_identities, length_identities]
    _ = (identities given).length := same.length_eq
    _ = given.length := length_identities given

/-! ## Part 2 — what wrappers make of an instance -/

/-- Every wrapper leaves an instance as it is. -/
def Handle.IsKept (wrappers : List Wrapper) (handle : Handle) : Prop :=
  ∀ wrapper ∈ wrappers, wrapper handle = .existing handle

theorem applyAll_of_isKept {wrappers : List Wrapper} {handle : Handle}
    (kept : handle.IsKept wrappers) (candidate position : Nat) :
    Wrapper.applyAll candidate position wrappers handle = handle := by
  induction wrappers generalizing position with
  | nil => rfl
  | cons wrapper rest hypothesis =>
    obtain ⟨here, later⟩ := List.forall_mem_cons.mp kept
    rw [Wrapper.applyAll, Wrapper.apply, here]
    exact hypothesis later (position + 1)

end LayeredConfig.Source

namespace LayeredConfig.Resolve

open LayeredConfig.Conversion LayeredConfig.Source

variable {m : Type → Type} {Extra : Type} [Extension Extra]

namespace Blueprint

variable (blueprint : Blueprint m Extra)

theorem wrapFrom_eq_map (wrappers : List Wrapper) (position : Nat) (handles : List Handle) :
    wrapFrom wrappers position handles
      = (handles.zipIdx position).map fun entry => Wrapper.applyAll entry.2 0 wrappers entry.1 := by
  induction handles generalizing position with
  | nil => rfl
  | cons handle rest hypothesis => rw [wrapFrom, hypothesis, List.zipIdx_cons, List.map_cons]

/-- The registrations of an instance, each with its position among the candidates. -/
def registrations (identity : Identity) : List (Handle × Nat) :=
  blueprint.candidates.zipIdx.filter fun entry => entry.1.identity = identity

/-- What the wrappers make of the registrations of an instance. -/
def wrappings (identity : Identity) : List Handle :=
  (blueprint.registrations identity).map fun entry =>
    Wrapper.applyAll entry.2 0 blueprint.wrappers entry.1

/-- The wrappers make a new instance at each registration of an instance. -/
def Renews (identity : Identity) : Prop :=
  ∀ entry ∈ blueprint.registrations identity, ∃ wrapper,
    (Wrapper.applyAll entry.2 0 blueprint.wrappers entry.1).identity = .wrapped entry.2 wrapper

theorem mem_wrapped_of_mem_wrappings {identity : Identity} {handle : Handle}
    (member : handle ∈ blueprint.wrappings identity) : handle ∈ blueprint.wrapped := by
  obtain ⟨entry, listed, rfl⟩ := List.mem_map.mp member
  rw [wrapped, wrapFrom_eq_map]
  exact List.mem_map.mpr ⟨entry, List.mem_of_mem_filter listed, rfl⟩

theorem mem_wrapped_of_isKept {handle : Handle} (registered : handle ∈ blueprint.candidates)
    (kept : handle.IsKept blueprint.wrappers) : handle ∈ blueprint.wrapped := by
  obtain ⟨position, inside, rfl⟩ := List.getElem_of_mem registered
  rw [wrapped, wrapFrom_eq_map]
  refine List.mem_map.mpr ⟨(blueprint.candidates[position], position), ?_, ?_⟩
  · exact List.mem_zipIdx_iff_getElem?.mpr (List.getElem?_eq_getElem inside)
  · exact applyAll_of_isKept kept position 0

theorem nodup_identities_wrappings {identity : Identity} (renews : blueprint.Renews identity) :
    (identities (blueprint.wrappings identity)).Nodup := by
  have positions : blueprint.candidates.zipIdx.Pairwise fun one two => one.2 ≠ two.2 := by
    refine List.pairwise_map.mp ?_
    rw [List.zipIdx_map_snd]
    exact List.nodup_range'
  rw [identities, wrappings, List.map_map]
  refine List.pairwise_map.mpr ((positions.filter _).imp_of_mem ?_)
  intro one two inOne inTwo apart same
  obtain ⟨_, first⟩ := renews one inOne
  obtain ⟨_, second⟩ := renews two inTwo
  simp only [Function.comp_apply, first, second, Identity.wrapped.injEq] at same
  exact apart same.1

theorem length_wrappings (identity : Identity) :
    (blueprint.wrappings identity).length
      = (blueprint.candidates.filter fun handle => handle.identity = identity).length := by
  have handles : blueprint.candidates.zipIdx.map Prod.fst = blueprint.candidates :=
    List.zipIdx_map_fst _ _
  conv_rhs => rw [← handles, List.filter_map, List.length_map]
  rw [wrappings, List.length_map]
  rfl

/-- **An instance that is made anew at each registration has as many entries.** -/
theorem length_filter_wrappings {identity : Identity} (renews : blueprint.Renews identity)
    (added : List Handle) :
    ((SourceSet.ofList (blueprint.wrapped ++ added)).handles.filter fun entry =>
        entry.identity ∈ identities (blueprint.wrappings identity)).length
      = (blueprint.candidates.filter fun handle => handle.identity = identity).length := by
  rw [← length_wrappings]
  refine length_filter_ofList (blueprint.nodup_identities_wrappings renews) fun handle member => ?_
  exact List.mem_append_left added (blueprint.mem_wrapped_of_mem_wrappings member)

end Blueprint

/-! ## Part 3 — configurations -/

namespace Config

/-- The configuration with some more sources, which are added one by one. -/
def addSources (config : Config m Extra) (added : List Handle) : Config m Extra :=
  added.foldl (fun config handle => (config.addSource handle).result.2) config

/-- The number of entries for an instance. -/
def entries (config : Config m Extra) (identity : Identity) : Nat :=
  (identities config.sources.handles).count identity

theorem sources_addSources {config : Config m Extra} {handles : List Handle}
    (start : config.sources = SourceSet.ofList handles) (added : List Handle) :
    (config.addSources added).sources = SourceSet.ofList (handles ++ added) := by
  induction added using List.reverseRecOn with
  | nil => rw [List.append_nil, ← start, addSources, List.foldl_nil]
  | append_singleton added handle hypothesis =>
    rw [addSources, List.foldl_append, ← addSources, ← List.append_assoc, ← insert_ofList, ← hypothesis]
    rfl

/-- Adding a source answers whether its instance is new, and changes nothing if it is not. -/
theorem addSource_of_sources {config : Config m Extra} {handles : List Handle}
    (sources : config.sources = SourceSet.ofList handles) (handle : Handle) :
    ((config.addSource handle).result.1 = false ↔ handle.identity ∈ identities handles)
    ∧ ((config.addSource handle).result.1 = false → (config.addSource handle).result.2 = config) := by
  have answer : (config.addSource handle).result
      = (!config.sources.contains handle, { config with sources := config.sources.insert handle }) := rfl
  rw [answer]
  refine ⟨?_, fun refused => ?_⟩
  · rw [Bool.not_eq_false', sources, contains_eq, decide_eq_true_eq, mem_identities_ofList]
  · have known : config.sources.contains handle = true := (Bool.not_eq_false' _).mp refused
    simp only [SourceSet.insert, known, if_true]

end Config

/-- **How often the instances of a blueprint take part**, whatever sources are added after it is built.
Each instance that the wrappers answer with has one entry, and adding it changes nothing; so it is with
an instance that is left as it is. One that is made anew has an entry for each registration. -/
theorem instances_of_build [Monad m] (blueprint : Blueprint m Extra) (added : List Handle) :
    let config := blueprint.build.result.addSources added
    (∀ identity, config.entries identity
      = if identity ∈ identities (blueprint.wrapped ++ added) then 1 else 0)
    ∧ (∀ handle, ((config.addSource handle).result.1 = false
        ↔ handle.identity ∈ identities (blueprint.wrapped ++ added))
      ∧ ((config.addSource handle).result.1 = false → (config.addSource handle).result.2 = config))
    ∧ (∀ handle ∈ blueprint.candidates, handle.IsKept blueprint.wrappers →
      config.entries handle.identity = 1 ∧ (config.addSource handle).result = (false, config))
    ∧ ∀ identity, blueprint.Renews identity →
      (config.sources.handles.filter fun entry =>
          entry.identity ∈ identities (blueprint.wrappings identity)).length
        = (blueprint.candidates.filter fun handle => handle.identity = identity).length := by
  intro config
  have sources : config.sources = SourceSet.ofList (blueprint.wrapped ++ added) :=
    Config.sources_addSources rfl added
  have counted : ∀ identity, config.entries identity
      = if identity ∈ identities (blueprint.wrapped ++ added) then 1 else 0 := by
    intro identity
    rw [Config.entries, sources, count_identities_ofList]
  have answers := Config.addSource_of_sources sources
  refine ⟨counted, answers, fun handle registered kept => ?_, fun identity renews => ?_⟩
  · have inside : handle.identity ∈ identities (blueprint.wrapped ++ added) :=
      List.mem_map_of_mem (List.mem_append_left added (blueprint.mem_wrapped_of_isKept registered kept))
    have refused := (answers handle).1.mpr inside
    refine ⟨by rw [counted, if_pos inside], Prod.ext refused ((answers handle).2 refused)⟩
  · rw [sources]
    exact blueprint.length_filter_wrappings renews added

/-- Two instances, each of them declared and discovered. -/
def sampleTwice : Blueprint Id Empty :=
  let handles := [sampleInstance 0 "app" 100, sampleInstance 1 "env" 300]
  ((Blueprint.empty.withHandles handles).withDiscoveredHandles handles).useDiscoveredSources

/-- A wrapper that leaves the first instance as it is and puts a new source around the second one. -/
def sampleWrapper : Wrapper := fun handle =>
  if handle.identity = .shared 0 then .existing handle else Wrapper.append "!" handle

/-- The instance that is left as it is has one entry, and the other one has two. -/
theorem instances_of_build_sample :
    let blueprint := sampleTwice.withWrapper sampleWrapper
    let config := blueprint.build.result.addSources [sampleInstance 2 "late" 500]
    let kept := sampleInstance 0 "app" 100
    let renewed := Identity.shared 1
    kept ∈ blueprint.candidates ∧ kept.IsKept blueprint.wrappers ∧ config.entries kept.identity = 1
    ∧ (config.addSource kept).result = (false, config)
    ∧ blueprint.Renews renewed
    ∧ (config.sources.handles.filter fun entry =>
        entry.identity ∈ identities (blueprint.wrappings renewed)).length = 2 := by
  intro blueprint config kept renewed
  have registered : kept ∈ blueprint.candidates := List.mem_cons_self
  have isKept : kept.IsKept blueprint.wrappers := by
    intro wrapper member
    rw [List.mem_singleton.mp member]
    rfl
  have renews : blueprint.Renews renewed := by
    intro entry member
    have listed : blueprint.registrations renewed
        = [(sampleInstance 1 "env" 300, 1), (sampleInstance 1 "env" 300, 3)] := rfl
    rw [listed, List.mem_pair] at member
    rcases member with rfl | rfl <;> exact ⟨0, rfl⟩
  obtain ⟨_, _, ofKept, ofRenewed⟩ := instances_of_build blueprint [sampleInstance 2 "late" 500]
  obtain ⟨entries, again⟩ := ofKept kept registered isKept
  exact ⟨registered, isKept, entries, again, renews, ofRenewed renewed renews⟩

/-- **An instance that is registered twice is wrapped twice**: it has two entries, none of them for
itself, and is added once more. -/
theorem wrapped_instance_twice :
    let blueprint := sampleTwice.withWrapper (.append "!")
    let config := blueprint.build.result
    let handle := sampleInstance 0 "app" 100
    handle ∈ blueprint.candidates
    ∧ (identities config.sources.handles).count (.wrapped 0 0) = 1
    ∧ (identities config.sources.handles).count (.wrapped 2 0) = 1
    ∧ config.entries handle.identity = 0
    ∧ (config.addSource handle).result.1 = true
    ∧ (config.addSource handle).result.2.entries handle.identity = 1 := by
  intro blueprint config handle
  have sources : config.sources = SourceSet.ofList blueprint.wrapped := rfl
  have grown : (config.addSource handle).result.2.sources
      = SourceSet.ofList (blueprint.wrapped ++ [handle]) := insert_ofList _ handle
  have answer := (Config.addSource_of_sources sources handle).1
  have new : handle.identity ∉ identities blueprint.wrapped := by decide
  refine ⟨List.mem_cons_self, ?_, ?_, ?_, ?_, ?_⟩
  · rw [sources, count_identities_ofList]
    rfl
  · rw [sources, count_identities_ofList]
    rfl
  · rw [Config.entries, sources, count_identities_ofList, if_neg new]
  · exact (Bool.not_eq_false _).mp (mt answer.mp new)
  · rw [Config.entries, grown, count_identities_ofList]
    rfl

end LayeredConfig.Resolve
