/-
**Which variants are secret.**

A name is secret if some pattern meets it, read without its profile (`isSecret_iff`), and the profile
is taken to end at the first dot:

* `isSecret_undotted_iff`: the variant for a profile without dots is as secret as its property;
* `isSecret_dotted_iff`: of a profile with dots only what stands before the first one is left out, and
  the rest of it is compared as if it belonged to the property;
* `isSecret_variant_iff`: there are no other profiles.
-/

import LayeredConfig.Proofs.Lookup.Hiding
import LayeredConfig.Proofs.Pattern.Specificity

namespace LayeredConfig.Lookup

open LayeredConfig.Pattern

/-! ## Part 1 — what patterns describe -/

theorem patterns_ofPatterns (patterns : List String) :
    (SecretKeys.ofPatterns patterns).patterns
      = Trie.ofWrites (patterns.map fun pattern => (pattern, ())) := by
  unfold SecretKeys.ofPatterns Trie.ofWrites
  rw [List.foldl_map]

/-- A query finds something exactly if some written path meets it. -/
theorem isSome_lookup_iff {Value : Type} (writes : List (String × Value)) (query : Path) :
    (Trie.lookup query (Trie.ofWrites writes)).isSome = true
      ↔ ∃ write ∈ writes, query.Meets (Path.parse write.1) := by
  have written : ∀ path, Trie.lastWritten path writes ≠ none
      ↔ ∃ write ∈ writes, Path.parse write.1 = path := by
    intro path
    rw [Ne, Trie.lastWritten_eq_none_iff]
    simp only [not_forall, not_not, exists_prop]
  rw [Trie.lookup_eq_findSome?_variants, List.isSome_findSome?, List.any_eq_true]
  simp only [Trie.valueAt_ofWrites, Option.isSome_iff_ne_none, written, Path.mem_variants_iff]
  constructor
  · rintro ⟨path, meets, write, member, rfl⟩
    exact ⟨write, member, meets⟩
  · rintro ⟨write, member, meets⟩
    exact ⟨_, meets, write, member, rfl⟩

/-- Some pattern meets a name. -/
def Described (patterns : List String) (name : String) : Prop :=
  ∃ pattern ∈ patterns, (Path.parse name).Meets (Path.parse pattern)

theorem isSome_lookup_ofPatterns_iff (patterns : List String) (name : String) :
    (Trie.lookup (Path.parse name) (SecretKeys.ofPatterns patterns).patterns).isSome = true
      ↔ Described patterns name := by
  rw [patterns_ofPatterns, isSome_lookup_iff]
  unfold Described
  constructor
  · rintro ⟨write, member, meets⟩
    obtain ⟨pattern, registered, rfl⟩ := List.mem_map.mp member
    exact ⟨pattern, registered, meets⟩
  · rintro ⟨pattern, registered, meets⟩
    exact ⟨(pattern, ()), List.mem_map_of_mem registered, meets⟩

instance (patterns : List String) (name : String) : Decidable (Described patterns name) :=
  decidable_of_iff _ (isSome_lookup_ofPatterns_iff patterns name)

theorem isSecret_iff (patterns : List String) (name : String) :
    (SecretKeys.ofPatterns patterns).isSecret name = true
      ↔ Described patterns (SecretKeys.unqualified name) :=
  isSome_lookup_ofPatterns_iff patterns (SecretKeys.unqualified name)

/-! ## Part 2 — profiles with and without dots -/

theorem undotted_or_dotted (profile : String) :
    '.' ∉ profile.toList
      ∨ ∃ first second, '.' ∉ first.toList ∧ profile = first ++ "." ++ second := by
  by_cases dotted : '.' ∈ profile.toList
  · obtain ⟨before, after, split, undotted⟩ := List.eq_append_cons_of_mem dotted
    refine .inr ⟨String.ofList before, String.ofList after, ?_, ?_⟩
    · rw [String.toList_ofList]
      exact undotted
    · rw [← String.toList_inj]
      simp [split]
  · exact .inl dotted

/-- The variant for a profile with a dot is the one of a longer name for a shorter profile too. -/
theorem qualified_dotted (first second name : String) :
    Profiles.qualified (first ++ "." ++ second) name
      = Profiles.qualified first (second ++ "." ++ name) := by
  unfold Profiles.qualified
  simp only [String.append_assoc]

theorem isSecret_undotted_iff (patterns : List String) {profile : String}
    (undotted : '.' ∉ profile.toList) (name : String) :
    (SecretKeys.ofPatterns patterns).isSecret (Profiles.qualified profile name) = true
      ↔ Described patterns name := by
  rw [isSecret_iff, unqualified_qualified undotted]

theorem isSecret_dotted_iff (patterns : List String) {first : String}
    (undotted : '.' ∉ first.toList) (second name : String) :
    (SecretKeys.ofPatterns patterns).isSecret (Profiles.qualified (first ++ "." ++ second) name) = true
      ↔ Described patterns (second ++ "." ++ name) := by
  rw [qualified_dotted, isSecret_undotted_iff patterns undotted]

/-- **Only what stands behind the first dot of a variant is compared**, be it the property or a part
of the profile in front of the property. -/
theorem isSecret_variant_iff (patterns : List String) (profile name : String) :
    (SecretKeys.ofPatterns patterns).isSecret (Profiles.qualified profile name) = true
      ↔ ('.' ∉ profile.toList ∧ Described patterns name)
        ∨ ∃ first second, '.' ∉ first.toList ∧ profile = first ++ "." ++ second
          ∧ Described patterns (second ++ "." ++ name) := by
  constructor
  · intro secret
    rcases undotted_or_dotted profile with undotted | ⟨first, second, undotted, rfl⟩
    · exact .inl ⟨undotted, (isSecret_undotted_iff patterns undotted name).mp secret⟩
    · exact .inr ⟨first, second, undotted, rfl,
        (isSecret_dotted_iff patterns undotted second name).mp secret⟩
  · rintro (⟨undotted, described⟩ | ⟨first, second, undotted, rfl, described⟩)
    · exact (isSecret_undotted_iff patterns undotted name).mpr described
    · exact (isSecret_dotted_iff patterns undotted second name).mpr described

end LayeredConfig.Lookup
