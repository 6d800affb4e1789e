/-
**Properties that are kept secret.**

Secrets are given by patterns of names. While secrets are locked, a secret property is absent, in
every variant, and the sources are not even asked.

* `SecretKeys.ofPatterns`: the secrets that some patterns describe;
* `SecretKeys.isSecret`: whether a name is secret;
* `SecretKeys.stage`: the stage that hides them.
-/

import LayeredConfig.Lookup.Chain
import LayeredConfig.Pattern.Trie

namespace LayeredConfig.Lookup

open LayeredConfig.Pattern

/-- Patterns of secret names. -/
structure SecretKeys where
  patterns : Trie Unit

namespace SecretKeys

/-- The secrets that some patterns describe. -/
def ofPatterns (patterns : List String) : SecretKeys :=
  ⟨patterns.foldl (fun trie pattern => (Trie.put (Path.parse pattern) () trie).2) .empty⟩

/-- A name without the profile of which it is a variant. -/
def unqualified (name : String) : String :=
  match name.toList with
  | '%' :: rest =>
    match rest.dropWhile (· ≠ '.') with
    | _ :: plain => String.ofList plain
    | [] => name
  | _ => name

/-- Whether a name is secret; a variant is as secret as its property. -/
def isSecret (secrets : SecretKeys) (name : String) : Bool :=
  (Trie.lookup (Path.parse (unqualified name)) secrets.patterns).isSome

/-- The stage that hides secrets while they are locked. -/
def stage {m : Type → Type} [Monad m] (secrets : SecretKeys) : Stage m where
  name := "secret-keys"
  priority := libraryPriority + 700
  intercept context name :=
    if context.scope.isLocked && secrets.isSecret name then return none else context.proceed name

end SecretKeys

end LayeredConfig.Lookup
