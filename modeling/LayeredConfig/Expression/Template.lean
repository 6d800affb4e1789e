/-
**Texts with references.**

A reference is written between `${` and its closing brace, and may hold further references. It names
a key, and behind its first colon that stands in no inner reference a default. An escaped opening
stands for itself, and an opening without its closing brace is plain text to the end.

* `closing`: the text of a reference up to its closing brace, and what follows;
* `splitDefault`: the key and the default of a reference;
* `scan`: the literal pieces and the references of a text.
-/

namespace LayeredConfig.Expression

/-! ## Part 1 — one reference -/

/-- The text up to the brace that closes a reference, and the text behind it; `nesting` inner
references are open already. -/
def closing : Nat → List Char → Option (List Char × List Char)
  | _, [] => none
  | nesting, '$' :: '{' :: rest =>
    (closing (nesting + 1) rest).map fun found => ('$' :: '{' :: found.1, found.2)
  | 0, '}' :: rest => some ([], rest)
  | nesting + 1, '}' :: rest => (closing nesting rest).map fun found => ('}' :: found.1, found.2)
  | nesting, character :: rest =>
    (closing nesting rest).map fun found => (character :: found.1, found.2)

/-- The key and the default of a reference; `nesting` inner references are open. -/
def splitDefault : Nat → List Char → List Char × Option (List Char)
  | _, [] => ([], none)
  | nesting, '$' :: '{' :: rest =>
    let (key, default) := splitDefault (nesting + 1) rest
    ('$' :: '{' :: key, default)
  | nesting, '}' :: rest =>
    let (key, default) := splitDefault (nesting - 1) rest
    ('}' :: key, default)
  | 0, ':' :: rest => ([], some rest)
  | nesting, character :: rest =>
    let (key, default) := splitDefault nesting rest
    (character :: key, default)

/-- What follows a reference is shorter than the text in which it was looked for. -/
theorem length_of_closing {nesting : Nat} {text inner behind : List Char}
    (found : closing nesting text = some (inner, behind)) : behind.length < text.length := by
  fun_induction closing nesting text generalizing inner behind with
  | case1 => cases found
  | case2 nesting rest hypothesis =>
    obtain ⟨pair, earlier, equal⟩ := Option.map_eq_some_iff.mp found
    cases equal
    have shorter := hypothesis earlier
    simp only [List.length_cons]
    omega
  | case3 rest =>
    cases found
    simp
  | case4 rest nesting hypothesis =>
    obtain ⟨pair, earlier, equal⟩ := Option.map_eq_some_iff.mp found
    cases equal
    have shorter := hypothesis earlier
    simp only [List.length_cons]
    omega
  | case5 nesting character rest _ _ _ hypothesis =>
    obtain ⟨pair, earlier, equal⟩ := Option.map_eq_some_iff.mp found
    cases equal
    have shorter := hypothesis earlier
    simp only [List.length_cons]
    omega

/-! ## Part 2 — whole texts -/

/-- A piece of a text. -/
inductive Piece where
  /-- Text that stands for itself. -/
  | literal (text : List Char)
  /-- What stands between the braces of a reference. -/
  | reference (inner : List Char)
deriving DecidableEq, Repr

/-- The pieces of a text from left to right. -/
def scan (text : List Char) : List Piece :=
  match text with
  | [] => []
  | '$' :: '$' :: '{' :: rest => .literal ['$', '{'] :: scan rest
  | '\\' :: '$' :: '{' :: rest => .literal ['$', '{'] :: scan rest
  | '$' :: '{' :: rest =>
    match _ : closing 0 rest with
    | some (inner, behind) => .reference inner :: scan behind
    | none => [.literal ('$' :: '{' :: rest)]
  | character :: rest => .literal [character] :: scan rest
termination_by text.length
decreasing_by
  all_goals try simp only [List.length_cons]
  all_goals try omega
  have shorter := length_of_closing ‹closing 0 rest = some (inner, behind)›
  omega

/-- Whether a text holds an opening of a reference, escaped or not. -/
def hasOpening : List Char → Bool
  | [] => false
  | '$' :: '{' :: _ => true
  | _ :: rest => hasOpening rest

end LayeredConfig.Expression
