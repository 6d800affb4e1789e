/-
**Names and canonical paths are two forms of the same thing.**

A piece of a name is cut into a base that ends in no index suffix and the suffixes behind it, and
there is one way to do so (`exists_parts`, `ofPiece_parts`). So the literals of a path are no
wildcard and end in no suffix, and none of them can be mistaken for an index:

* `wellFormed_ofPiece`: what segments a piece can have;
* `eq_of_label`: segments of pieces have different labels, or different ranks;
* `ofPiece_write`: a canonical segment is the only one of the piece that it is written as;
* `parse_canonical`: so the paths of names are the canonical ones, and every such path is the one of the
  name that joins its segments.
-/

import LayeredConfig.Pattern.Trie
import LayeredConfig.Proofs.Text.Separated
import Mathlib.Data.List.Induction
import Mathlib.Data.String.Basic

namespace LayeredConfig.Pattern

open LayeredConfig.Text

/-! ## Part 1 — canonical segments -/

/-- The digits of an index: at least one, and all of them decimal. -/
def IsDigits (text : List Char) : Prop := text ≠ [] ∧ ∀ character ∈ text, character.isDigit = true

theorem all_isDigit_iff (text : List Char) :
    (!text.isEmpty && text.all Char.isDigit) = true ↔ IsDigits text := by
  rw [IsDigits, Bool.and_eq_true, Bool.not_eq_true', List.isEmpty_eq_false_iff, List.all_eq_true]

instance (text : List Char) : Decidable (IsDigits text) := decidable_of_iff _ (all_isDigit_iff text)

namespace Segment

/-- A segment that is written as an index suffix. -/
def IsSuffix : Segment → Prop
  | .index digits => IsDigits digits.toList
  | .anyIndex => True
  | .literal _ | .any => False

/-- A text that ends in the written form of an index suffix. -/
def EndsInSuffix (text : List Char) : Prop :=
  ∃ front suffix, IsSuffix suffix ∧ text = front ++ suffix.write

/-- A literal that is not a wildcard and does not end in a suffix, or an index of digits. -/
def WellFormed : Segment → Prop
  | .literal name => name ≠ "*" ∧ ¬ EndsInSuffix name.toList
  | .index digits => IsDigits digits.toList
  | .any | .anyIndex => True

/-- A well-formed segment whose literal has no dot either. -/
def Canonical : Segment → Prop
  | .literal name => '.' ∉ name.toList ∧ name ≠ "*" ∧ ¬ EndsInSuffix name.toList
  | .index digits => IsDigits digits.toList
  | .any | .anyIndex => True

theorem Canonical.wellFormed {segment : Segment} (canonical : segment.Canonical) :
    segment.WellFormed := by
  cases segment with
  | literal name => exact canonical.2
  | any | index | anyIndex => exact canonical

theorem IsSuffix.canonical {suffix : Segment} (isSuffix : suffix.IsSuffix) : suffix.Canonical := by
  cases suffix with
  | literal | any => exact isSuffix.elim
  | index | anyIndex => exact isSuffix

/-! ## Part 2 — cutting a suffix off -/

theorem ofBracketed_eq_some {inner : List Char} {suffix : Segment}
    (read : ofBracketed inner = some suffix) :
    suffix.IsSuffix ∧ suffix.write = '[' :: inner ++ [']'] := by
  unfold ofBracketed at read
  split at read
  next star =>
    obtain rfl := Option.some.inj read
    rw [star]
    exact ⟨trivial, rfl⟩
  next =>
    split at read
    next digits =>
      obtain rfl := Option.some.inj read
      refine ⟨?_, by simp [write]⟩
      show IsDigits (String.ofList inner).toList
      rwa [String.toList_ofList, ← all_isDigit_iff]
    next => cases read

theorem IsSuffix.exists_inner {suffix : Segment} (isSuffix : suffix.IsSuffix) :
    ∃ inner, suffix.write = '[' :: inner ++ [']'] ∧ '[' ∉ inner
      ∧ ofBracketed inner = some suffix := by
  cases suffix with
  | literal | any => exact isSuffix.elim
  | anyIndex => exact ⟨['*'], rfl, by decide, rfl⟩
  | index digits =>
    have without : ∀ {character : Char}, character.isDigit = false → character ∉ digits.toList := by
      intro character other member
      rw [isSuffix.2 character member] at other
      cases other
    have noStar : digits.toList ≠ ['*'] := by
      intro star
      have notDigit : '*' ∉ digits.toList := without (by decide)
      exact notDigit (by simp [star])
    refine ⟨digits.toList, rfl, without (by decide), ?_⟩
    have all := (all_isDigit_iff digits.toList).mpr isSuffix
    rw [ofBracketed, if_neg noStar, if_pos all, String.ofList_toList]

theorem cutSuffix?_write (front : List Char) {suffix : Segment} (isSuffix : suffix.IsSuffix) :
    cutSuffix? (front ++ suffix.write).reverse = some (suffix, front.reverse) := by
  obtain ⟨inner, written, closed, read⟩ := isSuffix.exists_inner
  have backwards : (front ++ suffix.write).reverse = ']' :: (inner.reverse ++ '[' :: front.reverse) := by
    simp [written]
  have skipped : ∀ character ∈ inner.reverse, decide (character ≠ '[') = true := by
    intro character member
    rw [List.mem_reverse] at member
    rw [decide_eq_true_eq]
    rintro rfl
    exact closed member
  have rest : (inner.reverse ++ '[' :: front.reverse).dropWhile (· ≠ '[') = '[' :: front.reverse := by
    rw [List.dropWhile_append_of_pos skipped]
    rfl
  have taken : (inner.reverse ++ '[' :: front.reverse).takeWhile (· ≠ '[') = inner.reverse := by
    rw [List.takeWhile_append_of_pos skipped]
    simp
  rw [backwards, cutSuffix?, rest]
  simp only [taken, List.reverse_reverse, read, Option.map_some]

/-- Only a suffix is cut off. -/
theorem endsInSuffix_of_cutSuffix? {text base : List Char} {suffix : Segment}
    (cut : cutSuffix? text.reverse = some (suffix, base)) : EndsInSuffix text := by
  generalize same : text.reverse = reversed at cut
  have forwards := congrArg List.reverse same
  rw [List.reverse_reverse] at forwards
  unfold cutSuffix? at cut
  split at cut
  next tail =>
    split at cut
    next found opened =>
      obtain ⟨_, read, equal⟩ := Option.map_eq_some_iff.mp cut
      obtain ⟨rfl, rfl⟩ := Prod.mk.injEq .. ▸ equal
      obtain ⟨isSuffix, written⟩ := ofBracketed_eq_some read
      refine ⟨found.reverse, _, isSuffix, ?_⟩
      have whole := List.takeWhile_append_dropWhile (p := (· ≠ '[')) (l := tail)
      rw [opened] at whole
      rw [forwards, written]
      conv_lhs => rw [← whole]
      simp
    next => cases cut
  next => cases cut

theorem isSome_cutSuffix?_iff (text : List Char) :
    (cutSuffix? text.reverse).isSome = true ↔ EndsInSuffix text := by
  constructor
  · intro some
    obtain ⟨pair, cut⟩ := Option.isSome_iff_exists.mp some
    exact endsInSuffix_of_cutSuffix? cut
  · rintro ⟨front, suffix, isSuffix, rfl⟩
    rw [cutSuffix?_write front isSuffix]
    rfl

instance (text : List Char) : Decidable (EndsInSuffix text) :=
  decidable_of_iff _ (isSome_cutSuffix?_iff text)

instance : DecidablePred Canonical
  | .literal name =>
    inferInstanceAs (Decidable ('.' ∉ name.toList ∧ name ≠ "*" ∧ ¬ EndsInSuffix name.toList))
  | .index digits => inferInstanceAs (Decidable (IsDigits digits.toList))
  | .any => .isTrue trivial
  | .anyIndex => .isTrue trivial

theorem detachSuffixes_parts {base : List Char} (without : ¬ EndsInSuffix base)
    {suffixes : List Segment} (all : ∀ suffix ∈ suffixes, suffix.IsSuffix) (found : List Segment) :
    detachSuffixes (base ++ suffixes.flatMap write).reverse found
      = (base.reverse, suffixes ++ found) := by
  induction suffixes using List.reverseRecOn generalizing found with
  | nil =>
    rw [List.flatMap_nil, List.append_nil, detachSuffixes]
    split
    next cut => exact absurd (endsInSuffix_of_cutSuffix? cut) without
    next => rfl
  | append_singleton suffixes last hypothesis =>
    have isSuffix := all last (by simp)
    have earlier := hypothesis fun suffix member => all suffix (by simp [member])
    have cut := cutSuffix?_write (base ++ suffixes.flatMap write) isSuffix
    rw [List.flatMap_append, List.flatMap_singleton, ← List.append_assoc, detachSuffixes]
    split
    next suffix front here =>
      rw [here] at cut
      obtain ⟨rfl, rfl⟩ := Prod.mk.injEq .. ▸ Option.some.inj cut
      rw [earlier]
      simp
    next here => rw [here] at cut; cases cut

/-! ## Part 3 — the segments of a piece -/

/-- Every piece is a base that ends in no suffix, and suffixes behind it. -/
theorem exists_parts (piece : List Char) : ∃ (base : List Char) (suffixes : List Segment),
    ¬ EndsInSuffix base ∧ (∀ suffix ∈ suffixes, suffix.IsSuffix)
      ∧ piece = base ++ suffixes.flatMap write := by
  by_cases ending : EndsInSuffix piece
  · obtain ⟨front, last, isSuffix, rfl⟩ := ending
    have shorter : front.length < (front ++ last.write).length := by
      obtain ⟨inner, written, _⟩ := isSuffix.exists_inner
      simp [written]
    obtain ⟨base, suffixes, without, all, rfl⟩ := exists_parts front
    refine ⟨base, suffixes ++ [last], without, fun suffix member => ?_, by simp⟩
    rcases List.mem_append.mp member with earlier | here
    · exact all suffix earlier
    · exact List.mem_singleton.mp here ▸ isSuffix
  · exact ⟨piece, [], ending, nofun, by simp⟩
termination_by piece.length

/-- A piece gives at least one segment. -/
theorem ofPiece_ne_nil (piece : List Char) : ofPiece piece ≠ [] := by
  unfold ofPiece
  split
  · exact List.cons_ne_nil _ _
  · split
    next => exact List.cons_ne_nil _ _
    next base suffixes some_suffix _ => exact fun none => some_suffix (List.append_eq_nil_iff.mp none).2

/-- A base without suffixes is a segment even if it is empty. -/
theorem ofPiece_base {base : List Char} (without : ¬ EndsInSuffix base) :
    ofPiece base = if base = ['*'] then [.any] else [.literal (String.ofList base)] := by
  have none : ∀ suffix ∈ ([] : List Segment), suffix.IsSuffix := nofun
  have detached := detachSuffixes_parts without none []
  rw [List.flatMap_nil, List.append_nil, List.append_nil] at detached
  rw [ofPiece, detached]

theorem ofPiece_parts {base : List Char} (without : ¬ EndsInSuffix base) {suffixes : List Segment}
    (all : ∀ suffix ∈ suffixes, suffix.IsSuffix) (nonempty : suffixes ≠ []) :
    ofPiece (base ++ suffixes.flatMap write) = ofBase base ++ suffixes := by
  obtain ⟨first, others, rfl⟩ := List.exists_cons_of_ne_nil nonempty
  have noStar : base ++ (first :: others).flatMap write ≠ ['*'] := by
    obtain ⟨inner, written, _⟩ := (all first List.mem_cons_self).exists_inner
    have bracket : '[' ∈ base ++ (first :: others).flatMap write := by simp [written]
    intro star
    rw [star] at bracket
    exact absurd bracket (by decide)
  rw [ofPiece, if_neg noStar, detachSuffixes_parts without all, List.append_nil]
  show ofBase base.reverse.reverse ++ first :: others = ofBase base ++ first :: others
  rw [List.reverse_reverse]

theorem mem_ofPiece_parts {base : List Char} (without : ¬ EndsInSuffix base)
    {suffixes : List Segment} (all : ∀ suffix ∈ suffixes, suffix.IsSuffix) {segment : Segment}
    (member : segment ∈ ofPiece (base ++ suffixes.flatMap write)) :
    segment ∈ suffixes ∨ segment = .any
      ∨ segment = .literal (String.ofList base) ∧ base ≠ ['*'] := by
  by_cases nonempty : suffixes = []
  · rw [nonempty, List.flatMap_nil, List.append_nil, ofPiece_base without] at member
    split at member
    next => exact .inr (.inl (List.mem_singleton.mp member))
    next noStar => exact .inr (.inr ⟨List.mem_singleton.mp member, noStar⟩)
  · rw [ofPiece_parts without all nonempty, List.mem_append, ofBase] at member
    rcases member with front | behind
    · split at front
      next => cases front
      next =>
        split at front
        next => exact .inr (.inl (List.mem_singleton.mp front))
        next noStar => exact .inr (.inr ⟨List.mem_singleton.mp front, noStar⟩)
    · exact .inl behind

/-- Only the empty piece is the empty literal and nothing else. -/
theorem eq_nil_of_ofPiece {piece : List Char} (empty : ofPiece piece = [.literal ""]) : piece = [] := by
  obtain ⟨base, suffixes, without, all, rfl⟩ := exists_parts piece
  have none : suffixes = [] := by
    by_contra nonempty
    obtain ⟨first, others, rfl⟩ := List.exists_cons_of_ne_nil nonempty
    have isSuffix := all first List.mem_cons_self
    have member : first ∈ ofBase base ++ first :: others := by simp
    rw [← ofPiece_parts without all nonempty, empty, List.mem_singleton] at member
    rw [member] at isSuffix
    exact isSuffix
  rw [none, List.flatMap_nil, List.append_nil] at empty ⊢
  rw [ofPiece_base without] at empty
  split at empty
  next => cases empty
  next =>
    rw [List.singleton_inj, literal.injEq, ← String.toList_inj, String.toList_ofList] at empty
    exact empty

theorem wellFormed_literal {base : List Char} (noStar : base ≠ ['*'])
    (without : ¬ EndsInSuffix base) : (literal (String.ofList base)).WellFormed := by
  refine ⟨fun star => noStar ?_, by rwa [String.toList_ofList]⟩
  rw [← String.toList_ofList (l := base), star]
  rfl

/-- **Every segment of a piece is well-formed**, whatever the piece. -/
theorem wellFormed_ofPiece {piece : List Char} {segment : Segment} (member : segment ∈ ofPiece piece) :
    segment.WellFormed := by
  obtain ⟨base, suffixes, without, all, rfl⟩ := exists_parts piece
  rcases mem_ofPiece_parts without all member with suffix | rfl | ⟨rfl, noStar⟩
  · exact (all segment suffix).canonical.wellFormed
  · trivial
  · exact wellFormed_literal noStar without

theorem canonical_ofPiece {piece : List Char} (undotted : '.' ∉ piece) {segment : Segment}
    (member : segment ∈ ofPiece piece) : segment.Canonical := by
  have wellFormed := wellFormed_ofPiece member
  obtain ⟨base, suffixes, without, all, rfl⟩ := exists_parts piece
  rcases mem_ofPiece_parts without all member with suffix | rfl | ⟨rfl, noStar⟩
  · exact (all segment suffix).canonical
  · trivial
  · refine ⟨?_, wellFormed⟩
    rw [String.toList_ofList]
    exact fun dot => undotted (List.mem_append_left _ dot)

/-! ## Part 4 — labels -/

/-- **Among the segments of pieces the rank and the label tell which one it is**; so no literal has
the label of an index. -/
theorem eq_of_label {first second : Segment} (one : first.WellFormed) (other : second.WellFormed)
    (rank : first.rank = second.rank) (label : first.label = second.label) : first = second := by
  have apart : ∀ {name digits : String}, (literal name).WellFormed → (index digits).WellFormed →
      name ≠ "[" ++ digits ++ "]" := by
    rintro name digits ⟨_, without⟩ isDigits rfl
    exact without ⟨[], .index digits, isDigits, by simp [write]⟩
  cases first with
  | literal name =>
    cases second with
    | literal other => exact congrArg literal label
    | index digits => exact absurd label (apart one other)
    | any | anyIndex => cases rank
  | index digits =>
    cases second with
    | literal name => exact absurd label.symm (apart other one)
    | index others =>
      have letters := congrArg String.toList label
      simp only [Segment.label, String.toList_append, List.append_cancel_left_eq,
        List.append_cancel_right_eq, String.toList_inj] at letters
      exact congrArg index letters
    | any | anyIndex => cases rank
  | any =>
    cases second with
    | any => rfl
    | literal | index | anyIndex => cases rank
  | anyIndex =>
    cases second with
    | anyIndex => rfl
    | literal | index | any => cases rank

/-! ## Part 5 — writing -/

/-- **A canonical segment is read back from what it is written as.** -/
theorem ofPiece_write {segment : Segment} (canonical : segment.Canonical) :
    ofPiece segment.write = [segment] := by
  have nothing : ¬ EndsInSuffix [] := by
    rintro ⟨front, suffix, isSuffix, empty⟩
    obtain ⟨inner, written, _⟩ := isSuffix.exists_inner
    simp [written] at empty
  have alone : ∀ {suffix : Segment}, suffix.IsSuffix → ofPiece suffix.write = [suffix] := by
    intro suffix isSuffix
    have all : ∀ member ∈ [suffix], member.IsSuffix := by simpa using isSuffix
    have read := ofPiece_parts nothing all (List.cons_ne_nil _ _)
    simpa [ofBase] using read
  cases segment with
  | literal name =>
    obtain ⟨_, noStar, without⟩ := canonical
    have different : name.toList ≠ ['*'] := by
      intro star
      exact noStar (String.toList_inj.mp star)
    show ofPiece name.toList = [literal name]
    rw [ofPiece_base without, if_neg different, String.ofList_toList]
  | any => rfl
  | index digits => exact alone canonical
  | anyIndex => exact alone trivial

theorem undotted_write {segment : Segment} (canonical : segment.Canonical) : '.' ∉ segment.write := by
  cases segment with
  | literal name => exact canonical.1
  | any | anyIndex => decide
  | index digits =>
    have undotted : '.' ∉ digits.toList := by
      intro dot
      exact absurd (canonical.2 '.' dot) (by decide)
    simpa [write] using undotted

end Segment

/-! ## Part 6 — paths -/

namespace Path

/-- A path of canonical segments. -/
def Canonical (path : Path) : Prop := ∀ segment ∈ path, segment.Canonical

instance (path : Path) : Decidable path.Canonical :=
  inferInstanceAs (Decidable (∀ segment ∈ path, segment.Canonical))

theorem canonical_parse (name : String) : (parse name).Canonical := by
  intro segment member
  rw [parse] at member
  split at member
  next => cases member
  next =>
    obtain ⟨piece, inside, here⟩ := List.mem_flatMap.mp member
    exact Segment.canonical_ofPiece (not_mem_of_mem_cutAt inside) here

theorem parse_ne (name : String) : parse name ≠ [.literal ""] := by
  rw [parse]
  split
  next => exact List.cons_ne_nil _ _ ∘ Eq.symm
  next filled =>
    intro empty
    have nonempty : cutAt '.' name.toList ≠ [] := cutAt_ne_nil _
    obtain ⟨first, others, pieces⟩ := List.exists_cons_of_ne_nil nonempty
    rw [pieces, List.flatMap_cons] at empty
    -- Each piece gives a segment, so there is only the first.
    obtain ⟨segment, rest, here⟩ := List.exists_cons_of_ne_nil (Segment.ofPiece_ne_nil first)
    rw [here, List.cons_append, List.cons.injEq, List.append_eq_nil_iff] at empty
    obtain ⟨rfl, rfl, later⟩ := empty
    have alone : others = [] := by
      cases others with
      | nil => rfl
      | cons second others => simp [Segment.ofPiece_ne_nil] at later
    have letters : joinWith '.' (cutAt '.' name.toList) = name.toList := joinWith_cutAt _
    rw [pieces, alone, joinWith, Segment.eq_nil_of_ofPiece here] at letters
    exact filled (by rw [String.isEmpty_iff, ← String.toList_inj, ← letters]; rfl)

theorem joinWith_write_ne_nil {path : Path} (nonempty : path ≠ []) (other : path ≠ [.literal ""]) :
    joinWith '.' (path.map Segment.write) ≠ [] := by
  intro empty
  rcases joinWith_eq_nil_iff.mp empty with none | alone
  · exact nonempty (List.map_eq_nil_iff.mp none)
  · obtain ⟨segment, rfl, written⟩ := List.map_eq_singleton_iff.mp alone
    cases segment with
    | literal name =>
      have none : name = "" := String.toList_inj.mp written
      exact other (by rw [none])
    | any | index | anyIndex => cases written

/-- **A canonical path is the path of the name that joins it.** -/
theorem parse_join_of_canonical {path : Path} (canonical : path.Canonical)
    (other : path ≠ [.literal ""]) : parse (join path) = path := by
  by_cases nonempty : path = []
  · subst nonempty
    rfl
  · have letters : (join path).toList = joinWith '.' (path.map Segment.write) := String.toList_ofList
    have filled : ¬ (join path).isEmpty = true := by
      rw [String.isEmpty_iff, ← String.toList_inj, letters]
      exact joinWith_write_ne_nil nonempty other
    have undotted : ∀ piece ∈ path.map Segment.write, '.' ∉ piece := by
      intro piece member
      obtain ⟨segment, inside, rfl⟩ := List.mem_map.mp member
      exact Segment.undotted_write (canonical segment inside)
    have single : ∀ segment ∈ path, Segment.ofPiece segment.write = [segment] :=
      fun segment member => Segment.ofPiece_write (canonical segment member)
    rw [parse, if_neg filled, letters, cutAt_joinWith (by simpa using nonempty) undotted,
      List.flatMap_map, List.flatMap_congr single, List.flatMap_singleton']

/-- **Names and canonical paths are two forms of the same thing**, the path of one empty literal apart:
the path of a name is canonical, a canonical path is the one of its join, and no literal is labelled
like an index. -/
theorem parse_canonical :
    (∀ name, (parse name).Canonical)
    ∧ (∀ path : Path, path.Canonical → path ≠ [.literal ""] → parse (join path) = path)
    ∧ (∀ (first second : List Char) (name digits : String),
      .literal name ∈ Segment.ofPiece first → .index digits ∈ Segment.ofPiece second →
      (Segment.literal name).label ≠ (Segment.index digits).label)
    ∧ ∀ path : Path, (∃ name, parse name = path) ↔ path.Canonical ∧ path ≠ [.literal ""] := by
  refine ⟨canonical_parse, fun path => parse_join_of_canonical, ?_, fun path => ⟨?_, ?_⟩⟩
  · intro first second name digits literal index same
    have equal := Segment.eq_of_label (Segment.wellFormed_ofPiece literal)
      (Segment.wellFormed_ofPiece index) rfl same
    cases equal
  · rintro ⟨name, rfl⟩
    exact ⟨canonical_parse name, parse_ne name⟩
  · rintro ⟨canonical, other⟩
    exact ⟨join path, parse_join_of_canonical canonical other⟩

/-- Literals with brackets that close no index, an empty one, and all kinds of suffixes. -/
def samplePath : Path :=
  [.literal "a[x]", .index "1", .literal "]", .literal "", .any, .index "007", .anyIndex,
    .literal "[*]x"]

theorem parse_canonical_sample :
    samplePath.Canonical ∧ samplePath ≠ [.literal ""]
    ∧ join samplePath = "a[x].[1].]..*.[007].[*].[*]x" ∧ parse (join samplePath) = samplePath
    ∧ Segment.literal "[1]x" ∈ Segment.ofPiece "[1]x".toList
    ∧ Segment.index "1" ∈ Segment.ofPiece "a[1]".toList
    ∧ (Segment.literal "[1]x").label ≠ (Segment.index "1").label := by
  obtain ⟨_, readBack, apart, _⟩ := parse_canonical
  have canonical : samplePath.Canonical := by decide +kernel
  have other : samplePath ≠ [.literal ""] := by decide
  have literal : Segment.literal "[1]x" ∈ Segment.ofPiece "[1]x".toList := by decide +kernel
  have index : Segment.index "1" ∈ Segment.ofPiece "a[1]".toList := by decide +kernel
  exact ⟨canonical, other, by decide +kernel, readBack samplePath canonical other, literal, index,
    apart _ _ _ _ literal index⟩

/-- A wildcard and suffixes may also be written together. -/
example : parse "a[x][1].]..*[007][*].[*]x" =
    [.literal "a[x]", .index "1", .literal "]", .literal "", .any, .index "007", .anyIndex,
      .literal "[*]x"] := by decide +kernel

end Path

end LayeredConfig.Pattern
