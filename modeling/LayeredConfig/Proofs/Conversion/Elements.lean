/-
**What becomes of the elements of a list.**

An element is refused, or absent, or it gives a value. The first refused element decides, whatever
stands before it; else a list of absent elements only is absent; and only after that it matters how
absent elements are handled (`Collects`):

* `convertElements_of_refused`, `convertElements_of_accepted`: the first pass;
* `settle_skip`, `settle_fill`, `settle_reject`, `settle_reject_of_absent`: the second pass;
* `convert_collection_iff`: a list becomes exactly what its elements say.
-/

import LayeredConfig.Conversion.Collection
import Mathlib.Tactic.Common

namespace LayeredConfig.Conversion

open LayeredConfig.Text (EscapedList.split)

/-! ## Part 1 — first items -/

/-- The first item with a property, and where it stands. -/
structure FirstAt {Item : Type} (property : Item → Prop) (items : List Item) (position : Nat)
    (item : Item) : Prop where
  here : items[position]? = some item
  holds : property item
  earlier : ∀ before < position, ∀ other, items[before]? = some other → ¬ property other

namespace FirstAt

variable {Item : Type} {property : Item → Prop} {head item : Item} {rest items : List Item}
variable {position : Nat}

theorem mem (first : FirstAt property items position item) : item ∈ items :=
  List.mem_of_getElem? first.here

theorem zero_iff : FirstAt property (head :: rest) 0 item ↔ item = head ∧ property item := by
  constructor
  · rintro ⟨here, holds, _⟩
    exact ⟨(Option.some.inj here).symm, holds⟩
  · rintro ⟨rfl, holds⟩
    exact ⟨rfl, holds, nofun⟩

theorem succ_iff : FirstAt property (head :: rest) (position + 1) item
    ↔ ¬ property head ∧ FirstAt property rest position item := by
  constructor
  · rintro ⟨here, holds, earlier⟩
    refine ⟨earlier 0 (by omega) head rfl, here, holds, fun before below other found => ?_⟩
    exact earlier (before + 1) (by omega) other found
  · rintro ⟨without, here, holds, earlier⟩
    refine ⟨here, holds, fun before below other found => ?_⟩
    cases before with
    | zero => exact Option.some.inj found ▸ without
    | succ before => exact earlier before (by omega) other found

theorem exists_of_mem (member : item ∈ items) (holds : property item) :
    ∃ position first, FirstAt property items position first := by
  induction items with
  | nil => cases member
  | cons head rest hypothesis =>
    by_cases here : property head
    · exact ⟨0, head, zero_iff.mpr ⟨rfl, here⟩⟩
    · have later : item ∈ rest := by
        rcases List.mem_cons.mp member with rfl | later
        · exact absurd holds here
        · exact later
      obtain ⟨position, first, found⟩ := hypothesis later
      exact ⟨position + 1, first, succ_iff.mpr ⟨here, found⟩⟩

end FirstAt

variable {Value : Type} {element : Converter Value} {elements : List String} {text : String}

/-! ## Part 2 — what an element is -/

/-- A text that the converter refuses. -/
def Converter.Refuses (element : Converter Value) (text : String) : Prop :=
  ∃ error, element.convert text = .error error

/-- A text that stands for an absent value. -/
def Converter.IsAbsent (element : Converter Value) (text : String) : Prop :=
  element.convert text = .ok none

/-- The value of a text, if it is neither refused nor absent. -/
def Converter.value? (element : Converter Value) (text : String) : Option Value :=
  match element.convert text with
  | .ok item => item
  | .error _ => none

theorem convert_of_not_refuses (accepted : ¬ element.Refuses text) :
    element.convert text = .ok (element.value? text) := by
  unfold Converter.value?
  cases outcome : element.convert text with
  | ok item => rfl
  | error error => exact absurd ⟨error, outcome⟩ accepted

theorem value?_eq_none_iff (accepted : ¬ element.Refuses text) :
    element.value? text = none ↔ element.IsAbsent text := by
  rw [Converter.IsAbsent, convert_of_not_refuses accepted, Except.ok.injEq]

/-- Where no element is refused, those without a value are the absent ones. -/
theorem all_isNone_iff (accepted : ∀ text ∈ elements, ¬ element.Refuses text) :
    (elements.map element.value?).all Option.isNone = true
      ↔ ∀ text ∈ elements, element.IsAbsent text := by
  rw [List.all_map, List.all_eq_true]
  refine forall₂_congr fun text member => ?_
  rw [Function.comp_apply, Option.isNone_iff_eq_none, value?_eq_none_iff (accepted text member)]

theorem not_refuses_of_isAbsent (absent : element.IsAbsent text) : ¬ element.Refuses text := by
  rintro ⟨error, refused⟩
  rw [absent] at refused
  cases refused

/-- No element is refused, and some element gives a value. -/
structure Usable (element : Converter Value) (elements : List String) : Prop where
  accepted : ∀ text ∈ elements, ¬ element.Refuses text
  present : ∃ text ∈ elements, ¬ element.IsAbsent text

/-- What a text becomes as a list, by what its elements are. -/
inductive Collects (element : Converter Value) (text : String) :
    NullHandling Value → Except ConversionError (Option (List Value)) → Prop
  /-- The first refused element refuses the list, however absent ones are handled. -/
  | refused {nulls : NullHandling Value} {position : Nat} {refused : String}
      {error : ConversionError}
      (first : FirstAt element.Refuses (EscapedList.split text) position refused)
      (reason : element.convert refused = .error error) :
      Collects element text nulls (.error
        { converter := "collection<" ++ element.name ++ ">", input := refused,
          detail := "element " ++ toString position ++ ": " ++ error.detail,
          causes := error.message :: error.causes })
  /-- The list is absent if every element is, however absent ones are handled. -/
  | absent {nulls : NullHandling Value}
      (every : ∀ item ∈ EscapedList.split text, element.IsAbsent item) :
      Collects element text nulls (.ok none)
  /-- Absent elements are left out. -/
  | skipped (usable : Usable element (EscapedList.split text)) :
      Collects element text .skip (.ok (some ((EscapedList.split text).filterMap element.value?)))
  /-- Each absent element is replaced at its place. -/
  | filled (default : Value) (usable : Usable element (EscapedList.split text)) :
      Collects element text (.fill default) (.ok (some
        ((EscapedList.split text).map fun item => (element.value? item).getD default)))
  /-- Where nothing is absent there is nothing to reject. -/
  | complete (usable : Usable element (EscapedList.split text))
      (whole : ∀ item ∈ EscapedList.split text, ¬ element.IsAbsent item) :
      Collects element text .reject (.ok (some ((EscapedList.split text).filterMap element.value?)))
  /-- The first absent element is rejected, together with the list. -/
  | rejected {position : Nat} {absent : String}
      (usable : Usable element (EscapedList.split text))
      (first : FirstAt element.IsAbsent (EscapedList.split text) position absent) :
      Collects element text .reject (.error
        { converter := "collection<" ++ element.name ++ ">", input := text,
          detail := "element " ++ toString position ++ " converted to null by converter "
            ++ element.name,
          causes := [] })

/-! ## Part 3 — the two passes -/

theorem convertElements_of_refused {offset position : Nat} {refused : String}
    {error : ConversionError} (first : FirstAt element.Refuses elements position refused)
    (reason : element.convert refused = .error error) :
    convertElements element offset elements
      = .error (elementError element (offset + position) refused error) := by
  induction elements generalizing offset position with
  | nil => cases first.mem
  | cons head rest hypothesis =>
    cases position with
    | zero =>
      obtain ⟨rfl, _⟩ := FirstAt.zero_iff.mp first
      simp only [convertElements, reason, Nat.add_zero]
    | succ position =>
      obtain ⟨accepted, later⟩ := FirstAt.succ_iff.mp first
      rw [convertElements, convert_of_not_refuses accepted]
      simp only [hypothesis later, Except.map]
      congr 2
      omega

theorem convertElements_of_accepted {offset : Nat}
    (accepted : ∀ text ∈ elements, ¬ element.Refuses text) :
    convertElements element offset elements = .ok (elements.map element.value?) := by
  induction elements generalizing offset with
  | nil => rfl
  | cons head rest hypothesis =>
    obtain ⟨here, later⟩ := List.forall_mem_cons.mp accepted
    rw [convertElements, convert_of_not_refuses here]
    simp only [hypothesis later, Except.map, List.map_cons]

theorem settle_skip (offset : Nat) (items : List (Option Value)) :
    settle element .skip text offset items = .ok (items.filterMap id) := by
  induction items generalizing offset with
  | nil => rfl
  | cons item rest hypothesis => cases item <;> simp [settle, hypothesis, Except.map]

theorem settle_fill (default : Value) (offset : Nat) (items : List (Option Value)) :
    settle element (.fill default) text offset items = .ok (items.map (·.getD default)) := by
  induction items generalizing offset with
  | nil => rfl
  | cons item rest hypothesis => cases item <;> simp [settle, hypothesis, Except.map]

theorem settle_reject (offset : Nat) {items : List (Option Value)} (whole : none ∉ items) :
    settle element .reject text offset items = .ok (items.filterMap id) := by
  induction items generalizing offset with
  | nil => rfl
  | cons item rest hypothesis =>
    rw [List.mem_cons, not_or] at whole
    cases item with
    | none => exact absurd rfl whole.1
    | some value => simp [settle, hypothesis _ whole.2, Except.map]

theorem settle_reject_of_absent {offset position : Nat} {absent : String}
    (accepted : ∀ text ∈ elements, ¬ element.Refuses text)
    (first : FirstAt element.IsAbsent elements position absent) :
    settle element .reject text offset (elements.map element.value?)
      = .error (nullError element (offset + position) text) := by
  induction elements generalizing offset position with
  | nil => cases first.mem
  | cons head rest hypothesis =>
    obtain ⟨here, later⟩ := List.forall_mem_cons.mp accepted
    rw [List.map_cons]
    cases position with
    | zero =>
      obtain ⟨rfl, isAbsent⟩ := FirstAt.zero_iff.mp first
      rw [(value?_eq_none_iff here).mpr isAbsent]
      rfl
    | succ position =>
      obtain ⟨notAbsent, behind⟩ := FirstAt.succ_iff.mp first
      obtain ⟨value, found⟩ : ∃ value, element.value? head = some value :=
        Option.ne_none_iff_exists'.mp (mt (value?_eq_none_iff here).mp notAbsent)
      simp only [found, settle, hypothesis later behind, Except.map]
      congr 2
      omega

/-! ## Part 4 — whole lists -/

theorem convertList_of_absent (nulls : NullHandling Value)
    (every : ∀ item ∈ EscapedList.split text, element.IsAbsent item) :
    convertList element nulls text = .ok none := by
  have accepted : ∀ item ∈ EscapedList.split text, ¬ element.Refuses item :=
    fun item member => not_refuses_of_isAbsent (every item member)
  rw [convertList, convertElements_of_accepted accepted]
  exact if_pos ((all_isNone_iff accepted).mpr every)

theorem convertList_of_usable (nulls : NullHandling Value)
    (usable : Usable element (EscapedList.split text)) :
    convertList element nulls text
      = (settle element nulls text 0 ((EscapedList.split text).map element.value?)).map some := by
  obtain ⟨accepted, item, member, notAbsent⟩ := usable
  have something : ¬ ((EscapedList.split text).map element.value?).all Option.isNone = true := by
    intro nothing
    exact notAbsent ((all_isNone_iff accepted).mp nothing item member)
  rw [convertList, convertElements_of_accepted accepted]
  exact if_neg something

theorem filterMap_id_map (elements : List String) :
    (elements.map element.value?).filterMap id = elements.filterMap element.value? := by
  rw [List.filterMap_map, Function.id_comp]

theorem convertList_of_collects {nulls : NullHandling Value}
    {outcome : Except ConversionError (Option (List Value))}
    (collects : Collects element text nulls outcome) : convertList element nulls text = outcome := by
  cases collects with
  | refused first reason =>
    rw [convertList, convertElements_of_refused first reason, Nat.zero_add]
    rfl
  | absent every => exact convertList_of_absent nulls every
  | skipped usable =>
    rw [convertList_of_usable _ usable, settle_skip, filterMap_id_map]
    rfl
  | filled default usable =>
    rw [convertList_of_usable _ usable, settle_fill, List.map_map]
    rfl
  | complete usable whole =>
    have values : none ∉ (EscapedList.split text).map element.value? := by
      intro member
      obtain ⟨item, inside, none⟩ := List.mem_map.mp member
      exact whole item inside ((value?_eq_none_iff (usable.accepted item inside)).mp none)
    rw [convertList_of_usable _ usable, settle_reject _ values, filterMap_id_map]
    rfl
  | rejected usable first =>
    rw [convertList_of_usable _ usable, settle_reject_of_absent usable.accepted first, Nat.zero_add]
    rfl

/-- A refused element refuses the list. -/
theorem convertList_of_refused {item : String} (nulls : NullHandling Value)
    (member : item ∈ EscapedList.split text) (refuses : element.Refuses item) :
    ∃ error, convertList element nulls text = .error error := by
  obtain ⟨position, refused, first⟩ := FirstAt.exists_of_mem member refuses
  obtain ⟨error, reason⟩ := first.holds
  exact ⟨_, convertList_of_collects (.refused first reason)⟩

theorem exists_collects (element : Converter Value) (text : String) (nulls : NullHandling Value) :
    ∃ outcome, Collects element text nulls outcome := by
  by_cases accepted : ∀ item ∈ EscapedList.split text, ¬ element.Refuses item
  · by_cases every : ∀ item ∈ EscapedList.split text, element.IsAbsent item
    · exact ⟨_, .absent every⟩
    · have usable : Usable element (EscapedList.split text) := ⟨accepted, by simpa using every⟩
      cases nulls with
      | skip => exact ⟨_, .skipped usable⟩
      | fill default => exact ⟨_, .filled default usable⟩
      | reject =>
        by_cases whole : ∀ item ∈ EscapedList.split text, ¬ element.IsAbsent item
        · exact ⟨_, .complete usable whole⟩
        · obtain ⟨item, member, absent⟩ : ∃ item ∈ EscapedList.split text, element.IsAbsent item := by
            simpa using whole
          obtain ⟨position, first, found⟩ := FirstAt.exists_of_mem member absent
          exact ⟨_, .rejected usable found⟩
  · obtain ⟨item, member, refuses⟩ : ∃ item ∈ EscapedList.split text, element.Refuses item := by
      simpa using accepted
    obtain ⟨position, refused, first⟩ := FirstAt.exists_of_mem member refuses
    obtain ⟨error, reason⟩ := first.holds
    exact ⟨_, .refused first reason⟩

/-- **A list becomes exactly what its elements say**: it is refused for the first refused element, else
absent if every element is, and else what the handling of absent elements makes of it. -/
theorem convert_collection_iff (element : Converter Value) (nulls : NullHandling Value)
    (text : String) (outcome : Except ConversionError (Option (List Value))) :
    (element.collection nulls).convert text = outcome ↔ Collects element text nulls outcome := by
  constructor
  · rintro rfl
    obtain ⟨outcome, collects⟩ := exists_collects element text nulls
    show Collects element text nulls (convertList element nulls text)
    rwa [convertList_of_collects collects]
  · exact convertList_of_collects

end LayeredConfig.Conversion
