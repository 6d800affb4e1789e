/-
**After any use a trie is an exact map from paths to values.**

Nodes are addressed by names or by lists of pieces, from the root or from a node that was addressed
before; addressing a node adds it, and it may be given a value (`Operation`). Whatever was done with a
trie before, its nodes and values are those of the paths acted on (`ExactMap`):

* `isSome_descend?_focus`: acting on a path adds the nodes on the way to it and no other;
* `focus_of_descend?`: a node that exists is found, and nothing is added;
* `valueAt_after`: a path has the value that was last put at it;
* `labelled_after`: no two branches of a node share a label, since literals and indices come from
  pieces;
* `exactMap_after`: all of this together.
-/

import LayeredConfig.Proofs.Pattern.Canonical
import LayeredConfig.Proofs.Pattern.Specificity

namespace LayeredConfig.Pattern.Trie

variable {Value Result : Type}

/-! ## Part 1 — acting on a path -/

section Focus

variable {action : Trie Value → Result × Trie Value} {trie : Trie Value}

theorem focus_append (path rest : Path) (action : Trie Value → Result × Trie Value) :
    focus (path ++ rest) action = focus path (focus rest action) := by
  induction path with
  | nil => rfl
  | cons segment path hypothesis =>
    funext ⟨value, branches⟩
    rw [List.cons_append, focus, focus, hypothesis]

/-- Acting on a path adds the nodes on the way to it, and no other. -/
theorem isSome_descend?_focus (keeps : ∀ node : Trie Value, (action node).2.branches = node.branches)
    (path other : Path) (ordered : trie.Ordered) :
    ((focus path action trie).2.descend? other).isSome
      ↔ (trie.descend? other).isSome ∨ other <+: path := by
  induction path generalizing other trie with
  | nil =>
    cases other with
    | nil => simp [descend?]
    | cons key more =>
      have same : (action trie).2.child? key = trie.child? key := by rw [child?, keeps, child?]
      simp [focus, descend?, same]
  | cons segment rest hypothesis =>
    obtain ⟨value, branches⟩ := trie
    cases other with
    | nil => simp [descend?]
    | cons key more =>
      have child := ordered.child segment
      obtain ⟨ascending, _⟩ := ordered
      show (((focusBranch segment (focus rest action) branches).2.lookup key).bind
          (descend? more)).isSome
        ↔ ((branches.lookup key).bind (descend? more)).isSome ∨ key :: more <+: segment :: rest
      rw [List.cons_prefix_cons]
      by_cases same : key = segment
      · subst same
        rw [(focusBranch_self ascending).2, Option.bind_some, hypothesis more child]
        cases branches.lookup key with
        | some node => simp
        | none =>
          -- A missing node is entered as the empty one, which has no node below it.
          cases more with
          | nil => simp [descend?]
          | cons second more =>
            show (descend? (second :: more) (.node none [])).isSome = true ∨ _ ↔ _
            simp [descend?, child?, Trie.branches]
      · rw [lookup_focusBranch_of_ne same]
        simp [same]

/-- An action that leaves the node of a branch leaves all branches. -/
theorem focusBranch_of_lookup {segment : Segment} {branches : List (Segment × Trie Value)}
    {node : Trie Value} (ascending : Ascending branches) (found : branches.lookup segment = some node)
    (leaves : (action node).2 = node) : (focusBranch segment action branches).2 = branches := by
  induction branches with
  | nil => cases found
  | cons branch rest hypothesis =>
    obtain ⟨key, child⟩ := branch
    obtain ⟨first, later⟩ := List.pairwise_cons.mp ascending
    unfold focusBranch
    by_cases same : key = segment
    · subst same
      rw [List.lookup_cons_self, Option.some.injEq] at found
      subst found
      rw [if_pos rfl]
      simp [leaves]
    · have apart : (segment == key) = false := beq_eq_false_iff_ne.mpr (Ne.symm same)
      rw [List.lookup_cons, apart] at found
      have notEarlier : ¬ segment.before key = true := by
        intro earlier
        have absent : rest.lookup segment = none :=
          lookup_eq_none_of_before fun branch member =>
            lt_of_lt_of_le ((Segment.before_iff _ _).mp earlier) (first branch member)
        rw [absent] at found
        cases found
      rw [if_neg same, if_neg notEarlier]
      simp [hypothesis later found]

/-- An action that leaves the node of a path leaves the trie. -/
theorem focus_of_descend? {path : Path} {node : Trie Value} (ordered : trie.Ordered)
    (found : trie.descend? path = some node) (leaves : (action node).2 = node) :
    (focus path action trie).2 = trie := by
  induction path generalizing trie with
  | nil =>
    obtain rfl := Option.some.inj found
    exact leaves
  | cons segment rest hypothesis =>
    obtain ⟨child, branch, below⟩ := Option.bind_eq_some_iff.mp found
    obtain ⟨value, branches⟩ := trie
    obtain ⟨ascending, children⟩ := ordered
    obtain ⟨before, after, rfl, _⟩ := List.lookup_eq_some_iff.mp branch
    have kept := hypothesis (children (segment, child) (by simp)) below
    show Trie.node value (focusBranch segment (focus rest action) _).2 = _
    rw [focusBranch_of_lookup ascending branch kept]

end Focus

/-! ## Part 2 — labels of branches -/

theorem place_injective {first second : Segment} (one : first.WellFormed) (other : second.WellFormed)
    (same : first.place = second.place) : first = second := by
  obtain ⟨rank, label⟩ := Prod.mk.injEq .. ▸ toLex_inj.mp same
  exact Segment.eq_of_label one other rank label

/-- Every node has branches of well-formed segments only, in strict order. -/
inductive Labelled : Trie Value → Prop
  | node {value : Option Value} {branches : List (Segment × Trie Value)}
      (strict : branches.Pairwise fun first second => first.1.place < second.1.place)
      (wellFormed : ∀ branch ∈ branches, branch.1.WellFormed)
      (children : ∀ branch ∈ branches, Labelled branch.2) : Labelled (.node value branches)

theorem labelled_empty : Labelled (empty : Trie Value) :=
  .node .nil (fun _ member => by cases member) fun _ member => by cases member

theorem Labelled.ordered {trie : Trie Value} (labelled : trie.Labelled) : trie.Ordered := by
  induction labelled with
  | node strict wellFormed children hypothesis => exact .node (strict.imp le_of_lt) hypothesis

theorem strict_focusBranch {segment : Segment} {action : Trie Value → Result × Trie Value}
    {branches : List (Segment × Trie Value)} (known : segment.WellFormed)
    (wellFormed : ∀ branch ∈ branches, branch.1.WellFormed)
    (strict : branches.Pairwise fun first second => first.1.place < second.1.place) :
    (focusBranch segment action branches).2.Pairwise
      fun first second => first.1.place < second.1.place := by
  induction branches with
  | nil => exact List.pairwise_singleton _ _
  | cons branch rest hypothesis =>
    obtain ⟨key, child⟩ := branch
    obtain ⟨first, later⟩ := List.pairwise_cons.mp strict
    obtain ⟨here, behind⟩ := List.forall_mem_cons.mp wellFormed
    unfold focusBranch
    by_cases same : key = segment
    · subst same
      rw [if_pos rfl]
      exact List.pairwise_cons.mpr ⟨first, later⟩
    · rw [if_neg same]
      by_cases earlier : segment.before key
      · have smaller := (Segment.before_iff _ _).mp earlier
        rw [if_pos earlier]
        refine List.pairwise_cons.mpr ⟨fun branch member => ?_, strict⟩
        rcases List.mem_cons.mp member with rfl | member
        · exact smaller
        · exact smaller.trans (first branch member)
      · have notSmaller : ¬ segment.place < key.place := mt (Segment.before_iff _ _).mpr earlier
        have greater : key.place < segment.place :=
          lt_of_le_of_ne (not_lt.mp notSmaller) (mt (place_injective here known) same)
        rw [if_neg earlier]
        refine List.pairwise_cons.mpr ⟨fun branch member => ?_, hypothesis behind later⟩
        rcases mem_focusBranch member with old | ⟨new, _⟩
        · exact first branch old
        · rw [new]
          exact greater

theorem labelled_focus {action : Trie Value → Result × Trie Value}
    (keeps : ∀ node : Trie Value, node.Labelled → (action node).2.Labelled) {path : Path}
    (known : ∀ segment ∈ path, segment.WellFormed) {trie : Trie Value} (labelled : trie.Labelled) :
    (focus path action trie).2.Labelled := by
  induction path generalizing trie with
  | nil => exact keeps trie labelled
  | cons segment rest hypothesis =>
    obtain ⟨here, behind⟩ := List.forall_mem_cons.mp known
    obtain ⟨strict, wellFormed, children⟩ := labelled
    refine .node (strict_focusBranch here wellFormed strict) (fun branch member => ?_)
      fun branch member => ?_
    · rcases mem_focusBranch member with old | ⟨new, _⟩
      · exact wellFormed branch old
      · exact new ▸ here
    · rcases mem_focusBranch member with old | ⟨_, node, origin, changed⟩
      · exact children branch old
      · rw [changed]
        rcases origin with rfl | old
        · exact hypothesis behind labelled_empty
        · exact hypothesis behind (children _ old)

theorem Labelled.descend? {trie node : Trie Value} (labelled : trie.Labelled) {path : Path}
    (found : trie.descend? path = some node) : node.Labelled := by
  induction path generalizing trie with
  | nil => exact Option.some.inj found ▸ labelled
  | cons segment rest hypothesis =>
    obtain ⟨child, branch, below⟩ := Option.bind_eq_some_iff.mp found
    obtain ⟨_, _, children⟩ := labelled
    obtain ⟨before, after, rfl, _⟩ := List.lookup_eq_some_iff.mp branch
    exact hypothesis (children (segment, child) (by simp)) below

/-! ## Part 3 — what is done with a trie -/

/-- What names a node, from the root or from another node. -/
inductive Address where
  /-- A name, which is cut at its dots. -/
  | name (name : String)
  /-- Pieces that are not cut at dots. -/
  | pieces (pieces : List String)

/-- The path that an address stands for. -/
def Address.path : Address → Path
  | .name text => Path.parse text
  | .pieces texts => Path.ofPieces texts

/-- The path of the node that some addresses lead to, each from the node of the one before. -/
def pathOf (addresses : List Address) : Path := addresses.flatMap Address.path

@[simp]
theorem Address.path_name (text : String) : (Address.name text).path = Path.parse text := rfl

@[simp]
theorem Address.path_pieces (texts : List String) : (pieces texts).path = Path.ofPieces texts := rfl

@[simp]
theorem pathOf_nil : pathOf [] = [] := rfl

@[simp]
theorem pathOf_cons (address : Address) (rest : List Address) :
    pathOf (address :: rest) = address.path ++ pathOf rest := List.flatMap_cons

/-- Something that is done with a trie. -/
inductive Operation (Value : Type) where
  /-- Finds or adds the node that some addresses lead to. -/
  | add (addresses : List Address)
  /-- Gives that node a value. -/
  | put (addresses : List Address) (new : Value)

/-- The path on which an operation acts. -/
def Operation.path : Operation Value → Path
  | .add addresses | .put addresses _ => pathOf addresses

/-- What an operation does with its node; the answer is the value that the node had. -/
def Operation.act : Operation Value → Trie Value → Option Value × Trie Value
  | .add _, trie => (trie.value, trie)
  | .put _ new, trie => swapValue new trie

/-- Goes from node to node, acts on the last one, and answers what the action answers. -/
def follow (addresses : List Address) (action : Trie Value → Result × Trie Value) :
    Trie Value → Result × Trie Value :=
  addresses.foldr (fun address => focus address.path) action

/-- The answer of an operation, and the trie after it. -/
def perform : Operation Value → Trie Value → Option Value × Trie Value
  | .add addresses => follow addresses (Operation.add addresses).act
  | .put addresses new => follow addresses (Operation.put addresses new).act

/-- The trie after some operations, the empty one at first. -/
def after (history : List (Operation Value)) : Trie Value :=
  history.foldl (fun trie operation => (perform operation trie).2) empty

theorem follow_eq_focus (addresses : List Address) (action : Trie Value → Result × Trie Value) :
    follow addresses action = focus (pathOf addresses) action := by
  induction addresses with
  | nil => rfl
  | cons address rest hypothesis =>
    show focus address.path (follow rest action) = _
    rw [hypothesis, ← focus_append]
    rfl

theorem perform_eq_focus (operation : Operation Value) :
    perform operation = focus operation.path operation.act := by
  cases operation with
  | add addresses | put addresses => exact follow_eq_focus addresses _

theorem answer_act (operation : Operation Value) (node : Trie Value) :
    (operation.act node).1 = node.value := by
  cases node
  cases operation with
  | add | put => rfl

theorem branches_act (operation : Operation Value) (node : Trie Value) :
    (operation.act node).2.branches = node.branches := by
  obtain ⟨value, branches⟩ := node
  cases operation with
  | add | put => rfl

theorem labelled_act (operation : Operation Value) {node : Trie Value} (labelled : node.Labelled) :
    (operation.act node).2.Labelled := by
  obtain ⟨strict, wellFormed, children⟩ := labelled
  cases operation with
  | add | put => exact .node strict wellFormed children

theorem wellFormed_path (operation : Operation Value) :
    ∀ segment ∈ operation.path, segment.WellFormed := by
  have ofAddress : ∀ address : Address, ∀ segment ∈ address.path, segment.WellFormed := by
    intro address segment member
    cases address with
    | name text => exact (Path.canonical_parse text segment member).wellFormed
    | pieces texts =>
      obtain ⟨piece, _, inside⟩ := List.mem_flatMap.mp member
      exact Segment.wellFormed_ofPiece inside
  intro segment member
  cases operation with
  | add addresses | put addresses =>
    obtain ⟨address, _, inside⟩ := List.mem_flatMap.mp member
    exact ofAddress address segment inside

theorem labelled_perform (operation : Operation Value) {trie : Trie Value}
    (labelled : trie.Labelled) : (perform operation trie).2.Labelled := by
  rw [perform_eq_focus]
  exact labelled_focus (fun _ => labelled_act operation) (wellFormed_path operation) labelled

theorem answer_perform (operation : Operation Value) {trie : Trie Value} (ordered : trie.Ordered) :
    (perform operation trie).1 = trie.valueAt operation.path := by
  rw [perform_eq_focus, (focus_self ordered).1, answer_act]
  rfl

/-- A path that is not acted on keeps its value. -/
theorem valueAt_perform_of_ne {operation : Operation Value} {trie : Trie Value}
    (ordered : trie.Ordered) {path : Path} (different : path ≠ operation.path) :
    (perform operation trie).2.valueAt path = trie.valueAt path := by
  rw [perform_eq_focus]
  refine valueAt_focus_of_ne ordered (fun node segment rest => ?_) different
  rw [valueAt, valueAt, nodeAt_cons, nodeAt_cons, child?, child?, branches_act]

theorem valueAt_perform_self (operation : Operation Value) {trie : Trie Value}
    (ordered : trie.Ordered) :
    (perform operation trie).2.valueAt operation.path
      = (operation.act (trie.nodeAt operation.path)).2.value := by
  rw [perform_eq_focus, valueAt, nodeAt, (focus_self ordered).2]
  rfl

theorem valueAt_perform_add (addresses : List Address) {trie : Trie Value} (ordered : trie.Ordered)
    (path : Path) : (perform (.add addresses) trie).2.valueAt path = trie.valueAt path := by
  by_cases same : path = (Operation.add addresses : Operation Value).path
  · rw [same, valueAt_perform_self _ ordered]
    rfl
  · exact valueAt_perform_of_ne ordered same

/-- A node that was added is there when it is added again. -/
theorem perform_add_add (addresses : List Address) {trie : Trie Value} (labelled : trie.Labelled) :
    perform (.add addresses) (perform (.add addresses) trie).2 = perform (.add addresses) trie := by
  have ordered := labelled.ordered
  have orderedAgain := (labelled_perform (.add addresses) labelled).ordered
  refine Prod.ext ?_ ?_
  · rw [answer_perform _ orderedAgain, answer_perform _ ordered, valueAt_perform_add addresses ordered]
  · rw [perform_eq_focus] at orderedAgain ⊢
    exact focus_of_descend? orderedAgain (focus_self ordered).2 rfl

/-! ## Part 4 — histories -/

/-- The value that an operation puts at a path, if it puts one there. -/
def Operation.valueFor? (path : Path) : Operation Value → Option Value
  | .add _ => none
  | .put addresses new => if pathOf addresses = path then some new else none

/-- The value that was last put at a path. -/
def lastPut (path : Path) (history : List (Operation Value)) : Option Value :=
  (history.filterMap (Operation.valueFor? path)).getLast?

theorem after_append_singleton (history : List (Operation Value)) (operation : Operation Value) :
    after (history ++ [operation]) = (perform operation (after history)).2 := by
  simp [after]

theorem labelled_after (history : List (Operation Value)) : (after history).Labelled := by
  induction history using List.reverseRecOn with
  | nil => exact labelled_empty
  | append_singleton history operation hypothesis =>
    rw [after_append_singleton]
    exact labelled_perform operation hypothesis

theorem lastPut_append_singleton (path : Path) (history : List (Operation Value))
    (operation : Operation Value) :
    lastPut path (history ++ [operation])
      = (operation.valueFor? path).or (lastPut path history) := by
  rw [lastPut, List.filterMap_append, lastPut]
  cases found : operation.valueFor? path <;> simp [found]

/-- **A path has the value that was last put at it.** -/
theorem valueAt_after (path : Path) (history : List (Operation Value)) :
    (after history).valueAt path = lastPut path history := by
  induction history using List.reverseRecOn with
  | nil => exact congrArg value (nodeAt_empty path)
  | append_singleton history operation hypothesis =>
    have ordered := (labelled_after history).ordered
    rw [after_append_singleton, lastPut_append_singleton, ← hypothesis]
    cases operation with
    | add addresses => exact valueAt_perform_add addresses ordered path
    | put addresses new =>
      by_cases same : pathOf addresses = path
      · subst same
        rw [Operation.valueFor?, if_pos rfl, Option.some_or]
        exact (valueAt_perform_self (.put addresses new) ordered).trans (value_swapValue new _)
      · rw [Operation.valueFor?, if_neg same, Option.none_or]
        exact valueAt_perform_of_ne ordered (Ne.symm same)

/-- **A node exists for each beginning of a path that was acted on, and for no other path.** -/
theorem isSome_descend?_after (path : Path) (history : List (Operation Value)) :
    ((after history).descend? path).isSome
      ↔ path = [] ∨ ∃ operation ∈ history, path <+: operation.path := by
  induction history using List.reverseRecOn with
  | nil => cases path <;> simp [after, descend?, child?, empty, Trie.branches]
  | append_singleton history operation hypothesis =>
    have ordered := (labelled_after history).ordered
    rw [after_append_singleton, perform_eq_focus,
      isSome_descend?_focus (branches_act operation) _ _ ordered, hypothesis]
    simp only [List.mem_append, List.mem_singleton, or_and_right, exists_or, exists_eq_left, or_assoc]

/-- What makes the trie after some operations a map from paths to values. -/
structure ExactMap (history : List (Operation Value)) : Prop where
  /-- A name has a node exactly if its path is empty or begins a path that was acted on. -/
  isSome_iff : ∀ name, ((after history).descend? (Path.parse name)).isSome
    ↔ Path.parse name = [] ∨ ∃ operation ∈ history, Path.parse name <+: operation.path
  /-- The value of that node is the last one that was put at its path. -/
  value_eq : ∀ name node, (after history).descend? (Path.parse name) = some node →
    node.value = lastPut (Path.parse name) history
  /-- To put a value answers the value that was there. -/
  answer_put : ∀ addresses new,
    (perform (.put addresses new) (after history)).1 = lastPut (pathOf addresses) history
  /-- It leaves the values of all names that have another path. -/
  value_put_of_ne : ∀ addresses new name, Path.parse name ≠ pathOf addresses →
    ((perform (.put addresses new) (after history)).2.descend? (Path.parse name)).bind value
      = ((after history).descend? (Path.parse name)).bind value
  /-- To add a node leaves what every query finds. -/
  lookup_add : ∀ addresses name,
    (perform (.add addresses) (after history)).2.lookup (Path.parse name)
      = (after history).lookup (Path.parse name)
  /-- To add it again answers the same and leaves the trie. -/
  add_add : ∀ addresses,
    perform (.add addresses) (perform (.add addresses) (after history)).2
      = perform (.add addresses) (after history)
  /-- No two branches of a node that are of one rank have one label. -/
  labels : ∀ path node, (after history).descend? path = some node →
    node.branches.Pairwise fun first second =>
      first.1.rank = second.1.rank → first.1.label ≠ second.1.label

theorem bind_value_descend? (path : Path) (trie : Trie Value) :
    (trie.descend? path).bind value = trie.valueAt path := by
  rw [valueAt, nodeAt]
  cases trie.descend? path <;> rfl

/-- **After any use a trie is an exact map from paths to values.** -/
theorem exactMap_after (history : List (Operation Value)) : ExactMap history := by
  have labelled := labelled_after history
  have ordered := labelled.ordered
  constructor
  case isSome_iff => exact fun name => isSome_descend?_after _ history
  case value_eq =>
    intro name node found
    rw [← valueAt_after, ← bind_value_descend?, found, Option.bind_some]
  case answer_put =>
    intro addresses new
    rw [answer_perform _ ordered, valueAt_after]
    rfl
  case value_put_of_ne =>
    intro addresses new name different
    rw [bind_value_descend?, bind_value_descend?]
    exact valueAt_perform_of_ne ordered different
  case lookup_add =>
    intro addresses name
    simp only [lookup_eq_findSome?_variants, valueAt_perform_add addresses ordered]
  case add_add => exact fun addresses => perform_add_add addresses labelled
  case labels =>
    intro path node found
    obtain ⟨strict, _, _⟩ := labelled.descend? found
    refine strict.imp fun {first second} before rank label => ?_
    rw [Segment.place, Segment.place, rank, label] at before
    exact lt_irrefl _ before

/-- A node that was reached from another one is the same as by its whole name, and a wildcard is a node
of its own. -/
example :
    let history : List (Operation Nat) :=
      [.put [.name "a", .pieces ["b[1]"]] 1, .add [.name "a.*"], .put [.name "a.b"] 2]
    (perform (.put [.name "a.b[1]"] 3) (after history)).1 = some 1
      ∧ ((after history).descend? (Path.parse "a.*")).isSome
      ∧ ((after history).descend? (Path.parse "a.c")).isNone := by decide +kernel

end LayeredConfig.Pattern.Trie
