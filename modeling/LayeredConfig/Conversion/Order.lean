/-
**The order of values, and sets of values.**

Lists of values may be gathered into sets. For that the values of every type are put in an order:
numbers by size, texts by their characters, paths by their components, addresses by their groups.

* `Builtin.compare`: the order of the values of a type;
* `Builtin.zero`: the value that takes the place of an absent element;
* `latest` and `earliest`: the elements of a list in ascending order, of equal ones the last or the
  first.
-/

import LayeredConfig.Conversion.Builtin
import LayeredConfig.Text.Separated

namespace LayeredConfig.Conversion

open LayeredConfig.Number LayeredConfig.Time LayeredConfig.Net

/-! ## Part 1 — orders -/

/-- Lists are compared element by element, and a list that ends first is the smaller one. -/
def compareLists {Value : Type} (order : Value → Value → Ordering) :
    List Value → List Value → Ordering
  | [], [] => .eq
  | [], _ :: _ => .lt
  | _ :: _, [] => .gt
  | first :: firsts, second :: seconds =>
    (order first second).then (compareLists order firsts seconds)

/-- One step of a path. -/
inductive PathComponent where
  | root
  | here
  | up
  | named (name : String)
deriving DecidableEq, Repr

namespace PathComponent

/-- The rank of a component among those of other forms. -/
def rank : PathComponent → Nat
  | root => 0
  | here => 1
  | up => 2
  | named _ => 3

/-- The name of a component, empty unless it has one. -/
def name : PathComponent → String
  | named name => name
  | _ => ""

/-- Components are compared by rank, and names by their characters. -/
def order (first second : PathComponent) : Ordering :=
  (compare first.rank second.rank).then (compare first.name second.name)

/-- The component of a piece that stands behind others; pieces that change nothing have none. -/
def ofPiece (piece : List Char) : Option PathComponent :=
  if piece = [] ∨ piece = ['.'] then none
  else if piece = ['.', '.'] then some up
  else some (named (String.ofList piece))

/-- The components of a path. -/
def ofPath (path : List Char) : List PathComponent :=
  match Text.cutAt '/' path with
  | [] => []
  | first :: rest =>
    let start :=
      if first = [] then (if path = [] then [] else [root])
      else if first = ['.'] then [here]
      else (ofPiece first).toList
    start ++ rest.filterMap ofPiece

end PathComponent

/-- Addresses of four bytes come before those of eight groups. -/
def compareIps : Ip → Ip → Ordering
  | .v4 first, .v4 second => compareLists compare first.octets second.octets
  | .v4 _, .v6 _ => .lt
  | .v6 _, .v4 _ => .gt
  | .v6 first, .v6 second => compareLists compare first.groups.toList second.groups.toList

/-- Socket addresses are compared by address, then by port, then by scope. -/
def compareSockets : Socket → Socket → Ordering
  | .v4 first firstPort, .v4 second secondPort =>
    (compareIps (.v4 first) (.v4 second)).then (compare firstPort secondPort)
  | .v4 _ _, .v6 _ _ _ => .lt
  | .v6 _ _ _, .v4 _ _ => .gt
  | .v6 first firstPort firstScope, .v6 second secondPort secondScope =>
    ((compareIps (.v6 first) (.v6 second)).then (compare firstPort secondPort)).then
      (compare firstScope secondScope)

/-- The order of the values of a type; floating-point numbers are ordered by their bits. -/
def Builtin.compare : (type : Builtin) → type.Value → type.Value → Ordering
  | .text, first, second => Ord.compare (α := String) first second
  | .boolean, first, second => Ord.compare (α := Bool) first second
  | .duration, first, second =>
    (Ord.compare (Duration.seconds first) (Duration.seconds second)).then
      (Ord.compare (Duration.nanoseconds first) (Duration.nanoseconds second))
  | .integer _, first, second => Ord.compare (Integer.value first) (Integer.value second)
  | .single, first, second => Ord.compare (Binary.bits first) (Binary.bits second)
  | .double, first, second => Ord.compare (Binary.bits first) (Binary.bits second)
  | .character, first, second => Ord.compare (α := Char) first second
  | .path, first, second =>
    compareLists PathComponent.order (PathComponent.ofPath (String.toList first))
      (PathComponent.ofPath (String.toList second))
  | .ip, first, second => compareIps first second
  | .ipv4, first, second => compareIps (.v4 first) (.v4 second)
  | .ipv6, first, second => compareIps (.v6 first) (.v6 second)
  | .socket, first, second => compareSockets first second

/-- The value that takes the place of an absent element. -/
def Builtin.zero : (type : Builtin) → type.Value
  | .text => ""
  | .boolean => false
  | .duration => Duration.zero
  | .integer _ => Integer.zero
  | .single => Binary.zero
  | .double => Binary.zero
  | .character => '\x00'
  | .path => ""
  | .ip => .v4 ⟨0, 0, 0, 0⟩
  | .ipv4 => ⟨0, 0, 0, 0⟩
  | .ipv6 => ⟨Vector.replicate 8 0⟩
  | .socket => .v4 ⟨0, 0, 0, 0⟩ 0

/-! ## Part 2 — sets -/

section

variable {Value : Type}

/-- Joins equal neighbours among ascending values behind a value that is kept; of two equal ones the
later one is kept if it replaces the earlier one. -/
def joinEqual (order : Value → Value → Ordering) (replaces : Bool) : Value → List Value → List Value
  | kept, [] => [kept]
  | kept, next :: rest =>
    if order kept next = .eq then joinEqual order replaces (if replaces then next else kept) rest
    else kept :: joinEqual order replaces next rest

/-- The values in ascending order, of equal ones the last or the first. Sorting leaves equal values
in the order in which they stand. -/
def ascendingValues (order : Value → Value → Ordering) (replaces : Bool) (values : List Value) :
    List Value :=
  match values.mergeSort fun first second => order first second != .gt with
  | [] => []
  | first :: rest => joinEqual order replaces first rest

/-- The values in ascending order, of equal ones the last. -/
def latest (order : Value → Value → Ordering) (values : List Value) : List Value :=
  ascendingValues order true values

/-- The values in ascending order, of equal ones the first. -/
def earliest (order : Value → Value → Ordering) (values : List Value) : List Value :=
  ascendingValues order false values

end

end LayeredConfig.Conversion
