/-
**Reading network addresses.**

A reader takes what it can from the front of a text and answers the rest, or fails and takes
nothing. An address is accepted if its reader leaves no rest.

* `readNumber`: digits of a base, bounded in number or in value;
* `readIpv4`: four bytes without leading zeros;
* `readGroups` and `readIpv6`: groups with at most one double colon, which stands for at least one
  group, and perhaps four bytes in place of the last two;
* `Ipv4.read?`, `Ipv6.read?`, `Ip.read?`, `Socket.read?`: whole texts.
-/

import LayeredConfig.Net.Address

namespace LayeredConfig.Net

/-- Takes something from the front of a text and answers the rest. -/
abbrev Reader (Result : Type) := List Char → Option (Result × List Char)

/-! ## Part 1 — characters and numbers -/

/-- Takes one given character. -/
def readChar (expected : Char) : Reader Unit
  | character :: rest => if character = expected then some ((), rest) else none
  | [] => none

/-- The value of a character as a digit of a base up to sixteen, letters in either case. -/
def digitOf? (base : Nat) (character : Char) : Option Nat :=
  let code := character.toNat
  let value :=
    if character.isDigit then some (code - '0'.toNat)
    else if 'a'.toNat ≤ code ∧ code ≤ 'f'.toNat then some (code - 'a'.toNat + 10)
    else if 'A'.toNat ≤ code ∧ code ≤ 'F'.toNat then some (code - 'A'.toNat + 10)
    else none
  value.filter (· < base)

/-- The digits at the front of a text and the rest. -/
def takeDigits (base : Nat) : List Char → List Nat × List Char
  | [] => ([], [])
  | character :: rest =>
    match digitOf? base character with
    | some digit =>
      let (digits, rest) := takeDigits base rest
      (digit :: digits, rest)
    | none => ([], character :: rest)

/-- The number that digits of a base write. -/
def numberOf (base : Nat) (digits : List Nat) : Nat :=
  digits.foldl (fun total digit => base * total + digit) 0

/-- The number that digits of a base write behind those that gave `total`, as long as it stays below
a limit. -/
def numberBelow? (base limit : Nat) : (total : Nat) → List Nat → Option Nat
  | total, [] => some total
  | total, digit :: rest =>
    let next := base * total + digit
    if next < limit then numberBelow? base limit next rest else none

/-- Takes a number below a limit: all digits of the base at the front, at least one, at most so many
if a count is given, and no leading zero before another digit unless that is allowed. -/
def readNumber (base : Nat) (most : Option Nat) (leadingZero : Bool) (limit : Nat) : Reader Nat :=
  fun text =>
    let (digits, rest) := takeDigits base text
    let tooMany := match most with
      | some count => decide (count < digits.length)
      | none => false
    let padded := digits.head? == some 0 && decide (1 < digits.length)
    if digits.isEmpty || tooMany || (padded && !leadingZero) then none
    else (numberBelow? base limit 0 digits).map fun number => (number, rest)

/-- Takes a separator if something stands before, and then something. -/
def readSeparated {Result : Type} (separator : Char) (first : Bool) (reader : Reader Result) :
    Reader Result := fun text =>
  if first then reader text
  else do
    let ((), rest) ← readChar separator text
    reader rest

/-! ## Part 2 — addresses -/

/-- Takes one of the four bytes. -/
def readOctet (first : Bool) : Reader UInt8 := fun text => do
  let (number, rest) ← readSeparated '.' first (readNumber 10 (some 3) false 256) text
  return (number.toUInt8, rest)

/-- Takes an address of four bytes. -/
def readIpv4 : Reader Ipv4 := fun text => do
  let (first, rest) ← readOctet true text
  let (second, rest) ← readOctet false rest
  let (third, rest) ← readOctet false rest
  let (fourth, rest) ← readOctet false rest
  return (⟨first, second, third, fourth⟩, rest)

/-- What a row of groups gave: the groups, whether four bytes ended it, and the rest. -/
structure GroupRow where
  groups : List UInt16
  endsInIpv4 : Bool
  rest : List Char

/-- Takes at most so many groups; four bytes may stand for the last two of them. -/
def readGroups : Nat → Bool → List Char → GroupRow
  | 0, _, text => ⟨[], false, text⟩
  | limit + 1, first, text =>
    let embedded := if 1 ≤ limit then readSeparated ':' first readIpv4 text else none
    match embedded with
    | some (address, rest) => ⟨[address.groups.1, address.groups.2], true, rest⟩
    | none =>
      match readSeparated ':' first (readNumber 16 (some 4) true 65536) text with
      | some (group, rest) =>
        let row := readGroups limit false rest
        { row with groups := group.toUInt16 :: row.groups }
      | none => ⟨[], false, text⟩

/-- Eight groups with zeros between the first and the last ones; groups beyond eight are dropped. -/
def Ipv6.ofEnds (front back : List UInt16) : Ipv6 :=
  let zeros := List.replicate (8 - front.length - back.length) 0
  let groups := front ++ zeros ++ back
  ⟨Vector.ofFn fun position : Fin 8 => groups.getD position.1 0⟩

/-- Takes an address of eight groups. -/
def readIpv6 : Reader Ipv6 := fun text => do
  let front := readGroups 8 true text
  if front.groups.length = 8 then return (Ipv6.ofEnds front.groups [], front.rest)
  else if front.endsInIpv4 then none
  else
    let ((), rest) ← readChar ':' front.rest
    let ((), rest) ← readChar ':' rest
    let back := readGroups (8 - (front.groups.length + 1)) true rest
    return (Ipv6.ofEnds front.groups back.groups, back.rest)

/-- Takes an address of either kind. -/
def readIp : Reader Ip := fun text =>
  match readIpv4 text with
  | some (address, rest) => some (.v4 address, rest)
  | none => (readIpv6 text).map fun (address, rest) => (.v6 address, rest)

/-- Takes a colon and a port. -/
def readPort : Reader UInt16 := fun text => do
  let ((), rest) ← readChar ':' text
  let (number, rest) ← readNumber 10 none true 65536 rest
  return (number.toUInt16, rest)

/-- Takes a percent sign and a scope; without them the scope is zero. -/
def readScope (text : List Char) : UInt32 × List Char :=
  let scope := do
    let ((), rest) ← readChar '%' text
    readNumber 10 none true (Nat.pow 2 32) rest
  match scope with
  | some (number, rest) => (number.toUInt32, rest)
  | none => (0, text)

/-- Takes an address of four bytes and its port. -/
def readSocketV4 : Reader Socket := fun text => do
  let (address, rest) ← readIpv4 text
  let (port, rest) ← readPort rest
  return (.v4 address port, rest)

/-- Takes an address of eight groups in brackets, perhaps with its scope, and its port. -/
def readSocketV6 : Reader Socket := fun text => do
  let ((), rest) ← readChar '[' text
  let (address, rest) ← readIpv6 rest
  let (scope, rest) := readScope rest
  let ((), rest) ← readChar ']' rest
  let (port, rest) ← readPort rest
  return (.v6 address port scope, rest)

/-! ## Part 3 — whole texts -/

/-- What a reader gives if it leaves no rest. -/
def wholly {Result : Type} (reader : Reader Result) (text : List Char) : Option Result :=
  match reader text with
  | some (result, []) => some result
  | _ => none

/-- The address of four bytes that a text writes. -/
def Ipv4.read? (text : List Char) : Option Ipv4 := wholly readIpv4 text

/-- The address of eight groups that a text writes. -/
def Ipv6.read? (text : List Char) : Option Ipv6 := wholly readIpv6 text

/-- The address of either kind that a text writes. -/
def Ip.read? (text : List Char) : Option Ip := wholly readIp text

/-- The socket address that a text writes. -/
def Socket.read? (text : List Char) : Option Socket :=
  wholly (fun text => (readSocketV4 text).or (readSocketV6 text)) text

end LayeredConfig.Net
