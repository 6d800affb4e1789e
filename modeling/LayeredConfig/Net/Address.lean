/-
**Network addresses and their texts.**

An address of four bytes is written in decimal with points; one of eight groups in hexadecimal with
colons, where the longest run of at least two zero groups becomes a double colon. A socket address
adds a port, and for eight groups a scope.

* `Ipv4`, `Ipv6`, `Ip`, `Socket`: the kinds of addresses;
* `Ipv6.zeroRun`: the run that the text leaves out, the first of the longest;
* `write` of each kind: the text of an address.
-/

namespace LayeredConfig.Net

/-! ## Part 1 — addresses -/

/-- An address of four bytes. -/
structure Ipv4 where
  first : UInt8
  second : UInt8
  third : UInt8
  fourth : UInt8
deriving DecidableEq, Repr

/-- An address of eight groups of sixteen bits. -/
structure Ipv6 where
  groups : Vector UInt16 8
deriving DecidableEq, Repr

/-- An address of either kind. -/
inductive Ip where
  | v4 (address : Ipv4)
  | v6 (address : Ipv6)
deriving DecidableEq, Repr

/-- An address with a port. -/
inductive Socket where
  | v4 (address : Ipv4) (port : UInt16)
  | v6 (address : Ipv6) (port : UInt16) (scope : UInt32)
deriving DecidableEq, Repr

/-- The bytes of an address in order. -/
def Ipv4.octets (address : Ipv4) : List UInt8 :=
  [address.first, address.second, address.third, address.fourth]

/-- The last two groups of an address that holds four bytes in them. -/
def Ipv4.groups (address : Ipv4) : UInt16 × UInt16 :=
  (address.first.toUInt16 * 256 + address.second.toUInt16,
   address.third.toUInt16 * 256 + address.fourth.toUInt16)

/-! ## Part 2 — writing -/

/-- Four bytes in decimal with points between them. -/
def Ipv4.write (address : Ipv4) : String :=
  ".".intercalate (address.octets.map fun octet => toString octet.toNat)

/-- A group in hexadecimal without leading zeros. -/
def writeGroup (group : UInt16) : String :=
  String.ofList (Nat.toDigits 16 group.toNat)

/-- Groups with colons between them. -/
def writeGroups (groups : List UInt16) : String :=
  ":".intercalate (groups.map writeGroup)

/-- A run of zero groups: where it starts and how long it is. -/
structure ZeroRun where
  start : Nat
  length : Nat
deriving DecidableEq, Repr

/-- The first of the longest runs of zeros in groups that stand behind `position` others; `current`
is the run that ends there and `longest` the longest so far. -/
def longestZeroRun (position : Nat) (current longest : ZeroRun) : List UInt16 → ZeroRun
  | [] => longest
  | group :: rest =>
    if group = 0 then
      let current :=
        if current.length = 0 then ⟨position, 1⟩ else ⟨current.start, current.length + 1⟩
      let longest := if longest.length < current.length then current else longest
      longestZeroRun (position + 1) current longest rest
    else longestZeroRun (position + 1) ⟨0, 0⟩ longest rest

/-- The run of zero groups that the text of an address may leave out. -/
def Ipv6.zeroRun (address : Ipv6) : ZeroRun :=
  longestZeroRun 0 ⟨0, 0⟩ ⟨0, 0⟩ address.groups.toList

/-- The four bytes of an address that maps one of four bytes. -/
def Ipv6.mapped? (address : Ipv6) : Option Ipv4 :=
  match address.groups.toList with
  | [0, 0, 0, 0, 0, 0xFFFF, high, low] =>
    some ⟨(high / 256).toUInt8, (high % 256).toUInt8, (low / 256).toUInt8, (low % 256).toUInt8⟩
  | _ => none

/-- Eight groups, the longest run of zeros left out; a mapped address shows its four bytes. -/
def Ipv6.write (address : Ipv6) : String :=
  match address.mapped? with
  | some mapped => "::ffff:" ++ mapped.write
  | none =>
    let groups := address.groups.toList
    let run := address.zeroRun
    if 1 < run.length then
      writeGroups (groups.take run.start) ++ "::"
        ++ writeGroups (groups.drop (run.start + run.length))
    else writeGroups groups

/-- The text of an address of either kind. -/
def Ip.write : Ip → String
  | .v4 address => address.write
  | .v6 address => address.write

/-- An address with its port; a scope is shown unless it is zero. -/
def Socket.write : Socket → String
  | .v4 address port => address.write ++ ":" ++ toString port.toNat
  | .v6 address port scope =>
    let shown := if scope = 0 then "" else "%" ++ toString scope.toNat
    "[" ++ address.write ++ shown ++ "]:" ++ toString port.toNat

end LayeredConfig.Net
