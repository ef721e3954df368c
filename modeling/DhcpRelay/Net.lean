import DhcpRelay.Library.Bytes
import Mathlib.Tactic.DeriveEncodable

/-!
# DhcpRelay.Net

Internet addresses as the standard library has them, and its textual parsers.

`InterfaceConfig::ip_addr` is free text. The agent cuts it at the first `:` and
parses the piece as an `Ipv4Addr`, parses the whole as a `SocketAddr`, and
builds new text from it, so the grammar of `std::net`'s parser decides which
addresses an interface ends up with. `Parse` follows that parser: each function
takes the remaining input and returns the value read and what is left, or
`none` with the input untouched (`read_atomically`).
-/

namespace DhcpRelay

open DhcpRelay.Library

/-- An IPv4 address, octet by octet. -/
structure Ipv4Addr where
  a : UInt8
  b : UInt8
  c : UInt8
  d : UInt8
  deriving DecidableEq, Encodable, Repr

namespace Ipv4Addr

/-- `Ipv4Addr::UNSPECIFIED`, that is 0.0.0.0. -/
def unspecified : Ipv4Addr := ⟨0, 0, 0, 0⟩

/-- 255.255.255.255. -/
def broadcast : Ipv4Addr := ⟨255, 255, 255, 255⟩

def octets (ip : Ipv4Addr) : Bytes := [ip.a, ip.b, ip.c, ip.d]

/-- 224.0.0.0/4. -/
def isMulticast (ip : Ipv4Addr) : Bool := 224 ≤ ip.a && ip.a ≤ 239

instance : ToString Ipv4Addr := ⟨fun ip => s!"{ip.a}.{ip.b}.{ip.c}.{ip.d}"⟩

end Ipv4Addr

/-- An IPv6 address, as its sixteen octets. -/
structure Ipv6Addr where
  octets : Vector UInt8 16
  deriving DecidableEq, Repr

namespace Ipv6Addr

/-- The address with the given sixteen-bit groups; missing groups are zero. -/
def ofSegments (segments : List Nat) : Ipv6Addr where
  octets := Vector.ofFn fun i =>
    let segment := segments.getD (i.val / 2) 0
    if i.val % 2 = 0 then UInt8.ofNat (segment / 256) else UInt8.ofNat segment

/-- `Ipv6Addr::UNSPECIFIED`, that is `::`. -/
def unspecified : Ipv6Addr := ⟨Vector.replicate 16 0⟩

/-- The `i`-th of the eight sixteen-bit groups (`segments()[i]`). -/
def segment (ip : Ipv6Addr) (i : Fin 8) : Nat := be16 ip.octets[2 * i.val] ip.octets[2 * i.val + 1]

/-- ff00::/8. -/
def isMulticast (ip : Ipv6Addr) : Bool := ip.octets[0] == 0xff

/-- An address is determined by its octets. -/
theorem ext_octets {ip ip' : Ipv6Addr} (h : ip.octets.toList = ip'.octets.toList) : ip = ip' := by
  obtain ⟨octets⟩ := ip
  obtain ⟨octets'⟩ := ip'
  exact congrArg Ipv6Addr.mk (Vector.toList_inj.mp h)

end Ipv6Addr

/-- An address of either family. -/
inductive IpAddr
  | v4 (ip : Ipv4Addr)
  | v6 (ip : Ipv6Addr)
  deriving DecidableEq, Repr

/-- A socket address of either family. -/
inductive SocketAddr
  | v4 (ip : Ipv4Addr) (port : UInt16)
  | v6 (ip : Ipv6Addr) (port : UInt16) (flowinfo scopeId : UInt32)
  deriving DecidableEq, Repr

namespace SocketAddr

/-- `SocketAddr::new`. -/
def new : IpAddr → UInt16 → SocketAddr
  | .v4 ip, port => .v4 ip port
  | .v6 ip, port => .v6 ip port 0 0

/-- The address without its port. -/
def ip : SocketAddr → IpAddr
  | .v4 ip _ => .v4 ip
  | .v6 ip _ _ _ => .v6 ip

end SocketAddr

/-! ### Parsing -/

namespace Parse

/-- `char::to_digit`, for the two radices the parser uses. -/
def toDigit (radix : Nat) (c : Char) : Option Nat :=
  if '0' ≤ c ∧ c ≤ '9' then some (c.toNat - '0'.toNat)
  else if radix = 16 ∧ 'a' ≤ c ∧ c ≤ 'f' then some (c.toNat - 'a'.toNat + 10)
  else if radix = 16 ∧ 'A' ≤ c ∧ c ≤ 'F' then some (c.toNat - 'A'.toNat + 10)
  else none

/-- `read_given_char`. -/
def givenChar (c : Char) : List Char → Option (List Char)
  | [] => none
  | d :: rest => if d = c then some rest else none

/-- `read_separator`: the separator stands before every element but the first. -/
def separator (c : Char) (first : Bool) (s : List Char) : Option (List Char) :=
  if first then some s else givenChar c s

/-- `read_number`: all digits there are, at most `maxDigits` of them when that is
given, without a leading zero unless one is allowed, and below `bound` (the
number of values of the integer type). -/
def number (radix : Nat) (maxDigits : Option Nat) (allowZeroPrefix : Bool) (bound : Nat)
    (s : List Char) : Option (Nat × List Char) :=
  let isDigit := fun c => (toDigit radix c).isSome
  let digits := s.takeWhile isDigit
  let value := digits.foldl (fun acc c => acc * radix + (toDigit radix c).getD 0) 0
  if digits.isEmpty then none
  else if maxDigits.any (fun m => m < digits.length) then none
  else if !allowZeroPrefix && digits.head? == some '0' && 1 < digits.length then none
  else if value < bound then some (value, s.dropWhile isDigit)
  else none

/-- `read_ipv4_addr`. -/
def ipv4 (s : List Char) : Option (Ipv4Addr × List Char) := do
  let octet := number 10 (some 3) false 256
  let (a, s) ← octet s
  let s ← givenChar '.' s
  let (b, s) ← octet s
  let s ← givenChar '.' s
  let (c, s) ← octet s
  let s ← givenChar '.' s
  let (d, s) ← octet s
  return (⟨UInt8.ofNat a, UInt8.ofNat b, UInt8.ofNat c, UInt8.ofNat d⟩, s)

/-- `read_groups`: up to `slots` colon-separated groups, the last two of which may
be written as an IPv4 address. Also says whether they were. -/
def groups : Nat → Bool → List Char → List Nat × Bool × List Char
  | 0, _, s => ([], false, s)
  | slots + 1, first, s =>
    -- an embedded IPv4 address needs two free slots
    match if 0 < slots then (separator ':' first s).bind ipv4 else none with
    | some (ip, rest) => ([be16 ip.a ip.b, be16 ip.c ip.d], true, rest)
    | none =>
      match (separator ':' first s).bind (number 16 (some 4) true 65536) with
      | none => ([], false, s)
      | some (group, rest) =>
        let (more, embedded, rest) := groups slots false rest
        (group :: more, embedded, rest)

/-- `read_ipv6_addr`: eight groups, or fewer around one `::`. -/
def ipv6 (s : List Char) : Option (Ipv6Addr × List Char) :=
  let (head, embedded, s) := groups 8 true s
  if head.length = 8 then some (.ofSegments head, s)
  else if embedded then none
  else do
    let s ← givenChar ':' s
    let s ← givenChar ':' s
    let (tail, _, s) := groups (7 - head.length) true s
    let zeros := List.replicate (8 - head.length - tail.length) 0
    return (.ofSegments (head ++ zeros ++ tail), s)

/-- `read_port`. -/
def port (s : List Char) : Option (UInt16 × List Char) := do
  let s ← givenChar ':' s
  let (p, s) ← number 10 none true 65536 s
  return (UInt16.ofNat p, s)

/-- `read_scope_id`, with the default the caller takes. -/
def scopeId (s : List Char) : UInt32 × List Char :=
  match (givenChar '%' s).bind (number 10 none true 4294967296) with
  | some (id, rest) => (UInt32.ofNat id, rest)
  | none => (0, s)

/-- `read_socket_addr_v4`. -/
def socketAddrV4 (s : List Char) : Option (SocketAddr × List Char) := do
  let (ip, s) ← ipv4 s
  let (p, s) ← port s
  return (.v4 ip p, s)

/-- `read_socket_addr_v6`. -/
def socketAddrV6 (s : List Char) : Option (SocketAddr × List Char) := do
  let s ← givenChar '[' s
  let (ip, s) ← ipv6 s
  let (scope, s) := scopeId s
  let s ← givenChar ']' s
  let (p, s) ← port s
  return (.v6 ip p 0 scope, s)

/-- `parse_with`: the whole input must be read. -/
def whole {α : Type} (p : List Char → Option (α × List Char)) (s : List Char) : Option α :=
  match p s with
  | some (a, []) => some a
  | _ => none

end Parse

/-- `<Ipv4Addr as FromStr>::from_str`. -/
def Ipv4Addr.parse (s : List Char) : Option Ipv4Addr := Parse.whole Parse.ipv4 s

/-- `<SocketAddr as FromStr>::from_str`: an IPv4 socket address, or else an IPv6 one. -/
def SocketAddr.parse (s : List Char) : Option SocketAddr :=
  Parse.whole (fun s => (Parse.socketAddrV4 s).or (Parse.socketAddrV6 s)) s

example : SocketAddr.parse "10.0.0.1:67".toList = some (.v4 ⟨10, 0, 0, 1⟩ 67) := by decide

example : SocketAddr.parse "[2001:db8::1]:547".toList
    = some (.v6 (.ofSegments [0x2001, 0xdb8, 0, 0, 0, 0, 0, 1]) 547 0 0) := by decide +kernel

/-- What `s.split(':').next()` yields: the text before the first colon. -/
def beforeColon (s : List Char) : List Char := s.takeWhile (· ≠ ':')

end DhcpRelay
