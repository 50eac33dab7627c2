import NetstackSuite.Lib.Prefix
import NetstackSuite.Python.Int

/-!
# Python `ipaddress`

Parsing and printing of IPv4 and IPv6 addresses, and networks with their containment test, as the
`ipaddress` module computes them. `none` stands for `AddressValueError` and `NetmaskValueError`, which
do not leave the module: its two entry points turn them into `ValueError`.

`AddressBlock.contains_iff` says what containment means: the same bits up to the prefix length.
-/

namespace NetstackSuite.Python

open NetstackSuite.Lib

/-! ## IPv4 -/

/-- Source: ASCII. Kind: D -/
def DOT : CodePoint := 0x2E

/-- Source: ASCII. Kind: D -/
def COLON : CodePoint := 0x3A

/-- Source: ASCII. Kind: D -/
def SLASH : CodePoint := 0x2F

/-- Source: ASCII. Kind: D -/
def PERCENT : CodePoint := 0x25

/-- `'.'.join(parts)`, for any separator.
Source: Python `str.join`
Kind: D -/
def join (sep : PyStr) (parts : List PyStr) : PyStr := sep.intercalate parts

/-- A decimal octet, without leading zeros.
Source: Python `ipaddress` `_BaseV4._parse_octet`
Kind: D -/
def parseOctet (s : PyStr) : Option Nat :=
  if ¬ IsDecimal s then none
  else if 3 < s.length then none
  else if s ≠ text "0" ∧ s.head? = some 0x30 then none
  else if 255 < decimalValue s then none
  else some (decimalValue s)

/-- The number whose digits in the given base these are, most significant first.
Source: Python `int.from_bytes`
Kind: D -/
def ofBigEndian (base : Nat) (digits : List Nat) : Nat := digits.foldl (fun n d => n * base + d) 0

/-- Four octets between dots.
Source: Python `ipaddress` `_BaseV4._ip_int_from_string`
Kind: D -/
def ipv4OfText (s : PyStr) : Option (BitVec 32) :=
  let octets := s.splitOn DOT
  if s = [] ∨ octets.length ≠ 4 then none
  else (octets.mapM parseOctet).map fun values => BitVec.ofNat 32 (ofBigEndian 256 values)

/-- `IPv4Address(s)` for a text.
Source: Python `ipaddress` `IPv4Address.__init__`
Kind: D -/
def ipv4Address (s : PyStr) : Option (BitVec 32) :=
  if SLASH ∈ s then none else ipv4OfText s

/-- The bytes of a word, most significant first.
Source: Python `int.to_bytes`
Kind: D -/
def bigEndian (n : Nat) : Nat → Bytes
  | 0 => []
  | count + 1 => UInt8.ofNat (n / 256 ^ count) :: bigEndian n count

/-- The number that bytes denote, most significant first.
Source: Python `int.from_bytes`
Kind: D -/
def fromBigEndian (data : Bytes) : Nat := ofBigEndian 256 (data.map UInt8.toNat)

/-- Dotted decimal notation.
Source: Python `ipaddress` `_BaseV4._string_from_ip_int`
Kind: D -/
def ipv4Text (ip : BitVec 32) : PyStr :=
  join [DOT] ((bigEndian ip.toNat 4).map fun b => decimal b.toNat)

/-! ## IPv6 -/

/-- Up to four hexadecimal digits.
Source: Python `ipaddress` `_BaseV6._parse_hextet`
Kind: D -/
def parseHextet (s : PyStr) : Option Nat :=
  if s = [] ∨ 4 < s.length then none
  else (s.mapM Json.hexVal).map (ofBigEndian 16)

/-- One lowercase hexadecimal digit.
Source: Python `'%x'`
Kind: D -/
def hexDigit (n : Nat) : CodePoint := if n < 10 then chr (0x30 + n) else chr (0x61 + n - 10)

/-- `'%x' % n` for a number of at most sixteen bits.
Source: Python `'%x'`
Kind: D -/
def hextetText (n : Nat) : PyStr :=
  let digits := [n / 4096 % 16, n / 256 % 16, n / 16 % 16, n % 16]
  let significant := digits.dropWhile fun d => d = 0
  if significant = [] then [hexDigit 0] else significant.map hexDigit

/-- A last part in IPv4 notation becomes two hextets.
Source: Python `ipaddress` `_BaseV6._ip_int_from_string`
Kind: D -/
def expandIpv4Suffix (parts : List PyStr) : Option (List PyStr) :=
  let last := parts.getLastD []
  if DOT ∈ last then
    (ipv4Address last).map fun ip =>
      parts.dropLast ++ [hextetText (ip.toNat / 65536), hextetText (ip.toNat % 65536)]
  else some parts

/-- Of `count` parts beside a `::`, those that are there: none if the outermost is empty, which is
allowed only as part of the `::`.
Source: Python `ipaddress` `_BaseV6._ip_int_from_string`
Kind: D -/
def partsBeside (count : Nat) (outermost : PyStr) : Option Nat :=
  if outermost = [] then (if count = 1 then some 0 else none) else some count

/-- The parts between the colons, as a number.
Source: Python `ipaddress` `_BaseV6._ip_int_from_string`
Kind: D -/
def ipv6OfParts (parts : List PyStr) : Option (BitVec 128) := do
  let skips := (List.range parts.length).filter fun i =>
    0 < i ∧ i + 1 < parts.length ∧ parts.getD i [] = []
  match skips with
  | [] =>
    if parts.length ≠ 8 then none
    else
      let hextets ← parts.mapM parseHextet
      return BitVec.ofNat 128 (ofBigEndian 65536 hextets)
  | [skip] =>
    let high ← partsBeside skip (parts.headD [])
    let low ← partsBeside (parts.length - skip - 1) (parts.getLastD [])
    if 8 ≤ high + low then none
    else
      let highHextets ← (parts.take high).mapM parseHextet
      let lowHextets ← (parts.drop (parts.length - low)).mapM parseHextet
      return BitVec.ofNat 128 (ofBigEndian 65536
        (highHextets ++ List.replicate (8 - (high + low)) 0 ++ lowHextets))
  | _ => none

/-- Source: Python `ipaddress` `_BaseV6._ip_int_from_string`. Kind: D -/
def ipv6OfText (s : PyStr) : Option (BitVec 128) :=
  let parts := s.splitOn COLON
  if parts.length < 3 then none
  else (expandIpv4Suffix parts).bind fun parts =>
    if 9 < parts.length then none else ipv6OfParts parts

/-- The address and the scope id after a `%`.
Source: Python `ipaddress` `IPv6Address._split_scope_id`
Kind: D -/
def splitScopeId (s : PyStr) : Option (PyStr × Option PyStr) :=
  let address := s.takeWhile (· ≠ PERCENT)
  match s.dropWhile (· ≠ PERCENT) with
  | [] => some (address, none)
  | _ :: scopeId => if scopeId = [] ∨ PERCENT ∈ scopeId then none else some (address, some scopeId)

/-- `IPv6Address(s)` for a text.
Source: Python `ipaddress` `IPv6Address.__init__`
Kind: D -/
def ipv6Address (s : PyStr) : Option (BitVec 128 × Option PyStr) :=
  if SLASH ∈ s then none
  else (splitScopeId s).bind fun (address, scopeId) =>
    (ipv6OfText address).map fun ip => (ip, scopeId)

/-- A run of zero hextets, by its start and its length.
Source: Python `ipaddress` `_BaseV6._compress_hextets`
Kind: D -/
structure ZeroRun where
  start : Nat
  length : Nat
  deriving DecidableEq

/-- The first longest run of zero hextets; `current` is the run just before position `index`.
Source: Python `ipaddress` `_BaseV6._compress_hextets`
Kind: D -/
def longestZeroRun : List PyStr → Nat → ZeroRun → ZeroRun → ZeroRun
  | [], _, best, _ => best
  | hextet :: hextets, index, best, current =>
    if hextet = text "0" then
      let current := { current with length := current.length + 1 }
      longestZeroRun hextets (index + 1) (if best.length < current.length then current else best)
        current
    else longestZeroRun hextets (index + 1) best { start := index + 1, length := 0 }

/-- The hextets with the longest run of at least two zeros cut out; joining with `:` gives a `::` there.
Source: Python `ipaddress` `_BaseV6._compress_hextets`
Kind: D -/
def compressHextets (hextets : List PyStr) : List PyStr :=
  let best := longestZeroRun hextets 0 { start := 0, length := 0 } { start := 0, length := 0 }
  if best.length ≤ 1 then hextets
  else
    let stop := best.start + best.length
    let before := hextets.take best.start
    let after := hextets.drop stop
    (if best.start = 0 then [[]] else []) ++ before ++ [[]] ++ after ++
      (if stop = hextets.length then [[]] else [])

/-- Compressed hexadecimal notation.
Source: Python `ipaddress` `_BaseV6._string_from_ip_int`
Kind: D -/
def ipv6Text (ip : BitVec 128) : PyStr :=
  join [COLON] (compressHextets ((List.range 8).map fun i =>
    hextetText (ip.toNat / 65536 ^ (7 - i) % 65536)))

/-! ## Addresses -/

/-- An IPv4 or IPv6 address.
Source: Python `ipaddress` `IPv4Address`, `IPv6Address`
Kind: D -/
inductive IpAddress where
  | v4 (ip : BitVec 32)
  | v6 (ip : BitVec 128) (scopeId : Option PyStr)
  deriving DecidableEq

/-- `ipaddress.ip_address(s)` for a text.
Source: Python `ipaddress` `ip_address`
Kind: D -/
def ipAddress (s : PyStr) : Except PyExc IpAddress :=
  match ipv4Address s with
  | some ip => .ok (.v4 ip)
  | none =>
    match ipv6Address s with
    | some (ip, scopeId) => .ok (.v6 ip scopeId)
    | none => .error .valueError

namespace IpAddress

/-- Source: Python `ipaddress` `IPv4Address.packed`, `IPv6Address.packed`. Kind: D -/
def packed : IpAddress → Bytes
  | v4 ip => bigEndian ip.toNat 4
  | v6 ip _ => bigEndian ip.toNat 16

/-- `str(address)`.
Source: Python `ipaddress` `_BaseAddress.__str__`, `IPv6Address.__str__`
Kind: D -/
def str : IpAddress → PyStr
  | v4 ip => ipv4Text ip
  | v6 ip none => ipv6Text ip
  | v6 ip (some scopeId) => ipv6Text ip ++ [PERCENT] ++ scopeId

end IpAddress

/-! ## Networks -/

/-- A block of addresses of `w` bits: the first `prefixlen` bits are fixed, the others are zero in
`address`.
Source: Python `ipaddress` `_BaseNetwork`
Kind: D -/
structure AddressBlock (w : Nat) where
  address : BitVec w
  prefixlen : Nat
  prefixlen_le : prefixlen ≤ w
  no_host_bits : address &&& prefixMask w prefixlen = address
  deriving DecidableEq

namespace AddressBlock

variable {w : Nat}

/-- The block that an address lies in (`strict=False`: its host bits are cleared).
Source: Python `ipaddress` `IPv4Network.__init__`
Kind: D -/
def around (address : BitVec w) (prefixlen : Nat) (h : prefixlen ≤ w) : AddressBlock w where
  address := address &&& prefixMask w prefixlen
  prefixlen
  prefixlen_le := h
  no_host_bits := and_prefixMask_idem address prefixlen

/-- `address in network`, for an address of the same version.
Source: Python `ipaddress` `_BaseNetwork.__contains__`
Kind: D -/
def contains (network : AddressBlock w) (ip : BitVec w) : Bool :=
  ip &&& prefixMask w network.prefixlen == network.address

/-- **A block contains the addresses that share its prefix.**
Source: Python `ipaddress` `_BaseNetwork.__contains__`
Kind: P -/
theorem contains_iff (network : AddressBlock w) (ip : BitVec w) :
    network.contains ip = true ↔
      ∀ i < network.prefixlen, ip.getMsbD i = network.address.getMsbD i := by
  rw [contains, beq_iff_eq, ← and_prefixMask_eq_iff, network.no_host_bits]

end AddressBlock

/-- An IPv4 or IPv6 network.
Source: Python `ipaddress` `IPv4Network`, `IPv6Network`
Kind: D -/
inductive IpNetwork where
  | v4 (network : AddressBlock 32)
  | v6 (network : AddressBlock 128)
  deriving DecidableEq

/-- A prefix length in decimal digits.
Source: Python `ipaddress` `_IPAddressBase._prefix_from_prefix_string`
Kind: D -/
def prefixFromPrefixString (maxPrefixlen : Nat) (s : PyStr) : Option Nat :=
  if ¬ IsDecimal s ∨ 4300 < s.length then none
  else if maxPrefixlen < decimalValue s then none
  else some (decimalValue s)

/-- How many of the last bits of a number are zero, at most `bits`.
Source: Python `ipaddress` `_count_righthand_zero_bits`
Kind: D -/
def countRighthandZeroBits : Nat → Nat → Nat
  | _, 0 => 0
  | n, bits + 1 => if n % 2 = 0 then countRighthandZeroBits (n / 2) bits + 1 else 0

/-- The prefix length of a netmask.
Source: Python `ipaddress` `_IPAddressBase._prefix_from_ip_int`
Kind: D -/
def prefixFromIpInt (mask : BitVec 32) : Option Nat :=
  let trailingZeroes := countRighthandZeroBits mask.toNat 32
  let prefixlen := 32 - trailingZeroes
  if mask.toNat >>> trailingZeroes = 2 ^ prefixlen - 1 then some prefixlen else none

/-- The prefix length of a netmask, or else of a hostmask, in dotted decimal notation.
Source: Python `ipaddress` `_IPAddressBase._prefix_from_ip_string`
Kind: D -/
def prefixFromIpString (s : PyStr) : Option Nat :=
  (ipv4OfText s).bind fun mask => (prefixFromIpInt mask).or (prefixFromIpInt (~~~mask))

/-- The block around an address, unless the prefix is too long for it.
Source: Python `ipaddress` `IPv4Network.__init__`
Kind: D -/
def blockAround {w : Nat} (address : BitVec w) (prefixlen : Nat) : Option (AddressBlock w) :=
  if h : prefixlen ≤ w then some (.around address prefixlen h) else none

/-- `IPv4Network(s, strict=False)`.
Source: Python `ipaddress` `IPv4Network.__init__`, `_BaseV4._make_netmask`
Kind: D -/
def ipv4Network (s : PyStr) : Option (AddressBlock 32) := do
  match s.splitOn SLASH with
  | [addr] => blockAround (← ipv4Address addr) 32
  | [addr, mask] =>
    let address ← ipv4Address addr
    let prefixlen ← (prefixFromPrefixString 32 mask).or (prefixFromIpString mask)
    blockAround address prefixlen
  | _ => none

/-- `IPv6Network(s, strict=False)`.
Source: Python `ipaddress` `IPv6Network.__init__`, `_BaseV6._make_netmask`
Kind: D -/
def ipv6Network (s : PyStr) : Option (AddressBlock 128) := do
  match s.splitOn SLASH with
  | [addr] => blockAround (← ipv6Address addr).1 128
  | [addr, mask] =>
    let (address, _) ← ipv6Address addr
    let prefixlen ← prefixFromPrefixString 128 mask
    blockAround address prefixlen
  | _ => none

/-- `ipaddress.ip_network(s, strict=False)`.
Source: Python `ipaddress` `ip_network`
Kind: D -/
def ipNetwork (s : PyStr) : Except PyExc IpNetwork :=
  match ipv4Network s with
  | some network => .ok (.v4 network)
  | none =>
    match ipv6Network s with
    | some network => .ok (.v6 network)
    | none => .error .valueError

namespace IpNetwork

/-- `address in network`: false if the versions differ; a scope id plays no part.
Source: Python `ipaddress` `_BaseNetwork.__contains__`
Kind: D -/
def contains : IpNetwork → IpAddress → Bool
  | v4 network, .v4 ip => network.contains ip
  | v6 network, .v6 ip _ => network.contains ip
  | _, _ => false

end IpNetwork

end NetstackSuite.Python
