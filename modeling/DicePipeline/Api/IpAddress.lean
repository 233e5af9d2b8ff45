import DicePipeline.Text.Strings

/-!
# Python's `ipaddress`

The part of the standard library's `ipaddress` that `api/client_ip.py` rests
on, as Python 3.12 defines it: `ip_address`, `ip_network`, the text `str` gives
either, `ipv4_mapped`, and `in`.  `none` is the `ValueError` each raises.

An address is its bits, so one outside its family's range cannot be built.  An
IPv6 address keeps its scope id (the text after `%`), and so does a network
whose address had no host bits to clear.
-/

namespace DicePipeline

/-- `IPv4Address` and `IPv6Address`, an IPv6 address with its scope id. -/
inductive IpAddress where
  | v4 (ip : BitVec 32)
  | v6 (ip : BitVec 128) (scopeId : Option Text)
  deriving DecidableEq, Repr

/-- `IPv4Network` and `IPv6Network`: the network address and the netmask. -/
inductive IpNetwork where
  | v4 (networkAddress netmask : BitVec 32)
  | v6 (networkAddress : BitVec 128) (scopeId : Option Text) (netmask : BitVec 128)
  deriving DecidableEq, Repr

namespace IpAddress

/-! ## Reading an address -/

/-- `IPv4Address._parse_octet`: ASCII digits, three at most, no leading zero. -/
def parseOctet (octet : Text) : Option (BitVec 8) :=
  if ¬ Text.isAsciiDigits octet ∨ 3 < octet.length ∨
      (octet ≠ ['0'] ∧ octet.head? = some '0') then none
  else
    let value := Text.ofDigits 10 octet
    if 255 < value then none else some (BitVec.ofNat 8 value)

/-- `IPv4Address._ip_int_from_string`. -/
def parseV4 (text : Text) : Option (BitVec 32) :=
  match text.splitOn '.' with
  | [first, second, third, fourth] => do
      let a ← parseOctet first
      let b ← parseOctet second
      let c ← parseOctet third
      let d ← parseOctet fourth
      return a ++ b ++ c ++ d
  | _ => none

/-- `IPv6Address._parse_hextet`. -/
def parseHextet (hextet : Text) : Option (BitVec 16) :=
  if hextet.isEmpty ∨ ¬ hextet.all Text.isHexDigit ∨ 4 < hextet.length then none
  else some (BitVec.ofNat 16 (Text.ofDigits 16 hextet))

/-- The parts between colons, an IPv4 tail rewritten as two hextets. -/
def splitHextets (text : Text) : Option (List Text) :=
  let parts := text.splitOn ':'
  if parts.length < 3 then none
  else
    match parts.getLast? with
    | none => none
    | some last =>
        if '.' ∈ last then do
          let tail ← parseV4 last
          return parts.dropLast ++
            [Text.hex (tail.toNat / 0x10000), Text.hex (tail.toNat % 0x10000)]
        else some parts

/-- The indices strictly between the ends at which a part is empty. -/
def emptyInside (parts : List Text) : List ℕ :=
  (List.range parts.length).filter fun i =>
    1 ≤ i && i + 1 < parts.length && (parts[i]?.getD []).isEmpty

/-- The hextets the parts spell: those before the `::`, the zeros it stands
for, and those after it. -/
def readHextets (parts : List Text) : Option (List (BitVec 16)) :=
  let startsEmpty := (parts.head?.getD []).isEmpty
  let endsEmpty := (parts.getLast?.getD []).isEmpty
  match emptyInside parts with
  | [] =>
      if parts.length ≠ 8 ∨ startsEmpty ∨ endsEmpty then none
      else parts.mapM parseHextet
  | [skip] =>
      let after := parts.length - skip - 1
      -- An empty end is only read as part of the `::` itself.
      if (startsEmpty ∧ skip ≠ 1) ∨ (endsEmpty ∧ after ≠ 1) then none
      else
        let partsHi := if startsEmpty then 0 else skip
        let partsLo := if endsEmpty then 0 else after
        if 8 < partsHi + partsLo + 1 then none
        else do
          let high ← (parts.take partsHi).mapM parseHextet
          let low ← (parts.drop (parts.length - partsLo)).mapM parseHextet
          return high ++ List.replicate (8 - (partsHi + partsLo)) 0 ++ low
  | _ => none

/-- The number eight hextets spell, the first one highest. -/
def ofHextets (hextets : List (BitVec 16)) : BitVec 128 :=
  hextets.foldl (fun ip hextet => (ip <<< 16) ||| hextet.setWidth 128) 0

/-- `IPv6Address._ip_int_from_string`. -/
def parseV6 (text : Text) : Option (BitVec 128) := do
  let parts ← splitHextets text
  if 9 < parts.length then none
  else
    let hextets ← readHextets parts
    return ofHextets hextets

/-- `IPv6Address._split_scope_id`. -/
def splitScopeId (text : Text) : Option (Text × Option Text) :=
  match Text.partition '%' text with
  | (address, none) => some (address, none)
  | (address, some scopeId) =>
      if scopeId.isEmpty ∨ '%' ∈ scopeId then none else some (address, some scopeId)

/-- `IPv4Address(text)`. -/
def ofTextV4 (text : Text) : Option (BitVec 32) :=
  if '/' ∈ text then none else parseV4 text

/-- `IPv6Address(text)`. -/
def ofTextV6 (text : Text) : Option (BitVec 128 × Option Text) :=
  if '/' ∈ text then none
  else do
    let (address, scopeId) ← splitScopeId text
    let ip ← parseV6 address
    return (ip, scopeId)

/-- `ip_address(text)`. -/
def ofText (text : Text) : Option IpAddress :=
  ((ofTextV4 text).map .v4).or ((ofTextV6 text).map fun (ip, scopeId) => .v6 ip scopeId)

/-! ## Printing an address -/

/-- The eight hextets of an address, the first one highest. -/
def hextets (ip : BitVec 128) : List (BitVec 16) :=
  (List.range 8).map fun i => ip.extractLsb' (16 * (7 - i)) 16

/-- The longest run of zeros seen so far and the run being read, each as its
start and its length (`_compress_hextets`). -/
structure ZeroRuns where
  bestStart : ℕ
  bestLength : ℕ
  start : ℕ
  length : ℕ
  deriving DecidableEq, Repr

/-- One turn of the loop of `_compress_hextets`. -/
def ZeroRuns.next (runs : ZeroRuns) (index : ℕ) (hextet : Text) : ZeroRuns :=
  if hextet = ['0'] then
    let start := if runs.length = 0 then index else runs.start
    let length := runs.length + 1
    if runs.bestLength < length then
      { bestStart := start, bestLength := length, start, length }
    else { runs with start, length }
  else { runs with start := 0, length := 0 }

/-- `_compress_hextets`: the first longest run of two zeros or more becomes
one empty part. -/
def compressHextets (hextets : List Text) : List Text :=
  let runs := hextets.zipIdx.foldl
    (fun (runs : ZeroRuns) (hextet, index) => runs.next index hextet)
    { bestStart := 0, bestLength := 0, start := 0, length := 0 }
  if 1 < runs.bestLength then
    let stop := runs.bestStart + runs.bestLength
    let tail := if stop = hextets.length then [[]] else hextets.drop stop
    let head := if runs.bestStart = 0 then [[]] else hextets.take runs.bestStart
    head ++ [[]] ++ tail
  else hextets

/-- `str(address)`. -/
def text : IpAddress → Text
  | v4 ip =>
      Text.join '.' ((List.range 4).map fun i =>
        Text.decimal (ip.extractLsb' (8 * (3 - i)) 8).toNat)
  | v6 ip scopeId =>
      let address := Text.join ':' (compressHextets ((hextets ip).map fun h => Text.hex h.toNat))
      match scopeId with
      | none => address
      | some scope => address ++ '%' :: scope

/-- `ipv4_mapped` of an IPv6 address. -/
def ipv4Mapped (ip : BitVec 128) : Option (BitVec 32) :=
  if ip.extractLsb' 32 96 = 0xFFFF then some (ip.extractLsb' 0 32) else none

end IpAddress

namespace IpNetwork

open IpAddress

/-! ## Networks -/

/-- `_prefix_from_prefix_string`. -/
def prefixOfDigits (maxPrefix : ℕ) (text : Text) : Option ℕ := do
  let length ← Text.int text
  if maxPrefix < length then none else return length

/-- `_ip_int_from_prefix`: `length` ones, then zeros. -/
def maskOfPrefix (width length : ℕ) : BitVec width :=
  BitVec.allOnes width <<< (width - length)

/-- `_prefix_from_ip_int`: how many ones a mask of ones and then zeros starts with. -/
def prefixOfMask (mask : BitVec 32) : Option ℕ :=
  (List.range 33).find? fun length => maskOfPrefix 32 length == mask

/-- `_prefix_from_ip_string`: a netmask, or else a hostmask. -/
def prefixOfIp (text : Text) : Option ℕ := do
  let mask ← parseV4 text
  (prefixOfMask mask).or (prefixOfMask (~~~mask))

/-- `_split_addr_prefix`: the address and what follows the one `/` allowed. -/
def splitPrefix (text : Text) : Option (Text × Option Text) :=
  match text.splitOn '/' with
  | [address] => some (address, none)
  | [address, mask] => some (address, some mask)
  | _ => none

/-- `IPv4Network(text, strict)`, before host bits are looked at. -/
def readV4 (text : Text) : Option (BitVec 32 × BitVec 32) := do
  let (address, mask) ← splitPrefix text
  let ip ← ofTextV4 address
  let length ← match mask with
    | none => some 32
    | some digits => (prefixOfDigits 32 digits).or (prefixOfIp digits)
  return (ip, maskOfPrefix 32 length)

/-- `IPv6Network(text, strict)`, before host bits are looked at. -/
def readV6 (text : Text) : Option (BitVec 128 × Option Text × BitVec 128) := do
  let (address, mask) ← splitPrefix text
  let (ip, scopeId) ← ofTextV6 address
  let length ← match mask with
    | none => some 128
    | some digits => prefixOfDigits 128 digits
  return (ip, scopeId, maskOfPrefix 128 length)

/-- `ip_network(text, strict)`.  Host bits raise if `strict` and are cleared
otherwise; only an address that had some loses its scope id. -/
def ofText (text : Text) (strict : Bool) : Option IpNetwork :=
  match readV4 text with
  | some (ip, netmask) =>
      if ip &&& netmask = ip then some (.v4 ip netmask)
      else if strict then none else some (.v4 (ip &&& netmask) netmask)
  | none =>
      match readV6 text with
      | some (ip, scopeId, netmask) =>
          if ip &&& netmask = ip then some (.v6 ip scopeId netmask)
          else if strict then none else some (.v6 (ip &&& netmask) none netmask)
      | none => none

/-- `network.network_address`. -/
def networkAddress : IpNetwork → IpAddress
  | v4 address _ => .v4 address
  | v6 address scopeId _ => .v6 address scopeId

/-- `address in network`. -/
def contains : IpNetwork → IpAddress → Bool
  | v4 network netmask, .v4 ip => ip &&& netmask == network
  | v6 network _ netmask, .v6 ip _ => ip &&& netmask == network
  | _, _ => false

end IpNetwork

end DicePipeline
