import DicePipeline.Api.AddressText
import DicePipeline.Api.ClientIp

/-!
# The key a caller is counted under

`client_ip` gives an address to `_caller_key`, which reads it again and answers with
its text, or with the text of its `/64` network.  `callerKey_text` says what comes out
for every address that can have been read.

An IPv6 address carries its scope id along.  The network of an address with host bits
has none, but `ip_network` keeps an address without host bits as it was read, scope id
and all (`networkOf`), so for such an address the key holds whatever text followed the
`%`.  `keys_canonical_iff` says that this is the one way to a key that is not bounded
and canonical.

### What is load-bearing

The bound is the width of the column of the counters' keys.  Every text of an address
fits, whichever of its forms it is written in; the text behind a `%` is the caller's
own and has no bound.

An address that stands for an IPv4 address is taken for that one, and its scope id is
dropped with it.
-/

namespace DicePipeline

open IpAddress

variable {settings : ProxySettings} {request : RequestMeta} {text : Text}

/-- `ThrottleCounter.key`, its `max_length`. -/
def throttleKeyMaxLength : ℕ := 100

/-- `CLOUDFLARE_IP_RANGES`. -/
def cloudflareIpRanges : List Text :=
  ["173.245.48.0/20", "103.21.244.0/22", "103.22.200.0/22", "103.31.4.0/22", "141.101.64.0/18",
    "108.162.192.0/18", "190.93.240.0/20", "188.114.96.0/20", "197.234.240.0/22",
    "198.41.128.0/17", "162.158.0.0/15", "104.16.0.0/13", "104.24.0.0/14", "172.64.0.0/13",
    "131.0.72.0/22", "2400:cb00::/32", "2606:4700::/32", "2803:f800::/32", "2405:b500::/32",
    "2405:8100::/32", "2a06:98c0::/29", "2c0f:f248::/32"].map String.toList

/-- The ranges in the settings are all ranges. -/
theorem networks_cloudflareIpRanges : (networks cloudflareIpRanges).isSome = true := by
  decide +kernel

/-- The netmask of a `/64`. -/
def netmask64 : BitVec 128 := IpNetwork.maskOfPrefix 128 64

/-- The address `client_ip` gives to `_caller_key`; `none` is a `ValueError`. -/
def callerAddress (settings : ProxySettings) (request : RequestMeta) : Option Text := do
  let connecting := connectingAddress settings request
  if ← isCloudflare settings connecting then
    return (validIp request.cfConnectingIp).getD connecting
  else return connecting

theorem clientIp_eq : clientIp settings request =
    (callerAddress settings request).bind callerKey := by
  unfold clientIp callerAddress
  simp only
  cases isCloudflare settings (connectingAddress settings request) with
  | none => rfl
  | some through => cases through <;> rfl

/-! ## The addresses there can be -/

/-- The text `unknown`, or the text of an address that was read. -/
def KnownAddress (address : Text) : Prop :=
  address = unknownIp ∨ ∃ ip : IpAddress, ip.Read ∧ address = ip.text

theorem ofText_unknown : IpAddress.ofText unknownIp = none := by decide

theorem text_ne_unknown {address : IpAddress} (isRead : address.Read) :
    address.text ≠ unknownIp := by
  intro same
  have read := ofText_text isRead
  rw [same, ofText_unknown] at read
  exact absurd read (by simp)

theorem known_of_validIp {value : Option Text} (valid : validIp value = some text) :
    KnownAddress text := by
  obtain ⟨address, isRead, rfl⟩ := Option.map_eq_some_iff.mp valid
  exact .inr ⟨address, read_of_ofText isRead, rfl⟩

theorem known_connectingAddress : KnownAddress (connectingAddress settings request) := by
  unfold connectingAddress
  split
  · rename_i address found
    obtain ⟨entry, -, valid⟩ := Option.bind_eq_some_iff.mp found
    exact known_of_validIp valid
  · cases valid : validIp request.remoteAddr with
    | none => exact .inl rfl
    | some address => exact known_of_validIp valid

theorem isCloudflare_of_known (valid : (networks settings.cloudflareIpRanges).isSome)
    (known : KnownAddress text) : ∃ through, isCloudflare settings text = some through := by
  unfold isCloudflare
  split
  · exact ⟨false, rfl⟩
  · rename_i other
    obtain ⟨address, isRead, rfl⟩ := known.resolve_left other
    obtain ⟨ranges, read⟩ := Option.isSome_iff_exists.mp valid
    rw [ofText_text isRead, read]
    exact ⟨_, rfl⟩

/-- With ranges that are ranges there always is an address, and it is `unknown` or was
read. -/
theorem callerAddress_known (valid : (networks settings.cloudflareIpRanges).isSome)
    (request : RequestMeta) : ∃ address, callerAddress settings request = some address ∧
      KnownAddress address := by
  have known : KnownAddress (connectingAddress settings request) := known_connectingAddress
  obtain ⟨through, isThrough⟩ := isCloudflare_of_known valid known
  unfold callerAddress
  simp only [isThrough]
  cases through with
  | false => exact ⟨_, rfl, known⟩
  | true =>
    refine ⟨_, rfl, ?_⟩
    cases header : validIp request.cfConnectingIp with
    | none => exact known
    | some address => exact known_of_validIp header

/-! ## The key of an address -/

/-- The network `_caller_key` makes of an IPv6 address: without host bits to clear it
is the address as it was. -/
def networkOf (ip : BitVec 128) (scopeId : Option Text) : IpAddress :=
  .v6 (ip &&& netmask64) (if ip &&& netmask64 = ip then scopeId else none)

/-- The `/64` of an address is read from its text with `/64` after it. -/
theorem ofText_slash64 {ip : BitVec 128} {scopeId : Option Text} (isRead : ScopeRead scopeId) :
    (IpNetwork.ofText ((IpAddress.v6 ip scopeId).text ++ "/64".toList) false).map
      IpNetwork.networkAddress = some (networkOf ip scopeId) := by
  have split : IpNetwork.splitPrefix ((IpAddress.v6 ip scopeId).text ++ "/64".toList) =
      some ((IpAddress.v6 ip scopeId).text, some "64".toList) := by
    have pieces : ((IpAddress.v6 ip scopeId).text ++ "/64".toList).splitOn '/' =
        [(IpAddress.v6 ip scopeId).text, "64".toList] := by
      have last : "64".toList.splitOn '/' = ["64".toList] := by decide
      show ((IpAddress.v6 ip scopeId).text ++ '/' :: "64".toList).splitOn '/' = _
      rw [List.splitOn_append_cons_self, List.splitOn_eq_singleton (noSlash_text_v6 isRead), last]
      rfl
    unfold IpNetwork.splitPrefix
    rw [pieces]
  have notV4 : IpNetwork.readV4 ((IpAddress.v6 ip scopeId).text ++ "/64".toList) = none := by
    unfold IpNetwork.readV4
    rw [split]
    simp only [Option.bind_eq_bind, Option.bind_some, ofTextV4_text_v6, Option.bind_none]
  have isV6 : IpNetwork.readV6 ((IpAddress.v6 ip scopeId).text ++ "/64".toList) =
      some (ip, scopeId, netmask64) := by
    have digits : IpNetwork.prefixOfDigits 128 "64".toList = some 64 := by decide
    unfold IpNetwork.readV6
    rw [split]
    simp only [Option.bind_eq_bind, Option.bind_some, ofTextV6_text isRead, digits]
    rfl
  unfold IpNetwork.ofText networkOf
  rw [notV4, isV6]
  by_cases noHostBits : ip &&& netmask64 = ip
  · simp only [noHostBits]
    rfl
  · simp only [if_neg noHostBits]
    rfl

/-- **The key of an IPv6 address is the text of its network**, unless it stands for an
IPv4 address. -/
theorem callerKey_v6 {ip : BitVec 128} {scopeId : Option Text} (isRead : ScopeRead scopeId) :
    callerKey (IpAddress.v6 ip scopeId).text = some ((ipv4Mapped ip).elim
      (networkOf ip scopeId).text fun mapped => (IpAddress.v4 mapped).text) := by
  have known : (IpAddress.v6 ip scopeId).Read := isRead
  unfold callerKey
  rw [if_neg (text_ne_unknown known), ofText_text known]
  simp only [Option.bind_eq_bind, Option.bind_some]
  cases ipv4Mapped ip with
  | some mapped => rfl
  | none =>
    obtain ⟨network, made, isNetwork⟩ := Option.map_eq_some_iff.mp (@ofText_slash64 ip _ isRead)
    show ((IpNetwork.ofText ((IpAddress.v6 ip scopeId).text ++ "/64".toList) false).bind
      fun network => some network.networkAddress.text) = _
    rw [made, Option.bind_some, isNetwork]
    rfl

theorem callerKey_v4 (ip : BitVec 32) :
    callerKey (IpAddress.v4 ip).text = some (IpAddress.v4 ip).text := by
  have known : (IpAddress.v4 ip).Read := trivial
  unfold callerKey
  rw [if_neg (text_ne_unknown known), ofText_text known]
  rfl

/-! ## Bounded and canonical -/

/-- `unknown`, an IPv4 address, or the network address of an IPv6 `/64`, as `str`
writes it. -/
def CanonicalKey (key : Text) : Prop :=
  key = unknownIp ∨ (∃ ip, key = (IpAddress.v4 ip).text) ∨
    ∃ ip, ip &&& netmask64 = ip ∧ key = (IpAddress.v6 ip none).text

/-- The caller has this address. -/
def CallerIs (settings : ProxySettings) (request : RequestMeta) (address : IpAddress) : Prop :=
  (callerAddress settings request).bind IpAddress.ofText = some address

/-- `client_ip` answers, with a key that is canonical and that a `ThrottleCounter` holds
in every scope. -/
def BoundedKey (settings : ProxySettings) (request : RequestMeta) : Prop :=
  ∃ key, clientIp settings request = some key ∧ CanonicalKey key ∧ key.length ≤ 45 ∧
    ∀ scope, ∃ counterKey, buildCounterKey settings scope request = some counterKey ∧
      counterKey.length ≤ throttleKeyMaxLength

/-- What is said of two requests: both keys are bounded and canonical, and two IPv6
callers have one key if they are in one `/64`, and otherwise two. -/
def KeysCanonical (settings : ProxySettings) (first second : RequestMeta) : Prop :=
  BoundedKey settings first ∧ BoundedKey settings second ∧
    ∀ ip scopeId ip' scopeId', CallerIs settings first (.v6 ip scopeId) →
      CallerIs settings second (.v6 ip' scopeId') → ipv4Mapped ip = none →
      ipv4Mapped ip' = none →
      (clientIp settings first = clientIp settings second ↔
        ip.extractLsb' 64 64 = ip'.extractLsb' 64 64)

/-- **The condition.**  The caller has an IPv6 address with a scope id and with no host bits in
its `/64`, and it does not stand for an IPv4 address.

Then the text of the address is its network's, and `ip_network` keeps the scope id in it,
however long that is. -/
def ScopedNetwork (settings : ProxySettings) (request : RequestMeta) : Prop :=
  ∃ ip scope, CallerIs settings request (.v6 ip (some scope)) ∧ ipv4Mapped ip = none ∧
    ip &&& netmask64 = ip

instance (address : IpAddress) : Decidable (CallerIs settings request address) :=
  inferInstanceAs (Decidable (_ = _))

theorem length_of_canonicalKey {key : Text} (canonical : CanonicalKey key) : key.length ≤ 45 := by
  rcases canonical with rfl | ⟨ip, rfl⟩ | ⟨ip, -, rfl⟩
  · decide
  · have := length_text_v4 ip
    omega
  · have := length_text_v6 ip
    omega

theorem boundedKey_of_canonicalKey {key : Text} (found : clientIp settings request = some key)
    (canonical : CanonicalKey key) : BoundedKey settings request := by
  have short := length_of_canonicalKey canonical
  refine ⟨key, found, canonical, short, fun scope => ⟨scope.value ++ ':' :: key, ?_, ?_⟩⟩
  · unfold buildCounterKey
    rw [found]
    rfl
  · have label : scope.value.length ≤ 11 := by cases scope <;> decide
    rw [List.length_append, List.length_cons]
    show _ ≤ 100
    omega

theorem and_netmask64_idem (ip : BitVec 128) : ip &&& netmask64 &&& netmask64 = ip &&& netmask64 := by
  rw [BitVec.and_assoc, BitVec.and_self]

/-- The top half of an address is all its network keeps. -/
theorem and_netmask64_eq_iff (ip ip' : BitVec 128) : ip &&& netmask64 = ip' &&& netmask64 ↔
    ip.extractLsb' 64 64 = ip'.extractLsb' 64 64 := by
  have bit : ∀ (ip : BitVec 128) (i : ℕ), (ip &&& netmask64).getLsbD i =
      (decide (64 ≤ i) && ip.getLsbD i) := by
    intro ip i
    unfold netmask64 IpNetwork.maskOfPrefix
    simp only [BitVec.getLsbD_and, BitVec.getLsbD_shiftLeft, BitVec.getLsbD_allOnes]
    by_cases inside : i < 128
    · by_cases top : 64 ≤ i
      · have place : i - 64 < 128 := by omega
        simp [inside, top, place, Nat.not_lt.mpr top]
      · simp [top, Nat.lt_of_not_le top]
    · simp [BitVec.getLsbD_of_ge ip i (Nat.le_of_not_lt inside)]
  constructor
  · intro same
    refine BitVec.eq_of_getLsbD_eq fun i inside => ?_
    have here := congrArg (fun network => network.getLsbD (64 + i)) same
    simp only [bit, Nat.le_add_right, decide_true, Bool.true_and] at here
    simpa [inside] using here
  · intro same
    refine BitVec.eq_of_getLsbD_eq fun i inside => ?_
    rw [bit, bit]
    by_cases top : 64 ≤ i
    · have here := congrArg (fun half => half.getLsbD (i - 64)) same
      have place : i - 64 < 64 := by omega
      simpa [place, top, Nat.add_sub_cancel' top] using here
    · simp [top]

/-- Without such an address the key is canonical, and it is that of the network. -/
theorem canonicalKey_of_not_scopedNetwork (valid : (networks settings.cloudflareIpRanges).isSome)
    (plain : ¬ ScopedNetwork settings request) :
    ∃ key, clientIp settings request = some key ∧ CanonicalKey key ∧
      ∀ ip scopeId, CallerIs settings request (.v6 ip scopeId) → ipv4Mapped ip = none →
        key = (IpAddress.v6 (ip &&& netmask64) none).text := by
  obtain ⟨address, isAddress, known⟩ := callerAddress_known valid request
  rw [clientIp_eq, isAddress, Option.bind_some]
  rcases known with rfl | ⟨caller, isRead, rfl⟩
  · refine ⟨unknownIp, rfl, .inl rfl, fun ip scopeId isCaller => ?_⟩
    unfold CallerIs at isCaller
    rw [isAddress] at isCaller
    exact absurd isCaller (by simp [ofText_unknown])
  · have isCaller : CallerIs settings request caller := by
      unfold CallerIs
      rw [isAddress, Option.bind_some, ofText_text isRead]
    have only : ∀ other, CallerIs settings request other → other = caller := by
      intro other isOther
      exact Option.some.inj (isOther.symm.trans isCaller)
    cases caller with
    | v4 ip =>
      refine ⟨_, callerKey_v4 ip, .inr (.inl ⟨ip, rfl⟩), fun ip' scopeId isV6 => ?_⟩
      exact absurd (only _ isV6) (by simp)
    | v6 ip scopeId =>
      rw [callerKey_v6 isRead]
      cases mapped : ipv4Mapped ip with
      | some ip4 =>
        refine ⟨_, rfl, .inr (.inl ⟨ip4, rfl⟩), fun ip' scopeId' isV6 notMapped => ?_⟩
        obtain ⟨rfl, -⟩ := IpAddress.v6.inj (only _ isV6)
        rw [mapped] at notMapped
        exact absurd notMapped (by simp)
      | none =>
        -- A scope id is lost with the host bits, and there is none without them.
        have noScope : networkOf ip scopeId = .v6 (ip &&& netmask64) none := by
          unfold networkOf
          split
          · rename_i noHostBits
            cases scopeId with
            | none => rfl
            | some scope => exact absurd ⟨ip, scope, isCaller, mapped, noHostBits⟩ plain
          · rfl
        refine ⟨_, rfl, .inr (.inr ⟨ip &&& netmask64, and_netmask64_idem ip, ?_⟩), ?_⟩
        · show (networkOf ip scopeId).text = _
          rw [noScope]
        · intro ip' scopeId' isV6 notMapped
          obtain ⟨rfl, -⟩ := IpAddress.v6.inj (only _ isV6)
          show (networkOf _ scopeId).text = _
          rw [noScope]

/-- A canonical key has no scope id. -/
theorem noPercent_of_canonicalKey {key : Text} (canonical : CanonicalKey key) : '%' ∉ key := by
  rcases canonical with rfl | ⟨ip, rfl⟩ | ⟨ip, -, rfl⟩
  · decide
  · rw [text_v4]
    refine Text.not_mem_join (by decide) fun part isPart member => ?_
    exact absurd (isDigit_of_mem_octetTexts isPart member) (by decide)
  · exact not_mem_text_v6 (by decide) (by decide)

theorem not_boundedKey_of_scopedNetwork (valid : (networks settings.cloudflareIpRanges).isSome)
    (isScoped : ScopedNetwork settings request) : ¬ BoundedKey settings request := by
  rintro ⟨key, isKey, canonical, -⟩
  obtain ⟨ip, scope, isCaller, notMapped, noHostBits⟩ := isScoped
  obtain ⟨address, isAddress, known⟩ := callerAddress_known valid request
  unfold CallerIs at isCaller
  rw [isAddress, Option.bind_some] at isCaller
  rcases known with rfl | ⟨caller, isRead, rfl⟩
  · exact absurd isCaller (by simp [ofText_unknown])
  · rw [ofText_text isRead, Option.some.injEq] at isCaller
    subst isCaller
    rw [clientIp_eq, isAddress, Option.bind_some, callerKey_v6 isRead, notMapped] at isKey
    have same : (networkOf ip (some scope)).text = key := Option.some.inj isKey
    refine noPercent_of_canonicalKey canonical ?_
    rw [← same]
    unfold networkOf
    rw [if_pos noHostBits, text_v6_scope]
    exact List.mem_append_right _ List.mem_cons_self

/-- **Keys are bounded and canonical for every two requests in neither of which the caller is an
IPv6 network with a scope id, and for no others.**

Canonical means that two callers have one key if and only if they have one address, or are in
one `/64`; bounded, that the key fits the column of the counters.  A scope id breaks both. -/
theorem keys_canonical_iff (settings : ProxySettings)
    (valid : (networks settings.cloudflareIpRanges).isSome) (first second : RequestMeta) :
    KeysCanonical settings first second ↔
      ¬ ScopedNetwork settings first ∧ ¬ ScopedNetwork settings second := by
  constructor
  · rintro ⟨firstBounded, secondBounded, -⟩
    exact ⟨fun isScoped => not_boundedKey_of_scopedNetwork valid isScoped firstBounded,
      fun isScoped => not_boundedKey_of_scopedNetwork valid isScoped secondBounded⟩
  · rintro ⟨firstPlain, secondPlain⟩
    obtain ⟨key, isKey, canonical, ofNetwork⟩ :=
      canonicalKey_of_not_scopedNetwork valid firstPlain
    obtain ⟨key', isKey', canonical', ofNetwork'⟩ :=
      canonicalKey_of_not_scopedNetwork valid secondPlain
    refine ⟨boundedKey_of_canonicalKey isKey canonical,
      boundedKey_of_canonicalKey isKey' canonical', ?_⟩
    intro ip scopeId ip' scopeId' isCaller isCaller' notMapped notMapped'
    rw [isKey, isKey', Option.some.injEq, ofNetwork ip scopeId isCaller notMapped,
      ofNetwork' ip' scopeId' isCaller' notMapped', ← and_netmask64_eq_iff]
    constructor
    · intro same
      exact (IpAddress.v6.inj (text_injective scopeRead_none scopeRead_none same)).1
    · intro same
      rw [same]

/-- Two callers of one `/64`, behind one proxy. -/
theorem keys_canonical_iff_one_network :
    KeysCanonical ⟨1, cloudflareIpRanges⟩
      ⟨some "10.0.0.1".toList, some "2001:db8:1:2::1".toList, none⟩
      ⟨some "10.0.0.1".toList, some "2001:db8:1:2:ffff:ffff:ffff:ffff".toList, none⟩ := by
  have plain : ∀ request ip, CallerIs ⟨1, cloudflareIpRanges⟩ request (.v6 ip none) →
      ¬ ScopedNetwork ⟨1, cloudflareIpRanges⟩ request := by
    intro request ip isCaller scopedNetwork
    obtain ⟨ip', scope, isCaller', -⟩ := scopedNetwork
    exact absurd (Option.some.inj (isCaller.symm.trans isCaller')) (by simp)
  refine (keys_canonical_iff ⟨1, cloudflareIpRanges⟩ networks_cloudflareIpRanges _ _).mpr ⟨?_, ?_⟩
  · exact plain _ 0x20010db8000100020000000000000001 (by decide +kernel)
  · exact plain _ 0x20010db800010002ffffffffffffffff (by decide +kernel)

/-- A link-local network and a hundred characters after the `%`: they are all in the
key, which no `ThrottleCounter` holds. -/
theorem scope_id_is_in_key :
    let settings : ProxySettings := ⟨1, ["104.16.0.0/13".toList]⟩
    let request : RequestMeta := ⟨some "10.0.0.1".toList,
      some ("fe80::%".toList ++ List.replicate 100 'a'), none⟩
    ¬ KeysCanonical settings request request ∧
      ∃ key, buildCounterKey settings .clientIp request = some key ∧
        throttleKeyMaxLength < key.length := by
  have isScoped : ScopedNetwork ⟨1, ["104.16.0.0/13".toList]⟩ ⟨some "10.0.0.1".toList,
      some ("fe80::%".toList ++ List.replicate 100 'a'), none⟩ :=
    ⟨0xfe800000000000000000000000000000, List.replicate 100 'a', by decide +kernel,
      by decide +kernel, by decide +kernel⟩
  refine ⟨fun canonical => ?_, ?_⟩
  · exact not_boundedKey_of_scopedNetwork (by decide +kernel) isScoped canonical.1
  · exact ⟨"client_ip:fe80::%".toList ++ List.replicate 100 'a', by decide +kernel, by decide⟩

end DicePipeline
