import DicePipeline.Api.CallerKey

/-!
# IPv4 addresses written as IPv6

An IPv4 address can connect as the IPv6 address that stands for it.  `_caller_key`
answers for either with the IPv4 address.  `_is_cloudflare` does not look through the
IPv6 address, so whether `CF-Connecting-IP` is believed can depend on how the
connecting address is written.

`mapped_same_iff` compares two requests whose connecting addresses are the two forms of
one address: they are one caller unless the ranges tell the two forms apart and the
header names somebody else.
-/

namespace DicePipeline

open IpAddress

variable {settings : ProxySettings} {first second : RequestMeta} {ip : BitVec 32}

/-- `::ffff:a.b.c.d`, the IPv6 address that stands for an IPv4 address. -/
def mappedV6 (ip : BitVec 32) : BitVec 128 := (0xFFFF : BitVec 96) ++ ip

theorem ipv4Mapped_eq_some_iff (address : BitVec 128) (ip : BitVec 32) :
    ipv4Mapped address = some ip ↔ address = mappedV6 ip := by
  unfold ipv4Mapped mappedV6
  constructor
  · intro mapped
    split at mapped
    · rename_i high
      have low := Option.some.inj mapped
      refine BitVec.eq_of_getLsbD_eq fun i inside => ?_
      rw [← high, ← low, BitVec.getLsbD_append, BitVec.getLsbD_extractLsb',
        BitVec.getLsbD_extractLsb']
      by_cases bottom : i < 32
      · simp [bottom]
      · have place : i - 32 < 96 := by omega
        simp [bottom, place, Nat.add_sub_cancel' (Nat.le_of_not_lt bottom)]
    · exact absurd mapped (by simp)
  · rintro rfl
    have high : ((0xFFFF : BitVec 96) ++ ip).extractLsb' 32 96 = 0xFFFF := by
      refine BitVec.eq_of_getLsbD_eq fun i inside => ?_
      have above : ¬ 32 + i < 32 := by omega
      rw [BitVec.getLsbD_extractLsb', BitVec.getLsbD_append, if_neg above, Nat.add_sub_cancel_left]
      simp only [inside, decide_true, Bool.true_and]
    have low : ((0xFFFF : BitVec 96) ++ ip).extractLsb' 0 32 = ip := by
      refine BitVec.eq_of_getLsbD_eq fun i inside => ?_
      rw [BitVec.getLsbD_extractLsb', BitVec.getLsbD_append, Nat.zero_add, if_pos inside]
      simp only [inside, decide_true, Bool.true_and]
    rw [if_pos high, low]

theorem ipv4Mapped_mappedV6 (ip : BitVec 32) : ipv4Mapped (mappedV6 ip) = some ip :=
  (ipv4Mapped_eq_some_iff _ ip).mpr rfl

/-- The key of either form is the IPv4 address. -/
theorem callerKey_mapped (ip : BitVec 32) :
    callerKey (IpAddress.v6 (mappedV6 ip) none).text = some (IpAddress.v4 ip).text := by
  rw [callerKey_v6 scopeRead_none, ipv4Mapped_mappedV6]
  rfl

/-! ## Two requests -/

/-- The two requests are the same but for the connecting address, which is written as
an IPv6 address in the first and as an IPv4 address in the second. -/
structure TwoForms (settings : ProxySettings) (ip : BitVec 32) (first second : RequestMeta) :
    Prop where
  asV6 : connectingAddress settings first = (IpAddress.v6 (mappedV6 ip) none).text
  asV4 : connectingAddress settings second = (IpAddress.v4 ip).text
  cloudflare : first.cfConnectingIp = second.cfConnectingIp

/-- Some range has one form of the address in it and no range has the other. -/
def ToldApart (ranges : List IpNetwork) (ip : BitVec 32) : Prop :=
  ranges.any (·.contains (.v6 (mappedV6 ip) none)) ≠ ranges.any (·.contains (.v4 ip))

/-- The header names an address, and it is not the IPv4 address in one of its forms. -/
def NamesAnother (header : Option Text) (ip : BitVec 32) : Prop :=
  ∃ address, IpAddress.ofText (Text.strip (header.getD [])) = some address ∧
    address ≠ .v4 ip ∧ ∀ scopeId, address ≠ .v6 (mappedV6 ip) scopeId

/-- The key the header leads to, if it is believed. -/
def headerKey (header : Option Text) (ip : BitVec 32) : Option Text :=
  (validIp header).elim (some (IpAddress.v4 ip).text) callerKey

theorem clientIp_of_connecting {address : IpAddress} {ranges : List IpNetwork}
    {request : RequestMeta} (isRead : address.Read)
    (valid : networks settings.cloudflareIpRanges = some ranges)
    (connecting : connectingAddress settings request = address.text)
    (key : callerKey address.text = some (IpAddress.v4 ip).text) :
    clientIp settings request = if ranges.any (·.contains address) then
      headerKey request.cfConnectingIp ip else some (IpAddress.v4 ip).text := by
  have verdict : isCloudflare settings address.text = some (ranges.any (·.contains address)) := by
    unfold isCloudflare
    rw [if_neg (text_ne_unknown isRead), ofText_text isRead, valid]
    rfl
  unfold clientIp headerKey
  simp only [connecting, verdict, Option.bind_eq_bind, Option.bind_some]
  split
  · cases validIp request.cfConnectingIp with
    | none => exact key
    | some other => rfl
  · exact key

/-- The header leads to another key if and only if it names another address. -/
theorem headerKey_eq_iff (header : Option Text) (ip : BitVec 32) :
    headerKey header ip = some (IpAddress.v4 ip).text ↔ ¬ NamesAnother header ip := by
  unfold headerKey validIp NamesAnother
  cases read : IpAddress.ofText (Text.strip (header.getD [])) with
  | none =>
    refine ⟨fun _ => ?_, fun _ => rfl⟩
    rintro ⟨address, isAddress, -⟩
    exact absurd isAddress (by simp)
  | some address =>
    have isRead : address.Read := read_of_ofText read
    show callerKey address.text = some (IpAddress.v4 ip).text ↔ _
    constructor
    · rintro key ⟨other, same, notV4, notV6⟩
      rw [← Option.some.inj same] at notV4 notV6
      cases address with
      | v4 ip' =>
        rw [callerKey_v4, Option.some.injEq] at key
        exact notV4 (text_injective trivial trivial key)
      | v6 ip' scopeId =>
        rw [callerKey_v6 isRead, Option.some.injEq] at key
        cases mapped : ipv4Mapped ip' with
        | some ip4 =>
          rw [mapped] at key
          have sameIp := IpAddress.v4.inj (@text_injective (.v4 ip4) (.v4 ip) trivial trivial key)
          refine notV6 scopeId ?_
          rw [(ipv4Mapped_eq_some_iff ip' ip4).mp mapped, sameIp]
        | none =>
          -- The text of a network has a colon, and that of an IPv4 address has none.
          rw [mapped] at key
          have network : (networkOf ip' scopeId).Read := by
            unfold networkOf
            split
            · exact isRead
            · exact scopeRead_none
          have sameAddress := @text_injective _ (.v4 ip) network trivial key
          unfold networkOf at sameAddress
          exact absurd sameAddress (by simp)
    · intro notAnother
      by_cases isV4 : address = .v4 ip
      · rw [isV4]
        exact callerKey_v4 ip
      · by_cases isV6 : ∃ scopeId, address = .v6 (mappedV6 ip) scopeId
        · obtain ⟨scopeId, rfl⟩ := isV6
          rw [callerKey_v6 isRead, ipv4Mapped_mappedV6]
          rfl
        · exact absurd ⟨address, rfl, isV4, not_exists.mp isV6⟩ notAnother

/-- **The two forms of a connecting address are one caller, if and only if the ranges do not
tell them apart or the header names nobody else.**

Ranges are of one version, and an IPv4-mapped address is in none of IPv4.  So behind an edge of
Cloudflare that connects in the mapped form the header is not believed, and the edge itself is
the caller. -/
theorem mapped_same_iff (settings : ProxySettings) (ranges : List IpNetwork)
    (valid : networks settings.cloudflareIpRanges = some ranges) (ip : BitVec 32)
    (first second : RequestMeta) (forms : TwoForms settings ip first second) :
    clientIp settings first = clientIp settings second ↔
      ¬ (ToldApart ranges ip ∧ NamesAnother first.cfConnectingIp ip) := by
  have asV6 := @clientIp_of_connecting _ ip (.v6 (mappedV6 ip) none) _ _ scopeRead_none valid forms.asV6 (callerKey_mapped ip)
  have asV4 := @clientIp_of_connecting _ ip (.v4 ip) _ _ trivial valid forms.asV4 (callerKey_v4 ip)
  have key := headerKey_eq_iff first.cfConnectingIp ip
  rw [asV6, asV4, ← forms.cloudflare]
  unfold ToldApart
  cases ranges.any (·.contains (.v6 (mappedV6 ip) none)) <;>
    cases ranges.any (·.contains (.v4 ip)) <;>
    simp only [if_true, if_false, Bool.false_eq_true, ne_eq, not_true, not_false_iff, false_and,
      true_and, reduceCtorEq]
  · exact eq_comm.trans key
  · exact key

/-- An address that is not Cloudflare's, and a faked header. -/
theorem mapped_same_iff_direct :
    let settings : ProxySettings := ⟨0, ["104.16.0.0/13".toList]⟩
    clientIp settings ⟨some "::ffff:9.9.9.9".toList, none, some "6.6.6.6".toList⟩ =
      clientIp settings ⟨some "9.9.9.9".toList, none, some "6.6.6.6".toList⟩ :=
  (mapped_same_iff ⟨0, ["104.16.0.0/13".toList]⟩ [.v4 0x68100000 0xfff80000] (by decide +kernel)
    0x09090909 ⟨some "::ffff:9.9.9.9".toList, none, some "6.6.6.6".toList⟩
    ⟨some "9.9.9.9".toList, none, some "6.6.6.6".toList⟩
    ⟨by decide +kernel, by decide +kernel, rfl⟩).mpr fun another => another.1 (by decide +kernel)

/-- Cloudflare connects for a caller: as an IPv4 address it is believed, and as the
IPv6 address that stands for it the caller is Cloudflare. -/
theorem mapped_cloudflare_is_not_believed :
    let settings : ProxySettings := ⟨0, ["104.16.0.0/13".toList]⟩
    let first : RequestMeta := ⟨some "::ffff:104.16.0.1".toList, none, some "9.9.9.9".toList⟩
    let second : RequestMeta := ⟨some "104.16.0.1".toList, none, some "9.9.9.9".toList⟩
    TwoForms settings 0x68100001 first second ∧
      clientIp settings first = some "104.16.0.1".toList ∧
      clientIp settings second = some "9.9.9.9".toList ∧
      clientIp settings first ≠ clientIp settings second :=
  ⟨⟨by decide +kernel, by decide +kernel, rfl⟩, by decide +kernel, by decide +kernel,
    by decide +kernel⟩

end DicePipeline
