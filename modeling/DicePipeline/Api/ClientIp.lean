import Mathlib.Data.Int.Notation
import DicePipeline.Api.IpAddress

/-!
# Who is calling (`api/client_ip.py`)

`client_ip` works the caller's address out of three texts of the request: the
address of the connection, the `X-Forwarded-For` header, and the header
Cloudflare adds.  The throttles count under the result, so a caller who could
choose it could not be throttled.

The platform's proxies add the last entries of `X-Forwarded-For`, one each, and
the caller may have written anything before them.  `_connecting_address` counts
from the end of the list it splits the header into.  What that list leaves out
(an entry with no text at all) only ever shifts the caller's part of it.

`throttle_key_not_chosen` is a statement about two requests: whatever each
caller wrote, the key is the same when the platform's part is.
-/

namespace DicePipeline

/-- `UNKNOWN_IP`. -/
def unknownIp : Text := "unknown".toList

/-- The settings the caller's address depends on. -/
structure ProxySettings where
  trustedProxyHops : ℤ
  cloudflareIpRanges : List Text
  deriving DecidableEq, Repr

/-- The entries of `request.META` the caller's address is worked out of. -/
structure RequestMeta where
  /-- `REMOTE_ADDR` -/
  remoteAddr : Option Text
  /-- `HTTP_X_FORWARDED_FOR` -/
  forwardedFor : Option Text
  /-- `HTTP_CF_CONNECTING_IP` -/
  cfConnectingIp : Option Text
  deriving DecidableEq, Repr

/-- `common.throttle_scopes.ThrottleScope`. -/
inductive ThrottleScope where
  | failedAuth
  | clientIp
  deriving DecidableEq, Repr

/-- The text of a `ThrottleScope`. -/
def ThrottleScope.value : ThrottleScope → Text
  | .failedAuth => "failed_auth".toList
  | .clientIp => "client_ip".toList

/-- `_networks`; `none` is the `ValueError` of a range that is not one. -/
def networks (ranges : List Text) : Option (List IpNetwork) :=
  ranges.mapM fun cidr => IpNetwork.ofText cidr true

/-- `_valid_ip`. -/
def validIp (value : Option Text) : Option Text :=
  (IpAddress.ofText (Text.strip (value.getD []))).map IpAddress.text

/-- `_caller_key`; `none` is a `ValueError`. -/
def callerKey (address : Text) : Option Text :=
  if address = unknownIp then some address
  else do
    match ← IpAddress.ofText address with
    | .v4 _ => return address
    | .v6 ip scopeId =>
        match IpAddress.ipv4Mapped ip with
        | some mapped => return (IpAddress.v4 mapped).text
        | none =>
            let network ← IpNetwork.ofText ((IpAddress.v6 ip scopeId).text ++ "/64".toList) false
            return network.networkAddress.text

/-- `_is_cloudflare`; `none` is a `ValueError`. -/
def isCloudflare (settings : ProxySettings) (address : Text) : Option Bool :=
  if address = unknownIp then some false
  else do
    let ip ← IpAddress.ofText address
    let ranges ← networks settings.cloudflareIpRanges
    return ranges.any (·.contains ip)

/-- `forwarded` of `_connecting_address`: the header's entries, less those
with no text. -/
def forwarded (header : Option Text) : List Text :=
  (((header.getD []).splitOn ',').filter fun part => !part.isEmpty).map Text.strip

/-- `forwarded[-hops]`, if the header has that many entries. -/
def trustedEntry (hops : ℤ) (entries : List Text) : Option Text :=
  if 0 < hops ∧ hops ≤ entries.length then entries[entries.length - hops.toNat]? else none

/-- `_connecting_address`. -/
def connectingAddress (settings : ProxySettings) (request : RequestMeta) : Text :=
  match (trustedEntry settings.trustedProxyHops (forwarded request.forwardedFor)).bind
      (fun entry => validIp (some entry)) with
  | some address => address
  | none => (validIp request.remoteAddr).getD unknownIp

/-- `client_ip`; `none` is a `ValueError`. -/
def clientIp (settings : ProxySettings) (request : RequestMeta) : Option Text := do
  let connecting := connectingAddress settings request
  if ← isCloudflare settings connecting then
    callerKey ((validIp request.cfConnectingIp).getD connecting)
  else callerKey connecting

/-- `build_counter_key`. -/
def buildCounterKey (settings : ProxySettings) (scope : ThrottleScope) (request : RequestMeta) :
    Option Text :=
  (clientIp settings request).map fun ip => scope.value ++ ':' :: ip

/-! ## What the platform wrote -/

/-- The header's last entries are `entries`, whatever was written before them. -/
def EndsWith (header : Option Text) (entries : List Text) : Prop :=
  ∃ caller, (header.getD []).splitOn ',' = caller ++ entries

/-- A proxy appends one entry, and a comma before it unless it sends the first. -/
theorem EndsWith.append {header : Option Text} {entries : List Text} {entry : Text}
    (ends : EndsWith header entries) (noComma : ',' ∉ entry) :
    EndsWith (some (header.getD [] ++ ',' :: entry)) (entries ++ [entry]) := by
  obtain ⟨caller, pieces⟩ := ends
  refine ⟨caller, ?_⟩
  show (header.getD [] ++ ',' :: entry).splitOn ',' = caller ++ (entries ++ [entry])
  rw [List.splitOn_append_cons_self, pieces, List.splitOn_eq_singleton noComma, List.append_assoc]

/-- Entries with a text in them are all kept, at the end of the list. -/
theorem forwarded_of_endsWith {header : Option Text} {entries : List Text}
    (ends : EndsWith header entries) (written : ∀ entry ∈ entries, entry ≠ []) :
    ∃ before, forwarded header = before ++ entries.map Text.strip := by
  obtain ⟨caller, pieces⟩ := ends
  refine ⟨(caller.filter fun part => !part.isEmpty).map Text.strip, ?_⟩
  have kept : entries.filter (fun part => !part.isEmpty) = entries := by
    rw [List.filter_eq_self]
    intro entry member
    simpa using written entry member
  unfold forwarded
  rw [pieces, List.filter_append, kept, List.map_append]

/-- Counting from the end reaches the first of as many entries as are counted,
whatever comes before them. -/
theorem trustedEntry_append (before entries : List Text) :
    trustedEntry entries.length (before ++ entries) = entries.head? := by
  unfold trustedEntry
  cases entries with
  | nil => simp
  | cons entry rest =>
    have counted : 0 < ((entry :: rest).length : ℤ) ∧
        ((entry :: rest).length : ℤ) ≤ (before ++ entry :: rest).length := by
      simp only [List.length_append, List.length_cons]
      omega
    have index : (before ++ entry :: rest).length - ((entry :: rest).length : ℤ).toNat =
        before.length := by
      simp only [List.length_append, Int.toNat_natCast]
      omega
    rw [if_pos counted, index, List.getElem?_append_right (Nat.le_refl _), Nat.sub_self]
    rfl

/-- The connecting address is worked out of the platform's entries and the
connection alone. -/
theorem connectingAddress_of_endsWith {settings : ProxySettings} {entries : List Text}
    {request : RequestMeta} (hops : settings.trustedProxyHops = entries.length)
    (written : ∀ entry ∈ entries, entry ≠ []) (ends : EndsWith request.forwardedFor entries) :
    connectingAddress settings request =
      (((entries.map Text.strip).head?.bind fun entry => validIp (some entry)).getD
        ((validIp request.remoteAddr).getD unknownIp)) := by
  obtain ⟨before, split⟩ := forwarded_of_endsWith ends written
  have reached : trustedEntry settings.trustedProxyHops (forwarded request.forwardedFor) =
      (entries.map Text.strip).head? := by
    rw [split, hops, ← @List.length_map _ _ entries Text.strip]
    exact trustedEntry_append before _
  unfold connectingAddress
  rw [reached]
  cases (entries.map Text.strip).head?.bind fun entry => validIp (some entry) <;> rfl

/-- Cloudflare's header is only read when Cloudflare connected. -/
theorem clientIp_of_not_cloudflare {settings : ProxySettings} {request : RequestMeta}
    (direct : isCloudflare settings (connectingAddress settings request) ≠ some true) :
    clientIp settings request =
      (isCloudflare settings (connectingAddress settings request)).bind fun _ =>
        callerKey (connectingAddress settings request) := by
  unfold clientIp
  cases verdict : isCloudflare settings (connectingAddress settings request) with
  | none => simp [verdict]
  | some through =>
    cases through with
    | false => simp [verdict]
    | true => exact absurd verdict direct

/-- Callers do not choose their own throttle key.  Two requests over one
connection, whose headers end with the same entries of the platform, get one
connecting address, whatever else the callers wrote; and unless that address is
Cloudflare's they are one caller, under one key. -/
theorem throttle_key_not_chosen (settings : ProxySettings) (entries : List Text)
    (hops : settings.trustedProxyHops = entries.length)
    (written : ∀ entry ∈ entries, entry ≠ []) (first second : RequestMeta)
    (connection : first.remoteAddr = second.remoteAddr)
    (firstEnds : EndsWith first.forwardedFor entries)
    (secondEnds : EndsWith second.forwardedFor entries)
    (direct : isCloudflare settings (connectingAddress settings first) ≠ some true) :
    connectingAddress settings first = connectingAddress settings second ∧
      clientIp settings first = clientIp settings second ∧
      ∀ scope, buildCounterKey settings scope first = buildCounterKey settings scope second := by
  have connecting : connectingAddress settings first = connectingAddress settings second := by
    rw [connectingAddress_of_endsWith hops written firstEnds,
      connectingAddress_of_endsWith hops written secondEnds, connection]
  have caller : clientIp settings first = clientIp settings second := by
    rw [clientIp_of_not_cloudflare direct]
    rw [connecting] at direct ⊢
    rw [clientIp_of_not_cloudflare direct]
  refine ⟨connecting, caller, fun scope => ?_⟩
  unfold buildCounterKey
  rw [caller]

/-- One proxy, and two callers who wrote different entries before its own: one
of them blank, with a comma too many, and a faked Cloudflare header. -/
theorem throttle_key_not_chosen_behind_one_proxy :
    let settings : ProxySettings := ⟨1, ["104.16.0.0/13".toList]⟩
    let honest : RequestMeta := ⟨some "10.0.0.1".toList, some " 9.9.9.9".toList, none⟩
    let forged : RequestMeta := ⟨some "10.0.0.1".toList, some "6.6.6.6,, , 9.9.9.9".toList,
      some "6.6.6.6".toList⟩
    clientIp settings honest = clientIp settings forged :=
  (throttle_key_not_chosen ⟨1, ["104.16.0.0/13".toList]⟩ [" 9.9.9.9".toList] rfl (by decide)
    ⟨some "10.0.0.1".toList, some " 9.9.9.9".toList, none⟩
    ⟨some "10.0.0.1".toList, some "6.6.6.6,, , 9.9.9.9".toList, some "6.6.6.6".toList⟩ rfl
    ⟨[], by decide⟩ ⟨["6.6.6.6".toList, [], " ".toList], by decide⟩ (by decide)).2.1

end DicePipeline
