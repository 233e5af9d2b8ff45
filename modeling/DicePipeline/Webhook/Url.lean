import DicePipeline.Text.Words
import DicePipeline.Api.IpAddress

/-!
# Python's `urlsplit`

The part of the standard library's `urllib.parse` that `remediation/webhook_client.py`
rests on, as Python 3.12 defines it: `urlsplit`, and the host name and the port of what
it answers with.  `none` is the `ValueError` each raises.

The port is only read when it is asked for, and from `netloc`: what stands between the
`//` and the first `/`, `?` or `#`, after the last `@` of it.  So a URL can be split
whose port is no port.

What Python asks of its Unicode tables is a parameter (`Unicode`).
-/

namespace DicePipeline

/-- `unicodedata.normalize("NFKC", text)` and `text.lower()`. -/
structure Unicode where
  nfkc : Text → Text
  lower : Text → Text

/-- `urllib.parse.SplitResult`. -/
structure SplitResult where
  scheme : Text
  netloc : Text
  path : Text
  query : Text
  fragment : Text
  deriving DecidableEq, Repr

/-! ## Splitting -/

/-- A character of `scheme_chars`. -/
def isSchemeChar (c : Char) : Bool :=
  c.isAlpha || c.isDigit || c == '+' || c == '-' || c == '.'

/-- The scheme and what is after its colon; no scheme if the text does not start with one. -/
def splitScheme (url : Text) : Text × Text :=
  match Text.partition ':' url with
  | (_, none) => ([], url)
  | (before, some after) =>
      if (before.head?.any Char.isAlpha) ∧ before.all isSchemeChar then
        (before.map Char.toLower, after)
      else ([], url)

/-- `_splitnetloc`, of what is after the `//`. -/
def splitNetloc (rest : Text) : Text × Text :=
  rest.span fun c => !(c == '/' || c == '?' || c == '#')

/-- `_check_bracketed_host`. -/
def checkBracketedHost (hostname : Text) : Bool :=
  match hostname with
  | 'v' :: version =>
      let (digits, address) := version.span Text.isHexDigit
      !digits.isEmpty && address.head? == some '.' && 1 < address.length &&
        address.all (· != '\n')
  | _ =>
      match IpAddress.ofText hostname with
      | some (.v6 _ _) => true
      | _ => false

/-- `_check_bracketed_netloc`. -/
def checkBracketedNetloc (netloc : Text) : Bool :=
  let hostnameAndPort := Text.afterLast '@' netloc
  match Text.partition '[' hostnameAndPort with
  | (beforeBracket, some bracketed) =>
      let (hostname, port) := Text.partition ']' bracketed
      let port := port.getD []
      beforeBracket.isEmpty && (port.isEmpty || port.head? == some ':') &&
        checkBracketedHost hostname
  | (_, none) => checkBracketedHost (Text.partition ':' hostnameAndPort).1

/-- `_checknetloc`. -/
def checkNetloc (unicode : Unicode) (netloc : Text) : Bool :=
  if netloc.all (·.toNat < 128) then true
  else
    let shorter := netloc.filter fun c => !(c == '@' || c == ':' || c == '#' || c == '?')
    let normal := unicode.nfkc shorter
    shorter == normal ||
      normal.all fun c => !(c == '/' || c == '?' || c == '#' || c == '@' || c == ':')

/-- The `netloc` and what is after it; `none` is a `ValueError` for its brackets. -/
def readNetloc (url : Text) : Option (Text × Text) :=
  match url with
  | '/' :: '/' :: rest =>
      let (netloc, url) := splitNetloc rest
      let opens := '[' ∈ netloc
      let closes := ']' ∈ netloc
      if (opens ∧ ¬ closes) ∨ (closes ∧ ¬ opens) then none
      else if opens ∧ closes ∧ ¬ checkBracketedNetloc netloc then none
      else some (netloc, url)
  | _ => some ([], url)

/-- `urlsplit`. -/
def urlsplit (unicode : Unicode) (url : Text) : Option SplitResult := do
  let url := url.dropWhile (·.toNat ≤ 0x20)
  let url := url.filter fun c => !(c == '\t' || c == '\r' || c == '\n')
  let (scheme, url) := splitScheme url
  let (netloc, url) ← readNetloc url
  let (url, fragment) := Text.partition '#' url
  let (url, query) := Text.partition '?' url
  if checkNetloc unicode netloc then
    return { scheme, netloc, path := url, query := query.getD [], fragment := fragment.getD [] }
  else none

namespace SplitResult

/-! ## Host name and port -/

/-- `_hostinfo`: the host name and the text of the port. -/
def hostinfo (parts : SplitResult) : Text × Option Text :=
  let hostinfo := Text.afterLast '@' parts.netloc
  let (hostname, port) :=
    match Text.partition '[' hostinfo with
    | (_, some bracketed) =>
        let (hostname, after) := Text.partition ']' bracketed
        (hostname, (Text.partition ':' (after.getD [])).2.getD [])
    | (_, none) =>
        let (hostname, port) := Text.partition ':' hostinfo
        (hostname, port.getD [])
  (hostname, if port.isEmpty then none else some port)

/-- `parts.hostname`; a zone keeps its case. -/
def hostname (unicode : Unicode) (parts : SplitResult) : Option Text :=
  let hostname := parts.hostinfo.1
  if hostname.isEmpty then none
  else
    match Text.partition '%' hostname with
    | (hostname, none) => some (unicode.lower hostname)
    | (hostname, some zone) => some (unicode.lower hostname ++ '%' :: zone)

/-- `parts.port`: `None` if there is none, and `none` is a `ValueError`. -/
def port (parts : SplitResult) : Option (Option ℕ) :=
  match parts.hostinfo.2 with
  | none => some none
  | some digits => do
      let port ← Text.int digits
      if 65535 < port then none else return some port

/-- The port is a port: there is none, or it is written in digits and is one of the
65536 there are. -/
def PortInRange (parts : SplitResult) : Prop :=
  ∀ digits ∈ parts.hostinfo.2, Text.isAsciiDigits digits = true ∧
    digits.length ≤ Text.maxStrDigits ∧ Text.ofDigits 10 digits ≤ 65535

/-- **The port can be read if and only if it is a port.** -/
theorem port_isSome_iff (parts : SplitResult) : parts.port.isSome ↔ parts.PortInRange := by
  unfold port PortInRange
  cases parts.hostinfo.2 with
  | none =>
    refine ⟨fun _ digits member => ?_, fun _ => rfl⟩
    exact absurd member (Option.not_mem_none digits)
  | some digits =>
    simp only [Option.mem_def, Option.some.injEq, forall_eq']
    unfold Text.int
    by_cases readable : Text.isAsciiDigits digits = true ∧ digits.length ≤ Text.maxStrDigits
    · rw [if_pos readable]
      by_cases large : 65535 < Text.ofDigits 10 digits
      · simp only [Option.bind_eq_bind, Option.bind_some, if_pos large]
        refine ⟨fun isSome => absurd isSome (by simp), fun inRange => ?_⟩
        exact absurd inRange.2.2 (Nat.not_le.mpr large)
      · simp only [Option.bind_eq_bind, Option.bind_some, if_neg large]
        exact ⟨fun _ => ⟨readable.1, readable.2, Nat.le_of_not_lt large⟩, fun _ => rfl⟩
    · rw [if_neg readable]
      refine ⟨fun isSome => absurd isSome (by simp), fun inRange => ?_⟩
      exact absurd ⟨inRange.1, inRange.2.1⟩ readable

end SplitResult

end DicePipeline
