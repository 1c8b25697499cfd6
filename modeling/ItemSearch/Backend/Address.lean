import ItemSearch.Text.Decimal
import ItemSearch.Text.Lower
import ItemSearch.Text.Quoted
import ItemSearch.Text.Split
import ItemSearch.Url.Basic
import ItemSearch.Url.Ipv6

/-!
The address of the search backend: a URL, which may carry a user and a password. It is cut into
parts without being checked further than the parts need it, so what is wrong with a part comes
out when the part is asked for.
-/

namespace ItemSearch

structure Address where
  scheme : String
  /-- what stands behind the two slashes: a user, a host and a port -/
  authority : String
  deriving DecidableEq, Repr

inductive AddressError where
  /-- a bracket without its counterpart -/
  | brackets
  | futureAddress
  /-- a host in brackets that is no address -/
  | noAddress (host : String)
  | shortAddress
  /-- characters that stand for ones that separate the parts -/
  | disguised (authority : String)
  | portForm (port : String)
  | portRange
  | numeralTooLong (digits : Nat)
  deriving DecidableEq, Repr

def AddressError.message : AddressError → String
  | .brackets => "Invalid IPv6 URL"
  | .futureAddress => "IPvFuture address is invalid"
  | .noAddress host => Text.quoted host ++ " does not appear to be an IPv4 or IPv6 address"
  | .shortAddress => "An IPv4 address cannot be in brackets"
  | .disguised authority =>
    "netloc '" ++ authority ++ "' contains invalid characters under NFKC normalization"
  | .portForm port => "Port could not be cast to integer value as " ++ Text.quoted port
  | .portRange => "Port out of range 0-65535"
  | .numeralTooLong digits => (Text.TooManyDigits.read digits).message

namespace Address

/-- A scheme in lower case, and what follows it. Without a scheme, all of the text follows. -/
def cutScheme (s : List Char) : String × List Char := (Url.scheme? s).getD ("", s)

/-- What stands behind two slashes, up to the path. -/
def authorityOf : List Char → List Char
  | '/' :: '/' :: rest => rest.takeWhile fun c => c ≠ '/' && c ≠ '?' && c ≠ '#'
  | _ => []

/-- The part before the last `@`, if there is one, and the part behind it. -/
def userAndPlace (authority : List Char) : Option (List Char) × List Char := Url.cutUser authority

/-- The characters that are read as one of those that separate the parts of an address. -/
def disguisedChars : List Nat :=
  [0x2047, 0x2048, 0x2049, 0x2100, 0x2101, 0x2105, 0x2106, 0x2A74, 0xFE13, 0xFE16, 0xFE55, 0xFE56,
   0xFE5F, 0xFE6B, 0xFF03, 0xFF0F, 0xFF1A, 0xFF1F, 0xFF20]

/-- Whether the text is `v`, hexadecimal digits, a point, and something. -/
def isFutureAddress (s : List Char) : Bool :=
  match s with
  | 'v' :: rest => match Text.cutChars? '.' rest with
    | some (version, address) =>
      !version.isEmpty && version.all Text.isHex && !address.isEmpty && !address.contains '\n'
    | none => false
  | _ => false

/-- Whether the text is an address of eight groups, possibly with a zone. -/
def isLongAddress (s : List Char) : Bool :=
  match Text.cutChars? '%' s with
  | some (address, zone) =>
    Url.Ipv6.isAddress address && !zone.isEmpty && !zone.contains '%'
  | none => Url.Ipv6.isAddress s

/-- The host that stands in brackets must be an address of the longer kind. -/
def checkBracketed (host : List Char) : Except AddressError Unit :=
  if host.head? = some 'v' then
    if isFutureAddress host then .ok () else .error .futureAddress
  else if isLongAddress host then .ok ()
  else if Url.Ipv6.isDotted host then .error .shortAddress
  else .error (.noAddress (String.ofList host))

/-- Brackets come in pairs, and an address stands in the first one. -/
def checkBrackets (authority : List Char) : Except AddressError Unit :=
  if authority.contains '[' ≠ authority.contains ']' then .error .brackets
  else match Text.cutChars? '[' authority with
    | some (_, rest) => checkBracketed (((Text.cutChars? ']' rest).map Prod.fst).getD rest)
    | none => .ok ()

/-- The address that a text is. Control characters and blanks at its front and tabs and line
breaks anywhere are passed over. -/
def parse (url : String) : Except AddressError Address := do
  let s := (url.toList.dropWhile Url.isControlOrSpace).filter fun c => !Url.isTabOrBreak c
  let (scheme, rest) := cutScheme s
  let authority := authorityOf rest
  checkBrackets authority
  if authority.any fun c => disguisedChars.contains c.toNat then
    .error (.disguised (String.ofList authority))
  return ⟨scheme, String.ofList authority⟩

variable (a : Address)

/-- The user, as it is written. -/
def user? : Option String :=
  (userAndPlace a.authority.toList).1.map fun user => Text.before ':' (String.ofList user)

/-- The password, as it is written. -/
def password? : Option String := do
  let user ← (userAndPlace a.authority.toList).1
  let (_, password) ← Text.cut? ':' (String.ofList user)
  return password

/-- The host without brackets, and the port, where something is written for it. -/
def hostAndPort : String × Option String :=
  let place := (userAndPlace a.authority.toList).2
  let (host, port) := match Text.cutChars? '[' place with
    | some (_, rest) =>
      let (host, behind) := (Text.cutChars? ']' rest).getD (rest, [])
      (host, ((Text.cutChars? ':' behind).map Prod.snd).getD [])
    | none => (Text.cutChars? ':' place).getD (place, [])
  (String.ofList host, if port.isEmpty then none else some (String.ofList port))

/-- The host in lower case. The zone of an address stays as it is. -/
def host : String :=
  let host := a.hostAndPort.1
  match Text.cut? '%' host with
  | some (name, zone) => Text.lower name ++ "%" ++ zone
  | none => Text.lower host

def port? : Except AddressError (Option Nat) :=
  match a.hostAndPort.2 with
  | none => .ok none
  | some port =>
    let digits := port.toList
    if !digits.all Text.isAsciiDigit then .error (.portForm port)
    else if Text.maxDigits < digits.length then .error (.numeralTooLong digits.length)
    else if 65535 < Text.asciiValue digits then .error .portRange
    else .ok (some (Text.asciiValue digits))

end Address

end ItemSearch
