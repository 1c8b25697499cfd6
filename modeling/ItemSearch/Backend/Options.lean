import ItemSearch.Backend.Address
import ItemSearch.Settings.Basic

/-!
How the service connects to its search backend. Where the address carries both a user and a
password, they are handed over apart and the address is cut down to scheme, host and port.
-/

namespace ItemSearch

structure BackendOptions where
  url : String
  verifyCerts : Bool
  requestTimeout : Int
  maxRetries : Int
  credentials : Option (String × String)
  deriving DecidableEq, Repr

namespace BackendOptions

/-- The user and the password of an address, where neither is missing or empty. -/
def credentials? (a : Address) : Option (String × String) :=
  match a.user?, a.password? with
  | some user, some password =>
    if user = "" ∨ password = "" then none else some (user, password)
  | _, _ => none

/-- Scheme, host and port of an address as a URL. Port zero counts as none. -/
def bareUrl (a : Address) : Except AddressError String := do
  let port := match ← a.port? with
    | none | some 0 => ""
    | some n => ":" ++ Text.decimal n
  return a.scheme ++ "://" ++ a.host ++ port

def ofSettings (s : Settings) : Except AddressError BackendOptions := do
  let address ← Address.parse s.backendUrl
  let options : BackendOptions :=
    { url := s.backendUrl
      verifyCerts := s.verifyCerts
      requestTimeout := s.requestTimeout
      maxRetries := s.maxRetries
      credentials := credentials? address }
  if options.credentials.isSome then return { options with url := ← bareUrl address }
  else return options

def toJson (o : BackendOptions) : Json :=
  Json.object
    ([("hosts", Json.strings [o.url]),
      ("verify_certs", .bool o.verifyCerts),
      ("request_timeout", .int o.requestTimeout),
      ("max_retries", .int o.maxRetries),
      ("retry_on_timeout", .bool true)] ++
     match o.credentials with
     | some (user, password) => [("basic_auth", Json.strings [user, password])]
     | none => [])

end BackendOptions

end ItemSearch
