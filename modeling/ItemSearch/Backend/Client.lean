import ItemSearch.Backend.Options

/-!
The shared client of the search backend. It is constructed when it is first needed and kept until
it is closed; what fails leaves everything as it was, so the next attempt starts over.
-/

namespace ItemSearch

/-- The client that is kept, and what has been done: the clients that have been constructed and
those that have been closed, in the order in which it happened. Clients are numbered in the order of
their construction. -/
structure ClientCache where
  kept : Option Nat := none
  constructed : List Nat := []
  closed : List Nat := []
  deriving DecidableEq, Repr

namespace ClientCache

variable {ε : Type}

/-- A new client, which is constructed. -/
def construct (c : ClientCache) : Nat × ClientCache :=
  let n := c.constructed.length
  (n, { c with constructed := c.constructed ++ [n] })

/-- A client is closed. -/
def dispose (n : Nat) (c : ClientCache) : ClientCache := { c with closed := c.closed ++ [n] }

/-- The client: the one that is kept, or a new one. `construction` is what comes of trying to
construct it. -/
def get (construction : Except ε Unit) (c : ClientCache) : Except ε Nat × ClientCache :=
  match c.kept with
  | some n => (.ok n, c)
  | none => match construction with
    | .ok () =>
      let (n, c) := c.construct
      (.ok n, { c with kept := some n })
    | .error e => (.error e, c)

/-- Closes the client that is kept, if there is one. `closing` is what comes of trying to. -/
def close (closing : Except ε Unit) (c : ClientCache) : Except ε Unit × ClientCache :=
  match c.kept with
  | none => (.ok (), c)
  | some n => match closing with
    | .ok () => (.ok (), { c.dispose n with kept := none })
    | .error e => (.error e, c)

end ClientCache

/-- Why there is no client. -/
inductive ClientError where
  | settings (first : Schema.Problem) (others : List Schema.Problem)
  | address (e : AddressError)
  /-- the URL lacks a scheme, a host or a port -/
  | incompleteUrl
  | unreadableUrl (url : String)
  deriving DecidableEq, Repr

/-- What the log reads about an address; problems of settings are reported one by one. -/
def ClientError.message? : ClientError → Option String
  | .settings _ _ => none
  | .address e => some e.message
  | .incompleteUrl => some
      "URL must include a 'scheme', 'host', and 'port' component (ie 'https://localhost:9200')"
  | .unreadableUrl url => some ("Could not parse URL " ++ Text.quoted url)

/-- A client needs the scheme, the host and the port of its backend. -/
def BackendOptions.checkUrl (o : BackendOptions) : Except ClientError Unit :=
  match (do let a ← Address.parse o.url; return (a, ← a.port?)) with
  | .error _ => .error (.unreadableUrl o.url)
  | .ok (a, port?) =>
    if a.scheme = "" ∨ a.host = "" ∨ port?.isNone then .error .incompleteUrl else .ok ()

end ItemSearch
