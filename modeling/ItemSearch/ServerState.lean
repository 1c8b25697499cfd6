import ItemSearch.Backend.Client

/-!
What the server keeps between requests: its environment, the settings once they are read, and the
client. Settings that are read stay until they are cleared, also when the environment changes;
settings that cannot be read are not kept.
-/

namespace ItemSearch

structure ServerState where
  environment : Settings.Variables := []
  settings : Option Settings := none
  clients : ClientCache := {}
  deriving DecidableEq, Repr

namespace ServerState

/-- The settings: those read before, or else those that the environment gives. -/
def getSettings (p : ServerState) : Except ClientError Settings × ServerState :=
  match p.settings with
  | some s => (.ok s, p)
  | none => match Settings.ofVariables p.environment [] with
    | .ok s => (.ok s, { p with settings := some s })
    | .problems first others => (.error (.settings first others), p)

/-- The client. The settings are looked at only where it has to be constructed. -/
def getClient (p : ServerState) : Except ClientError Nat × ServerState :=
  match p.clients.kept with
  | some n => (.ok n, p)
  | none =>
    let (settings, p) := p.getSettings
    let construction : Except ClientError Unit := do
      let options ← (BackendOptions.ofSettings (← settings)).mapError .address
      options.checkUrl
    let (client, clients) := p.clients.get construction
    (client, { p with clients := clients })

/-- Closes the client. -/
def closeClient (p : ServerState) : ServerState :=
  { p with clients := (p.clients.close (.ok () : Except ClientError Unit)).2 }

/-- Takes on another environment. What was read before stays. -/
def setEnvironment (environment : Settings.Variables) (p : ServerState) : ServerState :=
  { p with environment := environment }

def clearSettings (p : ServerState) : ServerState := { p with settings := none }

end ServerState

end ItemSearch
