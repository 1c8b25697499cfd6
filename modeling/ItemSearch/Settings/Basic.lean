import ItemSearch.Schema.Number
import ItemSearch.Text.Lower

/-!
The settings of the service. They come as texts from variables whose names are read in either
case; a text that does not fit its setting is a problem, and all problems are reported together.
-/

namespace ItemSearch

structure Settings where
  appName : String := "DPLA Search API"
  debug : Bool := false
  logLevel : String := "INFO"
  backendUrl : String := "http://localhost:9200"
  verifyCerts : Bool := true
  requestTimeout : Int := 60
  maxRetries : Int := 5
  itemsIndex : String := "dpla_alias"
  maxPageSize : Int := 500
  deriving DecidableEq, Repr

namespace Settings

open Schema

/-- Variables by their names in lower case. A name without a value is `none`; of names that differ
in case only, the last one counts. -/
abbrev Variables := List (String × Option String)

def byName (entries : Variables) : Variables :=
  Assoc.ofList (entries.map fun e => (Text.lower e.1, e.2))

/-- The value of a variable in the first of the sources that has one. -/
def value? (sources : List Variables) (name : String) : Option String :=
  sources.findSome? fun source => (Assoc.find? name source).join

/-- The settings from the variables of the environment and those of a file. The environment goes
before the file. -/
def ofVariables (environment file : Variables) : Reading Settings :=
  let sources := [byName environment, byName file]
  let default : Settings := {}
  let setting {α : Type} (name : String) (f : String → Reading α) (default : α) : Reading α :=
    match value? sources name with
    | some v => Reading.under (.field name) (f v)
    | none => .ok default
  Settings.mk
    <$> setting "app_name" .ok default.appName
    <*> setting "debug" booleanText default.debug
    <*> setting "log_level" .ok default.logLevel
    <*> setting "elasticsearch_url" .ok default.backendUrl
    <*> setting "elasticsearch_verify_certs" booleanText default.verifyCerts
    <*> setting "elasticsearch_request_timeout" integerText default.requestTimeout
    <*> setting "elasticsearch_max_retries" integerText default.maxRetries
    <*> setting "items_index" .ok default.itemsIndex
    <*> setting "max_page_size" integerText default.maxPageSize

def toJson (s : Settings) : Json :=
  Json.object
    [("app_name", .str s.appName),
     ("debug", .bool s.debug),
     ("log_level", .str s.logLevel),
     ("elasticsearch_url", .str s.backendUrl),
     ("elasticsearch_verify_certs", .bool s.verifyCerts),
     ("elasticsearch_request_timeout", .int s.requestTimeout),
     ("elasticsearch_max_retries", .int s.maxRetries),
     ("items_index", .str s.itemsIndex),
     ("max_page_size", .int s.maxPageSize)]

end Settings

end ItemSearch
