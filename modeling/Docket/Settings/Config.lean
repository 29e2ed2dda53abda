import Docket.Logging.Entry
import Docket.Paging
import Docket.Record.Basic
import Docket.Store.Basic

/-!
# Configuration

The configuration has two sections, one for the service and one for its store.
Every setting has a value of its own when it is not given, and settings that are
not known are passed over. Numbers must be integers in the range of their
setting.
-/

set_option autoImplicit false

namespace Docket

/-- The settings of the service. -/
structure ServiceConfig where
  name : String
  logLevel : String
  environment : String
  deriving DecidableEq

namespace ServiceConfig

/-- The settings of a service that is not configured. -/
def default : ServiceConfig :=
  ⟨"acton-docstore", "info", "dev"⟩

/-- The settings by name. -/
def fields : List Field :=
  [ .defaulted "name" .text default.name, .defaulted "log_level" .text default.logLevel,
    .defaulted "environment" .text default.environment ]

/-- The settings as a row. -/
def toRow (config : ServiceConfig) : Row fields :=
  (config.name, config.logLevel, config.environment, ())

/-- The settings of a row. -/
def ofRow (row : Row fields) : ServiceConfig :=
  ⟨row.1, row.2.1, row.2.2.1⟩

/-- The type of this section. -/
def codec : Codec ServiceConfig :=
  { Codec.plain .object default (fun _ => .null) fun value =>
      (Row.decode fields value).map ofRow with
    encode := fun config => (Row.encode fields config.toRow).map .object }

end ServiceConfig

/-- The settings of the store. -/
structure StoreConfig where
  uri : String
  database : String
  connectTimeoutSeconds : Unsigned64
  maxRetries : Unsigned32
  retryDelaySeconds : Unsigned64
  logCommands : Bool
  defaultPageSize : Signed64
  deriving DecidableEq

namespace StoreConfig

/-- The settings of a store that is not configured. -/
def default : StoreConfig :=
  { uri := "mongodb://localhost:27017", database := "", connectTimeoutSeconds := ⟨10, by decide⟩
    maxRetries := ⟨3, by decide⟩, retryDelaySeconds := ⟨1, by decide⟩, logCommands := false
    defaultPageSize := ⟨20, by decide⟩ }

/-- The settings by name. -/
def fields : List Field :=
  [ .defaulted "uri" .text default.uri,
    .defaulted "database" .text default.database,
    .defaulted "connect_timeout_secs" .unsigned64 default.connectTimeoutSeconds,
    .defaulted "max_retries" .unsigned32 default.maxRetries,
    .defaulted "retry_delay_secs" .unsigned64 default.retryDelaySeconds,
    .defaulted "log_commands" .boolean default.logCommands,
    .defaulted "default_page_size" .signed64 default.defaultPageSize ]

/-- The settings as a row. -/
def toRow (config : StoreConfig) : Row fields :=
  (config.uri, config.database, config.connectTimeoutSeconds, config.maxRetries,
    config.retryDelaySeconds, config.logCommands, config.defaultPageSize, ())

/-- The settings of a row. -/
def ofRow (row : Row fields) : StoreConfig :=
  ⟨row.1, row.2.1, row.2.2.1, row.2.2.2.1, row.2.2.2.2.1, row.2.2.2.2.2.1, row.2.2.2.2.2.2.1⟩

/-- The type of this section. -/
def codec : Codec StoreConfig :=
  { Codec.plain .object default (fun _ => .null) fun value =>
      (Row.decode fields value).map ofRow with
    encode := fun config => (Row.encode fields config.toRow).map .object }

/-- The database of collections that do not name one. -/
def defaultDatabase? (config : StoreConfig) : Option String :=
  if config.database.isEmpty then none else some config.database

/-- A page request. A count that is missing or not positive is the configured
one, and no page comes before the first. -/
def paging (config : StoreConfig) (page : Int) (count : Option Int) : PageRequest :=
  ⟨max page 0, (count.filter fun count => decide (0 < count)).getD config.defaultPageSize.val⟩

end StoreConfig

/-- The configuration. -/
structure Config where
  service : ServiceConfig
  store : StoreConfig
  deriving DecidableEq

namespace Config

/-- The configuration when nothing is configured. -/
def default : Config :=
  ⟨.default, .default⟩

/-- The sections by name. -/
def fields : List Field :=
  [ .defaulted "service" ServiceConfig.codec .default,
    .defaulted "store" StoreConfig.codec .default ]

/-- Reads a configuration. -/
def decode (value : Json) : Except DecodeError Config :=
  (Row.decode fields value).map fun row => ⟨row.1, row.2.1⟩

/-- Writes a configuration. -/
def encode (config : Config) : Except String Document :=
  Row.encode fields (config.service, config.store, ())

end Config

/-- Where a collection is: its name, and its database if that is not the
configured one. -/
structure CollectionOptions where
  database : Option String
  collection : String
  deriving DecidableEq

namespace CollectionOptions

/-- The fields of options by name. -/
def fields : List Field :=
  [ ⟨"database", Option String, (Codec.text.optional).omitted (fun _ => false) none⟩,
    ⟨"collection", String, .text⟩ ]

/-- Reads options. -/
def decode (value : Json) : Except DecodeError CollectionOptions :=
  (Row.decode fields value).map fun row => ⟨row.1, row.2.1⟩

/-- Writes options. -/
def encode (options : CollectionOptions) : Except String Document :=
  Row.encode fields (options.database, options.collection, ())

/-- The namespace of a collection. A collection for which no database is known
is reported, and goes into the one without a name. -/
def place (options : CollectionOptions) (config : StoreConfig) : Logged Namespace := do
  let own := options.database.filter fun database => !database.isEmpty
  let database := (own.or config.defaultDatabase?).getD ""
  if database.isEmpty then
    Logged.report
      { level := .warn, origin := .access
        message := "No database configured for DAO; set store.database"
        values := [("collection", .text options.collection)] }
  return ⟨database, options.collection⟩

end CollectionOptions

end Docket
