import Datebook.Config.Section
import Datebook.Program
import Datebook.Toml.Document

set_option autoImplicit false

namespace Datebook

structure LogConfig where
  level : String := "info"
  deriving DecidableEq

structure StoreConfig where
  kind : StoreKind := .inMemory
  path : String := "calendar.db"
  deriving DecidableEq

structure HttpConfig where
  host : String := "127.0.0.1"
  port : Nat := 8080
  deriving DecidableEq

def HttpConfig.address (config : HttpConfig) : String := s!"{config.host}:{config.port}"

structure BrokerConfig where
  url : String := "queue.db"
  pollInterval : TimeSpan := .ofMilliseconds 500
  deriving DecidableEq

structure SchedulerConfig where
  period : TimeSpan := .ofSeconds 60
  deriving DecidableEq

structure Config where
  log : LogConfig := {}
  store : StoreConfig := {}
  http : HttpConfig := {}
  broker : BrokerConfig := {}
  scheduler : SchedulerConfig := {}
  deriving DecidableEq

namespace Config

def logFields : List (Field LogConfig) := [
  .of "level" readString fun level config => { config with level }]

def storeFields : List (Field StoreConfig) := [
  .of "db" readStore fun kind config => { config with kind },
  .of "dsn" readString fun path config => { config with path }]

def httpFields : List (Field HttpConfig) := [
  .of "host" readString fun host config => { config with host },
  .of "port" readPort fun port config => { config with port }]

def brokerFields : List (Field BrokerConfig) := [
  .of "url" readString fun url config => { config with url },
  .of "poll_interval" readSpan fun pollInterval config => { config with pollInterval }]

def schedulerFields : List (Field SchedulerConfig) := [
  .of "period" readSpan fun period config => { config with period }]

def logSection : Field Config :=
  ⟨"logger", fun value config =>
    (readSection "LoggerConf" logFields config.log value).map fun log => { config with log }⟩

def storeSection : Field Config :=
  ⟨"storage", fun value config =>
    (readSection "StorageConf" storeFields config.store value).map fun store => { config with store }⟩

def httpSection : Field Config :=
  ⟨"http", fun value config =>
    (readSection "HttpConf" httpFields config.http value).map fun http => { config with http }⟩

def brokerSection : Field Config :=
  ⟨"broker", fun value config =>
    (readSection "BrokerConf" brokerFields config.broker value).map fun broker => { config with broker }⟩

def schedulerSection : Field Config :=
  ⟨"scheduler", fun value config =>
    (readSection "SchedulerConf" schedulerFields config.scheduler value).map fun scheduler =>
      { config with scheduler }⟩

def sections : Program → List (Field Config)
  | .calendar => [logSection, storeSection, httpSection]
  | .scheduler => [logSection, storeSection, brokerSection, schedulerSection]
  | .sender => [logSection, storeSection, brokerSection]

def read (program : Program) (text : List Char) : Except ConfigError Config :=
  match Toml.readDocument text with
  | none => .error .notToml
  | some entries => entries.foldlM (applyEntry (sections program)) {}

end Config
end Datebook
