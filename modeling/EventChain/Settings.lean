import EventChain.Batch
import EventChain.Field.Scalar
import EventChain.Text.Lower

/-!
# Settings

The settings of an installation. `Settings.read` takes each from a record of given values or
else from the environment, in which the case of a name does not count. A given value that is
no setting is a fault.
-/

namespace EventChain

structure Settings where
  logLevel : String
  databaseUrl : String
  postgresHost : Option String
  postgresPort : Int
  postgresUser : String
  postgresPassword : String
  postgresDatabase : String
  poolSize : Int
  maxOverflow : Int
  maxNodes : Int
  actionTimeout : Binary64
  chainTimeout : Binary64
  concurrency : Int
  strictTransforms : Bool

namespace Settings

def logLevelName : String := "LOG_LEVEL"
def databaseUrlName : String := "DATABASE_URL"
def postgresHostName : String := "POSTGRES_HOST"
def postgresPortName : String := "POSTGRES_PORT"
def postgresUserName : String := "POSTGRES_USER"
def postgresPasswordName : String := "POSTGRES_PASSWORD"
def postgresDatabaseName : String := "POSTGRES_DB"
def poolSizeName : String := "DB_POOL_SIZE"
def maxOverflowName : String := "DB_MAX_OVERFLOW"
def maxNodesName : String := "RULE_ENGINE_MAX_CHAIN_NODES"
def actionTimeoutName : String := "RULE_ENGINE_ACTION_TIMEOUT"
def chainTimeoutName : String := "RULE_ENGINE_CHAIN_TIMEOUT"
def concurrencyName : String := "RULE_ENGINE_WORKER_CONCURRENCY"
def strictTransformsName : String := "RULE_ENGINE_STRICT_TRANSFORMS"

def names : List String :=
  [logLevelName, databaseUrlName, postgresHostName, postgresPortName, postgresUserName,
    postgresPasswordName, postgresDatabaseName, poolSizeName, maxOverflowName, maxNodesName,
    actionTimeoutName, chainTimeoutName, concurrencyName, strictTransformsName]

def standardLogLevel : String := "INFO"

/-- A level is kept in upper case; a value that is no text, or blank, gives the standard one. -/
def logLevelOf : Value → String
  | .text s =>
    let cs := Text.trim s.toList
    if cs.isEmpty then standardLogLevel else String.ofList (Text.upper cs)
  | _ => standardLogLevel

def standard : Settings where
  logLevel := standardLogLevel
  databaseUrl := "sqlite+aiosqlite:///./rulechain.db"
  postgresHost := none
  postgresPort := 5432
  postgresUser := "postgres"
  postgresPassword := "postgres"
  postgresDatabase := "rulechain"
  poolSize := 10
  maxOverflow := 20
  maxNodes := Route.standardLimit
  actionTimeout := .ofInt 10
  chainTimeout := .ofInt 30
  concurrency := 20
  strictTransforms := false

/-- The variables of an environment. -/
abbrev Environment := List (String × String)

/-- The value of a variable, the last counting where several differ by case alone. -/
def Environment.get? (env : Environment) (name : String) : Option String :=
  (env.reverse.find? fun (k, _) => Text.lower k.toList = Text.lower name.toList).map (·.2)

/-- All values that are given: first those of the record, then what the environment adds. -/
def sources (given : Record) (env : Environment) : Record :=
  given ++ names.filterMap fun name => do
    if given.has name then none
    let s ← env.get? name
    some (name, .text s)

/-- Faults of given values that are no settings. -/
def unknowns (given : Record) : Checked Unit :=
  match given.filter fun (k, _) => !names.contains k with
  | [] => .valid ()
  | others => .faulty (others.map fun (k, _) => ⟨[.name k], .unknown⟩)

open EventChain.Field in
def read (given : Record) (env : Environment) : Checked Settings :=
  let r := sources given env
  let field {α : Type} (name : String) (standard : α) (reader : Value → Checked α) : Checked α :=
    Field.read r [name] (some standard) reader
  (fun logLevel databaseUrl host port user password database poolSize maxOverflow maxNodes
      actionTimeout chainTimeout concurrency strict _ =>
    ⟨logLevel, databaseUrl, host, port, user, password, database, poolSize, maxOverflow, maxNodes,
      actionTimeout, chainTimeout, concurrency, strict⟩)
    <$> field logLevelName standard.logLevel (fun v => .valid (logLevelOf v))
    <*> field databaseUrlName standard.databaseUrl (single text)
    <*> field postgresHostName standard.postgresHost (nullable (single text))
    <*> field postgresPortName standard.postgresPort (single integer)
    <*> field postgresUserName standard.postgresUser (single text)
    <*> field postgresPasswordName standard.postgresPassword (single text)
    <*> field postgresDatabaseName standard.postgresDatabase (single text)
    <*> field poolSizeName standard.poolSize (single integer)
    <*> field maxOverflowName standard.maxOverflow (single integer)
    <*> field maxNodesName standard.maxNodes (single integer)
    <*> field actionTimeoutName standard.actionTimeout (single float)
    <*> field chainTimeoutName standard.chainTimeout (single float)
    <*> field concurrencyName standard.concurrency (single integer)
    <*> field strictTransformsName standard.strictTransforms (single boolean)
    <*> unknowns given

/-- The URL of the database: that of the server, if a host of one is set. -/
def effectiveUrl (s : Settings) : Except DigitLimit String :=
  match s.postgresHost with
  | none | some "" => pure s.databaseUrl
  | some host => return "postgresql+asyncpg://" ++ s.postgresUser ++ ":" ++ s.postgresPassword
      ++ "@" ++ host ++ ":" ++ (← Number.intText s.postgresPort) ++ "/" ++ s.postgresDatabase

/-- The limits that the settings give an engine. -/
def policy (s : Settings) : Policy :=
  ⟨s.maxNodes, some (.float s.actionTimeout), s.strictTransforms⟩

/-- The limits that the settings give a batch. -/
def batchPolicy (s : Settings) : BatchPolicy :=
  { BatchPolicy.standard with concurrency := s.concurrency }

/-- The timeout that the settings give a service. -/
def serviceTimeout (s : Settings) : Timeout := some (.float s.chainTimeout)

end Settings

end EventChain
