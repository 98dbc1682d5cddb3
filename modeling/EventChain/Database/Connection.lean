import EventChain.Database.Hosts
import EventChain.Text.Lower

/-!
# Connections to a database

`Connection.ofUrl` chooses how to connect by the scheme of a URL: servers are reached through
a pool of connections, files are opened anew each time. The driver has to be one that does
not block.
-/

namespace EventChain

/-- How connections are kept. -/
inductive Pooling where
  | queue
  | none
  deriving DecidableEq, Repr

structure Connection where
  url : DatabaseUrl
  pooling : Pooling

/-- What the value of an option must spell. -/
inductive OptionKind where
  | truth
  | integer
  | decimal
  deriving DecidableEq, Repr

/-- Why a value of an option is none. -/
inductive OptionFault where
  | notTruth (word : String)
  | notInteger (fault : Numeral.IntegerFault)
  | notDecimal (text : List Char)

def OptionFault.message : OptionFault → String
  | notTruth word => "String is not true/false: " ++ Text.quote word
  | notInteger fault => fault.message
  | notDecimal text => "could not convert string to float: " ++ Text.quote (String.ofList text)

namespace OptionKind

/-- The truth value that a text spells, blanks at its ends and the case of letters apart. -/
def readTruth (cs : List Char) : Except OptionFault Bool :=
  let word := String.ofList (Text.lower (Text.trim cs))
  if ["true", "yes", "on", "y", "t", "1"].contains word then pure true
  else if ["false", "no", "off", "n", "f", "0"].contains word then pure false
  else throw (.notTruth word)

def check (cs : List Char) : OptionKind → Except OptionFault Unit
  | truth => do
    let _ ← readTruth cs
  | integer => match Numeral.groupedInt cs with
    | .ok _ => pure ()
    | .error fault => throw (.notInteger fault)
  | decimal => if (Numeral.groupedFloat? cs).isSome then pure () else throw (.notDecimal cs)

end OptionKind

inductive ConnectionFault where
  | unsupported (url : String)
  | malformed (fault : DatabaseUrl.Fault)
  /-- No plugin can be loaded. -/
  | unknownPlugin (name : List Char)
  /-- A driver is named in more than two parts. -/
  | manyParts
  | unknownDriver (name : String)
  /-- What is named is there but is no driver. -/
  | notDriver (name : String)
  /-- A driver needs what is not installed. -/
  | missingDriver (name : String)
  | blocking (driver : String)
  /-- A file is not on any host. -/
  | hostedFile
  /-- Parameters of a file need the name of one. -/
  | namelessFile
  | badOption (fault : OptionFault)
  | repeatedOption (name : String)
  | hosts (fault : DatabaseUrl.HostsFault)

def ConnectionFault.message : ConnectionFault → String
  | unsupported url => "Unsupported database URL scheme: " ++ url
  | malformed fault => fault.message
  | unknownPlugin name => "unknown plugin " ++ Text.quote (String.ofList name)
  | manyParts => "too many values to unpack (expected 2)"
  | unknownDriver name => "unknown database driver " ++ Text.quote name
  | notDriver name => Text.quote name ++ " is no database driver"
  | missingDriver name => "database driver " ++ Text.quote name ++ " is not installed"
  | blocking driver => "database driver " ++ Text.quote driver ++ " blocks"
  | hostedFile => "a database file has no host"
  | namelessFile => "parameters of a database file without a name"
  | badOption fault => fault.message
  | repeatedOption name => "option " ++ Text.quote name ++ " is given more than once"
  | hosts fault => fault.message

/-- What a driver of database files is like. -/
inductive FileDriver where
  | waiting
  | blocking
  | missing
  /-- Something else among the drivers. -/
  | other
  deriving DecidableEq, Repr

namespace FileDriver

/-- What is found beside the drivers: column types and statements. -/
def others : List String :=
  ["BLOB", "BOOLEAN", "CHAR", "DATE", "DATETIME", "DECIMAL", "FLOAT", "INTEGER", "JSON",
    "NUMERIC", "REAL", "SMALLINT", "TEXT", "TIME", "TIMESTAMP", "VARCHAR", "Insert", "insert",
    "dialect", "dml", "json"]

def ofName? (name : String) : Option FileDriver :=
  match name with
  | "aiosqlite" => some waiting
  | "pysqlite" | "base" => some blocking
  | "pysqlcipher" => some missing
  | _ => if others.contains name then some other else none

/-- Finds a driver of database files by its full name. -/
def find (fullName : String) : Except ConnectionFault FileDriver :=
  match fullName.splitOn "+" with
  | [_] => throw (.unknownDriver fullName)
  | [kind, name] =>
    if kind = "sqlite" then match ofName? name with
      | none => throw (.unknownDriver fullName)
      | some other => throw (.notDriver fullName)
      | some missing => throw (.missingDriver fullName)
      | some driver => pure driver
    else throw (.unknownDriver fullName)
  | _ => throw .manyParts

end FileDriver

namespace Connection

def serverDriver : String := "postgresql+asyncpg"
def fileDriver : String := "sqlite+aiosqlite"

/-- The options of a server whose values are checked. -/
def serverOptions : List (String × OptionKind) := [("prepared_statement_cache_size", .integer)]

/-- The options of a database file whose values are checked. -/
def fileOptions : List (String × OptionKind) :=
  [("uri", .truth), ("timeout", .decimal), ("detect_types", .integer),
    ("check_same_thread", .truth), ("cached_statements", .integer)]

/-- The keys that are options of a database file; others are parameters of the file. -/
def fileKeys : List String := "isolation_level" :: fileOptions.map (·.1)

/-- Refuses the first option with a value that it cannot have. -/
def checkOptions (url : DatabaseUrl) (options : List (String × OptionKind)) :
    Except ConnectionFault Unit :=
  options.forM fun (name, kind) =>
    match url.values name with
    | [] => pure ()
    | [found] => match kind.check found with
      | .ok () => pure ()
      | .error fault => throw (.badOption fault)
    | _ => if kind = .truth then pure () else throw (.repeatedOption name)

/-- Whether a URL names a host or who connects to it. -/
def isHosted (url : DatabaseUrl) : Bool :=
  !(url.user.getD []).isEmpty || !(url.password.getD []).isEmpty || url.host.isSome
    || url.port.getD 0 ≠ 0

/-- Whether the file is named by a URL of its own. -/
def isUri (url : DatabaseUrl) : Bool :=
  match url.values "uri" with
  | [] => false
  | [found] => match OptionKind.readTruth found with
    | .ok b => b
    | .error _ => false
  | _ => true

/-- Refuses parameters of a file that has no name. -/
def checkName (url : DatabaseUrl) : Except ConnectionFault Unit :=
  if isUri url && url.database.isNone && !(url.without fileKeys).query.isEmpty then
    throw .namelessFile
  else pure ()

/-- Reads a URL and takes the plugins off, none of which can be loaded. -/
def readUrl (url : String) : Except ConnectionFault DatabaseUrl :=
  match DatabaseUrl.read url with
  | .error fault => throw (.malformed fault)
  | .ok u => match u.values "plugin" with
    | name :: _ => throw (.unknownPlugin name)
    | [] => pure (u.without ["plugin", "plugins"])

def ofServer (url : String) : Except ConnectionFault Connection := do
  let full := if url.startsWith (serverDriver ++ "://") then url
    else url.replace "postgresql://" (serverDriver ++ "://")
  let u ← readUrl full
  match u.hostsAndPorts with
  | .error fault => throw (.hosts fault)
  | .ok (hosts, ports) =>
    checkOptions u serverOptions
    match DatabaseUrl.checkHosts hosts ports with
    | .error fault => throw (.hosts fault)
    | .ok () => pure ⟨u, .queue⟩

def ofFile (url : String) : Except ConnectionFault Connection := do
  let full := if url.startsWith "sqlite://" then url.replace "sqlite://" (fileDriver ++ "://")
    else url
  let u ← readUrl full
  let driver ← FileDriver.find u.driver
  if isHosted u then throw .hostedFile
  checkOptions u fileOptions
  checkName u
  if driver = .blocking then throw (.blocking u.driver)
  pure ⟨u, .none⟩

def ofUrl (url : String) : Except ConnectionFault Connection :=
  if url.startsWith "postgresql://" || url.startsWith (serverDriver ++ "://") then ofServer url
  else if url.startsWith "sqlite" then ofFile url
  else throw (.unsupported url)

end Connection

end EventChain
