import EventChain.Number.Reading
import EventChain.Text.Percent
import EventChain.Text.Word

/-!
# Database URLs

A URL names a driver and then, each part being optional, a user with a password, a host with
a port, a database and a query. All but host and port are written with escapes.
`DatabaseUrl.read` and `DatabaseUrl.text?` read and write one.
-/

namespace EventChain

structure DatabaseUrl where
  driver : String
  user : Option (List Char)
  password : Option (List Char)
  host : Option (List Char)
  port : Option Int
  database : Option (List Char)
  /-- The entries of the query, in order. -/
  query : List (List Char × List Char)

namespace DatabaseUrl

inductive Fault where
  | noUrl
  | badPort (fault : Numeral.IntegerFault)

def Fault.message : Fault → String
  | noUrl => "not a database URL"
  | badPort fault => fault.message

/-- Splits characters at the first one that is `mark`, which is in neither part. -/
def splitAt? (mark : Char) (cs : List Char) : Option (List Char × List Char) :=
  match cs.dropWhile (· ≠ mark) with
  | [] => none
  | _ :: rest => some (cs.takeWhile (· ≠ mark), rest)

/-- Splits characters at the last one that is `mark`. -/
def splitAtLast? (mark : Char) (cs : List Char) : Option (List Char × List Char) :=
  (splitAt? mark cs.reverse).map fun (after, before) => (before.reverse, after.reverse)

/-- Splits the driver off. -/
def readDriver (cs : List Char) : Option (String × List Char) :=
  let isName (c : Char) := Text.isWord c || c = '+'
  match cs.takeWhile isName, cs.dropWhile isName with
  | [], _ => none
  | name, ':' :: '/' :: '/' :: rest => some (String.ofList name, rest)
  | _, _ => none

/-- Splits a user off, and a password that stands after a colon. A password ends at the first at
sign, a user without one at the last before a slash or a colon. -/
def readUser (cs : List Char) : Option (List Char) × Option (List Char) × List Char :=
  let isUser (c : Char) := c ≠ ':' && c ≠ '/'
  let withPassword := match cs.dropWhile isUser with
    | ':' :: rest => splitAt? '@' rest
    | _ => none
  match withPassword with
  | some (password, rest) => (some (cs.takeWhile isUser), some password, rest)
  | none => match splitAtLast? '@' (cs.takeWhile isUser) with
    | some (user, rest) => (some user, none, rest ++ cs.dropWhile isUser)
    | none => (none, none, cs)

/-- Splits a host off; one between brackets may hold colons. -/
def readHost (cs : List Char) : Option (List Char) × List Char :=
  let isInside (c : Char) := c ≠ '/' && c ≠ '?'
  let bracketed := match cs with
    | '[' :: rest => match splitAtLast? ']' (rest.takeWhile isInside) with
      | some (host, after) =>
        if host.isEmpty then none else some (host, after ++ rest.dropWhile isInside)
      | none => none
    | _ => none
  match bracketed with
  | some (host, rest) => (some host, rest)
  | none =>
    let isHost (c : Char) := isInside c && c ≠ ':'
    let host := cs.takeWhile isHost
    (if host.isEmpty then none else some host, cs.dropWhile isHost)

/-- Splits a port off that stands after a colon. -/
def readPort (cs : List Char) : Except Fault (Option Int × List Char) :=
  match cs with
  | ':' :: rest =>
    let isPort (c : Char) := c ≠ '/' && c ≠ '?'
    let shown := rest.takeWhile isPort
    match Numeral.groupedInt shown with
    | .ok n => pure (some n, rest.dropWhile isPort)
    | .error fault => throw (.badPort fault)
  | _ => pure (none, cs)

def decodePlus (cs : List Char) : List Char :=
  Text.percentDecode (cs.map fun c => if c = '+' then ' ' else c)

/-- The entries of a query. Those without a value are dropped. -/
def readQuery (cs : List Char) : List (List Char × List Char) :=
  (cs.splitOn '&').filterMap fun entry => do
    let (key, value) ← splitAt? '=' entry
    if value.isEmpty then none else some (decodePlus key, decodePlus value)

def read (url : String) : Except Fault DatabaseUrl := do
  match readDriver url.toList with
  | none => throw .noUrl
  | some (driver, cs) =>
    let (user, password, cs) := readUser cs
    let (host, cs) := readHost cs
    let (port, cs) ← readPort cs
    let (database, cs) := match cs with
      | '/' :: rest => (some (rest.takeWhile (· ≠ '?')), rest.dropWhile (· ≠ '?'))
      | _ => (none, cs)
    let query := match cs with
      | '?' :: rest => readQuery (rest.takeWhile (· ≠ '\n'))
      | _ => []
    pure { driver, user := user.map Text.percentDecode, password := password.map Text.percentDecode,
           host, port, database := database.map Text.percentDecode, query }

/-- Text of a user or a password. -/
def quoted (cs : List Char) : String := Text.percentEncode [' ', '+'] cs

/-- Text of a key or a value of a query. -/
def quotedPlus (cs : List Char) : String :=
  String.ofList ((Text.percentEncode [' '] cs).toList.map fun c => if c = ' ' then '+' else c)

/-- The entries of the query by key, those of one key in their order. -/
def sortedQuery (url : DatabaseUrl) : List (List Char × List Char) :=
  url.query.mergeSort fun a b => String.ofList a.1 ≤ String.ofList b.1

def values (url : DatabaseUrl) (key : String) : List (List Char) :=
  (url.query.filter (·.1 = key.toList)).map (·.2)

/-- The URL without some keys of its query. -/
def without (url : DatabaseUrl) (keys : List String) : DatabaseUrl :=
  { url with query := url.query.filter fun (k, _) => !keys.contains (String.ofList k) }

/-- The parts of a URL that are written with escapes. -/
def escapedParts (url : DatabaseUrl) : List (List Char) :=
  url.user.toList ++ url.password.toList ++ url.database.toList
    ++ url.query.flatMap fun (k, v) => [k, v]

/-- The text of a URL; none where a part has no UTF-8 form. -/
def text? (url : DatabaseUrl) : Option String :=
  if url.escapedParts.all Text.isEncodable then some shown else none
where
  shown : String :=
    url.driver ++ "://"
      ++ (match url.user with
        | some user => quoted user
          ++ (match url.password with | some password => ":" ++ quoted password | none => "") ++ "@"
        | none => "")
      ++ (match url.host with
        | some host =>
          if host.contains ':' then "[" ++ String.ofList host ++ "]" else String.ofList host
        | none => "")
      ++ (match url.port with | some port => ":" ++ toString port | none => "")
      ++ (match url.database with
        | some database => "/" ++ Text.percentEncode [' ', '+', '/'] database
        | none => "")
      ++ (if url.query.isEmpty then ""
        else "?" ++ "&".intercalate
          (url.sortedQuery.map fun (k, v) => quotedPlus k ++ "=" ++ quotedPlus v))

end DatabaseUrl

end EventChain
