import ValidityTables.Error
import ValidityTables.Text.Digit
import ValidityTables.Text.Numeral
import ValidityTables.Text.Word

/-!
# Accounts

The account that the client program uses. It comes from three texts, each of which may list entries
for several databases between semicolons; only the first entry is used. The password is never shown.
-/

namespace ValidityTables

open Text

structure Access where
  database : String
  host : String
  port : Option UInt16
  user : String
  /-- There is no password if its entry is a backslash and a zero. -/
  password : Option String
  deriving DecidableEq, Repr

namespace Access

def firstEntry (entries : String) : String :=
  String.ofList (entries.toList.takeWhile (· != ';'))

/-- The host and the database after the slashes of a protocol. The host ends at the first slash
before a word character; its characters so far are in `host`, last first. -/
def readHost? (host : List Char) : List Char → Option (List Char × List Char)
  | [] => none
  | c :: rest =>
    let database := rest.takeWhile isWord
    if c = '/' ∧ database ≠ [] then some (host.reverse, database) else readHost? (c :: host) rest

def readLine? : List Char → Option (List Char × List Char)
  | '/' :: '/' :: rest => readHost? [] rest
  | _ :: rest => readLine? rest
  | [] => none

/-- The host and the database of an address: those of its first line that has them. -/
def readAddress? (url : List Char) : Option (List Char × List Char) :=
  (url.splitOn '\n').findSome? readLine?

/-- Splits off the digits after the last colon, if that is how a host ends. -/
def splitPort? (host : List Char) : Option (List Char × List Char) :=
  let digits := (host.reverse.takeWhile isDigit).reverse
  match host.reverse.dropWhile isDigit with
  | ':' :: before => if digits = [] then none else some (before.reverse, digits)
  | _ => none

def readPort (host : List Char) : Except UpdateError (List Char × Option UInt16) :=
  match splitPort? host with
  | none => .ok (host, none)
  | some (name, digits) =>
    match readNat (UInt16.size - 1) digits with
    | .ok port => .ok (name, some (UInt16.ofNat port))
    | .error fault => .error (.invalidConfig ("bad port in ENV_TSQL_URL: " ++ fault.message))

def ofParts (url user password : String) : Except UpdateError Access :=
  match readAddress? url.toList with
  | none => .error (.invalidConfig ("cannot parse ENV_TSQL_URL: " ++ url))
  | some (address, database) =>
    match readPort address with
    | .error e => .error e
    | .ok (host, port) =>
      let entry := firstEntry password
      .ok {
        database := String.ofList database
        host := String.ofList host
        port
        user := firstEntry user
        password := if entry = "\\0" then none else some entry }

structure Variables where
  url : Option String
  user : Option String
  password : Option String
  deriving DecidableEq, Repr

def Variables.entries (account : Variables) : List (String × String) :=
  [("ENV_TSQL_URL", account.url), ("ENV_TSQL_USER", account.user),
    ("ENV_TSQL_PSWD", account.password)].filterMap fun (name, value) => value.map (name, ·)

/-- The account that the variables give. An empty variable counts as one that is not set. -/
def ofVariables (account : Variables) : Except UpdateError Access :=
  match account.url.filter (· != ""), account.user.filter (· != ""),
      account.password.filter (· != "") with
  | some url, some user, some password => ofParts url user password
  | _, _, _ => .error (.invalidConfig
      "one or more of ENV_TSQL_URL, ENV_TSQL_USER or ENV_TSQL_PSWD is not defined")

def clientArgs (access : Access) : List String :=
  [access.database, "--compress", "--host", access.host] ++
  (match access.port with
    | some port => ["--port=" ++ toString port]
    | none => []) ++
  ["--user=" ++ access.user] ++
  (match access.password with
    | some password => ["--password=" ++ password]
    | none => [])

def passwordOption : String := "--password="

def redactArgument (argument : String) : String :=
  if passwordOption.toList.isPrefixOf argument.toList then passwordOption ++ "XXX" else argument

def redacted (access : Access) : String :=
  " ".intercalate (access.clientArgs.map redactArgument)

end Access

end ValidityTables
