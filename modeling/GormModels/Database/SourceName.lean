import GormModels.Database.Url
import GormModels.Report
import GormModels.Text.Blank
import GormModels.Text.Digit

/-!
Data source names: where a database is found and who asks it. They come as an address with a scheme or as
`user:password@protocol(host:port)/name?parameters`.
-/

namespace GormModels.Database

open Text

/-- How a database is reached. -/
structure Settings where
  name : String
  user : String
  password : String
  host : String
  port : String
  options : List (String × String)
  deriving DecidableEq, Repr

namespace Settings

/-- The backend that all connections go through. -/
def engine : String := "django.db.backends.mysql"

/-- Whether settings agree; the order of their options does not matter. -/
def same (a b : Settings) : Bool :=
  a.name == b.name && a.user == b.user && a.password == b.password && a.host == b.host &&
    a.port == b.port && a.options.length == b.options.length &&
    a.options.all fun (name, value) => b.options.lookup name == some value

end Settings

inductive SourceNameError
  | empty
  | scheme (scheme : String)
  | form
  | noDatabase
  /-- A host or port that cannot be read; no report covers it. -/
  | url (error : UrlError)
  deriving DecidableEq, Repr

namespace SourceNameError

def message : SourceNameError → String
  | empty => "Database DSN is empty"
  | scheme s => "Unsupported database URL scheme '" ++ s ++ "', only MySQL is supported"
  | form => "Could not parse MySQL DSN; expected user:pass@tcp(host:port)/dbname"
  | noDatabase => "Database DSN does not name a database"
  | url _ => ""

def report? (e : SourceNameError) : Option Report :=
  match e with
  | url _ => none
  | e => some (.configuration e.message (some "db-dsn"))

end SourceNameError

def schemes : List String := ["mysql", "mysql+mysqldb"]

/-- The settings in an address with a scheme. -/
def ofUrl (s : List Char) : Except SourceNameError Settings := do
  let url ← (Url.read s).mapError .url
  if url.scheme ∉ schemes then throw (.scheme url.scheme)
  let (user, password) := url.userAndPassword
  let (host, port) := url.hostAndPort
  let port ← (readPort port).mapError .url
  return {
    name := .ofList (unescape (url.path.dropWhile (· == '/')))
    user := .ofList (unescape user)
    password := .ofList (unescape password)
    host := .ofList (lowerHost host)
    port := (port.filter (· != 0)).elim "" toString
    options := queryValues url.query }

/-- The user and password that a text starts with, and what follows their at sign. -/
def credentials? (s : List Char) : Option (List Char × List Char × List Char) :=
  let user := s.takeWhile fun c => c != ':' && c != '@' && c != '/'
  match s.drop user.length with
  | '@' :: rest => some (user, [], rest)
  | ':' :: rest =>
    match rest.dropWhile (· != '@') with
    | _ :: behind => some (user, rest.takeWhile (· != '@'), behind)
    | [] => none
  | _ => none

/-- Where a server listens: a protocol and its address. -/
structure Endpoint where
  protocol : List Char
  address : List Char

/-- The endpoint at the start of a text, with what follows the slash behind it. -/
def endpoint? (s : List Char) : Option (Endpoint × List Char) :=
  let protocol := s.takeWhile isWordChar
  match s.dropWhile isWordChar with
  | '/' :: rest => some (⟨protocol, []⟩, rest)
  | '(' :: rest =>
    if protocol.isEmpty then none
    else match rest.dropWhile (· != ')') with
      | ')' :: '/' :: behind => some (⟨protocol, rest.takeWhile (· != ')')⟩, behind)
      | _ => none
  | _ => none

/-- The host and port of an endpoint; that of a socket is a path. -/
def Endpoint.hostAndPort (e : Endpoint) : List Char × List Char :=
  if e.protocol == "unix".toList || !e.address.contains ':' then (e.address, [])
  else splitLast ':' e.address

/-- The database and the parameters, which stand on one line. -/
def database? (s : List Char) : Option (List Char × List Char) :=
  let (name, parameters) := splitFirst '?' s
  if parameters.contains '\n' then none else some (name, parameters)

/-- An endpoint and a database behind credentials. -/
def settings? (user password s : List Char) : Option Settings := do
  let (endpoint, rest) ← endpoint? s
  let (name, parameters) ← database? rest
  let (host, port) := endpoint.hostAndPort
  return {
    name := .ofList name
    user := .ofList user
    password := .ofList password
    host := .ofList host
    port := .ofList port
    options := (queryValues parameters).filter (·.1 == "charset") }

/-- The settings in a source name without a scheme. Where what looks like credentials is followed by no
endpoint, the name has none. -/
def ofPlain (s : List Char) : Except SourceNameError Settings :=
  let withCredentials := (credentials? s).bind fun (user, password, rest) => settings? user password rest
  match withCredentials <|> settings? [] [] s with
  | some settings => .ok settings
  | none => .error .form

def hasScheme : List Char → Bool
  | ':' :: '/' :: '/' :: _ => true
  | _ :: rest => hasScheme rest
  | [] => false

def parseSourceName (source : String) : Except SourceNameError Settings := do
  let s := trim source.toList
  if s.isEmpty then throw .empty
  let settings ← if hasScheme s then ofUrl s else ofPlain s
  if settings.name == "" then throw .noDatabase
  return settings

end GormModels.Database
