import TenantStore.Metrics
import TenantStore.Relational.Pool
import TenantStore.Text.Terminal

/-! The command line: options with a value, which is the next argument or follows
an equals sign, and flags without one. A value does not look like an option. What
is not given may be set by the environment. -/

namespace TenantStore.Startup

/-- Options with a value. -/
inductive Setting where
  | storageBackend
  | databaseUrl
  | graphqlPort
  | metricsPort
  | logLevel
  deriving DecidableEq, Repr

/-- Options without a value. -/
inductive Flag where
  | jsonLogs
  | migrateOnly
  | help
  | version
  deriving DecidableEq, Repr

namespace Setting

def all : List Setting := [storageBackend, databaseUrl, graphqlPort, metricsPort, logLevel]

def name : Setting → String
  | storageBackend => "--storage-backend"
  | databaseUrl => "--database-url"
  | graphqlPort => "--graphql-port"
  | metricsPort => "--metrics-port"
  | logLevel => "--log-level"

/-- The option with a word for its value. -/
def usage (s : Setting) : String :=
  s.name ++ " <" ++
    (match s with
      | storageBackend => "STORAGE_BACKEND"
      | databaseUrl => "DATABASE_URL"
      | graphqlPort => "GRAPHQL_PORT"
      | metricsPort => "METRICS_PORT"
      | logLevel => "LOG_LEVEL") ++ ">"

end Setting

namespace Flag

def all : List Flag := [jsonLogs, migrateOnly, help, version]

def name : Flag → String
  | jsonLogs => "--json-logs"
  | migrateOnly => "--migrate-only"
  | help => "--help"
  | version => "--version"

def ofLetter? : Char → Option Flag
  | 'h' => some help
  | 'V' => some version
  | _ => none

/-- The flag asks for a text about the program, and for nothing else. -/
def isQuestion (f : Flag) : Bool := f = help ∨ f = version

end Flag

/-- One option of the command line with what belongs to it, or an argument that
is none. The value of a setting may be an argument of its own. -/
inductive Part where
  | setting (s : Setting) (value : Option String)
  | settingWithValue (s : Setting) (value : String)
  | flag (f : Flag)
  | flagWithValue (f : Flag) (value : String)
  | unknown (argument : String)
  deriving DecidableEq, Repr

/-- Why a command line is refused. -/
inductive Refusal where
  | unexpectedArgument (argument : String)
  | unexpectedValue (value : String) (f : Flag)
  | missingValue (s : Setting)
  | repeated (option : String)
  | invalidBackend (name : String)
  deriving DecidableEq, Repr

/-- The settings in force. -/
structure Settings where
  backend : Backend
  databaseUrl : String
  deriving DecidableEq, Repr

/-- What a command line comes to. -/
inductive Request where
  | run (s : Settings)
  | information
  deriving DecidableEq, Repr

namespace Refusal

open Terminal (heading literal wrong)

def reason : Refusal → String
  | unexpectedArgument argument => "unexpected argument '" ++ wrong argument ++ "' found"
  | unexpectedValue value f =>
    "unexpected value '" ++ wrong value ++ "' for '" ++ literal f.name ++
      "' found; no more were expected"
  | missingValue s => "a value is required for '" ++ literal s.usage ++ "' but none was supplied"
  | repeated option => "the argument '" ++ wrong option ++ "' cannot be used multiple times"
  | invalidBackend name =>
    "invalid value '" ++ wrong name ++ "' for '" ++ literal Setting.storageBackend.usage ++
      "': Invalid storage backend '" ++ name ++ "'. Use 'memory' or 'sql'."

/-- The styled message. -/
def message (r : Refusal) : String :=
  heading "error:" ++ " " ++ r.reason ++
    "\n\nFor more information, try '" ++ literal "--help" ++ "'.\n"

/-- The first line as it is shown without styles. -/
def summary (r : Refusal) : String :=
  String.ofList (Terminal.firstLine (Terminal.strip .nothing r.message.toList))

end Refusal

namespace CommandLine

/-- Name and value of an option that holds an equals sign. -/
def splitValue (argument : String) : String × Option String :=
  let cs := argument.toList
  (String.ofList (cs.takeWhile (· ≠ '=')),
    if cs.contains '=' then some (String.ofList ((cs.dropWhile (· ≠ '=')).drop 1)) else none)

/-- An argument that can be the value of the option ahead of it. -/
def isValue (argument : String) : Bool :=
  match argument.toList with
  | ['-'] => true
  | '-' :: _ => false
  | _ => true

/-- What an argument is when it is no value of the option ahead of it. -/
def part (argument : String) : Part :=
  match argument.toList with
  | '-' :: '-' :: _ =>
    let (name, value) := splitValue argument
    match Setting.all.find? (fun s => s.name == name),
        Flag.all.find? (fun f => f.name == name), value with
    | some s, _, some value => .settingWithValue s value
    | some s, _, none => .setting s none
    | none, some f, some value => .flagWithValue f value
    | none, some f, none => .flag f
    | none, none, _ => .unknown name
  | '-' :: letter :: _ =>
    match Flag.ofLetter? letter with
    | some f => .flag f
    | none => .unknown (String.ofList ['-', letter])
  | _ => .unknown argument

/-- Splits the arguments. Behind a double dash nothing is an option. -/
def parts : List String → List Part
  | [] => []
  | "--" :: rest => rest.map .unknown
  | [argument] => [part argument]
  | argument :: value :: rest =>
    match part argument with
    | .setting s none =>
      if isValue value then .setting s (some value) :: parts rest
      else .setting s none :: parts (value :: rest)
    | p => p :: parts (value :: rest)

/-- The backend with the name, in upper or lower case. -/
def backend? (name : String) : Except Refusal Backend :=
  match name.toLower with
  | "memory" => .ok .memory
  | "sql" => .ok .sql
  | _ => .error (.invalidBackend name)

def misfit? : Part → Option Refusal
  | .unknown argument => some (.unexpectedArgument argument)
  | .flagWithValue f value => some (.unexpectedValue value f)
  | .setting _ _ | .settingWithValue _ _ | .flag _ => none

def checkValue (earlier : List Part) (s : Setting) (value : String) : Except Refusal Unit :=
  if earlier.any fun p => match p with
      | .setting t _ | .settingWithValue t _ => t == s
      | _ => false then
    .error (.repeated s.usage)
  else if s = .storageBackend then (backend? value).map fun _ => ()
  else .ok ()

/-- Checks an option that is understood, given the ones before it. -/
def check (earlier : List Part) : Part → Except Refusal Unit
  | .setting s none => .error (.missingValue s)
  | .setting s (some value) | .settingWithValue s value => checkValue earlier s value
  | .flag f => if earlier.contains (.flag f) then .error (.repeated f.name) else .ok ()
  | .flagWithValue _ _ | .unknown _ => .ok ()

/-- Checks the parts in order. A setting whose value is, or should be, an argument
of its own is open until the next part is understood. A question ends the command
line; the answer is whether one was asked. -/
def checkAll (earlier : List Part) (opened : Option Part) : List Part → Except Refusal Bool
  | [] => do
    opened.forM (check earlier)
    return false
  | p :: rest =>
    match misfit? p with
    | some refusal => .error refusal
    | none => do
      opened.forM (check earlier)
      let earlier := earlier ++ opened.toList
      match p with
      | .setting _ _ => checkAll earlier (some p) rest
      | .flag f => do
        check earlier p
        if f.isQuestion then return true else checkAll (earlier ++ [p]) none rest
      | _ => do
        check earlier p
        checkAll (earlier ++ [p]) none rest

def value? (s : Setting) (parts : List Part) : Option String :=
  parts.findSome? fun p => match p with
    | .setting t value => if t = s then value else none
    | .settingWithValue t value => if t = s then some value else none
    | _ => none

/-- Reads the command line. An option wins over the environment, and that over
the default. -/
def read (arguments : List String) (environment : String → Option String) :
    Except Refusal Request := do
  let parts := parts arguments
  if ← checkAll [] none parts then return .information
  let name := ((value? .storageBackend parts).or (environment "STORAGE_BACKEND")).getD "memory"
  let backend ← backend? name
  let databaseUrl := ((value? .databaseUrl parts).or (environment "DATABASE_URL")).getD
    Relational.PoolOptions.defaultUrl
  return .run ⟨backend, databaseUrl⟩

end CommandLine

end TenantStore.Startup
