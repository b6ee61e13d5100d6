import ChatWire.Config.Basic
import ChatWire.Host.Files

namespace ChatWire.Config

open ChatWire.Host ChatWire.Toml

/-- The environment variable that names a configuration file. -/
def pathVariable : String := "RELAY_CONFIG"

/-- Why a configuration could not be loaded. -/
inductive ConfigError where
  /-- The file could not be read. -/
  | io (path : String) (cause : OsError)
  /-- The file is not a valid configuration; `source` is its text. -/
  | parse (path : String) (source : String) (cause : TomlError)
deriving Inhabited

namespace ConfigError

/-- The message of the error itself, without its cause. -/
def headline : ConfigError → String
  | .io path _ => "failed to read config file '" ++ path ++ "'"
  | .parse path _ _ => "failed to parse config file '" ++ path ++ "'"

/-- The message of the cause. -/
def causeText : ConfigError → String
  | .io _ cause => cause.text
  | .parse _ source cause => cause.render source

/-- The full message: the error and its cause. -/
def message (e : ConfigError) : String :=
  e.headline ++ ": " ++ e.causeText

/-- The name of the error's kind. -/
def kindName : ConfigError → String
  | .io .. => "IoError"
  | .parse .. => "ParseError"

end ConfigError

/-- Loads the configuration in a file. -/
def loadFrom (fs : Files) (path : String) : Except ConfigError Config :=
  match fs.read path with
  | .error e => .error (.io path e)
  | .ok text =>
    match parse text with
    | .ok c => .ok c
    | .error e => .error (.parse path text e)

/-- The configuration file the search finds, if any. -/
def findFile (fs : Files) (env : Environment) (home : Option String) : Option String :=
  match env.lookup pathVariable with
  | some p => if fs.pathExists p then some p else rest
  | none => rest
where
  rest : Option String :=
    if fs.pathExists "config.toml" then some "config.toml"
    else match home with
      | some h =>
        let p := (if h.endsWith "/" then h else h ++ "/") ++ ".config/relay/config.toml"
        if fs.pathExists p then some p else none
      | none => none

/-- Searches for the configuration and loads it; the default when there is none. -/
def load (fs : Files) (env : Environment) (home : Option String) : Except ConfigError Config :=
  match findFile fs env home with
  | some p => loadFrom fs p
  | none => .ok {}

end ChatWire.Config
