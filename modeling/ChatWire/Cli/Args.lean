import ChatWire.History.Uuid.Parse
import ChatWire.Cli.Similar

namespace ChatWire.Cli

open ChatWire.History

/-- The arguments the program knows. -/
inductive Arg where
  | message
  | session
  | provider
  | config
  | repl
  | showHeaders
  | help
  | version
deriving DecidableEq, Inhabited

namespace Arg

/-- The options, in the order the program declares them. -/
def options : List Arg :=
  [.session, .provider, .config, .repl, .showHeaders, .help, .version]

/-- The long name of an option. -/
def long : Arg → String
  | .message => ""
  | .session => "session"
  | .provider => "provider"
  | .config => "config"
  | .repl => "repl"
  | .showHeaders => "show-headers"
  | .help => "help"
  | .version => "version"

/-- The short name of an option, if it has one. -/
def short : Arg → Option Char
  | .session => some 's'
  | .provider => some 'p'
  | .config => some 'c'
  | .repl => some 'r'
  | .help => some 'h'
  | .version => some 'V'
  | _ => none

/-- The name of an option's value. -/
def valueName : Arg → Option String
  | .session => some "SESSION"
  | .provider => some "PROVIDER"
  | .config => some "CONFIG"
  | _ => none

/-- Whether an option takes a value. -/
def takesValue (a : Arg) : Bool :=
  a.valueName.isSome

/-- How errors name an argument: `--session <SESSION>`, `--repl`, `[MESSAGE]`. -/
def display : Arg → String
  | .message => "[MESSAGE]"
  | a => match a.valueName with
    | some v => "--" ++ a.long ++ " <" ++ v ++ ">"
    | none => "--" ++ a.long

/-- How a usage line names an argument that was given. -/
def usageName : Arg → String
  | .message => "<MESSAGE>"
  | a => a.display

/-- The option with a long name. -/
def ofLong (name : String) : Option Arg :=
  options.find? (·.long == name)

/-- The option with a short name. -/
def ofShort (c : Char) : Option Arg :=
  options.find? (·.short == some c)

end Arg

/-- What the command line asks for. -/
structure Options where
  message : Option String := none
  session : Option Uuid := none
  provider : Option String := none
  config : Option String := none
  repl : Bool := false
  showHeaders : Bool := false
deriving Inhabited

/-- A command line the program cannot accept. -/
inductive UsageError where
  /-- An argument that is no option and has no place; the similar option, whether
      to suggest `--`, and the usage line. -/
  | unknownArgument (arg : String) (similar : Option String) (escapeTip : Bool) (usage : String)
  /-- An option given twice. -/
  | repeated (arg : Arg)
  /-- An option without its value. -/
  | missingValue (arg : Arg)
  /-- A value that does not parse. -/
  | invalidValue (arg : Arg) (value reason : String)
  /-- A value attached to a flag, and the usage line. -/
  | unexpectedValue (arg : Arg) (value : String) (usage : String)
deriving Inhabited

/-- The general usage line. -/
def generalUsage : String := "relay [OPTIONS] [MESSAGE]"

/-- The usage line for the arguments given so far. -/
def usageFor (given : List Arg) : String :=
  if given.isEmpty then generalUsage
  else
    let options := (given.filter (· != .message)).map Arg.usageName
    let message := if given.contains .message then Arg.message.usageName else Arg.message.display
    " ".intercalate ("relay" :: options ++ [message])

/-- All the arguments as one group, as a usage line shows it. -/
def groupUsage : String :=
  "<" ++ "|".intercalate ("MESSAGE" :: [Arg.session, .provider, .config, .repl, .showHeaders].map Arg.display) ++ ">"

/-- The usage line for a value attached to the flag `arg`: the flag and the message
    when nothing was accepted before it; otherwise the group of all arguments, which
    stands for every argument in it, so that only help and version, which are not in
    it, are named beside it. -/
def attachedValueUsage (given : List Arg) (arg : Arg) : String :=
  if given.isEmpty then usageFor [arg]
  else if arg == .help || arg == .version then "relay " ++ arg.display ++ " " ++ groupUsage
  else "relay " ++ groupUsage

namespace UsageError

/-- The closing hint of every usage error. -/
def helpHint : String := "\n\nFor more information, try '--help'.\n"

/-- The text of a usage error, as printed. -/
def render : UsageError → String
  | .unknownArgument arg similar escapeTip usage =>
    let similarTip := match similar with
      | some s => "\n\n  tip: a similar argument exists: '" ++ s ++ "'"
      | none => ""
    let escape :=
      if escapeTip then
        (if similar.isNone then "\n" else "") ++ "\n  tip: to pass '" ++ arg ++ "' as a value, use '-- " ++ arg ++ "'"
      else ""
    "error: unexpected argument '" ++ arg ++ "' found" ++ similarTip ++ escape ++ "\n\nUsage: " ++ usage ++
      helpHint
  | .repeated arg =>
    "error: the argument '" ++ arg.display ++ "' cannot be used multiple times\n\nUsage: " ++ generalUsage ++
      helpHint
  | .missingValue arg =>
    "error: a value is required for '" ++ arg.display ++ "' but none was supplied" ++ helpHint
  | .invalidValue arg value reason =>
    "error: invalid value '" ++ value ++ "' for '" ++ arg.display ++ "': " ++ reason ++ helpHint
  | .unexpectedValue arg value usage =>
    "error: unexpected value '" ++ value ++ "' for '" ++ arg.display ++ "' found; no more were expected" ++
      "\n\nUsage: " ++ usage ++ helpHint

end UsageError

/-- What running the command line comes to. -/
inductive Invocation where
  | run (options : Options)
  | help
  | version
  | usageError (error : UsageError)
deriving Inhabited

/-- The help text. -/
def helpText : String :=
  "Relay CLI - streams chat turns in the data stream wire format\n\n" ++
  "Usage: relay [OPTIONS] [MESSAGE]\n\n" ++
  "Arguments:\n" ++
  "  [MESSAGE]  Message to send (reads from stdin if not provided)\n\n" ++
  "Options:\n" ++
  "  -s, --session <SESSION>    Session ID to attach the turn to\n" ++
  "  -p, --provider <PROVIDER>  Override the LLM provider from config\n" ++
  "  -c, --config <CONFIG>      Path to a custom config file (overrides default search locations)\n" ++
  "  -r, --repl                 Read one message per line and answer each in the same session\n" ++
  "      --show-headers         Echo the response headers to stderr\n" ++
  "  -h, --help                 Print help\n" ++
  "  -V, --version              Print version\n"

/-- The version text. -/
def versionText : String := "relay 0.1.0\n"

/-- An argument read but not yet checked, with its values. -/
structure Pending where
  arg : Arg
  values : List String
deriving Inhabited

/-- Where the reading stands. -/
structure Reading where
  options : Options := {}
  /-- The arguments accepted so far, in order. -/
  given : List Arg := []
  pending : Option Pending := none
  /-- The option whose value is the next argument. -/
  expecting : Option Arg := none
  /-- Whether `--` was read. -/
  escaped : Bool := false
  /-- Whether the message was read. -/
  hasMessage : Bool := false
deriving Inhabited

/-- Why reading stops early. -/
inductive Stop where
  | help
  | version
  | error (e : UsageError)
deriving Inhabited

/-- Stores the value of an argument. -/
def store (o : Options) (arg : Arg) (value : String) : Except UsageError Options :=
  match arg with
  | .message => .ok { o with message := some value }
  | .session =>
    match Uuid.parse value with
    | .ok u => .ok { o with session := some u }
    | .error e => .error (.invalidValue .session value e.message)
  | .provider => .ok { o with provider := some value }
  | .config => if value.isEmpty then .error (.missingValue .config) else .ok { o with config := some value }
  | .repl => .ok { o with repl := true }
  | .showHeaders => .ok { o with showHeaders := true }
  | .help | .version => .ok o

/-- Accepts an argument with its values. The argument counts as given before its
    value is checked, and a repeated option stops counting as given. Returns the
    reading with what stops it, if anything. -/
def acceptArg (r : Reading) (arg : Arg) (values : List String) : Reading × Option Stop :=
  if arg.takesValue && values.isEmpty then (r, some (.error (.missingValue arg)))
  else if arg == .help then (r, some .help)
  else if arg == .version then (r, some .version)
  else if r.given.contains arg then ({ r with given := r.given.erase arg }, some (.error (.repeated arg)))
  else
    let r := { r with given := r.given ++ [arg] }
    match store r.options arg (values.headD "true") with
    | .ok options => ({ r with options }, none)
    | .error e => (r, some (.error e))

/-- The reading after the pending argument is accepted, and what stops it. -/
def settleWith (r : Reading) : Reading × Option Stop :=
  match r.pending with
  | some p => acceptArg { r with pending := none } p.arg p.values
  | none => (r, none)

/-- Accepts the pending argument, if there is one. -/
def settle (r : Reading) : Except Stop Reading :=
  match settleWith r with
  | (r, none) => .ok r
  | (_, some stop) => .error stop

/-- Accepts the pending argument where its failure is ignored. -/
def settleQuietly (r : Reading) : Reading :=
  (settleWith r).1

/-- Accepts an argument with its values, once the pending one is accepted. -/
def accept (r : Reading) (arg : Arg) (values : List String) : Except Stop Reading := do
  let r ← settle r
  match acceptArg r arg values with
  | (r, none) => .ok r
  | (_, some stop) => .error stop

/-- Starts an option whose value is the next argument. -/
def expectValue (r : Reading) (arg : Arg) : Except Stop Reading := do
  let r ← settle r
  return { r with pending := some ⟨arg, []⟩, expecting := some arg }

/-- Reads `--name` or `--name=value`. -/
def readLong (r : Reading) (body : String) : Except Stop Reading :=
  let (name, value) : String × Option String := match body.splitOn "=" with
    | [name] => (name, none)
    | name :: rest => (name, some ("=".intercalate rest))
    | [] => (body, none)
  match Arg.ofLong name with
  | some arg =>
    if arg.takesValue then
      match value with
      | some v => accept { r with expecting := none } arg [v]
      | none => expectValue r arg
    else
      match value with
      | some v => .error (.error (.unexpectedValue arg v (attachedValueUsage r.given arg)))
      | none => accept { r with expecting := none } arg []
  | none =>
    let r := settleQuietly r
    let similar := closest name (Arg.options.map Arg.long)
    let given := match similar.bind Arg.ofLong with
      | some a => if r.given.contains a then r.given else r.given ++ [a]
      | none => r.given
    .error (.error (.unknownArgument ("--" ++ name) (similar.map ("--" ++ ·)) similar.isNone (usageFor given)))

/-- Reads a group of short options `-abc`, with an attached value for the first
    option that takes one. -/
def readShort (r : Reading) : List Char → Except Stop Reading
  | [] => .ok r
  | c :: rest =>
    match Arg.ofShort c with
    | some arg =>
      if arg.takesValue then
        if rest.isEmpty then expectValue r arg
        else
          let value := if rest.head? == some '=' then rest.drop 1 else rest
          accept { r with expecting := none } arg [String.ofList value]
      else
        match accept { r with expecting := none } arg [] with
        | .ok r => readShort r rest
        | .error e => .error e
    | none => .error (.error (.unknownArgument ("-" ++ c.toString) none true generalUsage))

/-- Reads a value: the awaited option's, or the message. -/
def readValue (r : Reading) (arg : String) : Except Stop Reading :=
  match r.expecting, r.escaped with
  | some a, false => .ok { r with pending := some ⟨a, [arg]⟩, expecting := none }
  | _, _ =>
    if !r.hasMessage then do
      let r ← settle r
      return { r with pending := some ⟨.message, [arg]⟩, hasMessage := true, expecting := none }
    else .error (.error (.unknownArgument arg none false generalUsage))

/-- Reads one argument. -/
def readArg (r : Reading) (arg : String) : Except Stop Reading :=
  if r.escaped then readValue r arg
  else if arg == "--" then .ok { r with escaped := true }
  else if arg.startsWith "--" then readLong r (arg.drop 2).toString
  else if arg.startsWith "-" && arg != "-" then readShort r (arg.toList.drop 1)
  else readValue r arg

/-- Reads the arguments after the program name. -/
def parseArgs (args : List String) : Invocation :=
  let read := args.foldlM readArg {} >>= settle
  match read with
  | .ok r => .run r.options
  | .error .help => .help
  | .error .version => .version
  | .error (.error e) => .usageError e

end ChatWire.Cli
