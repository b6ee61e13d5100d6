import ChatWire.Cli.Args
import ChatWire.Cli.Report
import ChatWire.Turn.Service
import ChatWire.Text.Blank

namespace ChatWire.Cli

open ChatWire.Host ChatWire.Config ChatWire.Turn ChatWire.Wire ChatWire.History ChatWire.Tool
open ChatWire.Provider

/-- When the user presses Ctrl-C during a turn: before its reply starts, right after the
    output took the reply's write number `afterWrites`, or while the turn waits for something
    that does not come. -/
structure Interrupt where
  atStart : Bool := false
  afterWrites : Option Nat := none
  whileWaiting : Bool := false
deriving Inhabited

namespace Interrupt

/-- The output a turn writes to: it takes everything, and the user asks to cancel right after
    the write the interrupt follows. -/
def sink (i : Interrupt) : Sink :=
  Sink.withFaults { cancelAfterWrites := i.afterWrites }

/-- How the interrupt cancels the turn's token. -/
def cancellation (i : Interrupt) : Cancellation :=
  { before := i.atStart, timer := i.whileWaiting }

end Interrupt

/-- What the program sees of its host. -/
structure Host where
  args : List String
  env : Environment := []
  files : Files := {}
  stdin : String := ""
  transport : Transport
  /-- Where new ids come from. -/
  ids : IdSource := {}
  /-- The time tools see. -/
  now : Instant := ⟨0, 0⟩
  /-- When the user presses Ctrl-C, turn by turn: the `n`-th entry for the `n`-th turn, and
      no press during the turns past the end. -/
  interrupts : List Interrupt := []

/-- What the program leaves behind. -/
structure Outcome where
  stdout : String := ""
  stderr : String := ""
  status : Nat := 0
  /-- Whether the program waits forever instead of ending. -/
  hangs : Bool := false
  files : Files := {}
deriving Inhabited

namespace Outcome

/-- Adds text to the output. -/
def print (o : Outcome) (text : String) : Outcome :=
  { o with stdout := o.stdout ++ text }

/-- Adds text to the error output. -/
def printError (o : Outcome) (text : String) : Outcome :=
  { o with stderr := o.stderr ++ text }

/-- Ends the program with a full report. -/
def fail (o : Outcome) (r : Report) : Outcome :=
  { o.printError ("Error: " ++ r.fullText ++ "\n") with status := 1 }

end Outcome

/-- The home directory: `HOME` when it is set and not empty. -/
def homeOf (env : Environment) : Option String :=
  match env.lookup "HOME" with
  | some h => if h.isEmpty then none else some h
  | none => none

/-- Loads the configuration the command line asks for. -/
def loadConfig (h : Host) (o : Options) : Except Report Config :=
  match o.config with
  | some path =>
    match loadFrom h.files path with
    | .ok c => .ok c
    | .error e => .error ⟨("Failed to load config from " ++ path) :: configErrorChain e⟩
  | none =>
    match load h.files h.env (homeOf h.env) with
    | .ok c => .ok c
    | .error e => .error ⟨"Failed to load config" :: configErrorChain e⟩

/-- Starts logging: creates the log directory of a logging section. Returns the
    warning printed when that fails. -/
def startLogging (fs : Files) (config : Config) : String × Files :=
  match config.logging with
  | none => ("", fs)
  | some l =>
    match fs.createDirAll l.directory with
    | .ok fs => ("", fs)
    | .error e =>
      ("Warning: Failed to create log directory '" ++ l.directory ++ "': " ++ e.text ++
        ". Logging to stderr only.\n", fs)

/-- How a turn ended for the user. -/
inductive TurnStatus where
  | completed
  | interrupted
  | failed (report : Report)
  | hangs

/-- Runs one turn with the output as the client, cancelled as the user's interrupt says. With
    `showHeaders` the stream headers go to the error output. -/
def runTurn (service : Service) (input : TurnInput) (showHeaders : Bool) (interrupt : Interrupt)
    (o : Outcome) : TurnStatus × Outcome × Service :=
  let ((ending, sink), service) := service.reply interrupt.sink input interrupt.cancellation
  let headers := if showHeaders then String.join (sink.headers.map fun (n, v) => n ++ ": " ++ v ++ "\n") else ""
  let o := (o.printError headers).print sink.contents
  let status := match ending with
    | .finished (.ok _) => .completed
    | .finished (.error .cancelled) => .interrupted
    | .finished (.error e) => .failed ⟨"Turn failed" :: turnErrorChain e⟩
    | .hung => .hangs
  (status, o, service)

/-- The lines of the input: split at `\n`, a `\r` before it dropped, and the text
    after the last line end kept when it is not empty. -/
def inputLines (text : String) : List String :=
  let pieces := text.splitOn "\n"
  let pieces := if text.endsWith "\n" || text.isEmpty then pieces.dropLast else pieces
  pieces.map fun l => if l.endsWith "\r" then (l.dropEnd 1).toString else l

/-- What line mode does with a line. -/
inductive LineAction where
  | skip
  | quit
  | send (content : String)

/-- Classifies a line of input by its trimmed text. -/
def classify (line : String) : LineAction :=
  let t := Text.trim line
  if t.isEmpty then .skip
  else if t == "/quit" || t == "/exit" then .quit
  else .send t

/-- Answers the lines of input one by one, each turn interrupted as the next of `interrupts`
    says. -/
def replLines (session user : Uuid) (showHeaders : Bool) :
    List String → List Interrupt → Service → Outcome → Outcome
  | [], _, _, o => o
  | line :: rest, interrupts, service, o =>
    match classify line with
    | .skip => replLines session user showHeaders rest interrupts service o
    | .quit => o
    | .send content =>
      match runTurn service { session, user, content } showHeaders (interrupts.headD {}) o with
      | (.completed, o, service) => replLines session user showHeaders rest interrupts.tail service o
      | (.interrupted, o, service) =>
        replLines session user showHeaders rest interrupts.tail service
          (o.printError "[Interrupted]\n")
      | (.failed r, o, service) =>
        replLines session user showHeaders rest interrupts.tail service
          (o.printError ("Error: " ++ r.lineText ++ "\n"))
      | (.hangs, o, _) => { o with hangs := true }

/-- The message of a single turn: the argument, else the input without trailing
    blanks when that is not empty. -/
def messageOf (o : Options) (stdin : String) : Option String :=
  match o.message with
  | some m => some m
  | none =>
    let text := Text.trimEnd stdin
    if text.isEmpty then none else some text

/-- Runs the program. -/
def run (h : Host) : Outcome :=
  let start : Outcome := { files := h.files }
  match parseArgs h.args with
  | .help => start.print helpText
  | .version => start.print versionText
  | .usageError e => { start.printError e.render with status := 2 }
  | .run opts =>
  match loadConfig h opts with
  | .error r => start.fail r
  | .ok config =>
  let config := match opts.provider with
    | some p => { config with provider := p }
    | none => config
  let (warning, files) := startLogging h.files config
  let o := { start.printError warning with files }
  match Service.ofConfig config h.env h.transport {} Registry.builtin h.now with
  | .error e => o.fail ⟨["Failed to create chat service", e.message]⟩
  | .ok service =>
  let (session, ids) := match opts.session with
    | some s => (s, h.ids)
    | none => h.ids.random
  let (user, ids) := ids.random
  let service := { service with ids }
  if opts.repl then
    let o := o.printError ("Session " ++ session.toText ++ ". Type /quit to exit.\n")
    replLines session user opts.showHeaders (inputLines h.stdin) h.interrupts service o
  else
    match messageOf opts h.stdin with
    | none => o.print helpText
    | some content =>
      match runTurn service { session, user, content } opts.showHeaders (h.interrupts.headD {}) o with
      | (.completed, o, _) => o
      | (.interrupted, o, _) => o.printError "[Interrupted]\n"
      | (.failed r, o, _) => o.fail r
      | (.hangs, o, _) => { o with hangs := true }

/-- The configuration files the program may read: the given one, or those the
    search looks at. -/
def configCandidates (h : Host) : List String :=
  match parseArgs h.args with
  | .run { config := some path, .. } => [path]
  | .run _ =>
    let home := (homeOf h.env).map fun d =>
      (if d.endsWith "/" then d else d ++ "/") ++ ".config/relay/config.toml"
    (h.env.lookup pathVariable).toList ++ ["config.toml"] ++ home.toList
  | _ => []

/-- The log directory the program creates, if it gets that far. -/
def logDirectory (h : Host) : Option String :=
  match parseArgs h.args with
  | .run opts =>
    match loadConfig h opts with
    | .ok config => config.logging.map (·.directory)
    | .error _ => none
  | _ => none

/-- Whether the program reads its input: in line mode, and when no message is given
    and the input is not a terminal. -/
def readsInput (args : List String) (terminal : Bool) : Bool :=
  match parseArgs args with
  | .run opts => opts.repl || (opts.message.isNone && !terminal)
  | _ => false

end ChatWire.Cli
