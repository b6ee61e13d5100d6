import ChatWire.Turn.Basic
import ChatWire.Config.Load

namespace ChatWire.Cli

open ChatWire.Turn ChatWire.Wire ChatWire.Config

/-- An error as the chain of its messages, the outermost first. -/
structure Report where
  messages : List String
deriving Inhabited

namespace Report

/-- A report with one more message in front: what was being done. -/
def context (what : String) (r : Report) : Report :=
  ⟨what :: r.messages⟩

/-- Indents every line of a text after the first. -/
def indentLines (indent text : String) : String :=
  ("\n" ++ indent).intercalate (text.splitOn "\n")

/-- A number right-aligned in five columns. -/
def padNumber (n : Nat) : String :=
  let digits := toString n
  String.ofList (List.replicate (5 - digits.length) ' ') ++ digits

/-- The causes under `Caused by:`. -/
def causesText : List String → String
  | [] => ""
  | [cause] => "\n\nCaused by:\n    " ++ indentLines "    " cause
  | causes => "\n\nCaused by:" ++ String.join (causes.zipIdx.map fun (cause, n) =>
      "\n" ++ padNumber n ++ ": " ++ indentLines "       " cause)

/-- The full text of a report. -/
def fullText (r : Report) : String :=
  match r.messages with
  | [] => ""
  | first :: causes => first ++ causesText causes

/-- The one-line text of a report. -/
def lineText (r : Report) : String :=
  ": ".intercalate r.messages

end Report

/-- The chain of a stream error. -/
def streamErrorChain (e : StreamError) : List String :=
  match e with
  | .writeFailed cause => [e.message, cause]
  | _ => [e.message]

/-- The chain of a turn error. -/
def turnErrorChain (e : TurnError) : List String :=
  match e with
  | .stream cause => e.message :: streamErrorChain cause
  | .provider cause => [e.message, cause.message]
  | .storage cause => [e.message, cause.message]
  | .cancelled => [e.message]

/-- The chain of a configuration error. -/
def configErrorChain (e : ConfigError) : List String :=
  [e.message, e.causeText]

end ChatWire.Cli
