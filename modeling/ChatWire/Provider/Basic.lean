import ChatWire.History.Message
import ChatWire.Stream.ToolCall
import ChatWire.Tool.Result
import ChatWire.Wire.FinishReason

namespace ChatWire.Provider

open ChatWire.History ChatWire.Stream ChatWire.Tool ChatWire.Wire

/-- Why a provider failed. -/
inductive ProviderError where
  /-- The provider answered with an error. -/
  | provider (message : String)
  /-- The request did not go through. -/
  | requestFailed (message : String)
  | authentication (message : String)
  | missingApiKey (message : String)
  | unknownProvider (message : String)
deriving DecidableEq, Inhabited

namespace ProviderError

/-- The message of a provider error. -/
def message : ProviderError → String
  | .provider m => "provider error: " ++ m
  | .requestFailed m => "request failed: " ++ m
  | .authentication m => "authentication failed: " ++ m
  | .missingApiKey m => "missing API key: " ++ m
  | .unknownProvider m => "unknown provider: " ++ m

/-- The name of the error's kind. -/
def kindName : ProviderError → String
  | .provider _ => "ProviderError"
  | .requestFailed _ => "RequestFailed"
  | .authentication _ => "AuthenticationError"
  | .missingApiKey _ => "MissingApiKey"
  | .unknownProvider _ => "UnknownProvider"

end ProviderError

/-- Everything a provider needs to start a turn. -/
structure TurnRequest where
  /-- The history, oldest first, ending with the user's message. -/
  messages : List Message := []
  systemPrompt : Option String := none
  tools : List ToolDefinition := []
deriving Inhabited

/-- One event of a provider stream. -/
structure ProviderEvent where
  text : String := ""
  toolCalls : List RawToolCallDelta := []
  finishReason : Option String := none
  usage : Option Usage := none
deriving Inhabited

/-- How a provider stream behaves after its items. -/
inductive StreamEnd where
  /-- The stream ends. -/
  | finished
  /-- The stream never yields again and never ends. -/
  | stalls
  /-- The task reading the stream dies with a message. -/
  | breaks (message : String)
deriving Inhabited

/-- A provider stream: its items in order, then its end. -/
structure EventStream where
  items : List (Except ProviderError ProviderEvent) := []
  ending : StreamEnd := .finished
deriving Inhabited

end ChatWire.Provider
