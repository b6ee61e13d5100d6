import ChatWire.Config.Basic
import ChatWire.Host.Files
import ChatWire.Provider.Compat
import ChatWire.Provider.Mock

namespace ChatWire.Provider

open ChatWire.Config ChatWire.Host

/-- The environment variable and default API root of a provider name. -/
def providerDefaults : String → Option (String × String)
  | "openai" => some ("OPENAI_API_KEY", "https://api.openai.com/v1")
  | "deepseek" => some ("DEEPSEEK_API_KEY", "https://api.deepseek.com")
  | _ => none

/-- Drops trailing slashes. -/
def trimTrailingSlashes (s : String) : String :=
  String.ofList (s.toList.reverse.dropWhile (· == '/')).reverse

/-- Creates the provider a configuration names. -/
def create (config : Config) (env : Environment) : Except ProviderError Compat :=
  match providerDefaults config.provider with
  | none => .error (.unknownProvider config.provider)
  | some (keyVariable, defaultRoot) =>
    let fromEnv := (env.lookup keyVariable).filter (!·.isEmpty)
    let fromConfig := config.apiKey.filter (!·.isEmpty)
    match fromEnv <|> fromConfig with
    | none =>
      .error (.missingApiKey ("Set " ++ keyVariable ++ " environment variable or add api_key to config.toml"))
    | some key =>
      let root := config.baseUrl.getD defaultRoot
      .ok { name := config.provider, endpoint := trimTrailingSlashes root ++ "/chat/completions",
            apiKey := key, model := config.model, maxTokens := config.maxTokens }

/-- The provider a chat service uses. -/
inductive Backend where
  | compat (provider : Compat) (transport : Transport)
  | scripted (mock : Mock)

namespace Backend

/-- The name of the provider. -/
def name : Backend → String
  | .compat p _ => p.name
  | .scripted _ => "mock"

/-- Starts a turn. -/
def streamTurn (b : Backend) (req : TurnRequest) : Except ProviderError EventStream × Backend :=
  match b with
  | .compat p t => (p.streamTurn t req, b)
  | .scripted m => let (r, m) := m.streamTurn req; (r, .scripted m)

/-- The requests a scripted provider received. -/
def requests : Backend → List TurnRequest
  | .scripted m => m.requests
  | .compat .. => []

end Backend

end ChatWire.Provider
