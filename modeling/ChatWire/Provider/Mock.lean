import ChatWire.Provider.Basic

namespace ChatWire.Provider

/-- One prepared turn. -/
inductive ScriptedTurn where
  | events (stream : EventStream)
  | startFailure (error : ProviderError)
deriving Inhabited

/-- A scripted provider: the turns left and the requests received, oldest first. -/
structure Mock where
  turns : List ScriptedTurn := []
  requests : List TurnRequest := []
deriving Inhabited

namespace Mock

/-- The turn served when the script is used up. -/
def fallback : EventStream :=
  { items := [.ok { text := "Mock response" }, .ok { finishReason := some "stop" }] }

/-- Starts a turn: records the request and serves the next prepared turn. -/
def streamTurn (m : Mock) (req : TurnRequest) : Except ProviderError EventStream × Mock :=
  let m := { m with requests := m.requests ++ [req] }
  match m.turns with
  | [] => (.ok fallback, m)
  | .events s :: rest => (.ok s, { m with turns := rest })
  | .startFailure e :: rest => (.error e, { m with turns := rest })

end Mock

end ChatWire.Provider
