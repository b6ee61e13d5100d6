import ChatWire.History.Message
import ChatWire.History.Uuid

namespace ChatWire.History

/-- Why a storage call failed. -/
inductive StorageError where
  | database (message : String)
  | notFound (session : Uuid)
deriving DecidableEq, Inhabited

namespace StorageError

/-- The message of a storage error. -/
def message : StorageError → String
  | .database m => "database error: " ++ m
  | .notFound id => "session not found: " ++ id.toText

/-- The name of the error's kind. -/
def kindName : StorageError → String
  | .database _ => "Database"
  | .notFound _ => "NotFound"

end StorageError

/-- A saved message. -/
structure StoredMessage where
  id : Uuid
  session : Uuid
  role : Role
  content : String
  tokenCount : Nat
deriving DecidableEq, Inhabited

namespace StoredMessage

/-- The message as sent to a model. -/
def toMessage (m : StoredMessage) : Message :=
  { role := m.role, content := m.content }

end StoredMessage

/-- Which store calls fail, by their number counted from 0. -/
structure StoreFaults where
  failSaves : List Nat := []
  failReads : List Nat := []
deriving Inhabited

/-- Sessions and their messages, oldest first. -/
structure Store where
  sessions : List (Uuid × List StoredMessage) := []
  ids : IdSource := {}
  faults : StoreFaults := {}
  saves : Nat := 0
  reads : Nat := 0
deriving Inhabited

namespace Store

/-- All messages of a session, oldest first. -/
def messages (s : Store) (session : Uuid) : List StoredMessage :=
  (s.sessions.lookup session).getD []

/-- Replaces the messages of a session, adding it if it is new. -/
def putSession (sessions : List (Uuid × List StoredMessage)) (session : Uuid)
    (msgs : List StoredMessage) : List (Uuid × List StoredMessage) :=
  if sessions.any (·.1 == session) then
    sessions.map fun (k, v) => if k == session then (k, msgs) else (k, v)
  else sessions ++ [(session, msgs)]

/-- Saves a message at the end of its session's history. -/
def save (s : Store) (session : Uuid) (role : Role) (content : String) (tokenCount : Nat) :
    Except StorageError StoredMessage × Store :=
  let number := s.saves
  let s := { s with saves := number + 1 }
  if s.faults.failSaves.contains number then (.error (.database "injected save failure"), s)
  else
    let (id, ids) := s.ids.timed
    let m : StoredMessage := { id, session, role, content, tokenCount }
    (.ok m, { s with ids, sessions := putSession s.sessions session (s.messages session ++ [m]) })

/-- The last `limit` messages of a session, oldest first. -/
def recent (s : Store) (session : Uuid) (limit : Nat) :
    Except StorageError (List StoredMessage) × Store :=
  let number := s.reads
  let s := { s with reads := number + 1 }
  if s.faults.failReads.contains number then (.error (.database "injected read failure"), s)
  else
    let all := s.messages session
    (.ok (all.drop (all.length - limit)), s)

end Store

end ChatWire.History
