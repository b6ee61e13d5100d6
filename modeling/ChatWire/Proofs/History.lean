import ChatWire.Proofs.TurnStages
import Mathlib.Data.String.Basic
import Mathlib.Data.List.Perm.Basic

namespace ChatWire.History

/-- The last `limit` entries of a log, oldest first; the whole log when it is shorter. -/
def window {α : Type} (limit : Nat) (log : List α) : List α :=
  log.drop (log.length - limit)

theorem length_window {α : Type} (limit : Nat) (log : List α) :
    (window limit log).length = min limit log.length := by
  simp only [window, List.length_drop]
  omega

theorem window_suffix {α : Type} (limit : Nat) (log : List α) : window limit log <:+ log :=
  List.drop_suffix _ _

namespace Store

theorem lookup_map_replace (l : List (Uuid × List StoredMessage)) (session other : Uuid)
    (msgs : List StoredMessage) :
    (l.map fun (k, v) => if k == session then (k, msgs) else (k, v)).lookup other =
      if other = session ∧ l.any (·.1 == session) then some msgs else l.lookup other := by
  induction l with
  | nil => simp
  | cons entry rest ih =>
    obtain ⟨k, v⟩ := entry
    by_cases hk : k = session
    · subst hk
      by_cases ho : other = k
      · subst ho
        simp
      · have hob : (other == k) = false := by simpa using ho
        simp only [List.map_cons, beq_self_eq_true, ↓reduceIte, List.lookup_cons, hob, ih, ho,
          false_and]
    · have hkb : (k == session) = false := by simpa using hk
      by_cases ho : other = k
      · subst ho
        simp [hk, hkb]
      · have hob : (other == k) = false := by simpa using ho
        simp only [List.map_cons, hkb, Bool.false_eq_true, ↓reduceIte, List.lookup_cons, hob, ih,
          List.any_cons, Bool.false_or]

theorem lookup_putSession (sessions : List (Uuid × List StoredMessage)) (session other : Uuid)
    (msgs : List StoredMessage) :
    (putSession sessions session msgs).lookup other =
      if other = session then some msgs else sessions.lookup other := by
  unfold putSession
  split
  · rename_i hany
    rw [lookup_map_replace]
    by_cases ho : other = session <;> simp [ho, hany]
  · rename_i hany
    rw [List.lookup_append]
    by_cases ho : other = session
    · subst ho
      have hnone : sessions.lookup other = none := by
        rw [List.lookup_eq_none_iff]
        intro p hp
        have hp' : (p.1 == other) = false := by
          cases hb : p.1 == other
          · rfl
          · exact absurd (List.any_eq_true.2 ⟨p, hp, hb⟩) hany
        rw [bne_iff_ne, ne_comm]
        simpa using hp'
      simp [hnone]
    · have hob : (other == session) = false := by simpa using ho
      simp only [List.lookup_cons, hob, List.lookup_nil, Option.or_none, ho, ↓reduceIte]

theorem save_eq {s : Store} (h : s.faults.failSaves = []) (session : Uuid) (role : Role)
    (content : String) (tokenCount : Nat) :
    s.save session role content tokenCount =
      (.ok ⟨s.ids.timed.1, session, role, content, tokenCount⟩,
        (s.save session role content tokenCount).2) := by
  simp [save, h]

theorem save_messages {s : Store} (h : s.faults.failSaves = []) (session : Uuid) (role : Role)
    (content : String) (tokenCount : Nat) (other : Uuid) :
    (s.save session role content tokenCount).2.messages other = s.messages other ++
      if other = session then [⟨s.ids.timed.1, session, role, content, tokenCount⟩]
      else [] := by
  simp only [save, h, List.contains_nil, Bool.false_eq_true, ↓reduceIte, messages,
    lookup_putSession]
  by_cases ho : other = session
  · subst ho
    simp
  · simp [ho]

theorem save_faults (s : Store) (session : Uuid) (role : Role) (content : String)
    (tokenCount : Nat) : (s.save session role content tokenCount).2.faults = s.faults := by
  unfold save
  dsimp only
  split <;> rfl

theorem save_reads (s : Store) (session : Uuid) (role : Role) (content : String)
    (tokenCount : Nat) : (s.save session role content tokenCount).2.reads = s.reads := by
  unfold save
  dsimp only
  split <;> rfl

theorem save_messages_of_ne (s : Store) {session other : Uuid} (h : other ≠ session)
    (role : Role) (content : String) (tokenCount : Nat) :
    (s.save session role content tokenCount).2.messages other = s.messages other := by
  unfold save
  dsimp only
  split
  · rfl
  · simp [messages, lookup_putSession, h]

/-- What a history read returns depends only on the session's log and on whether this read
    is one the store refuses. -/
theorem recent_fst (s : Store) (session : Uuid) (limit : Nat) :
    (s.recent session limit).1 = if s.faults.failReads.contains s.reads
      then .error (.database "injected read failure")
      else .ok (window limit (s.messages session)) := by
  unfold recent
  dsimp only
  split <;> rfl

/-- A store that never refuses a read hands back the end of the session's log, and only
    counts the read. -/
theorem recent_eq {s : Store} (h : s.faults.failReads = []) (session : Uuid) (limit : Nat) :
    s.recent session limit =
      (.ok (window limit (s.messages session)), { s with reads := s.reads + 1 }) := by
  simp [recent, h, window, messages]

end Store

end ChatWire.History

namespace ChatWire.Tool.Registry

theorem insertByName_perm (d : ToolDefinition) (l : List ToolDefinition) :
    (insertByName d l).Perm (d :: l) := by
  induction l with
  | nil => simp [insertByName]
  | cons e rest ih =>
    unfold insertByName
    split
    · exact List.Perm.refl _
    · exact (ih.cons e).trans (List.Perm.swap d e rest)

/-- Inserting a definition keeps a list sorted by name: it goes before the first name above
    its own, after every name equal to it. -/
theorem insertByName_sorted (d : ToolDefinition) {l : List ToolDefinition}
    (h : l.Pairwise fun a b => a.name ≤ b.name) :
    (insertByName d l).Pairwise fun a b => a.name ≤ b.name := by
  induction l with
  | nil => simp [insertByName]
  | cons e rest ih =>
    obtain ⟨he, hrest⟩ := List.pairwise_cons.1 h
    unfold insertByName
    split
    · rename_i hlt
      refine List.pairwise_cons.2 ⟨fun x hx => ?_, h⟩
      rcases List.mem_cons.1 hx with rfl | hx
      · exact le_of_lt hlt
      · exact le_trans (le_of_lt hlt) (he x hx)
    · rename_i hnlt
      have hle : e.name ≤ d.name := not_lt.1 hnlt
      refine List.pairwise_cons.2 ⟨fun x hx => ?_, ih hrest⟩
      rcases List.mem_cons.1 ((insertByName_perm d rest).subset hx) with rfl | hx
      · exact hle
      · exact he x hx

theorem foldr_insertByName (tools : List (String × Tool)) :
    (tools.foldr (fun (_, t) acc => insertByName t.definition acc) []).Perm
        (tools.map (·.2.definition)) ∧
      (tools.foldr (fun (_, t) acc => insertByName t.definition acc) []).Pairwise
        fun a b => a.name ≤ b.name := by
  induction tools with
  | nil => simp
  | cons entry rest ih =>
    simp only [List.foldr_cons, List.map_cons]
    exact ⟨(insertByName_perm _ _).trans (ih.1.cons _), insertByName_sorted _ ih.2⟩

theorem definitions_sorted (r : Registry) :
    r.definitions.Perm (r.tools.map (·.2.definition)) ∧
      r.definitions.Pairwise fun a b => a.name ≤ b.name :=
  foldr_insertByName r.tools

end ChatWire.Tool.Registry

namespace ChatWire.Turn

open ChatWire.History ChatWire.Provider ChatWire.Wire ChatWire.Tool

/-- The request a service asks the model with when the session's log, the latest user message
    included, is `log`: the end of the log up to the history limit, the system prompt and the
    tool definitions. -/
def Service.requestFor (s : Service) (log : List StoredMessage) : TurnRequest :=
  { messages := (window s.streamConfig.historyLimit log).map StoredMessage.toMessage,
    systemPrompt := s.systemPrompt, tools := s.tools.definitions }

/-- What a turn for `input`, run on `s` and leaving `s'`, did with the history: it saved
    `user`, the message of `input`, then `reply`, if any, to the session of `input` and to no
    other; it asked the model with the session's log right after `user`; and the settings of
    the service stayed as they were. -/
structure TurnSaves (s s' : Service) (input : TurnInput) (user : StoredMessage)
    (reply : Option StoredMessage) : Prop where
  userSession : user.session = input.session
  userRole : user.role = .user
  userContent : user.content = input.content
  userTokens : user.tokenCount = estimateTokens input.content
  replyMessage : ∀ a ∈ reply, a.session = input.session ∧ a.role = .assistant
  log : ∀ session, s'.store.messages session =
    s.store.messages session ++ if session = input.session then user :: reply.toList else []
  asked : s'.backend =
    (s.backend.streamTurn (s.requestFor (s.store.messages input.session ++ [user]))).2
  faults : s'.store.faults = s.store.faults
  tools : s'.tools = s.tools
  systemPrompt : s'.systemPrompt = s.systemPrompt
  streamConfig : s'.streamConfig = s.streamConfig

/-- One turn on a service whose store never refuses a call saves the user message, asks the
    model with the session's log right after it, and, unless it waits forever, saves its reply
    exactly when the model started the turn and the connection could stream. -/
theorem reply_saves {s : Service} (hsaves : s.store.faults.failSaves = [])
    (hreads : s.store.faults.failReads = []) (sink : Sink) (input : TurnInput)
    (cancel : Cancellation) :
    ∃ user reply, TurnSaves s (s.reply sink input cancel).2 input user reply ∧
      ((s.reply sink input cancel).1.1 ≠ .hung →
        (reply.isSome ↔
          (s.backend.streamTurn (s.requestFor (s.store.messages input.session ++ [user]))).1.isOk ∧
            sink.faults.streaming)) := by
  have hsave := s.store.save_eq hsaves input.session .user input.content
    (estimateTokens input.content)
  set user : StoredMessage :=
    ⟨s.store.ids.timed.1, input.session, .user, input.content, estimateTokens input.content⟩
  set st₁ := (s.store.save input.session .user input.content (estimateTokens input.content)).2
    with hst₁
  have hfaults₁ : st₁.faults = s.store.faults := Store.save_faults _ _ _ _ _
  have hlog₁ : ∀ session, st₁.messages session =
      s.store.messages session ++ if session = input.session then [user] else [] :=
    Store.save_messages hsaves _ _ _ _
  have hlog : st₁.messages input.session = s.store.messages input.session ++ [user] := by
    simp [hlog₁]
  have hasked : (⟨(window s.streamConfig.historyLimit (st₁.messages input.session)).map
      StoredMessage.toMessage, s.systemPrompt, s.tools.definitions⟩ : TurnRequest) =
      s.requestFor (s.store.messages input.session ++ [user]) := by
    rw [hlog]
    rfl
  have hread := Store.recent_eq (hfaults₁ ▸ hreads) input.session s.streamConfig.historyLimit
  have hnone : ∀ s' : Service, s'.store = { st₁ with reads := st₁.reads + 1 } →
      s'.backend = (s.backend.streamTurn
        (s.requestFor (s.store.messages input.session ++ [user]))).2 →
      s'.tools = s.tools → s'.systemPrompt = s.systemPrompt → s'.streamConfig = s.streamConfig →
      TurnSaves s s' input user none := by
    intro s' hstore hbackend htools hprompt hconfig
    refine ⟨rfl, rfl, rfl, rfl, by simp, fun session => ?_, hbackend, by rw [hstore]; exact hfaults₁,
      htools, hprompt, hconfig⟩
    rw [hstore]
    exact hlog₁ session
  rcases hturn : s.backend.streamTurn (s.requestFor (s.store.messages input.session ++ [user])) with
    ⟨_ | stream, backend⟩
  · rw [reply_eq_of_turn_error hsave hread (by rw [hasked]; exact hturn)]
    exact ⟨user, none, hnone _ rfl (by rw [hturn]) rfl rfl rfl,
      fun _ => by simp [hturn, Except.isOk, Except.toBool]⟩
  have hstarted : s.backend.streamTurn ⟨(window s.streamConfig.historyLimit
      (st₁.messages input.session)).map StoredMessage.toMessage, s.systemPrompt,
      s.tools.definitions⟩ = (.ok stream, backend) := by
    rw [hasked]
    exact hturn
  cases hstreaming : sink.faults.streaming with
  | false =>
    rw [reply_eq_of_streaming_unsupported hsave hread hstarted hstreaming]
    exact ⟨user, none, hnone _ rfl (by rw [hturn]) rfl rfl rfl, fun _ => by simp⟩
  | true =>
    have hsaved : ∀ r : Reply, TurnSaves s { s with
        store := ({ st₁ with reads := st₁.reads + 1 }.save input.session .assistant r.text
          r.tokenCount).2, backend, ids := s.ids.random.2 } input user
        (some ⟨st₁.ids.timed.1, input.session, .assistant, r.text, r.tokenCount⟩) := by
      intro r
      refine ⟨rfl, rfl, rfl, rfl, by simp, fun session => ?_, by simp [hturn],
        by simp [Store.save_faults, hfaults₁], rfl, rfl, rfl⟩
      rw [Store.save_messages (hfaults₁ ▸ hsaves)]
      change st₁.messages session ++ _ = _
      rw [hlog₁]
      by_cases hs : session = input.session <;> simp [hs]
    have hsome : ∀ r : Reply, ((some (⟨st₁.ids.timed.1, input.session, .assistant, r.text,
        r.tokenCount⟩ : StoredMessage)).isSome ↔
          (s.backend.streamTurn (s.requestFor (s.store.messages input.session ++ [user]))).1.isOk ∧
            true) := by
      intro r
      simp [hturn, Except.isOk, Except.toBool]
    rcases hrun : s.replyRun sink cancel stream with ⟨(e | _) | _, r⟩
    · rw [reply_of_stream_failed hsave hread hstarted hstreaming hrun]
      exact ⟨user, _, hsaved r, fun _ => hsome r⟩
    · rw [reply_of_stream_hung hsave hread hstarted hstreaming hrun]
      exact ⟨user, none, hnone _ rfl (by rw [hturn]) rfl rfl rfl, fun h => absurd rfl h⟩
    · obtain ⟨hservice, -, -⟩ := reply_of_stream_ok hsave hread hstarted hstreaming hrun
      rw [hservice]
      exact ⟨user, _, hsaved r, fun _ => hsome r⟩

/-- The messages turns saved to a session, in the order they saved them: each turn's user
    message, then its reply if it saved one. -/
def sessionLog (session : Uuid) (saved : List (StoredMessage × Option StoredMessage)) :
    List StoredMessage :=
  saved.flatMap fun (user, reply) => if session = user.session then user :: reply.toList else []

/-- The requests turns ask the model with, the sessions' logs being `log` before the first of
    them: each turn is asked with its session's log right after its user message, and the
    log then grows by what the turn saved. -/
def Service.requestsFrom (s : Service) (log : Uuid → List StoredMessage) :
    List (StoredMessage × Option StoredMessage) → List TurnRequest
  | [] => []
  | (user, reply) :: rest =>
    s.requestFor (log user.session ++ [user]) ::
      s.requestsFrom (fun session => log session ++ sessionLog session [(user, reply)]) rest

theorem Service.requestsFrom_congr {s s' : Service} (h : s'.requestFor = s.requestFor)
    (log : Uuid → List StoredMessage) (saved : List (StoredMessage × Option StoredMessage)) :
    s'.requestsFrom log saved = s.requestsFrom log saved := by
  induction saved generalizing log with
  | nil => rfl
  | cons t rest ih =>
    obtain ⟨user, reply⟩ := t
    simp only [Service.requestsFrom, h, ih]

end ChatWire.Turn

namespace ChatWire.Provider.Mock

/-- Whether the scripted model starts the turn it is asked for after `k` earlier turns. -/
def starts (m : Mock) (k : Nat) : Bool :=
  match m.turns[k]? with
  | some (.startFailure _) => false
  | _ => true

theorem streamTurn_snd (m : Mock) (req : TurnRequest) :
    (m.streamTurn req).2 = { turns := m.turns.tail, requests := m.requests ++ [req] } := by
  unfold streamTurn
  dsimp only
  split <;> simp_all

theorem streamTurn_isOk (m : Mock) (req : TurnRequest) :
    (m.streamTurn req).1.isOk = m.starts 0 := by
  unfold streamTurn starts
  dsimp only
  split <;> simp_all [Except.isOk, Except.toBool]

theorem starts_succ (m : Mock) (req : TurnRequest) (k : Nat) :
    (m.streamTurn req).2.starts k = m.starts (k + 1) := by
  simp [streamTurn_snd, starts]

end ChatWire.Provider.Mock

namespace ChatWire.Turn

open ChatWire.History ChatWire.Provider

theorem sessionLog_cons (session : Uuid) (t : StoredMessage × Option StoredMessage)
    (rest : List (StoredMessage × Option StoredMessage)) :
    sessionLog session (t :: rest) = sessionLog session [t] ++ sessionLog session rest := by
  simp [sessionLog]

/-- What a run of `calls` on `s`, whose model is the scripted `m`, did with the history;
    `saved` holds, for each turn that ran, its user message and its reply if it saved one.
    Each turn saved its user message, and, unless it waits forever, its reply exactly when the
    model started it and its connection could stream; each session's log grew by what the
    turns saved to it; and the model recorded, for each turn, the request made of the
    session's log right after the turn's user message. -/
structure RunSaves (s : Service) (m : Mock) (calls : List TurnCall)
    (saved : List (StoredMessage × Option StoredMessage)) : Prop where
  length : saved.length = (s.replies calls).1.length
  turn : ∀ k c user reply turn, calls[k]? = some c → saved[k]? = some (user, reply) →
    (s.replies calls).1[k]? = some turn →
    user.session = c.input.session ∧ user.role = .user ∧ user.content = c.input.content ∧
    user.tokenCount = estimateTokens c.input.content ∧
    (∀ a ∈ reply, a.session = c.input.session ∧ a.role = .assistant) ∧
    (turn.1 ≠ .hung → (reply.isSome ↔ m.starts k ∧ c.sink.faults.streaming))
  log : ∀ session, (s.replies calls).2.store.messages session =
    s.store.messages session ++ sessionLog session saved
  requests : (s.replies calls).2.requests = m.requests ++ s.requestsFrom s.store.messages saved

/-- Turns run one after another on a scripted model and a store that never refuses a call
    do with the history what `RunSaves` says. -/
theorem replies_history {s : Service} {m : Mock} (hb : s.backend = .scripted m)
    (hsaves : s.store.faults.failSaves = []) (hreads : s.store.faults.failReads = [])
    (calls : List TurnCall) : ∃ saved, RunSaves s m calls saved := by
  induction calls generalizing s m with
  | nil => exact ⟨[], ⟨rfl, by simp, by simp [Service.replies, sessionLog], by
      simp [Service.replies, Service.requests, hb, Backend.requests, Service.requestsFrom]⟩⟩
  | cons c rest ih =>
    obtain ⟨user, reply, hturn, hhung⟩ := reply_saves hsaves hreads c.sink c.input c.cancel
    set s₁ := (s.reply c.sink c.input c.cancel).2 with hs₁
    set request := s.requestFor (s.store.messages c.input.session ++ [user])
    have hb₁ : s₁.backend = .scripted (m.streamTurn request).2 := by
      rw [hturn.asked, hb]
      rfl
    have hstarted : (s.backend.streamTurn request).1.isOk = m.starts 0 := by
      rw [hb]
      exact Mock.streamTurn_isOk m request
    have hsaves₁ : s₁.store.faults.failSaves = [] := by rw [hturn.faults]; exact hsaves
    have hreads₁ : s₁.store.faults.failReads = [] := by rw [hturn.faults]; exact hreads
    have hask : s₁.requestFor = s.requestFor := by
      funext log
      simp [Service.requestFor, hturn.tools, hturn.systemPrompt, hturn.streamConfig]
    have hlog₁ : ∀ session, s₁.store.messages session =
        s.store.messages session ++ sessionLog session [(user, reply)] := by
      intro session
      simp [hturn.log, sessionLog, hturn.userSession]
    have hhead : ∀ {c' u r turn}, c = c' → (user, reply) = (u, r) →
        (s.reply c.sink c.input c.cancel).1 = turn →
        u.session = c'.input.session ∧ u.role = .user ∧ u.content = c'.input.content ∧
        u.tokenCount = estimateTokens c'.input.content ∧
        (∀ a ∈ r, a.session = c'.input.session ∧ a.role = .assistant) ∧
        (turn.1 ≠ .hung → (r.isSome ↔ m.starts 0 ∧ c'.sink.faults.streaming)) := by
      rintro c' u r turn rfl ⟨⟩ rfl
      exact ⟨hturn.userSession, hturn.userRole, hturn.userContent, hturn.userTokens,
        hturn.replyMessage, fun h => hstarted ▸ hhung h⟩
    have hrequests₁ : s₁.requests = m.requests ++ [request] := by
      simp [Service.requests, hb₁, Backend.requests, Mock.streamTurn_snd]
    cases hend : (s.reply c.sink c.input c.cancel).1.1 with
    | hung =>
      have hrun : s.replies (c :: rest) = ([(s.reply c.sink c.input c.cancel).1], s₁) := by
        simp [Service.replies, hend, hs₁]
      refine ⟨[(user, reply)], by simp [hrun], fun k c' u r turn hc hsv hk => ?_,
        fun session => by simp [hrun, hlog₁], ?_⟩
      · rw [hrun] at hk
        match k, hc, hsv, hk with
        | 0, hc, hsv, hk =>
          simp only [List.getElem?_cons_zero, Option.some.injEq] at hc hsv hk
          exact hhead hc hsv hk
      · simp [hrun, hrequests₁, Service.requestsFrom, request, hturn.userSession]
    | finished result =>
      have hrun : s.replies (c :: rest) = ((s.reply c.sink c.input c.cancel).1 ::
          (s₁.replies rest).1, (s₁.replies rest).2) := by
        simp [Service.replies, hend, hs₁]
      obtain ⟨saved, hlen, hper, hlog, hreq⟩ := ih hb₁ hsaves₁ hreads₁
      refine ⟨(user, reply) :: saved, by simp [hrun, hlen], fun k c' u r turn hc hsv hk => ?_,
        fun session => ?_, ?_⟩
      · rw [hrun] at hk
        match k, hc, hsv, hk with
        | 0, hc, hsv, hk =>
          simp only [List.getElem?_cons_zero, Option.some.injEq] at hc hsv hk
          exact hhead hc hsv hk
        | k + 1, hc, hsv, hk =>
          simp only [List.getElem?_cons_succ] at hc hsv hk
          have hnext := hper k c' u r turn hc hsv hk
          rw [Mock.starts_succ] at hnext
          exact hnext
      · rw [hrun, hlog, hlog₁, List.append_assoc, sessionLog_cons session (user, reply) saved]
      · rw [hrun, hreq, Mock.streamTurn_snd, Service.requestsFrom_congr hask]
        have hlogs : s₁.store.messages =
            fun session => s.store.messages session ++ sessionLog session [(user, reply)] :=
          funext hlog₁
        simp [Service.requestsFrom, request, hturn.userSession, hlogs]

end ChatWire.Turn

namespace ChatWire.Provider.Compat

open ChatWire.Json ChatWire.History

/-- The request body of a chat completions provider lists the system prompt first, as a
    `system` message, exactly when it is given and not empty, then the turn's messages in
    order, each with its role's lowercase name; it holds the tools, each as a `function` with
    its name, its description when not empty, and its parameters, exactly when there are any. -/
theorem requestBody_members (p : Compat) (req : TurnRequest) :
    (p.requestBody req).get? "messages" = some (.array
      ((req.systemPrompt.filter (!·.isEmpty)).toList.map
          (fun prompt => .object [("role", .string "system"), ("content", .string prompt)]) ++
        req.messages.map fun m =>
          .object [("role", .string m.role.name), ("content", .string m.content)])) ∧
    (p.requestBody req).get? "tools" = if req.tools.isEmpty then none else some (.array
      (req.tools.map fun d => .object [("type", .string "function"), ("function", .object
        ([("name", .string d.name)] ++
          (if d.description.isEmpty then [] else [("description", .string d.description)]) ++
          [("parameters", d.parameters)]))])) := by
  have hkeys : ("messages" == "model") = false ∧ ("tools" == "model") = false ∧
      ("tools" == "messages") = false ∧ ("tools" == "max_tokens") = false ∧
      ("tools" == "stream") = false ∧ ("tools" == "stream_options") = false := by decide
  constructor
  · cases hp : req.systemPrompt with
    | none => simp [requestBody, messagesValue, Value.get?, hp, List.lookup_cons, hkeys]
    | some prompt =>
      have hsystem : Role.system.name = "system" := rfl
      cases he : prompt.isEmpty <;>
        simp [requestBody, messagesValue, Value.get?, hp, he, List.lookup_cons, hkeys, hsystem,
          Option.filter, Function.comp_def]
  · cases ht : req.tools.isEmpty <;>
      simp [requestBody, Value.get?, ht, toolValue, List.lookup_cons, hkeys]

end ChatWire.Provider.Compat

namespace ChatWire.Turn

open ChatWire.History ChatWire.Provider ChatWire.Tool ChatWire.Json

/-- Turns run one after another on one service, with a store that never refuses a call and a
    scripted model, carry the right history: each turn saves its user message and, when it
    returns, its reply exactly when the model started it and the connection could stream; the
    model is asked, for each turn, with the last `historyLimit` messages of the session's log
    right after the turn's user message, the system prompt and the registry's definitions,
    which are its tools sorted by name. A chat completions provider sends such a request with
    the system prompt first when it is given and not empty, then the messages under their
    roles' names, and the tools as functions when there are any. -/
theorem turn_requests_carry_history {s : Service} {m : Mock} (hb : s.backend = .scripted m)
    (hsaves : s.store.faults.failSaves = []) (hreads : s.store.faults.failReads = [])
    (calls : List TurnCall) :
    (∃ saved, RunSaves s m calls saved) ∧
    (s.tools.definitions.Perm (s.tools.tools.map (·.2.definition)) ∧
      s.tools.definitions.Pairwise fun a b => a.name ≤ b.name) ∧
    ∀ (p : Compat) (req : TurnRequest),
      (p.requestBody req).get? "messages" = some (.array
        ((req.systemPrompt.filter (!·.isEmpty)).toList.map
            (fun prompt => .object [("role", .string "system"), ("content", .string prompt)]) ++
          req.messages.map fun m =>
            .object [("role", .string m.role.name), ("content", .string m.content)])) ∧
      (p.requestBody req).get? "tools" = if req.tools.isEmpty then none else some (.array
        (req.tools.map fun d => .object [("type", .string "function"), ("function", .object
          ([("name", .string d.name)] ++
            (if d.description.isEmpty then [] else [("description", .string d.description)]) ++
            [("parameters", d.parameters)]))])) :=
  ⟨replies_history hb hsaves hreads calls, Registry.definitions_sorted s.tools,
    Compat.requestBody_members⟩

/-- Two turns of one session on the built-in tools, with a system prompt, a history limit of
    two, and a scripted model that fails to start the first turn. -/
theorem turn_requests_carry_history_two_turns :
    (∃ saved, RunSaves
      { backend := .scripted { turns := [.startFailure (.provider "down")] },
        tools := Registry.builtin, systemPrompt := some "Be brief.",
        streamConfig := { historyLimit := 2 } }
      { turns := [.startFailure (.provider "down")] }
      [⟨Wire.Sink.healthy, ⟨⟨1⟩, ⟨2⟩, "Hi"⟩, {}⟩,
        ⟨Wire.Sink.healthy, ⟨⟨1⟩, ⟨2⟩, "Again"⟩, {}⟩] saved) ∧
    (Registry.builtin.definitions.Perm (Registry.builtin.tools.map (·.2.definition)) ∧
      Registry.builtin.definitions.Pairwise fun a b => a.name ≤ b.name) ∧
    ∀ (p : Compat) (req : TurnRequest),
      (p.requestBody req).get? "messages" = some (.array
        ((req.systemPrompt.filter (!·.isEmpty)).toList.map
            (fun prompt => .object [("role", .string "system"), ("content", .string prompt)]) ++
          req.messages.map fun m =>
            .object [("role", .string m.role.name), ("content", .string m.content)])) ∧
      (p.requestBody req).get? "tools" = if req.tools.isEmpty then none else some (.array
        (req.tools.map fun d => .object [("type", .string "function"), ("function", .object
          ([("name", .string d.name)] ++
            (if d.description.isEmpty then [] else [("description", .string d.description)]) ++
            [("parameters", d.parameters)]))])) :=
  turn_requests_carry_history
    (s := { backend := .scripted { turns := [.startFailure (.provider "down")] },
            tools := Registry.builtin, systemPrompt := some "Be brief.",
            streamConfig := { historyLimit := 2 } }) rfl rfl rfl _

end ChatWire.Turn
