import ChatWire.Proofs.History

namespace ChatWire.History

/-- One call that saves a message: the session, role, content and token count it is given. -/
structure SaveCall where
  session : Uuid
  role : Role
  content : String
  tokenCount : Nat

namespace SaveCall

/-- The message `m` is the one the call `c` asked to save: same session, role, content and
    token count. -/
def Stores (c : SaveCall) (m : StoredMessage) : Prop :=
  m.session = c.session ∧ m.role = c.role ∧ m.content = c.content ∧ m.tokenCount = c.tokenCount

end SaveCall

namespace Store

/-- Saves one message after another, collecting what each save returned. -/
def saveAll (s : Store) : List SaveCall → List (Except StorageError StoredMessage) × Store
  | [] => ([], s)
  | c :: rest =>
    let (r, s₁) := s.save c.session c.role c.content c.tokenCount
    let (rs, s₂) := s₁.saveAll rest
    (r :: rs, s₂)

theorem saveAll_cons (s : Store) (c : SaveCall) (rest : List SaveCall) :
    s.saveAll (c :: rest) =
      ((s.save c.session c.role c.content c.tokenCount).1 ::
        ((s.save c.session c.role c.content c.tokenCount).2.saveAll rest).1,
        ((s.save c.session c.role c.content c.tokenCount).2.saveAll rest).2) := rfl

theorem saveAll_faults (s : Store) (calls : List SaveCall) :
    (s.saveAll calls).2.faults = s.faults := by
  induction calls generalizing s with
  | nil => rfl
  | cons c rest ih => rw [saveAll_cons, ih, save_faults]

/-- Saves on a store that refuses none each return the message they were given, and each
    session's log grows by the messages saved to it, in order. -/
theorem saveAll_stores {s : Store} (h : s.faults.failSaves = []) (calls : List SaveCall) :
    ∃ msgs : List StoredMessage, (s.saveAll calls).1 = msgs.map .ok ∧
      List.Forall₂ SaveCall.Stores calls msgs ∧
      ∀ session, (s.saveAll calls).2.messages session =
        s.messages session ++ msgs.filter (·.session = session) := by
  induction calls generalizing s with
  | nil => exact ⟨[], rfl, .nil, fun _ => by simp [saveAll]⟩
  | cons c rest ih =>
    set m : StoredMessage := ⟨s.ids.timed.1, c.session, c.role, c.content, c.tokenCount⟩
    have h₁ : (s.save c.session c.role c.content c.tokenCount).2.faults.failSaves = [] := by
      rw [save_faults, h]
    obtain ⟨msgs, hres, hcalls, hlog⟩ := ih h₁
    refine ⟨m :: msgs, ?_, .cons ⟨rfl, rfl, rfl, rfl⟩ hcalls, fun session => ?_⟩
    · rw [saveAll_cons, hres, save_eq h]
      rfl
    · rw [saveAll_cons, hlog, save_messages h]
      by_cases hs : session = c.session
      · subst hs
        simp [m]
      · have hm : ¬ m.session = session := fun h' => hs h'.symm
        simp [hs, hm]

end Store

/-- Saves on a fresh store keep one append-only log per session. Every save returns the
    message it was given; the log of a session is the messages saved to it, in save order;
    a read of `limit` messages returns the end of that log, `min limit n` messages long,
    oldest first; and on every store a save to one session changes neither the log of
    another nor what a read of it returns. -/
theorem store_keeps_session_logs (ids : IdSource) (calls : List SaveCall) :
    (∃ msgs : List StoredMessage, (Store.saveAll { ids } calls).1 = msgs.map .ok ∧
      List.Forall₂ SaveCall.Stores calls msgs ∧
      ∀ session limit,
        (Store.saveAll { ids } calls).2.messages session = msgs.filter (·.session = session) ∧
        ∃ recent older, ((Store.saveAll { ids } calls).2.recent session limit).1 = .ok recent ∧
          older ++ recent = msgs.filter (·.session = session) ∧
          recent.length = min limit (msgs.filter (·.session = session)).length) ∧
    ∀ (s : Store) (session other : Uuid) (role : Role) (content : String) (tokenCount limit : Nat),
      other ≠ session →
        (s.save session role content tokenCount).2.messages other = s.messages other ∧
        ((s.save session role content tokenCount).2.recent other limit).1 =
          (s.recent other limit).1 := by
  refine ⟨?_, fun s session other role content tokenCount limit hne => ?_⟩
  · obtain ⟨msgs, hres, hcalls, hlog⟩ := Store.saveAll_stores (s := { ids }) rfl calls
    refine ⟨msgs, hres, hcalls, fun session limit => ?_⟩
    have hfresh : ({ ids } : Store).messages session = [] := rfl
    have hreads : (Store.saveAll { ids } calls).2.faults.failReads = [] := by
      rw [Store.saveAll_faults]
    rw [hlog, hfresh, List.nil_append]
    refine ⟨rfl, window limit (msgs.filter (·.session = session)), ?_⟩
    obtain ⟨older, holder⟩ := window_suffix limit (msgs.filter (·.session = session))
    refine ⟨older, ?_, holder, length_window _ _⟩
    rw [Store.recent_fst, hreads, hlog, hfresh, List.nil_append]
    rfl
  · refine ⟨Store.save_messages_of_ne s hne role content tokenCount, ?_⟩
    rw [Store.recent_fst, Store.recent_fst, Store.save_messages_of_ne s hne, Store.save_faults,
      Store.save_reads]

/-- A save to one session of a store that holds a message of another. -/
theorem save_keeps_other_session_log :
    let s := (Store.saveAll {} [⟨⟨2⟩, .user, "earlier", 0⟩]).2
    (s.save ⟨1⟩ .user "hi" 1).2.messages ⟨2⟩ = s.messages ⟨2⟩ ∧
      ((s.save ⟨1⟩ .user "hi" 1).2.recent ⟨2⟩ 5).1 = (s.recent ⟨2⟩ 5).1 :=
  (store_keeps_session_logs {} []).2 _ ⟨1⟩ ⟨2⟩ .user "hi" 1 5 (by decide)

/-- Four saves to one session, then a read of two: the newest two, oldest first. -/
example : ((Store.saveAll {} (["one", "two", "three", "four"].map (⟨⟨1⟩, .user, ·, 0⟩))).2.recent
    ⟨1⟩ 2).1.map (·.map (·.content)) = .ok ["three", "four"] := by decide

end ChatWire.History
