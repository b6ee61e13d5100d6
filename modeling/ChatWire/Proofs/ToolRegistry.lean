import ChatWire.Proofs.History
import ChatWire.Proofs.Text
import Mathlib.Data.List.Induction
import Mathlib.Data.List.Dedup

namespace ChatWire.Tool.Registry

/-- The registry `r` after registering the tools `ts` in order. -/
def registerAll (r : Registry) (ts : List Tool) : Registry :=
  ts.foldl register r

/-- The last of the tools `ts` registered under a name. -/
def lastRegistered (ts : List Tool) (name : String) : Option Tool :=
  (ts.filter (·.definition.name = name)).getLast?

theorem registerAll_append_singleton (r : Registry) (ts : List Tool) (t : Tool) :
    r.registerAll (ts ++ [t]) = (r.registerAll ts).register t := by
  simp [registerAll, List.foldl_append]

theorem lastRegistered_append_singleton (ts : List Tool) (t : Tool) (name : String) :
    lastRegistered (ts ++ [t]) name =
      if t.definition.name = name then some t else lastRegistered ts name := by
  unfold lastRegistered
  by_cases h : t.definition.name = name <;> simp [h, List.filter_append, List.getLast?_append]

theorem lastRegistered_isSome_iff (ts : List Tool) (name : String) :
    (lastRegistered ts name).isSome ↔ name ∈ ts.map (·.definition.name) := by
  simp [lastRegistered]

/-- After registering `t`, the entries are `t` under its name and the earlier entries under
    every other name. -/
theorem mem_register (r : Registry) (t : Tool) (e : String × Tool) :
    e ∈ (r.register t).tools ↔
      e = (t.definition.name, t) ∨ (e ∈ r.tools ∧ e.1 ≠ t.definition.name) := by
  unfold register
  dsimp only
  split
  · rename_i hany
    obtain ⟨x, hx, hxname⟩ := List.any_eq_true.1 hany
    simp only [List.mem_map]
    constructor
    · rintro ⟨⟨k, v⟩, hkv, rfl⟩
      by_cases hk : k = t.definition.name
      · simp [hk]
      · simp [hk, hkv]
    · rintro (rfl | ⟨he, hne⟩)
      · refine ⟨x, hx, ?_⟩
        obtain ⟨k, v⟩ := x
        simp only [beq_iff_eq] at hxname
        simp [hxname]
      · refine ⟨e, he, ?_⟩
        obtain ⟨k, v⟩ := e
        simp [hne]
  · rename_i hany
    simp only [List.mem_append, List.mem_singleton]
    constructor
    · rintro (he | rfl)
      · exact .inr ⟨he, fun hk => hany (List.any_eq_true.2 ⟨e, he, by simp [hk]⟩)⟩
      · exact .inl rfl
    · rintro (rfl | ⟨he, -⟩)
      · exact .inr rfl
      · exact .inl he

theorem keys_register (r : Registry) (t : Tool) :
    (r.register t).tools.map (·.1) = if r.tools.any (·.1 == t.definition.name)
      then r.tools.map (·.1) else r.tools.map (·.1) ++ [t.definition.name] := by
  unfold register
  dsimp only
  split
  · rw [List.map_map]
    apply List.map_congr_left
    rintro ⟨k, v⟩ -
    simp only [Function.comp_apply]
    split <;> rfl
  · simp

/-- Each entry of a registry is filed under its tool's own name, and no name is filed
    twice. -/
structure Keyed (r : Registry) : Prop where
  key : ∀ e ∈ r.tools, e.2.definition.name = e.1
  nodup : (r.tools.map (·.1)).Nodup

theorem Keyed.empty : Keyed {} := ⟨by simp, .nil⟩

theorem Keyed.register {r : Registry} (h : Keyed r) (t : Tool) : Keyed (r.register t) := by
  refine ⟨fun e he => ?_, ?_⟩
  · rcases (mem_register r t e).1 he with rfl | ⟨he, -⟩
    · rfl
    · exact h.key e he
  · rw [keys_register]
    split
    · exact h.nodup
    · rename_i hany
      refine List.nodup_append.2 ⟨h.nodup, by simp, ?_⟩
      intro a ha b hb hab
      rw [List.mem_singleton] at hb
      subst hab hb
      obtain ⟨e, he, hname⟩ := List.mem_map.1 ha
      exact hany (List.any_eq_true.2 ⟨e, he, by simp [hname]⟩)

theorem lookup_eq_some_iff_mem {l : List (String × Tool)} (h : (l.map (·.1)).Nodup)
    (name : String) (t : Tool) : l.lookup name = some t ↔ (name, t) ∈ l := by
  induction l with
  | nil => simp
  | cons e rest ih =>
    obtain ⟨k, v⟩ := e
    rw [List.map_cons, List.nodup_cons] at h
    by_cases hk : name = k
    · subst hk
      have hnot : ∀ u, (name, u) ∉ rest := fun u hu => h.1 (List.mem_map.2 ⟨_, hu, rfl⟩)
      simp [hnot, eq_comm]
    · have hkb : (name == k) = false := by simpa using hk
      simp [List.lookup_cons, hkb, ih h.2, hk]

theorem keyed_registerAll {r : Registry} (h : Keyed r) (ts : List Tool) :
    Keyed (r.registerAll ts) := by
  induction ts using List.reverseRecOn with
  | nil => exact h
  | append_singleton ts t ih =>
    rw [registerAll_append_singleton]
    exact ih.register t

/-- A registry built from nothing files, under each name, the last tool registered under
    it. -/
theorem mem_registerAll (ts : List Tool) (name : String) (t : Tool) :
    (name, t) ∈ (({} : Registry).registerAll ts).tools ↔ lastRegistered ts name = some t := by
  induction ts using List.reverseRecOn generalizing t with
  | nil => simp [registerAll, lastRegistered]
  | append_singleton ts u ih =>
    rw [registerAll_append_singleton, mem_register, ih, lastRegistered_append_singleton]
    by_cases hu : u.definition.name = name
    · subst hu
      simp [eq_comm]
    · have hne : name ≠ u.definition.name := fun h => hu h.symm
      simp [hu, hne]

theorem lookup_registerAll (ts : List Tool) (name : String) :
    (({} : Registry).registerAll ts).tools.lookup name = lastRegistered ts name := by
  apply Option.ext
  intro t
  rw [lookup_eq_some_iff_mem (keyed_registerAll Keyed.empty ts).nodup, mem_registerAll]

theorem size_registerAll (ts : List Tool) :
    (({} : Registry).registerAll ts).size = (ts.map (·.definition.name)).dedup.length := by
  have hkeyed := keyed_registerAll Keyed.empty ts
  have hperm : ((({} : Registry).registerAll ts).tools.map (·.1)).Perm
      (ts.map (·.definition.name)).dedup := by
    refine (List.perm_ext_iff_of_nodup hkeyed.nodup (List.nodup_dedup _)).2 fun name => ?_
    rw [List.mem_dedup, ← lastRegistered_isSome_iff, Option.isSome_iff_exists]
    simp only [List.mem_map, ← mem_registerAll]
    constructor
    · rintro ⟨⟨k, t⟩, he, rfl⟩
      exact ⟨t, he⟩
    · rintro ⟨t, he⟩
      exact ⟨_, he, rfl⟩
  rw [size, ← hperm.length_eq, List.length_map]

theorem Keyed.definition_names {r : Registry} (h : Keyed r) :
    (r.tools.map (·.2.definition)).map (·.name) = r.tools.map (·.1) := by
  rw [List.map_map]
  exact List.map_congr_left fun e he => h.key e he

/-- A keyed registry lists its definitions strictly sorted by name: sorted, and no name
    twice. -/
theorem Keyed.definitions_strictly_sorted {r : Registry} (h : Keyed r) :
    r.definitions.Pairwise fun a b => a.name < b.name := by
  obtain ⟨hperm, hsorted⟩ := Registry.definitions_sorted r
  have hnodup : (r.definitions.map (·.name)).Nodup :=
    ((hperm.map _).trans (h.definition_names ▸ List.Perm.refl _)).nodup_iff.2 h.nodup
  exact (hsorted.and (List.pairwise_map.1 hnodup)).imp fun hab => lt_of_le_of_ne hab.1 hab.2

theorem mem_definitions_registerAll (ts : List Tool) (d : ToolDefinition) :
    d ∈ (({} : Registry).registerAll ts).definitions ↔
      ∃ t, lastRegistered ts d.name = some t ∧ t.definition = d := by
  have hkeyed := keyed_registerAll Keyed.empty ts
  rw [(Registry.definitions_sorted _).1.mem_iff, List.mem_map]
  constructor
  · rintro ⟨⟨k, t⟩, he, rfl⟩
    have hk : t.definition.name = k := hkeyed.key _ he
    subst hk
    exact ⟨t, (mem_registerAll ts _ t).1 he, rfl⟩
  · rintro ⟨t, hlast, rfl⟩
    exact ⟨_, (mem_registerAll ts _ t).2 hlast, rfl⟩

/-- Running a tool of a registry built from nothing runs the last tool registered under the
    name, and a name nothing was registered under gives a failed result. -/
theorem execute_registerAll (ts : List Tool) (now : Instant) (name arguments : String) :
    (∀ t, lastRegistered ts name = some t →
      (({} : Registry).registerAll ts).execute now name arguments = t.handler now arguments) ∧
    (lastRegistered ts name = none →
      (({} : Registry).registerAll ts).execute now name arguments =
        .ok (ToolResult.failure ("unknown tool: " ++ name))) := by
  constructor
  · intro t hlast
    rw [execute, lookup_registerAll, hlast]
  · intro hlast
    rw [execute, lookup_registerAll, hlast]

/-- Tools registered one after another make a map from names to tools in which the last
    registration under a name wins. The definitions are those of the last tool registered
    under each name, strictly ascending in the byte order of the names; the size is the
    number of distinct names; and running a tool runs the last tool registered under its
    name with the same clock and arguments, or, when none was, gives the failed result
    `unknown tool: <name>`. -/
theorem registry_keeps_last_registration (ts : List Tool) :
    ((({} : Registry).registerAll ts).definitions.Pairwise
        (fun a b => Text.utf8 a.name < Text.utf8 b.name) ∧
      ∀ d, d ∈ (({} : Registry).registerAll ts).definitions ↔
        ∃ t, lastRegistered ts d.name = some t ∧ t.definition = d) ∧
    (({} : Registry).registerAll ts).size = (ts.map (·.definition.name)).dedup.length ∧
    ∀ now name arguments,
      (∀ t, lastRegistered ts name = some t →
        (({} : Registry).registerAll ts).execute now name arguments = t.handler now arguments) ∧
      (lastRegistered ts name = none →
        (({} : Registry).registerAll ts).execute now name arguments =
          .ok (ToolResult.failure ("unknown tool: " ++ name))) := by
  have hsorted := (keyed_registerAll Keyed.empty ts).definitions_strictly_sorted
  refine ⟨⟨hsorted.imp fun hab => (Text.lt_iff_utf8_lt _ _).1 hab,
    mem_definitions_registerAll ts⟩, size_registerAll ts, execute_registerAll ts⟩

/-- A probe registered twice, first failing and then answering. -/
def probes : List Tool :=
  [failing ⟨"probe", "", .null⟩ "old", constant ⟨"probe", "", .null⟩ (.ok "new")]

theorem execute_runs_second_probe :
    (({} : Registry).registerAll probes).execute default "probe" "" = .ok (.ok "new") ∧
      (({} : Registry).registerAll probes).execute default "other" "" =
        .ok (ToolResult.failure ("unknown tool: " ++ "other")) := by
  obtain ⟨-, -, hexecute⟩ := registry_keeps_last_registration probes
  exact ⟨(hexecute default "probe" "").1 _ (by rfl), (hexecute default "other" "").2 (by rfl)⟩

end ChatWire.Tool.Registry
