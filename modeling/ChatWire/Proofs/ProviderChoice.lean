import ChatWire.Provider.Factory

namespace ChatWire.Provider

open ChatWire.Config ChatWire.Host

/-- Dropping trailing slashes leaves the text before its last run of slashes, which does not
    itself end in a slash. -/
theorem trimTrailingSlashes_spec (s : String) :
    ∃ n, s = trimTrailingSlashes s ++ String.ofList (List.replicate n '/') ∧
      (trimTrailingSlashes s).toList.getLast? ≠ some '/' := by
  obtain ⟨r, hr⟩ : ∃ r, r = s.toList.reverse := ⟨_, rfl⟩
  have htrim : (trimTrailingSlashes s).toList = (r.dropWhile (· == '/')).reverse := by
    simp [trimTrailingSlashes, hr]
  have htake : r.takeWhile (· == '/') = List.replicate (r.takeWhile (· == '/')).length '/' :=
    List.eq_replicate_iff.2
      ⟨rfl, fun c hc => by simpa using List.all_eq_true.1 List.all_takeWhile c hc⟩
  refine ⟨(r.takeWhile (· == '/')).length, ?_, ?_⟩
  · apply String.toList_injective
    calc s.toList = (r.takeWhile (· == '/') ++ r.dropWhile (· == '/')).reverse := by
          rw [List.takeWhile_append_dropWhile, hr, List.reverse_reverse]
      _ = (r.dropWhile (· == '/')).reverse ++ (r.takeWhile (· == '/')).reverse :=
          List.reverse_append
      _ = (trimTrailingSlashes s ++
            String.ofList (List.replicate (r.takeWhile (· == '/')).length '/')).toList := by
          rw [String.toList_append, String.toList_ofList, htrim, ← List.reverse_replicate,
            ← htake]
  · rw [htrim, List.getLast?_reverse]
    intro hhead
    have hnot := List.head?_dropWhile_not (· == '/') r
    rw [hhead] at hnot
    simp at hnot

theorem providerDefaults_eq_none_iff (name : String) :
    providerDefaults name = none ↔ name ≠ "openai" ∧ name ≠ "deepseek" := by
  unfold providerDefaults
  split <;> simp_all

theorem create_of_unknown {config : Config} (h : providerDefaults config.provider = none)
    (env : Environment) : create config env = .error (.unknownProvider config.provider) := by
  simp [create, h]

/-- Keeping an optional text only when it is not empty keeps it exactly when its value, the
    empty text when it is absent, is not empty. -/
theorem filter_nonEmpty_eq (o : Option String) :
    o.filter (!·.isEmpty) = if o.getD "" = "" then none else some (o.getD "") := by
  cases o with
  | none => rfl
  | some v => by_cases hv : v = "" <;> simp [hv, Option.filter]

/-- A known provider is created exactly when one of its two keys is not empty, with the
    environment's key first. -/
theorem create_of_known {config : Config} {keyVariable defaultRoot : String}
    (h : providerDefaults config.provider = some (keyVariable, defaultRoot)) (env : Environment) :
    create config env =
      if (env.lookup keyVariable).getD "" = "" ∧ config.apiKey.getD "" = "" then
        .error (.missingApiKey
          ("Set " ++ keyVariable ++ " environment variable or add api_key to config.toml"))
      else .ok
        { name := config.provider,
          endpoint := trimTrailingSlashes (config.baseUrl.getD defaultRoot) ++ "/chat/completions",
          apiKey := if (env.lookup keyVariable).getD "" = "" then config.apiKey.getD ""
            else (env.lookup keyVariable).getD "",
          model := config.model, maxTokens := config.maxTokens } := by
  simp only [create, h, filter_nonEmpty_eq]
  by_cases he : (env.lookup keyVariable).getD "" = "" <;>
    by_cases hc : config.apiKey.getD "" = "" <;> simp [he, hc]

theorem providerDefaults_of_known {name keyVariable defaultRoot : String}
    (h : (name = "openai" ∧ keyVariable = "OPENAI_API_KEY" ∧
        defaultRoot = "https://api.openai.com/v1") ∨
      (name = "deepseek" ∧ keyVariable = "DEEPSEEK_API_KEY" ∧
        defaultRoot = "https://api.deepseek.com")) :
    providerDefaults name = some (keyVariable, defaultRoot) := by
  rcases h with ⟨rfl, rfl, rfl⟩ | ⟨rfl, rfl, rfl⟩ <;> rfl

theorem create_eq_unknown_iff (config : Config) (env : Environment) :
    create config env = .error (.unknownProvider config.provider) ↔
      config.provider ≠ "openai" ∧ config.provider ≠ "deepseek" := by
  refine ⟨fun h => (providerDefaults_eq_none_iff _).1 ?_,
    fun h => create_of_unknown ((providerDefaults_eq_none_iff _).2 h) env⟩
  cases hd : providerDefaults config.provider with
  | none => rfl
  | some d =>
    obtain ⟨keyVariable, defaultRoot⟩ := d
    rw [create_of_known hd] at h
    split at h <;> simp at h

theorem create_eq_missingApiKey_iff {config : Config} {keyVariable defaultRoot : String}
    (h : providerDefaults config.provider = some (keyVariable, defaultRoot)) (env : Environment) :
    create config env = .error (.missingApiKey
        ("Set " ++ keyVariable ++ " environment variable or add api_key to config.toml")) ↔
      (env.lookup keyVariable).getD "" = "" ∧ config.apiKey.getD "" = "" := by
  rw [create_of_known h]
  constructor
  · intro hmissing
    split at hmissing
    · assumption
    · simp at hmissing
  · intro hempty
    rw [if_pos hempty]

/-- Creating a provider: an unknown name fails as unknown whatever the keys; a known name
    fails for a missing key, naming its variable, exactly when the variable is unset or empty
    and `api_key` is absent or empty; otherwise the provider has the configured name, model and
    token limit, the environment's key when it is not empty and `api_key` otherwise, and the
    endpoint `/chat/completions` after the API root less its trailing slashes. -/
theorem create_resolves_provider (config : Config) (env : Environment) :
    (create config env = .error (.unknownProvider config.provider) ↔
      config.provider ≠ "openai" ∧ config.provider ≠ "deepseek") ∧
    ∀ keyVariable defaultRoot,
      (config.provider = "openai" ∧ keyVariable = "OPENAI_API_KEY" ∧
          defaultRoot = "https://api.openai.com/v1") ∨
        (config.provider = "deepseek" ∧ keyVariable = "DEEPSEEK_API_KEY" ∧
          defaultRoot = "https://api.deepseek.com") →
      (create config env = .error (.missingApiKey
          ("Set " ++ keyVariable ++ " environment variable or add api_key to config.toml")) ↔
        (env.lookup keyVariable).getD "" = "" ∧ config.apiKey.getD "" = "") ∧
      ((env.lookup keyVariable).getD "" ≠ "" ∨ config.apiKey.getD "" ≠ "" →
        ∃ p : Compat, create config env = .ok p ∧
          p.apiKey = (if (env.lookup keyVariable).getD "" = "" then config.apiKey.getD ""
            else (env.lookup keyVariable).getD "") ∧
          p.name = config.provider ∧ p.model = config.model ∧ p.maxTokens = config.maxTokens ∧
          ∃ base n, config.baseUrl.getD defaultRoot =
              base ++ String.ofList (List.replicate n '/') ∧
            base.toList.getLast? ≠ some '/' ∧ p.endpoint = base ++ "/chat/completions") := by
  refine ⟨create_eq_unknown_iff config env, fun keyVariable defaultRoot hknown => ?_⟩
  have hdefaults := providerDefaults_of_known hknown
  refine ⟨create_eq_missingApiKey_iff hdefaults env, fun hkey => ?_⟩
  have hnotEmpty : ¬ ((env.lookup keyVariable).getD "" = "" ∧ config.apiKey.getD "" = "") := by
    rintro ⟨he, hc⟩
    rcases hkey with h | h <;> contradiction
  rw [create_of_known hdefaults, if_neg hnotEmpty]
  obtain ⟨n, hroot, hlast⟩ := trimTrailingSlashes_spec (config.baseUrl.getD defaultRoot)
  exact ⟨_, rfl, rfl, rfl, rfl, rfl, _, n, hroot, hlast, rfl⟩

/-- An `openai` configuration with its own key and a local root. -/
def localOpenai : Config :=
  { provider := "openai", apiKey := some "key", baseUrl := some "http://localhost:11434/v1/" }

theorem create_resolves_localOpenai :
    (create localOpenai [] = .error (.missingApiKey
        ("Set " ++ "OPENAI_API_KEY" ++ " environment variable or add api_key to config.toml")) ↔
      (([] : Environment).lookup "OPENAI_API_KEY").getD "" = "" ∧ localOpenai.apiKey.getD "" = "") ∧
    ∃ p : Compat, create localOpenai [] = .ok p ∧
      p.apiKey = (if (([] : Environment).lookup "OPENAI_API_KEY").getD "" = "" then
        localOpenai.apiKey.getD "" else (([] : Environment).lookup "OPENAI_API_KEY").getD "") ∧
      p.name = localOpenai.provider ∧ p.model = localOpenai.model ∧
      p.maxTokens = localOpenai.maxTokens ∧
      ∃ base n, localOpenai.baseUrl.getD "https://api.openai.com/v1" =
          base ++ String.ofList (List.replicate n '/') ∧
        base.toList.getLast? ≠ some '/' ∧ p.endpoint = base ++ "/chat/completions" := by
  have hknown := (create_resolves_provider localOpenai []).2 "OPENAI_API_KEY"
    "https://api.openai.com/v1" (.inl ⟨rfl, rfl, rfl⟩)
  exact ⟨hknown.1, hknown.2 (.inr (by decide))⟩

/-- A local root with a trailing slash, and a key from the configuration. -/
example :
    (create
        { provider := "openai", apiKey := some "key",
          baseUrl := some "http://localhost:11434/v1/" } []).map (·.endpoint) =
      .ok "http://localhost:11434/v1/chat/completions" := rfl

end ChatWire.Provider
