import HubAuth.Proofs.Credentials.Rebuild
import HubAuth.Proofs.Endpoint.Grammar

/-! # Building step by step or at once

  A builder takes calls in any order and number, some of them before it has an
  endpoint and some after. All that is left of them in the end is what was given
  last: a configuration, a lifetime of tokens if it was given after that, and
  the sources of a certificate if there were any. With these the credentials
  are built as they are at once.

  * `configured_iff`, `presents_iff`: what is left of calls.
  * `buildAll_eq`: a builder from its first call to the last.
  * `builder_as_constructors`: how it agrees with building at once.
-/

namespace HubAuth.Builder

/-! ### Calls -/

/-- A call that is about the configuration. -/
inductive Setting where
  /-- Gives the whole configuration. -/
  | config (config : Config)
  /-- Gives the lifetime of tokens. -/
  | tokenValidity (validity : Duration)
  deriving DecidableEq, Repr

/-- A call on a builder with an endpoint. -/
inductive Call where
  /-- One about the configuration, as before. -/
  | setting (setting : Setting)
  /-- Gives the sources of the certificate and of its key. -/
  | certificate (publicSource privateSource : PemSource)
  deriving DecidableEq, Repr

/-- The call that gives the endpoint. -/
inductive Origin where
  /-- As it is. -/
  | endpoint (endpoint : Endpoint)
  /-- As a connection string. -/
  | connectionString (s : String)
  deriving DecidableEq, Repr

variable {ε : Type}

/-- The builder after a call. -/
def Setting.apply (b : Builder ε) : Setting → Builder ε
  | .config c => b.setConfig c
  | .tokenValidity validity => b.setTokenValidity validity

/-- The builder after a call. -/
def Call.apply (b : Builder Endpoint) : Call → Builder Endpoint
  | .setting s => s.apply b
  | .certificate publicSource privateSource => b.setCertificate publicSource privateSource

/-- The builder once it has an endpoint. -/
def Origin.apply (b : Builder Unit) : Origin → Outcome (Builder Endpoint)
  | .endpoint e => .ok (b.setEndpoint e)
  | .connectionString s => b.setConnectionString s

/-- All calls on a builder, up to the credentials. -/
def buildAll (before : List Setting) (origin : Origin) (after : List Call) (now : Instant)
    (files : Files.Tree) : Outcome Credentials := do
  let b ← origin.apply (before.foldl Setting.apply start)
  (after.foldl Call.apply b).build now files

/-! ### What is left of them -/

/-- The endpoint that is given. -/
def Origin.read : Origin → Outcome Endpoint
  | .endpoint e => .ok e
  | .connectionString s => ConnectionString.parse s

/-- The calls that are about the configuration. -/
def settings (calls : List Call) : List Setting :=
  calls.filterMap fun
    | .setting s => some s
    | .certificate .. => none

/-- The configuration with the last of the given lifetimes, in whole seconds. -/
def withLast (config : Config) (lifetimes : List Duration) : Config :=
  match lifetimes.getLast? with
  | some validity => { config with tokenValiditySecs := validity.secs }
  | none => config

/-- The configuration that calls leave. -/
inductive Configured : List Setting → Config → Prop
  /-- None is given as a whole. -/
  | default (lifetimes : List Duration) :
      Configured (lifetimes.map .tokenValidity) (withLast {} lifetimes)
  /-- The last one that is given as a whole, and the lifetimes given after it. -/
  | config (before : List Setting) (c : Config) (lifetimes : List Duration) :
      Configured (before ++ .config c :: lifetimes.map .tokenValidity) (withLast c lifetimes)

/-- The sources that calls leave. -/
inductive Presents : List Call → Option (PemSource × PemSource) → Prop
  /-- None are given. -/
  | none (after : List Setting) : Presents (after.map .setting) none
  /-- The last ones that are given. -/
  | last (before : List Call) (p k : PemSource) (after : List Setting) :
      Presents (before ++ .certificate p k :: after.map .setting) (some (p, k))

/-! ### The configuration -/

/-- The configuration after a call. -/
def Setting.on (config : Config) : Setting → Config
  | .config config' => config'
  | .tokenValidity validity => config.withTokenValidity validity

theorem withLast_concat (config : Config) (lifetimes : List Duration) (validity : Duration) :
    withLast config (lifetimes ++ [validity])
      = (withLast config lifetimes).withTokenValidity validity := by
  unfold withLast
  rw [List.getLast?_concat]
  split
  · next h =>
    obtain rfl := Option.some.inj h
    cases lifetimes.getLast? <;> rfl
  · next h => cases h

/-- Of lifetimes the last one is left. -/
theorem foldl_tokenValidity (config : Config) (lifetimes : List Duration) :
    (lifetimes.map Setting.tokenValidity).foldl Setting.on config = withLast config lifetimes := by
  induction lifetimes using List.reverseRecOn with
  | nil => rfl
  | append_singleton lifetimes validity ih =>
    rw [List.map_append, List.foldl_append, ih, withLast_concat]
    rfl

/-- What one more call leaves. -/
theorem Configured.concat {calls : List Setting} {config : Config} (h : Configured calls config)
    (s : Setting) : Configured (calls ++ [s]) (s.on config) := by
  cases s with
  | config config' => exact .config calls config' []
  | tokenValidity validity =>
    -- It joins the lifetimes at the end, whatever they come after.
    cases h with
    | default lifetimes =>
      have hlast := Configured.default (lifetimes ++ [validity])
      rwa [List.map_append, withLast_concat] at hlast
    | config before config lifetimes =>
      have hlast := Configured.config before config (lifetimes ++ [validity])
      rwa [List.map_append, withLast_concat, ← List.cons_append, ← List.append_assoc] at hlast

/-- Calls leave one configuration, which is the one a builder has after them. -/
theorem configured_iff {calls : List Setting} {config : Config} :
    Configured calls config ↔ calls.foldl Setting.on {} = config := by
  constructor
  · intro h
    cases h with
    | default lifetimes => exact foldl_tokenValidity {} lifetimes
    | config before config lifetimes =>
      rw [List.foldl_append, List.foldl_cons]
      exact foldl_tokenValidity config lifetimes
  · rintro rfl
    -- From the end: what is left depends on the last call and on what was left before.
    induction calls using List.reverseRecOn with
    | nil => exact .default []
    | append_singleton calls s ih =>
      rw [List.foldl_append]
      exact ih.concat s

/-! ### The sources -/

/-- The sources after a call. -/
def Call.present (sources : Option (PemSource × PemSource)) : Call → Option (PemSource × PemSource)
  | .setting _ => sources
  | .certificate publicSource privateSource => some (publicSource, privateSource)

/-- Calls about the configuration leave the sources as they are. -/
theorem foldl_present (sources : Option (PemSource × PemSource)) (after : List Setting) :
    (after.map Call.setting).foldl Call.present sources = sources := by
  induction after with
  | nil => rfl
  | cons s after ih => exact ih

/-- What one more call leaves. -/
theorem Presents.concat {calls : List Call} {sources : Option (PemSource × PemSource)}
    (h : Presents calls sources) (call : Call) :
    Presents (calls ++ [call]) (call.present sources) := by
  cases call with
  | certificate p k => exact .last calls p k []
  | setting s =>
    cases h with
    | none after =>
      have hlast := Presents.none (after ++ [s])
      rwa [List.map_append] at hlast
    | last before p k after =>
      have hlast := Presents.last before p k (after ++ [s])
      rwa [List.map_append, ← List.cons_append, ← List.append_assoc] at hlast

/-- The last sources are left whatever sources there were before. -/
theorem Presents.foldl_eq {calls : List Call} {pair : PemSource × PemSource}
    (h : Presents calls (some pair)) (sources : Option (PemSource × PemSource)) :
    calls.foldl Call.present sources = some pair := by
  cases h with
  | last before p k after =>
    rw [List.foldl_append, List.foldl_cons]
    exact foldl_present (some (p, k)) after

/-- Calls leave the sources that a builder has after them. -/
theorem presents_iff {calls : List Call} {sources : Option (PemSource × PemSource)} :
    Presents calls sources ↔ calls.foldl Call.present none = sources := by
  constructor
  · intro h
    cases sources with
    | some pair => exact h.foldl_eq none
    | none =>
      cases h with
      | none after => exact foldl_present none after
  · rintro rfl
    induction calls using List.reverseRecOn with
    | nil => exact .none []
    | append_singleton calls call ih =>
      rw [List.foldl_append]
      exact ih.concat call

/-! ### The builder -/

/-- Calls about the configuration change nothing else. -/
theorem foldl_setting (b : Builder ε) (calls : List Setting) :
    calls.foldl Setting.apply b = { b with config := calls.foldl Setting.on b.config } := by
  induction calls generalizing b with
  | nil => rfl
  | cons s calls ih =>
    rw [List.foldl_cons, ih, List.foldl_cons]
    cases s <;> rfl

/-- A builder with an endpoint keeps it. The rest of it is what calls leave. -/
theorem foldl_call (b : Builder Endpoint) (calls : List Call) :
    calls.foldl Call.apply b =
      { b with
        config := (settings calls).foldl Setting.on b.config
        sources := calls.foldl Call.present b.sources } := by
  induction calls generalizing b with
  | nil => rfl
  | cons call calls ih =>
    rw [List.foldl_cons, ih, List.foldl_cons]
    cases call with
    | certificate p k => rfl
    | setting s => cases s <;> rfl

/-- The endpoint is all that the call for it adds. -/
theorem apply_origin (b : Builder Unit) (origin : Origin) :
    origin.apply b = origin.read >>= fun e => pure (b.setEndpoint e) := by
  cases origin <;> rfl

variable {before : List Setting} {origin : Origin} {after : List Call}

/-- A builder from its first call to the last. -/
theorem buildAll_eq (before : List Setting) (origin : Origin) (after : List Call) (now : Instant)
    (files : Files.Tree) :
    buildAll before origin after now files = origin.read >>= fun e =>
      (⟨e, (before ++ settings after).foldl Setting.on {}, after.foldl Call.present none⟩ :
        Builder Endpoint).build now files := by
  unfold buildAll
  rw [apply_origin, foldl_setting, List.foldl_append]
  -- Reading the endpoint is not looked into: it may fail, and it may log.
  generalize origin.read = o
  obtain ⟨result, log⟩ := o
  cases result with
  | error f => rfl
  | ok e =>
    simp only [Outcome.pure_eq, Outcome.ok_bind, List.append_nil]
    rw [foldl_call]
    rfl

/-- A builder with the calls that leave the same ends the same. -/
theorem buildAll_of_left {c : Config} {sources : Option (PemSource × PemSource)}
    (hc : Configured (before ++ settings after) c) (hsources : Presents after sources)
    (origin : Origin) (now : Instant) (files : Files.Tree) :
    buildAll before origin after now files =
      origin.read >>= fun e => (⟨e, c, sources⟩ : Builder Endpoint).build now files := by
  rw [buildAll_eq, configured_iff.mp hc, presents_iff.mp hsources]

/-- What comes of a builder with the given calls. -/
structure AsConstructors (before : List Setting) (origin : Origin) (after : List Call) :
    Prop where
  /-- The calls leave one configuration. -/
  configured : ∃! c, Configured (before ++ settings after) c
  /-- They leave one pair of sources, or none. -/
  presents : ∃! sources, Presents after sources
  /-- Without sources the credentials are those with a token. -/
  token : ∀ c, Configured (before ++ settings after) c → Presents after none → ∀ now files,
    buildAll before origin after now files =
      origin.read >>= fun e => Credentials.withToken now e c
  /-- With sources they are those with a certificate. -/
  certificate : ∀ c p k, Configured (before ++ settings after) c → Presents after (some (p, k)) →
    ∀ now files, buildAll before origin after now files =
      origin.read >>= fun e => Credentials.withCertificate files e p k c
  /-- It makes no difference which calls about the configuration come before the
      one for the endpoint, and where certificates are given among them. -/
  moved : ∀ before' after', before' ++ settings after' = before ++ settings after →
    (∀ sources, Presents after' sources ↔ Presents after sources) →
    buildAll before' origin after' = buildAll before origin after
  /-- A certificate that is given before another one makes none. -/
  inserted : ∀ first second sources, after = first ++ second → Presents second (some sources) →
    ∀ p k, buildAll before origin (first ++ .certificate p k :: second)
      = buildAll before origin after
  /-- Nor do files, but for those of the last sources. -/
  files : ∀ files files', (∀ p k, Presents after (some (p, k)) →
      ∀ path, p.path? = some path ∨ k.path? = some path → files.read path = files'.read path) →
    ∀ now, buildAll before origin after now files = buildAll before origin after now files'
  /-- Only these are read. -/
  reading : ∀ now files half text,
    .reading half text ∈ (buildAll before origin after now files).log →
      ∃ p k, Presents after (some (p, k)) ∧
        .reading half text ∈ p.readings .publicCertificate ++ k.readings .privateKey
  /-- Credentials that are built log in as the endpoint says, and as was asked of
      the builder. -/
  login : ∀ now files c, (buildAll before origin after now files).result = .ok c →
    origin.read.result = .ok c.endpoint ∧ Configured (before ++ settings after) c.config ∧
      (c.authType = .certificate ↔ c.endpoint.usesCertificate = true) ∧
      (c.authType = .certificate ↔ ∃ sources, Presents after (some sources))

theorem login_of_build {b : Builder Endpoint} {now : Instant} {files : Files.Tree}
    {c : Credentials} (h : (b.build now files).result = .ok c) :
    c.endpoint = b.endpoint ∧ c.config = b.config ∧
      (c.authType = .certificate ↔ b.endpoint.usesCertificate = true) ∧
      (c.authType = .certificate ↔ ∃ sources, b.sources = some sources) := by
  have hlogin := Credentials.authType_iff (Credentials.consistent_built (.build h))
  -- The sources decide which way of building was taken.
  unfold build at h
  split at h
  · next p k hsources =>
    obtain ⟨-, m, tls, -, rfl⟩ := Credentials.withCertificate_ok.mp h
    exact ⟨rfl, rfl, hlogin, by simp [Credentials.authType, hsources]⟩
  · next hsources =>
    obtain ⟨i, tls, -, -, rfl⟩ := Credentials.withToken_ok.mp h
    exact ⟨rfl, rfl, hlogin, by simp [Credentials.authType, hsources]⟩

theorem buildAll_of_read {files files' : Files.Tree}
    (h : ∀ p k, Presents after (some (p, k)) → ∀ path, p.path? = some path ∨ k.path? = some path →
      files.read path = files'.read path) (now : Instant) :
    buildAll before origin after now files = buildAll before origin after now files' := by
  rw [buildAll_eq, buildAll_eq]
  congr 1
  funext e
  show build _ now files = build _ now files'
  unfold build
  cases hsources : after.foldl Call.present none with
  | none => rfl
  | some pair =>
    obtain ⟨p, k⟩ := pair
    have hread := h p k (presents_iff.mpr hsources)
    exact Credentials.withCertificate_of_read (fun path hp => hread path (.inl hp))
      (fun path hk => hread path (.inr hk))

theorem reading_of_buildAll {now : Instant} {files : Files.Tree} {half : Half} {text : String}
    (h : .reading half text ∈ (buildAll before origin after now files).log) :
    ∃ p k, Presents after (some (p, k)) ∧
      .reading half text ∈ p.readings .publicCertificate ++ k.readings .privateKey := by
  rw [buildAll_eq, Outcome.mem_log_bind] at h
  rcases h with h | ⟨e, -, h⟩
  · -- Connection strings are not files.
    cases origin with
    | endpoint e => cases h
    | connectionString s => cases ConnectionString.eq_of_mem_log_parse h
  · unfold build at h
    split at h
    · next p k hsources =>
      exact ⟨p, k, presents_iff.mpr hsources, Credentials.reading_of_withCertificate h⟩
    · exact absurd h Credentials.reading_not_mem_withToken

/-- **Step by step or at once**: a builder that takes any calls before it has an
    endpoint and any calls after, ends as building at once does, with the same
    credentials or the same failure and with the same log. -/
theorem builder_as_constructors (before : List Setting) (origin : Origin) (after : List Call) :
    AsConstructors before origin after := by
  constructor
  case configured =>
    refine ⟨_, configured_iff.mpr rfl, ?_⟩
    intro c hc
    exact (configured_iff.mp hc).symm
  case presents =>
    refine ⟨_, presents_iff.mpr rfl, ?_⟩
    intro sources hsources
    exact (presents_iff.mp hsources).symm
  case token =>
    intro c hc hsources now files
    exact buildAll_of_left hc hsources origin now files
  case certificate =>
    intro c p k hc hsources now files
    exact buildAll_of_left hc hsources origin now files
  case moved =>
    intro before' after' hsettings hsources
    funext now files
    have hleft := (hsources _).mpr (presents_iff.mpr rfl)
    rw [buildAll_eq, buildAll_eq, hsettings, presents_iff.mp hleft]
  case inserted =>
    rintro first second sources rfl hlast p k
    have hsettings : settings (first ++ .certificate p k :: second) = settings (first ++ second) := by
      simp [settings]
    have hleft : ∀ calls, (first ++ calls ++ second).foldl Call.present none = some sources := by
      intro calls
      rw [List.foldl_append, hlast.foldl_eq]
    have hwith := hleft [.certificate p k]
    have hwithout := hleft []
    rw [List.append_assoc, List.singleton_append] at hwith
    rw [List.append_nil] at hwithout
    funext now files
    rw [buildAll_eq, buildAll_eq, hsettings, hwith, hwithout]
  case files =>
    intro files files' h now
    exact buildAll_of_read h now
  case reading =>
    intro now files half text h
    exact reading_of_buildAll h
  case login =>
    intro now files c h
    rw [buildAll_eq, Outcome.bind_result_ok] at h
    obtain ⟨e, he, hbuilt⟩ := h
    obtain ⟨hendpoint, hconfig, hlogin, hasked⟩ := login_of_build hbuilt
    refine ⟨?_, ?_, ?_, ?_⟩
    · rw [hendpoint]
      exact he
    · exact configured_iff.mpr hconfig.symm
    · rw [hendpoint]
      exact hlogin
    · simp only [presents_iff]
      exact hasked

end HubAuth.Builder
