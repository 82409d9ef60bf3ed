import MetricBatch.Config.Load
import MetricBatch.Proofs.Backend.Credentials

namespace MetricBatch

open Backend

/-- Both tokens can stand in a header, or neither can; or there is no token on either side. -/
def TokensAlike (token token' : Option String) : Prop :=
  token'.map Client.isSendable = token.map Client.isSendable

section

variable {token token' lower lower' : Option String}

instance : Decidable (TokensAlike token token') := inferInstanceAs (Decidable (_ = _))

theorem TokensAlike.or (h : TokensAlike token token') (hlower : TokensAlike lower lower') :
    TokensAlike (token.or lower) (token'.or lower') := by
  unfold TokensAlike at *
  rw [Option.map_or, Option.map_or, h, hlower]

theorem TokensAlike.shown (h : TokensAlike token token') :
    Client.shownToken token' = Client.shownToken token := by
  have hsome : token'.isSome = token.isSome := by
    rw [← Option.isSome_map (f := Client.isSendable), h, Option.isSome_map]
  rw [Client.shownToken, hsome]
  rfl

end

/-- One error, or values that are related. -/
inductive Agree {ε α : Type} (R : α → α → Prop) : Except ε α → Except ε α → Prop where
  | error (e : ε) : Agree R (.error e) (.error e)
  | ok {a a' : α} (h : R a a') : Agree R (.ok a) (.ok a')

theorem Agree.bind {ε α β : Type} {R : α → α → Prop} {S : β → β → Prop} {x x' : Except ε α}
    {f f' : α → Except ε β} (h : Agree R x x') (hf : ∀ a a', R a a' → Agree S (f a) (f' a')) :
    Agree S (x >>= f) (x' >>= f') := by
  cases h with
  | error e => exact .error e
  | ok h => exact hf _ _ h

/-- What holds of each error with itself and of related values holds of all that agree. -/
@[elab_as_elim]
theorem Agree.elim {ε α : Type} {R : α → α → Prop} {motive : Except ε α → Except ε α → Prop}
    {x x' : Except ε α} (h : Agree R x x') (error : ∀ e, motive (.error e) (.error e))
    (ok : ∀ a a', R a a' → motive (.ok a) (.ok a')) : motive x x' := by
  cases h with
  | error e => exact error e
  | ok h => exact ok _ _ h

/-- The messages of two clients for one request differ in nothing but the authorization. -/
theorem Client.message_eq {α : Type} {f : Message → α} (hf : Impartial f) (c c' : Client)
    (r : Request) : f (c'.message r) = f (c.message r) :=
  hf (c.message r) (c'.authorization r.url)

/-- Two clients that differ in nothing but the token. -/
structure Client.Retokened (c c' : Client) : Prop where
  baseUrl : c'.baseUrl = c.baseUrl
  token : TokensAlike c.token c'.token

namespace Client.Retokened

variable {c c' : Client}

theorem text (h : c.Retokened c') : c'.text = c.text := by
  unfold Client.text
  rw [h.baseUrl, h.token.shown]

theorem url (h : c.Retokened c') : c'.url = c.url := by
  funext path
  rw [Client.url, h.baseUrl, Client.url]

theorem execute {network : Message → Delivery} (h : c.Retokened c') (hn : Impartial network)
    (r : Request) : c'.execute network r = c.execute network r := by
  rw [Client.execute, h.token, Client.message_eq hn c, Client.execute]

end Client.Retokened

structure Settings.Retokened (s s' : Settings) : Prop where
  endpoint : s'.endpoint = s.endpoint
  token : TokensAlike s.token s'.token
  maxConcurrency : s'.maxConcurrency = s.maxConcurrency
  timeout : s'.timeout = s.timeout

theorem Settings.Retokened.refl (s : Settings) : s.Retokened s := ⟨rfl, rfl, rfl, rfl⟩

/-- No check looks at the token. -/
theorem Config.validate_token (c : Config) (token : Option String) :
    { c with token }.validate = c.validate := rfl

structure Config.Retokened (c c' : Config) : Prop where
  endpoint : c'.endpoint = c.endpoint
  maxConcurrency : c'.maxConcurrency = c.maxConcurrency
  timeout : c'.timeout = c.timeout
  token : TokensAlike c.token c'.token

namespace Config.Retokened

variable {c c' : Config} {s s' : Settings}

theorem refl (c : Config) : c.Retokened c := ⟨rfl, rfl, rfl, rfl⟩

theorem apply (h : c.Retokened c') (hs : s.Retokened s') : (c.apply s).Retokened (c'.apply s') := by
  refine ⟨?_, ?_, ?_, hs.token.or h.token⟩ <;> unfold Config.apply
  · rw [hs.endpoint, h.endpoint]
  · rw [hs.maxConcurrency, h.maxConcurrency]
  · rw [hs.timeout, h.timeout]

theorem text (h : c.Retokened c') : c'.text = c.text := by
  unfold Config.text
  rw [h.endpoint, h.maxConcurrency, h.timeout, h.token.shown]

theorem validate (h : c.Retokened c') : c'.validate = c.validate := by
  have heq : c' = { c with token := c'.token } := by
    rw [← h.endpoint, ← h.maxConcurrency, ← h.timeout]
  rw [heq, validate_token]

theorem client (h : c.Retokened c') : Agree Client.Retokened c.client c'.client := by
  unfold Config.client
  rw [h.endpoint]
  cases Client.ofEndpoint c.endpoint with
  | error e => exact .error e
  | ok client => exact .ok ⟨rfl, h.token⟩

end Config.Retokened

/-- Two environments that differ in nothing but the token. -/
structure Environment.Retokened (env env' : Environment) : Prop where
  token : TokensAlike (env tokenName) (env' tokenName)
  others : ∀ name, name ≠ tokenName → env' name = env name

namespace Environment.Retokened

variable {env env' : Environment}

theorem number (h : env.Retokened env') (name : String) (hname : name ≠ tokenName) :
    env'.number name = env.number name := by
  rw [Environment.number, h.others name hname, Environment.number]

/-- Reading stops at the same number, if at all, and has set the same but for the token. -/
theorem settings (h : env.Retokened env') :
    env.settings.1.Retokened env'.settings.1 ∧ env'.settings.2 = env.settings.2 := by
  have hendpoint := h.others endpointName (by decide)
  unfold Environment.settings
  rw [h.number maxConcurrencyName (by decide), h.number timeoutName (by decide)]
  cases env.number maxConcurrencyName with
  | error e => exact ⟨⟨hendpoint, h.token, rfl, rfl⟩, rfl⟩
  | ok maxConcurrency =>
    cases env.number timeoutName with
    | error e => exact ⟨⟨hendpoint, h.token, rfl, rfl⟩, rfl⟩
    | ok seconds => exact ⟨⟨hendpoint, h.token, rfl, rfl⟩, rfl⟩

theorem settings? (h : env.Retokened env') :
    Agree Settings.Retokened env.settings? env'.settings? := by
  obtain ⟨hsettings, herror⟩ := h.settings
  unfold Environment.settings?
  generalize env.settings = read at hsettings herror
  generalize env'.settings = read' at hsettings herror
  obtain ⟨settings, error⟩ := read
  obtain ⟨settings', error'⟩ := read'
  cases herror
  cases error with
  | none => exact .ok hsettings
  | some e => exact .error e

end Environment.Retokened

namespace Config

/-- What there is at a path on two occasions. If it is not the same, it is a file that can be read
both times, and the settings in it differ in nothing but the token. -/
inductive FileRetokened (path : String) : Option FileContent → Option FileContent → Prop where
  | same (content : Option FileContent) : FileRetokened path content content
  | retokened {bytes bytes' : List UInt8} {settings settings' : Settings}
    (h : settingsOfFile path bytes = .ok settings)
    (h' : settingsOfFile path bytes' = .ok settings') (hs : settings.Retokened settings') :
    FileRetokened path (some (.ok bytes)) (some (.ok bytes'))

section

variable {path : String} {content content' : Option FileContent}

theorem FileRetokened.isNone_eq (h : FileRetokened path content content') :
    content'.isNone = content.isNone := by
  cases h <;> rfl

theorem FileRetokened.read (h : FileRetokened path content content')
    (absent : Except ConfigError Settings) :
    let read : Option FileContent → Except ConfigError Settings
      | some content => readSettings path content
      | none => absent
    Agree Settings.Retokened (read content) (read content') := by
  intro read
  cases h with
  | same =>
    cases read content with
    | error e => exact .error e
    | ok settings => exact .ok (.refl settings)
  | retokened hread hread' hs =>
    dsimp only [read, readSettings]
    rw [hread, hread']
    exact .ok hs

end

variable {files files' : String → Option FileContent} {env env' : Environment}

theorem fileSettings_retokened (h : ∀ p, FileRetokened p (files p) (files' p))
    (path : Option String) (defaultPath : String) :
    Agree Settings.Retokened (fileSettings files path defaultPath)
      (fileSettings files' path defaultPath) := by
  cases path with
  | some p => exact (h p).read _
  | none => exact (h defaultPath).read _

theorem load_retokened (hfiles : ∀ p, FileRetokened p (files p) (files' p))
    (henv : env.Retokened env') (path : Option String) (defaultPath : String)
    (overrides : Settings) :
    Agree Config.Retokened (load files path defaultPath env overrides)
      (load files' path defaultPath env' overrides) := by
  unfold load
  refine (fileSettings_retokened hfiles path defaultPath).bind fun file file' hfile => ?_
  refine henv.settings?.bind fun settings settings' hsettings => ?_
  have hconfig : (((default.apply file).apply settings).apply overrides).Retokened
      (((default.apply file').apply settings').apply overrides) :=
    (((Retokened.refl default).apply hfile).apply hsettings).apply (.refl overrides)
  dsimp only
  rw [hconfig.validate]
  cases (((default.apply file).apply settings).apply overrides).validate with
  | error e => exact .error e
  | ok => exact .ok hconfig

end Config

end MetricBatch
