import MetricBatch.Config.Load
import MetricBatch.Proofs.Number.Natural
import MetricBatch.Proofs.Text.Utf8

namespace MetricBatch.Config

variable {files files' : String → Option FileContent} {path : Option String} {defaultPath : String}
  {env env' : Environment} {overrides : Settings} {c : Config}

/-- The file that is read, if one is: the one that is asked for, or the one that is there. -/
def sourcePath (files : String → Option FileContent) (path : Option String)
    (defaultPath : String) : Option String :=
  path.or (if (files defaultPath).isSome then some defaultPath else none)

/-- What the file sets; nothing if it cannot be read. -/
def fileLayer (files : String → Option FileContent) (path : Option String)
    (defaultPath : String) : Settings :=
  (fileSettings files path defaultPath).toOption.getD .none

def numberLayer (env : Environment) (name : String) : Option Nat := (env.number name).toOption.join

/-- What the variables set; a number that cannot be read is none. -/
def environmentLayer (env : Environment) : Settings :=
  { endpoint := env Environment.endpointName
    token := env Environment.tokenName
    maxConcurrency := numberLayer env Environment.maxConcurrencyName
    timeout := (numberLayer env Environment.timeoutName).map Span.ofSeconds }

/-- For each setting the first of the layers that has it, or else the default. -/
def layered (layers : List Settings) : Config :=
  { endpoint := (layers.findSome? (·.endpoint)).getD defaultEndpoint
    maxConcurrency := (layers.findSome? (·.maxConcurrency)).getD Gate.defaultCapacity
    timeout := (layers.findSome? (·.timeout)).getD defaultTimeout
    token := layers.findSome? (·.token) }

/-- What is loaded if there is no fault. -/
def resolved (files : String → Option FileContent) (path : Option String) (defaultPath : String)
    (env : Environment) (overrides : Settings) : Config :=
  layered [overrides, environmentLayer env, fileLayer files path defaultPath]

theorem getD_layered {α : Type} (a b c : Option α) (d : α) :
    a.getD (b.getD (c.getD d)) = ([a, b, c].findSome? id).getD d := by
  cases a <;> cases b <;> cases c <;> rfl

theorem or_layered {α : Type} (a b c : Option α) :
    a.or (b.or (c.or none)) = [a, b, c].findSome? id := by
  cases a <;> cases b <;> cases c <;> rfl

theorem apply_layered (top middle bottom : Settings) :
    ((default.apply bottom).apply middle).apply top = layered [top, middle, bottom] := by
  simp only [apply, getD_layered, default, or_layered]
  rfl

theorem layered_token {top middle bottom : Settings} (h : top.token = none) :
    (layered [top, middle, bottom]).token = middle.token.or bottom.token := by
  simp only [layered, List.findSome?_cons, h, List.findSome?_nil]
  cases middle.token <;> cases bottom.token <;> rfl

/-- Each source that is there can be read. -/
structure Readable (files : String → Option FileContent) (path : Option String)
    (defaultPath : String) (env : Environment) : Prop where
  file : ∀ p, sourcePath files path defaultPath = some p →
    ∃ bytes settings, files p = some (.ok bytes) ∧ settingsOfFile p bytes = .ok settings
  numbers : ∀ name ∈ [Environment.maxConcurrencyName, Environment.timeoutName], ∀ text,
    env name = some text →
      ∃ n, Natural.Denotes (Text.trim text.toList) n ∧ n ≤ Natural.max64

/-- Values with which queries can be made. -/
structure Usable (c : Config) : Prop where
  concurrency : 1 ≤ c.maxConcurrency
  timeout : billion ≤ c.timeout.totalNanos
  endpoint : ∃ url, Url.parse c.endpoint = .ok url ∧ (url.scheme = "http" ∨ url.scheme = "https")

def fault? {α : Type} : Except ConfigError α → Option ConfigError
  | .error e => some e
  | .ok _ => none

def badEndpoint? (c : Config) : Option ConfigError :=
  match Url.parse c.endpoint with
  | .error e => some (.invalid (.badEndpoint c.endpoint e))
  | .ok _ => none

def badScheme? (c : Config) : Option ConfigError :=
  match Url.parse c.endpoint with
  | .error _ => none
  | .ok url => if Url.isHttp url.scheme then none else some (.invalid (.badScheme c.endpoint))

/-- What can be wrong with the values, in the order in which they are looked at. -/
def valueFaults (c : Config) : List (Option ConfigError) :=
  [if c.maxConcurrency = 0 then some (.invalid .noConcurrency) else none,
    if c.timeout.seconds = 0 then some (.invalid .shortTimeout) else none,
    badEndpoint? c, badScheme? c]

/-- What can be wrong with a configuration; the sources come before the values. -/
def faults (files : String → Option FileContent) (path : Option String) (defaultPath : String)
    (env : Environment) (overrides : Settings) : List (Option ConfigError) :=
  [fault? (fileSettings files path defaultPath),
    fault? (env.number Environment.maxConcurrencyName),
    fault? (env.number Environment.timeoutName)] ++
      valueFaults (resolved files path defaultPath env overrides)

theorem validate_fault (c : Config) : fault? c.validate = (valueFaults c).findSome? id := by
  unfold validate invalid? valueFaults badEndpoint? badScheme?
  by_cases hc : c.maxConcurrency = 0
  · rw [if_pos hc, if_pos hc]
    rfl
  · by_cases ht : c.timeout.seconds = 0
    · rw [if_neg hc, if_pos ht, if_neg hc, if_pos ht]
      rfl
    · rw [if_neg hc, if_neg ht, if_neg hc, if_neg ht]
      cases Url.parse c.endpoint with
      | error e => rfl
      | ok url =>
        cases hs : Url.isHttp url.scheme <;> simp [hs, fault?]

theorem settings?_eq (env : Environment) : env.settings? =
    match fault? (env.number Environment.maxConcurrencyName),
      fault? (env.number Environment.timeoutName) with
    | some e, _ => .error e
    | none, some e => .error e
    | none, none => .ok (environmentLayer env) := by
  unfold Environment.settings? Environment.settings environmentLayer numberLayer
  cases env.number Environment.maxConcurrencyName with
  | error e => rfl
  | ok maxConcurrency =>
    cases env.number Environment.timeoutName with
    | error e => rfl
    | ok seconds => rfl

/-- A configuration is loaded as it is layered, unless there is a fault. -/
theorem load_eq (files : String → Option FileContent) (path : Option String)
    (defaultPath : String) (env : Environment) (overrides : Settings) :
    load files path defaultPath env overrides =
      match (faults files path defaultPath env overrides).findSome? id with
      | some e => .error e
      | none => .ok (resolved files path defaultPath env overrides) := by
  unfold load faults
  rw [settings?_eq, List.findSome?_append, ← validate_fault]
  cases hfile : fileSettings files path defaultPath with
  | error e => rfl
  | ok file =>
    cases hmax : fault? (env.number Environment.maxConcurrencyName) with
    | some e => rfl
    | none =>
      cases htimeout : fault? (env.number Environment.timeoutName) with
      | some e => rfl
      | none =>
        have hlayer : fileLayer files path defaultPath = file := by
          rw [fileLayer, hfile]
          rfl
        have hc : ((default.apply file).apply (environmentLayer env)).apply overrides =
            resolved files path defaultPath env overrides := by
          rw [apply_layered, resolved, hlayer]
        have hvalidate (c : Config) : (do c.validate; return c : Except ConfigError Config) =
            match fault? c.validate with
            | some e => .error e
            | none => .ok c := by
          cases c.validate <;> rfl
        rw [← hc]
        exact hvalidate _

theorem fileSettings_readable : fault? (fileSettings files path defaultPath) = none ↔
    ∀ p, sourcePath files path defaultPath = some p →
      ∃ bytes settings, files p = some (.ok bytes) ∧ settingsOfFile p bytes = .ok settings := by
  have hread (p : String) (content : FileContent) : fault? (readSettings p content) = none ↔
      ∃ bytes settings, content = .ok bytes ∧ settingsOfFile p bytes = .ok settings := by
    cases content with
    | error reason => exact ⟨nofun, nofun⟩
    | ok bytes =>
      cases hsettings : settingsOfFile p bytes with
      | error e => simp [readSettings, fault?, hsettings]
      | ok settings => simp [readSettings, fault?, hsettings]
  unfold fileSettings sourcePath
  cases path with
  | some p =>
    cases hp : files p with
    | none => simp [fault?, hp]
    | some content => simp [hread, hp]
  | none =>
    cases hp : files defaultPath with
    | none => simp [fault?]
    | some content => simp [hread, hp]

theorem number_readable {name : String} : fault? (env.number name) = none ↔
    ∀ text, env name = some text →
      ∃ n, Natural.Denotes (Text.trim text.toList) n ∧ n ≤ Natural.max64 := by
  unfold Environment.number
  cases env name with
  | none => exact ⟨fun _ _ => nofun, fun _ => rfl⟩
  | some text =>
    simp only [Option.some.injEq, forall_eq', ← Natural.read_ok_iff]
    cases Natural.read Natural.max64 (Text.trim text.toList) with
    | error e => exact ⟨nofun, nofun⟩
    | ok n => exact ⟨fun _ => ⟨n, rfl⟩, fun _ => rfl⟩

theorem readable_of_ok {settings : Settings} {maxConcurrency seconds : Option Nat}
    (hfile : fileSettings files path defaultPath = .ok settings)
    (hmax : env.number Environment.maxConcurrencyName = .ok maxConcurrency)
    (htimeout : env.number Environment.timeoutName = .ok seconds) :
    Readable files path defaultPath env := by
  refine ⟨fileSettings_readable.mp (by rw [hfile]; rfl), List.forall_mem_cons.mpr ⟨?_, ?_⟩⟩
  · exact number_readable.mp (by rw [hmax]; rfl)
  · exact List.forall_mem_singleton.mpr (number_readable.mp (by rw [htimeout]; rfl))

theorem badEndpoint_badScheme : badEndpoint? c = none ∧ badScheme? c = none ↔
    ∃ url, Url.parse c.endpoint = .ok url ∧ (url.scheme = "http" ∨ url.scheme = "https") := by
  unfold badEndpoint? badScheme?
  cases Url.parse c.endpoint with
  | error e => simp
  | ok url => simp [Url.isHttp, Decidable.or_iff_not_imp_left]

theorem valueFaults_none : (valueFaults c).findSome? id = none ↔ Usable c := by
  have htimeout : c.timeout.seconds ≠ 0 ↔ billion ≤ c.timeout.totalNanos := by
    have hlt := c.timeout.nanos_lt
    unfold Span.totalNanos billion at *
    omega
  simp only [valueFaults, List.findSome?_eq_none_iff, List.forall_mem_cons, id_eq,
    ite_eq_right_iff, reduceCtorEq, imp_false]
  constructor
  · rintro ⟨hconcurrency, hspan, hendpoint, hscheme, _⟩
    exact ⟨Nat.pos_of_ne_zero hconcurrency, htimeout.mp hspan,
      badEndpoint_badScheme.mp ⟨hendpoint, hscheme⟩⟩
  · rintro ⟨hconcurrency, hspan, hurl⟩
    obtain ⟨hendpoint, hscheme⟩ := badEndpoint_badScheme.mpr hurl
    exact ⟨Nat.pos_iff_ne_zero.mp hconcurrency, htimeout.mpr hspan, hendpoint, hscheme, nofun⟩

theorem Readable.faults_eq (h : Readable files path defaultPath env) (overrides : Settings) :
    (faults files path defaultPath env overrides).findSome? id =
      (valueFaults (resolved files path defaultPath env overrides)).findSome? id := by
  have hfile := fileSettings_readable.mpr h.file
  have hmax := number_readable.mpr (h.numbers Environment.maxConcurrencyName (by simp))
  have htimeout := number_readable.mpr (h.numbers Environment.timeoutName (by simp))
  rw [faults, hfile, hmax, htimeout]
  rfl

theorem faults_none : (faults files path defaultPath env overrides).findSome? id = none ↔
    Readable files path defaultPath env ∧
      Usable (resolved files path defaultPath env overrides) := by
  constructor
  · intro h
    have hall : ∀ fault ∈ faults files path defaultPath env overrides, fault = none :=
      List.findSome?_eq_none_iff.mp h
    obtain ⟨hfile, hmax, htimeout, _⟩ : _ ∧ _ ∧ _ ∧ ∀ fault ∈ valueFaults _, fault = none := by
      simpa only [faults, List.cons_append, List.nil_append, List.forall_mem_cons] using hall
    have hreadable : Readable files path defaultPath env := by
      refine ⟨fileSettings_readable.mp hfile, List.forall_mem_cons.mpr ⟨number_readable.mp hmax, ?_⟩⟩
      exact List.forall_mem_singleton.mpr (number_readable.mp htimeout)
    rw [hreadable.faults_eq] at h
    exact ⟨hreadable, valueFaults_none.mp h⟩
  · rintro ⟨hreadable, husable⟩
    rw [hreadable.faults_eq]
    exact valueFaults_none.mpr husable

/-- The client of a usable configuration is at the configured endpoint. -/
theorem Usable.client (h : Usable c) : ∃ client, c.client = .ok client ∧
    Url.parse c.endpoint = .ok client.baseUrl ∧ client.token = c.token := by
  obtain ⟨url, hurl, hscheme⟩ := h.endpoint
  have hhttp : Url.isHttp url.scheme = true := by simpa [Url.isHttp] using hscheme
  refine ⟨⟨url, c.token⟩, ?_, hurl, rfl⟩
  rw [Config.client, Client.ofEndpoint, hurl]
  dsimp only
  rw [if_pos hhttp]
  rfl

theorem load_ok (h : load files path defaultPath env overrides = .ok c) :
    c = resolved files path defaultPath env overrides ∧ Readable files path defaultPath env ∧
      Usable c := by
  rw [load_eq] at h
  cases hfault : (faults files path defaultPath env overrides).findSome? id with
  | some e =>
    rw [hfault] at h
    cases h
  | none =>
    rw [hfault] at h
    obtain ⟨hreadable, husable⟩ := faults_none.mp hfault
    cases h
    exact ⟨rfl, hreadable, husable⟩

/-- One layer and another that differs from it only in settings that a layer above has. -/
structure SameBelow (above : List Settings) (s s' : Settings) : Prop where
  endpoint : (∀ top ∈ above, top.endpoint = none) → s'.endpoint = s.endpoint
  maxConcurrency : (∀ top ∈ above, top.maxConcurrency = none) → s'.maxConcurrency = s.maxConcurrency
  timeout : (∀ top ∈ above, top.timeout = none) → s'.timeout = s.timeout
  token : (∀ top ∈ above, top.token = none) → s'.token = s.token

theorem findSome?_sameBelow {α : Type} {setting : Settings → Option α}
    {top middle middle' bottom bottom' : Settings}
    (hm : (∀ t ∈ [top], setting t = none) → setting middle' = setting middle)
    (hb : (∀ t ∈ [top, middle], setting t = none) → setting bottom' = setting bottom) :
    [top, middle', bottom'].findSome? setting = [top, middle, bottom].findSome? setting := by
  simp only [List.forall_mem_cons, List.not_mem_nil, false_implies, implies_true, and_true] at hm hb
  simp only [List.findSome?_cons]
  cases htop : setting top with
  | some a => rfl
  | none =>
    rw [hm htop]
    cases hmiddle : setting middle with
    | some a => rfl
    | none => rw [hb ⟨htop, hmiddle⟩]

theorem layered_sameBelow {top middle middle' bottom bottom' : Settings}
    (hm : SameBelow [top] middle middle') (hb : SameBelow [top, middle] bottom bottom') :
    layered [top, middle', bottom'] = layered [top, middle, bottom] := by
  unfold layered
  rw [findSome?_sameBelow hm.endpoint hb.endpoint,
    findSome?_sameBelow hm.maxConcurrency hb.maxConcurrency,
    findSome?_sameBelow hm.timeout hb.timeout, findSome?_sameBelow hm.token hb.token]

/-- A configuration is loaded just when each source that is there can be read and the values that
result can be used. These are for each setting the first that is there of the caller's own, the
environment's, the file's and the default; the client takes the same endpoint. Of several faults the
first in order is reported. What a layer says of a setting that a layer above it has does not matter,
as long as it can be read. -/
theorem load_layers (files : String → Option FileContent) (path : Option String)
    (defaultPath : String) (env : Environment) (overrides : Settings) :
    let config := layered [overrides, environmentLayer env, fileLayer files path defaultPath]
    ((∃ c, load files path defaultPath env overrides = .ok c) ↔
      Readable files path defaultPath env ∧ Usable config) ∧
    (∀ c, load files path defaultPath env overrides = .ok c → c = config ∧
      (overrides.token = none →
        c.token = (env Environment.tokenName).or (fileLayer files path defaultPath).token) ∧
      ∃ client, c.client = .ok client ∧ Url.parse c.endpoint = .ok client.baseUrl) ∧
    (∀ e, load files path defaultPath env overrides = .error e ↔
      (faults files path defaultPath env overrides).findSome? id = some e) ∧
    ∀ (files' : String → Option FileContent) (env' : Environment),
      Readable files path defaultPath env → Readable files' path defaultPath env' →
      SameBelow [overrides] (environmentLayer env) (environmentLayer env') →
      SameBelow [overrides, environmentLayer env] (fileLayer files path defaultPath)
        (fileLayer files' path defaultPath) →
      load files' path defaultPath env' overrides = load files path defaultPath env overrides := by
  intro config
  refine ⟨?_, ?_, ?_, ?_⟩
  · constructor
    · rintro ⟨c, hc⟩
      obtain ⟨rfl, hreadable, husable⟩ := load_ok hc
      exact ⟨hreadable, husable⟩
    · intro h
      exact ⟨config, by rw [load_eq, faults_none.mpr h]; rfl⟩
  · intro c hc
    obtain ⟨heq, _, husable⟩ := load_ok hc
    obtain ⟨client, hclient, hurl, _⟩ := husable.client
    exact ⟨heq, fun hnone => heq ▸ layered_token hnone, client, hclient, hurl⟩
  · intro e
    rw [load_eq]
    cases (faults files path defaultPath env overrides).findSome? id with
    | none => exact ⟨nofun, nofun⟩
    | some x => simp
  · intro files' env' h h' henv hfile
    have hsame : resolved files' path defaultPath env' overrides =
        resolved files path defaultPath env overrides := layered_sameBelow henv hfile
    rw [load_eq, load_eq, h.faults_eq, h'.faults_eq, hsame]

theorem settingsOfFile_ofString {settings : Settings} {text : String} (path : String)
    (h : (Toml.read text).bind settingsOf? = some settings) :
    settingsOfFile path (Text.Utf8.ofString text) = .ok settings := by
  rw [settingsOfFile, Text.Utf8.toString?_ofString]
  dsimp only
  rw [h]

/-- One file, at a path. -/
def oneFile (path text : String) : String → Option FileContent :=
  fun p => if p = path then some (.ok (Text.Utf8.ofString text)) else none

/-- The endpoint of the environment and the timeout of the file could not be used, but each is
superseded. A file that is asked for and is not there is reported before all else, and so is a file
at the default path that is there and cannot be read. -/
theorem load_layers_superseded :
    let files := oneFile "/c" "[query]\nmax_concurrency = 3\n"
    let files' := oneFile "/c" "[query]\nmax_concurrency = 3\ntimeout_secs = 0\n"
    let env : Environment := fun name => [("PROM_QUERY_TIMEOUT_SECS", " 30 ")].lookup name
    let env' : Environment := fun name =>
      [("PROM_QUERY_TIMEOUT_SECS", " 30 "), ("PROMETHEUS_SERVER_ENDPOINT", "ftp://b")].lookup name
    let overrides : Settings := { Settings.none with endpoint := some "http://[::1]" }
    let blocked : String → Option FileContent := fun _ => some (.error "Is a directory (os error 21)")
    load files none "/c" env overrides = .ok ⟨"http://[::1]", 3, .ofSeconds 30, none⟩ ∧
      load files' none "/c" env' overrides = load files none "/c" env overrides ∧
      load files (some "/d") "/c" (fun _ => some "") overrides = .error (.missingFile "/d") ∧
      load blocked none "/c" (fun _ => some "") overrides =
        .error (.notText ⟨"/c", .refused "Is a directory (os error 21)"⟩) := by
  intro files files' env env' overrides blocked
  have hfile : fileSettings files none "/c" = .ok ⟨none, none, some 3, none⟩ :=
    settingsOfFile_ofString "/c" (by decide +kernel)
  have hfile' : fileSettings files' none "/c" = .ok ⟨none, none, some 3, some (.ofSeconds 0)⟩ :=
    settingsOfFile_ofString "/c" (by decide +kernel)
  have h : Readable files none "/c" env := readable_of_ok hfile rfl rfl
  have h' : Readable files' none "/c" env' := readable_of_ok hfile' rfl rfl
  obtain ⟨hloads, hvalue, _, hsame⟩ := load_layers files none "/c" env overrides
  have hlayer : fileLayer files none "/c" = ⟨none, none, some 3, none⟩ := by
    rw [fileLayer, hfile]; rfl
  have hlayer' : fileLayer files' none "/c" = ⟨none, none, some 3, some (.ofSeconds 0)⟩ := by
    rw [fileLayer, hfile']; rfl
  rw [hlayer] at hloads hvalue hsame
  have hurl : Url.parse "http://[::1]" = .ok ⟨"http",
      some ⟨"", none, .ipv6 [0, 0, 0, 0, 0, 0, 0, 1], none⟩, .segments [""], none, none⟩ := rfl
  obtain ⟨c, hc⟩ := hloads.mpr ⟨h, by decide, by decide, _, hurl, .inl rfl⟩
  obtain ⟨rfl, _⟩ := hvalue c hc
  have htop : ¬∀ top ∈ [overrides], top.endpoint = none := by
    intro hnone
    cases hnone overrides (by simp)
  have htimeout : ¬∀ top ∈ [overrides, environmentLayer env], top.timeout = none := by
    intro hnone
    cases hnone (environmentLayer env) (by simp)
  obtain ⟨_, _, hmissing, _⟩ := load_layers files (some "/d") "/c" (fun _ => some "") overrides
  obtain ⟨_, _, hblocked, _⟩ := load_layers blocked none "/c" (fun _ => some "") overrides
  refine ⟨hc, ?_, (hmissing _).mpr rfl, (hblocked _).mpr rfl⟩
  refine hsame files' env' h h' ⟨(absurd · htop), fun _ => rfl, fun _ => rfl, fun _ => rfl⟩ ?_
  rw [hlayer']
  exact ⟨fun _ => rfl, fun _ => rfl, (absurd · htimeout), fun _ => rfl⟩

end MetricBatch.Config
