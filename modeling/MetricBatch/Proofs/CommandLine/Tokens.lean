import MetricBatch.CommandLine.Log
import MetricBatch.Proofs.CommandLine.Output
import MetricBatch.Proofs.Config.Tokens

namespace MetricBatch

open Backend

variable {c c' : Client} {network : Message → Delivery} {delay? : Message → Option Nat}

/-- A session has nothing of the token but the replies. -/
theorem Client.Retokened.ofSlowClient (h : c.Retokened c') (hn : Impartial network)
    (hd : Impartial delay?) (timeout : Span) :
    Setup.ofSlowClient c' timeout delay? network = Setup.ofSlowClient c timeout delay? network := by
  have hbackend : (Setup.ofSlowClient c' timeout delay? network).backend =
      (Setup.ofSlowClient c timeout delay? network).backend := by
    funext request
    simp only [Setup.ofSlowClient, Client.message_eq hd c c', h.execute hn]
  exact (Setup.mk.injEq ..).mpr ⟨rfl, h.url, rfl, hbackend⟩

theorem Client.Retokened.ofClient (h : c.Retokened c') (hn : Impartial network)
    (timeout : Span) : Setup.ofClient c' timeout network = Setup.ofClient c timeout network := by
  have hzero : Impartial fun _ : Message => some 0 := fun _ _ => rfl
  exact h.ofSlowClient hn hzero timeout

/-- A session over a network whose answers may depend on all requests before. -/
def Session.over (c : Client) (timeout : Span)
    (delay? : List Request → Message → Option Nat) (network : List Request → Message → Delivery)
    (maxConcurrency : Nat) (moves : List Session.Move) : Session :=
  let setup (requests : List Request) :=
    Setup.ofSlowClient c timeout (delay? requests) (network requests)
  moves.foldl (fun s m => s.move (setup s.requests) m) (.new (setup []) maxConcurrency)

theorem Session.over_after (c : Client) (timeout : Span) (delay? : Message → Option Nat)
    (network : Message → Delivery) (maxConcurrency : Nat) (moves : List Session.Move) :
    Session.over c timeout (fun _ => delay?) (fun _ => network) maxConcurrency moves =
      Session.after (.ofSlowClient c timeout delay? network) maxConcurrency moves := rfl

theorem Client.Retokened.over (h : c.Retokened c') {network : List Request → Message → Delivery}
    {delay? : List Request → Message → Option Nat} (hn : ∀ requests, Impartial (network requests))
    (hd : ∀ requests, Impartial (delay? requests)) (timeout : Span) (maxConcurrency : Nat)
    (moves : List Session.Move) :
    Session.over c' timeout delay? network maxConcurrency moves =
      Session.over c timeout delay? network maxConcurrency moves := by
  unfold Session.over
  simp only [h.ofSlowClient (hn _) (hd _)]

namespace CommandLine

/-- What the program finds on two occasions between which nothing but tokens has been replaced, in
the environment or in files. -/
structure Surroundings.Retokened (w w' : Surroundings) : Prop where
  environment : w.environment.Retokened w'.environment
  files : ∀ path, Config.FileRetokened path (w.files path) (w'.files path)
  defaultConfig : w'.defaultConfig = w.defaultConfig
  now : w'.now = w.now
  network : w'.network = w.network

theorem Arguments.read_retokened {env env' : Environment} (h : env.Retokened env')
    (args : List String) : Arguments.read env' args = Arguments.read env args := by
  have hconfig := h.others configName (by decide)
  unfold Arguments.read Arguments.withEnvironment
  rw [hconfig]

namespace Surroundings.Retokened

variable {w w' : Surroundings}

theorem load (h : w.Retokened w') (path : Option String) (overrides : Settings) :
    Agree Config.Retokened (Config.load w.files path w.defaultConfig w.environment overrides)
      (Config.load w'.files path w'.defaultConfig w'.environment overrides) := by
  rw [h.defaultConfig]
  exact Config.load_retokened h.files h.environment path w.defaultConfig overrides

theorem runQueries_eq (h : w.Retokened w') (hn : Impartial w.network) {config config' : Config}
    (hconfig : config.Retokened config') (hclient : c.Retokened c') (a : Arguments)
    (range : Option QueryRange) :
    runQueries w' a config' c' range = runQueries w a config c range := by
  unfold runQueries
  rw [h.network, hconfig.timeout, hconfig.maxConcurrency, hclient.ofClient hn]

theorem runArguments_eq (h : w.Retokened w') (hn : Impartial w.network) (a : Arguments) :
    runArguments w' a = runArguments w a := by
  unfold runArguments
  refine (h.load a.config a.settings).elim (fun _ => rfl) fun config config' hconfig => ?_
  dsimp only
  refine hconfig.client.elim (fun _ => rfl) fun client client' hclient => ?_
  dsimp only
  rw [h.now]
  cases a.window w.now with
  | error e => rfl
  | ok range => exact h.runQueries_eq hn hconfig hclient a range

theorem run_eq (h : w.Retokened w') (hn : Impartial w.network) (args : List String) :
    run w' args = run w args := by
  unfold run
  rw [Arguments.read_retokened h.environment]
  cases Arguments.read w.environment args with
  | error stop => cases stop <;> rfl
  | ok a => exact h.runArguments_eq hn a

theorem fileNotices_eq (h : w.Retokened w') (a : Arguments) :
    fileNotices w' a = fileNotices w a := by
  unfold fileNotices
  rw [h.defaultConfig, (h.files w.defaultConfig).isNone_eq]

theorem sessionNotices_eq (h : w.Retokened w') (hn : Impartial w.network) {config config' : Config}
    (hconfig : config.Retokened config') (hclient : c.Retokened c') (a : Arguments) :
    sessionNotices w' a config' c' = sessionNotices w a config c := by
  unfold sessionNotices
  rw [h.network, h.now, hconfig.endpoint, hconfig.timeout, hconfig.maxConcurrency,
    hclient.ofClient hn]

theorem notices_eq (h : w.Retokened w') (hn : Impartial w.network) (args : List String) :
    notices w' args = notices w args := by
  unfold notices
  rw [Arguments.read_retokened h.environment]
  cases Arguments.read w.environment args with
  | error stop => rfl
  | ok a =>
    dsimp only
    rw [h.fileNotices_eq]
    refine (h.load a.config a.settings).elim (fun _ => rfl) fun config config' hconfig => ?_
    dsimp only
    rw [hconfig.text]
    refine hconfig.client.elim (fun _ => rfl) fun client client' hclient => ?_
    dsimp only
    rw [h.sessionNotices_eq hn hconfig hclient]

end Surroundings.Retokened

/-- Two tokens in the same places, both of which can stand in a header or neither, and networks that
do not look at how requests are authorized. Configurations and clients show the same and fail in the
same way; whatever happens to a session, it comes to the same results, errors and events; and the
program reports the same and tells its log the same, at every level. -/
theorem token_unseen {network : List Request → Message → Delivery}
    {delay? : List Request → Message → Option Nat} (hn : ∀ requests, Impartial (network requests))
    (hd : ∀ requests, Impartial (delay? requests)) :
    (∀ env env' : Environment, env.Retokened env' →
      env.settings.1.Retokened env'.settings.1 ∧ env'.settings.2 = env.settings.2) ∧
    (∀ config config' : Config, config.Retokened config' →
      config'.text = config.text ∧ config'.validate = config.validate ∧
        Agree Client.Retokened config.client config'.client) ∧
    (∀ c c' : Client, c.Retokened c' →
      c'.text = c.text ∧
        (∀ requests request,
          c'.execute (network requests) request = c.execute (network requests) request) ∧
        ∀ (timeout : Span) (maxConcurrency : Nat) (moves : List Session.Move),
          Session.over c' timeout delay? network maxConcurrency moves =
            Session.over c timeout delay? network maxConcurrency moves) ∧
    ∀ w w' : Surroundings, Impartial w.network → w.Retokened w' →
      (∀ path overrides, Agree Config.Retokened
        (Config.load w.files path w.defaultConfig w.environment overrides)
        (Config.load w'.files path w'.defaultConfig w'.environment overrides)) ∧
      ∀ args, run w' args = run w args ∧
        ∀ level, logLines level w' args = logLines level w args := by
  refine ⟨?_, ?_, ?_, ?_⟩
  · intro env env' h
    exact h.settings
  · intro config config' h
    exact ⟨h.text, h.validate, h.client⟩
  · intro c c' h
    exact ⟨h.text, fun requests => h.execute (hn requests), h.over hn hd⟩
  · intro w w' himpartial h
    refine ⟨h.load, fun args => ⟨h.run_eq himpartial args, fun level => ?_⟩⟩
    unfold logLines
    rw [h.notices_eq himpartial]

/-- A file with nothing but a token in it. -/
def tokenFile (token : String) : String := "[prometheus]\nauth_token = '" ++ token ++ "'\n"

/-- Nobody answers. There may be a token in the environment, and there is one in a file. -/
def guarded (inEnvironment : Option String) (inFile : String) : Surroundings :=
  { silent with
    environment := fun name => if name = Environment.tokenName then inEnvironment else none
    files := Config.oneFile "/c" (tokenFile inFile)
    defaultConfig := "/c" }

/-- The URL `http://[::1]/`. -/
def localhost : Url :=
  ⟨"http", some ⟨"", none, .ipv6 [0, 0, 0, 0, 0, 0, 0, 1], none⟩, .segments [""], none, none⟩

/-- The configuration without a token. -/
def unguarded : Config := { Config.default with endpoint := "http://[::1]" }

section

variable {inEnvironment inEnvironment' : Option String} {inFile inFile' : String}
  (hfile : (Toml.read (tokenFile inFile)).bind Config.settingsOf? =
    some { Settings.none with token := some inFile })
  (hfile' : (Toml.read (tokenFile inFile')).bind Config.settingsOf? =
    some { Settings.none with token := some inFile' })

include hfile

/-- The token of the environment is above that of the file. -/
theorem guarded_load (inEnvironment : Option String) :
    let w := guarded inEnvironment inFile
    Config.load w.files none w.defaultConfig w.environment
      { Settings.none with endpoint := some "http://[::1]" } =
    .ok { unguarded with token := inEnvironment.or (some inFile) } := by
  intro w
  let token := inEnvironment.or (some inFile)
  have hsettings : Config.fileSettings w.files none w.defaultConfig = _ :=
    Config.settingsOfFile_ofString "/c" hfile
  have hvalid : unguarded.validate = .ok () := rfl
  rw [Config.load, hsettings]
  change (do Config.validate { unguarded with token }; return { unguarded with token }) =
    Except.ok { unguarded with token }
  rw [Config.validate_token, hvalid]
  rfl

include hfile'

theorem guarded_retokened (henv : TokensAlike inEnvironment inEnvironment')
    (htoken : TokensAlike (some inFile) (some inFile')) :
    (guarded inEnvironment inFile).Retokened (guarded inEnvironment' inFile') := by
  refine ⟨⟨henv, fun name hname => ?_⟩, fun path => ?_, rfl, rfl, rfl⟩
  · exact (if_neg hname).trans (if_neg hname).symm
  · unfold guarded Config.oneFile
    dsimp only
    by_cases hpath : path = "/c"
    · subst hpath
      exact .retokened (Config.settingsOfFile_ofString "/c" hfile)
        (Config.settingsOfFile_ofString "/c" hfile') ⟨rfl, htoken, rfl, rfl⟩
    · rw [if_neg hpath, if_neg hpath]
      exact .same none

end

/-- One token in the file is replaced by another, and in the environment a token that cannot stand
in a header by another such. The configurations have different tokens and the requests of their
clients differ, but nothing that can be seen does. -/
theorem token_unseen_guarded :
    let args := ["--endpoint", "http://[::1]", "up"]
    let load (w : Surroundings) := Config.load w.files none w.defaultConfig w.environment
      { Settings.none with endpoint := some "http://[::1]" }
    let setup (c : Client) := Setup.ofSlowClient c (.ofSeconds 1) (fun _ => some 5) silent.network
    (∃ config config', load (guarded none "a") = .ok config ∧ config.token = some "a" ∧
      load (guarded none "b") = .ok config' ∧ config'.token = some "b" ∧
      run (guarded none "b") args = run (guarded none "a") args ∧
      logLines .trace (guarded none "b") args = logLines .trace (guarded none "a") args) ∧
    (∃ config config', load (guarded (some "\n") "a") = .ok config ∧ config.token = some "\n" ∧
      load (guarded (some "\x7f") "b") = .ok config' ∧ config'.token = some "\x7f" ∧
      run (guarded (some "\x7f") "b") args = run (guarded (some "\n") "a") args) ∧
    let c : Client := ⟨localhost, some "a"⟩
    let c' : Client := ⟨localhost, some "b"⟩
    c'.message (.post localhost) ≠ c.message (.post localhost) ∧
      ∀ moves, Session.after (setup c') 1 moves = Session.after (setup c) 1 moves := by
  intro args load setup
  have hn : ∀ requests : List Request, Impartial silent.network := fun _ _ _ => rfl
  have hd : ∀ requests : List Request, Impartial fun _ : Message => some 5 := fun _ _ _ => rfl
  obtain ⟨-, -, hclients, hprogram⟩ := token_unseen hn hd
  have hfile : (Toml.read (tokenFile "a")).bind Config.settingsOf? =
      some { Settings.none with token := some "a" } := by decide +kernel
  have hfile' : (Toml.read (tokenFile "b")).bind Config.settingsOf? =
      some { Settings.none with token := some "b" } := by decide +kernel
  refine ⟨⟨_, _, guarded_load hfile none, rfl, guarded_load hfile' none, rfl, ?_⟩,
    ⟨_, _, guarded_load hfile _, rfl, guarded_load hfile' _, rfl, ?_⟩,
    by decide, fun moves => ?_⟩
  · have hw : (guarded none "a").Retokened (guarded none "b") :=
      guarded_retokened hfile hfile' (by decide) (by decide)
    obtain ⟨hrun, hlog⟩ := (hprogram _ _ (fun _ _ => rfl) hw).2 args
    exact ⟨hrun, hlog .trace⟩
  · have hw : (guarded (some "\n") "a").Retokened (guarded (some "\x7f") "b") :=
      guarded_retokened hfile hfile' (by decide) (by decide)
    exact ((hprogram _ _ (fun _ _ => rfl) hw).2 args).1
  · have hc : Client.Retokened ⟨localhost, some "a"⟩ ⟨localhost, some "b"⟩ := ⟨rfl, rfl⟩
    have hover := (hclients _ _ hc).2.2 (.ofSeconds 1) 1 moves
    rwa [Session.over_after, Session.over_after] at hover

end CommandLine

end MetricBatch
