import MetricBatch.CommandLine.Program
import MetricBatch.Proofs.Backend.Credentials
import MetricBatch.Proofs.Session.Alike

namespace MetricBatch

open Backend

variable {c c' : Client} {network : Message → Delivery} {delay? : Message → Option Nat}

/-- One failure, as it is reported with either client. -/
inductive SameFailure (c c' : Client) (network : Message → Delivery) :
    QueryError → QueryError → Prop where
  | same (error : QueryError) : SameFailure c c' network error error
  /-- Each client names a request that was not sent by its own URL. -/
  | unsent (q : Query) (reason : String)
    (h : c.execute network (q.request c.url) = .error (c.unsent q reason))
    (h' : c'.execute network (q.request c'.url) = .error (c'.unsent q reason)) :
    SameFailure c c' network (.transport q.text none (c.unsent q reason).message)
      (.transport q.text none (c'.unsent q reason).message)

/-- Every request is sent. -/
def Client.Sends (c : Client) (network : Message → Delivery) : Prop :=
  ∀ (q : Query) (reason : String),
    c.execute network (q.request c.url) ≠ .error (c.unsent q reason)

theorem SameFailure.eq {error error' : QueryError} (h : SameFailure c c' network error error')
    (hs : c.Sends network) : error' = error := by
  cases h with
  | same => rfl
  | unsent q reason h => exact absurd h (hs q reason)

theorem SameFailure.all_eq {errors errors' : List QueryError}
    (h : List.Forall₂ (SameFailure c c' network) errors errors') (hs : c.Sends network) :
    errors' = errors := by
  induction h with
  | nil => rfl
  | cons hhead _ ih => rw [hhead.eq hs, ih]

theorem SameFailure.isEmpty_eq {errors errors' : List QueryError}
    (h : List.Forall₂ (SameFailure c c' network) errors errors') :
    errors'.isEmpty = errors.isEmpty := by
  cases h <;> rfl

/-- In time the replies are the same as well. -/
theorem Setup.ofSlowClient_alike (h : c'.bare = c.bare) (hd : Impartial delay?)
    (hn : Impartial network) (timeout : Span) :
    Setup.Alike (SameFailure c c' network) (.ofSlowClient c timeout delay? network)
      (.ofSlowClient c' timeout delay? network) := by
  refine ⟨.same, rfl, fun q => ?_⟩
  simp only [Setup.reply, Setup.ofSlowClient, Setup.ofClient, Client.message_impartial hd h]
  cases delay? (c.message (q.request c.url)) with
  | none => exact .same _
  | some delay =>
    rcases Client.execute_alike h hn q with heq | ⟨reason, hsend, hsend'⟩
    · rw [heq]
      exact .same _
    · have hfailed := SameFailure.unsent q reason hsend hsend'
      rw [hsend, hsend']
      exact .failed delay hfailed

/-- A client whose answers take no time. -/
theorem Setup.ofSlowClient_zero (c : Client) (timeout : Span) (network : Message → Delivery) :
    Setup.ofSlowClient c timeout (fun _ => some 0) network = .ofClient c timeout network := rfl

namespace CommandLine

/-- The program ends the same way and prints the same results. -/
theorem runQueries_alike (h : c'.bare = c.bare) (w : Surroundings) (hn : Impartial w.network)
    (a : Arguments) {config config' : Config} (htimeout : config'.timeout = config.timeout)
    (hmax : config'.maxConcurrency = config.maxConcurrency) (range : Option QueryRange) :
    (runQueries w a config' c' range).exit = (runQueries w a config c range).exit ∧
      (runQueries w a config' c' range).output = (runQueries w a config c range).output ∧
      ∃ errors errors', List.Forall₂ (SameFailure c c' w.network) errors errors' ∧
        (runQueries w a config c range).errors = errorLines errors a.queries.length ∧
        (runQueries w a config' c' range).errors = errorLines errors' a.queries.length := by
  have hzero : Impartial fun _ : Message => some 0 := fun _ _ => rfl
  have hs := Setup.ofSlowClient_alike h hzero hn config.timeout
  rw [Setup.ofSlowClient_zero, Setup.ofSlowClient_zero] at hs
  obtain ⟨hsession, hresults⟩ := Session.alike_batch hs config.maxConcurrency
    (a.queries.map fun text => Query.mk text range)
  unfold runQueries
  rw [htimeout, hmax]
  refine ⟨?_, congrArg (documents a.pretty) hresults, _, _, hsession.entries, rfl, rfl⟩
  exact congrArg (fun none => if none then 0 else 1) (SameFailure.isEmpty_eq hsession.entries)

/-- Two clients of one backend whose URLs differ in nothing but the credentials, and a network that
treats them alike. What their sessions come to and what the program does with them is the same, and
so is each failure, but for a request that was not sent: then the error has the credentials of the
client's URL in it. -/
theorem credentials_shown_unsent (h : c'.bare = c.bare) (hn : Impartial network)
    (hd : Impartial delay?) :
    (∀ (q : Query) (method url reason : String),
      c.execute network (q.request c.url) = .error (.send method url reason) →
        ∃ before after, url = before ++ c.baseUrl.credentials ++ after ∧
          (q.request c.bare.url).url.text = before ++ after ∧
          c'.execute network (q.request c'.url) =
            .error (.send method (before ++ c'.baseUrl.credentials ++ after) reason)) ∧
    (∀ (timeout : Span) (maxConcurrency : Nat) (moves : List Session.Move),
      let s := Session.after (.ofSlowClient c timeout delay? network) maxConcurrency moves
      let s' := Session.after (.ofSlowClient c' timeout delay? network) maxConcurrency moves
      List.Forall₂ (SameFailure c c' network) s.errors.entries s'.errors.entries ∧
        (c.Sends network → s'.errors = s.errors) ∧ ∀ i, (s'.take i).2 = (s.take i).2) ∧
    ∀ (w : Surroundings) (a : Arguments) (config config' : Config) (range : Option QueryRange),
      w.network = network → config'.timeout = config.timeout →
      config'.maxConcurrency = config.maxConcurrency →
      let report := runQueries w a config c range
      let report' := runQueries w a config' c' range
      report'.exit = report.exit ∧ report'.output = report.output ∧
        (∃ errors errors', List.Forall₂ (SameFailure c c' network) errors errors' ∧
          report.errors = errorLines errors a.queries.length ∧
          report'.errors = errorLines errors' a.queries.length) ∧
        (c.Sends network → report' = report) := by
  refine ⟨?_, ?_, ?_⟩
  · intro q method url reason hsend
    have hunsent := Client.execute_send hsend
    rw [Client.unsent, ClientError.send.injEq] at hunsent
    obtain ⟨rfl, rfl, -⟩ := hunsent
    obtain ⟨before, after, htext⟩ := c.request_text q
    refine ⟨before, after, htext c rfl, ?_, ?_⟩
    · rw [htext c.bare c.bare_bare, c.bare_credentials, String.append_empty]
    · rw [Client.execute_send_alike h hn hsend, Client.unsent, htext c' h]
  · intro timeout maxConcurrency moves s s'
    have hs : Setup.Alike (SameFailure c c' network) (.ofSlowClient c timeout delay? network)
        (.ofSlowClient c' timeout delay? network) := Setup.ofSlowClient_alike h hd hn timeout
    have halike := Session.alike_after hs maxConcurrency moves
    refine ⟨halike.entries, fun hsent => ?_, fun i => (halike.take i).2⟩
    exact congrArg ErrorLog.mk (SameFailure.all_eq halike.entries hsent)
  · rintro w a config config' range rfl htimeout hmax report report'
    obtain ⟨hexit, houtput, errors, errors', hsame, he, he'⟩ :=
      runQueries_alike h w hn a htimeout hmax range
    refine ⟨hexit, houtput, ⟨errors, errors', hsame, he, he'⟩, fun hsent => ?_⟩
    rw [SameFailure.all_eq hsame hsent, ← he] at he'
    exact (Report.mk.injEq ..).mpr ⟨hexit, houtput, he'⟩

/-- The client of a backend on the same machine. -/
def loopback (user : String) (password : Option String) : Client :=
  ⟨⟨"http", some ⟨user, password, .ipv6 [0, 0, 0, 0, 0, 0, 0, 1], none⟩, .segments [""], none,
    none⟩, none⟩

/-- Nobody answers, and there is neither environment nor file. -/
def deserted : Surroundings :=
  ⟨fun _ => none, fun _ => none, "", ⟨0, 0, by decide⟩, fun _ => .unanswered⟩

def oneQuery : Arguments := { Arguments.none with queries := ["up"] }

/-- Nobody answers either of two users. Each request is named with its own URL, and all else that a
session and the program tell of them is the same. -/
theorem credentials_shown_unsent_deserted :
    let c := loopback "u" (some "p")
    let c' := loopback "someone" none
    let q : Query := ⟨"up", none⟩
    let moves : List Session.Move := [.submit q, .pass 2, .poll 0, .pass 5, .poll 0]
    let s := Session.after (.ofSlowClient c (.ofSeconds 1) (fun _ => some 5) deserted.network) 1 moves
    let s' :=
      Session.after (.ofSlowClient c' (.ofSeconds 1) (fun _ => some 5) deserted.network) 1 moves
    (∃ before after reason,
      c.execute deserted.network (q.request c.url) =
        .error (.send "POST" (before ++ "u:p@" ++ after) reason) ∧
      c'.execute deserted.network (q.request c'.url) =
        .error (.send "POST" (before ++ "someone@" ++ after) reason)) ∧
    List.Forall₂ (SameFailure c c' deserted.network) s.errors.entries s'.errors.entries ∧
    (s'.take 0).2 = (s.take 0).2 ∧
    (runQueries deserted oneQuery .default c' none).exit =
      (runQueries deserted oneQuery .default c none).exit := by
  intro c c' q moves
  have hbare : c'.bare = c.bare := rfl
  have hnetwork : Impartial deserted.network := fun _ _ => rfl
  have hdelay : Impartial fun _ : Message => some 5 := fun _ _ => rfl
  obtain ⟨hsend, hsession, hrun⟩ := credentials_shown_unsent hbare hnetwork hdelay
  have hunsent : c.execute deserted.network (q.request c.url) = .error (c.unsent q _) := rfl
  obtain ⟨before, after, hurl, _, hother⟩ := hsend q "POST" _ _ hunsent
  obtain ⟨hsame, _, htake⟩ := hsession (.ofSeconds 1) 1 moves
  have hshown : c.baseUrl.credentials = "u:p@" := rfl
  have hshown' : c'.baseUrl.credentials = "someone@" := rfl
  rw [Client.unsent, hurl, hshown] at hunsent
  rw [hshown'] at hother
  exact ⟨⟨before, after, _, hunsent, hother⟩, hsame, htake 0,
    (hrun deserted oneQuery .default .default none rfl rfl rfl).1⟩

/-- The error of an unsent request shows the credentials of an endpoint, and with it the errors of a
session and what the program prints. -/
theorem credentials_reported :
    let c := loopback "u" (some "p")
    let c' := loopback "" none
    let q : Query := ⟨"up", none⟩
    Client.ofEndpoint "http://u:p@[::1]/" = .ok c ∧ Client.ofEndpoint "http://[::1]/" = .ok c' ∧
      c'.bare = c.bare ∧ Impartial deserted.network ∧
      c.execute deserted.network (q.request c.url) =
        .error (.send "POST" "http://u:p@[::1]/api/v1/query?query=up"
          "error sending request for url (http://[::1]/api/v1/query?query=up)") ∧
      (Session.batch (.ofClient c (.ofSeconds 1) deserted.network) 1 [q]).1.errors ≠
        (Session.batch (.ofClient c' (.ofSeconds 1) deserted.network) 1 [q]).1.errors ∧
      (runQueries deserted oneQuery .default c none).errors ≠
        (runQueries deserted oneQuery .default c' none).errors :=
  ⟨rfl, rfl, rfl, fun _ _ => rfl, by decide +kernel, by decide +kernel, by decide +kernel⟩

end CommandLine

end MetricBatch
