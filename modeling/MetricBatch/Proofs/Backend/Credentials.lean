import MetricBatch.Session.Network

namespace MetricBatch

namespace Url

/-- User name and password as they stand in the text of a URL. -/
def credentials (u : Url) : String := (u.authority.map Authority.credentials).getD ""

/-- The credentials stand at one place in the text of a URL, and the rest of the text does not depend
on them. -/
theorem text_credentials (u : Url) : ∃ before after, ∀ v : Url,
    v.withoutCredentials = u.withoutCredentials → v.text = before ++ v.credentials ++ after := by
  have hstring (s : String) : toString s = s := rfl
  let tail := u.path.text ++ (u.query.map ("?" ++ ·)).getD "" ++ (u.fragment.map ("#" ++ ·)).getD ""
  cases hu : u.authority with
  | none =>
    refine ⟨u.scheme ++ ":", tail, fun v hv => ?_⟩
    obtain ⟨hscheme, hauthority, hpath, hquery, hfragment⟩ := (mk.injEq ..).mp hv
    have hnone : v.authority = none := by
      rwa [hu, Option.map_none, Option.map_eq_none_iff] at hauthority
    simp [text, credentials, hscheme, hnone, hpath, hquery, hfragment, tail, hstring,
      String.append_assoc]
  | some a =>
    let port := (a.port.map fun n => s!":{n}").getD ""
    refine ⟨u.scheme ++ (":" ++ "//"), a.host.text ++ port ++ tail, fun v hv => ?_⟩
    obtain ⟨hscheme, hauthority, hpath, hquery, hfragment⟩ := (mk.injEq ..).mp hv
    rw [hu, Option.map_some, Option.map_eq_some_iff] at hauthority
    obtain ⟨authority, hv, hsame⟩ := hauthority
    obtain ⟨-, -, hhost, hport⟩ := (Authority.mk.injEq ..).mp hsame
    simp [text, credentials, hscheme, hv, hpath, hquery, hfragment, tail, port, Authority.text,
      hhost, hport, hstring, String.append_assoc, -String.reduceAppend]

section Parts

variable (u : Url) (path : String) (pairs : List (String × String)) (query : Option String)

theorem withoutCredentials_withPath :
    (u.withPath path).withoutCredentials = u.withoutCredentials.withPath path := rfl

theorem withoutCredentials_withQuery :
    { u with query }.withoutCredentials = { u.withoutCredentials with query } := rfl

theorem withoutCredentials_withParameters :
    (u.withParameters pairs).withoutCredentials = u.withoutCredentials.withParameters pairs := rfl

theorem credentials_withPath : (u.withPath path).credentials = u.credentials := rfl

theorem credentials_withQuery : { u with query }.credentials = u.credentials := rfl

theorem credentials_withParameters : (u.withParameters pairs).credentials = u.credentials := rfl

end Parts

end Url

namespace Backend

/-- It makes no difference to a network how a request is authorized. -/
def Impartial {α : Type} (f : Message → α) : Prop :=
  ∀ (m : Message) (authorization : List Authorization), f { m with authorization } = f m

end Backend

namespace Client

open Backend

variable {c c' : Client} {network : Message → Delivery}

/-- The client of the same backend whose URL has no credentials. -/
def bare (c : Client) : Client := { c with baseUrl := c.baseUrl.withoutCredentials }

theorem bare_bare (c : Client) : c.bare.bare = c.bare := by
  unfold bare Url.withoutCredentials
  cases c.baseUrl.authority <;> rfl

theorem bare_credentials (c : Client) : c.bare.baseUrl.credentials = "" := by
  unfold bare Url.withoutCredentials Url.credentials
  cases c.baseUrl.authority <;> rfl

theorem url_bare (c : Client) (path : String) :
    (c.url path).withoutCredentials = c.bare.url path := by
  unfold url
  rw [Url.withoutCredentials_withQuery, Url.withoutCredentials_withPath]
  rfl

theorem url_credentials (c : Client) (path : String) :
    (c.url path).credentials = c.baseUrl.credentials := by
  unfold url
  rw [Url.credentials_withQuery, Url.credentials_withPath]

/-- The requests of the two differ in nothing else. -/
theorem request_bare (c : Client) (q : Query) :
    (q.request c.url).url.withoutCredentials = (q.request c.bare.url).url := by
  rw [Query.request, Query.request, Request.post, Request.post, Url.withoutCredentials_withParameters,
    url_bare]

/-- The URLs of all requests have the credentials of the backend's URL. -/
theorem request_credentials (c : Client) (q : Query) :
    (q.request c.url).url.credentials = c.baseUrl.credentials := by
  rw [Query.request, Request.post, Url.credentials_withParameters, url_credentials]

/-- The credentials stand at the same place in the URL of a request, whatever they are. -/
theorem request_text (c : Client) (q : Query) : ∃ before after, ∀ c' : Client,
    c'.bare = c.bare →
      (q.request c'.url).url.text = before ++ c'.baseUrl.credentials ++ after := by
  obtain ⟨before, after, htext⟩ := (q.request c.url).url.text_credentials
  refine ⟨before, after, fun c' h => ?_⟩
  have hbare : (q.request c'.url).url.withoutCredentials =
      (q.request c.url).url.withoutCredentials := by
    rw [request_bare, request_bare, h]
  rw [htext _ hbare, request_credentials]

/-- The error of a client that does not send a request. -/
def unsent (c : Client) (q : Query) (reason : String) : ClientError :=
  .send "POST" (q.request c.url).url.text reason

theorem message_impartial {α : Type} {f : Message → α} (hf : Impartial f) (h : c'.bare = c.bare)
    (q : Query) : f (c'.message (q.request c'.url)) = f (c.message (q.request c.url)) := by
  have hbare : { c'.message (q.request c'.url) with authorization := [] } =
      { c.message (q.request c.url) with authorization := [] } := by
    unfold message
    rw [request_bare, request_bare, h]
    rfl
  rw [← hf (c'.message _) [], ← hf (c.message _) [], hbare]

/-- A request that is not sent is named with its whole URL. -/
theorem execute_send {q : Query} {method url reason : String}
    (h : c.execute network (q.request c.url) = .error (.send method url reason)) :
    ClientError.send method url reason = c.unsent q reason := by
  unfold execute at h
  split at h
  · split at h <;> cases h
    rfl
  · cases h
    rfl

/-- Clients of the same backend get the same, unless neither can send its request: then each of them
tells its own URL. -/
theorem execute_alike (h : c'.bare = c.bare) (hn : Impartial network) (q : Query) :
    c'.execute network (q.request c'.url) = c.execute network (q.request c.url) ∨
      ∃ reason, c.execute network (q.request c.url) = .error (c.unsent q reason) ∧
        c'.execute network (q.request c'.url) = .error (c'.unsent q reason) := by
  have htoken : c'.token = c.token := (congrArg Client.token h :)
  have hreason : (q.request c'.url).url.withoutCredentials.text =
      (q.request c.url).url.withoutCredentials.text := by
    rw [request_bare, request_bare, h]
  unfold execute
  rw [htoken, message_impartial hn h, hreason]
  -- A token that cannot be sent is found out before the network is asked.
  split
  · cases network (c.message (q.request c.url)) with
    | unanswered => exact .inr ⟨_, rfl, rfl⟩
    | cutShort | answered => exact .inl rfl
  · exact .inr ⟨_, rfl, rfl⟩

theorem execute_send_alike (h : c'.bare = c.bare) (hn : Impartial network) {q : Query}
    {method url reason : String}
    (hsend : c.execute network (q.request c.url) = .error (.send method url reason)) :
    c'.execute network (q.request c'.url) = .error (c'.unsent q reason) := by
  rcases execute_alike h hn q with heq | ⟨reason', hunsent, hunsent'⟩
  · rw [hsend] at heq
    rw [heq, execute_send heq]
  · rw [hsend, Except.error.injEq, unsent, ClientError.send.injEq] at hunsent
    rw [hunsent', hunsent.2.2]

end Client

end MetricBatch
