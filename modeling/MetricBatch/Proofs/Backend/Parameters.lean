import MetricBatch.Backend.Client
import MetricBatch.Proofs.Url.Form

namespace MetricBatch

namespace Url

theorem parameters_withParameters (u : Url) (pairs : List (String × String)) :
    (u.withParameters pairs).parameters = pairs :=
  Form.decode_encode pairs

/-- To take the parameters away leaves the URL that they were put on. -/
theorem withParameters_withoutQuery {u : Url} (h : u.query = none) (pairs : List (String × String)) :
    { u.withParameters pairs with query := none } = u := by
  cases u
  cases h
  rfl

/-- The parameters stand at one place in the text of a URL, and the rest of the text does not depend
on them. -/
theorem text_withParameters (u : Url) : ∃ before after, ∀ pairs : List (String × String),
    (u.withParameters pairs).text = before ++ ("?" ++ Form.encode pairs) ++ after := by
  let authority := (u.authority.map fun a => "//" ++ a.text).getD ""
  exact ⟨s!"{u.scheme}:{authority}{u.path.text}", (u.fragment.map ("#" ++ ·)).getD "",
    fun _ => rfl⟩

/-- URLs that differ in their parameters differ in their texts. -/
theorem withParameters_text_inj {u : Url} {pairs pairs' : List (String × String)} :
    (u.withParameters pairs).text = (u.withParameters pairs').text ↔ pairs = pairs' := by
  obtain ⟨before, after, htext⟩ := u.text_withParameters
  rw [htext, htext, String.append_left_inj, String.append_right_inj, String.append_right_inj]
  constructor
  · intro h
    have hdecoded := congrArg Form.decode h
    rwa [Form.decode_encode, Form.decode_encode] at hdecoded
  · exact congrArg Form.encode

end Url

namespace Query

variable {q q' : Query}

theorem parameters_names (q : Query) : q.parameters.map (·.1) =
    if q.range.isSome then ["query", "start", "end", "step"] else ["query"] := by
  unfold parameters
  cases q.range <;> rfl

theorem text_of_parameters (h : q.parameters = q'.parameters) : q.text = q'.text := by
  have hfirst := (List.cons.inj h).1
  exact (Prod.mk.inj hfirst).2

end Query

namespace Backend

/-- The request for a query, whatever the URL of the backend and the text of the query are. Its
parameters are the text and what tells the range, just as they were; the text is in no other part of
the URL, and of the query of the backend's own URL nothing is left. So the URLs of two requests of one
kind are equal only if the texts of their queries are. -/
theorem query_survives (c : Client) (q : Query) :
    let r := q.request c.url
    r.method = "POST" ∧
    r.url.parameters = q.parameters ∧
    r.url.parameters.map (·.1) =
      (if q.range.isSome then ["query", "start", "end", "step"] else ["query"]) ∧
    r.url.parameter? "query" = some q.text ∧
    (∀ ch ∈ (r.url.query.getD "").toList, Url.Form.isQueryChar ch = true) ∧
    { r.url with query := none } = c.url q.path ∧
    (∀ query, q.request { c with baseUrl := { c.baseUrl with query } }.url = r) ∧
    ∀ q' : Query, q'.range.isSome = q.range.isSome →
      (q'.request c.url).url.text = r.url.text → q'.text = q.text := by
  intro r
  have hparameters : r.url.parameters = q.parameters := Url.parameters_withParameters ..
  have hquery : r.url.query = some (Url.Form.encode q.parameters) := rfl
  refine ⟨rfl, hparameters, ?_, ?_, ?_, Url.withParameters_withoutQuery rfl _, fun _ => rfl, ?_⟩
  · rw [hparameters, q.parameters_names]
  · rw [Url.parameter?, hparameters]
    rfl
  · rw [hquery, Option.getD_some]
    exact Url.Form.encode_chars q.parameters
  · intro q' hkind htext
    have hpath : q'.path = q.path := by rw [Query.path, Query.path, hkind]
    rw [Query.request, Request.post, hpath] at htext
    exact Query.text_of_parameters (Url.withParameters_text_inj.mp htext)

/-- A query with all kinds of reserved characters comes back, from a URL that had a query of its own,
and its URL is not the one of the same text with a blank in place of a plus sign. -/
theorem query_survives_reserved :
    let c : Client := ⟨⟨"http", some ⟨"u", none, .ipv6 [0, 0, 0, 0, 0, 0, 0, 1], none⟩,
      .segments ["x", ""], some "query=up", some "f"⟩, none⟩
    let q : Query := ⟨"a&query=b+%26#é\n", none⟩
    let q' : Query := ⟨"a&query=b %26#é\n", none⟩
    Client.ofEndpoint "http://u@[::1]/x/?query=up#f" = .ok c ∧
      (q.request c.url).url.parameters = [("query", "a&query=b+%26#é\n")] ∧
      (q'.request c.url).url.text ≠ (q.request c.url).url.text := by
  intro c q q'
  obtain ⟨_, hparameters, _, _, _, _, _, hinj⟩ := query_survives c q
  exact ⟨rfl, hparameters, fun htext => absurd (hinj q' rfl htext) (by decide)⟩

end Backend

end MetricBatch
