import MetricBatch.Proofs.Json.Strings
import MetricBatch.Proofs.Results.Checks
import MetricBatch.Proofs.Text.Blank
import MetricBatch.Session.Outcome

namespace MetricBatch.Outcome

open Text

variable {body : List UInt8} {detail : String}

/-- The body is a JSON object with a message about the error. -/
def HasMessage (body : List UInt8) (message : String) : Prop :=
  ∃ members : Dictionary Json.Value, Json.read body = .ok (.object members) ∧
    members.get? "error" = some (.string message)

/-- What may be quoted of a body. Bytes that are not text are read with replacement characters. -/
inductive Quotes (body : List UInt8) : String → Prop where
  /-- The whole message. -/
  | message {message : String} (h : HasMessage body message) : Quotes body message
  /-- The first characters of the text, all of them if they are not too many. -/
  | text {text : List Char} (h : ∀ message, ¬HasMessage body message)
    (ht : Trimmed (Utf8.lossy body) text) (hne : text ≠ []) :
    Quotes body (String.ofList (text.take maxDetail))
  | blank (h : ∀ message, ¬HasMessage body message)
    (hb : ∀ c ∈ Utf8.lossy body, isBlank c = true) : Quotes body "empty response body"

theorem HasMessage.unique {message message' : String} (h : HasMessage body message)
    (h' : HasMessage body message') : message = message' := by
  obtain ⟨members, hread, hmessage⟩ := h
  obtain ⟨members', hread', hmessage'⟩ := h'
  rw [hread] at hread'
  cases hread'
  rw [hmessage] at hmessage'
  cases hmessage'
  rfl

/-- The message that a body has, if any. -/
def message? (body : List UInt8) : Option String :=
  match Json.read body with
  | .ok v => (v.member? "error").bind Json.Value.string?
  | .error _ => none

theorem errorDetail_eq (body : List UInt8) : errorDetail body =
    match message? body with
    | some message => message
    | none =>
      let text := trim (Utf8.lossy body)
      if text.isEmpty then "empty response body" else String.ofList (text.take maxDetail) := rfl

theorem message?_eq_some {message : String} :
    message? body = some message ↔ HasMessage body message := by
  unfold message? HasMessage
  cases Json.read body with
  | error e => simp
  | ok v =>
    simp only [Json.Value.member?, Option.bind_eq_some_iff, Response.object?_eq_some,
      Response.string?_eq_some, Except.ok.injEq]
    constructor
    · rintro ⟨_, ⟨members, rfl, hmember⟩, rfl⟩
      exact ⟨members, rfl, hmember⟩
    · rintro ⟨members, rfl, hmember⟩
      exact ⟨_, ⟨members, rfl, hmember⟩, rfl⟩

theorem quotes_errorDetail (body : List UInt8) : Quotes body (errorDetail body) := by
  rw [errorDetail_eq]
  cases hm : message? body with
  | some message => exact .message (message?_eq_some.mp hm)
  | none =>
    have hnone (message : String) : ¬HasMessage body message := by
      rw [← message?_eq_some, hm]
      nofun
    have htrimmed := trimmed_trim (Utf8.lossy body)
    dsimp only
    split
    · rename_i hempty
      obtain ⟨left, right, hparts, hleft, hright⟩ := htrimmed.parts
      rw [List.isEmpty_iff.mp hempty, List.append_nil] at hparts
      refine .blank hnone fun c hc => ?_
      rw [hparts] at hc
      exact (List.mem_append.mp hc).elim (hleft c) (hright c)
    · rename_i hempty
      exact .text hnone htrimmed (by simpa using hempty)

theorem Quotes.length_le_iff (h : Quotes body detail) :
    detail.length ≤ maxDetail ↔
      ∀ message, HasMessage body message → message.length ≤ maxDetail := by
  cases h with
  | message hm =>
    exact ⟨fun hle _ hm' => hm.unique hm' ▸ hle, fun hall => hall detail hm⟩
  | text hnone _ _ =>
    refine ⟨fun _ message hm => absurd hm (hnone message), fun _ => ?_⟩
    rw [String.length_ofList]
    exact List.length_take_le ..
  | blank hnone _ =>
    exact ⟨fun _ message hm => absurd hm (hnone message), fun _ => by decide⟩

theorem Quotes.starts (h : Quotes body detail) :
    HasMessage body detail ∨
      (∃ text, Trimmed (Utf8.lossy body) text ∧ detail.toList <+: text) ∨
      detail = "empty response body" := by
  cases h with
  | message hm => exact .inl hm
  | text _ ht _ =>
    refine .inr (.inl ⟨_, ht, ?_⟩)
    rw [String.toList_ofList]
    exact List.take_prefix ..
  | blank _ _ => exact .inr (.inr rfl)

/-- Of every body that comes with a bad status the error quotes the message that it has, else the
start of its text up to a whole character, else a fixed text. A text that is too long is cut and a
message is not, so that the quotation is too long just if there is a message that is. -/
theorem detail_quoted (query : String) {r : Backend.Response}
    (h : Backend.isSuccess r.status = false) :
    ofResponse query r = .failed (.transport query (some r.status)
      s!"backend returned {Backend.statusText r.status}: {errorDetail r.body}") ∧
    Quotes r.body (errorDetail r.body) ∧
    (HasMessage r.body (errorDetail r.body) ∨
      (∃ text, Trimmed (Utf8.lossy r.body) text ∧ (errorDetail r.body).toList <+: text) ∨
      errorDetail r.body = "empty response body") ∧
    ((errorDetail r.body).length ≤ maxDetail ↔
      ∀ message, HasMessage r.body message → message.length ≤ maxDetail) := by
  have hquotes := quotes_errorDetail r.body
  refine ⟨?_, hquotes, hquotes.starts, hquotes.length_le_iff⟩
  rw [ofResponse, h]
  rfl

/-- A body with a byte that is not text, in blanks, and with more characters than are quoted. -/
def garbled : List UInt8 := [0x20, 0xFF] ++ List.replicate 300 0x78 ++ [0x0A]

theorem detail_quoted_garbled :
    Backend.isSuccess 502 = false ∧
      ofResponse "up" ⟨502, garbled⟩ = .failed (.transport "up" (some 502)
        ("backend returned 502 Bad Gateway: " ++
          String.ofList ('\uFFFD' :: List.replicate 255 'x'))) ∧
      (errorDetail garbled).length ≤ maxDetail := by
  have hstatus : Backend.isSuccess 502 = false := rfl
  obtain ⟨hfailed, -, -, hlength⟩ := detail_quoted "up" (r := ⟨502, garbled⟩) hstatus
  have hdetail : errorDetail garbled = String.ofList ('\uFFFD' :: List.replicate 255 'x') := by
    decide +kernel
  refine ⟨hstatus, ?_, ?_⟩
  · rw [hfailed, hdetail]
    rfl
  · refine hlength.mpr fun message hm => ?_
    rw [← message?_eq_some] at hm
    have hnone : message? garbled = none := by decide +kernel
    rw [hnone] at hm
    cases hm

/-- A JSON object with a message about the error. -/
def messageBody (message : String) : List UInt8 := 0x7B :: Json.pairBytes "error" message

theorem errorDetail_messageBody {message : String}
    (h : ∀ b ∈ Utf8.ofString message, Json.IsPlain b) :
    errorDetail (messageBody message) = message := by
  have hkey : ∀ b ∈ Utf8.ofString "error", Json.IsPlain b := by decide +kernel
  have hmessage : HasMessage (messageBody message) message :=
    ⟨_, Json.read_pairBytes hkey h, rfl⟩
  rw [errorDetail_eq, message?_eq_some.mpr hmessage]

/-- A message of 257 characters is quoted whole. -/
theorem message_overlong :
    let message := String.ofList (List.replicate 257 'x')
    maxDetail < (errorDetail (messageBody message)).length ∧
      ofResponse "up" ⟨500, messageBody message⟩ = .failed (.transport "up" (some 500)
        ("backend returned 500 Internal Server Error: " ++ message)) := by
  intro message
  have hplain : ∀ b ∈ Utf8.ofString message, Json.IsPlain b := by
    intro b hb
    obtain ⟨c, hc, hb⟩ := List.mem_flatMap.mp hb
    rw [String.toList_ofList] at hc
    obtain rfl := List.eq_of_mem_replicate hc
    obtain rfl := List.mem_singleton.mp hb
    decide
  have hdetail := errorDetail_messageBody hplain
  refine ⟨?_, ?_⟩
  · rw [hdetail, String.length_ofList, List.length_replicate]
    decide
  · change Outcome.failed (.transport "up" (some 500)
      s!"backend returned {Backend.statusText 500}: {errorDetail (messageBody message)}") = _
    rw [hdetail]
    rfl

end MetricBatch.Outcome
