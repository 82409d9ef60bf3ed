import MetricBatch.Proofs.Results.Grammar

namespace MetricBatch.Response

open Json

def lacking {α : Type} (error : ResponseError) (o : Option α) : List ResponseError :=
  if o.isSome then [] else [error]

section

variable (error : ResponseError)

def objectViolations (inside : Dictionary Value → List ResponseError) : Value → List ResponseError
  | .object members => inside members
  | _ => [error]

def arrayViolations (inside : Value → List ResponseError) : Value → List ResponseError
  | .array items => items.flatMap inside
  | _ => [error]

end

def textViolations (path : String) (inside : String → List ResponseError) :
    Value → List ResponseError
  | .string text => inside text
  | _ => [.unexpectedType path "a string"]

def memberViolations (members : Dictionary Value) (path key : String)
    (inside : Value → List ResponseError) : List ResponseError :=
  match members.get? key with
  | none => [.missingField path]
  | some v => inside v

def sampleViolations : Value → List ResponseError
  | .array [time, value] =>
    lacking (.invalidSample s!"timestamp {time.compact} is not a number") time.number? ++
    lacking (.invalidSample s!"value {value.compact} is not numeric")
      (value.string?.bind Binary64.ofText?)
  | v => [.invalidSample v.compact]

def labelViolations (label : String × Value) : List ResponseError :=
  lacking (.unexpectedType "metric" "a map of string labels") label.2.string?

def metricViolations : Option Value → List ResponseError
  | none => []
  | some v => objectViolations (.unexpectedType "metric" "an object") (·.flatMap labelViolations) v

def seriesViolations (key : String) (samplesViolations : Value → List ResponseError) :
    Value → List ResponseError :=
  objectViolations (.unexpectedType "data.result[]" "an object") fun members =>
    metricViolations (members.get? "metric") ++ memberViolations members key key samplesViolations

/-- The violations of an entry of a result; a scalar has no entries. -/
def entryViolations : ResultKind → Value → List ResponseError
  | .vector => seriesViolations "value" sampleViolations
  | .matrix => seriesViolations "values"
    (arrayViolations (.unexpectedType "values" "an array") sampleViolations)
  | .scalar => fun _ => []

def resultViolations : ResultKind → Value → List ResponseError
  | .scalar => sampleViolations
  | kind => arrayViolations (.unexpectedType "data.result" "an array") (entryViolations kind)

def kindViolations (data : Dictionary Value) : List ResponseError :=
  memberViolations data "data.resultType" "resultType" <| textViolations "data.resultType"
    fun name => lacking (.unsupportedResultType name) (ResultKind.ofName? name)

/-- A result of an unknown kind can only be missing. -/
def dataViolations (data : Dictionary Value) : List ResponseError :=
  kindViolations data ++ memberViolations data "data.result" "result" fun result =>
    (kindOf? data).elim [] fun kind => resultViolations kind result

def statusViolations (body : Dictionary Value) : List ResponseError :=
  memberViolations body "status" "status" <| textViolations "status" fun status =>
    if status = "success" then []
    else if status = "error" then
      [.backendError (stringOr body "errorType" "unknown") (stringOr body "error" "")]
    else [.unknownStatus status]

def violations : Value → List ResponseError :=
  objectViolations .notAnObject fun body =>
    statusViolations body ++ memberViolations body "data" "data"
      (objectViolations (.unexpectedType "data" "an object") dataViolations)

/-- A check that succeeds when there are no violations, and otherwise fails with the first. -/
def Reports {α : Type} (check : Check α) (violations : List ResponseError) : Prop :=
  match check with
  | .ok _ => violations = []
  | .error e => violations.head? = some e

namespace Reports

variable {α β : Type} {check : Check α} {violations more : List ResponseError}

theorem error_iff (h : Reports check violations) (e : ResponseError) :
    check = .error e ↔ violations.head? = some e := by
  cases check with
  | ok a => simp [show violations = [] from h]
  | error e' => rw [show violations.head? = some e' from h, Except.error.injEq, Option.some.injEq]

theorem ok_iff (h : Reports check violations) : (∃ a, check = .ok a) ↔ violations = [] := by
  cases check with
  | ok a => exact ⟨fun _ => h, fun _ => ⟨a, rfl⟩⟩
  | error e =>
    have hhead : violations.head? = some e := h
    exact ⟨nofun, fun hnil => by simp [hnil] at hhead⟩

theorem ok (a : α) : Reports (.ok a) [] := rfl

theorem error (e : ResponseError) : Reports (.error e : Check α) [e] := rfl

theorem require (e : ResponseError) (o : Option α) : Reports (require e o) (lacking e o) := by
  cases o <;> rfl

/-- What comes after a failure does not matter. -/
theorem bind {f : α → Check β} (h : Reports check violations)
    (hf : ∀ a, check = .ok a → Reports (f a) more) : Reports (check >>= f) (violations ++ more) := by
  cases check with
  | ok a =>
    rw [show violations = [] from h]
    exact hf a rfl
  | error e =>
    change (violations ++ more).head? = some e
    rw [List.head?_append, show violations.head? = some e from h, Option.some_or]

theorem map {f : α → β} (h : Reports check violations) :
    Reports (do return f (← check)) violations :=
  List.append_nil violations ▸ h.bind fun a _ => ok (f a)

theorem mapM {f : α → Check β} {of : α → List ResponseError} (h : ∀ a, Reports (f a) (of a))
    (l : List α) : Reports (l.mapM f) (l.flatMap of) := by
  induction l with
  | nil => exact ok []
  | cons a rest ih =>
    rw [List.mapM_cons, List.flatMap_cons]
    exact (h a).bind fun _ _ => ih.map

end Reports

theorem sample_reports (v : Value) : Reports (sample v) (sampleViolations v) := by
  match v with
  | .array [_, _] => exact (Reports.require _ _).bind fun _ _ => (Reports.require _ _).map
  | .array [] | .array [_] | .array (_ :: _ :: _ :: _) => exact .error _
  | .null | .boolean _ | .number _ | .string _ | .object _ => exact .error _

theorem single_reports (v : Value) :
    Reports (do return [← sample v]) (sampleViolations v) :=
  (sample_reports v).map

theorem object_reports {α : Type} (e : ResponseError) {f : Dictionary Value → Check α}
    {inside : Dictionary Value → List ResponseError} (h : ∀ members, Reports (f members) (inside members))
    (v : Value) : Reports (require e v.object? >>= f) (objectViolations e inside v) := by
  cases v with
  | object members => exact h members
  | _ => exact .error e

theorem array_reports {α : Type} (e : ResponseError) {f : Value → Check α}
    {inside : Value → List ResponseError} (h : ∀ item, Reports (f item) (inside item)) (v : Value) :
    Reports (require e v.array? >>= fun items => items.mapM f) (arrayViolations e inside v) := by
  cases v with
  | array items => exact .mapM h items
  | _ => exact .error e

theorem member_reports {α : Type} (members : Dictionary Value) (path key : String)
    {f : Value → Check α} {inside : Value → List ResponseError}
    (h : ∀ v, members.get? key = some v → Reports (f v) (inside v)) :
    Reports (require (.missingField path) (members.get? key) >>= f)
      (memberViolations members path key inside) := by
  unfold memberViolations
  cases hv : members.get? key with
  | none => exact .error _
  | some v => exact h v hv

theorem metric_reports (v : Option Value) : Reports (metric v) (metricViolations v) := by
  cases v with
  | none => exact .ok []
  | some v =>
    refine object_reports _ (fun members => ?_) v
    refine Reports.map (.mapM (fun label => ?_) members)
    exact (Reports.require _ _).map

theorem series_reports (key : String) {read : Value → Check (List Sample)}
    {inside : Value → List ResponseError} (h : ∀ v, Reports (read v) (inside v)) (v : Value) :
    Reports (series key read v) (seriesViolations key inside v) := by
  refine object_reports _ (fun members => ?_) v
  refine (metric_reports _).bind fun labels _ => ?_
  exact member_reports members key key fun v _ => (h v).map

theorem samples_reports (v : Value) :
    Reports (samples v) (arrayViolations (.unexpectedType "values" "an array") sampleViolations v) :=
  array_reports _ sample_reports v

theorem resultOf_reports (kind : ResultKind) (v : Value) :
    Reports (resultOf kind v) (resultViolations kind v) := by
  cases kind with
  | vector => exact array_reports _ (series_reports "value" single_reports) v
  | matrix => exact array_reports _ (series_reports "values" samples_reports) v
  | scalar => exact (sample_reports v).map

theorem stringField_reports {α : Type} (members : Dictionary Value) (path key : String)
    {f : String → Check α} {inside : String → List ResponseError}
    (h : ∀ text, Reports (f text) (inside text)) :
    Reports (stringField members path key >>= f)
      (memberViolations members path key (textViolations path inside)) := by
  rw [stringField, bind_assoc]
  refine member_reports members path key fun v _ => ?_
  cases v with
  | string text => exact h text
  | _ => exact .error _

theorem checkStatus_reports (body : Dictionary Value) :
    Reports (checkStatus body) (statusViolations body) := by
  refine stringField_reports body "status" "status" fun status => ?_
  split
  · exact .ok ()
  · split <;> exact .error _

theorem ofData_reports (query : String) (data : Dictionary Value) :
    Reports (ofData query data) (dataViolations data) := by
  have hkind : Reports (do
      let name ← stringField data "data.resultType" "resultType"
      require (.unsupportedResultType name) (ResultKind.ofName? name)) (kindViolations data) :=
    stringField_reports data "data.resultType" "resultType" fun _ => .require _ _
  -- the kind is read in two steps, and known after both
  rw [ofData, ← bind_assoc]
  refine hkind.bind fun kind h => ?_
  obtain ⟨name, hname, h⟩ := bind_eq_ok.mp h
  rw [kindOf?_eq_some hname (require_eq_ok.mp h)]
  exact member_reports data "data.result" "result" fun result _ =>
    (resultOf_reports kind result).map

theorem ofResponse_reports (query : String) (v : Value) :
    Reports (QueryResults.ofResponse query v) (violations v) := by
  refine object_reports _ (fun body => ?_) v
  refine (checkStatus_reports body).bind fun _ _ => ?_
  change Reports (objectField body "data" >>= ofData query) _
  rw [objectField, bind_assoc]
  exact member_reports body "data" "data" fun v _ => object_reports _ (ofData_reports query) v

section

variable {kind : ResultKind} {v : Value} {entries : List Value}

theorem isEntry_iff_violations (hkind : kind ≠ .scalar) :
    IsEntry kind v ↔ entryViolations kind v = [] := by
  rw [isEntry_iff]
  cases kind with
  | vector =>
    rw [entryViolations, ← (series_reports "value" single_reports v).ok_iff]
    exact exists_congr fun _ => (series_eq_ok fun _ _ => single_eq_ok).symm
  | matrix =>
    rw [entryViolations, ← (series_reports "values" samples_reports v).ok_iff]
    exact exists_congr fun _ => (series_eq_ok fun _ _ => samples_eq_ok).symm
  | scalar => exact absurd rfl hkind

theorem Carries.violations {result : Value} (h : Carries kind result v) :
    violations v = resultViolations kind result := by
  obtain ⟨body, data, rfl, hstatus, hdata, hname, hresult⟩ := h
  have hof : ResultKind.ofName? kind.name = some kind := ofName?_eq_some.mpr rfl
  have hkind : kindOf? data = some kind := by
    rw [kindOf?, hname]
    exact hof
  simp [Response.violations, objectViolations, statusViolations, memberViolations, textViolations,
    dataViolations, kindViolations, lacking, hstatus, hdata, hname, hresult, hkind, hof]

theorem Carries.list_violations (hkind : kind ≠ .scalar) (h : Carries kind (.array entries) v) :
    Response.violations v = entries.flatMap (entryViolations kind) := by
  rw [h.violations]
  cases kind with
  | vector | matrix => rfl
  | scalar => exact absurd rfl hkind

/-- A list fails as the first of its entries that is none would alone. -/
theorem entry_error (query : String) (hkind : kind ≠ .scalar) {before after : List Value}
    {e v' : Value} (hbefore : ∀ x ∈ before, IsEntry kind x) (he : ¬IsEntry kind e)
    (h : Carries kind (.array (before ++ e :: after)) v) (h' : Carries kind (.array [e]) v') :
    ∃ error, QueryResults.ofResponse query v = .error error ∧
      QueryResults.ofResponse query v' = .error error := by
  have hnil : before.flatMap (entryViolations kind) = [] :=
    List.flatMap_eq_nil_iff.mpr fun x hx => (isEntry_iff_violations hkind).mp (hbefore x hx)
  obtain ⟨error, rest, hcons⟩ :=
    List.exists_cons_of_ne_nil (mt (isEntry_iff_violations hkind).mpr he)
  refine ⟨error, ((ofResponse_reports query v).error_iff error).mpr ?_,
    ((ofResponse_reports query v').error_iff error).mpr ?_⟩
  · rw [h.list_violations hkind, List.flatMap_append, hnil, List.nil_append, List.flatMap_cons, hcons]
    rfl
  · rw [h'.list_violations hkind, List.flatMap_singleton, hcons]
    rfl

theorem ResultOf.length (hkind : kind ≠ .scalar) {list : List Series}
    (h : ResultOf kind (.array entries) list) : list.length = entries.length := by
  cases kind with
  | vector | matrix =>
    obtain ⟨_, ⟨⟩, hentries⟩ := h
    exact hentries.length_eq.symm
  | scalar => exact absurd rfl hkind

theorem Carries.unique {kind' : ResultKind} {result result' : Value} (h : Carries kind result v)
    (h' : Carries kind' result' v) : kind = kind' ∧ result = result' := by
  obtain ⟨body, data, rfl, -, hdata, hname, hresult⟩ := h
  obtain ⟨_, data', ⟨⟩, -, hdata', hname', hresult'⟩ := h'
  obtain rfl : data = data' := by simpa [hdata] using hdata'
  have hkinds : kind.name = kind'.name := by simpa [hname] using hname'
  have hof := ofName?_eq_some.mpr hkinds
  exact ⟨Option.some.inj ((ofName?_eq_some.mpr rfl).symm.trans hof),
    Option.some.inj (hresult.symm.trans hresult')⟩

theorem length_of_ok {query : String} {results : QueryResults} (hkind : kind ≠ .scalar)
    (h : Carries kind (.array entries) v)
    (hok : QueryResults.ofResponse query v = .ok results) :
    results.series.length = entries.length := by
  obtain ⟨kind', result, hcarries, -, -, hresult⟩ := ofResponse_eq_ok.mp hok
  obtain ⟨rfl, rfl⟩ := h.unique hcarries
  exact hresult.length hkind

end

theorem backend_error (query : String) {body : Dictionary Value}
    (h : body.get? "status" = some (.string "error")) :
    QueryResults.ofResponse query (.object body) =
      .error (.backendError (stringOr body "errorType" "unknown") (stringOr body "error" "")) := by
  apply ((ofResponse_reports query _).error_iff _).mpr
  simp [violations, objectViolations, statusViolations, memberViolations, textViolations, h]

/-- The error of a response is the first of its violations: an error of the backend whatever else
there is, and that of the first bad entry of a list whatever follows it. There are as many series as
entries, or none. -/
theorem first_violation (query : String) (v : Value) :
    (∀ error, QueryResults.ofResponse query v = .error error ↔ (violations v).head? = some error) ∧
    ((∃ results, QueryResults.ofResponse query v = .ok results) ↔ violations v = []) ∧
    (∀ body : Dictionary Value, v = .object body → body.get? "status" = some (.string "error") →
      QueryResults.ofResponse query v =
        .error (.backendError (stringOr body "errorType" "unknown") (stringOr body "error" ""))) ∧
    ∀ kind entries, kind ≠ .scalar → Carries kind (.array entries) v →
      (∀ before e after, entries = before ++ e :: after → (∀ x ∈ before, IsEntry kind x) →
        ¬IsEntry kind e → ∀ v', Carries kind (.array [e]) v' →
        ∃ error, QueryResults.ofResponse query v = .error error ∧
          QueryResults.ofResponse query v' = .error error) ∧
      ∀ results, QueryResults.ofResponse query v = .ok results →
        results.series.length = entries.length := by
  have hreports := ofResponse_reports query v
  refine ⟨hreports.error_iff, hreports.ok_iff, ?_, ?_⟩
  · rintro body rfl hstatus
    exact backend_error query hstatus
  · intro kind entries hkind hcarries
    refine ⟨?_, fun results hok => length_of_ok hkind hcarries hok⟩
    rintro before e after rfl hbefore he v' hcarries'
    exact entry_error query hkind hbefore he hcarries hcarries'

def listing (entries : List Value) : Value := .object
  [("data", .object [("result", .array entries), ("resultType", .string "vector")]),
    ("status", .string "success")]

def sound : Value := .object [("value", .array [.number ten, .string "NaN"])]

def bare : Value := .object [("metric", .object [])]

theorem first_violation_bare :
    violations (listing [sound, bare, .null]) =
      [.missingField "value", .unexpectedType "data.result[]" "an object"] ∧
    QueryResults.ofResponse "up" (listing [sound, bare, .null]) = .error (.missingField "value") ∧
    QueryResults.ofResponse "up" (listing [bare]) = .error (.missingField "value") ∧
    (∃ results, QueryResults.ofResponse "up" (listing [sound]) = .ok results ∧
      results.series.length = 1) ∧
    QueryResults.ofResponse "up" (.object [("error", .null), ("status", .string "error")]) =
      .error (.backendError "unknown" "") := by
  have hcarries : ∀ entries, Carries .vector (.array entries) (listing entries) :=
    fun _ => ⟨_, _, rfl, rfl, rfl, rfl, rfl⟩
  have hsound : IsEntry .vector sound :=
    ⟨_, rfl, trivial, _, rfl, _, _, rfl, by decide +kernel⟩
  have hbare : ¬IsEntry .vector bare := by
    rintro ⟨_, ⟨⟩, -, _, hvalue, -⟩
    exact nomatch hvalue
  have hviolations : violations (listing [sound, bare, .null]) =
      [.missingField "value", .unexpectedType "data.result[]" "an object"] := by decide +kernel
  obtain ⟨herror, -, -, hlist⟩ := first_violation "up" (listing [sound, bare, .null])
  obtain ⟨hentry, -⟩ := hlist .vector _ (by decide) (hcarries _)
  obtain ⟨error, hfull, halone⟩ :=
    hentry [sound] bare [.null] rfl (List.forall_mem_singleton.mpr hsound) hbare _ (hcarries _)
  have hfirst : error = .missingField "value" := by
    have hhead := (herror error).mp hfull
    rw [hviolations] at hhead
    exact (Option.some.inj hhead).symm
  obtain ⟨-, hok, -, hlist⟩ := first_violation "up" (listing [sound])
  obtain ⟨results, hresults⟩ := hok.mpr (by decide +kernel)
  obtain ⟨-, hlength⟩ := hlist .vector _ (by decide) (hcarries _)
  obtain ⟨-, -, hbackend, -⟩ :=
    first_violation "up" (.object [("error", .null), ("status", .string "error")])
  subst hfirst
  exact ⟨hviolations, hfull, halone, ⟨results, hresults, hlength results hresults⟩,
    hbackend _ rfl rfl⟩

end MetricBatch.Response
