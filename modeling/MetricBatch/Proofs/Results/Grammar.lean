import MetricBatch.Proofs.Dictionary
import MetricBatch.Proofs.Number.Binary64
import MetricBatch.Proofs.Results.Checks

namespace MetricBatch.Response

open Json

def IsSample (v : Value) : Prop :=
  ∃ (n : Number) (text : String), v = .array [.number n, .string text] ∧
    (Binary64.ofText? text).isSome = true

/-- A series may have no labels, but if it has any they are text. -/
def IsMetric : Option Value → Prop
  | none => True
  | some v => ∃ members, v = .object members ∧ ∀ m ∈ members, ∃ text, m.2 = .string text

/-- One entry of a list of series, whose samples are under a key. -/
def IsSeries (key : String) (areSamples : Value → Prop) (v : Value) : Prop :=
  ∃ members : Dictionary Value, v = .object members ∧ IsMetric (members.get? "metric") ∧
    ∃ samples, members.get? key = some samples ∧ areSamples samples

/-- An entry of a result; a scalar has no entries. -/
def IsEntry : ResultKind → Value → Prop
  | .vector => IsSeries "value" IsSample
  | .matrix => IsSeries "values" fun samples =>
    ∃ items, samples = .array items ∧ ∀ item ∈ items, IsSample item
  | .scalar => fun _ => False

def IsResult : ResultKind → Value → Prop
  | .scalar, v => IsSample v
  | kind, v => ∃ entries, v = .array entries ∧ ∀ e ∈ entries, IsEntry kind e

/-- A response that says that the query succeeded, with a result of some kind. -/
def Carries (kind : ResultKind) (result v : Value) : Prop :=
  ∃ body data : Dictionary Value, v = .object body ∧
    body.get? "status" = some (.string "success") ∧ body.get? "data" = some (.object data) ∧
    data.get? "resultType" = some (.string kind.name) ∧ data.get? "result" = some result

def IsResponse (v : Value) : Prop := ∃ kind result, Carries kind result v ∧ IsResult kind result

def SampleOf (v : Value) (x : Sample) : Prop :=
  ∃ (n : Number) (text : String), v = .array [.number n, .string text] ∧
    x.timestamp = n.toBinary64 ∧ Binary64.ofText? text = some x.value

/-- The labels that are the members of an object. A dictionary has one form only, so that what is
under each name leaves no choice. -/
structure LabelsOf (members : Dictionary Value) (labels : Dictionary String) : Prop where
  strings : ∀ m ∈ members, ∃ text, m.2 = .string text
  ascending : labels.Ascending
  under : ∀ name, labels.get? name = (members.get? name).bind Value.string?

def MetricOf : Option Value → Dictionary String → Prop
  | none, labels => labels = []
  | some v, labels => ∃ members, v = .object members ∧ LabelsOf members labels

def SeriesOf (key : String) (samplesOf : Value → List Sample → Prop) (v : Value) (s : Series) :
    Prop :=
  ∃ members : Dictionary Value, v = .object members ∧
    MetricOf (members.get? "metric") s.metric ∧
    ∃ samples, members.get? key = some samples ∧ samplesOf samples s.values

def EntryOf : ResultKind → Value → Series → Prop
  | .vector => SeriesOf "value" fun samples xs => ∃ x, SampleOf samples x ∧ xs = [x]
  | .matrix => SeriesOf "values" fun samples xs =>
    ∃ items, samples = .array items ∧ List.Forall₂ SampleOf items xs
  | .scalar => fun _ _ => False

/-- Series stand in the order of their entries. -/
def ResultOf : ResultKind → Value → List Series → Prop
  | .scalar, v, series => ∃ x, SampleOf v x ∧ series = [⟨[], [x]⟩]
  | kind, v, series => ∃ entries, v = .array entries ∧ List.Forall₂ (EntryOf kind) entries series

def Answers (query : String) (v : Value) (results : QueryResults) : Prop :=
  ∃ kind result, Carries kind result v ∧ results.query = query ∧ results.kind = some kind ∧
    ResultOf kind result results.series

/-- Of the members of an object those that are looked at, each reduced to what is looked at of it. -/
def reduce (part : String → Option (Value → Value)) (members : Dictionary Value) :
    Dictionary Value :=
  members.filterMap fun (key, v) => (part key).map fun f => (key, f v)

def entryPart (key name : String) : Option (Value → Value) :=
  if name = "metric" ∨ name = key then some id else none

def essentialEntry (key : String) : Value → Value
  | .object members => .object (reduce (entryPart key) members)
  | v => v

def essentialResult : ResultKind → Value → Value
  | .vector, .array entries => .array (entries.map (essentialEntry "value"))
  | .matrix, .array entries => .array (entries.map (essentialEntry "values"))
  | _, v => v

def kindOf? (data : Dictionary Value) : Option ResultKind :=
  ((data.get? "resultType").bind Value.string?).bind ResultKind.ofName?

/-- The result is looked at only when its kind is known. -/
def dataPart (kind : Option ResultKind) (name : String) : Option (Value → Value) :=
  if name = "resultType" then some id
  else if name = "result" then kind.map essentialResult
  else none

def essentialData : Value → Value
  | .object data => .object (reduce (dataPart (kindOf? data)) data)
  | v => v

def statusOf? (body : Dictionary Value) : Option String := (body.get? "status").bind Value.string?

/-- The status says what else is looked at. -/
def bodyPart (status : Option String) (name : String) : Option (Value → Value) :=
  if name = "status" then some id
  else if name = "data" then if status = some "success" then some essentialData else none
  else if name = "errorType" ∨ name = "error" then
    if status = some "error" then some id else none
  else none

def essential : Value → Value
  | .object body => .object (reduce (bodyPart (statusOf? body)) body)
  | v => v

theorem sample_eq_ok {v : Value} {x : Sample} : sample v = .ok x ↔ SampleOf v x := by
  constructor
  · intro h
    unfold sample at h
    split at h
    · rename_i time value
      obtain ⟨n, hn, h⟩ := bind_eq_ok.mp h
      obtain ⟨y, hy, h⟩ := bind_eq_ok.mp h
      obtain ⟨text, htext, hread⟩ := Option.bind_eq_some_iff.mp (require_eq_ok.mp hy)
      cases h
      refine ⟨n, text, ?_, rfl, hread⟩
      rw [string?_eq_some.mp htext]
      cases time <;> simp [require, Value.number?] at hn
      rw [hn]
    · cases h
  · rintro ⟨n, text, rfl, htime, hvalue⟩
    have hread : (Value.string text).string?.bind Binary64.ofText? = some x.value := hvalue
    simp only [sample, bind_eq_ok, require_eq_ok, pure_eq_ok]
    exact ⟨n, rfl, x.value, hread, by rw [← htime]⟩

theorem get?_putAll (pairs : List (String × String)) (name : String) :
    Dictionary.get? name (pairs.foldr (fun (k, v) => Dictionary.put k v) []) =
      Dictionary.get? name pairs := by
  induction pairs with
  | nil => rfl
  | cons pair rest ih => simp only [List.foldr_cons, Dictionary.get?_put, Dictionary.get?, ih]

theorem putAll_ascending (pairs : List (String × String)) :
    Dictionary.Ascending (pairs.foldr (fun (k, v) => Dictionary.put k v) []) := by
  induction pairs with
  | nil => exact List.Pairwise.nil
  | cons pair rest ih => exact ih.put pair.1 pair.2

/-- A member and the label it is read as. -/
def IsLabel (m : String × Value) (label : String × String) : Prop :=
  m.1 = label.1 ∧ m.2 = .string label.2

theorem get?_labels {members : Dictionary Value} {pairs : Dictionary String}
    (h : List.Forall₂ IsLabel members pairs) (name : String) :
    pairs.get? name = (members.get? name).bind Value.string? := by
  induction h with
  | nil => rfl
  | cons he _ ih =>
    simp only [Dictionary.get?, he.1, he.2]
    split
    · rfl
    · exact ih

theorem labelsOf_putAll {members : Dictionary Value} {pairs : Dictionary String}
    (h : List.Forall₂ IsLabel members pairs) :
    LabelsOf members (pairs.foldr (fun (k, v) => Dictionary.put k v) []) where
  strings m hm := by
    obtain ⟨label, -, hl⟩ := exists_forall₂.mp ⟨_, h⟩ m hm
    exact ⟨label.2, hl⟩
  ascending := putAll_ascending pairs
  under name := by rw [get?_putAll, get?_labels h]

theorem LabelsOf.unique {members : Dictionary Value} {labels labels' : Dictionary String}
    (h : LabelsOf members labels) (h' : LabelsOf members labels') : labels = labels' :=
  h.ascending.ext h'.ascending fun name => (h.under name).trans (h'.under name).symm

theorem isLabel_iff {m : String × Value} {label : String × String} :
    (∃ text, m.2 = .string text ∧ label = (m.1, text)) ↔ IsLabel m label := by
  obtain ⟨name, text⟩ := label
  simp only [IsLabel, Prod.mk.injEq]
  constructor
  · rintro ⟨_, htext, rfl, rfl⟩
    exact ⟨rfl, htext⟩
  · rintro ⟨hname, htext⟩
    exact ⟨text, htext, hname.symm, rfl⟩

theorem metric_eq_ok {v : Option Value} {labels : Dictionary String} :
    metric v = .ok labels ↔ MetricOf v labels := by
  cases v with
  | none => exact ⟨fun h => (Except.ok.inj h).symm, fun h => congrArg _ h.symm⟩
  | some v =>
    simp only [metric, MetricOf, bind_eq_ok, require_eq_ok, object?_eq_some, mapM_eq_ok,
      string?_eq_some, isLabel_iff, pure_eq_ok]
    constructor
    · rintro ⟨members, rfl, pairs, hpairs, rfl⟩
      exact ⟨members, rfl, labelsOf_putAll hpairs⟩
    · rintro ⟨members, rfl, hlabels⟩
      obtain ⟨pairs, hpairs⟩ : ∃ pairs, List.Forall₂ IsLabel members pairs :=
        exists_forall₂.mpr fun m hm =>
          let ⟨text, htext⟩ := hlabels.strings m hm
          ⟨(m.1, text), rfl, htext⟩
      exact ⟨members, rfl, pairs, hpairs, hlabels.unique (labelsOf_putAll hpairs)⟩

theorem samples_eq_ok {v : Value} {xs : List Sample} :
    samples v = .ok xs ↔ ∃ items, v = .array items ∧ List.Forall₂ SampleOf items xs := by
  simp only [samples, bind_eq_ok, require_eq_ok, array?_eq_some, mapM_eq_ok, sample_eq_ok]

theorem series_eq_ok {key : String} {read : Value → Check (List Sample)}
    {samplesOf : Value → List Sample → Prop}
    (hread : ∀ v xs, read v = .ok xs ↔ samplesOf v xs) {v : Value} {s : Series} :
    series key read v = .ok s ↔ SeriesOf key samplesOf v s := by
  simp only [series, SeriesOf, bind_eq_ok, require_eq_ok, object?_eq_some, metric_eq_ok, hread,
    pure_eq_ok]
  constructor
  · rintro ⟨members, hv, labels, hlabels, samples, hsamples, xs, hxs, rfl⟩
    exact ⟨members, hv, hlabels, samples, hsamples, hxs⟩
  · rintro ⟨members, hv, hlabels, samples, hsamples, hxs⟩
    exact ⟨members, hv, s.metric, hlabels, samples, hsamples, s.values, hxs, rfl⟩

theorem single_eq_ok {v : Value} {xs : List Sample} :
    (do return [← sample v] : Check (List Sample)) = .ok xs ↔ ∃ x, SampleOf v x ∧ xs = [x] := by
  simp only [bind_eq_ok, sample_eq_ok, pure_eq_ok]

theorem resultOf_eq_ok {kind : ResultKind} {v : Value} {list : List Series} :
    resultOf kind v = .ok list ↔ ResultOf kind v list := by
  cases kind with
  | vector =>
    simp only [resultOf, seriesList, ResultOf, EntryOf, bind_eq_ok, require_eq_ok, array?_eq_some,
      mapM_eq_ok, series_eq_ok fun _ _ => single_eq_ok]
  | matrix =>
    simp only [resultOf, seriesList, ResultOf, EntryOf, bind_eq_ok, require_eq_ok, array?_eq_some,
      mapM_eq_ok, series_eq_ok fun _ _ => samples_eq_ok]
  | scalar =>
    simp only [resultOf, ResultOf, bind_eq_ok, sample_eq_ok, pure_eq_ok]

theorem checkStatus_eq_ok {body : Dictionary Value} :
    checkStatus body = .ok () ↔ body.get? "status" = some (.string "success") := by
  rw [← @stringField_eq_ok body "status", checkStatus, bind_eq_ok]
  constructor
  · rintro ⟨status, hstatus, h⟩
    split at h
    · rename_i hsuccess
      rw [hstatus, hsuccess]
    · split at h <;> cases h
  · exact fun h => ⟨"success", h, rfl⟩

/-- What is read of the data of a response that says that the query succeeded. -/
def ofData (query : String) (data : Dictionary Value) : Check QueryResults := do
  let name ← stringField data "data.resultType" "resultType"
  let kind ← require (.unsupportedResultType name) (ResultKind.ofName? name)
  let result ← require (.missingField "data.result") (data.get? "result")
  return ⟨query, some kind, ← resultOf kind result⟩

theorem ofResponse_eq (query : String) (v : Value) :
    QueryResults.ofResponse query v = (do
      let body ← require .notAnObject v.object?
      checkStatus body
      ofData query (← objectField body "data")) := rfl

theorem ofResponse_eq_ok {query : String} {v : Value} {results : QueryResults} :
    QueryResults.ofResponse query v = .ok results ↔ Answers query v results := by
  simp only [ofResponse_eq, ofData, bind_eq_ok, require_eq_ok, object?_eq_some, stringField_eq_ok,
    objectField_eq_ok, ofName?_eq_some, resultOf_eq_ok, pure_eq_ok]
  constructor
  · rintro ⟨body, hv, ⟨⟩, hstatus, data, hdata, _, hname, kind, rfl, result, hresult, list, hlist,
      rfl⟩
    exact ⟨kind, result, ⟨body, data, hv, checkStatus_eq_ok.mp hstatus, hdata, hname, hresult⟩,
      rfl, rfl, hlist⟩
  · rintro ⟨kind, result, ⟨body, data, hv, hstatus, hdata, hname, hresult⟩, hquery, hkind, hlist⟩
    refine ⟨body, hv, (), checkStatus_eq_ok.mpr hstatus, data, hdata, _, hname, kind, rfl, result,
      hresult, _, hlist, ?_⟩
    rw [← hquery, ← hkind]

theorem isSample_iff {v : Value} : IsSample v ↔ ∃ x, SampleOf v x := by
  constructor
  · rintro ⟨n, text, hv, htext⟩
    obtain ⟨value, hvalue⟩ := Option.isSome_iff_exists.mp htext
    exact ⟨⟨n.toBinary64, value⟩, n, text, hv, rfl, hvalue⟩
  · rintro ⟨x, n, text, hv, -, hvalue⟩
    exact ⟨n, text, hv, Option.isSome_iff_exists.mpr ⟨_, hvalue⟩⟩

theorem isMetric_iff {v : Option Value} : IsMetric v ↔ ∃ labels, MetricOf v labels := by
  cases v with
  | none => exact ⟨fun _ => ⟨[], rfl⟩, fun _ => trivial⟩
  | some v =>
    constructor
    · rintro ⟨members, hv, hstrings⟩
      obtain ⟨pairs, hpairs⟩ : ∃ pairs, List.Forall₂ IsLabel members pairs :=
        exists_forall₂.mpr fun m hm =>
          let ⟨text, htext⟩ := hstrings m hm
          ⟨(m.1, text), rfl, htext⟩
      exact ⟨_, members, hv, labelsOf_putAll hpairs⟩
    · rintro ⟨labels, members, hv, hlabels⟩
      exact ⟨members, hv, hlabels.strings⟩

theorem isSeries_iff {key : String} {areSamples : Value → Prop}
    {samplesOf : Value → List Sample → Prop} (hs : ∀ v, areSamples v ↔ ∃ xs, samplesOf v xs)
    {v : Value} : IsSeries key areSamples v ↔ ∃ s, SeriesOf key samplesOf v s := by
  constructor
  · rintro ⟨members, hv, hmetric, samples, hsamples, hare⟩
    obtain ⟨labels, hlabels⟩ := isMetric_iff.mp hmetric
    obtain ⟨xs, hxs⟩ := (hs samples).mp hare
    exact ⟨⟨labels, xs⟩, members, hv, hlabels, samples, hsamples, hxs⟩
  · rintro ⟨s, members, hv, hlabels, samples, hsamples, hxs⟩
    exact ⟨members, hv, isMetric_iff.mpr ⟨_, hlabels⟩, samples, hsamples, (hs samples).mpr ⟨_, hxs⟩⟩

theorem isEntry_iff {kind : ResultKind} {v : Value} : IsEntry kind v ↔ ∃ s, EntryOf kind v s := by
  cases kind <;> simp only [IsEntry, EntryOf]
  case vector =>
    refine isSeries_iff fun samples => isSample_iff.trans ?_
    exact ⟨fun ⟨x, hx⟩ => ⟨[x], x, hx, rfl⟩, fun ⟨_, x, hx, _⟩ => ⟨x, hx⟩⟩
  case matrix =>
    refine isSeries_iff fun samples => ?_
    simp only [isSample_iff, ← exists_forall₂]
    exact ⟨fun ⟨items, hv, xs, hxs⟩ => ⟨xs, items, hv, hxs⟩,
      fun ⟨xs, items, hv, hxs⟩ => ⟨items, hv, xs, hxs⟩⟩
  case scalar => exact ⟨nofun, nofun⟩

theorem isList_iff {kind : ResultKind} {v : Value} :
    (∃ entries, v = .array entries ∧ ∀ e ∈ entries, IsEntry kind e) ↔
      ∃ list entries, v = .array entries ∧ List.Forall₂ (EntryOf kind) entries list := by
  simp only [isEntry_iff, ← exists_forall₂]
  exact ⟨fun ⟨entries, hv, list, hlist⟩ => ⟨list, entries, hv, hlist⟩,
    fun ⟨list, entries, hv, hlist⟩ => ⟨entries, hv, list, hlist⟩⟩

theorem isResult_iff {kind : ResultKind} {v : Value} :
    IsResult kind v ↔ ∃ list, ResultOf kind v list := by
  cases kind with
  | vector | matrix => exact isList_iff
  | scalar =>
    exact isSample_iff.trans ⟨fun ⟨x, hx⟩ => ⟨_, x, hx, rfl⟩, fun ⟨_, x, hx, _⟩ => ⟨x, hx⟩⟩

theorem isResponse_iff (query : String) {v : Value} :
    IsResponse v ↔ ∃ results, Answers query v results := by
  constructor
  · rintro ⟨kind, result, hcarries, hresult⟩
    obtain ⟨list, hlist⟩ := isResult_iff.mp hresult
    exact ⟨⟨query, some kind, list⟩, kind, result, hcarries, rfl, rfl, hlist⟩
  · rintro ⟨results, kind, result, hcarries, -, -, hlist⟩
    exact ⟨kind, result, hcarries, isResult_iff.mpr ⟨_, hlist⟩⟩

theorem MetricOf.ascending {v : Option Value} {labels : Dictionary String} (h : MetricOf v labels) :
    labels.Ascending := by
  cases v with
  | none => exact h ▸ List.Pairwise.nil
  | some v =>
    obtain ⟨_, -, hlabels⟩ := h
    exact hlabels.ascending

theorem SampleOf.timestamp {v : Value} {x : Sample} (h : SampleOf v x) : x.timestamp.IsFinite := by
  obtain ⟨n, -, -, htime, -⟩ := h
  exact htime ▸ Binary64.toBinary64_finite n

theorem EntryOf.timestamp {kind : ResultKind} {v : Value} {s : Series} (h : EntryOf kind v s)
    {x : Sample} (hx : x ∈ s.values) : x.timestamp.IsFinite := by
  cases kind with
  | vector =>
    obtain ⟨_, -, -, _, -, y, hy, hvalues⟩ := h
    rw [hvalues, List.mem_singleton] at hx
    exact hx ▸ SampleOf.timestamp hy
  | matrix =>
    obtain ⟨_, -, -, _, -, items, -, hitems⟩ := h
    obtain ⟨item, hitem⟩ := exists_forall₂.mp ⟨_, hitems.flip⟩ x hx
    exact SampleOf.timestamp hitem
  | scalar => exact h.elim

theorem ResultOf.entry {kind : ResultKind} {v : Value} {list : List Series}
    (h : ResultOf kind v list) {s : Series} (hs : s ∈ list) :
    (∃ e, EntryOf kind e s) ∨ kind = .scalar ∧ ∃ x, SampleOf v x ∧ s = ⟨[], [x]⟩ := by
  cases kind with
  | vector | matrix =>
    obtain ⟨_, -, hentries⟩ := h
    exact .inl (exists_forall₂.mp ⟨_, hentries.flip⟩ s hs)
  | scalar =>
    obtain ⟨x, hx, rfl⟩ := h
    exact .inr ⟨rfl, x, hx, List.mem_singleton.mp hs⟩

theorem ResultOf.timestamp {kind : ResultKind} {v : Value} {list : List Series}
    (h : ResultOf kind v list) {s : Series} (hs : s ∈ list) {x : Sample} (hx : x ∈ s.values) :
    x.timestamp.IsFinite := by
  rcases h.entry hs with ⟨e, he⟩ | ⟨-, y, hy, rfl⟩
  · exact he.timestamp hx
  · exact List.mem_singleton.mp hx ▸ hy.timestamp

theorem ResultOf.vector_values {v : Value} {list : List Series} (h : ResultOf .vector v list)
    {s : Series} (hs : s ∈ list) : ∃ x, s.values = [x] := by
  rcases h.entry hs with ⟨e, _, -, -, _, -, x, -, hvalues⟩ | ⟨⟨⟩, -⟩
  exact ⟨x, hvalues⟩

theorem get?_reduce (part : String → Option (Value → Value)) (members : Dictionary Value)
    (key : String) :
    (reduce part members).get? key = (members.get? key).bind fun v => (part key).map fun f => f v := by
  induction members with
  | nil => rfl
  | cons m rest ih =>
    obtain ⟨k, v⟩ := m
    unfold reduce at ih ⊢
    by_cases hk : k = key
    · subst hk
      cases hpart : part k with
      | none =>
        simp only [hpart] at ih
        simp [hpart, Dictionary.get?, ih]
      | some f => simp [hpart, Dictionary.get?]
    · cases hpart : part k with
      | none => simp [hpart, Dictionary.get?, hk, ih]
      | some f => simp [hpart, Dictionary.get?, hk, ih]

section

variable {part : String → Option (Value → Value)} {key : String} {members : Dictionary Value}

theorem get?_reduce_id (h : part key = some id) :
    (reduce part members).get? key = members.get? key := by
  rw [get?_reduce, h]
  cases members.get? key <;> rfl

theorem stringField_reduce (path : String) (h : part key = some id) :
    stringField (reduce part members) path key = stringField members path key := by
  rw [stringField, stringField, get?_reduce_id h]

theorem stringOr_reduce (default : String) (h : part key = some id) :
    stringOr (reduce part members) key default = stringOr members key default := by
  rw [stringOr, stringOr, get?_reduce_id h]

end

theorem series_essential (key : String) (read : Value → Check (List Sample)) (v : Value) :
    series key read (essentialEntry key v) = series key read v := by
  cases v with
  | object members =>
    have hmetric : entryPart key "metric" = some id := if_pos (.inl rfl)
    have hkey : entryPart key key = some id := if_pos (.inr rfl)
    simp only [series, essentialEntry, Value.object?, require, ok_bind, get?_reduce_id hmetric,
      get?_reduce_id hkey]
  | _ => rfl

theorem resultOf_essential (kind : ResultKind) (v : Value) :
    resultOf kind (essentialResult kind v) = resultOf kind v := by
  cases kind with
  | vector | matrix =>
    cases v with
    | array entries => exact mapM_map (series_essential _ _) entries
    | _ => rfl
  | scalar => rfl

theorem statusOf?_eq_some {body : Dictionary Value} {status : String} :
    statusOf? body = some status ↔ stringField body "status" "status" = .ok status := by
  rw [stringField_eq_ok, statusOf?, Option.bind_eq_some_iff]
  simp only [string?_eq_some]
  exact ⟨fun ⟨_, h, he⟩ => he ▸ h, fun h => ⟨_, h, rfl⟩⟩

theorem checkStatus_essential (body : Dictionary Value) :
    checkStatus (reduce (bodyPart (statusOf? body)) body) = checkStatus body := by
  unfold checkStatus
  rw [stringField_reduce _ rfl]
  cases hs : stringField body "status" "status" with
  | error e => rfl
  | ok status =>
    simp only [ok_bind, statusOf?_eq_some.mpr hs]
    by_cases he : status = "error"
    · rw [he, stringOr_reduce _ rfl, stringOr_reduce _ rfl]
    · simp only [he, if_false]

theorem kindOf?_eq_some {data : Dictionary Value} {name : String} {kind : ResultKind}
    (hname : stringField data "data.resultType" "resultType" = .ok name)
    (hkind : ResultKind.ofName? name = some kind) : kindOf? data = some kind := by
  rw [kindOf?, stringField_eq_ok.mp hname]
  exact hkind

theorem ofData_essential (query : String) (data : Dictionary Value) :
    ofData query (reduce (dataPart (kindOf? data)) data) = ofData query data := by
  unfold ofData
  rw [stringField_reduce _ rfl]
  cases hname : stringField data "data.resultType" "resultType" with
  | error e => rfl
  | ok name =>
    simp only [ok_bind]
    cases hkind : ResultKind.ofName? name with
    | none => rfl
    | some kind =>
      simp only [require, ok_bind, get?_reduce, kindOf?_eq_some hname hkind]
      cases data.get? "result" with
      | none => rfl
      | some result =>
        change (do return QueryResults.mk query kind (← resultOf kind (essentialResult kind result))) = _
        rw [resultOf_essential]
        rfl

theorem ofResponse_essential (query : String) (v : Value) :
    QueryResults.ofResponse query (essential v) = QueryResults.ofResponse query v := by
  cases v with
  | object body =>
    simp only [essential, ofResponse_eq, Value.object?, require, ok_bind, checkStatus_essential]
    cases hs : checkStatus body with
    | error e => rfl
    | ok u =>
      have hstatus : statusOf? body = some "success" := by
        rw [statusOf?, checkStatus_eq_ok.mp hs]
        rfl
      simp only [ok_bind, objectField, get?_reduce, hstatus]
      cases Dictionary.get? "data" body with
      | none => rfl
      | some d =>
        cases d with
        | object data => exact ofData_essential query data
        | _ => rfl
  | _ => rfl

theorem Answers.shape {query : String} {v : Value} {results : QueryResults}
    (h : Answers query v results) :
    (results.kind = some .vector → ∀ s ∈ results.series, ∃ x, s.values = [x]) ∧
    (results.kind = some .scalar → ∃ x, results.series = [⟨[], [x]⟩]) ∧
    ∀ s ∈ results.series, ∀ x ∈ s.values, x.timestamp.IsFinite := by
  obtain ⟨kind, result, -, -, hkind, hresult⟩ := h
  rw [hkind]
  refine ⟨?_, ?_, fun s hs x hx => hresult.timestamp hs hx⟩
  · rintro ⟨⟩ s hs
    exact hresult.vector_values hs
  · rintro ⟨⟩
    obtain ⟨x, -, hseries⟩ := hresult
    exact ⟨x, hseries⟩

/-- A value is read just if it is in the grammar, and as what it stands for. A member outside of the
grammar changes nothing, neither what is read nor what is wrong. -/
theorem response_read (query : String) (v : Value) :
    (∀ results, QueryResults.ofResponse query v = .ok results ↔ Answers query v results) ∧
    ((∃ results, QueryResults.ofResponse query v = .ok results) ↔ IsResponse v) ∧
    (∀ results, QueryResults.ofResponse query v = .ok results →
      (results.kind = some .vector → ∀ s ∈ results.series, ∃ x, s.values = [x]) ∧
      (results.kind = some .scalar → ∃ x, results.series = [⟨[], [x]⟩]) ∧
      ∀ s ∈ results.series, ∀ x ∈ s.values, x.timestamp.IsFinite) ∧
    QueryResults.ofResponse query (essential v) = QueryResults.ofResponse query v := by
  refine ⟨fun _ => ofResponse_eq_ok, ?_, fun _ h => (ofResponse_eq_ok.mp h).shape,
    ofResponse_essential query v⟩
  simp only [ofResponse_eq_ok, isResponse_iff query]

def ten : Number := .whole 10 (by decide)

/-- A response with members that nothing reads, a list of samples beside the sample among them. -/
def chatty : Value := .object
  [("data", .object
    [("result", .array [.object
      [("metric", .object [("job", .string "api")]),
        ("value", .array [.number ten, .string "NaN"]),
        ("values", .null)]]),
      ("resultType", .string "vector")]),
    ("status", .string "success"),
    ("warnings", .array [.string "slow"])]

theorem response_read_chatty :
    ∃ t, QueryResults.ofResponse "up" chatty =
        .ok ⟨"up", some .vector, [⟨[("job", "api")], [⟨t, .nan⟩]⟩]⟩ ∧
      t.IsFinite ∧
      QueryResults.ofResponse "up" (essential chatty) = QueryResults.ofResponse "up" chatty := by
  have hread : QueryResults.ofResponse "up" chatty =
      .ok ⟨"up", some .vector, [⟨[("job", "api")], [⟨.ofInt 10, .nan⟩]⟩]⟩ := by decide +kernel
  obtain ⟨-, -, hshape, hessential⟩ := response_read "up" chatty
  obtain ⟨-, -, hfinite⟩ := hshape _ hread
  have hsample := hfinite _ (List.mem_singleton_self _) _ (List.mem_singleton_self _)
  generalize Binary64.ofInt 10 = t at hread hsample
  exact ⟨t, hread, hsample, hessential⟩

end MetricBatch.Response
