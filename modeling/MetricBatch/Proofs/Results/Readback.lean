import MetricBatch.Proofs.Number.Display
import MetricBatch.Proofs.Results.Grammar
import MetricBatch.Results.Document

namespace MetricBatch

open Json Response

namespace Rebuilt

def sample? (document : Value) : Option Value := do
  let time ← document.member? "timestamp"
  let value ← document.member? "value"
  return .array [time, value]

/-- The samples of a series stand where its kind wants them; a scalar is its one sample. -/
def entry : ResultKind → (metric : Value) → (samples : List Value) → Option Value
  | .vector, metric, [sample] => some (.object [("metric", metric), ("value", sample)])
  | .matrix, metric, samples => some (.object [("metric", metric), ("values", .array samples)])
  | .scalar, _, [sample] => some sample
  | _, _, _ => none

def series? (kind : ResultKind) (document : Value) : Option Value := do
  let metric ← document.member? "metric"
  let values ← document.member? "values"
  let samples ← (← values.array?).mapM sample?
  entry kind metric samples

def result : ResultKind → List Value → Option Value
  | .scalar, [sample] => some sample
  | .scalar, _ => none
  | _, entries => some (.array entries)

def response (kind : ResultKind) (result : Value) : Value := .object [
  ("data", .object [("result", result), ("resultType", .string kind.name)]),
  ("status", .string "success")]

/-- The response that a document makes, if it is one of results. -/
def response? (document : Value) : Option Value := do
  let type ← document.member? "result_type"
  let kind ← ResultKind.ofName? (← type.string?)
  let results ← document.member? "results"
  let entries ← (← results.array?).mapM (series? kind)
  return response kind (← result kind entries)

end Rebuilt

theorem ofText?_valueText (x : Binary64) : Binary64.ofText? (Sample.valueText x) = some x := by
  cases x with
  | finite negative word h => exact Binary64.ofText?_text_finite negative h
  | infinite negative => cases negative <;> decide +kernel
  | nan => decide +kernel

namespace Rebuilt

theorem exists_mapM_map {α β γ : Type} {f : β → Option γ} {g : α → β} {R : γ → α → Prop}
    {l : List α} (h : ∀ a ∈ l, ∃ c, f (g a) = some c ∧ R c a) :
    ∃ cs, (l.map g).mapM f = some cs ∧ List.Forall₂ R cs l := by
  induction l with
  | nil => exact ⟨[], rfl, .nil⟩
  | cons a rest ih =>
    rw [List.forall_mem_cons] at h
    obtain ⟨⟨c, hc, hr⟩, hrest⟩ := h
    obtain ⟨cs, hcs, hrs⟩ := ih hrest
    refine ⟨c :: cs, ?_, .cons hr hrs⟩
    rw [List.map_cons, List.mapM_cons, hc, hcs]
    rfl

/-- A sample with a finite time has a number for it, never nothing. -/
theorem document_of_finite {x : Sample} (h : x.timestamp.IsFinite) : ∃ n : Number,
    x.document = .object [("timestamp", .number n), ("value", .string (Sample.valueText x.value))] ∧
      n.toBinary64 = x.timestamp := by
  obtain ⟨negative, word, hword, htime⟩ := h
  refine ⟨.real negative word hword, ?_, htime.symm⟩
  rw [Sample.document, htime]
  rfl

theorem sample?_document {x : Sample} (h : x.timestamp.IsFinite) :
    ∃ v, sample? x.document = some v ∧ SampleOf v x := by
  obtain ⟨n, hdocument, htime⟩ := document_of_finite h
  rw [hdocument]
  exact ⟨_, rfl, n, _, rfl, htime.symm, ofText?_valueText x.value⟩

def labels (s : Series) : Value := .object (s.metric.map fun (name, value) => (name, .string value))

theorem metricOf_labels {s : Series} (h : s.metric.Ascending) : MetricOf (some (labels s)) s.metric := by
  have hlabels : List.Forall₂ IsLabel (s.metric.map fun (name, value) => (name, .string value))
      s.metric := by
    rw [List.forall₂_map_left_iff, List.forall₂_same]
    exact fun _ _ => ⟨rfl, rfl⟩
  refine ⟨_, rfl, ⟨fun m hm => ?_, h, get?_labels hlabels⟩⟩
  obtain ⟨label, -, rfl⟩ := List.mem_map.mp hm
  exact ⟨label.2, rfl⟩

/-- What all series that are read have. -/
structure Readable (s : Series) : Prop where
  ascending : s.metric.Ascending
  finite : ∀ x ∈ s.values, x.timestamp.IsFinite

theorem series?_document {s : Series} (h : Readable s) (kind : ResultKind) : ∃ samples,
    series? kind s.document = entry kind (labels s) samples ∧
      List.Forall₂ SampleOf samples s.values := by
  obtain ⟨samples, hsamples, hof⟩ :=
    exists_mapM_map fun x hx => sample?_document (h.finite x hx)
  refine ⟨samples, ?_, hof⟩
  change ((s.values.map Sample.document).mapM sample? >>= _) = _
  rw [hsamples]
  rfl

theorem one_sample {samples : List Value} {x : Sample} (h : List.Forall₂ SampleOf samples [x]) :
    ∃ sample, samples = [sample] ∧ SampleOf sample x := by
  obtain ⟨sample, rest, hsample, hrest, rfl⟩ := List.forall₂_cons_right_iff.mp h
  rw [List.forall₂_nil_right_iff.mp hrest]
  exact ⟨sample, rfl, hsample⟩

theorem vector_entry {s : Series} (h : Readable s) {x : Sample} (hx : s.values = [x]) :
    ∃ v, series? .vector s.document = some v ∧ EntryOf .vector v s := by
  obtain ⟨samples, hentry, hof⟩ := series?_document h .vector
  obtain ⟨sample, rfl, hsample⟩ := one_sample (hx ▸ hof)
  exact ⟨_, hentry, _, rfl, metricOf_labels h.ascending, sample, rfl, x, hsample, hx⟩

theorem matrix_entry {s : Series} (h : Readable s) :
    ∃ v, series? .matrix s.document = some v ∧ EntryOf .matrix v s := by
  obtain ⟨samples, hentry, hof⟩ := series?_document h .matrix
  exact ⟨_, hentry, _, rfl, metricOf_labels h.ascending, _, rfl, samples, rfl, hof⟩

end Rebuilt

namespace Response

theorem ResultOf.readable {kind : ResultKind} {v : Value} {list : List Series}
    (h : ResultOf kind v list) {s : Series} (hs : s ∈ list) : Rebuilt.Readable s := by
  refine ⟨?_, fun x hx => h.timestamp hs hx⟩
  rcases h.entry hs with ⟨e, he⟩ | ⟨-, x, -, rfl⟩
  · cases kind with
    | vector | matrix =>
      obtain ⟨_, -, hmetric, -⟩ := he
      exact hmetric.ascending
    | scalar => exact he.elim
  · exact List.Pairwise.nil

/-- The series of a result, each as its document has it, make a result of the same kind again. -/
theorem ResultOf.rebuilt {kind : ResultKind} {v : Value} {list : List Series}
    (h : ResultOf kind v list) : ∃ entries v',
      (list.map Series.document).mapM (Rebuilt.series? kind) = some entries ∧
      Rebuilt.result kind entries = some v' ∧ ResultOf kind v' list := by
  cases kind with
  | vector =>
    obtain ⟨entries, hentries, hof⟩ := Rebuilt.exists_mapM_map fun s hs =>
      let ⟨_, hx⟩ := h.vector_values hs
      Rebuilt.vector_entry (h.readable hs) hx
    exact ⟨entries, _, hentries, rfl, entries, rfl, hof⟩
  | matrix =>
    obtain ⟨entries, hentries, hof⟩ := Rebuilt.exists_mapM_map fun s hs =>
      Rebuilt.matrix_entry (h.readable hs)
    exact ⟨entries, _, hentries, rfl, entries, rfl, hof⟩
  | scalar =>
    have hreadable : ∀ s ∈ list, Rebuilt.Readable s := fun _ hs => h.readable hs
    obtain ⟨x, _, rfl⟩ := h
    obtain ⟨samples, hentry, hof⟩ :=
      Rebuilt.series?_document (hreadable _ (List.mem_singleton_self _)) .scalar
    obtain ⟨sample, rfl, hsample⟩ := Rebuilt.one_sample hof
    refine ⟨[sample], sample, ?_, rfl, x, hsample, rfl⟩
    rw [List.map_singleton, List.mapM_cons, hentry]
    rfl

/-- The results of a response make a response with the same answer. -/
theorem Answers.rebuilt {query : String} {v : Value} {results : QueryResults}
    (h : Answers query v results) : ∃ response,
      Rebuilt.response? results.document = some response ∧
        Answers results.query response results := by
  obtain ⟨kind, result, -, -, hkind, hresult⟩ := h
  obtain ⟨entries, v', hentries, hv', hresult'⟩ := hresult.rebuilt
  have hname : ResultKind.ofName? kind.name = some kind := ofName?_eq_some.mpr rfl
  have hcarries : Carries kind v' (Rebuilt.response kind v') := ⟨_, _, rfl, rfl, rfl, rfl, rfl⟩
  refine ⟨Rebuilt.response kind v', ?_, kind, v', hcarries, rfl, hkind, hresult'⟩
  rw [QueryResults.document, hkind]
  change (ResultKind.ofName? kind.name >>= fun kind =>
    (results.series.map Series.document).mapM (Rebuilt.series? kind) >>= _) = _
  rw [hname]
  change ((results.series.map Series.document).mapM (Rebuilt.series? kind) >>= _) = _
  rw [hentries]
  change (Rebuilt.result kind entries >>= _) = _
  rw [hv']
  rfl

/-- Whatever is read, its document says all of it: put into a response again it is read as the same
results, in the same order. The text of a value is read as the value, and no time or value is left
out of a document. -/
theorem results_read_back {query : String} {v : Value} {r : QueryResults}
    (h : QueryResults.ofResponse query v = .ok r) :
    (∃ response, Rebuilt.response? r.document = some response ∧
      QueryResults.ofResponse r.query response = .ok r) ∧
    (∀ x : Binary64, Binary64.ofText? (Sample.valueText x) = some x) ∧
    ∀ s ∈ r.series, ∀ x ∈ s.values, ∃ n : Number,
      x.document = .object [("timestamp", .number n), ("value", .string (Sample.valueText x.value))] ∧
        n.toBinary64 = x.timestamp := by
  have hanswers : Answers query v r := ofResponse_eq_ok.mp h
  obtain ⟨response, hresponse, hrebuilt⟩ := hanswers.rebuilt
  obtain ⟨-, -, hfinite⟩ := hanswers.shape
  exact ⟨⟨response, hresponse, ofResponse_eq_ok.mpr hrebuilt⟩, ofText?_valueText,
    fun s hs x hx => Rebuilt.document_of_finite (hfinite s hs x hx)⟩

/-- A series whose values are no number, an infinity and a zero with a sign. -/
def signed : Value := .object
  [("data", .object
    [("result", .array [.object
      [("metric", .object [("job", .string "api"), ("pod", .string "")]),
        ("values", .array [.array [.number ten, .string "NaN"], .array [.number ten, .string "-Inf"],
          .array [.number ten, .string "-0"]])]]),
      ("resultType", .string "matrix")]),
    ("status", .string "success")]

theorem results_read_back_signed :
    ∃ r response, QueryResults.ofResponse "up" signed = .ok r ∧
      r.series.map (fun s => s.values.map (·.value)) =
        [[.nan, .infinite true, .zero true]] ∧
      Rebuilt.response? r.document = some response ∧
      QueryResults.ofResponse r.query response = .ok r := by
  let at10 (x : Binary64) : Sample := ⟨.ofInt 10, x⟩
  have hread : QueryResults.ofResponse "up" signed = .ok ⟨"up", some .matrix,
      [⟨[("job", "api"), ("pod", "")], [at10 .nan, at10 (.infinite true), at10 (.zero true)]⟩]⟩ := by
    decide +kernel
  obtain ⟨⟨response, hresponse, hback⟩, -⟩ := results_read_back hread
  exact ⟨_, response, hread, rfl, hresponse, hback⟩

end Response

end MetricBatch
