import MetricBatch.Proofs.Results.Grammar
import MetricBatch.Proofs.Text.Utf8

namespace MetricBatch

open Json Text

namespace Series

variable {s : Series} {name key value : String}

/-- The key of an exported label is its own name behind the mark. -/
theorem exportedName?_eq_some : exportedName? key = some name ↔ key = "label_" ++ name := by
  have hkey : key = "label_" ++ name ↔ key.toList = exportMark ++ name.toList := by
    rw [← String.toList_inj, String.toList_append, exportMark]
  rw [hkey, exportedName?]
  constructor
  · intro h
    split at h
    · rename_i hmarked
      obtain ⟨rest, hrest⟩ := List.isPrefixOf_iff_prefix.mp hmarked
      obtain rfl := Option.some.inj h
      rw [← hrest, List.drop_left, String.toList_ofList]
    · cases h
  · intro h
    have hmarked : exportMark.isPrefixOf key.toList = true :=
      List.isPrefixOf_iff_prefix.mpr ⟨_, h.symm⟩
    rw [if_pos hmarked, h, List.drop_left, String.ofList_toList]

/-- The mark changes nothing about the order of what stands behind it. -/
theorem mark_lt_mark {a b : String} : "label_" ++ a < "label_" ++ b ↔ a < b := by
  have hmono {a b : String} (h : a < b) : "label_" ++ a < "label_" ++ b := by
    change ("label_" ++ a).toList < ("label_" ++ b).toList
    rw [String.toList_append, String.toList_append]
    exact List.append_left_lt h
  refine ⟨fun h => ?_, hmono⟩
  rcases lt_trichotomy a b with hlt | rfl | hgt
  · exact hlt
  · exact absurd h (String.lt_irrefl _)
  · exact absurd h (String.lt_asymm (hmono hgt))

/-- The entry of an exported label under its own name. -/
def exported? (e : String × String) : Option (String × String) := (exportedName? e.1).map (·, e.2)

/-- Whether a label has the mark. -/
def isMarked (e : String × String) : Bool := exportMark.isPrefixOf e.1.toList

theorem exported?_eq_some {e : String × String} :
    exported? e = some (name, value) ↔ e = ("label_" ++ name, value) := by
  simp only [exported?, Option.map_eq_some_iff, exportedName?_eq_some, Prod.ext_iff]
  constructor
  · rintro ⟨_, hkey, rfl, hvalue⟩
    exact ⟨hkey, hvalue⟩
  · rintro ⟨hkey, hvalue⟩
    exact ⟨name, hkey, rfl, hvalue⟩

theorem exported_ascending (h : s.metric.Ascending) :
    Dictionary.Ascending (s.metric.filterMap exported?) := by
  refine List.pairwise_filterMap.mpr (List.Pairwise.imp ?_ h)
  intro e e' hlt b hb b' hb'
  obtain rfl := exported?_eq_some.mp hb
  obtain rfl := exported?_eq_some.mp hb'
  exact mark_lt_mark.mp hlt

/-- Building a dictionary of the exported labels joins none of them and moves none. -/
theorem labels_eq (h : s.metric.Ascending) : s.labels = s.metric.filterMap exported? :=
  (exported_ascending h).ofList_eq

/-- The entry of an exported label with the mark put back. -/
def marked (e : String × String) : String × String := ("label_" ++ e.1, e.2)

theorem marked_exported (e : String × String) :
    (exported? e).map marked = if isMarked e = true then some e else none := by
  cases hm : isMarked e with
  | true =>
    obtain ⟨name, hname⟩ : ∃ name, exportedName? e.1 = some name := ⟨_, if_pos hm⟩
    have hexported : exported? e = some (name, e.2) := by rw [exported?, hname, Option.map_some]
    have he : marked (name, e.2) = e := (exported?_eq_some.mp hexported).symm
    simp [hexported, he]
  | false =>
    have hname : exportedName? e.1 = none := if_neg (Bool.eq_false_iff.mp hm)
    simp [exported?, hname]

/-- With the mark put back the exported labels are those of the metric that have it, in order. -/
theorem labels_marked (h : s.metric.Ascending) :
    s.labels.map marked = s.metric.filter isMarked := by
  rw [labels_eq h, List.map_filterMap, ← List.filterMap_eq_filter]
  exact congrFun (congrArg List.filterMap (funext marked_exported)) _

theorem label_eq_ok : s.label name = .ok value ↔ s.metric.get? name = some value := by
  unfold label
  split <;> simp_all

theorem label_eq_missing :
    s.label name = .error (.missingLabel name) ↔ s.metric.get? name = none := by
  unfold label
  split <;> simp_all

theorem mem_labels (h : s.metric.Ascending) :
    (name, value) ∈ s.labels ↔ s.label ("label_" ++ name) = .ok value := by
  simp only [labels_eq h, List.mem_filterMap, exported?_eq_some, exists_eq_right, h.mem_iff,
    label_eq_ok]

end Series

/-- The member with a name in the metric of an entry of a response; the entries are counted. -/
def labelMember? (response : Value) (i : Nat) (name : String) : Option Value := do
  let data ← response.member? "data"
  let result ← data.member? "result"
  let entry ← (← result.array?)[i]?
  let metric ← entry.member? "metric"
  metric.member? name

namespace Response

/-- What a label is read from. -/
def IsRead (member? : Option Value) (label? : Option String) : Prop :=
  match member? with
  | none => label? = none
  | some v => ∃ text, v = .string text ∧ label? = some text

theorem IsRead.eq_none_iff {member? : Option Value} {label? : Option String}
    (h : IsRead member? label?) : label? = none ↔ member? = none := by
  cases member? with
  | none => exact ⟨fun _ => rfl, fun _ => h⟩
  | some v =>
    obtain ⟨text, rfl, rfl⟩ := h
    exact ⟨nofun, nofun⟩

theorem IsRead.eq_some_iff {member? : Option Value} {label? : Option String}
    (h : IsRead member? label?) (text : String) :
    label? = some text ↔ member? = some (.string text) := by
  cases member? with
  | none =>
    obtain rfl : label? = none := h
    exact ⟨nofun, nofun⟩
  | some v =>
    obtain ⟨text, rfl, rfl⟩ := h
    simp

theorem LabelsOf.isRead {members : Dictionary Value} {labels : Dictionary String}
    (h : LabelsOf members labels) (name : String) :
    IsRead (members.get? name) (labels.get? name) := by
  rw [h.under]
  cases hm : members.get? name with
  | none => rfl
  | some v =>
    obtain ⟨text, htext⟩ := h.strings _ (Dictionary.mem_of_get? hm)
    obtain rfl : v = .string text := htext
    exact ⟨text, rfl, rfl⟩

theorem MetricOf.isRead {metric : Option Value} {labels : Dictionary String}
    (h : MetricOf metric labels) (name : String) :
    IsRead (metric.bind (·.member? name)) (labels.get? name) := by
  cases metric with
  | none =>
    obtain rfl : labels = [] := h
    rfl
  | some v =>
    obtain ⟨members, rfl, hlabels⟩ := h
    exact hlabels.isRead name

/-- The labels of an entry are the members of its metric. A scalar has none. -/
theorem EntryOf.metricOf {kind : ResultKind} {v : Value} {s : Series} (h : EntryOf kind v s) :
    MetricOf (v.member? "metric") s.metric := by
  cases kind with
  | vector | matrix =>
    obtain ⟨members, rfl, hmetric, -⟩ := h
    exact hmetric
  | scalar => exact h.elim

theorem ResultOf.metricOf {kind : ResultKind} {v : Value} {list : List Series}
    (h : ResultOf kind v list) {i : Nat} {s : Series} (hs : list[i]? = some s) :
    ∃ items e, v = .array items ∧ items[i]? = some e ∧ MetricOf (e.member? "metric") s.metric := by
  cases kind with
  | vector | matrix =>
    obtain ⟨entries, rfl, hentries⟩ := h
    obtain ⟨hlength, hget⟩ := List.forall₂_iff_get.mp hentries
    obtain ⟨hi, rfl⟩ := List.getElem?_eq_some_iff.mp hs
    have hi' : i < entries.length := hlength ▸ hi
    exact ⟨entries, entries[i], rfl, List.getElem?_eq_getElem hi', (hget i hi' hi).metricOf⟩
  | scalar =>
    obtain ⟨x, ⟨n, text, rfl, -, -⟩, rfl⟩ := h
    obtain ⟨hi, rfl⟩ := List.getElem?_eq_some_iff.mp hs
    obtain rfl : i = 0 := by simpa using hi
    exact ⟨_, .number n, rfl, rfl, rfl⟩

theorem Answers.labels {query : String} {v : Value} {r : QueryResults} (h : Answers query v r)
    {i : Nat} {s : Series} (hs : r.series[i]? = some s) :
    s.metric.Ascending ∧ ∀ name, IsRead (labelMember? v i name) (s.metric.get? name) := by
  obtain ⟨kind, result, ⟨body, data, rfl, -, hdata, -, hresult⟩, -, -, hseries⟩ := h
  obtain ⟨items, e, rfl, he, hmetric⟩ := hseries.metricOf hs
  refine ⟨hmetric.ascending, fun name => ?_⟩
  have hmember : labelMember? (.object body) i name =
      (e.member? "metric").bind (·.member? name) := by
    simp [labelMember?, Value.member?, Value.object?, Value.array?, hdata, hresult, he]
  rw [hmember]
  exact hmetric.isRead name

/-- What is under a name among the exported labels of a series is what is under the name behind the
mark among all its labels, and these are the members of the response's metric. Taking off the mark
joins no two labels, and leaves them in the order of their bytes. -/
theorem labels_agree {query : String} {v : Value} {r : QueryResults}
    (h : QueryResults.ofResponse query v = .ok r) {i : Nat} {s : Series}
    (hs : r.series[i]? = some s) :
    (∀ name value, (name, value) ∈ s.labels ↔ s.label ("label_" ++ name) = .ok value) ∧
    (∀ field, s.label field = .error (.missingLabel field) ↔ labelMember? v i field = none) ∧
    (∀ field value, s.label field = .ok value ↔ labelMember? v i field = some (.string value)) ∧
    s.labels.map (fun (name, value) => ("label_" ++ name, value)) =
      s.metric.filter (fun (key, _) => "label_".toList.isPrefixOf key.toList) ∧
    s.labels.length = s.metric.countP (fun (key, _) => "label_".toList.isPrefixOf key.toList) ∧
    s.labels.Pairwise (fun a b => Utf8.ofString a.1 < Utf8.ofString b.1) := by
  obtain ⟨hascending, hread⟩ := (ofResponse_eq_ok.mp h).labels hs
  have hmarked := Series.labels_marked hascending
  refine ⟨fun _ _ => Series.mem_labels hascending, ?_, ?_, hmarked, ?_, ?_⟩
  · exact fun field => Series.label_eq_missing.trans (hread field).eq_none_iff
  · exact fun field value => Series.label_eq_ok.trans ((hread field).eq_some_iff value)
  · have hlength := congrArg List.length hmarked
    rw [List.length_map] at hlength
    rw [hlength, List.countP_eq_length_filter]
    rfl
  · rw [Series.labels_eq hascending]
    exact (Series.exported_ascending hascending).imp Utf8.ofString_lt

/-- A series with a label that is nothing but the mark, and with one whose own name has the mark. -/
def twiceMarked : Value := .object
  [("data", .object
    [("result", .array [.object
      [("metric", .object [("job", .string "api"), ("label_", .string "e"),
          ("label_label_x", .string "y"), ("label_x", .string "z")]),
        ("value", .array [.number ten, .string "NaN"])]]),
      ("resultType", .string "vector")]),
    ("status", .string "success")]

theorem labels_agree_twice : ∃ r s, QueryResults.ofResponse "up" twiceMarked = .ok r ∧
    r.series[0]? = some s ∧ ("", "e") ∈ s.labels ∧ ("label_x", "y") ∈ s.labels ∧
      s.labels.length = 3 ∧ s.label "pod" = .error (.missingLabel "pod") := by
  let metric := [("job", "api"), ("label_", "e"), ("label_label_x", "y"), ("label_x", "z")]
  have hread : QueryResults.ofResponse "up" twiceMarked =
      .ok ⟨"up", some .vector, [⟨metric, [⟨.ofInt 10, .nan⟩]⟩]⟩ := by decide +kernel
  obtain ⟨hmem, hmissing, -, -, hlength, -⟩ := labels_agree hread (i := 0) rfl
  refine ⟨_, _, hread, rfl, (hmem _ _).mpr ?_, (hmem _ _).mpr ?_, ?_, (hmissing _).mpr ?_⟩
  · decide +kernel
  · decide +kernel
  · rw [hlength]
    decide +kernel
  · decide +kernel

end Response

end MetricBatch
