import MetricBatch.Proofs.Scan.Resuming

namespace MetricBatch.Scan

open Text

variable {ls : List (List Char)} {i : Nat} {line pattern : List Char}

/-- A character with which a name goes on. -/
def isNameChar (c : Char) : Bool := c.isAlphanum || c == '_' || 0x80 ≤ c.toNat && !isBlank c

/-- The line declares a module with the name `tests` and no longer one. -/
def declaresTests (line : List Char) : Bool :=
  opensTests line && !((trim line).drop "mod tests".length).head?.any isNameChar

/-- A line of code that belongs to no item for tests, with no test module in front of it. -/
structure Due (ls : List (List Char)) (i : Nat) (line : List Char) : Prop where
  here : ls[i]? = some line
  code : isComment line = false
  ungated : isGate line = false
  free : 0 < i → ∀ before ∈ ls[i - 1]?, isGate before = false
  outside : ∀ j < i, ∀ gate ∈ ls[j]?, isGate gate = true →
    ∀ next ∈ ls[j + 1]?, declaresTests next = false

theorem waits_take {j : Nat} (h : Waits (ls.take j)) (hj : j ≤ ls.length) :
    ∃ k gate, j = k + 1 ∧ ls[k]? = some gate ∧ isGate gate = true := by
  cases j with
  | zero => simp [Waits, gatesAtEnd] at h
  | succ k =>
    have hk : ls[k]? = some ls[k] := List.getElem?_eq_getElem hj
    refine ⟨k, ls[k], rfl, hk, ?_⟩
    by_contra hgate
    rw [List.take_add_one, hk, Option.toList_some, Waits, gatesAtEnd_concat, if_neg hgate] at h
    omega

theorem stops_take : Stops (ls.take i) ↔ ∃ j line, j < i ∧ ls[j]? = some line ∧
    Waits (ls.take j) ∧ opensTests line = true := by
  constructor
  · rintro ⟨j, line, hline, hwaits, hopens⟩
    have hj : j < i := by
      have hlength := (List.getElem?_eq_some_iff.mp hline).1
      rw [List.length_take] at hlength
      omega
    rw [List.getElem?_take_of_lt hj] at hline
    rw [List.take_take, Nat.min_eq_left (Nat.le_of_lt hj)] at hwaits
    exact ⟨j, line, hj, hline, hwaits, hopens⟩
  · rintro ⟨j, line, hj, hline, hwaits, hopens⟩
    refine ⟨j, line, ?_, ?_, hopens⟩
    · rwa [List.getElem?_take_of_lt hj]
    · rwa [List.take_take, Nat.min_eq_left (Nat.le_of_lt hj)]

theorem Due.not_waits (h : Due ls i line) : ¬Waits (ls.take i) := by
  intro hwaits
  have hi := (List.getElem?_eq_some_iff.mp h.here).1
  obtain ⟨k, gate, rfl, hgate, hisGate⟩ := waits_take hwaits (Nat.le_of_lt hi)
  have hfree := h.free (Nat.succ_pos k) gate hgate
  rw [hisGate] at hfree
  cases hfree

/-- Where the scan stops in front of such a line, it takes another module for the test module. -/
theorem Due.stops_iff (h : Due ls i line) : Stops (ls.take i) ↔ ∃ j helper, j < i ∧
    ls[j]? = some helper ∧ Waits (ls.take j) ∧ opensTests helper = true ∧
    declaresTests helper = false := by
  rw [stops_take]
  constructor
  · rintro ⟨j, helper, hj, hhelper, hwaits, hopens⟩
    have hlength := (List.getElem?_eq_some_iff.mp hhelper).1
    obtain ⟨k, gate, rfl, hgate, hisGate⟩ := waits_take hwaits (Nat.le_of_lt hlength)
    have hother := h.outside k (by omega) gate hgate hisGate helper hhelper
    exact ⟨k + 1, helper, hj, hhelper, hwaits, hopens, hother⟩
  · rintro ⟨j, helper, hj, hhelper, hwaits, hopens, -⟩
    exact ⟨j, helper, hj, hhelper, hwaits, hopens⟩

theorem Due.shown_iff {source : String} (h : Due (lines source) i line) :
    (i + 1, String.ofList line) ∈ productionLines source ↔ ¬Stops ((lines source).take i) := by
  have hplain : isPlain line = true := by simp [isPlain, h.code, h.ungated]
  rw [mem_productionLines, String.toList_ofList]
  constructor
  · rintro ⟨j, hj, -, hstops, -⟩
    obtain rfl := Nat.succ.inj hj
    exact hstops
  · intro hstops
    exact ⟨i, rfl, h.here, hstops, h.not_waits, hplain⟩

theorem occurs_iff : occurs pattern line = true ↔ pattern <:+: line := by
  induction line with
  | nil => rw [occurs, List.isEmpty_iff, List.infix_nil]
  | cons c rest ih =>
    rw [occurs, Bool.or_eq_true, List.isPrefixOf_iff_prefix, ih, List.infix_cons_iff]

theorem mem_violations {patterns : List String} {files : List (String × String)} {v : Violation} :
    v ∈ violations patterns files ↔ ∃ source line, (v.path, source) ∈ files ∧
      (v.line, line) ∈ productionLines source ∧
      (∃ pattern ∈ patterns, pattern.toList <:+: line.toList) ∧
      v.text = String.ofList (trim line.toList) := by
  obtain ⟨path, number, text⟩ := v
  simp only [violations, violationsIn, List.mem_flatMap, List.mem_filterMap, Prod.exists,
    Option.ite_none_right_eq_some, Option.some.injEq, Violation.mk.injEq, List.any_eq_true,
    occurs_iff]
  constructor
  · rintro ⟨_, source, hfile, _, line, hline, hpattern, rfl, rfl, rfl⟩
    exact ⟨source, line, hfile, hline, hpattern, rfl⟩
  · rintro ⟨source, line, hfile, hline, hpattern, rfl⟩
    exact ⟨path, source, hfile, number, line, hline, hpattern, rfl, rfl, rfl⟩

/-- A line of code in front of the test module is shown with its number as it stands, and what is
not allowed in it is found, but for one case: a gate in front takes a module along whose name begins
with `tests` and goes on. -/
theorem due_line_hidden_iff {source : String} {i : Nat} {line : List Char}
    (h : Due (lines source) i line) :
    ((i + 1, String.ofList line) ∉ productionLines source ↔
      ∃ j helper, j < i ∧ (lines source)[j]? = some helper ∧ Waits ((lines source).take j) ∧
        opensTests helper = true ∧ declaresTests helper = false) ∧
    ((i + 1, String.ofList line) ∈ productionLines source →
      ∀ files patterns path (pattern : String), (path, source) ∈ files → pattern ∈ patterns →
        pattern.toList <:+: line →
          ⟨path, i + 1, String.ofList (trim line)⟩ ∈ violations patterns files) := by
  constructor
  · rw [h.shown_iff, not_not]
    exact h.stops_iff
  · intro hshown files patterns path pattern hfile hpattern hoccurs
    have hfound : ∃ pattern ∈ patterns, pattern.toList <:+: (String.ofList line).toList :=
      ⟨pattern, hpattern, by rwa [String.toList_ofList]⟩
    exact mem_violations.mpr ⟨source, _, hfile, hshown, hfound, by rw [String.toList_ofList]⟩

/-- A module for tests, a gate in front of a gate, and a forbidden call behind both. -/
def guarded : String :=
  "#[cfg(test)]\nmod test_utils;\n" ++ "#[cfg(test)]\n#[cfg(test)]\n" ++ "x\n  y.unwrap();\n"

theorem due_line_hidden_iff_guarded :
    Due (lines guarded) 5 "  y.unwrap();".toList ∧
      (6, "  y.unwrap();") ∈ productionLines guarded ∧
      ⟨"a.rs", 6, "y.unwrap();"⟩ ∈ violations [".expect(", ".unwrap("] [("a.rs", guarded)] := by
  have hdue : Due (lines guarded) 5 "  y.unwrap();".toList :=
    ⟨by decide +kernel, by decide +kernel, by decide +kernel, by decide +kernel, by decide +kernel⟩
  have hshown : (5 + 1, String.ofList "  y.unwrap();".toList) ∈ productionLines guarded := by
    decide +kernel
  have hcall : ".unwrap(".toList <:+: "  y.unwrap();".toList := by decide +kernel
  obtain ⟨-, hseen⟩ := due_line_hidden_iff hdue
  refine ⟨hdue, by decide +kernel, ?_⟩
  exact hseen hshown [("a.rs", guarded)] [".expect(", ".unwrap("] "a.rs" ".unwrap("
    (by simp) (by simp) hcall

/-- A module for tests whose name begins with `tests`, and a forbidden call behind it. -/
def supported : String := "#[cfg(test)]\nmod tests_support;\nlet x = y.unwrap();\n"

/-- The line with the call is one that the scan should show. Nothing is shown, and the call is not
found. -/
theorem due_line_hidden :
    Due (lines supported) 2 "let x = y.unwrap();".toList ∧
      (3, "let x = y.unwrap();") ∉ productionLines supported ∧
      violations [".unwrap("] [("a.rs", supported)] = [] :=
  ⟨⟨by decide +kernel, by decide +kernel, by decide +kernel, by decide +kernel, by decide +kernel⟩,
    by decide +kernel, by decide +kernel⟩

end MetricBatch.Scan
