import MetricBatch.CommandLine.Program
import MetricBatch.Proofs.Config.Layers
import MetricBatch.Proofs.Json.Printed
import MetricBatch.Proofs.Session.Batch

namespace MetricBatch

open Json

theorem QueryResults.document_query (r : QueryResults) :
    r.document.tree.member? "query" = some (.string r.query) := rfl

theorem QueryResults.document_kind (r : QueryResults) : r.document.tree.member? "result_type" =
    some ((r.kind.map fun k => Tree.string k.name).getD .null) := by
  obtain ⟨query, kind, series⟩ := r
  cases kind <;> rfl

/-- A document of a query that failed. -/
def isFailed (doc : Tree) : Bool := (doc.member? "result_type").any Tree.isNull

theorem QueryResults.isFailed_document (r : QueryResults) :
    isFailed r.document.tree = r.kind.isNone := by
  rw [isFailed, r.document_kind]
  cases r.kind <;> rfl

/-- The failed documents are those of the placeholders. -/
theorem filter_isFailed (results : List QueryResults) :
    (results.map (·.document.tree)).filter isFailed =
      (results.filter (·.kind.isNone)).map (·.document.tree) := by
  rw [List.filter_map]
  congr 1
  exact List.filter_congr fun r _ => r.isFailed_document

theorem QueryResults.reads_render (r : QueryResults) (pretty : Bool) :
    Reads (r.render pretty).toList r.document.tree := by
  unfold QueryResults.render
  cases pretty with
  | true =>
    rw [if_pos rfl, Value.pretty, String.toList_ofList]
    exact r.document.reads_pretty 0
  | false =>
    rw [if_neg Bool.false_ne_true, Value.compact, String.toList_ofList]
    exact r.document.reads_compact

namespace CommandLine

theorem documents_eq (pretty : Bool) (results : List QueryResults) : documents pretty results =
    String.ofList ((results.map fun r => (r.render pretty).toList).flatMap (· ++ ['\n'])) := by
  rw [← String.toList_inj, documents, String.toList_join, String.toList_ofList, List.flatMap_map,
    List.flatMap_map]
  simp

theorem documents_readAll (pretty : Bool) (results : List QueryResults) :
    Tree.readAll (documents pretty results) = some (results.map (·.document.tree)) := by
  rw [documents_eq]
  apply Tree.readAll_lines
  rw [List.forall₂_map_left_iff, List.forall₂_map_right_iff, List.forall₂_same]
  exact fun r _ => r.reads_render pretty

theorem compact_lines (results : List QueryResults) :
    let lines := results.map (·.document.compact)
    documents false results = String.join (lines.map (· ++ "\n")) ∧
      lines.map Tree.read = results.map (some ·.document.tree) ∧
      ∀ line ∈ lines, ∀ c ∈ line.toList, 0x20 ≤ c.toNat := by
  refine ⟨?_, ?_, ?_⟩
  · rw [List.map_map]
    rfl
  · rw [List.map_map]
    exact List.map_congr_left fun r _ => by rw [Function.comp_apply, r.document.read_compact]
  · intro line hline
    obtain ⟨r, _, rfl⟩ := List.mem_map.mp hline
    rw [Value.compact, String.toList_ofList]
    exact r.document.compact_plain

/-- What the program reports of a session's batch. -/
def reportOf (a : Arguments) (batch : Session × List QueryResults) : Report :=
  let errors := batch.1.errors.entries
  { exit := if errors.isEmpty then 0 else 1
    output := documents a.pretty batch.2
    errors := errorLines errors a.queries.length }

theorem runQueries_eq (w : Surroundings) (a : Arguments) (config : Config) (client : Client)
    (range : Option QueryRange) : runQueries w a config client range =
      reportOf a (Session.batch (.ofClient client config.timeout w.network) config.maxConcurrency
        (a.queries.map fun text => ⟨text, range⟩)) := rfl

/-- A report of the queries of the arguments, by the documents on its output. -/
structure Report.Keeps (r : Report) (a : Arguments) (docs : List Tree) : Prop where
  /-- One document for each query, in the order of the queries. -/
  queries : docs.map (Tree.member? "query") = a.queries.map fun text => some (.string text)
  kinds : ∀ doc ∈ docs, (doc.member? "result_type").isSome = true
  output : Tree.readAll r.output = some docs
  /-- Without control characters each document stays on one line. -/
  lines : a.pretty = false → ∃ lines : List String, r.output = String.join (lines.map (· ++ "\n")) ∧
    lines.map Tree.read = docs.map some ∧ ∀ line ∈ lines, ∀ c ∈ line.toList, 0x20 ≤ c.toNat
  success : r.exit = 0 ↔ ∀ doc ∈ docs, isFailed doc = false
  silence : r.exit = 0 → r.errors = ""
  /-- Of each query that failed there is one error. -/
  failure : r.exit ≠ 0 → r.exit = 1 ∧ ∃ errors : List QueryError,
    (errors.map fun e => some (Tree.string e.query)).Perm
      ((docs.filter isFailed).map (Tree.member? "query")) ∧
    let failed := docs.countP isFailed
    errors.length = failed ∧ 1 ≤ failed ∧ failed ≤ a.queries.length ∧
    r.errors = String.join (errors.map fun e => s!"error: {e.message}\n") ++
      s!"Error: {failed} of {a.queries.length} queries failed\n"

theorem errorLines_eq {errors : List QueryError} (h : errors ≠ []) (count : Nat) :
    errorLines errors count = String.join (errors.map fun e => s!"error: {e.message}\n") ++
      s!"Error: {errors.length} of {count} queries failed\n" := by
  have htail : " queries failed\n" = " queries failed" ++ "\n" := rfl
  rw [errorLines, if_neg (by simpa using h), htail]
  simp [failureText, String.append_assoc, toString]

theorem reportOf_success (a : Arguments) (session : Session) (results : List QueryResults) :
    (reportOf a (session, results)).exit = 0 ↔ session.errors.entries = [] := by
  cases h : session.errors.entries with
  | nil => simp [reportOf, h]
  | cons e rest => simp [reportOf, h]

theorem reportOf_keeps (setup : Setup) (maxConcurrency : Nat) (a : Arguments)
    (range : Option QueryRange) :
    let batch := Session.batch setup maxConcurrency (a.queries.map fun text => ⟨text, range⟩)
    (reportOf a batch).Keeps a (batch.2.map (·.document.tree)) := by
  intro batch
  obtain ⟨hqueries, herrors⟩ := Session.batch_reads setup maxConcurrency
    (a.queries.map fun text => ⟨text, range⟩)
  have htexts : batch.2.map (·.query) = a.queries := by
    rw [hqueries, List.map_map]
    exact List.map_id' _
  have hcount : batch.1.errors.entries.length = (batch.2.map (·.document.tree)).countP isFailed := by
    rw [List.countP_eq_length_filter, filter_isFailed, List.length_map]
    simpa using herrors.length_eq
  constructor
  case queries =>
    rw [List.map_map, ← htexts, List.map_map]
    exact List.map_congr_left fun r _ => r.document_query
  case kinds =>
    intro doc hdoc
    obtain ⟨r, _, rfl⟩ := List.mem_map.mp hdoc
    rw [r.document_kind]
    rfl
  case output => exact documents_readAll a.pretty batch.2
  case lines =>
    intro hcompact
    obtain ⟨houtput, hread, hplain⟩ := compact_lines batch.2
    refine ⟨_, ?_, by rw [hread, List.map_map]; rfl, hplain⟩
    rw [reportOf, hcompact]
    exact houtput
  case success =>
    rw [reportOf_success, ← List.length_eq_zero_iff, hcount, List.countP_eq_zero]
    simp only [Bool.not_eq_true]
  case silence =>
    intro hexit
    have hnone := (reportOf_success a batch.1 batch.2).mp hexit
    simp [reportOf, errorLines, hnone]
  case failure =>
    intro hexit
    have hsome : batch.1.errors.entries ≠ [] := mt (reportOf_success a batch.1 batch.2).mpr hexit
    have hpos := List.length_pos_iff.mpr hsome
    have hle : (batch.2.map (·.document.tree)).countP isFailed ≤ a.queries.length := by
      rw [← htexts, List.length_map, ← List.length_map (·.document.tree)]
      exact List.countP_le_length
    refine ⟨if_neg (by simpa using hsome), batch.1.errors.entries, ?_, hcount, by omega, hle, ?_⟩
    · rw [filter_isFailed, List.map_map]
      have hperm := herrors.map fun text => some (Tree.string text)
      rwa [List.map_map, List.map_map] at hperm
    · rw [← hcount]
      exact errorLines_eq hsome a.queries.length

theorem run_eq {w : Surroundings} {args : List String} {a : Arguments} {config : Config}
    {client : Client} {range : Option QueryRange}
    (hread : Arguments.read w.environment args = .ok a)
    (hload : Config.load w.files a.config w.defaultConfig w.environment a.settings = .ok config)
    (hclient : config.client = .ok client) (hwindow : a.window w.now = .ok range) :
    run w args = runQueries w a config client range := by
  simp only [run, hread, runArguments, hload, hclient, hwindow]

/-- The contract of the program's output, for all arguments that can be read, with a configuration
that can be loaded and a range that is possible, whatever the backend does and in whatever order it
answers. The documents do not depend on the form in which they are printed. -/
theorem run_keeps {w : Surroundings} {args : List String} {a : Arguments} {config : Config}
    {range : Option QueryRange} (hread : Arguments.read w.environment args = .ok a)
    (hload : Config.load w.files a.config w.defaultConfig w.environment a.settings = .ok config)
    (hwindow : a.window w.now = .ok range) :
    (∃ docs, (run w args).Keeps a docs ∧ ∀ pretty args',
      Arguments.read w.environment args' = .ok { a with pretty } →
        (run w args').Keeps { a with pretty } docs) ∧
    ∀ setup : Setup, ∃ docs, ∀ pretty,
      (reportOf { a with pretty } (Session.batch setup config.maxConcurrency
        (a.queries.map fun text => ⟨text, range⟩))).Keeps { a with pretty } docs := by
  have hslow : ∀ setup : Setup, ∃ docs, ∀ pretty,
      (reportOf { a with pretty } (Session.batch setup config.maxConcurrency
        (a.queries.map fun text => ⟨text, range⟩))).Keeps { a with pretty } docs := by
    intro setup
    let batch := Session.batch setup config.maxConcurrency (a.queries.map fun text => ⟨text, range⟩)
    exact ⟨batch.2.map (·.document.tree), fun pretty =>
      reportOf_keeps setup config.maxConcurrency { a with pretty } range⟩
  refine ⟨?_, hslow⟩
  obtain ⟨_, _, husable⟩ := Config.load_ok hload
  obtain ⟨client, hclient, _⟩ := husable.client
  obtain ⟨docs, hdocs⟩ := hslow (.ofClient client config.timeout w.network)
  have hrun (pretty : Bool) (args' : List String)
      (hread' : Arguments.read w.environment args' = .ok { a with pretty }) :
      (run w args').Keeps { a with pretty } docs := by
    rw [run_eq hread' hload hclient hwindow, runQueries_eq]
    exact hdocs pretty
  exact ⟨docs, hrun a.pretty args hread, hrun⟩

/-- Nobody answers, and all there is are the arguments. -/
def silent : Surroundings :=
  ⟨fun _ => none, fun _ => none, "", .epoch, fun _ => .unanswered⟩

/-- Queries with a line feed and with a quote, one of them twice. -/
def threeQueries : Arguments :=
  { Arguments.none with queries := ["a\n", "\"", "a\n"], endpoint := some "http://[::1]" }

theorem run_keeps_silent :
    let args := ["--endpoint", "http://[::1]", "a\n", "\"", "a\n"]
    ∃ docs, (run silent args).Keeps threeQueries docs ∧
      (run silent ("--pretty" :: args)).Keeps { threeQueries with pretty := true } docs := by
  intro args
  have hread : Arguments.read silent.environment args = .ok threeQueries := rfl
  have hpretty : Arguments.read silent.environment ("--pretty" :: args) =
      .ok { threeQueries with pretty := true } := rfl
  have hload : Config.load silent.files threeQueries.config silent.defaultConfig silent.environment
      threeQueries.settings = .ok { Config.default with endpoint := "http://[::1]" } := rfl
  have hwindow : threeQueries.window silent.now = .ok none := rfl
  obtain ⟨⟨docs, hkeeps, hothers⟩, _⟩ := run_keeps hread hload hwindow
  exact ⟨docs, hkeeps, hothers true _ hpretty⟩

end CommandLine

end MetricBatch
