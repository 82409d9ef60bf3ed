import MetricBatch.Proofs.Session.Tallies

namespace MetricBatch

namespace Stage

variable {query : String} {stage next last : Stage} {event : Event} {events told : List Event}

/-- An event begins a later stage, or it is a warning and begins none. -/
theorem after?_cases (h : stage.after? event = some next) :
    of? event = some next ∧ stage.rank < next.rank ∨ of? event = none ∧ next = stage := by
  unfold after? at h
  split at h
  all_goals cases h
  all_goals first | exact .inl ⟨rfl, by decide⟩ | exact .inr ⟨rfl, rfl⟩

theorem next?_cases (h : next? query stage event = some next) :
    of? event = some next ∧ stage.rank < next.rank ∨ of? event = none ∧ next = stage := by
  unfold next? at h
  split at h
  · exact after?_cases h
  · cases h

theorem follow?_append (query : String) (stage : Stage) (events told : List Event) :
    follow? query stage (events ++ told) =
      (follow? query stage events).bind fun next => follow? query next told :=
  List.foldlM_append

/-- Whoever follows its events begins each stage once, and never one that is not ahead. -/
theorem follow?_ranks (h : follow? query stage events = some last) :
    (events.filterMap of?).Pairwise (·.rank < ·.rank) ∧
      ∀ s ∈ events.filterMap of?, stage.rank < s.rank := by
  induction events generalizing stage with
  | nil => simp
  | cons event rest ih =>
    obtain ⟨next, hnext, hrest⟩ := Option.bind_eq_some_iff.mp h
    obtain ⟨hpairs, hahead⟩ := ih hrest
    rcases next?_cases hnext with ⟨hof, hlt⟩ | ⟨hof, rfl⟩
    · rw [List.filterMap_cons_some hof, List.pairwise_cons]
      refine ⟨⟨hahead, hpairs⟩, ?_⟩
      intro s hs
      rcases List.mem_cons.mp hs with rfl | hm
      · exact hlt
      · exact Nat.lt_trans hlt (hahead s hm)
    · rw [List.filterMap_cons_none hof]
      exact ⟨hpairs, hahead⟩

/-- Warnings leave a worker where it is. -/
theorem follow?_warnings (query : String) (texts : List String) (events : List Event) :
    follow? query .decoding (texts.map (Event.warning query) ++ events) =
      follow? query .decoding events := by
  induction texts with
  | nil => rfl
  | cons text rest ih =>
    have hstay : next? query .decoding (.warning query text) = some .decoding := by
      simp [next?, Event.query?, after?]
    rw [List.map_cons, List.cons_append, follow?, List.foldlM_cons, hstay]
    exact ih

theorem follow?_one (query : String) (stage : Stage) (event : Event) :
    follow? query stage [event] = next? query stage event := by
  cases hnext : next? query stage event <;> simp [follow?, hnext]

/-- The events of an answer lead to what the last one makes of it. -/
theorem follow?_decoded (query : String) (size : Nat) (texts : List String) (event : Event) :
    follow? query .answered (.decoding query size :: texts.map (Event.warning query) ++ [event]) =
      next? query .decoding event := by
  have hdecoding : next? query .answered (.decoding query size) = some .decoding := by
    simp [next?, Event.query?, after?]
  rw [List.cons_append, follow?, List.foldlM_cons, hdecoding, ← follow?_one]
  exact follow?_warnings query texts [event]

/-- A failed worker that has not decoded its answer. -/
theorem next?_transport (query : String) (status : Option Nat) (detail : String)
    (h : stage = .created ∨ stage = .awaiting ∨ stage = .answered) :
    next? query stage (.failed (.transport query status detail)) = some .failed := by
  rcases h with rfl | rfl | rfl
  all_goals simp [next?, Event.query?, QueryError.query, after?]

/-- Whatever is sent, it may find nobody. -/
theorem next?_unwanted (query : String) (results : QueryResults) :
    next? query (ofResults results) (.unwanted query) = some .published := by
  unfold ofResults
  split <;> simp [next?, Event.query?, after?]

end Stage

namespace Worker

open Stage

variable {setup : Setup} {clock : Nat} {w w' : Worker} {errors : List QueryError} {stage : Stage}

/-- A worker's step takes it on from the stage that fits it to another that fits it. -/
theorem Steps.follows (hs : w.Steps setup clock w' errors) (h : w.Orderly) (hf : stage.Fits w) :
    ∃ next, follow? w.query.text stage (w.nextEvents setup) = some next ∧ next.Fits w' := by
  unfold Fits at hf
  cases hs with
  | start hp =>
    simp only [hp] at hf
    exact ⟨.awaiting, by simp [nextEvents, hp, hf, follow?, next?, Event.query?, after?], rfl⟩
  | call hp =>
    simp only [hp] at hf
    exact ⟨.inFlight, by simp [nextEvents, hp, hf, follow?, next?, Event.query?, after?], rfl⟩
  | hangUp hp =>
    simp only [hp] at hf
    exact ⟨.answered, by simp [nextEvents, hp, hf, follow?, next?, Event.query?, after?], rfl⟩
  | @succeed result results hp ho =>
    simp only [hp] at hf
    have hkind := ((result.outcome_kind setup.timeout w.query.text).1 results ho).2
    have hfits : Stage.parsed = ofResults results := by simp [ofResults, hkind]
    obtain ⟨size, texts, hnext⟩ := nextEvents_succeeded hp ho
    refine ⟨.parsed, ?_, hfits⟩
    rw [hf, hnext, follow?_decoded]
    simp [next?, Event.query?, after?]
  | @fail result error hp ho =>
    simp only [hp] at hf
    have hfits : Stage.failed = ofResults (.placeholder w.query.text) := rfl
    refine ⟨.failed, ?_, hfits⟩
    rw [hf]
    rcases nextEvents_failed hp ho with ⟨size, texts, hnext, he⟩ | ⟨hnext, status, detail, rfl⟩
    · rw [hnext, follow?_decoded]
      rcases he with ⟨detail, rfl⟩ | ⟨source, rfl⟩
      all_goals simp [next?, Event.query?, QueryError.query, after?]
    · rw [hnext, follow?_one]
      exact next?_transport _ _ _ (.inr (.inr rfl))
  | die hp ho =>
    simp only [hp] at hf
    have hsender := h.sender (by simp [hp, Phase.remaining])
    refine ⟨stage, ?_, by simp [Fits, hsender, hf]⟩
    rw [nextEvents_lost hp ho]
    rfl
  | @publish results hp =>
    simp only [hp] at hf
    have hsender := h.sender (by simp [hp, Phase.remaining])
    rw [h.publish_eq hp, hf]
    by_cases hw : w.wanted = true
    · exact ⟨ofResults results, by simp [nextEvents, hp, hw, follow?], .inl rfl⟩
    · have hnext : w.nextEvents setup = [.unwanted w.query.text] := by
        simp [nextEvents, hp, hw, hsender]
      rw [hnext, follow?_one]
      exact ⟨.published, next?_unwanted _ _, .inr rfl⟩
  | lose hp hsender =>
    simp only [hp, hsender, ↓reduceIte] at hf
    have hnext : w.nextEvents setup = [.failed w.loss] := by simp [nextEvents, hp, hsender]
    rw [hnext, follow?_one]
    exact ⟨.failed, next?_transport _ _ _ hf, by simp [Fits, Closes, h.unsent hsender]⟩
  | leave hp hsender =>
    simp only [hp, hsender] at hf
    exact ⟨stage, by simp [nextEvents, hp, hsender, follow?], hf⟩
  | close hp =>
    simp only [hp] at hf
    exact ⟨stage, by simp [nextEvents, hp, follow?], hf⟩

theorem Interrupted.follows (hs : w.Interrupted w') (h : w.Orderly) (hf : stage.Fits w) :
    ∃ next, follow? w.query.text stage w.lastEvents = some next ∧ next.Fits w' := by
  have hsender := h.sender (Nat.le_trans (by decide) hs.remaining_before)
  unfold Fits at hf
  cases hs with
  | created hp | waiting hp =>
    simp only [hp] at hf
    exact ⟨stage, by simp [lastEvents, isCalling, hp, follow?], by simp [Fits, hsender, hf]⟩
  | calling hp =>
    simp only [hp] at hf
    refine ⟨.answered, ?_, by simp [Fits, hsender]⟩
    simp [lastEvents, isCalling, hp, hf, follow?, next?, Event.query?, after?]

/-- A worker's events say whether it has sent its results to nobody in this step. -/
structure Sends (w w' : Worker) (told : List Event) : Prop where
  query : w'.query = w.query
  wanted : w'.wanted = w.wanted
  sends : w'.published = w.published ∧ (w'.sender = true → w.sender = true) ∧
      titled "Result receiver dropped before publish" told = 0 ∨
    w.sender = true ∧ w.published = [] ∧ w'.sender = false ∧ w'.hasSent = true ∧
      titled "Result receiver dropped before publish" told = if w.wanted then 0 else 1

theorem Steps.sends (hs : w.Steps setup clock w' errors) (h : w.Orderly) :
    w.Sends w' (w.nextEvents setup) := by
  refine ⟨hs.query, hs.wanted, ?_⟩
  cases hs with
  | start hp | call hp | hangUp hp | close hp =>
    exact .inl ⟨rfl, by simp, by simp [nextEvents, hp, Event.title]⟩
  | succeed hp ho =>
    obtain ⟨size, texts, hnext⟩ := nextEvents_succeeded hp ho
    exact .inl ⟨rfl, id, by simp [hnext, titled_warnings, Event.title]⟩
  | fail hp ho =>
    refine .inl ⟨rfl, id, ?_⟩
    rcases nextEvents_failed hp ho with ⟨size, texts, hnext, _⟩ | ⟨hnext, _⟩
    all_goals simp [hnext, titled_warnings, Event.title]
  | die hp ho => exact .inl ⟨rfl, id, by simp [nextEvents_lost hp ho]⟩
  | publish hp =>
    have hsender := h.sender (by simp [hp, Phase.remaining])
    refine .inr ⟨hsender, h.unsent hsender, ?_⟩
    rw [h.publish_eq hp]
    refine ⟨rfl, rfl, ?_⟩
    by_cases hw : w.wanted = true
    · simp [nextEvents, hp, hw]
    · simp [nextEvents, hp, hw, hsender, Event.title]
  | lose hp hsender | leave hp hsender =>
    exact .inl ⟨rfl, id, by simp [nextEvents, hp, hsender, Event.title]⟩

theorem Interrupted.sends (hs : w.Interrupted w') : w.Sends w' w.lastEvents := by
  refine ⟨hs.query, hs.wanted, .inl ?_⟩
  cases hs with
  | created hp | waiting hp | calling hp =>
    exact ⟨rfl, id, by simp [lastEvents, isCalling, hp, Event.title]⟩

end Worker

namespace Session

open Stage

variable {setup : Setup} {s s' : Session} {i j : Nat} {w w' : Worker} {errors : List QueryError}
  {told : List Event} {run : List Turn} {t : Turn}

/-- The turn that an action takes. -/
def turn (setup : Setup) (x : Watched) (action : Action) : Turn :=
  ⟨x.session, action, (x.act setup action).session⟩

theorem turns_concat (x : Watched) (actions : List Action) (action : Action) :
    turns setup x (actions ++ [action]) =
      turns setup x actions ++ [turn setup (actions.foldl (Watched.act setup) x) action] := by
  induction actions generalizing x with
  | nil => rfl
  | cons first rest ih => rw [List.cons_append, turns, ih]; rfl

theorem Turn.events_eq (h : t.after.events = t.before.events ++ told) : t.events = told := by
  simp [Turn.events, h]

theorem ownEvents_concat (run : List Turn) (t : Turn) (i : Nat) :
    ownEvents (run ++ [t]) i = ownEvents run i ++ if t.worker? = some i then t.events else [] := by
  by_cases h : t.worker? = some i <;> simp [ownEvents, h]

theorem isDeserted_concat (run : List Turn) (t : Turn) (i : Nat) :
    isDeserted (run ++ [t]) i = (isDeserted run i || t.deserts i) := by
  simp [isDeserted]

theorem Turn.silent (h : t.worker? = none) (j : Nat) (hj : t.worker? = some j) : t.events = [] := by
  simp [h] at hj

/-- A turn in which no worker logs anything. -/
theorem ownEvents_same (h : ∀ j, t.worker? = some j → t.events = []) (i : Nat) :
    ownEvents (run ++ [t]) i = ownEvents run i := by
  rw [ownEvents_concat]
  split
  · rename_i hi
    rw [h i hi, List.append_nil]
  · exact List.append_nil _

/-- A turn in which nobody gives anything up. -/
theorem isDeserted_same (h : ∀ j, t.deserts j = false) (i : Nat) :
    isDeserted (run ++ [t]) i = isDeserted run i := by
  rw [isDeserted_concat, h, Bool.or_false]

theorem Turn.deserts_of_worker (h : t.worker? = some i) (j : Nat) : t.deserts j = false := by
  unfold Turn.worker? at h
  unfold Turn.deserts
  cases ha : t.action <;> simp [ha] at h ⊢

/-- For each worker, whether it has sent its results and nobody was there any more. -/
def sentInVain (run : List Turn) (s : Session) : List Bool :=
  s.workers.zipIdx.map fun (w, i) => w.hasSent && isDeserted run i

theorem sentInVain_lookup (run : List Turn) (s : Session) (i : Nat) :
    (sentInVain run s)[i]? = (s.workers[i]?).map fun w => w.hasSent && isDeserted run i := by
  simp [sentInVain, Function.comp_def]

/-- A worker's step changes its own mark only. -/
theorem sentInVain_set (hc : Changes s s' i w w' errors) (hw : t.worker? = some i) :
    sentInVain (run ++ [t]) s' =
      (sentInVain run s).set i (w'.hasSent && isDeserted run i) := by
  have hlt : i < (sentInVain run s).length := by
    simpa [sentInVain] using (List.getElem?_eq_some_iff.mp hc.here).1
  apply List.ext_getElem?
  intro j
  rw [sentInVain_lookup, isDeserted_same (Turn.deserts_of_worker hw)]
  by_cases hj : j = i
  · subst hj
    rw [hc.same, List.getElem?_set_self hlt]
    rfl
  · rw [hc.other hj, List.getElem?_set_ne (Ne.symm hj), sentInVain_lookup]

/-- A worker is where its own events have brought it. As long as it can send its results, somebody
wants them just if nobody has given them up. -/
structure Traced (run : List Turn) (s : Session) : Prop where
  stages : ∀ (i : Nat) (w : Worker), s.workers[i]? = some w →
    ∃ stage, follow? w.query.text .created (ownEvents run i) = some stage ∧ stage.Fits w
  wanted : ∀ (i : Nat) (w : Worker), s.workers[i]? = some w → w.sender = true →
    isDeserted run i = !w.wanted
  absent : ∀ i : Nat, s.workers[i]? = none → ownEvents run i = [] ∧ isDeserted run i = false
  unwanted : titled "Result receiver dropped before publish" s.events =
    (sentInVain run s).countP id

theorem traced_new (setup : Setup) (maxConcurrency : Nat) :
    Traced [] (new setup maxConcurrency) := by
  constructor
  · simp [new]
  · simp [new]
  · exact fun _ _ => ⟨rfl, rfl⟩
  · simp [new, sentInVain, Event.title]

theorem Traced.step (h : Traced run s) (hc : Changes s s' i w w' errors)
    (hevents : s'.events = s.events ++ told) (hw : t.worker? = some i) (ht : t.events = told)
    (hsends : w.Sends w' told)
    (hfollows : ∀ stage : Stage, stage.Fits w →
      ∃ next, follow? w.query.text stage told = some next ∧ next.Fits w') :
    Traced (run ++ [t]) s' := by
  have hsame (j : Nat) : isDeserted (run ++ [t]) j = isDeserted run j :=
    isDeserted_same (Turn.deserts_of_worker hw) j
  have hothers {j : Nat} (hj : j ≠ i) : ownEvents (run ++ [t]) j = ownEvents run j := by
    simp [ownEvents_concat, hw, hj.symm]
  refine ⟨?_, ?_, ?_, ?_⟩
  · intro j x hx
    rcases hc.lookup hx with ⟨rfl, rfl⟩ | ⟨hj, hold⟩
    · obtain ⟨stage, hstage, hfits⟩ := h.stages j w hc.here
      obtain ⟨next, hnext, hfits'⟩ := hfollows stage hfits
      refine ⟨next, ?_, hfits'⟩
      rw [ownEvents_concat, if_pos hw, ht, hsends.query, follow?_append, hstage]
      exact hnext
    · rw [hothers hj]
      exact h.stages j x hold
  · intro j x hx hsender
    rw [hsame]
    rcases hc.lookup hx with ⟨rfl, rfl⟩ | ⟨_, hold⟩
    · rw [hsends.wanted]
      rcases hsends.sends with ⟨_, hkept, _⟩ | ⟨_, _, hgone, _⟩
      · exact h.wanted j w hc.here (hkept hsender)
      · simp [hgone] at hsender
    · exact h.wanted j x hold hsender
  · intro j hj
    have hne : j ≠ i := by
      rintro rfl
      simp [hc.same] at hj
    rw [hsame, hothers hne]
    exact h.absent j (by rwa [hc.other hne] at hj)
  · have hhere : (sentInVain run s)[i]? = some (w.hasSent && isDeserted run i) := by
      simp [sentInVain_lookup, hc.here]
    have hcount := countP_set_lookup (p := id) (b := w'.hasSent && isDeserted run i) hhere
    rw [sentInVain_set hc hw, hevents, titled_append, h.unwanted]
    rcases hsends.sends with ⟨hpublished, _, hnone⟩ | ⟨hsender, hpublished, _, hsent, htold⟩
    · have hsent : w'.hasSent = w.hasSent := by simp [Worker.hasSent, hpublished]
      rw [hsent] at hcount ⊢
      omega
    · have hnot : w.hasSent = false := by simp [Worker.hasSent, hpublished]
      rw [hsent, hnot, h.wanted i w hc.here hsender] at hcount
      rw [hsent, h.wanted i w hc.here hsender, htold]
      cases hwanted : w.wanted <;> simp [hwanted] at hcount ⊢ <;> omega

/-- Nobody but readers and changes of the capacity. -/
theorem Traced.aside (h : Traced run s) (hworkers : s'.workers = s.workers)
    (hevents : s'.events = s.events ++ told) (htold : ∀ e ∈ told, e.IsAside)
    (hw : ∀ j, t.worker? = some j → t.events = []) (hd : ∀ j, t.deserts j = false) :
    Traced (run ++ [t]) s' := by
  refine ⟨?_, ?_, ?_, ?_⟩
  · simpa only [hworkers, ownEvents_same hw] using h.stages
  · simpa only [hworkers, isDeserted_same hd] using h.wanted
  · simpa only [hworkers, ownEvents_same hw, isDeserted_same hd] using h.absent
  · have hmarks : sentInVain (run ++ [t]) s' = sentInVain run s := by
      simp only [sentInVain, hworkers, isDeserted_same hd]
    rw [hmarks, hevents, titled_append, titled_asides htold (by decide), Nat.add_zero]
    exact h.unwanted

theorem Traced.spawn (h : Traced run s) (query : Query)
    (hw : ∀ j, t.worker? = some j → t.events = []) (hd : ∀ j, t.deserts j = false) :
    Traced (run ++ [t]) (s.spawn query) := by
  have hown (j : Nat) : ownEvents (run ++ [t]) j = ownEvents run j := ownEvents_same hw j
  have hdeserted (j : Nat) : isDeserted (run ++ [t]) j = isDeserted run j := isDeserted_same hd j
  obtain ⟨hnone, hkept⟩ := h.absent s.workers.length (by simp)
  refine ⟨?_, ?_, ?_, ?_⟩
  · intro i w hi
    rw [hown]
    rcases spawn_lookup hi with hold | ⟨rfl, rfl⟩
    · exact h.stages i w hold
    · exact ⟨.created, by rw [hnone]; rfl, rfl⟩
  · intro i w hi hsender
    rw [hdeserted]
    rcases spawn_lookup hi with hold | ⟨rfl, rfl⟩
    · exact h.wanted i w hold hsender
    · rw [hkept]
      rfl
  · intro i hi
    rw [hown, hdeserted]
    apply h.absent
    simp only [Session.spawn, List.getElem?_eq_none_iff, List.length_append] at hi ⊢
    omega
  · have hmarks : sentInVain (run ++ [t]) (s.spawn query) = sentInVain run s ++ [false] := by
      simp [sentInVain, hdeserted, Session.spawn, List.zipIdx_append, Worker.new, Worker.hasSent]
    rw [hmarks, List.countP_append]
    exact h.unwanted

/-- Readers give up the results of a worker, or take them when they are there. -/
theorem Traced.forsake (h : Traced run s) (hworkers : s'.workers = (s.discard i).workers)
    (hevents : s'.events = s.events ++ told) (htold : ∀ e ∈ told, e.IsAside)
    (hw : ∀ j, t.worker? = some j → t.events = []) (hothers : ∀ j, j ≠ i → t.deserts j = false)
    (habsent : s.workers[i]? = none → t.deserts i = false)
    (hthere : ∀ w, s.workers[i]? = some w →
      (w.sender = true → t.deserts i = true) ∧ (w.hasSent = true → t.deserts i = false)) :
    Traced (run ++ [t]) s' := by
  have hown (j : Nat) : ownEvents (run ++ [t]) j = ownEvents run j := ownEvents_same hw j
  have hlookup (j : Nat) : s'.workers[j]? =
      (s.workers[j]?).map fun w => if i = j then { w with wanted := false } else w := by
    rw [hworkers, Session.discard, List.getElem?_modify]
    rfl
  refine ⟨?_, ?_, ?_, ?_⟩
  · intro j w hj
    rw [hown]
    rw [hlookup] at hj
    obtain ⟨x, hx, rfl⟩ := Option.map_eq_some_iff.mp hj
    obtain ⟨stage, hstage, hfits⟩ := h.stages j x hx
    split
    · exact ⟨stage, hstage, hfits⟩
    · exact ⟨stage, hstage, hfits⟩
  · intro j w hj hsender
    rw [hlookup] at hj
    obtain ⟨x, hx, rfl⟩ := Option.map_eq_some_iff.mp hj
    rw [isDeserted_concat]
    by_cases hij : i = j
    · subst hij
      rw [if_pos rfl] at hsender ⊢
      rw [((hthere x hx).1 hsender), Bool.or_true]
      rfl
    · rw [if_neg hij] at hsender ⊢
      rw [hothers j (Ne.symm hij), Bool.or_false]
      exact h.wanted j x hx hsender
  · intro j hj
    rw [hlookup, Option.map_eq_none_iff] at hj
    obtain ⟨hnone, hkept⟩ := h.absent j hj
    refine ⟨by rw [hown, hnone], ?_⟩
    rw [isDeserted_concat, hkept, Bool.false_or]
    by_cases hij : i = j
    · subst hij
      exact habsent hj
    · exact hothers j (Ne.symm hij)
  · have hmarks : sentInVain (run ++ [t]) s' = sentInVain run s := by
      apply List.ext_getElem?
      intro j
      rw [sentInVain_lookup, sentInVain_lookup, hlookup]
      cases hx : s.workers[j]? with
      | none => rfl
      | some x =>
        by_cases hij : i = j
        · subst hij
          have hsame : { x with wanted := false }.hasSent = x.hasSent := rfl
          simp only [Option.map_some, isDeserted_concat, ↓reduceIte, hsame]
          cases hsent : x.hasSent with
          | false => rfl
          | true => rw [(hthere x hx).2 hsent, Bool.or_false]
        · simp [hij, isDeserted_concat, hothers j (Ne.symm hij)]
    rw [hmarks, hevents, titled_append, titled_asides htold (by decide), Nat.add_zero]
    exact h.unwanted

theorem Traced.idle {x : Watched} (h : Traced run x.session) (action : Action)
    (he : (x.act setup action).session = x.session)
    (hd : ∀ j, (turn setup x action).deserts j = false) :
    Traced (run ++ [turn setup x action]) (x.act setup action).session := by
  have hevents : (x.act setup action).session.events = x.session.events ++ [] := by simp [he]
  exact h.aside (by rw [he]) hevents (by simp) (fun _ _ => Turn.events_eq hevents) hd

theorem Traced.read {x : Watched} (h : Traced run x.session) (ht : x.session.Tallied) (i : Nat) :
    Traced (run ++ [turn setup x (.read i)]) (x.act setup (.read i)).session := by
  rcases take_cases x.session i with he | ⟨w, results, events, hw, _, hr, htold, he⟩
  · exact h.idle _ (by simp [Watched.act, he]) fun _ => rfl
  · have hnext : (x.act setup (.read i)).session = (x.session.discard i).note events := by
      simp [Watched.act, he]
    have hasides : ∀ e ∈ events, e.IsAside := by
      intro e hm
      rw [htold e hm]
      trivial
    -- What can be read was sent, or can be sent no more.
    have hgone : w.sender = false := by
      have horderly := ht.orderly w (List.mem_of_getElem? hw)
      by_contra hsender
      have hsender : w.sender = true := by simpa using hsender
      simp [Worker.results?, horderly.unsent hsender, hsender] at hr
    rw [hnext]
    refine h.forsake rfl rfl hasides (Turn.silent rfl) (fun _ _ => rfl) (fun _ => rfl) ?_
    intro y hy
    rw [hw, Option.some.injEq] at hy
    rw [← hy, hgone]
    exact ⟨by simp, fun _ => rfl⟩

theorem Traced.discard {x : Watched} (h : Traced run x.session) (ht : x.session.Tallied) (i : Nat) :
    Traced (run ++ [turn setup x (.discard i)]) (x.act setup (.discard i)).session := by
  refine h.forsake rfl (List.append_nil _).symm (by simp) (Turn.silent rfl) ?_ ?_ ?_
  · intro j hj
    simp [Turn.deserts, turn, hj.symm]
  · intro hnone
    simp [Turn.deserts, turn, hnone]
  · intro w hw
    have horderly := ht.orderly w (List.mem_of_getElem? hw)
    constructor
    · intro hsender
      simp [Turn.deserts, turn, hw, Worker.hasSent, horderly.unsent hsender]
    · intro hsent
      simp [Turn.deserts, turn, hw, hsent]

theorem pollResize_events (s : Session) (id : Nat) :
    (s.pollResize id).1.events = s.events ++
      match (s.gate.advanceResize (.resize id)).2 with
      | .changed old => [Event.capacityChanged old (s.pollResize id).1.gate.capacity]
      | _ => [] :=
  rfl

theorem Traced.act {x : Watched} (h : Traced run x.session) (ht : x.session.Tallied)
    (action : Action) : Traced (run ++ [turn setup x action]) (x.act setup action).session := by
  have hsilent : x.session.events = x.session.events ++ [] := (List.append_nil _).symm
  cases action with
  | submit query => exact h.spawn query (Turn.silent rfl) fun _ => rfl
  | proceed i =>
    rcases proceed_speaks setup x.session i with he | ⟨w, w', errors, hc, hstep, hspeaks⟩
    · exact h.idle _ he fun _ => rfl
    · have horderly := ht.orderly w (List.mem_of_getElem? hc.here)
      exact h.step hc hspeaks.events rfl (Turn.events_eq hspeaks.events) (hstep.sends horderly)
        fun _ hfits => hstep.follows horderly hfits
  | interrupt i =>
    rcases interrupt_speaks x.session i with he | ⟨w, w', hc, hstep, hspeaks⟩
    · exact h.idle _ he fun _ => rfl
    · have horderly := ht.orderly w (List.mem_of_getElem? hc.here)
      exact h.step hc hspeaks.events rfl (Turn.events_eq hspeaks.events) hstep.sends
        fun _ hfits => hstep.follows horderly hfits
  | startResize target =>
    have hsame : (x.session.startResize target).workers = x.session.workers ∧
        (x.session.startResize target).events = x.session.events := by
      unfold Session.startResize
      split <;> exact ⟨rfl, rfl⟩
    exact h.aside hsame.1 (hsame.2.trans hsilent) (by simp) (Turn.silent rfl) fun _ => rfl
  | pollResize id =>
    refine h.aside rfl (pollResize_events x.session id) ?_ (Turn.silent rfl) fun _ => rfl
    intro e he
    split at he
    · rw [List.mem_singleton.mp he]
      trivial
    · cases he
  | dropResize id => exact h.aside rfl hsilent (by simp) (Turn.silent rfl) fun _ => rfl
  | elapse millis => exact h.aside rfl hsilent (by simp) (Turn.silent rfl) fun _ => rfl
  | read i => exact h.read ht i
  | discard i => exact h.discard ht i
  | readErrors => exact h.idle .readErrors rfl fun _ => rfl

end Session

end MetricBatch
