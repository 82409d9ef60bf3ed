import MetricBatch.Proofs.Url.Segment
import Mathlib.Data.List.DropRight

namespace MetricBatch.Url

open Text Form

/-- The segments of a path that has been read. -/
def AllSettled (list : List String) : Prop := ∀ s ∈ list, IsSettled s.toList

section Adding

variable {sofar : List String} {isLast : Bool} {segment : List Char}

theorem addSegment_of_settled (h : IsSettled segment) :
    addSegment sofar isLast segment = String.ofList segment :: sofar := by
  simp only [addSegment, h.not_parent, h.not_self, encode_path h.chars, Bool.false_eq_true, if_false]

theorem addSegments_of_settled {list : List (List Char)} (h : ∀ s ∈ list, IsSettled s) :
    addSegments sofar list = sofar.reverse ++ list.map String.ofList := by
  fun_induction addSegments sofar list with
  | case1 => simp
  | case2 sofar segment =>
    rw [addSegment_of_settled (h segment (by simp))]
    simp
  | case3 sofar segment rest _ ih =>
    rw [List.forall_mem_cons] at h
    rw [ih h.2, addSegment_of_settled h.1]
    simp

theorem AllSettled.addSegment (hsofar : AllSettled sofar)
    (h : ∀ c ∈ segment, c ≠ '/' ∧ c ≠ '\\') : AllSettled (addSegment sofar isLast segment) := by
  have hended : AllSettled (if isLast then [""] else []) := by
    split
    · exact List.forall_mem_singleton.mpr isSettled_nil
    · nofun
  unfold Url.addSegment
  dsimp only
  split
  · split
    · exact hended
    · split
      · exact List.forall_mem_append.mpr ⟨hended, hsofar⟩
      · exact List.forall_mem_append.mpr ⟨hended, (List.forall_mem_cons.mp hsofar).2⟩
  · rename_i hparent
    split
    · exact List.forall_mem_append.mpr ⟨hended, hsofar⟩
    · rename_i hself
      refine List.forall_mem_cons.mpr ⟨?_, hsofar⟩
      rw [String.toList_ofList]
      exact isSettled_encode h (Bool.eq_false_iff.mpr hparent) (Bool.eq_false_iff.mpr hself)

theorem AllSettled.addSegments {list : List (List Char)} (hsofar : AllSettled sofar)
    (h : ∀ segment ∈ list, ∀ c ∈ segment, c ≠ '/' ∧ c ≠ '\\') :
    AllSettled (addSegments sofar list) := by
  fun_induction Url.addSegments sofar list with
  | case1 => exact fun s hs => hsofar s (List.mem_reverse.mp hs)
  | case2 sofar segment =>
    exact fun s hs => hsofar.addSegment (h segment (by simp)) s (List.mem_reverse.mp hs)
  | case3 sofar segment rest _ ih =>
    rw [List.forall_mem_cons] at h
    exact ih (hsofar.addSegment h.1) h.2

end Adding

theorem mem_split {separator : Char} {cs part : List Char} (h : part ∈ split separator cs) :
    ∀ c ∈ part, c ∈ cs ∧ c ≠ separator := by
  induction cs generalizing part with
  | nil =>
    rw [split, List.mem_singleton] at h
    rw [h]
    exact List.forall_mem_nil _
  | cons d rest ih =>
    have hrest {p : List Char} (hp : p ∈ split separator rest) :
        ∀ c ∈ p, c ∈ d :: rest ∧ c ≠ separator :=
      fun c hc => (ih hp c hc).imp_left (List.mem_cons_of_mem d)
    rw [split] at h
    split at h
    · rcases List.mem_cons.mp h with rfl | hlater
      · exact List.forall_mem_nil _
      · exact hrest hlater
    · rename_i hd
      have hfirst : d ∈ d :: rest ∧ d ≠ separator := ⟨List.mem_cons_self, hd⟩
      split at h
      · rename_i first parts heq
        rcases List.mem_cons.mp h with rfl | hlater
        · exact List.forall_mem_cons.mpr ⟨hfirst, hrest (heq ▸ List.mem_cons_self)⟩
        · exact hrest (heq ▸ List.mem_cons_of_mem first hlater)
      · rw [List.mem_singleton] at h
        rw [h]
        exact List.forall_mem_singleton.mpr hfirst

theorem allSettled_segments (cs : List Char) : AllSettled (segments true cs) := by
  have hempty : AllSettled [] := nofun
  refine hempty.addSegments fun segment hsegment c hc => ?_
  obtain ⟨hmem, hslash⟩ := mem_split hsegment c hc
  refine ⟨hslash, ?_⟩
  rw [if_pos rfl] at hmem
  obtain ⟨d, -, rfl⟩ := List.mem_map.mp hmem
  split
  · decide
  · assumption

theorem rootedPath_settled (cs : List Char) :
    ∃ list, rootedPath true cs = .segments list ∧ AllSettled list := by
  unfold rootedPath
  split
  · exact ⟨[""], rfl, List.forall_mem_singleton.mpr isSettled_nil⟩
  · split
    · exact ⟨_, rfl, allSettled_segments _⟩
    · exact ⟨_, rfl, allSettled_segments _⟩

/-- Each segment behind a slash. -/
def joined (list : List (List Char)) : List Char := list.flatMap ('/' :: ·)

theorem text_segments (list : List String) :
    (Path.segments list).text.toList = joined (list.map String.toList) := by
  simp [Path.text, joined, String.toList_join, List.flatMap_map]

theorem split_joined {first : List Char} {rest : List (List Char)}
    (h : ∀ s ∈ first :: rest, '/' ∉ s) : split '/' (first ++ joined rest) = first :: rest := by
  induction rest generalizing first with
  | nil =>
    rw [joined, List.flatMap_nil, List.append_nil]
    exact split_of_not_mem (h first (by simp))
  | cons next rest ih =>
    rw [List.forall_mem_cons] at h
    have hnext : joined (next :: rest) = '/' :: (next ++ joined rest) := List.flatMap_cons
    rw [hnext, split_append h.1, ih h.2]

theorem joined_chars {list : List (List Char)} (h : ∀ s ∈ list, IsSettled s) :
    ∀ c ∈ joined list, c = '/' ∨ isPathChar c = true := by
  intro c hc
  obtain ⟨s, hs, hmem⟩ := List.mem_flatMap.mp hc
  exact (List.mem_cons.mp hmem).imp_right ((h s hs).chars c)

/-- Settled segments are read from their text as they are. -/
theorem rootedPath_joined {list : List (List Char)} (hne : list ≠ []) (h : ∀ s ∈ list, IsSettled s) :
    rootedPath true (joined list) = .segments (list.map String.ofList) := by
  obtain ⟨first, rest, rfl⟩ := List.exists_cons_of_ne_nil hne
  have hslash : ∀ s ∈ first :: rest, '/' ∉ s :=
    fun s hs => not_mem_of_path (h s hs).chars (by decide)
  have hjoined : joined (first :: rest) = '/' :: (first ++ joined rest) := List.flatMap_cons
  have hchars : ∀ c ∈ first ++ joined rest, (if c = '\\' then '/' else c) = c := by
    intro c hc
    rw [if_neg]
    rintro rfl
    have hmem : '\\' ∈ joined (first :: rest) := hjoined ▸ List.mem_cons_of_mem _ hc
    exact absurd (joined_chars h _ hmem) (by decide)
  rw [hjoined, rootedPath]
  simp only [decide_true, Bool.true_or, if_true]
  rw [segments, if_pos rfl, List.map_congr_left hchars, List.map_id', split_joined hslash,
    addSegments_of_settled h, List.reverse_nil, List.nil_append]

/-- Slashes at the end of the text are empty segments at the end of the list. -/
theorem rdropWhile_joined {list : List (List Char)} (h : ∀ s ∈ list, '/' ∉ s) :
    (joined list).rdropWhile (· == '/') = joined (list.rdropWhile List.isEmpty) := by
  induction list using List.reverseRecOn with
  | nil => rfl
  | append_singleton init last ih =>
    obtain ⟨hinit, hlast⟩ := List.forall_mem_append.mp h
    rw [List.forall_mem_singleton] at hlast
    have hjoined : joined (init ++ [last]) = joined init ++ '/' :: last := by
      simp [joined]
    rcases last.eq_nil_or_concat' with rfl | ⟨front, c, rfl⟩
    · rw [hjoined, List.rdropWhile_concat_pos _ _ _ rfl, List.rdropWhile_concat_pos _ _ _ rfl,
        ih hinit]
    · have hc : ¬((c == '/') = true) := by
        rw [beq_iff_eq]
        rintro rfl
        exact hlast (List.mem_append_right _ List.mem_cons_self)
      rw [List.rdropWhile_concat_neg List.isEmpty _ _ (by simp), hjoined, ← List.cons_append,
        ← List.append_assoc, List.rdropWhile_concat_neg (· == '/') _ _ hc]

theorem rdropWhile_append_empty (list : List String) (n : Nat) :
    (list ++ List.replicate n "").rdropWhile String.isEmpty = list.rdropWhile String.isEmpty := by
  induction n with
  | zero => rw [List.replicate_zero, List.append_nil]
  | succ n ih =>
    rw [List.replicate_succ', ← List.append_assoc, List.rdropWhile_concat_pos _ _ _ rfl, ih]

/-- The last segment is added like any other one, but for an empty segment that can stand behind it. -/
theorem addSegment_last (sofar : List String) (segment : List Char) : ∃ n,
    addSegment sofar true segment = List.replicate n "" ++ addSegment sofar false segment := by
  unfold addSegment
  dsimp only
  split
  · split
    · exact ⟨1, rfl⟩
    · split
      · exact ⟨1, rfl⟩
      · exact ⟨1, rfl⟩
  · split
    · exact ⟨1, rfl⟩
    · exact ⟨0, rfl⟩

theorem addSegments_slashes (sofar : List String) {list : List (List Char)} (hne : list ≠ [])
    (n : Nat) : (addSegments sofar (list ++ List.replicate n [])).rdropWhile String.isEmpty =
      (addSegments sofar list).rdropWhile String.isEmpty := by
  fun_induction addSegments sofar list with
  | case1 => exact absurd rfl hne
  | case2 sofar segment =>
    cases n with
    | zero =>
      rw [List.replicate_zero, List.append_nil]
      rfl
    | succ n =>
      obtain ⟨k, hk⟩ := addSegment_last sofar segment
      have hmore : addSegments sofar ([segment] ++ List.replicate (n + 1) []) =
          addSegments (addSegment sofar false segment) (List.replicate (n + 1) []) := rfl
      have hsettled : ∀ s ∈ List.replicate (n + 1) ([] : List Char), IsSettled s := by
        intro s hs
        rw [List.eq_of_mem_replicate hs]
        exact isSettled_nil
      have hempty : (List.replicate (n + 1) ([] : List Char)).map String.ofList =
          List.replicate (n + 1) "" := List.map_replicate
      rw [hmore, addSegments_of_settled hsettled, hempty, rdropWhile_append_empty, hk,
        List.reverse_append, List.reverse_replicate, rdropWhile_append_empty]
  | case3 sofar segment rest hrest ih =>
    have hmore : addSegments sofar (segment :: rest ++ List.replicate n []) =
        addSegments (addSegment sofar false segment) (rest ++ List.replicate n []) := by
      obtain ⟨next, more, rfl⟩ := List.exists_cons_of_ne_nil hrest
      rfl
    rw [hmore, ih hrest]

theorem split_ne_nil (separator : Char) (cs : List Char) : split separator cs ≠ [] := by
  unfold split
  split
  · exact List.cons_ne_nil _ _
  · split
    · exact List.cons_ne_nil _ _
    · split <;> exact List.cons_ne_nil _ _

theorem split_separators (separator : Char) (cs : List Char) (n : Nat) :
    split separator (cs ++ List.replicate n separator) =
      split separator cs ++ List.replicate n [] := by
  induction cs with
  | nil =>
    induction n with
    | zero => rfl
    | succ n ih =>
      have hfirst := @split_append separator [] List.not_mem_nil (List.replicate n separator)
      rw [List.nil_append] at ih hfirst ⊢
      rw [List.replicate_succ, hfirst, ih]
      rfl
  | cons c cs ih =>
    rw [List.cons_append, split, split, ih]
    obtain ⟨first, rest, heq⟩ := List.exists_cons_of_ne_nil (split_ne_nil separator cs)
    rw [heq]
    split <;> rfl

theorem segments_slashes {slashes : List Char} (h : ∀ c ∈ slashes, c = '/' ∨ c = '\\')
    (cs : List Char) : (segments true (cs ++ slashes)).rdropWhile String.isEmpty =
      (segments true cs).rdropWhile String.isEmpty := by
  have hslashes : (slashes.map fun c => if c = '\\' then '/' else c) =
      List.replicate slashes.length '/' := by
    rw [List.eq_replicate_iff, List.length_map]
    refine ⟨rfl, fun d hd => ?_⟩
    obtain ⟨c, hc, rfl⟩ := List.mem_map.mp hd
    rcases h c hc with rfl | rfl <;> rfl
  simp only [segments, if_true, List.map_append, hslashes, split_separators]
  exact addSegments_slashes [] (split_ne_nil _ _) _

/-- The segments before the slashes at its end are those of a path in its text. -/
theorem rootedPath_slashes {cs slashes : List Char} (hcs : ∀ c ∈ cs.head?, c = '/' ∨ c = '\\')
    (h : ∀ c ∈ slashes, c = '/' ∨ c = '\\') {list list' : List String}
    (hlist : rootedPath true cs = .segments list)
    (hlist' : rootedPath true (cs ++ slashes) = .segments list') :
    list'.rdropWhile String.isEmpty = list.rdropWhile String.isEmpty := by
  have hrooted {c : Char} {rest : List Char} (hc : c = '/' ∨ c = '\\') :
      rootedPath true (c :: rest) = .segments (segments true rest) := by
    rcases hc with rfl | rfl <;> rfl
  cases cs with
  | nil =>
    obtain rfl : [""] = list := Path.segments.inj hlist
    cases slashes with
    | nil =>
      obtain rfl : [""] = list' := Path.segments.inj hlist'
      rfl
    | cons c slashes =>
      obtain ⟨hc, hslashes⟩ := List.forall_mem_cons.mp h
      rw [List.nil_append, hrooted hc] at hlist'
      rw [← Path.segments.inj hlist']
      exact segments_slashes hslashes []
  | cons c rest =>
    have hc := hcs c rfl
    rw [hrooted hc] at hlist
    rw [List.cons_append, hrooted hc] at hlist'
    rw [← Path.segments.inj hlist, ← Path.segments.inj hlist']
    exact segments_slashes h rest

end MetricBatch.Url
