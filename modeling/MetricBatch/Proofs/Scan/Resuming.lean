import MetricBatch.Proofs.Scan.Lines

namespace MetricBatch.Scan

open Text

/-- What a scan does with the line that comes next. -/
inductive Mode where
  | reading
  /-- A gate takes the line along. -/
  | gated
  | closed
  deriving DecidableEq, Repr

def Mode.next : Mode → List Char → Mode
  | .reading, line => if isGate line then .gated else .reading
  | .gated, line => if opensTests line then .closed else .reading
  | .closed, _ => .closed

/-- The mode behind some lines. -/
def modeAfter (ls : List (List Char)) : Mode := ls.foldl Mode.next .reading

/-- A line that is shown if no gate takes it along. -/
def isPlain (line : List Char) : Bool := !isGate line && !isComment line

/-- What is shown of one line. -/
def shown (mode : Mode) (number : Nat) (line : List Char) : List (Nat × List Char) :=
  if mode = .reading ∧ isPlain line = true then [(number, line)] else []

/-- The production lines from a mode and a line number on. -/
def resume (mode : Mode) (number : Nat) : List (List Char) → List (Nat × List Char)
  | [] => []
  | line :: rest => shown mode number line ++ resume (mode.next line) (number + 1) rest

variable {mode : Mode} {number n : Nat} {line : List Char} {ls more : List (List Char)}

theorem mem_shown {first : List Char} : (n, line) ∈ shown mode number first ↔
    n = number ∧ first = line ∧ mode = .reading ∧ isPlain line = true := by
  unfold shown
  split
  · rename_i h
    simp only [List.mem_singleton, Prod.mk.injEq]
    constructor
    · rintro ⟨rfl, rfl⟩
      exact ⟨rfl, rfl, h⟩
    · rintro ⟨rfl, rfl, -⟩
      exact ⟨rfl, rfl⟩
  · rename_i h
    simp only [List.not_mem_nil, false_iff]
    rintro ⟨-, rfl, hplain⟩
    exact h hplain

theorem resume_closed (number : Nat) (ls : List (List Char)) : resume .closed number ls = [] := by
  induction ls generalizing number with
  | nil => rfl
  | cons line rest ih => exact ih (number + 1)

theorem productionFrom_eq (number : Nat) (ls : List (List Char)) :
    productionFrom number ls = resume .reading number ls := by
  fun_induction productionFrom number ls with
  | case1 => rfl
  | case2 number line hgate => simp [resume, shown, isPlain, hgate]
  | case3 number line hgate next rest htests =>
    simp [resume, shown, isPlain, Mode.next, hgate, htests, resume_closed]
  | case4 number line hgate next rest htests ih =>
    simp [resume, shown, isPlain, Mode.next, hgate, htests, ih]
  | case5 number line rest hgate hcomment ih =>
    simp [resume, shown, isPlain, Mode.next, hgate, hcomment, ih]
  | case6 number line rest hgate hcomment ih =>
    simp [resume, shown, isPlain, Mode.next, hgate, hcomment, ih]

theorem resume_append (mode : Mode) (number : Nat) (ls more : List (List Char)) :
    resume mode number (ls ++ more) =
      resume mode number ls ++ resume (ls.foldl Mode.next mode) (number + ls.length) more := by
  induction ls generalizing mode number with
  | nil => rfl
  | cons line rest ih =>
    have hnumber : number + (line :: rest).length = number + 1 + rest.length := by simp; omega
    rw [List.cons_append, resume, resume, ih, List.foldl_cons, hnumber, List.append_assoc]

theorem resume_shift (mode : Mode) (number shift : Nat) (ls : List (List Char)) :
    resume mode (number + shift) ls =
      (resume mode number ls).map fun (n, line) => (n + shift, line) := by
  induction ls generalizing mode number with
  | nil => rfl
  | cons line rest ih =>
    have hshown : shown mode (number + shift) line =
        (shown mode number line).map fun (n, line) => (n + shift, line) := by
      unfold shown
      split <;> rfl
    rw [resume, resume, Nat.add_right_comm, ih, hshown, List.map_append]

/-- The lines that are shown are those that are plain and come while lines are read. -/
theorem mem_resume : (n, line) ∈ resume mode number ls ↔ ∃ i, n = number + i ∧
    ls[i]? = some line ∧ (ls.take i).foldl Mode.next mode = .reading ∧ isPlain line = true := by
  induction ls generalizing mode number with
  | nil => simp [resume]
  | cons first rest ih =>
    rw [resume, List.mem_append, ih, mem_shown]
    refine Iff.trans (or_congr ?_ (exists_congr fun i => ?_)) Nat.or_exists_add_one
    · simp
    · simp [Nat.add_assoc, Nat.add_comm 1]

theorem resume_sorted (mode : Mode) (number : Nat) (ls : List (List Char)) :
    (resume mode number ls).Pairwise (·.1 < ·.1) := by
  induction ls generalizing mode number with
  | nil => exact .nil
  | cons line rest ih =>
    have hfirst : (shown mode number line).Pairwise (·.1 < ·.1) := by
      unfold shown
      split <;> simp
    refine List.pairwise_append.mpr ⟨hfirst, ih .., ?_⟩
    intro a ha b hb
    obtain ⟨hnumber, -⟩ := mem_shown.mp ha
    obtain ⟨i, hi, -⟩ := mem_resume.mp hb
    omega

theorem Mode.next_eq_closed :
    mode.next line = .closed ↔ mode = .closed ∨ mode = .gated ∧ opensTests line = true := by
  cases mode with
  | reading => by_cases h : isGate line = true <;> simp [Mode.next, h]
  | gated => by_cases h : opensTests line = true <;> simp [Mode.next, h]
  | closed => simp [Mode.next]

theorem resume_opens (h : mode.next line = .closed) (number : Nat) (rest : List (List Char)) :
    resume mode number (line :: rest) = [] := by
  have hmode : mode ≠ .reading := by
    rcases Mode.next_eq_closed.mp h with rfl | ⟨rfl, -⟩ <;> nofun
  simp [resume, shown, hmode, h, resume_closed]

/-- How many gates stand one behind the other at the end of some lines. -/
def gatesAtEnd (ls : List (List Char)) : Nat := (ls.reverse.takeWhile isGate).length

/-- The gates of a run take each other along in pairs. Of an odd number the last one is left, and
takes the line that comes next. -/
def Waits (ls : List (List Char)) : Prop := gatesAtEnd ls % 2 = 1

/-- A gate takes a line along that starts like the test module. -/
def Stops (ls : List (List Char)) : Prop :=
  ∃ i line, ls[i]? = some line ∧ Waits (ls.take i) ∧ opensTests line = true

theorem gatesAtEnd_concat (ls : List (List Char)) (line : List Char) :
    gatesAtEnd (ls ++ [line]) = if isGate line = true then gatesAtEnd ls + 1 else 0 := by
  rw [gatesAtEnd, List.reverse_concat, List.takeWhile_cons]
  split <;> rfl

theorem stops_concat : Stops (ls ++ [line]) ↔ Stops ls ∨ Waits ls ∧ opensTests line = true := by
  constructor
  · rintro ⟨i, l, hl, hwaits, hopens⟩
    rcases Nat.lt_or_ge i ls.length with hlt | hge
    · rw [List.getElem?_append_left hlt] at hl
      rw [List.take_append_of_le_length (Nat.le_of_lt hlt)] at hwaits
      exact .inl ⟨i, l, hl, hwaits, hopens⟩
    · have hi : i = ls.length := by
        have hlength := (List.getElem?_eq_some_iff.mp hl).1
        simp only [List.length_append, List.length_singleton] at hlength
        omega
      subst hi
      rw [List.getElem?_concat_length, Option.some.injEq] at hl
      rw [List.take_left] at hwaits
      exact .inr ⟨hwaits, hl ▸ hopens⟩
  · rintro (⟨i, l, hl, hwaits, hopens⟩ | ⟨hwaits, hopens⟩)
    · have hlt := (List.getElem?_eq_some_iff.mp hl).1
      refine ⟨i, l, ?_, ?_, hopens⟩
      · rwa [List.getElem?_append_left hlt]
      · rwa [List.take_append_of_le_length (Nat.le_of_lt hlt)]
    · exact ⟨ls.length, line, by simp, by simpa using hwaits, hopens⟩

theorem modeAfter_concat (ls : List (List Char)) (line : List Char) :
    modeAfter (ls ++ [line]) = (modeAfter ls).next line := by
  simp [modeAfter]

/-- What the lines are like behind which a scan is in some mode. -/
def Mode.Means : Mode → List (List Char) → Prop
  | .reading, ls => ¬Stops ls ∧ ¬Waits ls
  | .gated, ls => ¬Stops ls ∧ Waits ls
  | .closed, ls => Stops ls

theorem Mode.Means.next (h : mode.Means ls) (line : List Char) :
    (mode.next line).Means (ls ++ [line]) := by
  have hwaits : Waits (ls ++ [line]) ↔ isGate line = true ∧ ¬Waits ls := by
    unfold Waits
    rw [gatesAtEnd_concat]
    split
    · rename_i hgate
      simp only [hgate, true_and]
      omega
    · rename_i hgate
      simp [hgate]
  cases mode with
  | reading =>
    have hstops : ¬Stops (ls ++ [line]) := by simp [stops_concat, h.1, h.2]
    by_cases hgate : isGate line = true
    · rw [Mode.next, if_pos hgate]
      exact ⟨hstops, hwaits.mpr ⟨hgate, h.2⟩⟩
    · rw [Mode.next, if_neg hgate]
      exact ⟨hstops, fun hw => hgate (hwaits.mp hw).1⟩
  | gated =>
    by_cases hopens : opensTests line = true
    · rw [Mode.next, if_pos hopens]
      exact stops_concat.mpr (.inr ⟨h.2, hopens⟩)
    · rw [Mode.next, if_neg hopens]
      exact ⟨by simp [stops_concat, h.1, hopens], fun hw => (hwaits.mp hw).2 h.2⟩
  | closed => exact stops_concat.mpr (.inl h)

theorem modeAfter_means (ls : List (List Char)) : (modeAfter ls).Means ls := by
  induction ls using List.reverseRecOn with
  | nil => exact ⟨by simp [Stops], by simp [Waits, gatesAtEnd]⟩
  | append_singleton ls line ih =>
    rw [modeAfter_concat]
    exact ih.next line

theorem modeAfter_eq_reading : modeAfter ls = .reading ↔ ¬Stops ls ∧ ¬Waits ls := by
  have h := modeAfter_means ls
  cases hm : modeAfter ls <;> rw [hm] at h <;> simp_all [Mode.Means]

theorem modeAfter_eq_closed : modeAfter ls = .closed ↔ Stops ls := by
  have h := modeAfter_means ls
  cases hm : modeAfter ls <;> rw [hm] at h <;> simp_all [Mode.Means]

instance (ls : List (List Char)) : Decidable (Waits ls) :=
  inferInstanceAs (Decidable (gatesAtEnd ls % 2 = 1))

instance (ls : List (List Char)) : Decidable (Stops ls) :=
  decidable_of_iff (modeAfter ls = .closed) modeAfter_eq_closed

def asText (entry : Nat × List Char) : Nat × String := (entry.1, String.ofList entry.2)

theorem productionLines_eq (source : String) :
    productionLines source = (resume .reading 1 (lines source)).map asText := by
  rw [productionLines, productionFrom_eq]
  rfl

/-- The lines that are shown are plain, no gate takes them along, and no test module is in front. -/
theorem mem_productionLines {source text : String} : (n, text) ∈ productionLines source ↔
    ∃ i, n = i + 1 ∧ (lines source)[i]? = some text.toList ∧ ¬Stops ((lines source).take i) ∧
      ¬Waits ((lines source).take i) ∧ isPlain text.toList = true := by
  have hentry (entry : Nat × List Char) :
      asText entry = (n, text) ↔ entry = (n, text.toList) := by
    rw [asText, Prod.mk.injEq, Prod.ext_iff]
    refine and_congr_right fun _ => ⟨fun h => ?_, fun h => ?_⟩
    · rw [← h, String.toList_ofList]
    · rw [h, String.ofList_toList]
  simp only [productionLines_eq, List.mem_map, hentry, exists_eq_right, mem_resume, Nat.add_comm 1]
  refine exists_congr fun i => and_congr_right fun _ => and_congr_right fun _ => ?_
  rw [← and_assoc, ← modeAfter_eq_reading]
  rfl

theorem lines_append {source : String} (h : source.toList.getLast? = some '\n') (more : String) :
    lines (source ++ more) = lines source ++ lines more := by
  obtain ⟨before, hbefore⟩ : ∃ before, source.toList = before ++ ['\n'] :=
    ⟨_, (List.dropLast_append_getLast? _ h).symm⟩
  simp only [lines_eq, String.toList_append, hbefore, List.append_assoc, List.singleton_append]
  exact linesOf_append before more.toList

theorem opensTests_starts {first grown : List Char} (h : opensTests line = true)
    (hfirst : trim first = trim (line ++ grown)) : opensTests first = true := by
  rw [opensTests, List.isPrefixOf_iff_prefix] at h ⊢
  rw [hfirst]
  exact prefix_trim_append (by decide) (by decide) h grown

theorem Mode.next_starts {first grown : List Char} (h : mode.next line = .closed)
    (hfirst : trim first = trim (line ++ grown)) : mode.next first = .closed := by
  rw [Mode.next_eq_closed] at h ⊢
  exact h.imp_right fun ⟨hmode, hopens⟩ => ⟨hmode, opensTests_starts hopens hfirst⟩

/-- A scan that has stopped is not taken up again, also if the line at which it stopped goes on. -/
theorem resume_stopped {cs : List Char} (h : Stops (linesOf cs)) (more : List Char) :
    resume .reading 1 (linesOf (cs ++ more)) = resume .reading 1 (linesOf cs) := by
  obtain ⟨whole, last, rfl, hlast, hwhole⟩ := exists_last_line cs
  rw [List.append_assoc, hwhole, hwhole, resume_append, resume_append]
  rw [← modeAfter_eq_closed, hwhole] at h
  change _ ++ resume (modeAfter (linesOf whole)) _ _ = _ ++ resume (modeAfter (linesOf whole)) _ _
  congr 1
  by_cases hne : last = []
  · subst hne
    rw [linesOf_nil, List.append_nil] at h
    rw [h, resume_closed, resume_closed]
  · obtain ⟨grown, first, later, hfirst, htrim⟩ := linesOf_starts hlast hne more
    rw [linesOf_unended hlast hne, modeAfter_concat] at h
    rw [hfirst, linesOf_unended hlast hne, resume_opens h, resume_opens (Mode.next_starts h htrim)]

/-- The lines that are shown stand under their own numbers in their order, and none of them is a
comment or a gate. Behind whole lines that do not stop the scan, and whose last is not a gate that
waits, what comes next is scanned as if it stood alone. Behind lines that stop it nothing is
scanned. -/
theorem scan_resumes (source : String) :
    (productionLines source).Pairwise (·.1 < ·.1) ∧
    (∀ n text, (n, text) ∈ productionLines source → ∃ i, n = i + 1 ∧
      (lines source)[i]? = some text.toList ∧
      isComment text.toList = false ∧ isGate text.toList = false) ∧
    (source.toList.getLast? = some '\n' → ¬Stops (lines source) → ¬Waits (lines source) →
      ∀ more, productionLines (source ++ more) = productionLines source ++
        (productionLines more).map fun (n, text) => (n + (lines source).length, text)) ∧
    (Stops (lines source) → ∀ more,
      productionLines (source ++ more) = productionLines source) := by
  refine ⟨?_, ?_, ?_, ?_⟩
  · rw [productionLines_eq, List.pairwise_map]
    exact resume_sorted ..
  · intro n text h
    obtain ⟨i, hn, hline, -, -, hplain⟩ := mem_productionLines.mp h
    simp only [isPlain, Bool.and_eq_true, Bool.not_eq_true'] at hplain
    exact ⟨i, hn, hline, hplain.2, hplain.1⟩
  · intro hended hstops hwaits more
    have hmode : (lines source).foldl Mode.next .reading = .reading :=
      modeAfter_eq_reading.mpr ⟨hstops, hwaits⟩
    simp only [productionLines_eq, lines_append hended, resume_append, hmode, resume_shift,
      List.map_append, List.map_map]
    rfl
  · intro hstops more
    simp only [productionLines_eq, lines_eq, String.toList_append, resume_stopped hstops]

/-- Two gates in a row and a comment do not stop the scan, and a gate with `mod tests` does, although
the line goes on. -/
theorem scan_resumes_paired :
    productionLines ("a\r\n#[cfg(test)]\n#[cfg(test)]\n// b\n" ++ "mod tests;\r\nc") =
        [(1, "a"), (5, "mod tests;"), (6, "c")] ∧
      productionLines ("a\n#[cfg(test)]\nmod tests" ++ "_of_b;\nc\n") = [(1, "a")] := by
  obtain ⟨-, -, hresumes, -⟩ := scan_resumes "a\r\n#[cfg(test)]\n#[cfg(test)]\n// b\n"
  obtain ⟨-, -, -, hstops⟩ := scan_resumes "a\n#[cfg(test)]\nmod tests"
  rw [hresumes (by decide +kernel) (by decide +kernel) (by decide +kernel),
    hstops (by decide +kernel)]
  decide +kernel

end MetricBatch.Scan
