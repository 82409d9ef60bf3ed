import MetricBatch.Scan
import MetricBatch.Proofs.Text.Blank

namespace MetricBatch.Scan

open Text

variable {cs line rest : List Char}

/-- A carriage return in front of a line end belongs to it. -/
def chomp (line : List Char) : List Char :=
  if line.getLast? = some '\r' then line.dropLast else line

def linesOf (cs : List Char) : List (List Char) := linesIn cs.length cs

theorem lines_eq (source : String) : lines source = linesOf source.toList := rfl

theorem cutLine_unended (h : '\n' ∉ cs) : cutLine cs = (cs, none) := by
  fun_induction cutLine cs with
  | case1 => rfl
  | case2 => simp at h
  | case3 => simp at h
  | case4 c rest _ _ front behind heq ih =>
    rw [ih (List.not_mem_of_not_mem_cons h)] at heq
    cases heq
    rfl

theorem chomp_cons {c : Char} (h : line ≠ [] ∨ c ≠ '\r') : chomp (c :: line) = c :: chomp line := by
  cases line with
  | nil =>
    have hc : c ≠ '\r' := h.resolve_left (by simp)
    simp [chomp, hc]
  | cons d line =>
    unfold chomp
    rw [List.getLast?_cons_cons, List.dropLast_cons_cons]
    split <;> rfl

theorem cutLine_ended (h : '\n' ∉ line) (rest : List Char) :
    cutLine (line ++ '\n' :: rest) = (chomp line, some rest) := by
  induction line with
  | nil => rfl
  | cons c line ih =>
    rw [List.mem_cons, not_or] at h
    by_cases hreturn : line = [] ∧ c = '\r'
    · obtain ⟨rfl, rfl⟩ := hreturn
      rfl
    · have hcut : cutLine (c :: (line ++ '\n' :: rest)) =
          (c :: (cutLine (line ++ '\n' :: rest)).1, (cutLine (line ++ '\n' :: rest)).2) := by
        rw [cutLine]
        · exact fun he => h.1 he.symm
        · intro more hc he
          apply hreturn
          cases line with
          | nil => exact ⟨rfl, hc⟩
          | cons d line => simp_all
      rw [List.cons_append, hcut, ih h.2, chomp_cons (not_and_or.mp hreturn)]

theorem trim_chomp (line : List Char) : trim (chomp line) = trim line := by
  unfold chomp
  split
  · rename_i hlast
    have hsplit : line = line.dropLast ++ ['\r'] := (List.dropLast_append_getLast? _ hlast).symm
    rw [hsplit, List.dropLast_concat]
    exact (trim_concat (by decide)).symm
  · rfl

/-- A text without a line end is one line, and any other has a first line. -/
@[elab_as_elim]
theorem lines_induction {motive : List Char → Prop} (unended : ∀ cs, '\n' ∉ cs → motive cs)
    (ended : ∀ line rest, '\n' ∉ line → motive rest → motive (line ++ '\n' :: rest))
    (cs : List Char) : motive cs := by
  by_cases h : '\n' ∈ cs
  · obtain ⟨line, rest, hcs, hline⟩ := List.eq_append_cons_of_mem h
    have hshorter : rest.length < cs.length := by simp [hcs]; omega
    exact hcs ▸ ended line rest hline (lines_induction unended ended rest)
  · exact unended cs h
termination_by cs.length

theorem linesIn_unended (h : '\n' ∉ cs) (hne : cs ≠ []) {turns : Nat} (hturns : 0 < turns) :
    linesIn turns cs = [cs] := by
  obtain ⟨turns, rfl⟩ := Nat.exists_eq_add_one.mpr hturns
  cases cs with
  | nil => exact absurd rfl hne
  | cons c cs => simp only [linesIn, cutLine_unended h]

theorem linesIn_ended (h : '\n' ∉ line) (rest : List Char) (turns : Nat) :
    linesIn (turns + 1) (line ++ '\n' :: rest) = chomp line :: linesIn turns rest := by
  have hcut := cutLine_ended h rest
  cases hcs : line ++ '\n' :: rest with
  | nil => simp at hcs
  | cons c cs =>
    rw [hcs] at hcut
    simp only [linesIn, hcut]

/-- Each line takes a character at least, so that there are turns enough. -/
theorem linesIn_eq (cs : List Char) {turns : Nat} (h : cs.length ≤ turns) :
    linesIn turns cs = linesOf cs := by
  induction cs using lines_induction generalizing turns with
  | unended cs hcs =>
    by_cases hne : cs = []
    · subst hne
      cases turns <;> rfl
    · have hpos : 0 < cs.length := List.length_pos_iff.mpr hne
      rw [linesOf, linesIn_unended hcs hne hpos, linesIn_unended hcs hne (by omega)]
  | ended line rest hline ih =>
    have hlength : (line ++ '\n' :: rest).length = line.length + rest.length + 1 := by simp; omega
    obtain ⟨turns, rfl⟩ := Nat.exists_eq_add_one.mpr (show 0 < turns by omega)
    rw [linesOf, hlength, linesIn_ended hline, linesIn_ended hline, ih (by omega), ih (by omega)]

@[simp]
theorem linesOf_nil : linesOf [] = [] := rfl

theorem linesOf_unended (h : '\n' ∉ cs) (hne : cs ≠ []) : linesOf cs = [cs] :=
  linesIn_unended h hne (List.length_pos_iff.mpr hne)

theorem linesOf_ended (h : '\n' ∉ line) (rest : List Char) :
    linesOf (line ++ '\n' :: rest) = chomp line :: linesOf rest := by
  have hlonger : linesIn ((line ++ '\n' :: rest).length + 1) (line ++ '\n' :: rest) =
      chomp line :: linesOf rest := by
    rw [linesIn_ended h, linesIn_eq _ (by simp; omega)]
  exact (linesIn_eq _ (by omega)).symm.trans hlonger

/-- Behind a line end new lines start. -/
theorem linesOf_append (cs more : List Char) :
    linesOf (cs ++ '\n' :: more) = linesOf (cs ++ ['\n']) ++ linesOf more := by
  induction cs using lines_induction with
  | unended cs hcs => simp [linesOf_ended hcs]
  | ended line rest hline ih =>
    simp only [List.append_assoc, List.cons_append] at ih ⊢
    rw [linesOf_ended hline, linesOf_ended hline, ih, List.cons_append]

/-- A text has whole lines, and then a last one that is not ended, or none. -/
theorem exists_last_line (cs : List Char) : ∃ whole last, cs = whole ++ last ∧ '\n' ∉ last ∧
    ∀ more, linesOf (whole ++ more) = linesOf whole ++ linesOf more := by
  induction cs using lines_induction with
  | unended cs hcs => exact ⟨[], cs, rfl, hcs, fun _ => rfl⟩
  | ended line rest hline ih =>
    obtain ⟨whole, last, rfl, hlast, hmore⟩ := ih
    refine ⟨line ++ '\n' :: whole, last, by simp, hlast, fun more => ?_⟩
    simp only [List.append_assoc, List.cons_append]
    rw [linesOf_ended hline, linesOf_ended hline, hmore, List.cons_append]

/-- What stands before any line end begins the first line, whatever comes behind. Its end may be lost
if it is a carriage return. -/
theorem linesOf_starts (h : '\n' ∉ cs) (hne : cs ≠ []) (more : List Char) : ∃ grown first later,
    linesOf (cs ++ more) = first :: later ∧ trim first = trim (cs ++ grown) := by
  by_cases hmore : '\n' ∈ more
  · obtain ⟨grown, rest, rfl, hgrown⟩ := List.eq_append_cons_of_mem hmore
    have hline : '\n' ∉ cs ++ grown := by simp [h, hgrown]
    refine ⟨grown, chomp (cs ++ grown), linesOf rest, ?_, trim_chomp _⟩
    rw [← List.append_assoc, linesOf_ended hline]
  · have hline : '\n' ∉ cs ++ more := by simp [h, hmore]
    exact ⟨more, cs ++ more, [], linesOf_unended hline (by simp [hne]), rfl⟩

end MetricBatch.Scan
