import MetricBatch.Proofs.Json.Numeral
import MetricBatch.Proofs.Text.Joined
import Mathlib.Data.List.Forall2

namespace MetricBatch.Json

open Json.Tree Text

theorem codePoints_plain {c : Char} (hquote : c ≠ '"') (hslash : c ≠ '\\') (hc : 0x20 ≤ c.toNat)
    (rest : List Char) :
    codePoints (c :: rest) = (codePoints rest).map fun (more, rest) => (c.toNat :: more, rest) := by
  rw [codePoints.eq_def]
  split
  case h_5 heq =>
    obtain ⟨rfl, rfl⟩ := List.cons.inj heq
    exact if_neg (by simp [hslash, hc])
  all_goals simp_all

theorem codePoints_escaped {e c : Char} (hu : e ≠ 'u') (he : escaped? e = some c)
    (rest : List Char) : codePoints ('\\' :: e :: rest) =
      (codePoints rest).map fun (more, rest) => (c.toNat :: more, rest) := by
  rw [codePoints.eq_def]
  split
  case h_5 hescape heq =>
    obtain ⟨rfl, rfl⟩ := List.cons.inj heq
    exact absurd rfl (hescape e rest rfl)
  all_goals simp_all

theorem hexDigit?_digitChar : ∀ n < 16, hexDigit? (Nat.digitChar n) = some n := by decide

theorem codePoints_low {n : Nat} (h : n < 0x20) (rest : List Char) :
    codePoints
        ('\\' :: 'u' :: '0' :: '0' :: Nat.digitChar (n / 16) :: Nat.digitChar (n % 16) :: rest) =
      (codePoints rest).map fun (more, rest) => (n :: more, rest) := by
  have hhigh := hexDigit?_digitChar (n / 16) (by omega)
  have hlow := hexDigit?_digitChar (n % 16) (by omega)
  have hzero : hexDigit? '0' = some 0 := rfl
  have hvalue : n / 16 * 16 + n % 16 = n := by omega
  rw [codePoints.eq_def]
  simp [hzero, hhigh, hlow, hvalue]

theorem codePoints_escapeChar (c : Char) (rest : List Char) :
    codePoints (escapeChar c ++ rest) =
      (codePoints rest).map fun (more, rest) => (c.toNat :: more, rest) := by
  unfold escapeChar
  split_ifs with hquote hslash hline hreturn htab hback hfeed hlow
  · subst hquote
    exact codePoints_escaped (by decide) rfl rest
  · subst hslash
    exact codePoints_escaped (by decide) rfl rest
  · subst hline
    exact codePoints_escaped (by decide) rfl rest
  · subst hreturn
    exact codePoints_escaped (by decide) rfl rest
  · subst htab
    exact codePoints_escaped (by decide) rfl rest
  · subst hback
    exact codePoints_escaped (by decide) rfl rest
  · subst hfeed
    exact codePoints_escaped (by decide) rfl rest
  · exact codePoints_low hlow rest
  · exact codePoints_plain hquote hslash (Nat.le_of_not_lt hlow) rest

theorem codePoints_text (cs rest : List Char) :
    codePoints (cs.flatMap escapeChar ++ '"' :: rest) = some (cs.map Char.toNat, rest) := by
  induction cs with
  | nil => rfl
  | cons c cs ih =>
    rw [List.flatMap_cons, List.append_assoc, codePoints_escapeChar, ih]
    rfl

theorem characters_toNat (cs : List Char) : characters (cs.map Char.toNat) = some cs := by
  induction cs with
  | nil => rfl
  | cons c cs ih =>
    have hv : c.toNat < 0xD800 ∨ 0xDFFF < c.toNat ∧ c.toNat < 0x110000 := c.valid
    have hplain : (c.toNat < 0xD800 || 0xDFFF < c.toNat) = true := by
      simp only [Bool.or_eq_true, decide_eq_true_eq]
      omega
    rw [List.map_cons, characters.eq_def]
    dsimp only
    rw [if_pos hplain, ih, Option.map_some, Char.ofNat_toNat]

theorem string?_text (s : String) (rest : List Char) :
    string? (s.toList.flatMap escapeChar ++ '"' :: rest) = some (s, rest) := by
  rw [string?, codePoints_text]
  change (do return (String.ofList (← characters (s.toList.map Char.toNat)), rest)) = _
  rw [characters_toNat]
  change some (String.ofList s.toList, rest) = _
  rw [String.ofList_toList]

def Blanks (cs : List Char) : Prop := ∀ c ∈ cs, isBlank c = true

/-- No word goes on here. -/
def Ended (rest : List Char) : Prop := ∀ c ∈ rest.head?, isWordChar c = false

theorem skipBlanks_append {blanks : List Char} (h : Blanks blanks) (cs : List Char) :
    skipBlanks (blanks ++ cs) = skipBlanks cs :=
  List.dropWhile_append_of_pos h

theorem skipBlanks_cons {c : Char} (h : isBlank c = false) (cs : List Char) :
    skipBlanks (c :: cs) = c :: cs :=
  List.dropWhile_cons_of_neg (by rw [h]; exact Bool.false_ne_true)

/-- What stands between two items or behind the last one. -/
theorem Ended.afterBlanks {blanks : List Char} (h : Blanks blanks) {rest : List Char}
    (hr : Ended rest) : Ended (blanks ++ rest) := by
  cases blanks with
  | nil => exact hr
  | cons b blanks =>
    intro c hc
    obtain rfl := Option.some.inj hc
    have hblank := h b (by simp)
    simp only [isBlank, Bool.or_eq_true, beq_iff_eq] at hblank
    rcases hblank with ((rfl | rfl) | rfl) | rfl <;> rfl

variable {α : Type} {item : List Char → Option (α × List Char)} {close : Char}
  {texts : List (List Char)} {as : List α} {blanks : List Char}

/-- A reader takes just this text, wherever a word may end. -/
def Takes (item : List Char → Option (α × List Char)) (text : List Char) (a : α) : Prop :=
  ∀ rest, Ended rest → item (text ++ rest) = some (a, rest)

/-- A character that closes a container. -/
def IsClosing (close : Char) : Prop := close = ']' ∨ close = '\x7d'

theorem IsClosing.plain (h : IsClosing close) :
    isBlank close = false ∧ isWordChar close = false ∧ ',' ≠ close := by
  rcases h with rfl | rfl <;> decide

theorem separated_last {turns : Nat} {cs rest more : List Char} {a : α}
    (h : item cs = some (a, rest)) (hr : skipBlanks rest = close :: more) :
    separated item close (turns + 1) cs = some ([a], more) := by
  simp [separated, h, hr]

theorem separated_comma {turns : Nat} {cs rest more : List Char} {a : α}
    (hc : ',' ≠ close) (h : item cs = some (a, rest)) (hr : skipBlanks rest = ',' :: more) :
    separated item close (turns + 1) cs =
      (separated item close turns more).map fun (as, rest) => (a :: as, rest) := by
  simp [separated, h, hr, hc]

theorem separated_takes (hc : IsClosing close) (h : List.Forall₂ (Takes item) texts as)
    (hne : texts ≠ []) (hb : Blanks blanks) {turns : Nat} (hturns : texts.length ≤ turns)
    (rest : List Char) :
    separated item close turns (List.intercalate [','] texts ++ (blanks ++ close :: rest)) =
      some (as, rest) := by
  obtain ⟨hblank, hword, hcomma⟩ := hc.plain
  induction h generalizing turns with
  | nil => exact absurd rfl hne
  | @cons text a texts as hhead htail ih =>
    obtain ⟨turns, rfl⟩ := Nat.exists_eq_add_one.mpr (Nat.lt_of_lt_of_le (by simp) hturns)
    cases htail with
    | nil =>
      have hended : Ended (blanks ++ close :: rest) :=
        Ended.afterBlanks hb fun c hmem => by rw [← Option.some.inj hmem, hword]
      have hskip : skipBlanks (blanks ++ close :: rest) = close :: rest := by
        rw [skipBlanks_append hb, skipBlanks_cons hblank]
      rw [List.intercalate_singleton]
      exact separated_last (hhead _ hended) hskip
    | @cons next b more bs hnext hmore =>
      have hended (after : List Char) : Ended (',' :: after) := fun c hmem => by
        rw [← Option.some.inj hmem]
        rfl
      have hlater := ih (by simp) (Nat.le_of_succ_le_succ hturns)
      rw [List.intercalate_cons_cons, List.append_assoc, List.append_assoc, List.singleton_append,
        separated_comma hcomma (hhead _ (hended _)) (skipBlanks_cons rfl _), hlater]
      rfl

theorem separated_none {cs : List Char} (h : item cs = none) (turns : Nat) :
    separated item close turns cs = none := by
  cases turns with
  | zero => rfl
  | succ turns => simp [separated, h]

/-- There is nothing here but perhaps the end of a container. -/
def Closed (cs : List Char) : Prop := ∀ c ∈ (skipBlanks cs).head?, IsClosing c

/-- A container's items, if its end is no item. -/
theorem contents_takes (hc : IsClosing close) (h : List.Forall₂ (Takes item) texts as)
    (hnone : ∀ cs, Closed cs → item cs = none) (hb : Blanks blanks) {turns : Nat}
    (hturns : texts.length ≤ turns) (rest : List Char) :
    contents item close turns (List.intercalate [','] texts ++ (blanks ++ close :: rest)) =
      some (as, rest) := by
  obtain ⟨hblank, _⟩ := hc.plain
  cases h with
  | nil =>
    have hskip : skipBlanks (blanks ++ close :: rest) = close :: rest := by
      rw [skipBlanks_append hb, skipBlanks_cons hblank]
    simp [contents, List.intercalate, hskip]
  | @cons text a texts as hhead htail =>
    have hall := separated_takes hc (.cons hhead htail) (by simp) hb hturns rest
    have hopen : ¬Closed (List.intercalate [','] (text :: texts) ++ (blanks ++ close :: rest)) := by
      intro hclosed
      rw [separated_none (hnone _ hclosed)] at hall
      cases hall
    unfold contents
    split
    · rename_i c after hfirst
      have hne : c ≠ close := by
        rintro rfl
        refine hopen fun x hx => ?_
        rw [hfirst] at hx
        rwa [← Option.some.inj hx]
      rw [if_neg hne, hall]
    · rename_i hend
      exact absurd (fun x hx => by rw [hend] at hx; cases hx) hopen

theorem value?_skip (hb : Blanks blanks) (turns : Nat) (cs : List Char) :
    value? turns (blanks ++ cs) = value? turns cs := by
  cases turns with
  | zero => rfl
  | succ turns => rw [value?, skipBlanks_append hb, value?]

theorem value?_quote (turns : Nat) (cs : List Char) :
    value? (turns + 1) ('"' :: cs) = (string? cs).map fun (s, rest) => (.string s, rest) := by
  rw [value?, skipBlanks_cons rfl]
  rfl

theorem value?_bracket (turns : Nat) (cs : List Char) : value? (turns + 1) ('[' :: cs) =
    (contents (value? turns) ']' turns cs).map fun (ts, rest) => (.array ts, rest) := by
  rw [value?, skipBlanks_cons rfl]
  rfl

theorem value?_brace (turns : Nat) (cs : List Char) : value? (turns + 1) ('\x7b' :: cs) =
    (contents (pair? (value? turns)) '\x7d' turns cs).map fun (ts, rest) => (.object ts, rest) := by
  rw [value?, skipBlanks_cons rfl]
  rfl

theorem value?_word {cs : List Char} (turns : Nat)
    (h : ∀ c ∈ (skipBlanks cs).head?, c ≠ '"' ∧ c ≠ '[' ∧ c ≠ '\x7b') :
    value? (turns + 1) cs = (ofWord? ((skipBlanks cs).takeWhile isWordChar)).map
      (·, (skipBlanks cs).dropWhile isWordChar) := by
  rw [value?]
  split
  case h_4 => rfl
  all_goals simp_all

theorem value?_closed {cs : List Char} (h : Closed cs) (turns : Nat) : value? turns cs = none := by
  have hword : (skipBlanks cs).takeWhile isWordChar = [] := by
    unfold Closed at h
    cases hcs : skipBlanks cs with
    | nil => rfl
    | cons c rest =>
      obtain ⟨_, hc, _⟩ := (h c (by rw [hcs]; rfl)).plain
      exact List.takeWhile_cons_of_neg (by rw [hc]; exact Bool.false_ne_true)
  cases turns with
  | zero => rfl
  | succ turns =>
    rw [value?_word, hword]
    · rfl
    · intro c hc
      rcases h c hc with rfl | rfl <;> decide

theorem pair?_closed {cs : List Char} (h : Closed cs)
    (value : List Char → Option (Tree × List Char)) : pair? value cs = none := by
  unfold pair?
  split
  · rename_i heq
    have hquote := h '"' (by rw [heq]; rfl)
    exact absurd hquote (by unfold IsClosing; decide)
  · rfl

/-- The text of a value. -/
def Reads (text : List Char) (t : Tree) : Prop :=
  ∀ turns, text.length ≤ turns → Takes (value? turns) text t

/-- The text of a key with its value. -/
def ReadsPair (text : List Char) (p : String × Tree) : Prop :=
  ∀ turns, text.length ≤ turns → Takes (pair? (value? turns)) text p

theorem Reads.afterBlanks {text : List Char} {t : Tree} (h : Reads text t) (hb : Blanks blanks) :
    Reads (blanks ++ text) t := by
  intro turns hturns rest hr
  rw [List.append_assoc, value?_skip hb]
  exact h turns (by rw [List.length_append] at hturns; omega) rest hr

theorem isWordChar_plain {c : Char} (h : isWordChar c = true) :
    isBlank c = false ∧ c ≠ '"' ∧ c ≠ '[' ∧ c ≠ '\x7b' := by
  have hno (d : Char) (hd : isWordChar d = false) : c ≠ d := by
    rintro rfl
    rw [hd] at h
    cases h
  have hblank : isBlank c = false := by
    simp [isBlank, hno ' ' rfl, hno '\n' rfl, hno '\r' rfl, hno '\t' rfl]
  exact ⟨hblank, hno _ rfl, hno _ rfl, hno _ rfl⟩

theorem reads_word {word : List Char} {t : Tree} (h : ofWord? word = some t)
    (hword : ∀ c ∈ word, isWordChar c = true) : Reads word t := by
  intro turns hturns rest hr
  cases word with
  | nil => cases h
  | cons c word =>
    obtain ⟨turns, rfl⟩ := Nat.exists_eq_add_one.mpr (Nat.lt_of_lt_of_le (by simp) hturns)
    obtain ⟨htake, hdrop⟩ := span_run hword hr
    have hc := hword c (by simp)
    have hplain : isBlank c = false ∧ c ≠ '"' ∧ c ≠ '[' ∧ c ≠ '\x7b' := isWordChar_plain hc
    have hskip := skipBlanks_cons hplain.1 (word ++ rest)
    rw [List.cons_append, value?_word, hskip, ← List.cons_append, htake, hdrop, h]
    · rfl
    · intro x hx
      rw [hskip] at hx
      rw [← Option.some.inj hx]
      exact hplain.2

theorem reads_string (s : String) : Reads (stringText s) (.string s) := by
  intro turns hturns rest _
  obtain ⟨turns, rfl⟩ := Nat.exists_eq_add_one.mpr (Nat.lt_of_lt_of_le (by simp [stringText]) hturns)
  have hopen : stringText s ++ rest = '"' :: (s.toList.flatMap escapeChar ++ '"' :: rest) := by
    simp [stringText]
  rw [hopen, value?_quote, string?_text]
  rfl

/-- The items of a container, when there are turns enough for its text. -/
theorem contents_reads (read : Nat → List Char → Option (α × List Char)) (hc : IsClosing close)
    (h : List.Forall₂ (fun text a => ∀ turns, text.length ≤ turns → Takes (read turns) text a) texts
      as) (hb : Blanks blanks) {turns : Nat}
    (hnone : ∀ cs, Closed cs → read turns cs = none)
    (hturns : (List.intercalate [','] texts ++ (blanks ++ [close])).length ≤ turns)
    (rest : List Char) :
    contents (read turns) close turns (List.intercalate [','] texts ++ (blanks ++ [close]) ++ rest) =
      some (as, rest) := by
  simp only [List.length_append, List.length_singleton] at hturns
  have hlength : ∀ text ∈ texts, text.length ≤ turns := by
    intro text hmem
    have hle := length_le_intercalate ',' hmem
    omega
  have hcount : texts.length ≤ turns := by
    have hle := count_le_intercalate ',' texts
    omega
  have htakes : List.Forall₂ (Takes (read turns)) texts as :=
    ((List.forall₂_and_left texts as).mpr ⟨hlength, h⟩).imp fun text a hboth => hboth.2 turns hboth.1
  rw [List.append_assoc, List.append_assoc, List.singleton_append]
  exact contents_takes hc htakes hnone hb hcount rest

theorem reads_array {trees : List Tree} (h : List.Forall₂ Reads texts trees) (hb : Blanks blanks) :
    Reads ('[' :: (List.intercalate [','] texts ++ (blanks ++ [']']))) (.array trees) := by
  intro turns hturns rest _
  obtain ⟨turns, rfl⟩ := Nat.exists_eq_add_one.mpr (Nat.lt_of_lt_of_le (by simp) hturns)
  rw [List.cons_append, value?_bracket,
    contents_reads value? (.inl rfl) h hb (fun _ hc => value?_closed hc turns)
      (Nat.le_of_succ_le_succ hturns)]
  rfl

theorem reads_object {pairs : List (String × Tree)} (h : List.Forall₂ ReadsPair texts pairs)
    (hb : Blanks blanks) :
    Reads ('\x7b' :: (List.intercalate [','] texts ++ (blanks ++ ['\x7d']))) (.object pairs) := by
  intro turns hturns rest _
  obtain ⟨turns, rfl⟩ := Nat.exists_eq_add_one.mpr (Nat.lt_of_lt_of_le (by simp) hturns)
  rw [List.cons_append, value?_brace,
    contents_reads (fun turns => pair? (value? turns)) (.inr rfl) h hb
      (fun _ hc => pair?_closed hc _) (Nat.le_of_succ_le_succ hturns)]
  rfl

theorem pair?_quote (hb : Blanks blanks) (value : List Char → Option (Tree × List Char))
    (key : String) (cs : List Char) :
    pair? value (blanks ++ (stringText key ++ ':' :: cs)) =
      (value cs).map fun (t, rest) => ((key, t), rest) := by
  have hopen : stringText key ++ ':' :: cs =
      '"' :: (key.toList.flatMap escapeChar ++ '"' :: ':' :: cs) := by
    simp [stringText]
  have hquote : isBlank '"' = false := rfl
  have hcolon : isBlank ':' = false := rfl
  simp [pair?, skipBlanks_append hb, hopen, skipBlanks_cons hquote, skipBlanks_cons hcolon,
    string?_text]

theorem readsPair (hb : Blanks blanks) (key : String) {gap text : List Char} (hg : Blanks gap)
    {t : Tree} (h : Reads text t) :
    ReadsPair (blanks ++ (stringText key ++ ':' :: (gap ++ text))) (key, t) := by
  intro turns hturns rest hr
  have hlength : (gap ++ text).length ≤ turns := by
    rw [List.length_append, List.length_append, List.length_cons] at hturns
    omega
  rw [List.append_assoc, List.append_assoc, List.cons_append, pair?_quote hb,
    h.afterBlanks hg turns hlength rest hr]
  rfl

end MetricBatch.Json
