import MetricBatch.Proofs.Json.Reading

namespace MetricBatch.Json

open Json.Tree Text

theorem blanks_nil : Blanks [] := nofun

theorem blanks_indent (depth : Nat) : Blanks (Value.indent depth) := by
  intro c hc
  rcases List.mem_cons.mp hc with rfl | hspace
  · rfl
  · rw [List.eq_of_mem_replicate hspace]
    rfl

theorem Number.reads (n : Number) : Reads n.text (.number (String.ofList n.text)) :=
  reads_word (by rw [ofWord?, if_pos n.isNumeral_text]) (isWordChar_of_isNumeral n.isNumeral_text)

theorem reads_null : Reads "null".toList .null := reads_word rfl (List.all_eq_true.mp rfl)

theorem reads_boolean (b : Bool) :
    Reads (if b then "true".toList else "false".toList) (.boolean b) := by
  cases b with
  | true => exact reads_word rfl (List.all_eq_true.mp rfl)
  | false => exact reads_word rfl (List.all_eq_true.mp rfl)

namespace Value

def compactPair (p : String × Value) : List Char :=
  stringText p.1 ++ ':' :: p.2.compactChars

theorem compactItems_eq (items : List Value) :
    compactItems items = List.intercalate [','] (items.map compactChars) :=
  eq_intercalate rfl (fun _ => rfl) (fun _ _ _ => rfl) items

theorem compactMembers_eq (members : List (String × Value)) :
    compactMembers members = List.intercalate [','] (members.map compactPair) :=
  eq_intercalate rfl (fun _ => rfl) (fun _ _ _ => rfl) members

mutual

theorem reads_compact : ∀ v : Value, Reads v.compactChars v.tree
  | .null => reads_null
  | .boolean b => reads_boolean b
  | .number n => n.reads
  | .string s => reads_string s
  | .array items => by
    rw [compactChars, compactItems_eq]
    exact reads_array (reads_compactItems items) blanks_nil
  | .object members => by
    rw [compactChars, compactMembers_eq]
    exact reads_object (reads_compactMembers members) blanks_nil

theorem reads_compactItems :
    ∀ items : List Value, List.Forall₂ Reads (items.map compactChars) (itemTrees items)
  | [] => .nil
  | v :: rest => .cons (reads_compact v) (reads_compactItems rest)

theorem reads_compactMembers : ∀ members : List (String × Value),
    List.Forall₂ ReadsPair (members.map compactPair) (memberTrees members)
  | [] => .nil
  | (k, v) :: rest =>
    .cons (readsPair blanks_nil k blanks_nil (reads_compact v)) (reads_compactMembers rest)

end

def prettyItem (depth : Nat) (v : Value) : List Char := indent depth ++ v.prettyChars depth

def prettyPair (depth : Nat) (p : String × Value) : List Char :=
  indent depth ++ (stringText p.1 ++ ':' :: ' ' :: p.2.prettyChars depth)

theorem prettyItems_eq (depth : Nat) (items : List Value) :
    prettyItems depth items = List.intercalate [','] (items.map (prettyItem depth)) :=
  eq_intercalate rfl (fun _ => rfl) (fun _ _ _ => rfl) items

theorem prettyMembers_eq (depth : Nat) (members : List (String × Value)) :
    prettyMembers depth members = List.intercalate [','] (members.map (prettyPair depth)) := by
  refine eq_intercalate rfl (fun (k, v) => ?_) (fun (k, v) _ _ => ?_) members
  · simp [prettyMembers, prettyPair]
  · simp [prettyMembers, prettyPair]

mutual

theorem reads_pretty : ∀ (depth : Nat) (v : Value), Reads (v.prettyChars depth) v.tree
  | _, .null => reads_null
  | _, .boolean b => reads_boolean b
  | _, .number n => n.reads
  | _, .string s => reads_string s
  | _, .array [] => reads_array .nil blanks_nil
  | depth, .array (v :: rest) => by
    have hall := reads_array (reads_prettyItems (depth + 1) (v :: rest)) (blanks_indent depth)
    rwa [← prettyItems_eq, ← List.append_assoc] at hall
  | _, .object [] => reads_object .nil blanks_nil
  | depth, .object (p :: rest) => by
    have hall := reads_object (reads_prettyMembers (depth + 1) (p :: rest)) (blanks_indent depth)
    rwa [← prettyMembers_eq, ← List.append_assoc] at hall

theorem reads_prettyItems : ∀ (depth : Nat) (items : List Value),
    List.Forall₂ Reads (items.map (prettyItem depth)) (itemTrees items)
  | _, [] => .nil
  | depth, v :: rest =>
    .cons ((reads_pretty depth v).afterBlanks (blanks_indent depth)) (reads_prettyItems depth rest)

theorem reads_prettyMembers : ∀ (depth : Nat) (members : List (String × Value)),
    List.Forall₂ ReadsPair (members.map (prettyPair depth)) (memberTrees members)
  | _, [] => .nil
  | depth, (k, v) :: rest =>
    .cons (readsPair (blanks_indent depth) k (List.forall_mem_singleton.mpr rfl)
        (reads_pretty depth v))
      (reads_prettyMembers depth rest)

end

/-- Without control characters a text stays on one line. -/
def Plain (cs : List Char) : Prop := ∀ c ∈ cs, 0x20 ≤ c.toNat

instance (cs : List Char) : Decidable (Plain cs) :=
  List.decidableBAll (fun c : Char => 0x20 ≤ c.toNat) cs

theorem Plain.append {cs ds : List Char} (h : Plain cs) (hd : Plain ds) : Plain (cs ++ ds) :=
  fun c hc => (List.mem_append.mp hc).elim (h c) (hd c)

theorem digitChar_plain : ∀ n < 16, 0x20 ≤ (Nat.digitChar n).toNat := by decide

theorem escapeChar_plain (c : Char) : Plain (escapeChar c) := by
  unfold escapeChar
  split_ifs with hquote hslash hline hreturn htab hback hfeed hlow
  · decide
  · decide
  · decide
  · decide
  · decide
  · decide
  · decide
  · have hhigh := digitChar_plain (c.toNat / 16) (by omega)
    have hrest := digitChar_plain (c.toNat % 16) (by omega)
    simpa [Plain] using ⟨hhigh, hrest⟩
  · simpa [Plain] using hlow

theorem stringText_plain (s : String) : Plain (stringText s) := by
  have hquote : Plain ['"'] := by decide
  have hbody : Plain (s.toList.flatMap escapeChar) := by
    intro c hc
    obtain ⟨x, _, hx⟩ := List.mem_flatMap.mp hc
    exact escapeChar_plain x c hx
  exact (hquote.append hbody).append hquote

theorem isWordChar_control : ∀ n < 0x20, isWordChar (Char.ofNat n) = false := by decide

theorem isWordChar_low {c : Char} (h : isWordChar c = true) : 0x20 ≤ c.toNat := by
  by_contra hlow
  have hcontrol := isWordChar_control c.toNat (Nat.lt_of_not_le hlow)
  rw [Char.ofNat_toNat, h] at hcontrol
  cases hcontrol

/-- What a container encloses decides. -/
theorem enclosed_plain {openChar close : Char} {parts : List (List Char)}
    (ho : 0x20 ≤ openChar.toNat) (hc : 0x20 ≤ close.toNat) (h : ∀ p ∈ parts, Plain p) :
    Plain (openChar :: List.intercalate [','] parts ++ [close]) := by
  have hbody : Plain (List.intercalate [','] parts) := forall_mem_intercalate (by decide) h
  have hfirst : Plain (openChar :: List.intercalate [','] parts) :=
    List.forall_mem_cons.mpr ⟨ho, hbody⟩
  exact hfirst.append (List.forall_mem_singleton.mpr hc)

mutual

theorem compact_plain : ∀ v : Value, Plain v.compactChars
  | .null => by decide
  | .boolean b => by cases b <;> decide
  | .number n => fun c hc => isWordChar_low (isWordChar_of_isNumeral n.isNumeral_text c hc)
  | .string s => stringText_plain s
  | .array items => by
    rw [compactChars, compactItems_eq]
    exact enclosed_plain (by decide) (by decide) (compactItems_plain items)
  | .object members => by
    rw [compactChars, compactMembers_eq]
    exact enclosed_plain (by decide) (by decide) (compactMembers_plain members)

theorem compactItems_plain : ∀ items : List Value, ∀ p ∈ items.map compactChars, Plain p
  | [] => nofun
  | v :: rest => List.forall_mem_cons.mpr ⟨compact_plain v, compactItems_plain rest⟩

theorem compactMembers_plain :
    ∀ members : List (String × Value), ∀ p ∈ members.map compactPair, Plain p
  | [] => nofun
  | (k, v) :: rest => List.forall_mem_cons.mpr
      ⟨(stringText_plain k).append (List.forall_mem_cons.mpr ⟨by decide, compact_plain v⟩),
        compactMembers_plain rest⟩

end

end Value

namespace Tree

theorem not_closed_of_value? {turns : Nat} {cs : List Char} {p : Tree × List Char}
    (h : value? turns cs = some p) : (skipBlanks cs).isEmpty = false := by
  cases hskip : skipBlanks cs with
  | nil =>
    have hclosed : Closed cs := fun c hc => by rw [hskip] at hc; cases hc
    rw [value?_closed hclosed] at h
    cases h
  | cons c rest => rfl

theorem values?_cons {turns : Nat} {cs rest : List Char} {t : Tree}
    (h : value? cs.length cs = some (t, rest)) :
    values? (turns + 1) cs = (values? turns rest).map (t :: ·) := by
  rw [values?, if_neg (by rw [not_closed_of_value? h]; exact Bool.false_ne_true), h]
  cases hrest : values? turns rest <;> simp [hrest]

/-- Values on lines of their own, with blanks in front. -/
theorem values?_lines {texts : List (List Char)} {trees : List Tree}
    (h : List.Forall₂ Reads texts trees) {blanks : List Char} (hb : Blanks blanks) {turns : Nat}
    (hturns : texts.length < turns) :
    values? turns (blanks ++ texts.flatMap (· ++ ['\n'])) = some trees := by
  induction h generalizing turns blanks with
  | nil =>
    obtain ⟨turns, rfl⟩ := Nat.exists_eq_add_one.mpr hturns
    have hend : skipBlanks (blanks ++ []) = [] := skipBlanks_append hb []
    rw [List.flatMap_nil, values?, hend]
    rfl
  | @cons text t texts trees hhead htail ih =>
    obtain ⟨turns, rfl⟩ := Nat.exists_eq_add_one.mpr (Nat.zero_lt_of_lt hturns)
    have hline : Blanks ['\n'] := List.forall_mem_singleton.mpr rfl
    have hlater := ih hline (Nat.lt_of_succ_lt_succ hturns)
    have hsplit : blanks ++ (text :: texts).flatMap (· ++ ['\n']) =
        blanks ++ text ++ (['\n'] ++ texts.flatMap (· ++ ['\n'])) := by
      simp
    have hended : Ended (['\n'] ++ texts.flatMap (· ++ ['\n'])) := fun c hc => by
      rw [← Option.some.inj hc]
      rfl
    have hlength : (blanks ++ text).length ≤
        (blanks ++ (text :: texts).flatMap (· ++ ['\n'])).length := by
      rw [hsplit]
      exact (List.prefix_append _ _).length_le
    have hvalue := hhead.afterBlanks hb _ hlength _ hended
    rw [← hsplit] at hvalue
    rw [values?_cons hvalue, hlater]
    rfl

theorem readAll_lines {texts : List (List Char)} {trees : List Tree}
    (h : List.Forall₂ Reads texts trees) :
    readAll (String.ofList (texts.flatMap (· ++ ['\n']))) = some trees := by
  have hcount : texts.length ≤ (texts.flatMap (· ++ ['\n'])).length := by
    clear h
    induction texts with
    | nil => exact Nat.zero_le _
    | cons text texts ih =>
      simp only [List.flatMap_cons, List.length_append, List.length_cons] at ih ⊢
      omega
  rw [readAll, String.toList_ofList]
  exact values?_lines h blanks_nil (Nat.lt_succ_of_le hcount)

theorem read_of_reads {text : List Char} {t : Tree} (h : Reads text t) :
    read (String.ofList text) = some t := by
  have hvalue := h text.length (Nat.le_refl _) [] nofun
  rw [List.append_nil] at hvalue
  have hpos : 0 < text.length := by
    cases text with
    | nil => cases hvalue
    | cons c text => simp
  obtain ⟨turns, hturns⟩ := Nat.exists_eq_add_one.mpr hpos
  have hall : readAll (String.ofList text) = some [t] := by
    rw [readAll, String.toList_ofList, values?_cons hvalue, hturns]
    rfl
  rw [read, hall]

end Tree

/-- The compact text of a value is one JSON document. -/
theorem Value.read_compact (v : Value) : Tree.read v.compact = some v.tree := by
  rw [compact]
  exact Tree.read_of_reads v.reads_compact

end MetricBatch.Json
