import MetricBatch.Proofs.Url.Form
import MetricBatch.Url.Basic
import Mathlib.Data.List.Infix

namespace MetricBatch.Url

open Text Form

/-- A character that a path shows as it is, and that does not end a segment. -/
def isPathChar (c : Char) : Bool :=
  c.toNat < 0x80 && !Percent.path c.toNat.toUInt8 && c != '/' && c != '\\'

structure IsSettled (segment : List Char) : Prop where
  chars : ∀ c ∈ segment, isPathChar c = true
  not_parent : isParent segment = false
  not_self : isSelf segment = false

theorem isSettled_nil : IsSettled [] := ⟨nofun, by decide, by decide⟩

theorem isPathChar_ne {c d : Char} (h : isPathChar c = true) (hd : isPathChar d = false) : c ≠ d := by
  rintro rfl
  rw [h] at hd
  cases hd

theorem not_mem_of_path {cs : List Char} (h : ∀ c ∈ cs, isPathChar c = true) {d : Char}
    (hd : isPathChar d = false) : d ∉ cs :=
  fun hmem => isPathChar_ne (h d hmem) hd rfl

theorem encode_cons (c : Char) (cs : List Char) : Percent.encode Percent.path (c :: cs) =
    Percent.encodeBytes Percent.path (Utf8.encodeChar c) ++ Percent.encode Percent.path cs := by
  simp [Percent.encode, Percent.encodeBytes, Utf8.encode, List.flatMap_append]

theorem encodeByte_path : ∀ b : UInt8, (Percent.encodeByte b).all isPathChar = true :=
  all_bytes (by decide +kernel)

theorem path_of_high : ∀ b : UInt8, 0x80 ≤ b.toNat → Percent.path b = true :=
  all_bytes (by decide +kernel)

theorem encodeChar_ascii {c : Char} (h : c.toNat < 0x80) :
    Utf8.encodeChar c = [c.toNat.toUInt8] := if_pos h

theorem encodeChar_high {c : Char} (h : ¬c.toNat < 0x80) :
    ∀ b ∈ Utf8.encodeChar c, 0x80 ≤ b.toNat := by
  have hv : c.toNat < 0xD800 ∨ 0xDFFF < c.toNat ∧ c.toNat < 0x110000 := c.valid
  have hbyte {n : Nat} (h : 0x80 ≤ n ∧ n < 256) : 0x80 ≤ n.toUInt8.toNat := by
    rw [Utf8.toUInt8_toNat h.2]
    exact h.1
  unfold Utf8.encodeChar
  generalize c.toNat = n at h hv ⊢
  dsimp only
  rw [if_neg h]
  split_ifs <;> simp only [List.forall_mem_cons, List.not_mem_nil, IsEmpty.forall_iff,
    implies_true, and_true]
  · exact ⟨hbyte (by omega), hbyte (by omega)⟩
  · exact ⟨hbyte (by omega), hbyte (by omega), hbyte (by omega)⟩
  · exact ⟨hbyte (by omega), hbyte (by omega), hbyte (by omega), hbyte (by omega)⟩

theorem encodeBytes_path {bytes : List UInt8} (h : ∀ b ∈ bytes, Percent.path b = true) :
    Percent.encodeBytes Percent.path bytes = bytes.flatMap Percent.encodeByte := by
  unfold Percent.encodeBytes
  exact List.flatMap_congr fun b hb => if_pos (h b hb)

theorem encodeChar_self {c : Char} (h : isPathChar c = true) :
    Percent.encodeBytes Percent.path (Utf8.encodeChar c) = [c] := by
  simp only [isPathChar, Bool.and_eq_true, decide_eq_true_eq, Bool.not_eq_true'] at h
  obtain ⟨⟨⟨hascii, hpath⟩, -⟩, -⟩ := h
  have hself : Char.ofNat c.toNat.toUInt8.toNat = c := by
    rw [Utf8.toUInt8_toNat (by omega), Char.ofNat_toNat]
  rw [encodeChar_ascii hascii, Percent.encodeBytes, List.flatMap_cons, List.flatMap_nil, hpath,
    if_neg Bool.false_ne_true, hself, List.append_nil]

theorem encode_path {cs : List Char} (h : ∀ c ∈ cs, isPathChar c = true) :
    Percent.encode Percent.path cs = cs := by
  induction cs with
  | nil => rfl
  | cons c cs ih =>
    rw [List.forall_mem_cons] at h
    rw [encode_cons, ih h.2, encodeChar_self h.1, List.singleton_append]

/-- Of any other character, slashes aside, some byte is encoded. -/
theorem encodeChar_other {c : Char} (hslash : c ≠ '/') (hback : c ≠ '\\')
    (h : ¬isPathChar c = true) : ∃ b rest, Percent.path b = true ∧
      (∀ d ∈ rest, isPathChar d = true) ∧
      Percent.encodeBytes Percent.path (Utf8.encodeChar c) = Percent.encodeByte b ++ rest := by
  have hbytes : ∀ b ∈ Utf8.encodeChar c, Percent.path b = true := by
    by_cases hascii : c.toNat < 0x80
    · rw [encodeChar_ascii hascii, List.forall_mem_singleton]
      simpa [isPathChar, hascii, hslash, hback] using h
    · exact fun b hb => path_of_high b (encodeChar_high hascii b hb)
  obtain ⟨b, bytes, heq⟩ := List.exists_cons_of_ne_nil (Utf8.encodeChar_ne_nil c)
  rw [encodeBytes_path hbytes, heq]
  refine ⟨b, bytes.flatMap Percent.encodeByte, hbytes b (by simp [heq]), fun d hd => ?_,
    List.flatMap_cons⟩
  obtain ⟨b', -, hd'⟩ := List.mem_flatMap.mp hd
  exact List.all_eq_true.mp (encodeByte_path b') d hd'

theorem isPathChar_encode {cs : List Char} (h : ∀ c ∈ cs, c ≠ '/' ∧ c ≠ '\\') :
    ∀ d ∈ Percent.encode Percent.path cs, isPathChar d = true := by
  induction cs with
  | nil => nofun
  | cons c cs ih =>
    obtain ⟨⟨hslash, hback⟩, hcs⟩ := List.forall_mem_cons.mp h
    rw [encode_cons, List.forall_mem_append]
    refine ⟨?_, ih hcs⟩
    by_cases hc : isPathChar c = true
    · rw [encodeChar_self hc]
      exact List.forall_mem_singleton.mpr hc
    · obtain ⟨b, rest, -, hrest, heq⟩ := encodeChar_other hslash hback hc
      rw [heq, List.forall_mem_append]
      exact ⟨List.all_eq_true.mp (encodeByte_path b), hrest⟩

/-- Where anything is encoded, there is a byte that had to be. -/
theorem encode_cases {cs : List Char} (h : ∀ c ∈ cs, c ≠ '/' ∧ c ≠ '\\') :
    Percent.encode Percent.path cs = cs ∨ ∃ before b after, Percent.path b = true ∧
      Percent.encode Percent.path cs = before ++ (Percent.encodeByte b ++ after) := by
  induction cs with
  | nil => exact .inl rfl
  | cons c cs ih =>
    obtain ⟨⟨hslash, hback⟩, hcs⟩ := List.forall_mem_cons.mp h
    rw [encode_cons]
    by_cases hc : isPathChar c = true
    · rw [encodeChar_self hc]
      rcases ih hcs with hself | ⟨before, b, after, hb, heq⟩
      · exact .inl (by rw [hself, List.singleton_append])
      · exact .inr ⟨c :: before, b, after, hb, by rw [heq]; rfl⟩
    · obtain ⟨b, rest, hb, -, heq⟩ := encodeChar_other hslash hback hc
      exact .inr ⟨[], b, rest ++ Percent.encode Percent.path cs, hb, by rw [heq]; simp⟩

/-- The names of a directory and of its parent, in small letters. -/
def directoryNames : List String := ["..", "%2e.", ".%2e", "%2e%2e", ".", "%2e"]

/-- The only byte whose digits occur in them is the full stop. -/
theorem directoryNames_percent : ∀ name ∈ directoryNames, ∀ rest ∈ name.toList.tails,
    rest.head? = some '%' → (rest.drop 1).take 2 = ['2', 'e'] := by decide

theorem encodeByte_not_stop : ∀ b : UInt8, Percent.path b = true →
    ((Percent.encodeByte b).map Char.toLower).drop 1 ≠ ['2', 'e'] :=
  all_bytes (by decide +kernel)

/-- A text with an encoded byte is not the name of a directory. -/
theorem not_directory_of_encoded {before after : List Char} {b : UInt8}
    (hb : Percent.path b = true) :
    String.ofList ((before ++ (Percent.encodeByte b ++ after)).map Char.toLower) ∉
      directoryNames := by
  intro hmem
  have hsuffix : (Percent.encodeByte b ++ after).map Char.toLower ∈ ((before ++
      (Percent.encodeByte b ++ after)).map Char.toLower).tails :=
    (List.mem_tails _ _).mpr ((List.suffix_append before _).map Char.toLower)
  have hstop := directoryNames_percent _ hmem _ (by rw [String.toList_ofList]; exact hsuffix) rfl
  exact encodeByte_not_stop b hb hstop

theorem isParent_eq (segment : List Char) : isParent segment = true →
    String.ofList (segment.map Char.toLower) ∈ directoryNames := by
  intro h
  have hmem := List.contains_iff_mem.mp h
  exact List.mem_append_left [".", "%2e"] hmem

theorem isSelf_eq (segment : List Char) : isSelf segment = true →
    String.ofList (segment.map Char.toLower) ∈ directoryNames := by
  intro h
  have hmem := List.contains_iff_mem.mp h
  exact List.mem_append_right ["..", "%2e.", ".%2e", "%2e%2e"] hmem

theorem isSettled_encode {segment : List Char} (h : ∀ c ∈ segment, c ≠ '/' ∧ c ≠ '\\')
    (hparent : isParent segment = false) (hself : isSelf segment = false) :
    IsSettled (Percent.encode Percent.path segment) := by
  refine ⟨isPathChar_encode h, ?_, ?_⟩
  · rcases encode_cases h with heq | ⟨before, b, after, hb, heq⟩
    · rwa [heq]
    · exact Bool.eq_false_iff.mpr fun hname =>
        not_directory_of_encoded hb (heq ▸ isParent_eq _ hname)
  · rcases encode_cases h with heq | ⟨before, b, after, hb, heq⟩
    · rwa [heq]
    · exact Bool.eq_false_iff.mpr fun hname =>
        not_directory_of_encoded hb (heq ▸ isSelf_eq _ hname)

end MetricBatch.Url
