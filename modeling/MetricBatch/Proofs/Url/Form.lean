import MetricBatch.Proofs.Text.Joined
import MetricBatch.Proofs.Text.Utf8
import MetricBatch.Url.Form

namespace MetricBatch.Url

open Text

namespace Percent

theorem decode_cons {b : UInt8} (hb : b ≠ 0x25) (rest : List UInt8) :
    decode (b :: rest) = b :: decode rest := by
  rw [decode.eq_def]
  split
  · rename_i he
    exact absurd (List.cons.inj he).1 hb
  · rename_i he
    obtain ⟨rfl, rfl⟩ := List.cons.inj he
    rfl
  · rename_i he
    cases he

theorem hexValue?_hexDigit :
    ∀ n < 16, (Utf8.encodeChar (hexDigit n)).map hexValue? = [some n] := by decide

theorem decode_encodeByte (b : UInt8) (rest : List UInt8) :
    decode (Utf8.encode (encodeByte b) ++ rest) = b :: decode rest := by
  have hb : b.toNat < 256 := b.toNat_lt
  obtain ⟨x, hx, hhigh⟩ :=
    List.map_eq_singleton_iff.mp (hexValue?_hexDigit (b.toNat / 16) (by omega))
  obtain ⟨y, hy, hlow⟩ :=
    List.map_eq_singleton_iff.mp (hexValue?_hexDigit (b.toNat % 16) (by omega))
  have hmark : Utf8.encodeChar '%' = [0x25] := by decide
  have hbytes : Utf8.encode (encodeByte b) = [0x25, x, y] := by
    simp [Utf8.encode, encodeByte, hx, hy, hmark]
  have hvalue : (b.toNat / 16 * 16 + b.toNat % 16).toUInt8 = b := by
    rw [Nat.div_add_mod']
    exact UInt8.ofNat_toNat
  rw [hbytes, List.cons_append, List.cons_append, List.cons_append, List.nil_append, decode]
  simp only [hhigh, hlow, hvalue]

end Percent

namespace Form

/-- What holds of every number of eight bits holds of every byte. -/
theorem all_bytes {P : UInt8 → Prop} (h : ∀ n < 256, P (UInt8.ofNat n)) (b : UInt8) : P b := by
  have hb := h b.toNat b.toNat_lt
  rwa [UInt8.ofNat_toNat] at hb

/-- The bytes of an encoded text in which plus signs stand for spaces. -/
def bytesOf (cs : List Char) : List UInt8 := Utf8.encode (cs.map fun c => if c = '+' then ' ' else c)

theorem bytesOf_append (cs ds : List Char) : bytesOf (cs ++ ds) = bytesOf cs ++ bytesOf ds := by
  simp [bytesOf, Utf8.encode]

theorem bytesOf_plain :
    ∀ b : UInt8, isPlain b = true → bytesOf [Char.ofNat b.toNat] = [b] ∧ b ≠ 0x25 :=
  all_bytes (by decide +kernel)

/-- The digits after a percent sign have no plus sign among them. -/
theorem bytesOf_percent :
    ∀ b : UInt8, bytesOf (Percent.encodeByte b) = Utf8.encode (Percent.encodeByte b) :=
  all_bytes (by decide +kernel)

theorem decode_bytesOf_encodeByte (b : UInt8) (rest : List UInt8) :
    Percent.decode (bytesOf (encodeByte b) ++ rest) = b :: Percent.decode rest := by
  unfold encodeByte
  split
  · rename_i hplain
    obtain ⟨hbytes, hb⟩ := bytesOf_plain b hplain
    rw [hbytes, List.singleton_append, Percent.decode_cons hb]
  · split
    · rename_i hspace
      subst hspace
      exact Percent.decode_cons (by decide) rest
    · rw [bytesOf_percent, Percent.decode_encodeByte]

theorem decode_bytesOf (bytes : List UInt8) :
    Percent.decode (bytesOf (bytes.flatMap encodeByte)) = bytes := by
  induction bytes with
  | nil => rfl
  | cons b rest ih => rw [List.flatMap_cons, bytesOf_append, decode_bytesOf_encodeByte, ih]

theorem decodeText_encodeText (cs : List Char) : decodeText (encodeText cs) = String.ofList cs := by
  have hbytes : Percent.decode (bytesOf (encodeText cs)) = Utf8.encode cs := decode_bytesOf _
  rw [decodeText, ← bytesOf, hbytes, Utf8.lossy_encode]

/-- The characters of encoded names and values. -/
def isTextChar (c : Char) : Bool := c.isAlphanum || "*-._+%".toList.contains c

theorem encodeByte_chars : ∀ b : UInt8, (encodeByte b).all isTextChar = true :=
  all_bytes (by decide +kernel)

theorem encodeText_chars {cs : List Char} {c : Char} (h : c ∈ encodeText cs) :
    isTextChar c = true := by
  obtain ⟨b, _, hc⟩ := List.mem_flatMap.mp h
  exact List.all_eq_true.mp (encodeByte_chars b) c hc

theorem not_mem_encodeText {c : Char} (hc : isTextChar c = false) (cs : List Char) :
    c ∉ encodeText cs := by
  intro hmem
  rw [encodeText_chars hmem] at hc
  cases hc

theorem decodePair_encodePair (pair : String × String) : decodePair (encodePair pair) = pair := by
  have hname : ∀ c ∈ encodeText pair.1.toList, (c != '=') = true := by
    intro c hc
    rw [bne_iff_ne]
    rintro rfl
    exact not_mem_encodeText (by decide) _ hc
  have htake : (encodePair pair).takeWhile (· != '=') = encodeText pair.1.toList := by
    rw [encodePair, List.takeWhile_append_of_pos hname]
    simp
  have hdrop : (encodePair pair).dropWhile (· != '=') = '=' :: encodeText pair.2.toList := by
    rw [encodePair, List.dropWhile_append_of_pos hname]
    simp
  rw [decodePair, htake, hdrop, List.drop_one, List.tail_cons, decodeText_encodeText,
    decodeText_encodeText, String.ofList_toList, String.ofList_toList]

theorem encodePair_chars {pair : String × String} {c : Char} (h : c ∈ encodePair pair) :
    isTextChar c = true ∨ c = '=' := by
  rcases List.mem_append.mp h with hname | hrest
  · exact .inl (encodeText_chars hname)
  · rcases List.mem_cons.mp hrest with rfl | hvalue
    · exact .inr rfl
    · exact .inl (encodeText_chars hvalue)

theorem split_of_not_mem {separator : Char} {cs : List Char} (h : separator ∉ cs) :
    split separator cs = [cs] := by
  induction cs with
  | nil => rfl
  | cons c rest ih =>
    rw [List.mem_cons, not_or] at h
    rw [split, if_neg (Ne.symm h.1), ih h.2]

theorem split_append {separator : Char} {cs : List Char} (h : separator ∉ cs) (rest : List Char) :
    split separator (cs ++ separator :: rest) = cs :: split separator rest := by
  induction cs with
  | nil => rw [List.nil_append, split, if_pos rfl]
  | cons c more ih =>
    rw [List.mem_cons, not_or] at h
    rw [List.cons_append, split, if_neg (Ne.symm h.1), ih h.2]

/-- Parts without the separator are found again where they were joined by it. -/
theorem split_intercalate {separator : Char} {part : List Char} {parts : List (List Char)}
    (h : ∀ p ∈ part :: parts, separator ∉ p) :
    split separator (List.intercalate [separator] (part :: parts)) = part :: parts := by
  induction parts generalizing part with
  | nil =>
    rw [List.intercalate_singleton]
    exact split_of_not_mem (h part (by simp))
  | cons next rest ih =>
    rw [List.forall_mem_cons] at h
    rw [List.intercalate_cons_cons, List.append_assoc, List.singleton_append, split_append h.1,
      ih h.2]

/-- Names and values come back from a query string as they were. -/
theorem decode_encode (pairs : List (String × String)) : decode (encode pairs) = pairs := by
  cases pairs with
  | nil => rfl
  | cons first rest =>
    have hparts : ∀ p ∈ (first :: rest).map encodePair, '&' ∉ p ∧ p ≠ [] := by
      intro p hp
      obtain ⟨pair, _, rfl⟩ := List.mem_map.mp hp
      refine ⟨fun hc => ?_, by simp [encodePair]⟩
      rcases encodePair_chars hc with ht | he
      · exact absurd ht (by decide)
      · exact absurd he (by decide)
    have hsplit : split '&' (encode (first :: rest)).toList = (first :: rest).map encodePair := by
      rw [encode, String.toList_ofList, List.map_cons]
      exact split_intercalate fun p hp => (hparts p hp).1
    have hfilter : ((first :: rest).map encodePair).filter (! ·.isEmpty) =
        (first :: rest).map encodePair := by
      rw [List.filter_eq_self]
      intro p hp
      simpa using (hparts p hp).2
    have hpairs : decodePair ∘ encodePair = id := funext decodePair_encodePair
    rw [decode, hsplit, hfilter, List.map_map, hpairs, List.map_id]

/-- The characters of a query string made of parameters. -/
def isQueryChar (c : Char) : Bool := isTextChar c || c == '=' || c == '&'

theorem encode_chars (pairs : List (String × String)) :
    ∀ c ∈ (encode pairs).toList, isQueryChar c = true := by
  rw [encode, String.toList_ofList]
  refine forall_mem_intercalate (P := fun c => isQueryChar c = true) (by decide) fun p hp c hc => ?_
  obtain ⟨pair, _, rfl⟩ := List.mem_map.mp hp
  rcases encodePair_chars hc with htext | rfl
  · simp [isQueryChar, htext]
  · decide

end Form

end MetricBatch.Url
