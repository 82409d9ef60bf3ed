import MetricBatch.Json.Reader
import MetricBatch.Proofs.Text.Utf8

namespace MetricBatch.Json

open Text

/-- A byte that stands for itself in a string. -/
def IsPlain (b : UInt8) : Prop := 0x20 ≤ b ∧ b ≠ 0x22 ∧ b ≠ 0x5C

instance (b : UInt8) : Decidable (IsPlain b) := inferInstanceAs (Decidable (_ ∧ _))

theorem stringBytes_plain {content : List UInt8} (h : ∀ b ∈ content, IsPlain b)
    (rest : List UInt8) {turns : Nat} (hturns : content.length < turns) :
    stringBytes turns (content ++ 0x22 :: rest) = .ok (content, rest) := by
  obtain ⟨turns, rfl⟩ := Nat.exists_eq_add_one.mpr (Nat.zero_lt_of_lt hturns)
  induction content generalizing turns with
  | nil => rfl
  | cons b content ih =>
    obtain ⟨⟨hlow, hquote, hescape⟩, hmore⟩ := List.forall_mem_cons.mp h
    have hcontrol : ¬b < 0x20 := UInt8.not_lt.mpr hlow
    have hpos : 0 < turns := by simp at hturns; omega
    obtain ⟨turns, rfl⟩ := Nat.exists_eq_add_one.mpr hpos
    rw [List.cons_append, stringBytes, if_neg hquote, if_neg hescape, if_neg hcontrol,
      ih hmore turns (by simpa using hturns)]
    rfl

theorem stringAt_plain {s : String} (h : ∀ b ∈ Utf8.ofString s, IsPlain b) (rest : List UInt8) :
    stringAt (Utf8.ofString s ++ 0x22 :: rest) = .ok (s, rest) := by
  have hlength : (Utf8.ofString s).length < (Utf8.ofString s ++ 0x22 :: rest).length + 1 := by
    rw [List.length_append]
    omega
  simp only [stringAt, stringBytes_plain h rest hlength, bind, Except.bind,
    Utf8.toString?_ofString]
  rfl

/-- The text of an object whose only member is a string. -/
def pairBytes (key s : String) : List UInt8 :=
  0x22 :: (Utf8.ofString key ++ 0x22 :: 0x3A :: 0x22 :: (Utf8.ofString s ++ 0x22 :: [0x7D]))

theorem members_pairBytes {key s : String} (hkey : ∀ b ∈ Utf8.ofString key, IsPlain b)
    (hs : ∀ b ∈ Utf8.ofString s, IsPlain b) (depth turns : Nat) :
    members (valueAt depth) true (turns + 2) (pairBytes key s) = .ok ([(key, .string s)], []) := by
  let tail := Utf8.ofString s ++ 0x22 :: [0x7D]
  have hvalue : valueAt depth (0x22 :: tail) = .ok (.string s, [0x7D]) := by
    have hstring : valueAt depth (0x22 :: tail) =
        (stringAt tail).map fun read => (.string read.1, read.2) := by
      cases depth <;> rfl
    rw [hstring, stringAt_plain hs]
    rfl
  have hmember : member (valueAt depth) (Utf8.ofString key ++ 0x22 :: 0x3A :: 0x22 :: tail) =
      .ok ((key, .string s), [0x7D]) := by
    rw [member, stringAt_plain hkey]
    change (valueAt depth (0x22 :: tail) >>= _) = _
    rw [hvalue]
    rfl
  change (member (valueAt depth) (Utf8.ofString key ++ 0x22 :: 0x3A :: 0x22 :: tail) >>= _) = _
  rw [hmember]
  rfl

theorem read_pairBytes {key s : String} (hkey : ∀ b ∈ Utf8.ofString key, IsPlain b)
    (hs : ∀ b ∈ Utf8.ofString s, IsPlain b) :
    read (0x7B :: pairBytes key s) = .ok (.object [(key, .string s)]) := by
  have hobject : valueAt maxDepth (0x7B :: pairBytes key s) =
      .ok (.object [(key, .string s)], []) := by
    change (members (valueAt 126) true ((pairBytes key s).length + 1) (pairBytes key s)).map _ = _
    rw [pairBytes, List.length_cons, ← pairBytes, members_pairBytes hkey hs]
    rfl
  rw [read, hobject]
  rfl

end MetricBatch.Json
