import MetricBatch.Text.Utf8
import Mathlib.Data.List.TakeWhile
import Mathlib.Tactic.SplitIfs

namespace MetricBatch.Text.Utf8

variable {a b : UInt8} {k n : Nat}

theorem toUInt8_toNat (h : n < 256) : n.toUInt8.toNat = n := UInt8.toNat_ofNat_of_lt' h

/-- A second byte that the first one allows. -/
def Leads (a : UInt8) (width second : Nat) : Prop :=
  ∃ lo hi, lead a = some (width, lo, hi) ∧ lo ≤ second ∧ second ≤ hi

theorem leads_two (ha : 0xC2 ≤ a.toNat ∧ a.toNat < 0xE0) (hk : 0x80 ≤ k ∧ k ≤ 0xBF) :
    Leads a 2 k := by
  refine ⟨0x80, 0xBF, ?_, hk⟩
  unfold lead
  rw [if_neg (by omega), if_neg (by omega), if_pos (by omega)]

theorem leads_three (ha : 0xE0 ≤ a.toNat ∧ a.toNat < 0xF0) (hk : 0x80 ≤ k ∧ k ≤ 0xBF)
    (hlow : a.toNat = 0xE0 → 0xA0 ≤ k) (hhigh : a.toNat = 0xED → k ≤ 0x9F) : Leads a 3 k := by
  unfold Leads lead
  rw [if_neg (by omega), if_neg (by omega), if_neg (by omega)]
  by_cases hfirst : a.toNat = 0xE0
  · exact ⟨_, _, if_pos hfirst, hlow hfirst, hk.2⟩
  · rw [if_neg hfirst]
    by_cases hlast : a.toNat = 0xED
    · exact ⟨_, _, if_pos hlast, hk.1, hhigh hlast⟩
    · rw [if_neg hlast]
      exact ⟨_, _, if_pos (by omega), hk⟩

theorem leads_four (ha : 0xF0 ≤ a.toNat ∧ a.toNat ≤ 0xF4) (hk : 0x80 ≤ k ∧ k ≤ 0xBF)
    (hlow : a.toNat = 0xF0 → 0x90 ≤ k) (hhigh : a.toNat = 0xF4 → k ≤ 0x8F) : Leads a 4 k := by
  unfold Leads lead
  rw [if_neg (by omega), if_neg (by omega), if_neg (by omega), if_neg (by omega),
    if_neg (by omega), if_neg (by omega)]
  by_cases hfirst : a.toNat = 0xF0
  · exact ⟨_, _, if_pos hfirst, hlow hfirst, hk.2⟩
  · rw [if_neg hfirst]
    by_cases hlast : a.toNat = 0xF4
    · rw [if_neg (by omega)]
      exact ⟨_, _, if_pos hlast, hk.1, hhigh hlast⟩
    · exact ⟨_, _, if_pos (by omega), hk⟩

/-- What follows a whole sequence is not looked at. -/
theorem head?_of_leads {tails : List UInt8} (rest : List UInt8)
    (h : Leads a (tails.length + 2) b.toNat) (htails : ∀ t ∈ tails, isTail t = true) :
    head? (a :: b :: (tails ++ rest)) =
      some (.ofNat (value (a :: b :: tails)), tails.length + 2) := by
  obtain ⟨lo, hi, hlead, hlo, hhi⟩ := h
  have hall : tails.takeWhile isTail = tails := List.takeWhile_eq_self_iff.mpr htails
  have hspan : span (a :: b :: (tails ++ rest)) = tails.length + 2 := by
    simp [span, hlead, hlo, hhi, hall, Nat.add_comm]
  simp [head?, hlead, hspan]

theorem head?_encodeChar (c : Char) (rest : List UInt8) :
    head? (encodeChar c ++ rest) = some (c, (encodeChar c).length) := by
  have hv : c.toNat < 0xD800 ∨ 0xDFFF < c.toNat ∧ c.toNat < 0x110000 := c.valid
  have hc : Char.ofNat c.toNat = c := Char.ofNat_toNat c
  unfold encodeChar
  generalize c.toNat = n at hv hc ⊢
  have htail (k : Nat) : (0x80 + k % 64).toUInt8.toNat = 0x80 + k % 64 := toUInt8_toNat (by omega)
  have hcont (k : Nat) : isTail (0x80 + k % 64).toUInt8 = true := by
    simp only [isTail, htail, Bool.and_eq_true, decide_eq_true_eq]
    omega
  dsimp only
  split_ifs with h1 h2 h3
  · have ha : n.toUInt8.toNat = n := toUInt8_toNat (by omega)
    simp [head?, lead, span, value, ha, h1, hc]
  · have ha : (0xC0 + n / 64).toUInt8.toNat = 0xC0 + n / 64 := toUInt8_toNat (by omega)
    have hvalue : value [(0xC0 + n / 64).toUInt8, (0x80 + n % 64).toUInt8] = n := by
      simp only [value, ha, htail]
      omega
    have hleads : Leads (0xC0 + n / 64).toUInt8 2 (0x80 + n % 64).toUInt8.toNat := by
      apply leads_two <;> simp only [ha, htail] <;> omega
    have hnone : ∀ t ∈ ([] : List UInt8), isTail t = true := List.forall_mem_nil _
    have hhead := head?_of_leads rest hleads hnone
    rwa [hvalue, hc] at hhead
  · have ha : (0xE0 + n / 4096).toUInt8.toNat = 0xE0 + n / 4096 := toUInt8_toNat (by omega)
    have hvalue : value [(0xE0 + n / 4096).toUInt8, (0x80 + n / 64 % 64).toUInt8,
        (0x80 + n % 64).toUInt8] = n := by
      simp only [value, ha, htail]
      omega
    have hleads : Leads (0xE0 + n / 4096).toUInt8 3 (0x80 + n / 64 % 64).toUInt8.toNat := by
      apply leads_three <;> simp only [ha, htail] <;> omega
    have hhead := head?_of_leads rest hleads (List.forall_mem_singleton.mpr (hcont n))
    rwa [hvalue, hc] at hhead
  · have ha : (0xF0 + n / 262144).toUInt8.toNat = 0xF0 + n / 262144 := toUInt8_toNat (by omega)
    have hvalue : value [(0xF0 + n / 262144).toUInt8, (0x80 + n / 4096 % 64).toUInt8,
        (0x80 + n / 64 % 64).toUInt8, (0x80 + n % 64).toUInt8] = n := by
      rw [value, ha, htail, htail, htail]
      omega
    have hleads : Leads (0xF0 + n / 262144).toUInt8 4 (0x80 + n / 4096 % 64).toUInt8.toNat := by
      apply leads_four <;> simp only [ha, htail] <;> omega
    have hlast : ∀ t ∈ [(0x80 + n % 64).toUInt8], isTail t = true :=
      List.forall_mem_singleton.mpr (hcont n)
    have hhead := head?_of_leads rest hleads (List.forall_mem_cons.mpr ⟨hcont (n / 64), hlast⟩)
    rwa [hvalue, hc] at hhead

theorem encodeChar_ne_nil (c : Char) : encodeChar c ≠ [] := by
  unfold encodeChar
  dsimp only
  split_ifs <;> nofun

theorem lossy_cons {c : Char} {n : Nat} {bytes : List UInt8} (h : head? bytes = some (c, n))
    (hn : 0 < n) : lossy bytes = c :: lossy (bytes.drop n) := by
  cases bytes with
  | nil => cases h
  | cons b rest =>
    obtain ⟨m, rfl⟩ := Nat.exists_eq_add_one.mpr hn
    rw [lossy]
    simp [h]

theorem lossy_encode (cs : List Char) : lossy (encode cs) = cs := by
  induction cs with
  | nil => rw [encode, List.flatMap_nil, lossy]
  | cons c rest ih =>
    have hpos : 0 < (encodeChar c).length := List.length_pos_iff.mpr (encodeChar_ne_nil c)
    have hsplit : encode (c :: rest) = encodeChar c ++ encode rest := List.flatMap_cons
    rw [hsplit, lossy_cons (head?_encodeChar c (encode rest)) hpos, List.drop_left, ih]

theorem decode?_cons {c : Char} {n : Nat} {bytes : List UInt8} (h : head? bytes = some (c, n))
    (hn : 0 < n) : decode? bytes = (decode? (bytes.drop n)).map (c :: ·) := by
  cases bytes with
  | nil => cases h
  | cons b rest =>
    obtain ⟨m, rfl⟩ := Nat.exists_eq_add_one.mpr hn
    rw [decode?]
    simp [h]

theorem decode?_encode (cs : List Char) : decode? (encode cs) = some cs := by
  induction cs with
  | nil => rw [encode, List.flatMap_nil, decode?]
  | cons c rest ih =>
    have hpos : 0 < (encodeChar c).length := List.length_pos_iff.mpr (encodeChar_ne_nil c)
    have hsplit : encode (c :: rest) = encodeChar c ++ encode rest := List.flatMap_cons
    rw [hsplit, decode?_cons (head?_encodeChar c (encode rest)) hpos, List.drop_left, ih,
      Option.map_some]

theorem toString?_ofString (s : String) : toString? (ofString s) = some s := by
  rw [toString?, ofString, decode?_encode, Option.map_some, String.ofList_toList]

theorem toUInt8_lt {m : Nat} (hm : m < 256) (hn : n < 256) : m.toUInt8 < n.toUInt8 ↔ m < n := by
  rw [UInt8.lt_iff_toNat_lt, toUInt8_toNat hm, toUInt8_toNat hn]

theorem toUInt8_inj {m : Nat} (hm : m < 256) (hn : n < 256) : m.toUInt8 = n.toUInt8 ↔ m = n := by
  rw [← UInt8.toNat_inj, toUInt8_toNat hm, toUInt8_toNat hn]

/-- The bytes of a greater character are greater, whatever comes behind them. -/
theorem encodeChar_lt {c d : Char} (h : c < d) (x y : List UInt8) :
    encodeChar c ++ x < encodeChar d ++ y := by
  have hlt : c.toNat < d.toNat := h
  have hv : d.toNat < 0xD800 ∨ 0xDFFF < d.toNat ∧ d.toNat < 0x110000 := d.valid
  unfold encodeChar
  generalize c.toNat = m at hlt ⊢
  generalize d.toNat = n at hlt hv ⊢
  -- the digits of both to the base 64, first by first, for characters with as many bytes
  have h2 : m / 64 < n / 64 ∨ m / 64 = n / 64 ∧ m % 64 < n % 64 := by omega
  have h3 : m / 4096 < n / 4096 ∨ m / 4096 = n / 4096 ∧
      (m / 64 % 64 < n / 64 % 64 ∨ m / 64 % 64 = n / 64 % 64 ∧ m % 64 < n % 64) := by omega
  have h4 : m / 262144 < n / 262144 ∨ m / 262144 = n / 262144 ∧
      (m / 4096 % 64 < n / 4096 % 64 ∨ m / 4096 % 64 = n / 4096 % 64 ∧
        (m / 64 % 64 < n / 64 % 64 ∨ m / 64 % 64 = n / 64 % 64 ∧ m % 64 < n % 64)) := by omega
  dsimp only
  split_ifs
  all_goals
    simp (disch := omega) only [List.cons_append, List.nil_append, List.cons_lt_cons_iff,
      toUInt8_lt, toUInt8_inj]
  all_goals grind

theorem encode_lt {cs ds : List Char} (h : cs < ds) : encode cs < encode ds := by
  induction cs generalizing ds with
  | nil =>
    cases ds with
    | nil => exact absurd h (List.not_lt_nil _)
    | cons d ds =>
      obtain ⟨b, rest, hbytes⟩ := List.exists_cons_of_ne_nil (encodeChar_ne_nil d)
      rw [encode, encode, List.flatMap_nil, List.flatMap_cons, hbytes, List.cons_append]
      exact List.nil_lt_cons ..
  | cons c cs ih =>
    cases ds with
    | nil => exact absurd h (List.not_lt_nil _)
    | cons d ds =>
      rw [encode, encode, List.flatMap_cons, List.flatMap_cons]
      rcases List.cons_lt_cons_iff.mp h with hlt | ⟨rfl, hlt⟩
      · exact encodeChar_lt hlt ..
      · exact List.append_left_lt (ih hlt)

/-- Text in the order of its code points is in the order of its bytes. -/
theorem ofString_lt {s t : String} (h : s < t) : ofString s < ofString t :=
  encode_lt h

end MetricBatch.Text.Utf8
