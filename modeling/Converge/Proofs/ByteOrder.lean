import Mathlib.Data.String.Basic

/-!
# The order of bytes

Texts are compared by code point here, and by the bytes of their UTF-8 encoding elsewhere. That is the same order: the
first byte of a character tells how many there are, more the higher the code point is, and the bytes behind it are its
digits to the base of 64. So the bytes of a smaller character come before those of a greater one, whatever text follows
(`Text.utf8EncodeChar_append_lt`). Main theorem: `Text.lt_iff_bytes_lt`.
-/

namespace Converge.Text

/-- The bytes of the UTF-8 encoding of a text. -/
def bytes (s : String) : List UInt8 := s.toUTF8.data.toList

theorem bytes_ofList (cs : List Char) : bytes (String.ofList cs) = cs.flatMap String.utf8EncodeChar := by
  simp [bytes, List.utf8Encode]

/-! ## One character -/

/-- The last `n` bytes of a code point that has more of them: six bits each. -/
def lastBytes (v : Nat) : Nat → List UInt8
  | 0 => []
  | n + 1 => UInt8.ofNat (v / Nat.pow 64 n % 64 + 128) :: lastBytes v n

/-- The first byte of a code point with `n` bytes behind it: the bits that those leave over, above a mark that grows
with `n`. -/
inductive FirstByte (v : Nat) : (n : Nat) → (first : Nat) → Prop
  | one (high : v < 128) : FirstByte v 0 v
  | two (low : 128 ≤ v) (high : v < 2048) : FirstByte v 1 (v / 64 + 192)
  | three (low : 2048 ≤ v) (high : v < 65536) : FirstByte v 2 (v / 4096 + 224)
  | four (low : 65536 ≤ v) (high : v < 1114112) : FirstByte v 3 (v / 262144 + 240)

theorem toNat_lt (c : Char) : c.toNat < 1114112 := by
  have h := c.valid
  unfold UInt32.isValidChar Nat.isValidChar at h
  unfold Char.toNat
  omega

theorem exists_firstByte (c : Char) : ∃ n first, FirstByte c.toNat n first ∧
    String.utf8EncodeChar c = UInt8.ofNat first :: lastBytes c.toNat n := by
  have hbound := toNat_lt c
  have hv : c.val.toNat = c.toNat := rfl
  unfold String.utf8EncodeChar
  simp only [hv]
  generalize c.toNat = v at hbound
  split
  · exact ⟨0, _, .one (by omega), rfl⟩
  · split
    · refine ⟨1, _, .two (by omega) (by omega), ?_⟩
      simp only [lastBytes, Nat.pow_eq, Nat.pow_zero, Nat.div_one]
      rw [Nat.mod_eq_of_lt (by omega)]
    · split
      · refine ⟨2, _, .three (by omega) (by omega), ?_⟩
        simp only [lastBytes, Nat.pow_eq, Nat.pow_zero, Nat.div_one, Nat.reducePow]
        rw [Nat.mod_eq_of_lt (by omega)]
      · refine ⟨3, _, .four (by omega) (by omega), ?_⟩
        simp only [lastBytes, Nat.pow_eq, Nat.pow_zero, Nat.div_one, Nat.reducePow]
        rw [Nat.mod_eq_of_lt (by omega)]

theorem ofNat_lt_ofNat {a b : Nat} (h : a < b) (hb : b < 256) : UInt8.ofNat a < UInt8.ofNat b := by
  rw [UInt8.lt_iff_toNat_lt, UInt8.toNat_ofNat_of_lt' (Nat.lt_trans h hb), UInt8.toNat_ofNat_of_lt' hb]
  exact h

theorem lastBytes_append_lt {v w n : Nat} (h : v % Nat.pow 64 n < w % Nat.pow 64 n) (x y : List UInt8) :
    lastBytes v n ++ x < lastBytes w n ++ y := by
  induction n with
  | zero => exact absurd h (by simp [Nat.mod_one])
  | succ n ih =>
    have hv : v % Nat.pow 64 (n + 1) = v % Nat.pow 64 n + Nat.pow 64 n * (v / Nat.pow 64 n % 64) := Nat.mod_mul
    have hw : w % Nat.pow 64 (n + 1) = w % Nat.pow 64 n + Nat.pow 64 n * (w / Nat.pow 64 n % 64) := Nat.mod_mul
    simp only [lastBytes, List.cons_append, List.cons_lt_cons_iff]
    rcases Nat.lt_trichotomy (v / Nat.pow 64 n % 64) (w / Nat.pow 64 n % 64) with hlt | heq | hgt
    · exact .inl (ofNat_lt_ofNat (by omega) (by omega))
    · rw [hv, hw, heq] at h
      exact .inr ⟨by rw [heq], ih (Nat.lt_of_add_lt_add_right h)⟩
    · -- a greater digit outweighs all that are behind it
      have hrest : w % Nat.pow 64 n < Nat.pow 64 n := Nat.mod_lt w (Nat.pow_pos (by decide))
      have hdigit := Nat.mul_le_mul_left (Nat.pow 64 n) (Nat.succ_le_of_lt hgt)
      rw [Nat.mul_succ] at hdigit
      omega

/-- **A smaller character has smaller bytes**, whatever is behind them. -/
theorem utf8EncodeChar_append_lt {c d : Char} (h : c < d) (x y : List UInt8) :
    String.utf8EncodeChar c ++ x < String.utf8EncodeChar d ++ y := by
  have hlt : c.toNat < d.toNat := h
  obtain ⟨n, first, hn, hc⟩ := exists_firstByte c
  obtain ⟨m, first', hm, hd⟩ := exists_firstByte d
  have hfirst : first' < 256 ∧ (first < first' ∨
      first = first' ∧ n = m ∧ c.toNat % Nat.pow 64 n < d.toNat % Nat.pow 64 n) := by
    cases hn <;> cases hm <;> simp only [Nat.pow_eq, Nat.reducePow, true_and] <;> omega
  rw [hc, hd, List.cons_append, List.cons_append, List.cons_lt_cons_iff]
  obtain ⟨hbyte, hless | ⟨rfl, rfl, hrest⟩⟩ := hfirst
  · exact .inl (ofNat_lt_ofNat hless hbyte)
  · exact .inr ⟨rfl, lastBytes_append_lt hrest x y⟩

/-! ## Texts -/

theorem flatMap_utf8EncodeChar_lt {cs ds : List Char} (h : cs < ds) :
    cs.flatMap String.utf8EncodeChar < ds.flatMap String.utf8EncodeChar := by
  induction cs generalizing ds with
  | nil =>
    cases ds with
    | nil => exact absurd h (List.lt_irrefl [])
    | cons d ds =>
      obtain ⟨_, _, _, hd⟩ := exists_firstByte d
      simp [hd]
  | cons c cs ih =>
    cases ds with
    | nil => simp at h
    | cons d ds =>
      rcases List.cons_lt_cons_iff.1 h with hcd | ⟨rfl, hrest⟩
      · exact utf8EncodeChar_append_lt hcd _ _
      · exact List.append_left_lt (ih hrest)

theorem bytes_lt_of_lt {s t : String} (h : s < t) : bytes s < bytes t := by
  rw [← String.ofList_toList (s := s), ← String.ofList_toList (s := t), bytes_ofList, bytes_ofList]
  exact flatMap_utf8EncodeChar_lt (String.lt_iff_toList_lt.1 h)

/-- **Texts are in the order of their bytes.** -/
theorem lt_iff_bytes_lt {s t : String} : s < t ↔ bytes s < bytes t := by
  refine ⟨bytes_lt_of_lt, fun h => ?_⟩
  rcases lt_trichotomy s t with hlt | rfl | hgt
  · exact hlt
  · exact absurd h (List.lt_irrefl _)
  · exact absurd h (List.lt_asymm (bytes_lt_of_lt hgt))

end Converge.Text
