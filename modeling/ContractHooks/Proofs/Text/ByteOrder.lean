-- The order of texts, which goes by their characters, is the order of their bytes in UTF-8: of two
-- characters the smaller one has the smaller bytes, and no character's bytes start another's.
import Mathlib.Data.String.Basic

namespace ContractHooks.Text

open String (utf8EncodeChar)

/-- The bytes of a text in UTF-8. -/
def utf8 (s : String) : List UInt8 := s.toUTF8.data.toList

theorem utf8_eq_flatMap (s : String) : utf8 s = s.toList.flatMap utf8EncodeChar := by
  unfold utf8
  rw [String.toUTF8_eq_toByteArray, ← String.utf8Encode_toList, List.utf8Encode,
    List.toList_data_toByteArray]

/-! ## Characters -/

theorem toNat_lt (c : Char) : c.val.toNat < 0x110000 := by
  have hvalid := c.valid
  simp only [UInt32.isValidChar, Nat.isValidChar] at hvalid
  omega

/-- A number below `8 * 64 ^ 3` is made of its digits to the base 64. -/
theorem eq_of_base64 {n : Nat} (h : n < 2097152) :
    n = 262144 * (n / 262144 % 8) + 4096 * (n / 4096 % 64) + 64 * (n / 64 % 64) + n % 64 := by
  omega

/-- Two numbers with three digits behind the first are in order as their digits are. -/
theorem digits_lt {m n : Nat} (h : m < n) (hn : n < 2097152) :
    m / 262144 % 8 < n / 262144 % 8 ∨ m / 262144 % 8 = n / 262144 % 8 ∧
      (m / 4096 % 64 < n / 4096 % 64 ∨ m / 4096 % 64 = n / 4096 % 64 ∧
        (m / 64 % 64 < n / 64 % 64 ∨ m / 64 % 64 = n / 64 % 64 ∧ m % 64 < n % 64)) := by
  have hm := eq_of_base64 (h.trans hn)
  have hn := eq_of_base64 hn
  have hbounds : m / 4096 % 64 < 64 ∧ m / 64 % 64 < 64 ∧ m % 64 < 64 ∧
      n / 4096 % 64 < 64 ∧ n / 64 % 64 < 64 ∧ n % 64 < 64 := by
    refine ⟨?_, ?_, ?_, ?_, ?_, ?_⟩ <;> exact Nat.mod_lt _ (by decide)
  generalize m / 262144 % 8 = a, m / 4096 % 64 = b, m / 64 % 64 = c, m % 64 = d at *
  generalize n / 262144 % 8 = a', n / 4096 % 64 = b', n / 64 % 64 = c', n % 64 = d' at *
  omega

/-- Bytes are in order where the numbers that they are made of are, at the first place where these
differ. -/
theorem ofNat_cons_lt {k m n : Nat} (hm : m + k < 256) (hn : n + k < 256) {xs ys : List UInt8}
    (h : m < n ∨ m = n ∧ xs < ys) : UInt8.ofNat (m + k) :: xs < UInt8.ofNat (n + k) :: ys := by
  rw [List.cons_lt_cons_iff, UInt8.lt_iff_toNat_lt, UInt8.toNat_ofNat', UInt8.toNat_ofNat',
    Nat.mod_eq_of_lt hm, Nat.mod_eq_of_lt hn]
  rcases h with h | ⟨rfl, h⟩
  · exact .inl (by omega)
  · exact .inr ⟨rfl, h⟩

/-- Of two characters the smaller one has the smaller bytes, whatever follows them. -/
theorem utf8EncodeChar_append_lt {c d : Char} (h : c < d) (xs ys : List UInt8) :
    utf8EncodeChar c ++ xs < utf8EncodeChar d ++ ys := by
  have hlt : c.val.toNat < d.val.toNat := UInt32.lt_iff_toNat_lt.1 (Char.lt_def.1 h)
  have hmax := toNat_lt d
  unfold utf8EncodeChar
  generalize c.val.toNat = m at hlt
  generalize d.val.toNat = n at hlt hmax
  dsimp only
  by_cases hlong : m ≤ 65535
  · -- A character with fewer bytes has a smaller first byte, and up to three bytes are compared
    -- one by one.
    split_ifs <;>
      simp only [List.cons_append, List.nil_append, List.cons_lt_cons_iff, UInt8.lt_iff_toNat_lt,
        ← UInt8.toNat_inj, UInt8.toNat_ofNat'] <;>
      omega
  · simp only [hlong, if_false, show ¬ m ≤ 127 by omega, show ¬ m ≤ 2047 by omega,
      show ¬ n ≤ 127 by omega, show ¬ n ≤ 2047 by omega, show ¬ n ≤ 65535 by omega,
      List.cons_append, List.nil_append]
    refine ofNat_cons_lt (by omega) (by omega) ((digits_lt hlt (by omega)).imp id fun h =>
      ⟨h.1, ?_⟩)
    refine ofNat_cons_lt (by omega) (by omega) (h.2.imp id fun h => ⟨h.1, ?_⟩)
    refine ofNat_cons_lt (by omega) (by omega) (h.2.imp id fun h => ⟨h.1, ?_⟩)
    exact ofNat_cons_lt (by omega) (by omega) (.inl h.2)

/-! ## Texts -/

theorem utf8EncodeChar_ne_nil (c : Char) : utf8EncodeChar c ≠ [] := by
  unfold utf8EncodeChar
  dsimp only
  split_ifs <;> exact List.cons_ne_nil _ _

theorem flatMap_utf8EncodeChar_lt {cs ds : List Char} (h : cs < ds) :
    cs.flatMap utf8EncodeChar < ds.flatMap utf8EncodeChar := by
  induction cs generalizing ds with
  | nil =>
    cases ds with
    | nil => exact absurd h (List.lt_irrefl _)
    | cons d ds =>
      obtain ⟨b, bs, hbytes⟩ := List.exists_cons_of_ne_nil (utf8EncodeChar_ne_nil d)
      rw [List.flatMap_cons, hbytes]
      exact List.nil_lt_cons _ _
  | cons c cs ih =>
    cases ds with
    | nil => exact absurd h (List.not_lt_nil _)
    | cons d ds =>
      rw [List.flatMap_cons, List.flatMap_cons]
      rcases List.cons_lt_cons_iff.1 h with hcd | ⟨rfl, hrest⟩
      · exact utf8EncodeChar_append_lt hcd _ _
      · exact List.append_left_lt (ih hrest)

/-- Texts are in order just where their bytes are. -/
theorem utf8_lt_iff {s t : String} : utf8 s < utf8 t ↔ s < t := by
  have hforward : ∀ {s t : String}, s < t → utf8 s < utf8 t := by
    intro s t h
    rw [utf8_eq_flatMap, utf8_eq_flatMap]
    exact flatMap_utf8EncodeChar_lt (String.lt_iff_toList_lt.1 h)
  refine ⟨fun h => ?_, hforward⟩
  rcases lt_trichotomy s t with hlt | rfl | hgt
  · exact hlt
  · exact absurd h (List.lt_irrefl _)
  · exact absurd h (List.lt_asymm (hforward hgt))

theorem utf8_le_iff {s t : String} : utf8 s ≤ utf8 t ↔ ¬ t < s := by
  rw [← utf8_lt_iff, List.not_lt]

end ContractHooks.Text
