import Mathlib.Data.String.Basic
import OptionSchema.Text.Utf8

/-!
# The order of texts and of their bytes

Texts are compared code point by code point. Main statement: `bytes_lt_iff`. The UTF-8 bytes of
texts stand in the same order as the texts.
-/

namespace OptionSchema.Text

theorem bytes_eq_flatMap (text : String) :
    bytes text = text.toList.flatMap String.utf8EncodeChar := by
  have same : text = String.ofList text.toList := String.ofList_toList.symm
  rw [bytes, same, String.toUTF8_eq_toByteArray, String.toByteArray_ofList, List.utf8Encode,
    String.toList_ofList, List.data_toByteArray]

/-- The encodings of two characters differ at some byte, and at the first such byte they are in the
order of the characters, so what comes behind them does not matter. -/
theorem utf8EncodeChar_append_lt {c d : Char} (below : c < d) (first second : List UInt8) :
    String.utf8EncodeChar c ++ first < String.utf8EncodeChar d ++ second := by
  have below : c.val.toNat < d.val.toNat := below
  have bound : d.val.toNat < 0x110000 := by
    have valid := d.valid
    simp only [UInt32.isValidChar, Nat.isValidChar] at valid
    omega
  have thrice (k : Nat) : k / 262144 = k / 64 / 64 / 64 := by
    rw [Nat.div_div_eq_div_mul, Nat.div_div_eq_div_mul]
  have twice (k : Nat) : k / 4096 = k / 64 / 64 := by
    rw [Nat.div_div_eq_div_mul]
  unfold String.utf8EncodeChar
  generalize c.val.toNat = m at below
  generalize d.val.toNat = n at below bound
  simp only [thrice, twice]
  split_ifs
  all_goals
    simp only [List.cons_append, List.nil_append, List.cons_lt_cons_iff, UInt8.lt_iff_toNat_lt,
      ← UInt8.toNat_inj, UInt8.toNat_ofNat']
    omega

/-- The order of texts is that of their bytes. -/
theorem bytes_lt_of_lt {first second : String} (below : first < second) :
    bytes first < bytes second := by
  rw [bytes_eq_flatMap, bytes_eq_flatMap]
  have below : first.toList < second.toList := String.lt_iff.mp below
  generalize first.toList = cs at below
  generalize second.toList = ds at below
  induction below with
  | nil =>
      next d ds =>
        rw [List.flatMap_nil, List.flatMap_cons]
        cases encoded : String.utf8EncodeChar d with
        | nil => exact absurd encoded String.utf8EncodeChar_ne_nil
        | cons byte rest => exact List.nil_lt_cons byte _
  | rel below =>
      rw [List.flatMap_cons, List.flatMap_cons]
      exact utf8EncodeChar_append_lt below _ _
  | cons _ ih =>
      rw [List.flatMap_cons, List.flatMap_cons]
      exact List.append_left_lt ih

theorem bytes_lt_iff {first second : String} : bytes first < bytes second ↔ first < second := by
  refine ⟨fun below => ?_, bytes_lt_of_lt⟩
  rcases lt_trichotomy first second with lt | rfl | gt
  · exact lt
  · exact absurd below (List.lt_irrefl _)
  · exact absurd below (List.lt_asymm (bytes_lt_of_lt gt))

/-- Texts with the same bytes are equal, as neither lies below the other. -/
theorem bytes_inj {first second : String} : bytes first = bytes second ↔ first = second := by
  refine ⟨fun same => ?_, congrArg bytes⟩
  rcases lt_trichotomy first second with lt | same | gt
  · exact absurd (same ▸ bytes_lt_of_lt lt) (List.lt_irrefl _)
  · exact same
  · exact absurd (same ▸ bytes_lt_of_lt gt) (List.lt_irrefl _)

end OptionSchema.Text
