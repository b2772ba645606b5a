import Mathlib.Data.List.Basic
import Mathlib.Data.String.Basic

/-!
# The order of texts is that of their bytes

File names and preference keys are put in order by their bytes.  Texts are compared character by
character, and the two orders are one: UTF-8 writes a greater character in greater bytes.

## Strategy

Two characters that differ are told apart within their own bytes, so what follows them does not
matter: more bytes begin with a greater one, and as many bytes are digits of the codes, the greatest
first.  From one character the order carries over to texts along their first difference.  Texts are
ordered in a line, so it is enough to go in one direction.
-/

namespace KernelControls.Text

/-- The bytes of a text in UTF-8. -/
def bytes (text : String) : List UInt8 :=
  text.toUTF8.data.toList

theorem bytes_eq (text : String) : bytes text = text.toList.flatMap String.utf8EncodeChar := by
  obtain ⟨characters, rfl⟩ : ∃ characters, text = String.ofList characters :=
    ⟨text.toList, String.ofList_toList.symm⟩
  rw [bytes, String.toUTF8_eq_toByteArray, String.toByteArray_ofList, String.toList_ofList,
    List.utf8Encode, List.data_toByteArray]

/-! ## Characters -/

theorem toNat_lt_of_valid (character : Char) : character.val.toNat < 0x110000 := by
  rcases character.valid with hlow | ⟨-, hhigh⟩
  · exact Nat.lt_trans hlow (by decide)
  · exact hhigh

/-- The bytes of a greater character are greater, whatever follows. -/
theorem utf8EncodeChar_append_lt {first second : Char} (hlt : first < second)
    (rest other : List UInt8) :
    String.utf8EncodeChar first ++ rest < String.utf8EncodeChar second ++ other := by
  have hcodes : first.val.toNat < second.val.toNat := UInt32.lt_iff_toNat_lt.mp (Char.lt_def.mp hlt)
  have hsecond := toNat_lt_of_valid second
  unfold String.utf8EncodeChar
  generalize first.val.toNat = low at hcodes
  generalize second.val.toNat = high at hcodes hsecond
  -- Nothing is lost where the digits of a code become bytes.
  have hlow : (low / 262144 % 8 + 240) % 256 = low / 262144 + 240 := by omega
  have hhigh : (high / 262144 % 8 + 240) % 256 = high / 262144 + 240 := by omega
  have hdigit : ∀ number, (number % 64 + 128) % 256 = number % 64 + 128 := by omega
  dsimp only
  split_ifs
  all_goals
    simp only [List.cons_append, List.nil_append, List.cons_lt_cons_iff, UInt8.lt_iff_toNat_lt,
      ← UInt8.toNat_inj, UInt8.toNat_ofNat', hlow, hhigh, hdigit]
    omega

/-! ## Texts -/

theorem flatMap_utf8EncodeChar_lt {left right : List Char} (hlt : left < right) :
    left.flatMap String.utf8EncodeChar < right.flatMap String.utf8EncodeChar := by
  induction left generalizing right with
  | nil =>
      cases right with
      | nil => exact absurd hlt (List.lt_irrefl _)
      | cons second more =>
          rw [List.flatMap_nil, List.flatMap_cons]
          obtain ⟨byte, bytes, hbytes⟩ :=
            List.exists_cons_of_ne_nil (String.utf8EncodeChar_ne_nil (c := second))
          rw [hbytes]
          exact List.nil_lt_cons _ _
  | cons first rest ih =>
      cases right with
      | nil => exact absurd hlt (List.not_lt_nil _)
      | cons second more =>
          rw [List.flatMap_cons, List.flatMap_cons]
          rcases List.cons_lt_cons_iff.mp hlt with hfirst | ⟨rfl, hrest⟩
          · exact utf8EncodeChar_append_lt hfirst _ _
          · exact List.append_left_lt (ih hrest)

/-- **Texts are ordered by their bytes.** -/
theorem lt_iff_bytes_lt {left right : String} : left < right ↔ bytes left < bytes right := by
  have hforward : ∀ {left right : String}, left < right → bytes left < bytes right := by
    intro left right hlt
    rw [bytes_eq, bytes_eq]
    exact flatMap_utf8EncodeChar_lt (String.lt_iff.mp hlt)
  refine ⟨hforward, fun hbytes => ?_⟩
  rcases lt_trichotomy left right with hlt | heq | hgt
  · exact hlt
  · rw [heq] at hbytes
    exact absurd hbytes (List.lt_irrefl _)
  · exact absurd hbytes (List.lt_asymm (hforward hgt))

theorem le_iff_bytes_le {left right : String} : left ≤ right ↔ bytes left ≤ bytes right := by
  rw [← String.not_lt, ← List.not_lt, lt_iff_bytes_lt]

end KernelControls.Text
