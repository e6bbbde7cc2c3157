import DocCheck.Table.Basic
import Mathlib.Data.Char
import Mathlib.Data.List.Lex
import Mathlib.Data.String.Basic
import Mathlib.Data.UInt
import Mathlib.Tactic.SplitIfs

/-!
# The order of names is that of their bytes

Names are listed in the order of their code points.  UTF-8 keeps this order:
a smaller code point has fewer bytes, and then a smaller first byte, or as
many bytes, and then the first byte that differs is smaller.  So the order is
also that of the bytes.
-/

namespace DocCheck

/-- The bytes of a text in UTF-8. -/
def utf8Bytes (text : String) : List UInt8 :=
  text.toUTF8.data.toList

theorem utf8Bytes_eq_flatMap (text : String) :
    utf8Bytes text = text.toList.flatMap String.utf8EncodeChar := by
  rw [utf8Bytes, String.toUTF8, ← String.utf8Encode_toList]
  simp [List.utf8Encode]

/-- The bytes of two code points differ somewhere, and in the order of the
code points where they do so first, whatever follows. -/
theorem utf8EncodeChar_append_lt {c d : Char} (smaller : c < d)
    (cRest dRest : List UInt8) :
    String.utf8EncodeChar c ++ cRest < String.utf8EncodeChar d ++ dRest := by
  have below : c.val.toNat < d.val.toNat := smaller
  have bound : d.val.toNat < 0x110000 := by
    rcases d.valid with low | high
    · exact Nat.lt_trans low (by decide)
    · exact high.2
  -- Behind the first byte every byte has the next six bits.
  have nested (point : Nat) :
      point / 4096 = point / 64 / 64 ∧
        point / 262144 = point / 64 / 64 / 64 := by
    omega
  unfold String.utf8EncodeChar
  dsimp only
  -- The cases are the numbers of bytes of the two code points.
  split_ifs <;>
    simp only [List.cons_append, List.nil_append, List.cons_lt_cons_iff,
      UInt8.lt_iff_toNat_lt, ← UInt8.toNat_inj, UInt8.toNat_ofNat',
      (nested _).1, (nested _).2] <;>
    omega

theorem flatMap_utf8EncodeChar_lt {left right : List Char}
    (smaller : left < right) :
    left.flatMap String.utf8EncodeChar <
      right.flatMap String.utf8EncodeChar := by
  induction left generalizing right with
  | nil =>
      cases right with
      | nil => exact absurd smaller (List.lt_irrefl [])
      | cons d others =>
          obtain ⟨byte, bytes, encoded⟩ :=
            List.exists_cons_of_ne_nil String.utf8EncodeChar_ne_nil
          rw [List.flatMap_cons, encoded]
          exact List.nil_lt_cons _ _
  | cons c chars inductionHypothesis =>
      cases right with
      | nil => exact absurd smaller (List.not_lt_nil _)
      | cons d others =>
          rw [List.flatMap_cons, List.flatMap_cons]
          rcases List.cons_lt_cons_iff.mp smaller with first | ⟨rfl, rest⟩
          · exact utf8EncodeChar_append_lt first _ _
          · exact List.append_left_lt (inductionHypothesis rest)

/-- Texts are in the order of their bytes. -/
theorem lt_iff_utf8Bytes_lt {left right : String} :
    left < right ↔ utf8Bytes left < utf8Bytes right := by
  rw [utf8Bytes_eq_flatMap, utf8Bytes_eq_flatMap,
    String.lt_iff_toList_lt]
  refine ⟨flatMap_utf8EncodeChar_lt, fun bytes => ?_⟩
  rcases lt_trichotomy left.toList right.toList with smaller | same | greater
  · exact smaller
  · rw [same] at bytes
    exact absurd bytes (List.lt_irrefl _)
  · exact absurd bytes
      (List.lt_asymm (flatMap_utf8EncodeChar_lt greater))

/-- The names of a table are listed in strictly ascending order of their
bytes. -/
theorem Table.pairwise_keys {α : Type} (table : Table α) :
    table.keys.Pairwise fun earlier later =>
      utf8Bytes earlier < utf8Bytes later :=
  table.names.ascending.imp lt_iff_utf8Bytes_lt.mp

end DocCheck
