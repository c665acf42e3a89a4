import Mathlib
import SplitTunnel.Text.Utf8

namespace SplitTunnel.Text

/-!
# The order of bytes

Texts are ordered by their characters, files hold bytes.  The two orders agree:
of two characters the later one has the greater byte where their bytes first
differ, so of two texts the later one has the later bytes.
-/

/-- The bytes of a later character come later, whatever follows either. -/
theorem utf8EncodeChar_append_lt
    {c d : Char}
    (isBefore : c < d)
    (first second : List UInt8) :
    String.utf8EncodeChar c ++ first < String.utf8EncodeChar d ++ second := by
  have isSmaller : c.val.toNat < d.val.toNat := isBefore
  have isBounded : d.val.toNat < 0x110000 := by
    rcases d.valid with isLow | ⟨_, isHigh⟩
    · exact Nat.lt_trans isLow (by decide)
    · exact isHigh
  rw [String.utf8EncodeChar, String.utf8EncodeChar]
  generalize c.val.toNat = low at isSmaller ⊢
  generalize d.val.toNat = high at isSmaller isBounded ⊢
  -- One case for each pair of lengths; more bytes begin with a greater byte.
  split_ifs <;>
    simp (disch := omega) only [List.cons_append, List.nil_append, List.cons_lt_cons_iff,
      UInt8.lt_iff_toNat_lt, ← UInt8.toNat_inj, UInt8.toNat_ofNat', Nat.reducePow,
      Nat.mod_eq_of_lt] <;>
    omega

/-- The bytes of later characters come later. -/
theorem encodeChars_lt
    {first second : List Char}
    (isBefore : first < second) :
    encodeChars first < encodeChars second := by
  induction first generalizing second with
  | nil =>
      cases second with
      | nil => exact absurd isBefore (List.lt_irrefl [])
      | cons d rest =>
          obtain ⟨byte, bytes, shape⟩ :=
            List.exists_cons_of_ne_nil (@String.utf8EncodeChar_ne_nil d)
          rw [encodeChars, encodeChars, List.flatMap_nil, List.flatMap_cons, shape]
          exact List.nil_lt_cons _ _
  | cons c others inductionHypothesis =>
      cases second with
      | nil => exact absurd isBefore (List.not_lt_nil _)
      | cons d rest =>
          rw [encodeChars, encodeChars, List.flatMap_cons, List.flatMap_cons]
          rcases List.cons_lt_cons_iff.mp isBefore with isLess | ⟨rfl, isLess⟩
          · exact utf8EncodeChar_append_lt isLess _ _
          · exact List.append_left_lt (inductionHypothesis isLess)

/-- The bytes of a later text come later. -/
theorem encode_lt_of_compare
    {first second : String}
    (isBefore : compare first second = .lt) :
    encode first < encode second :=
  encodeChars_lt (String.lt_iff_toList_lt.mp (compareOfLessAndEq_eq_lt.mp isBefore))

end SplitTunnel.Text
