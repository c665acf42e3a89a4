import SplitTunnel.Inventory
import SplitTunnel.Proofs.Text.Numerals
import SplitTunnel.Proofs.Text.Trimming

namespace SplitTunnel

/-!
# Entries of an inventory

An entry is a package and a version code with an equals sign between them, and
blanks around either do not matter.  The code is a numeral with at most one sign,
of any length, whose value fits the width.  Every text is read so, and of several
things that are wrong with a text the first of these is reported: no equals sign,
no package, no version code.
-/

namespace VersionCode

/-- A text writes a number: at most one sign and a numeral. -/
inductive Writes : List Char → VersionCode → Prop where
  | unsigned
      {digits : List Char}
      (isNumeral : Text.isNumeral digits = true) :
      Writes digits (Text.numeralValue digits)
  | plus
      {digits : List Char}
      (isNumeral : Text.isNumeral digits = true) :
      Writes ('+' :: digits) (Text.numeralValue digits)
  | minus
      {digits : List Char}
      (isNumeral : Text.isNumeral digits = true) :
      Writes ('-' :: digits) (-(Text.numeralValue digits : Int))

variable {limit value : Nat} {beyond : Fault} {text : List Char}

theorem inRange_iff {code : Int} : InRange code ↔ -2 ^ 63 ≤ code ∧ code < 2 ^ 63 := by
  change -((9223372036854775808 : Nat) : Int) ≤ code ∧ code ≤ (9223372036854775807 : Nat) ↔ _
  omega

/-- A number without a sign fits if it is small enough. -/
theorem inRange_ofNat : InRange (value : Int) ↔ value ≤ largest := by
  rw [inRange_iff, largest]
  omega

/-- A number below zero may be one greater. -/
theorem inRange_neg : InRange (-(value : Int)) ↔ value ≤ depth := by
  rw [inRange_iff, depth]
  omega

/-- Digits are read up to the limit, and given a sign, if there is nothing else. -/
theorem map_readMagnitude_eq_ok_iff
    {signed : Nat → VersionCode}
    {code : VersionCode} :
    (readMagnitude limit beyond text).map signed = .ok code ↔
      Text.isNumeral text = true ∧
        Text.numeralValue text ≤ limit ∧
        signed (Text.numeralValue text) = code := by
  have allTaken (isNumeral : Text.isNumeral text = true) :
      text.takeWhile Char.isDigit = text :=
    List.takeWhile_eq_self_iff.mpr (Text.isNumeral_iff.mp isNumeral).2
  rw [readMagnitude]
  constructor
  · intro isRead
    split at isRead
    · cases isRead
    · rename_i fits
      split at isRead
      · rename_i isNumeral
        rw [allTaken isNumeral] at fits isRead
        cases isRead
        exact ⟨isNumeral, Nat.le_of_not_lt fits, rfl⟩
      · cases isRead
  · rintro ⟨isNumeral, fits, rfl⟩
    rw [allTaken isNumeral, if_neg (Nat.not_lt.mpr fits), if_pos isNumeral]
    rfl

/-- A version code is read in the texts that write it, if it fits. -/
theorem ofText_eq_ok_iff
    {code : VersionCode} :
    ofText text = .ok code ↔ Writes text code ∧ InRange code := by
  constructor
  · intro isRead
    unfold ofText at isRead
    split at isRead
    · contradiction
    · obtain ⟨isNumeral, fits, rfl⟩ := map_readMagnitude_eq_ok_iff.mp isRead
      exact ⟨.plus isNumeral, inRange_ofNat.mpr fits⟩
    · obtain ⟨isNumeral, fits, rfl⟩ := map_readMagnitude_eq_ok_iff.mp isRead
      exact ⟨.minus isNumeral, inRange_neg.mpr fits⟩
    · obtain ⟨isNumeral, fits, rfl⟩ := map_readMagnitude_eq_ok_iff.mp isRead
      exact ⟨.unsigned isNumeral, inRange_ofNat.mpr fits⟩
  · rintro ⟨writes, inRange⟩
    cases writes with
    | plus isNumeral =>
        rw [ofText]
        exact map_readMagnitude_eq_ok_iff.mpr ⟨isNumeral, inRange_ofNat.mp inRange, rfl⟩
    | minus isNumeral =>
        rw [ofText]
        exact map_readMagnitude_eq_ok_iff.mpr ⟨isNumeral, inRange_neg.mp inRange, rfl⟩
    | unsigned isNumeral =>
        obtain ⟨first, rest, rfl, isDigit⟩ := Text.exists_numeral isNumeral
        -- A digit is no sign, so the whole text is taken as the digits.
        rw [ofText]
        · exact map_readMagnitude_eq_ok_iff.mpr ⟨isNumeral, inRange_ofNat.mp inRange, rfl⟩
        · simp
        · rintro _ same
          cases same
          contradiction
        · rintro _ same
          cases same
          contradiction

/-- The text of a version code writes it. -/
theorem writes_toText (code : VersionCode) : Writes (toText code) code := by
  have isNumeral := Text.isNumeral_numeral (Int.natAbs code)
  have isValue := Text.numeralValue_numeral (Int.natAbs code)
  rw [toText]
  split
  · rename_i isNegative
    have writes := Writes.minus isNumeral
    rw [isValue, Int.ofNat_natAbs_of_nonpos (Int.le_of_lt isNegative), Int.neg_neg] at writes
    exact writes
  · rename_i notNegative
    have writes := Writes.unsigned isNumeral
    rw [isValue, Int.natAbs_of_nonneg (Int.not_lt.mp notNegative)] at writes
    exact writes

/-- No blank stands in the text of a version code. -/
theorem trim_toText (code : VersionCode) : Text.trim (toText code) = toText code := by
  have inNumeral : ∀ c ∈ Text.numeral (Int.natAbs code), Text.isBlank c = false := fun c isDigit =>
    Text.isBlank_of_isDigit ((Text.isNumeral_iff.mp (Text.isNumeral_numeral _)).2 c isDigit)
  apply Text.trim_of_noBlank
  intro c member
  rw [toText] at member
  split at member
  · rcases List.mem_cons.mp member with rfl | isDigit
    · decide
    · exact inNumeral c isDigit
  · exact inNumeral c member

end VersionCode

namespace Inventory

variable {text before after : List Char} {entry : String}

/-- A text is split at its first equals sign. -/
theorem splitAtEquals?_append
    (isFirst : '=' ∉ before) :
    splitAtEquals? (before ++ '=' :: after) = some (before, after) := by
  induction before with
  | nil => rw [List.nil_append, splitAtEquals?, if_pos rfl]
  | cons c rest inductionHypothesis =>
      obtain ⟨notEquals, restFirst⟩ := List.ne_and_not_mem_of_not_mem_cons isFirst
      rw [List.cons_append, splitAtEquals?, if_neg (Ne.symm notEquals),
        inductionHypothesis restFirst]
      rfl

/-- A text without an equals sign is not split. -/
theorem splitAtEquals?_of_noEquals
    (noEquals : '=' ∉ text) :
    splitAtEquals? text = none := by
  induction text with
  | nil => rfl
  | cons c rest inductionHypothesis =>
      obtain ⟨notEquals, restWithout⟩ := List.ne_and_not_mem_of_not_mem_cons noEquals
      rw [splitAtEquals?, if_neg (Ne.symm notEquals), inductionHypothesis restWithout]
      rfl

theorem parseEntry_of_noEquals
    (noEquals : '=' ∉ entry.toList) :
    parseEntry entry = .error (.noSeparator entry) := by
  rw [parseEntry, splitAtEquals?_of_noEquals noEquals]

/-- What a text with an equals sign says, or what is wrong with it, the package first. -/
theorem parseEntry_of_shape
    (shape : entry.toList = before ++ '=' :: after)
    (isFirst : '=' ∉ before) :
    parseEntry entry =
      if Text.isAllBlank before then
        .error (.noPackage entry)
      else
        match VersionCode.ofText (Text.trim after) with
        | .error fault => .error (.badVersion entry fault)
        | .ok code => .ok (String.ofList (Text.trim before), code) := by
  rw [parseEntry, shape, splitAtEquals?_append isFirst]
  dsimp only
  by_cases isBlank : Text.isAllBlank before = true
  · rw [if_pos isBlank, Text.trim_eq_nil_iff.mpr isBlank]
  · rw [if_neg isBlank]
    split
    · rename_i isEmpty
      exact absurd (Text.trim_eq_nil_iff.mp isEmpty) isBlank
    · rfl

/-- A text has no equals sign, or it has a first one. -/
theorem noEquals_or_shape
    (text : List Char) :
    '=' ∉ text ∨ ∃ before after, text = before ++ '=' :: after ∧ '=' ∉ before := by
  by_cases hasEquals : '=' ∈ text
  · exact Or.inr (List.eq_append_cons_of_mem hasEquals)
  · exact Or.inl hasEquals

/-- A text is an entry: a package and a version code around its first equals sign. -/
structure IsEntry (text : String) (package : String) (code : VersionCode) : Prop where
  parts :
    ∃ before after number,
      text.toList = before ++ '=' :: after ∧
        '=' ∉ before ∧
        Text.Trims before package.toList ∧
        Text.Trims after number ∧
        VersionCode.Writes number code
  hasPackage : package ≠ ""
  inRange : VersionCode.InRange code

theorem parseEntry_eq_ok_iff
    {package : String}
    {code : VersionCode} :
    parseEntry entry = .ok (package, code) ↔ IsEntry entry package code := by
  constructor
  · intro isRead
    rcases noEquals_or_shape entry.toList with noEquals | ⟨before, after, shape, isFirst⟩
    · rw [parseEntry_of_noEquals noEquals] at isRead
      contradiction
    · rw [parseEntry_of_shape shape isFirst] at isRead
      split at isRead
      · contradiction
      · rename_i notBlank
        split at isRead
        · contradiction
        · rename_i found isNumber
          cases isRead
          obtain ⟨writes, inRange⟩ := VersionCode.ofText_eq_ok_iff.mp isNumber
          refine ⟨⟨before, after, _, shape, isFirst, ?_, Text.trims_trim after, writes⟩, ?_,
            inRange⟩
          · rw [String.toList_ofList]
            exact Text.trims_trim before
          · intro isEmpty
            have nothing := congrArg String.toList isEmpty
            rw [String.toList_ofList] at nothing
            exact notBlank (Text.trim_eq_nil_iff.mp nothing)
  · rintro ⟨⟨before, after, number, shape, isFirst, trimsPackage, trimsNumber, writes⟩,
      hasPackage, inRange⟩
    have isNumber := VersionCode.ofText_eq_ok_iff.mpr ⟨writes, inRange⟩
    have notBlank : ¬Text.isAllBlank before = true := by
      intro isBlank
      have nothing := trimsPackage.eq_trim.trans (Text.trim_eq_nil_iff.mpr isBlank)
      exact hasPackage (String.toList_eq_nil_iff.mp nothing)
    rw [parseEntry_of_shape shape isFirst, if_neg notBlank, ← trimsNumber.eq_trim, isNumber,
      ← trimsPackage.eq_trim, String.ofList_toList]

theorem parseEntry_eq_noSeparator_iff :
    parseEntry entry = .error (.noSeparator entry) ↔ '=' ∉ entry.toList := by
  refine ⟨fun refused => ?_, parseEntry_of_noEquals⟩
  rcases noEquals_or_shape entry.toList with noEquals | ⟨before, after, shape, isFirst⟩
  · exact noEquals
  · rw [parseEntry_of_shape shape isFirst] at refused
    split at refused
    · cases refused
    · split at refused
      · cases refused
      · cases refused

theorem parseEntry_eq_noPackage_iff :
    parseEntry entry = .error (.noPackage entry) ↔
      ∃ before after,
        entry.toList = before ++ '=' :: after ∧
          '=' ∉ before ∧
          Text.isAllBlank before = true := by
  constructor
  · intro refused
    rcases noEquals_or_shape entry.toList with noEquals | ⟨before, after, shape, isFirst⟩
    · rw [parseEntry_of_noEquals noEquals] at refused
      cases refused
    · rw [parseEntry_of_shape shape isFirst] at refused
      split at refused
      · rename_i isBlank
        exact ⟨before, after, shape, isFirst, isBlank⟩
      · split at refused
        · cases refused
        · cases refused
  · rintro ⟨before, after, shape, isFirst, isBlank⟩
    rw [parseEntry_of_shape shape isFirst, if_pos isBlank]

/-- A version is refused if the text after the equals sign writes no number that fits. -/
theorem parseEntry_eq_badVersion_iff :
    (∃ fault, parseEntry entry = .error (.badVersion entry fault)) ↔
      ∃ before after,
        entry.toList = before ++ '=' :: after ∧
          '=' ∉ before ∧
          Text.isAllBlank before = false ∧
          ∀ number code, Text.Trims after number → VersionCode.Writes number code →
            ¬VersionCode.InRange code := by
  constructor
  · rintro ⟨fault, refused⟩
    rcases noEquals_or_shape entry.toList with noEquals | ⟨before, after, shape, isFirst⟩
    · rw [parseEntry_of_noEquals noEquals] at refused
      cases refused
    · rw [parseEntry_of_shape shape isFirst] at refused
      split at refused
      · cases refused
      · rename_i notBlank
        refine ⟨before, after, shape, isFirst, Bool.eq_false_iff.mpr notBlank, ?_⟩
        intro number code trims writes inRange
        have isNumber := VersionCode.ofText_eq_ok_iff.mpr ⟨writes, inRange⟩
        rw [← trims.eq_trim, isNumber] at refused
        cases refused
  · rintro ⟨before, after, shape, isFirst, notBlank, noNumber⟩
    rw [parseEntry_of_shape shape isFirst, notBlank]
    cases found : VersionCode.ofText (Text.trim after) with
    | error fault => exact ⟨fault, rfl⟩
    | ok code =>
        obtain ⟨writes, inRange⟩ := VersionCode.ofText_eq_ok_iff.mp found
        exact absurd inRange (noNumber _ code (Text.trims_trim after) writes)

/-- A package and a version code with an equals sign between them are an entry. -/
theorem isEntry_joined
    {package : String}
    {code : VersionCode}
    (hasPackage : package ≠ "")
    (noEquals : '=' ∉ package.toList)
    (isTrimmed : Text.trim package.toList = package.toList)
    (inRange : VersionCode.InRange code) :
    IsEntry (package ++ "=" ++ String.ofList code.toText) package code := by
  have trimsPackage := Text.trims_trim package.toList
  have trimsNumber := Text.trims_trim code.toText
  rw [isTrimmed] at trimsPackage
  rw [VersionCode.trim_toText] at trimsNumber
  refine ⟨⟨package.toList, code.toText, code.toText, ?_, noEquals, trimsPackage, trimsNumber,
    code.writes_toText⟩, hasPackage, inRange⟩
  simp

/--
Entries are read exactly as they are written.

A text is read as a package and a version code if and only if it is an entry for
them.  Otherwise a missing equals sign is reported first, then a missing package,
and a version only if both are there.  A package that is a trimmed text without
equals sign is read back with any version code from their joined text.
-/
theorem parseEntry_exact
    (text : String) :
    (∀ package code, parseEntry text = .ok (package, code) ↔ IsEntry text package code) ∧
      (parseEntry text = .error (.noSeparator text) ↔ '=' ∉ text.toList) ∧
      (parseEntry text = .error (.noPackage text) ↔
        ∃ before after,
          text.toList = before ++ '=' :: after ∧
            '=' ∉ before ∧
            Text.isAllBlank before = true) ∧
      ((∃ fault, parseEntry text = .error (.badVersion text fault)) ↔
        ∃ before after,
          text.toList = before ++ '=' :: after ∧
            '=' ∉ before ∧
            Text.isAllBlank before = false ∧
            ∀ number code, Text.Trims after number → VersionCode.Writes number code →
              ¬VersionCode.InRange code) ∧
      ∀ (package : String) (code : VersionCode),
        package ≠ "" →
          '=' ∉ package.toList →
            Text.trim package.toList = package.toList →
              VersionCode.InRange code →
                text = package ++ "=" ++ String.ofList code.toText →
                  parseEntry text = .ok (package, code) := by
  refine ⟨fun _ _ => parseEntry_eq_ok_iff, parseEntry_eq_noSeparator_iff,
    parseEntry_eq_noPackage_iff, parseEntry_eq_badVersion_iff, ?_⟩
  rintro package code hasPackage noEquals isTrimmed inRange rfl
  exact parseEntry_eq_ok_iff.mpr (isEntry_joined hasPackage noEquals isTrimmed inRange)

/-- The smallest version code has no positive counterpart. -/
theorem parseEntry_exact_smallest :
    '=' ∉ "a b".toList ∧
      Text.trim "a b".toList = "a b".toList ∧
      VersionCode.InRange (-9223372036854775808) ∧
      ¬VersionCode.InRange 9223372036854775808 ∧
      parseEntry "a b=-9223372036854775808" = .ok ("a b", -9223372036854775808) := by
  have noEquals : '=' ∉ "a b".toList := by decide
  have isTrimmed : Text.trim "a b".toList = "a b".toList := by decide
  have inRange : VersionCode.InRange (-9223372036854775808) := by decide
  obtain ⟨_, _, _, _, isReadBack⟩ := parseEntry_exact "a b=-9223372036854775808"
  refine ⟨noEquals, isTrimmed, inRange, by decide, ?_⟩
  exact isReadBack "a b" (-9223372036854775808) (by decide) noEquals isTrimmed inRange (by decide)

end Inventory

end SplitTunnel
