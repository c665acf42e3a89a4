import SplitTunnel.Proofs.Json.Grammar

namespace SplitTunnel.Json

/-!
# Values in lines

A value that is written in lines differs from its tokens only by the white space
between them, however deep its containers lie.  So it is read as the value, whatever
white space stands at its end.
-/

/-- White space may stand before a text that writes tokens. -/
theorem Spells.afterBlank
    {toks : List Token}
    {blank text : List Char}
    (isBlank : IsBlank blank)
    (spells : Spells toks text) :
    Spells toks (blank ++ text) := by
  have areBlank : ∀ {other : List Char}, IsBlank other → IsBlank (blank ++ other) :=
    fun otherBlank => List.forall_mem_append.mpr ⟨isBlank, otherBlank⟩
  cases spells with
  | nil otherBlank => exact .nil (areBlank otherBlank)
  | cons otherBlank spellsToken spellsRest =>
      rw [List.append_assoc, ← List.append_assoc, ← List.append_assoc]
      exact .cons (areBlank otherBlank) spellsToken spellsRest

theorem isBlank_indentation
    (depth : Nat) :
    IsBlank (indentation depth) := by
  intro c member
  rcases List.mem_cons.mp member with rfl | isSpace
  · simp
  · rw [List.eq_of_mem_replicate isSpace]
    simp

/-- A character is written as one of its spellings. -/
theorem spellsChar_escapeChar
    (c : Char) :
    SpellsChar c (escapeChar c) := by
  unfold escapeChar
  split
  iterate 7 exact .short (by decide)
  · rename_i notQuote notBackslash _ _ _ _ _
    split
    · rename_i isControl
      have isSmall : c.toNat < 32 := isControl
      have zero : IsHexDigit '0' 0 := ⟨by decide, Or.inl rfl⟩
      have high : IsHexDigit (Nat.digitChar (c.toNat / 16)) (c.toNat / 16) :=
        ⟨by omega, Or.inl rfl⟩
      have low : IsHexDigit (Nat.digitChar (c.toNat % 16)) (c.toNat % 16) :=
        ⟨by omega, Or.inl rfl⟩
      have isCode :
          0x1000 * 0 + 0x100 * 0 + 0x10 * (c.toNat / 16) + c.toNat % 16 = c.toNat := by
        omega
      have spells := SpellsUnit.digits zero zero high low
      rw [isCode] at spells
      exact .unit spells
    · rename_i notControl
      exact .plain notQuote notBackslash notControl

theorem spellsChars_escaped
    (chars : List Char) :
    SpellsChars chars (chars.flatMap escapeChar) := by
  induction chars with
  | nil => exact .nil
  | cons c chars inductionHypothesis =>
      exact .cons (spellsChar_escapeChar c) inductionHypothesis

/-- A text between quotes writes a string token. -/
theorem spellsToken_quote
    (text : String) :
    SpellsToken (.string (some text)) (quote text) :=
  .string (spellsChars_escaped text.toList)

mutual

/-- What is written for a value in lines writes the tokens of the value. -/
theorem spells_pretty
    (value : WrittenValue)
    (noNumber : hasNoNumber value = true)
    (depth : Nat)
    {toks : List Token}
    {more : List Char}
    (spellsRest : Spells toks more) :
    Spells (valueTokens (readBack value) ++ toks) (pretty depth value ++ more) := by
  match value with
  | .null => exact .tight .null spellsRest
  | .boolean true => exact .tight .trueWord spellsRest
  | .boolean false => exact .tight .falseWord spellsRest
  | .string text => exact .tight (spellsToken_quote text) spellsRest
  | .array [] =>
      change Spells (.beginArray :: .endArray :: toks) (['['] ++ ([']'] ++ more))
      exact .tight .beginArray (.tight .endArray spellsRest)
  | .array (element :: others) =>
      rw [hasNoNumber] at noNumber
      have spellsEnd := Spells.cons (isBlank_indentation depth) .endArray spellsRest
      have within := spells_prettyElements (element :: others) noNumber (depth + 1) spellsEnd
      simpa [pretty, readBack, valueTokens] using Spells.tight .beginArray within
  | .object [] =>
      change Spells (.beginObject :: .endObject :: toks) (['\x7b'] ++ (['\x7d'] ++ more))
      exact .tight .beginObject (.tight .endObject spellsRest)
  | .object (member :: others) =>
      rw [hasNoNumber] at noNumber
      have spellsEnd := Spells.cons (isBlank_indentation depth) .endObject spellsRest
      have within := spells_prettyMembers (member :: others) noNumber (depth + 1) spellsEnd
      simpa [pretty, readBack, valueTokens] using Spells.tight .beginObject within
termination_by sizeOf value

theorem spells_prettyElements
    (elements : List WrittenValue)
    (noNumber : haveNoNumber elements = true)
    (depth : Nat)
    {toks : List Token}
    {more : List Char}
    (spellsRest : Spells toks more) :
    Spells (elementTokens (readBackElements elements) ++ toks)
      (prettyElements depth elements ++ more) := by
  match elements with
  | [] => exact spellsRest
  | [element] =>
      simp only [haveNoNumber, Bool.and_true] at noNumber
      have spells := spells_pretty element noNumber depth spellsRest
      simpa [prettyElements, readBackElements, elementTokens] using
        spells.afterBlank (isBlank_indentation depth)
  | element :: next :: others =>
      rw [haveNoNumber, Bool.and_eq_true] at noNumber
      have further := spells_prettyElements (next :: others) noNumber.2 depth spellsRest
      have spells := spells_pretty element noNumber.1 depth (.tight .comma further)
      simpa [prettyElements, readBackElements, elementTokens] using
        spells.afterBlank (isBlank_indentation depth)
termination_by sizeOf elements

theorem spells_prettyMembers
    (members : List (String × WrittenValue))
    (noNumber : membersHaveNoNumber members = true)
    (depth : Nat)
    {toks : List Token}
    {more : List Char}
    (spellsRest : Spells toks more) :
    Spells (memberTokens (readBackMembers members) ++ toks)
      (prettyMembers depth members ++ more) := by
  match members with
  | [] => exact spellsRest
  | [member] =>
      simp only [membersHaveNoNumber, Bool.and_true] at noNumber
      have spells := spells_prettyMember member noNumber depth spellsRest
      simpa [prettyMembers, readBackMembers, memberTokens] using
        spells.afterBlank (isBlank_indentation depth)
  | member :: next :: others =>
      rw [membersHaveNoNumber, Bool.and_eq_true] at noNumber
      have further := spells_prettyMembers (next :: others) noNumber.2 depth spellsRest
      have spells := spells_prettyMember member noNumber.1 depth (.tight .comma further)
      simpa [prettyMembers, readBackMembers, memberTokens] using
        spells.afterBlank (isBlank_indentation depth)
termination_by sizeOf members

theorem spells_prettyMember
    (member : String × WrittenValue)
    (noNumber : memberHasNoNumber member = true)
    (depth : Nat)
    {toks : List Token}
    {more : List Char}
    (spellsRest : Spells toks more) :
    Spells (oneMemberTokens (readBackMember member) ++ toks)
      (prettyMember depth member ++ more) := by
  match member with
  | (key, value) =>
      rw [memberHasNoNumber] at noNumber
      have spells := spells_pretty value noNumber depth spellsRest
      have isBlank : IsBlank [' '] := by simp [IsBlank]
      have further := Spells.tight .colon (spells.afterBlank isBlank)
      simpa [prettyMember, readBackMember, oneMemberTokens] using
        Spells.tight (spellsToken_quote key) further
termination_by sizeOf member

end

/-- A value without numbers is read as it was written in lines, with white space at the end. -/
theorem read_pretty
    {value : WrittenValue}
    (noNumber : hasNoNumber value = true)
    {blank : List Char}
    (isBlank : IsBlank blank) :
    read (Text.encodeChars (pretty 0 value ++ blank)) = .complete (readBack value) := by
  have spells := spells_pretty value noNumber 0 (.nil isBlank)
  rw [List.append_nil] at spells
  exact Writes.read_eq spells

/-- What is read of the lines of a value is what the value is read back as. -/
theorem decode_prettyText
    {value : WrittenValue}
    (noNumber : hasNoNumber value = true)
    {blank : String}
    (isBlank : IsBlank blank.toList)
    (ofValue : ReadValue → Except Fault α) :
    decode ofValue (Text.encode (prettyText value ++ blank)) = ofValue (readBack value) := by
  rw [Text.encode, prettyText, String.toList_append, String.toList_ofList, decode,
    read_pretty noNumber isBlank]

end SplitTunnel.Json
