import SplitTunnel.Proofs.Document.RoundTrip
import SplitTunnel.Proofs.Json.Ending

namespace SplitTunnel

/-!
# Rule documents that were damaged

The bytes of a document end where its object ends.  Nothing shorter is a document,
wherever it was cut, and nothing longer is one, unless only white space was added.
-/

namespace Document

open Json

variable {bytes : List UInt8} {document : Document}

/-- Bytes that are read as a document hold an object. -/
theorem exists_members
    (isRead : ofJson bytes = .ok document) :
    ∃ members,
      read bytes = .complete (.object members) ∧ ofValue (.object members) = .ok document := by
  rw [ofJson, decode] at isRead
  split at isRead
  · rename_i value completes
    cases value with
    | object members => exact ⟨members, completes, isRead⟩
    | _ => contradiction
  · contradiction
  · split at isRead
    · contradiction
    · contradiction

/-- What was read as a document is only read as one with white space after it. -/
theorem ofJson_append
    (isRead : ofJson bytes = .ok document)
    (more : List UInt8) :
    ((∀ byte ∈ more, isSpace byte = true) → ofJson (bytes ++ more) = .ok document) ∧
      (¬(∀ byte ∈ more, isSpace byte = true) → ofJson (bytes ++ more) = .error .malformed) := by
  obtain ⟨members, completes, isDocument⟩ := exists_members isRead
  obtain ⟨whenSpace, otherwise⟩ := read_append completes (fun _ => nofun) more
  constructor
  · intro areSpaces
    rw [ofJson, decode, whenSpace areSpaces]
    exact isDocument
  · intro notSpaces
    rw [ofJson, decode, otherwise notSpaces]
    dsimp only
    rw [isDocument]

/-- The bytes of a document end with the brace that closes its object. -/
theorem exists_toJson
    (document : Document) :
    ∃ front, document.toJson = front ++ ['\x7d'.toUInt8] := by
  rw [toJson, encode, toValue, compact, ← List.cons_append, encodeChars_append]
  exact ⟨_, rfl⟩

/-- What is missing at the end of the bytes of a document is not white space. -/
theorem not_spaces_of_missing
    {part missing : List UInt8}
    (isWhole : part ++ missing = document.toJson)
    (notEmpty : missing ≠ []) :
    ¬∀ byte ∈ missing, isSpace byte = true := by
  intro areSpaces
  obtain ⟨front, isClosed⟩ := exists_toJson document
  have last := congrArg List.getLast? (isWhole.trans isClosed)
  rw [List.getLast?_append_of_ne_nil part notEmpty, List.getLast?_concat] at last
  have isSpace := areSpaces _ (List.mem_of_getLast? last)
  revert isSpace
  decide

/--
Bytes of a document that were cut short, or written over their end, are no document.

Every proper part from the start, the empty one included, is refused by the decoder.
With bytes added at the end they are read if and only if only white space was added,
and then as the same document.
-/
theorem ofJson_damaged
    (document : Document) :
    (∀ part, part <+: document.toJson → part ≠ document.toJson →
      ∃ fault : Fault,
        ofJson part = .error fault ∧
          (Codec.json Document).decode part = .error (.decode fault.message)) ∧
      ∀ extra,
        ((∃ found, ofJson (document.toJson ++ extra) = .ok found) ↔
          ∀ byte ∈ extra, byte ∈ [' ', '\t', '\n', '\r'].map Char.toUInt8) ∧
          ∀ found, ofJson (document.toJson ++ extra) = .ok found → found = document := by
  constructor
  · rintro part ⟨missing, isWhole⟩ isCut
    have notEmpty : missing ≠ [] := by
      rintro rfl
      exact isCut (by rw [← isWhole, List.append_nil])
    cases isRead : ofJson part with
    | ok found =>
        -- The rest of the bytes would follow a document, but their last byte is no white space.
        have refused := (ofJson_append isRead missing).2 (not_spaces_of_missing isWhole notEmpty)
        rw [isWhole, isRead_toJson] at refused
        contradiction
    | error fault =>
        refine ⟨fault, rfl, ?_⟩
        change (ofJson part).mapError _ = _
        rw [isRead]
        rfl
  · intro extra
    obtain ⟨whenSpace, otherwise⟩ := ofJson_append (isRead_toJson document) extra
    simp only [← isSpace_iff]
    constructor
    · constructor
      · rintro ⟨found, isRead⟩
        by_contra notSpaces
        rw [otherwise notSpaces] at isRead
        contradiction
      · intro areSpaces
        exact ⟨document, whenSpace areSpaces⟩
    · intro found isRead
      by_cases areSpaces : ∀ byte ∈ extra, isSpace byte = true
      · rw [whenSpace areSpaces] at isRead
        exact (Except.ok.inj isRead).symm
      · rw [otherwise areSpaces] at isRead
        contradiction

end Document

end SplitTunnel
