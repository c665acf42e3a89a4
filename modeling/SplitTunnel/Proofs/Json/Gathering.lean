import Mathlib
import SplitTunnel.Json.Value

namespace SplitTunnel.Json

/-!
# Gathering tokens

The tokens of a value, with commas between the parts of its containers, are
gathered into the value again, whatever containers are open around it and
whatever follows.  No other tokens are gathered into it.
-/

mutual

/-- The tokens that write a value. -/
def valueTokens : ReadValue → List Token
  | .null => [.null]
  | .boolean value => [.boolean value]
  | .number spelling => [.number spelling]
  | .string text? => [.string text?]
  | .array elements => .beginArray :: (elementTokens elements ++ [.endArray])
  | .object members => .beginObject :: (memberTokens members ++ [.endObject])

/-- The tokens that write the elements of an array. -/
def elementTokens : List ReadValue → List Token
  | [] => []
  | [element] => valueTokens element
  | element :: rest => valueTokens element ++ .comma :: elementTokens rest

/-- The tokens that write the members of an object. -/
def memberTokens : ReadMembers → List Token
  | [] => []
  | [member] => oneMemberTokens member
  | member :: rest => oneMemberTokens member ++ .comma :: memberTokens rest

/-- The tokens that write a key and its value. -/
def oneMemberTokens : Option String × ReadValue → List Token
  | (key, value) => .string key :: .colon :: valueTokens value

end

/-- The tokens of a value do not begin with the end of an array. -/
theorem exists_valueTokens
    (value : ReadValue) :
    ∃ first rest, valueTokens value = first :: rest ∧ first ≠ .endArray := by
  cases value <;> exact ⟨_, _, rfl, by simp⟩

theorem exists_elementTokens
    (element : ReadValue)
    (more : List ReadValue) :
    ∃ first rest, elementTokens (element :: more) = first :: rest ∧ first ≠ .endArray := by
  obtain ⟨first, rest, shape, notEnd⟩ := exists_valueTokens element
  cases more with
  | nil => exact ⟨first, rest, shape, notEnd⟩
  | cons next others =>
      refine ⟨first, rest ++ .comma :: elementTokens (next :: others), ?_, notEnd⟩
      rw [elementTokens, shape, List.cons_append]
      exact List.cons_ne_nil _ _

namespace Reading

/-- Reading the first element of an array is reading a value in an empty array. -/
theorem resume_firstElement
    (frames : List Frame)
    {first : Token}
    (notEnd : first ≠ .endArray)
    (rest : List Token) :
    resume { frames := frames, expectation := .firstElement } (first :: rest) =
      resume { frames := .array [] :: frames, expectation := .value } (first :: rest) := by
  have sameStep :
      ReadState.step { frames := frames, expectation := .firstElement } first =
        ReadState.step { frames := .array [] :: frames, expectation := .value } first := by
    change (if first = .endArray then _ else _) = _
    rw [if_neg notEnd]
    rfl
  rw [resume, resume, sameStep]
  rfl

/-- Reading the first key of an object is reading a key after no members. -/
theorem resume_firstKey
    (frames : List Frame)
    (member : Option String × ReadValue)
    (more : ReadMembers)
    (rest : List Token) :
    resume { frames := frames, expectation := .firstKey } (memberTokens (member :: more) ++ rest) =
      resume { frames := frames, expectation := .key [] }
        (memberTokens (member :: more) ++ rest) := by
  obtain ⟨key, value⟩ := member
  cases more <;> rfl

mutual

theorem resume_valueTokens
    (value : ReadValue)
    (frames : List Frame)
    (rest : List Token) :
    resume { frames := frames, expectation := .value } (valueTokens value ++ rest) =
      resume { frames := frames, expectation := .afterValue value } rest := by
  match value with
  | .null => rfl
  | .boolean choice => rfl
  | .number spelling => rfl
  | .string text? => rfl
  | .array [] => rfl
  | .array (element :: more) =>
      obtain ⟨first, others, shape, notEnd⟩ := exists_elementTokens element more
      have gathered := resume_elementTokens element more [] frames rest
      rw [shape] at gathered
      rw [valueTokens, shape, List.cons_append, List.append_assoc]
      change resume { frames := frames, expectation := .firstElement } (first :: _) = _
      rw [resume_firstElement frames notEnd]
      exact gathered
  | .object [] => rfl
  | .object (member :: more) =>
      have gathered := resume_memberTokens member more [] frames rest
      rw [valueTokens, List.cons_append, List.append_assoc]
      rw [← resume_firstKey frames member more] at gathered
      exact gathered
termination_by sizeOf value

theorem resume_elementTokens
    (element : ReadValue)
    (more : List ReadValue)
    (reversed : List ReadValue)
    (frames : List Frame)
    (rest : List Token) :
    resume { frames := .array reversed :: frames, expectation := .value }
        (elementTokens (element :: more) ++ .endArray :: rest) =
      resume
        { frames := frames
          expectation := .afterValue (.array (reversed.reverse ++ element :: more)) }
        rest := by
  match more with
  | [] =>
      rw [elementTokens, resume_valueTokens element]
      change resume { frames := frames, expectation := .afterValue (.array _) } rest = _
      rw [List.reverse_cons]
  | next :: others =>
      have gathered := resume_elementTokens next others (element :: reversed) frames rest
      rw [elementTokens, List.append_assoc, resume_valueTokens element, List.cons_append]
      · rw [List.reverse_cons, List.append_assoc] at gathered
        exact gathered
      · exact List.cons_ne_nil _ _
termination_by sizeOf element + sizeOf more + 1

theorem resume_memberTokens
    (member : Option String × ReadValue)
    (more : ReadMembers)
    (reversed : ReadMembers)
    (frames : List Frame)
    (rest : List Token) :
    resume { frames := frames, expectation := .key reversed }
        (memberTokens (member :: more) ++ .endObject :: rest) =
      resume
        { frames := frames
          expectation := .afterValue (.object (reversed.reverse ++ member :: more)) }
        rest := by
  obtain ⟨key, value⟩ := member
  match more with
  | [] =>
      have gathered :=
        resume_valueTokens value (.object reversed key :: frames) (.endObject :: rest)
      rw [memberTokens, oneMemberTokens, List.cons_append, List.cons_append]
      refine gathered.trans ?_
      change resume { frames := frames, expectation := .afterValue (.object _) } rest = _
      rw [List.reverse_cons]
  | next :: others =>
      have gathered := resume_memberTokens next others ((key, value) :: reversed) frames rest
      have gatheredValue := resume_valueTokens value (.object reversed key :: frames)
        (.comma :: (memberTokens (next :: others) ++ .endObject :: rest))
      rw [memberTokens, oneMemberTokens, List.append_assoc, List.cons_append, List.cons_append,
        List.cons_append]
      · refine gatheredValue.trans ?_
        rw [List.reverse_cons, List.append_assoc] at gathered
        exact gathered
      · exact List.cons_ne_nil _ _
termination_by sizeOf member + sizeOf more + 1

end

section Runs

variable {state next : ReadState} {token : Token} {rest : List Token} {value : ReadValue}

/-- A reading ends as a value only after the value and outside of all containers. -/
theorem of_atEnd
    (completes : atEnd state = .complete value) :
    state = { frames := [], expectation := .afterValue value } := by
  obtain ⟨frames, expectation⟩ := state
  rw [atEnd] at completes
  split at completes
  · cases completes
    rename_i noFrames isAfter
    cases noFrames
    cases isAfter
    rfl
  · contradiction

/-- No state goes on where no token stands. -/
theorem step_fault
    (state : ReadState) :
    state.step .fault = none := by
  obtain ⟨frames, expectation⟩ := state
  cases expectation with
  | value | firstElement | firstKey | key | colon => rfl
  | afterValue read =>
      cases frames with
      | nil => rfl
      | cons frame outer => cases frame <;> rfl

theorem step_of_complete
    (completes : resume state (token :: rest) = .complete value) :
    ∃ next, state.step token = some next ∧ resume next rest = .complete value := by
  rw [resume] at completes
  cases stepped : state.step token with
  | none =>
      rw [stepped] at completes
      contradiction
  | some next =>
      rw [stepped] at completes
      exact ⟨next, rfl, completes⟩

/-- A number that may stand where it does is the value that was read last. -/
theorem afterValue_of_number
    {spelling : NumberText}
    (stepped : state.step (.number spelling) = some next) :
    next.expectation = .afterValue (.number spelling) := by
  obtain ⟨frames, expectation⟩ := state
  cases expectation with
  | value | firstElement =>
      cases stepped
      rfl
  | firstKey | key | colon => contradiction
  | afterValue read =>
      cases frames with
      | nil => contradiction
      | cons frame outer => cases frame <;> contradiction

/-- No value has a number after a number. -/
theorem no_number_after_number
    {first : NumberText}
    (completes : resume state (.number first :: rest) = .complete value)
    (second : NumberText) :
    rest.head? ≠ some (.number second) := by
  intro isHead
  obtain ⟨others, rfl⟩ := List.head?_eq_some_iff.mp isHead
  obtain ⟨next, stepped, further⟩ := step_of_complete completes
  have isAfter := afterValue_of_number stepped
  obtain ⟨last, steppedAgain, _⟩ := step_of_complete further
  obtain ⟨frames, expectation⟩ := next
  cases isAfter
  cases frames with
  | nil => contradiction
  | cons frame outer => cases frame <;> contradiction

end Runs

end Reading

section Taken

/-- The tokens of elements that another follows. -/
def elementsBefore (elements : List ReadValue) : List Token :=
  elements.flatMap fun element => valueTokens element ++ [.comma]

/-- The tokens of members that another follows. -/
def membersBefore (members : ReadMembers) : List Token :=
  members.flatMap fun member => oneMemberTokens member ++ [.comma]

/-- The tokens of an open container up to the value that it waits for. -/
def Frame.begun : Frame → List Token
  | .array reversed => .beginArray :: elementsBefore reversed.reverse
  | .object reversed key =>
      .beginObject :: (membersBefore reversed.reverse ++ [.string key, .colon])

/-- The tokens that were read inside the open containers. -/
def Expectation.begun : Expectation → List Token
  | .value => []
  | .firstElement => [.beginArray]
  | .firstKey => [.beginObject]
  | .key reversed => .beginObject :: membersBefore reversed.reverse
  | .colon reversed name => .beginObject :: (membersBefore reversed.reverse ++ [.string name])
  | .afterValue read => valueTokens read

/-- The tokens that were read to come to a state. -/
def ReadState.taken (state : ReadState) : List Token :=
  state.frames.reverse.flatMap Frame.begun ++ state.expectation.begun

theorem elementTokens_concat
    (elements : List ReadValue)
    (last : ReadValue) :
    elementTokens (elements ++ [last]) = elementsBefore elements ++ valueTokens last := by
  induction elements with
  | nil => rfl
  | cons element elements inductionHypothesis =>
      rw [List.cons_append, elementTokens, inductionHypothesis]
      · simp [elementsBefore]
      · simp

theorem memberTokens_concat
    (members : ReadMembers)
    (last : Option String × ReadValue) :
    memberTokens (members ++ [last]) = membersBefore members ++ oneMemberTokens last := by
  induction members with
  | nil => rfl
  | cons member members inductionHypothesis =>
      rw [List.cons_append, memberTokens, inductionHypothesis]
      · simp [membersBefore]
      · simp

theorem taken_stepValue
    {frames : List Frame}
    {token : Token}
    {next : ReadState}
    (stepped : ReadState.stepValue frames token = some next) :
    next.taken = frames.reverse.flatMap Frame.begun ++ [token] := by
  cases token <;> cases stepped <;> rfl

theorem taken_stepAfterValue
    {frames : List Frame}
    {value : ReadValue}
    {token : Token}
    {next : ReadState}
    (stepped : ReadState.stepAfterValue frames value token = some next) :
    next.taken = frames.reverse.flatMap Frame.begun ++ valueTokens value ++ [token] := by
  unfold ReadState.stepAfterValue at stepped
  split at stepped
  · cases stepped
    simp [ReadState.taken, Frame.begun, Expectation.begun, elementsBefore]
  · cases stepped
    simp [ReadState.taken, Frame.begun, Expectation.begun, Frame.fill, valueTokens,
      elementTokens_concat]
  · cases stepped
    simp [ReadState.taken, Frame.begun, Expectation.begun, membersBefore, oneMemberTokens]
  · cases stepped
    simp [ReadState.taken, Frame.begun, Expectation.begun, Frame.fill, valueTokens,
      memberTokens_concat, oneMemberTokens]
  · contradiction

/-- A step takes one token. -/
theorem ReadState.taken_step
    {state next : ReadState}
    {token : Token}
    (stepped : state.step token = some next) :
    next.taken = state.taken ++ [token] := by
  obtain ⟨frames, expectation⟩ := state
  cases expectation with
  | value =>
      rw [taken_stepValue stepped]
      simp [taken, Expectation.begun]
  | firstElement =>
      change (if token = .endArray then _ else _) = some next at stepped
      split at stepped
      · rename_i isEnd
        subst isEnd
        cases stepped
        simp [taken, Expectation.begun, valueTokens, elementTokens]
      · rw [taken_stepValue stepped]
        simp [taken, Expectation.begun, Frame.begun, elementsBefore]
  | firstKey =>
      cases token <;> cases stepped <;>
        simp [taken, Expectation.begun, valueTokens, memberTokens, membersBefore]
  | key reversed =>
      cases token <;> cases stepped
      simp [taken, Expectation.begun]
  | colon reversed key =>
      cases token <;> cases stepped
      simp [taken, Expectation.begun, Frame.begun]
  | afterValue value =>
      rw [taken_stepAfterValue stepped]
      rfl

/-- The tokens of a reading that ends as a value are the tokens of the value. -/
theorem Reading.taken_of_complete
    {state : ReadState}
    {rest : List Token}
    {value : ReadValue}
    (completes : resume state rest = .complete value) :
    state.taken ++ rest = valueTokens value := by
  induction rest generalizing state with
  | nil =>
      cases of_atEnd completes
      exact List.append_nil _
  | cons token rest inductionHypothesis =>
      obtain ⟨next, stepped, further⟩ := step_of_complete completes
      rw [← inductionHypothesis further, ReadState.taken_step stepped, List.append_assoc]
      rfl

end Taken

namespace Reading

/-- The tokens of a value are read as the value. -/
theorem resume_start
    (value : ReadValue) :
    resume .start (valueTokens value) = .complete value := by
  have gathered := resume_valueTokens value [] []
  rw [List.append_nil] at gathered
  exact gathered

/-- Tokens are read as a value if and only if they are the tokens of the value. -/
theorem resume_start_iff
    {toks : List Token}
    {value : ReadValue} :
    resume .start toks = .complete value ↔ toks = valueTokens value := by
  constructor
  · exact taken_of_complete
  · rintro rfl
    exact resume_start value

/-- No value has a place where no token stands. -/
theorem fault_not_mem
    {state : ReadState}
    {toks : List Token}
    {value : ReadValue}
    (completes : resume state toks = .complete value) :
    .fault ∉ toks := by
  induction toks generalizing state with
  | nil => simp
  | cons token toks inductionHypothesis =>
      obtain ⟨next, stepped, further⟩ := step_of_complete completes
      rintro (_ | ⟨_, inRest⟩)
      · rw [step_fault] at stepped
        contradiction
      · exact inductionHypothesis further inRest

end Reading

end SplitTunnel.Json
