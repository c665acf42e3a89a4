namespace SplitTunnel.Arguments

/-!
# Words of a command line

The words of a command line are options with or without a value, and other
words.  Which options there are depends on the level: the options before the
command, and the options of the command.  A line that does not fit is refused;
why it is refused is not kept.  Words are read from the left, so what follows an
option that asks for the version is not looked at.

Help is left out.  The options `--help` and `-h`, which the program knows at every
level, are known to no level here.
-/

/-- What a word looks like. -/
inductive Word where
  /-- Two dashes alone: all further words are plain. -/
  | escape
  /-- Two dashes and a name, and perhaps a value after an equals sign. -/
  | long (name : String) (value? : Option String)
  /-- One dash and more. -/
  | dashed (rest : List Char)
  | plain
  deriving Repr, DecidableEq

namespace Word

/-- The part after the first equals sign, if there is one. -/
def valueIn? : List Char → Option (List Char)
  | [] => none
  | c :: rest =>
      if c = '=' then
        some rest
      else
        valueIn? rest

/-- What a word looks like. -/
def ofText (text : String) : Word :=
  match text.toList with
  | ['-', '-'] => .escape
  | '-' :: '-' :: rest =>
      .long
        (String.ofList (rest.takeWhile fun c => c != '='))
        ((valueIn? rest).map String.ofList)
  | '-' :: c :: rest => .dashed (c :: rest)
  | _ => .plain

/-- Whether the characters after a mark are digits, of which the last is one if asked for. -/
def isExponentTail (rest : List Char) : Bool :=
  !rest.isEmpty && rest.all Char.isDigit

/-- Whether characters are digits with at most one point and at most one exponent. -/
def isNumberTail (pointSeen : Bool) : List Char → Bool
  | [] => true
  | c :: rest =>
      if c.isDigit then
        isNumberTail pointSeen rest
      else if c = '.' ∧ !pointSeen then
        isNumberTail true rest
      else
        c == 'e' && isExponentTail rest

/-- Whether what follows a dash makes it a negative number. -/
def isNumber : List Char → Bool
  | [] => true
  | c :: rest => c.isDigit && isNumberTail false rest

end Word

/-- How an option is used. -/
inductive OptionUse where
  /-- Alone and at most once. -/
  | flag
  /-- With a value and at most once. -/
  | single
  /-- With a value each time it is given. -/
  | repeated
  /-- Alone; it asks for the version of the program and ends the words. -/
  | version
  deriving Repr, DecidableEq

/-- An option that a level knows. -/
structure OptionRule where
  name : String
  use : OptionUse
  deriving Repr, DecidableEq

/-- What may stand in the words of a level. -/
structure Level where
  options : List OptionRule
  /-- Whether a negative number may stand as the plain word with this number. -/
  allowsNegative : Nat → Bool
  /-- Whether the first plain word names a command, to which all further words belong. -/
  commandFollows : Bool

/-- How the words of a level end. -/
inductive Ending where
  /-- With the last word. -/
  | words
  /-- With the name of a command, to which all further words belong. -/
  | command (name : String) (rest : List String)
  /-- With an option that asks for the version. -/
  | version
  deriving Repr, DecidableEq

/-- What the words of a level say. -/
structure Collected where
  /-- The options that were given, with the values of those that take one. -/
  given : List (String × Option String)
  plain : List String
  ending : Ending
  deriving Repr, DecidableEq

namespace Collected

/-- What no words say. -/
def empty : Collected where
  given := []
  plain := []
  ending := .words

/-- Add an option. -/
def addOption (found : Collected) (name : String) (value? : Option String) : Collected :=
  { found with given := found.given ++ [(name, value?)] }

/-- Add a plain word. -/
def addPlain (found : Collected) (text : String) : Collected :=
  { found with plain := found.plain ++ [text] }

/-- The values of an option, in their order. -/
def values (found : Collected) (name : String) : List String :=
  found.given.filterMap fun option =>
    if option.1 = name then
      option.2
    else
      none

/-- Whether an option was given. -/
def has (found : Collected) (name : String) : Bool :=
  found.given.any fun option => option.1 == name

end Collected

namespace Level

/-- The rule of an option. -/
def rule? (level : Level) (name : String) : Option OptionRule :=
  level.options.find? fun rule => rule.name == name

/-- Whether characters after a single dash ask for the version, as the letter `V` does. -/
def asksVersion (level : Level) (after : List Char) : Bool :=
  after.head? == some 'V' && level.options.any fun rule => rule.use == .version

/-- Take a plain word: the value that an option waits for, the command, or a word of its own. -/
def takePlain
    (level : Level)
    (found : Collected)
    (pending? : Option String)
    (text : String)
    (rest : List String)
    (resume : Collected → Option Collected) :
    Option Collected :=
  match pending? with
  | some name =>
      resume (found.addOption name (some text))
  | none =>
      if level.commandFollows then
        some { found with ending := .command text rest }
      else
        resume (found.addPlain text)

/-- Collect the words of a level; an option may wait for its value in the next word. -/
def collect
    (level : Level)
    (found : Collected)
    (pending? : Option String) :
    List String → Option Collected
  | [] =>
      if pending?.isSome then
        none
      else
        some found
  | text :: rest =>
      match Word.ofText text with
      | .escape =>
          if pending?.isSome then
            none
          else
            some { found with plain := found.plain ++ rest }
      | .long name value? =>
          match pending?, level.rule? name with
          | none, some rule =>
              match rule.use, value? with
              | .flag, none =>
                  collect level (found.addOption name none) none rest
              | .flag, some _ =>
                  none
              | .version, none =>
                  some { found with ending := .version }
              | .version, some _ =>
                  none
              | _, some value =>
                  collect level (found.addOption name (some value)) none rest
              | _, none =>
                  collect level found (some name) rest
          | _, _ => none
      | .dashed after =>
          if pending?.isNone && level.asksVersion after then
            some { found with ending := .version }
          else if level.allowsNegative found.plain.length && Word.isNumber after then
            level.takePlain found pending? text rest fun next => collect level next none rest
          else
            none
      | .plain =>
          level.takePlain found pending? text rest fun next => collect level next none rest

/-- Whether no option was given more often than it may be. -/
def isWithinLimits (level : Level) (found : Collected) : Bool :=
  level.options.all fun rule =>
    rule.use == .repeated || (found.given.filter fun option => option.1 == rule.name).length ≤ 1

/-- What the words of a level say, unless they do not fit the level. -/
def read? (level : Level) (words : List String) : Option Collected :=
  (level.collect .empty none words).filter level.isWithinLimits

end Level

end SplitTunnel.Arguments
