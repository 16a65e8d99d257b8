import FuzzyGrid.Json.Value

/-!
# Reading JSON

A reader takes the characters that are left and gives a value together with
the characters after it.  The whole text has to be one value with blanks
around it.  Which float a number denotes is for whoever reads the text to say.
-/

namespace FuzzyGrid.Json

/-- Drop leading blanks. -/
def skipBlanks : List Char → List Char :=
  List.dropWhile fun next => next == ' ' || next == '\t' || next == '\n' || next == '\r'

/-- The values of the leading decimal digits, and the rest. -/
def digitsAndRest (chars : List Char) : List Nat × List Char :=
  ((chars.takeWhile Char.isDigit).map fun digit => digit.toNat - '0'.toNat,
    chars.dropWhile Char.isDigit)

/-- The digits after a decimal point, if there is a point.  A point needs a
digit after it. -/
def readFraction? : List Char → Option (Option (List Nat) × List Char)
  | '.' :: rest =>
    match digitsAndRest rest with
    | ([], _) => none
    | (digits, after) => some (some digits, after)
  | chars => some (none, chars)

/-- The digits of an exponent, which there must be. -/
def readExponentDigits? (negative : Bool) (chars : List Char) :
    Option (Option Int × List Char) :=
  match digitsAndRest chars with
  | ([], _) => none
  | (digits, after) =>
    let value : Int := WrittenNumber.spelled digits
    some (some (if negative then -value else value), after)

/-- An exponent, if there is one. -/
def readExponent? : List Char → Option (Option Int × List Char)
  | first :: rest =>
    if first == 'e' || first == 'E' then
      match rest with
      | '+' :: after => readExponentDigits? false after
      | '-' :: after => readExponentDigits? true after
      | after => readExponentDigits? false after
    else some (none, first :: rest)
  | [] => some (none, [])

/-- The digits before the point: a zero alone, or digits that do not start
with one. -/
def readWhole? (chars : List Char) : Option (List Nat × List Char) :=
  match digitsAndRest chars with
  | ([], _) => none
  | ([0], after) => some ([0], after)
  | (0 :: _, _) => none
  | (digits, after) => some (digits, after)

/-- A number without its sign. -/
def readUnsigned? (negative : Bool) (chars : List Char) :
    Option (WrittenNumber × List Char) := do
  let (whole, afterWhole) ← readWhole? chars
  let (fraction, afterFraction) ← readFraction? afterWhole
  let (exponent, after) ← readExponent? afterFraction
  return (⟨negative, whole, fraction, exponent⟩, after)

def readNumber? : List Char → Option (WrittenNumber × List Char)
  | '-' :: rest => readUnsigned? true rest
  | chars => readUnsigned? false chars

/-- A piece of a string: a character, or a code unit written by its number. -/
inductive Piece where
  | char (value : Char)
  | unit (value : Nat)

/-- The value of a hexadecimal digit. -/
def hexDigit? (digit : Char) : Option Nat :=
  if digit.isDigit then some (digit.toNat - '0'.toNat)
  else if 'a' ≤ digit && digit ≤ 'f' then some (digit.toNat - 'a'.toNat + 10)
  else if 'A' ≤ digit && digit ≤ 'F' then some (digit.toNat - 'A'.toNat + 10)
  else none

/-- The code unit of four hexadecimal digits. -/
def codeUnit? (first second third fourth : Char) : Option Nat := do
  return ((← hexDigit? first) * 16 + (← hexDigit? second)) * 256
    + ((← hexDigit? third) * 16 + (← hexDigit? fourth))

/-- The character that a letter after a backslash stands for. -/
def escaped? : Char → Option Char
  | '"' => some '"'
  | '\\' => some '\\'
  | '/' => some '/'
  | 'b' => some '\x08'
  | 'f' => some '\x0c'
  | 'n' => some '\n'
  | 'r' => some '\r'
  | 't' => some '\t'
  | _ => none

/-- The pieces of a string up to its closing quote. -/
def readPieces? : List Char → Option (List Piece × List Char)
  | '"' :: rest => some ([], rest)
  | '\\' :: 'u' :: first :: second :: third :: fourth :: rest =>
    match codeUnit? first second third fourth, readPieces? rest with
    | some unit, some (pieces, after) => some (.unit unit :: pieces, after)
    | _, _ => none
  | '\\' :: letter :: rest =>
    match escaped? letter, readPieces? rest with
    | some value, some (pieces, after) => some (.char value :: pieces, after)
    | _, _ => none
  | next :: rest =>
    if next.toNat < 32 then none
    else
      match readPieces? rest with
      | some (pieces, after) => some (.char next :: pieces, after)
      | none => none
  | [] => none

/-- Whether a code unit is the first half of a pair. -/
def isHighHalf (unit : Nat) : Bool :=
  decide (0xD800 ≤ unit) && decide (unit < 0xDC00)

/-- Whether a code unit is the second half of a pair. -/
def isLowHalf (unit : Nat) : Bool :=
  decide (0xDC00 ≤ unit) && decide (unit < 0xE000)

/-- The characters of pieces, pairs of halves being joined.  A half without its
partner has no character. -/
def joinPieces? : List Piece → Option (List Char)
  | [] => some []
  | .char value :: rest => (joinPieces? rest).map (value :: ·)
  | .unit first :: .unit second :: rest =>
    if isHighHalf first then
      if isLowHalf second then
        (joinPieces? rest).map
          (Char.ofNat (0x10000 + (first - 0xD800) * 0x400 + (second - 0xDC00)) :: ·)
      else none
    else if isLowHalf first then none
    else (joinPieces? (.unit second :: rest)).map (Char.ofNat first :: ·)
  | .unit unit :: rest =>
    if isHighHalf unit || isLowHalf unit then none
    else (joinPieces? rest).map (Char.ofNat unit :: ·)

/-- A string after its opening quote. -/
def readString? (chars : List Char) : Option (Option String × List Char) := do
  let (pieces, after) ← readPieces? chars
  return ((joinPieces? pieces).map String.ofList, after)

/-- An object of given members, if every name denotes a text. -/
def ofMembers (members : List (Option String × Json)) : Json :=
  match members.mapM fun member => member.1.map fun name => (name, member.2) with
  | some named => .object named
  | none => .unpaired

mutual

/-- A value, with at most so many steps of nesting and listing. -/
def readValue? (reading : WrittenNumber → Option Float) :
    Nat → List Char → Option (Json × List Char)
  | 0, _ => none
  | steps + 1, chars =>
    match skipBlanks chars with
    | 'n' :: 'u' :: 'l' :: 'l' :: rest => some (.null, rest)
    | 't' :: 'r' :: 'u' :: 'e' :: rest => some (.bool true, rest)
    | 'f' :: 'a' :: 'l' :: 's' :: 'e' :: rest => some (.bool false, rest)
    | '"' :: rest =>
      match readString? rest with
      | some (some text, after) => some (.string text, after)
      | some (none, after) => some (.unpaired, after)
      | none => none
    | '[' :: rest =>
      match skipBlanks rest with
      | ']' :: after => some (.array [], after)
      | inner =>
        match readItems? reading steps inner with
        | some (items, after) => some (.array items, after)
        | none => none
    | '\x7b' :: rest =>
      match skipBlanks rest with
      | '\x7d' :: after => some (.object [], after)
      | inner =>
        match readMembers? reading steps inner with
        | some (members, after) => some (ofMembers members, after)
        | none => none
    | other =>
      match readNumber? other with
      | some (written, after) => some (.number ⟨written, reading written⟩, after)
      | none => none

/-- The items of an array up to its closing bracket. -/
def readItems? (reading : WrittenNumber → Option Float) :
    Nat → List Char → Option (List Json × List Char)
  | 0, _ => none
  | steps + 1, chars =>
    match readValue? reading steps chars with
    | none => none
    | some (item, rest) =>
      match skipBlanks rest with
      | ']' :: after => some ([item], after)
      | ',' :: more =>
        match readItems? reading steps more with
        | some (items, after) => some (item :: items, after)
        | none => none
      | _ => none

/-- The members of an object up to its closing brace. -/
def readMembers? (reading : WrittenNumber → Option Float) :
    Nat → List Char → Option (List (Option String × Json) × List Char)
  | 0, _ => none
  | steps + 1, chars =>
    match skipBlanks chars with
    | '"' :: quoted =>
      match readString? quoted with
      | some (name, afterName) =>
        match skipBlanks afterName with
        | ':' :: valued =>
          match readValue? reading steps valued with
          | none => none
          | some (value, rest) =>
            match skipBlanks rest with
            | '\x7d' :: after => some ([(name, value)], after)
            | ',' :: more =>
              match readMembers? reading steps more with
              | some (members, after) => some ((name, value) :: members, after)
              | none => none
            | _ => none
        | _ => none
      | none => none
    | _ => none

end

/-- The value that a text spells, under a reading of its numbers.  Every step
takes at least one character in two, which bounds their number. -/
def ofText? (reading : WrittenNumber → Option Float) (text : String) : Option Json :=
  let chars := text.toList
  match readValue? reading (2 * chars.length + 2) chars with
  | some (value, rest) => if (skipBlanks rest).isEmpty then some value else none
  | none => none

end FuzzyGrid.Json
