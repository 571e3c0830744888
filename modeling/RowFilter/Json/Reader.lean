import RowFilter.Json.Value
import RowFilter.Number.Scaled

/-!
# Reading JSON text

`Json.read` reads a whole text as one JSON value.  What is wrong with a text is a `JsonFault`:
it ends too early, or something in it has no place there.  The readers of the parts of a value
take the text from some point on and give back what follows the part.

A value that nobody asks for is passed over by `JsonReader.skipping`, which checks less: any
depth of nesting, any pair of escapes for surrogates and any size of number will do, but a
number that breaks off counts as misplaced text.
-/

namespace RowFilter

/-- What is wrong with a JSON text. -/
inductive JsonFault where
  /-- Something has no place where it stands. -/
  | malformed
  /-- The text ends where more is needed. -/
  | unfinished
  /-- The value is well formed and of the wrong shape. -/
  | misfit
deriving DecidableEq, Repr, Inhabited

/-- How strictly a value is read. -/
inductive JsonReader where
  | strict
  | skipping
deriving DecidableEq, Repr

namespace JsonReader

/-- The outcome of reading a part of a text: what was read and the text after it. -/
abbrev Reading (α : Type) := Except JsonFault (α × List Char)

/-- Whether a character may stand between the parts of a JSON text. -/
def isBlank (c : Char) : Bool :=
  c = ' ' || c = '\t' || c = '\n' || c = '\r'

/-- The text without the blanks in front. -/
def skipBlanks (text : List Char) : List Char :=
  text.dropWhile isBlank

/-- Reads a character that has to stand next, blanks before it passed over. -/
def expect (c : Char) (text : List Char) : Except JsonFault (List Char) :=
  match skipBlanks text with
  | [] => .error .unfinished
  | d :: rest => if d = c then .ok rest else .error .malformed

/-- Reads the rest of a word such as `true`. -/
def readWord : List Char → List Char → Except JsonFault (List Char)
  | [], text => .ok text
  | _ :: _, [] => .error .unfinished
  | c :: word, d :: rest => if c = d then readWord word rest else .error .malformed

/-- The value of a hexadecimal digit. -/
def hexValue? (c : Char) : Option Nat :=
  if c.isDigit then some (c.toNat - 48)
  else if 'a' ≤ c ∧ c ≤ 'f' then some (c.toNat - 87)
  else if 'A' ≤ c ∧ c ≤ 'F' then some (c.toNat - 55)
  else none

/-- Whether the text has at least so many bytes. -/
def hasBytes : Nat → List Char → Bool
  | 0, _ => true
  | _ + 1, [] => false
  | n + 1, c :: rest => hasBytes (n + 1 - c.utf8Size) rest

/-- Reads the four hexadecimal digits of an escape. -/
def readHex (text : List Char) : Reading Nat :=
  if hasBytes 4 text then
    match text with
    | a :: b :: c :: d :: rest =>
      match hexValue? a, hexValue? b, hexValue? c, hexValue? d with
      | some a, some b, some c, some d => .ok (((a * 16 + b) * 16 + c) * 16 + d, rest)
      | _, _, _, _ => .error .malformed
    | _ => .error .malformed
  else .error .unfinished

/-- Whether a unit is the first of a pair of surrogates. -/
def isHighSurrogate (unit : Nat) : Bool :=
  0xD800 ≤ unit && unit ≤ 0xDBFF

/-- Whether a unit is the second of a pair of surrogates. -/
def isLowSurrogate (unit : Nat) : Bool :=
  0xDC00 ≤ unit && unit ≤ 0xDFFF

/-- Reads the rest of a Unicode escape, after its `u`.  Surrogates have to come in pairs. -/
def readUnicodeEscape (text : List Char) : Reading Char :=
  match readHex text with
  | .error fault => .error fault
  | .ok (unit, rest) =>
    if isLowSurrogate unit then .error .malformed
    else if isHighSurrogate unit then
      match rest with
      | [] => .error .unfinished
      | '\\' :: [] => .error .unfinished
      | '\\' :: 'u' :: rest =>
        match readHex rest with
        | .error fault => .error fault
        | .ok (low, rest) =>
          if isLowSurrogate low then
            .ok (Char.ofNat (0x10000 + (unit - 0xD800) * 0x400 + (low - 0xDC00)), rest)
          else .error .malformed
      | _ => .error .malformed
    else .ok (Char.ofNat unit, rest)

/-- The character that a letter stands for after a backslash. -/
def escapedChar? (c : Char) : Option Char :=
  if c = '"' || c = '\\' || c = '/' then some c
  else if c = 'b' then some '\x08'
  else if c = 'f' then some '\x0c'
  else if c = 'n' then some '\n'
  else if c = 'r' then some '\r'
  else if c = 't' then some '\t'
  else none

/-- Reads the rest of a string, after its opening quote, on top of the characters before, which
are held in reverse. -/
def readString (reader : JsonReader) (fuel : Nat) (before : List Char) (text : List Char) :
    Reading String :=
  match fuel, text with
  | 0, _ => .error .unfinished
  | _, [] => .error .unfinished
  | fuel + 1, c :: rest =>
    if c = '"' then .ok (String.ofList before.reverse, rest)
    else if c = '\\' then
      match rest with
      | [] => .error .unfinished
      | d :: rest =>
        if d = 'u' then
          match reader with
          | .strict =>
            match readUnicodeEscape rest with
            | .error fault => .error fault
            | .ok (unit, rest) => readString reader fuel (unit :: before) rest
          | .skipping =>
            match readHex rest with
            | .error fault => .error fault
            | .ok (_, rest) => readString reader fuel before rest
        else
          match escapedChar? d with
          | some e => readString reader fuel (e :: before) rest
          | none => .error .malformed
    else if c.toNat < 32 then .error .malformed
    else readString reader fuel (c :: before) rest

/-- The fault of a number that breaks off at the end of the text. -/
def brokenNumber : JsonReader → JsonFault
  | .strict => .unfinished
  | .skipping => .malformed

/-- Reads a run of at least one digit. -/
def readDigitRun (reader : JsonReader) (text : List Char) : Reading (List Char) :=
  match text.takeWhile Char.isDigit, text.dropWhile Char.isDigit with
  | [], [] => .error reader.brokenNumber
  | [], _ :: _ => .error .malformed
  | digits, rest => .ok (digits, rest)

/-- Reads the digits before the point; a zero stands alone. -/
def readWhole (reader : JsonReader) (text : List Char) : Reading (List Char) :=
  match readDigitRun reader text with
  | .ok ('0' :: _ :: _, _) => .error .malformed
  | reading => reading

/-- Reads the digits after the point, none when there is no point. -/
def readFraction (reader : JsonReader) : List Char → Reading (List Char)
  | '.' :: rest => readDigitRun reader rest
  | text => .ok ([], text)

/-- Reads an exponent, nothing when there is none. -/
def readExponent (reader : JsonReader) (text : List Char) : Reading (Option Int) :=
  match text with
  | c :: rest =>
    if c = 'e' || c = 'E' then
      let (negative, rest) := splitSign rest
      match readDigitRun reader rest with
      | .error fault => .error fault
      | .ok (digits, rest) =>
        let n : Int := digitsValue 0 digits
        .ok (some (if negative then -n else n), rest)
    else .ok (none, text)
  | [] => .ok (none, text)

/-- The number with the given parts.  Without fraction and exponent it is an integer where it
fits a word of sixty-four bits; the negative zero and all else is a double, which has to be
finite. -/
def numberOf (reader : JsonReader) (negative : Bool) (whole fraction : List Char)
    (exponent : Option Int) : Except JsonFault JsonNumber :=
  let magnitude := digitsValue 0 whole
  let signed : Int := if negative then -(magnitude : Int) else magnitude
  let plain := fraction.isEmpty && exponent.isNone
  if plain && !negative && fitsUnsigned 64 signed then .ok (.integer signed)
  else if plain && negative && magnitude != 0 && fitsSigned 64 signed then .ok (.integer signed)
  else
    match (leadingDecimal whole fraction (exponent.getD 0)).toDouble? with
    | some value => .ok (.floating (value.signed negative))
    | none =>
      match reader with
      | .strict => .error .malformed
      | .skipping => .ok (.floating (.infinite negative))

/-- Reads a number, after its minus sign if it has one. -/
def readNumber (reader : JsonReader) (negative : Bool) (text : List Char) : Reading JsonNumber :=
  match readWhole reader text with
  | .error fault => .error fault
  | .ok (whole, rest) =>
    match readFraction reader rest with
    | .error fault => .error fault
    | .ok (fraction, rest) =>
      match readExponent reader rest with
      | .error fault => .error fault
      | .ok (exponent, rest) =>
        (numberOf reader negative whole fraction exponent).map fun number => (number, rest)

/-- Reads a value other than an array or an object, of which the first character is given. -/
def readScalar (reader : JsonReader) (fuel : Nat) (first : Char) (rest : List Char) :
    Reading Json :=
  if first = 'n' then (readWord "ull".toList rest).map fun rest => (.null, rest)
  else if first = 't' then (readWord "rue".toList rest).map fun rest => (.bool true, rest)
  else if first = 'f' then (readWord "alse".toList rest).map fun rest => (.bool false, rest)
  else if first = '"' then
    (readString reader fuel [] rest).map fun (s, rest) => (.string s, rest)
  else if first = '-' then (readNumber reader true rest).map fun (n, rest) => (.number n, rest)
  else if first.isDigit then
    (readNumber reader false (first :: rest)).map fun (n, rest) => (.number n, rest)
  else .error .malformed

mutual

/-- Reads a value, with at most `depth` arrays and objects open at a time. -/
def readValue (reader : JsonReader) (fuel depth : Nat) (text : List Char) : Reading Json :=
  match fuel, skipBlanks text with
  | 0, _ => .error .unfinished
  | _, [] => .error .unfinished
  | fuel + 1, c :: rest =>
    if c = '[' then
      match depth with
      | 0 => .error .malformed
      | depth + 1 =>
        match skipBlanks rest with
        | ']' :: rest => .ok (.array [], rest)
        | rest => (readItems reader fuel depth rest).map fun (items, rest) => (.array items, rest)
    else if c = '\x7b' then
      match depth with
      | 0 => .error .malformed
      | depth + 1 =>
        match skipBlanks rest with
        | '\x7d' :: rest => .ok (.object [], rest)
        | rest =>
          (readMembers reader fuel depth rest).map fun (members, rest) => (.ofMembers members, rest)
    else readScalar reader fuel c rest

/-- Reads the items of an array that has one, up to the closing bracket. -/
def readItems (reader : JsonReader) (fuel depth : Nat) (text : List Char) : Reading (List Json) :=
  match fuel with
  | 0 => .error .unfinished
  | fuel + 1 =>
    match readValue reader fuel depth text with
    | .error fault => .error fault
    | .ok (item, rest) =>
      match skipBlanks rest with
      | [] => .error .unfinished
      | c :: rest =>
        if c = ']' then .ok ([item], rest)
        else if c = ',' then
          match readItems reader fuel depth rest with
          | .error fault => .error fault
          | .ok (items, rest) => .ok (item :: items, rest)
        else .error .malformed

/-- Reads the members of an object that has one, up to the closing brace. -/
def readMembers (reader : JsonReader) (fuel depth : Nat) (text : List Char) :
    Reading (List (String × Json)) :=
  match fuel with
  | 0 => .error .unfinished
  | fuel + 1 =>
    match expect '"' text with
    | .error fault => .error fault
    | .ok rest =>
      match readString reader fuel [] rest with
      | .error fault => .error fault
      | .ok (name, rest) =>
        match expect ':' rest with
        | .error fault => .error fault
        | .ok rest =>
          match readValue reader fuel depth rest with
          | .error fault => .error fault
          | .ok (value, rest) =>
            match skipBlanks rest with
            | [] => .error .unfinished
            | c :: rest =>
              if c = '\x7d' then .ok ([(name, value)], rest)
              else if c = ',' then
                match readMembers reader fuel depth rest with
                | .error fault => .error fault
                | .ok (members, rest) => .ok ((name, value) :: members, rest)
              else .error .malformed

end

/-- The steps that reading a value of a text can take: a bracket takes two, any other character
one at most. -/
def fuelFor (text : List Char) : Nat :=
  2 * text.length + 2

/-- Passes over a value and gives the text after it. -/
def skipValue (text : List Char) : Except JsonFault (List Char) :=
  (readValue .skipping (fuelFor text) text.length text).map fun reading => reading.2

/-- Refuses a text in which more than blanks is left. -/
def finish {α : Type} (reading : Reading α) : Except JsonFault α :=
  match reading with
  | .error fault => .error fault
  | .ok (value, rest) => if (skipBlanks rest).isEmpty then .ok value else .error .malformed

end JsonReader

namespace Json

/-- How many arrays and objects may be open at a time in a text that is read. -/
def depthLimit : Nat := 127

/-- Reads a whole text as one JSON value, with at most so many arrays and objects open at a
time. -/
def readWithin (depth : Nat) (text : String) : Except JsonFault Json :=
  let chars := text.toList
  JsonReader.finish (JsonReader.readValue .strict (JsonReader.fuelFor chars) depth chars)

/-- Reads a whole text as one JSON value. -/
def read (text : String) : Except JsonFault Json :=
  readWithin depthLimit text

end Json

end RowFilter
