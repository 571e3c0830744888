import RowFilter.Json.Reader

/-!
# Settings in JSON

A settings document gives values to named settings, each of a fixed shape.  It is an object of
some of the settings by name, or an array of the first of them in their order.  Members of other
names are passed over.  `Settings.read` reads a document from the front to the back and reports
what it comes upon first: a value of the wrong shape as soon as the kind of the value is known,
and a setting given twice before its second value.
-/

namespace RowFilter

/-- The shape of a setting. -/
inductive SettingShape where
  | flag
  | texts
deriving DecidableEq, Repr

/-- The value of a setting. -/
inductive Setting where
  | flag (value : Bool)
  | texts (values : List String)
deriving DecidableEq, Repr

namespace Settings

open JsonReader

/-- The fault of a value of the wrong shape at the front of a text: its own fault where it has
one. -/
def misfitAt (text : List Char) : JsonFault :=
  match skipBlanks text with
  | [] => .unfinished
  | c :: rest =>
    if c = '[' || c = '\x7b' then .misfit
    else
      match readScalar .strict (fuelFor rest) c rest with
      | .error fault => fault
      | .ok _ => .misfit

/-- Reads a truth value. -/
def readFlag (text : List Char) : Reading Bool :=
  match skipBlanks text with
  | 't' :: rest => (readWord "rue".toList rest).map fun rest => (true, rest)
  | 'f' :: rest => (readWord "alse".toList rest).map fun rest => (false, rest)
  | _ => .error (misfitAt text)

/-- Reads a text. -/
def readText (text : List Char) : Reading String :=
  match skipBlanks text with
  | '"' :: rest => readString .strict (fuelFor rest) [] rest
  | _ => .error (misfitAt text)

/-- Reads the texts of an array that has one, up to the closing bracket. -/
def readTextItems (fuel : Nat) (text : List Char) :
    Except JsonFault (List String × List Char) :=
  match fuel with
  | 0 => .error .unfinished
  | fuel + 1 => do
    let (first, rest) ← readText text
    match skipBlanks rest with
    | [] => .error .unfinished
    | c :: rest =>
      if c = ']' then return ([first], rest)
      else if c = ',' then
        match skipBlanks rest with
        | [] => .error .unfinished
        | d :: more =>
          if d = ']' then .error .malformed
          else
            let (others, rest) ← readTextItems fuel (d :: more)
            return (first :: others, rest)
      else .error .malformed

/-- Reads an array of texts. -/
def readTexts (text : List Char) : Reading (List String) :=
  match skipBlanks text with
  | '[' :: rest =>
    match skipBlanks rest with
    | ']' :: rest => .ok ([], rest)
    | rest => readTextItems (fuelFor rest) rest
  | _ => .error (misfitAt text)

/-- Reads a value of a shape. -/
def readSetting (shape : SettingShape) (text : List Char) : Reading Setting :=
  match shape with
  | .flag => (readFlag text).map fun (b, rest) => (.flag b, rest)
  | .texts => (readTexts text).map fun (values, rest) => (.texts values, rest)

/-- Settings with their values. -/
abbrev Found := List (String × Setting)

/-- Reads the members of an object that has one, up to the closing brace, on top of the settings
found before. -/
def readMembers (shapes : List (String × SettingShape)) (fuel : Nat) (found : Found)
    (text : List Char) : Except JsonFault (Found × List Char) :=
  match fuel with
  | 0 => .error .unfinished
  | fuel + 1 => do
    let rest ← expect '"' text
    let (name, rest) ← readString .strict (fuelFor rest) [] rest
    let (found, rest) ←
      match shapes.lookup name with
      | none => do
        let rest ← expect ':' rest
        let rest ← skipValue rest
        pure (found, rest)
      | some shape =>
        if (found.lookup name).isSome then .error .misfit
        else do
          let rest ← expect ':' rest
          let (value, rest) ← readSetting shape rest
          pure ((name, value) :: found, rest)
    match skipBlanks rest with
    | [] => .error .unfinished
    | c :: rest =>
      if c = '\x7d' then return (found, rest)
      else if c = ',' then readMembers shapes fuel found rest
      else .error .malformed

/-- Reads settings in their order, after the opening bracket or a value, up to the closing
bracket. -/
def readInOrder (first : Bool) (found : Found) :
    List (String × SettingShape) → List Char → Except JsonFault (Found × List Char)
  | [], text =>
    match skipBlanks text with
    | [] => .error .unfinished
    | c :: rest => if c = ']' then .ok (found, rest) else .error .malformed
  | (name, shape) :: shapes, text =>
    match skipBlanks text with
    | [] => .error .unfinished
    | c :: rest =>
      if c = ']' then .ok (found, rest)
      else if first then do
        let (value, rest) ← readSetting shape (c :: rest)
        readInOrder false ((name, value) :: found) shapes rest
      else if c = ',' then
        match skipBlanks rest with
        | [] => .error .unfinished
        | d :: more =>
          if d = ']' then .error .malformed
          else do
            let (value, rest) ← readSetting shape (d :: more)
            readInOrder false ((name, value) :: found) shapes rest
      else .error .malformed

/-- Reads the settings of a whole document. -/
def read (shapes : List (String × SettingShape)) (document : String) : Except JsonFault Found :=
  finish <|
    match skipBlanks document.toList with
    | '[' :: rest => readInOrder true [] shapes rest
    | '\x7b' :: rest =>
      match skipBlanks rest with
      | '\x7d' :: rest => .ok ([], rest)
      | rest => readMembers shapes (fuelFor rest) [] rest
    | text => .error (misfitAt text)

/-- The value of a flag, or what it is without one. -/
def flag (found : Found) (name : String) (otherwise : Bool) : Bool :=
  match found.lookup name with
  | some (.flag b) => b
  | _ => otherwise

/-- The value of a list of texts, or what it is without one. -/
def texts (found : Found) (name : String) (otherwise : List String) : List String :=
  match found.lookup name with
  | some (.texts values) => values
  | _ => otherwise

end Settings

end RowFilter
