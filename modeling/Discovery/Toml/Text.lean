import Discovery.Decimal.Digits
/-!
# Characters, strings and keys in TOML

Blanks are spaces and tabs, a line ends with a line feed or with a carriage return and a line feed, and control
characters other than the tab stand nowhere. A string is quoted once, or three times and then may hold line ends.
Between double quotes a backslash escapes; between single quotes everything stands for itself.
-/
namespace Discovery.Toml

open Decimal (hexValue?)

def isBlank (char : Char) : Bool := char = ' ' || char = '\t'

/-- A character that may stand in a comment or a string. -/
def isPlain (char : Char) : Bool := char = '\t' || (32 ≤ char.toNat && char.toNat ≠ 127)

def skipBlank (text : List Char) : List Char := text.dropWhile isBlank

def readNewline : List Char → Option (List Char)
  | '\n' :: rest => some rest
  | '\r' :: '\n' :: rest => some rest
  | _ => none

def skipComment : List Char → List Char
  | '#' :: rest => rest.dropWhile isPlain
  | text => text

/-- The end of a line, or of the text. -/
def readLineEnd : List Char → Option (List Char)
  | [] => some []
  | text => readNewline text

/-- What may follow a statement on its line. -/
def readTrailing (text : List Char) : Option (List Char) := readLineEnd (skipComment (skipBlank text))

/-- Skip blanks, line ends and comments; each round skips at least one character. -/
def skipSpace : Nat → List Char → List Char
  | 0, text => text
  | fuel + 1, text =>
    match text with
    | '#' :: rest => skipSpace fuel (rest.dropWhile isPlain)
    | char :: rest =>
      if isBlank char then skipSpace fuel rest
      else match readNewline text with
        | some rest => skipSpace fuel rest
        | none => text
    | [] => []

/-! ## Escapes -/

/-- A character by its code, in `count` hexadecimal digits. -/
def readCode (count : Nat) (text : List Char) : Option (Char × List Char) := do
  let run := text.take count
  let values ← run.mapM hexValue?
  let code := values.foldl (fun total digit => total * 16 + digit) 0
  if run.length = count ∧ code.isValidChar then return (Char.ofNat code, text.drop count) else none

/-- The character an escape stands for, after its backslash. -/
def readEscape : List Char → Option (Char × List Char)
  | 'b' :: rest => some ('\x08', rest)
  | 't' :: rest => some ('\t', rest)
  | 'n' :: rest => some ('\n', rest)
  | 'f' :: rest => some ('\x0c', rest)
  | 'r' :: rest => some ('\r', rest)
  | '"' :: rest => some ('"', rest)
  | '\\' :: rest => some ('\\', rest)
  | 'u' :: rest => readCode 4 rest
  | 'U' :: rest => readCode 8 rest
  | _ => none

/-- What follows an escaped line end: the next character that is neither blank nor line end. -/
def skipFolded (text : List Char) : Option (List Char) := do
  let rest ← readNewline (skipBlank text)
  let rec skip : Nat → List Char → List Char
    | 0, text => text
    | fuel + 1, text =>
      match readNewline (skipBlank text) with
      | some rest => skip fuel rest
      | none => skipBlank text
  return skip rest.length rest

/-! ## Strings -/

/-- The rest of a basic string. -/
def readBasic : Nat → List Char → Option (List Char × List Char)
  | 0, _ => none
  | _ + 1, [] => none
  | fuel + 1, char :: rest =>
    if char = '"' then some ([], rest)
    else if char = '\\' then do
      let (char, rest) ← readEscape rest
      let (chars, rest) ← readBasic fuel rest
      return (char :: chars, rest)
    else if isPlain char then do
      let (chars, rest) ← readBasic fuel rest
      return (char :: chars, rest)
    else none

/-- The rest of a literal string. -/
def readLiteral (text : List Char) : Option (List Char × List Char) :=
  match text.span fun char => isPlain char && char ≠ '\'' with
  | (chars, '\'' :: rest) => some (chars, rest)
  | _ => none

/-- Quotes inside a string that is quoted three times. Up to two stand for themselves; three close the string, and
up to two more before them belong to it. The result is the quotes that belong to the string, what follows, and
whether the string is closed. -/
def takeQuotes (quote : Char) (text : List Char) : List Char × List Char × Bool :=
  let (run, rest) := text.span (· == quote)
  if run.length < 3 then (run, rest, false)
  else
    let inner := min (run.length - 3) 2
    (run.take inner, text.drop (inner + 3), true)

/-- The rest of a string between triple quotes, with escapes if the quotes are double. -/
def readTriple (quote : Char) : Nat → List Char → Option (List Char × List Char)
  | 0, _ => none
  | _ + 1, [] => none
  | fuel + 1, char :: rest =>
    if char = quote then
      let (quotes, rest, closed) := takeQuotes quote (char :: rest)
      if closed then some (quotes, rest)
      else do
        let (chars, rest) ← readTriple quote fuel rest
        return (quotes ++ chars, rest)
    else if char = '\\' ∧ quote = '"' then
      match skipFolded rest with
      | some rest => readTriple quote fuel rest
      | none => do
        let (char, rest) ← readEscape rest
        let (chars, rest) ← readTriple quote fuel rest
        return (char :: chars, rest)
    else if isPlain char then do
      let (chars, rest) ← readTriple quote fuel rest
      return (char :: chars, rest)
    else do
      let rest ← readNewline (char :: rest)
      let (chars, rest) ← readTriple quote fuel rest
      return ('\n' :: chars, rest)

/-- A string between triple quotes, after the opening ones. A line end directly behind them does not count. -/
def readTripled (quote : Char) (text : List Char) : Option (List Char × List Char) :=
  readTriple quote (text.length + 1) ((readNewline text).getD text)

/-- A string, if one starts here. -/
def readString : List Char → Option (List Char × List Char)
  | '"' :: '"' :: '"' :: rest => readTripled '"' rest
  | '"' :: rest => readBasic (rest.length + 1) rest
  | '\'' :: '\'' :: '\'' :: rest => readTripled '\'' rest
  | '\'' :: rest => readLiteral rest
  | _ => none

/-! ## Keys -/

def isBare (char : Char) : Bool := char.isAlphanum || char = '-' || char = '_'

/-- One key: a string on one line, or letters, digits, hyphens and underscores. -/
def readKey : List Char → Option (String × List Char)
  | '"' :: rest => do
    let (chars, rest) ← readBasic (rest.length + 1) rest
    return (String.ofList chars, rest)
  | '\'' :: rest => do
    let (chars, rest) ← readLiteral rest
    return (String.ofList chars, rest)
  | text =>
    match text.span isBare with
    | ([], _) => none
    | (chars, rest) => some (String.ofList chars, rest)

/-- Keys joined by dots, with blanks around every key. -/
def readKeys : Nat → List Char → Option (List String × List Char)
  | 0, _ => none
  | fuel + 1, text => do
    let (key, rest) ← readKey (skipBlank text)
    match skipBlank rest with
    | '.' :: rest =>
      let (keys, rest) ← readKeys fuel rest
      return (key :: keys, rest)
    | rest => return ([key], rest)

/-- The greatest nesting, and one more than the greatest number of keys in a path. -/
def nestingLimit : Nat := 80

/-- A path of keys: the keys before the last, and the last. -/
def readPath (text : List Char) : Option (List String × String × List Char) := do
  let (keys, rest) ← readKeys text.length text
  let last ← keys.getLast?
  if keys.length < nestingLimit then return (keys.dropLast, last, rest) else none

end Discovery.Toml
