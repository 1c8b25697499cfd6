import ItemSearch.Settings.Basic

/-!
Files of variables: one `NAME=value` to a line, comments behind `#`, and values that may stand
between quotation marks, where they can go over several lines. A line that is none of this is
passed over. A value may refer to variables before it as `${NAME}` or `${NAME:-default}`.
-/

namespace ItemSearch.Settings.File

open Text (isBlank)

def isBreak (c : Char) : Bool := c = '\r' || c = '\n'

/-- A blank inside a line. -/
def isGap (c : Char) : Bool := isBlank c && !isBreak c

/-- The text with a line feed at the end of each line. -/
def unifyBreaks : List Char → List Char
  | '\r' :: '\n' :: rest => '\n' :: unifyBreaks rest
  | '\r' :: rest => '\n' :: unifyBreaks rest
  | c :: rest => c :: unifyBreaks rest
  | [] => []

/-- The text behind the word `export`, if that stands at its front. -/
def skipExport (s : List Char) : List Char :=
  let word := "export".toList
  let rest := s.drop word.length
  if word.isPrefixOf s && rest.head?.any isGap then rest.dropWhile isGap else s

/-- The text up to the closing quotation mark, and what follows it. A mark behind a backslash does
not close, unless no other does. -/
def cutQuoted (mark : Char) : List Char → Option (List Char × List Char)
  | [] => none
  | [c] => if c = mark then some ([], []) else none
  | c :: d :: more =>
    if c = mark then some ([], d :: more)
    else if c = '\\' && d = mark then
      match cutQuoted mark more with
      | some (text, behind) => some ('\\' :: mark :: text, behind)
      | none => some (['\\'], more)
    else (cutQuoted mark (d :: more)).map fun p => (c :: p.1, p.2)

/-- What a backslash and a character stand for between double quotation marks. -/
def escapes : List (Char × Char) :=
  [('\\', '\\'), ('\'', '\''), ('"', '"'), ('a', '\x07'), ('b', '\x08'), ('f', '\x0c'),
   ('n', '\n'), ('r', '\r'), ('t', '\t'), ('v', '\x0b')]

/-- The text with those escapes resolved that are allowed. -/
def unescape (allowed : Char → Bool) : List Char → List Char
  | '\\' :: c :: rest =>
    match escapes.find? fun e => e.1 = c && allowed c with
    | some e => e.2 :: unescape allowed rest
    | none => '\\' :: unescape allowed (c :: rest)
  | c :: rest => c :: unescape allowed rest
  | [] => []

/-- A value without quotation marks, up to a comment behind a blank. -/
def cutComment : List Char → List Char
  | [] => []
  | c :: rest =>
    if isBlank c && (rest.dropWhile isBlank).head? = some '#' then []
    else c :: cutComment rest

def value? (s : List Char) : Option (List Char × List Char) :=
  match s with
  | '\'' :: rest => (cutQuoted '\'' rest).map fun p =>
      (unescape (fun c => c = '\\' || c = '\'') p.1, p.2)
  | '"' :: rest => (cutQuoted '"' rest).map fun p => (unescape (fun _ => true) p.1, p.2)
  | _ =>
    let line := s.takeWhile fun c => !isBreak c
    some (Text.dropRight isBlank (cutComment line), s.drop line.length)

/-- The name at the front of a line, unless the line is a comment. -/
def name? (s : List Char) : Option (Option (List Char) × List Char) :=
  match s with
  | '#' :: _ => some (none, s)
  | '\'' :: rest => match Text.cutChars? '\'' rest with
    | some (name, behind) => if name.isEmpty then none else some (some name, behind)
    | none => none
  | _ =>
    let name := s.takeWhile fun c => !(c = '=' || c = '#' || isBlank c)
    if name.isEmpty then none else some (some name, s.drop name.length)

def restOfLine (s : List Char) : List Char := (s.dropWhile fun c => !isBreak c).drop 1

/-- The text behind the end of the line, if nothing but a comment comes before that. -/
def endLine? (s : List Char) : Option (List Char) :=
  let rest := s.dropWhile isGap
  let rest := if rest.head? = some '#' then rest.dropWhile fun c => !isBreak c else rest
  match rest with
  | [] => some []
  | c :: behind => if isBreak c then some behind else none

/-- A name and its value at the front of a text, and the text behind them. The text begins with a
line that is not blank. -/
def entry (s : List Char) : Option (String × Option String) × List Char :=
  match name? (skipExport s) with
  | none => (none, restOfLine (skipExport s))
  | some (name?, rest) =>
    let rest := rest.dropWhile isGap
    let valued? : Option (Option (List Char) × List Char) := match rest with
      | '=' :: more =>
        (value? (more.dropWhile isGap)).map fun p => (some p.1, p.2)
      | _ => some (none, rest)
    match valued? with
    | none => (none, restOfLine rest)
    | some (value?, rest) => match endLine? rest with
      | none => (none, restOfLine rest)
      | some behind =>
        (name?.map fun name => (String.ofList name, value?.map String.ofList), behind)

/-- The entries of a text. Each takes a character at least. -/
def entries : Nat → List Char → Variables
  | 0, _ => []
  | fuel + 1, s =>
    match s.dropWhile isBlank with
    | [] => []
    | c :: rest =>
      let (binding?, behind) := entry (c :: rest)
      binding?.toList ++ entries fuel behind

/-- A reference to a variable, behind its opening brace: the name, the default, and the rest. -/
def reference? (s : List Char) : Option (List Char × Option (List Char) × List Char) :=
  let name := s.takeWhile fun c => c ≠ '\x7d' && c ≠ ':'
  match s.drop name.length with
  | '\x7d' :: rest => some (name, none, rest)
  | ':' :: '-' :: more =>
    let default := more.takeWhile fun c => c ≠ '\x7d'
    match more.drop default.length with
    | '\x7d' :: rest => some (name, some default, rest)
    | _ => none
  | _ => none

/-- The value of a variable, or the default where there is no such variable. -/
def lookUp (known : Variables) (name : List Char) (default? : Option (List Char)) : List Char :=
  match Assoc.find? (String.ofList name) known with
  | some value? => (value?.getD "").toList
  | none => default?.getD []

/-- The text with its references resolved. -/
def resolve (known : Variables) : Nat → List Char → List Char
  | 0, _ => []
  | _ + 1, [] => []
  | fuel + 1, '$' :: '\x7b' :: rest => match reference? rest with
    | some (name, default?, behind) =>
      lookUp known name default? ++ resolve known fuel behind
    | none => '$' :: resolve known fuel ('\x7b' :: rest)
  | fuel + 1, c :: rest => c :: resolve known fuel rest

/-- The variables of a file, each with its references resolved by those before it and by the
environment. -/
def read (environment : Variables) (text : String) : Variables :=
  let s := unifyBreaks text.toList
  (entries (s.length + 1) s).foldl
    (fun done (name, value?) =>
      let known := done ++ environment
      let value? := value?.map fun v =>
        String.ofList (resolve known (v.toList.length + 1) v.toList)
      Assoc.put name value? done) []

end ItemSearch.Settings.File
