import ClassVerification.Json.Basic
import ClassVerification.Text.Class

/-!
Files of assignments, one `KEY=value` on a line. Values stand bare, between single quotes or between
double quotes; a statement that cannot be read is passed over, and the line it starts on is told. A
value may refer to variables that come from the environment or from lines above it.
-/

namespace ClassVerification.DotEnv

def isLineEnd (c : CodePoint) : Bool := c = .char '\n' || c = .char '\r'

/-- White space inside a line. -/
def isGap (c : CodePoint) : Bool := c.isBlank && !isLineEnd c

def skipGap (t : Text) : Text := t.dropWhile isGap

/-- Drops a leading `export` with white space behind it. -/
def skipExport (t : Text) : Text :=
  match t.dropPrefix? "export" with
  | some rest => if rest.head?.any isGap then skipGap rest else t
  | none => t

/-- The end of a key that stands bare. -/
def endsKey (c : CodePoint) : Bool := c = .char '=' || c = .char '#' || c.isBlank

/-- The name to the left of an assignment. A comment has none. -/
def key? (t : Text) : Option ((Option Text) × Text) :=
  match t with
  | .char '#' :: _ => some (none, t)
  | .char '\'' :: rest =>
    let (name, rest) := rest.span (· != .char '\'')
    if name.isEmpty || rest.isEmpty then none else some (some name, rest.drop 1)
  | _ =>
    let (name, rest) := t.span (!endsKey ·)
    if name.isEmpty then none else some (some name, rest)

/-- A quoted value whose opening quote has been read, up to the first quote that no backslash takes
along. A backslash takes along whatever follows it. -/
def quoted? (quote : CodePoint) : Text → Option (Text × Text)
  | [] => none
  | [c] => if c = quote then some ([], []) else none
  | c :: d :: rest =>
    if c = quote then some ([], d :: rest)
    else if c = .char '\\' then (quoted? quote rest).map fun (s, rest) => (c :: d :: s, rest)
    else (quoted? quote (d :: rest)).map fun (s, rest) => (c :: s, rest)

def singleEscape? : CodePoint → Option CodePoint
  | .char '\\' => some (.char '\\')
  | .char '\'' => some (.char '\'')
  | _ => none

def doubleEscape? : CodePoint → Option CodePoint
  | .char '\\' => some (.char '\\')
  | .char '\'' => some (.char '\'')
  | .char '"' => some (.char '"')
  | .char 'a' => some (.char '\x07')
  | .char 'b' => some (.char '\x08')
  | .char 'f' => some (.char '\x0c')
  | .char 'n' => some (.char '\n')
  | .char 'r' => some (.char '\r')
  | .char 't' => some (.char '\t')
  | .char 'v' => some (.char '\x0b')
  | _ => none

/-- Resolves the escapes of a kind of quotes; a backslash before anything else stays. -/
def resolveEscapes (escape? : CodePoint → Option CodePoint) : Text → Text
  | [] => []
  | [c] => [c]
  | c :: d :: rest =>
    match if c = .char '\\' then escape? d else none with
    | some e => e :: resolveEscapes escape? rest
    | none => c :: resolveEscapes escape? (d :: rest)

/-- Cuts a bare value before a comment that white space stands before. -/
def cutComment : Text → Text
  | [] => []
  | c :: rest =>
    if c.isBlank && rest.head? = some (.char '#') then [] else c :: cutComment rest

/-- A value that stands bare, up to the end of the line or a comment. -/
def bare (t : Text) : Text × Text :=
  let (value, rest) := t.span (!isLineEnd ·)
  ((cutComment value).trim CodePoint.isBlank, rest)

/-- The value to the right of an equals sign, white space before it included. -/
def value? (t : Text) : Option (Text × Text) :=
  match skipGap t with
  | .char '\'' :: rest =>
    (quoted? (.char '\'') rest).map fun (s, rest) => (resolveEscapes singleEscape? s, rest)
  | .char '"' :: rest =>
    (quoted? (.char '"') rest).map fun (s, rest) => (resolveEscapes doubleEscape? s, rest)
  | _ => some (bare t)

/-- Skips a comment behind an assignment. -/
def skipComment (t : Text) : Text :=
  match skipGap t with
  | .char '#' :: rest => rest.dropWhile (!isLineEnd ·)
  | _ => t

/-- Skips the end of a line, which nothing but white space may stand before. -/
def endOfLine? (t : Text) : Option Text :=
  match skipGap t with
  | [] => some []
  | .char '\r' :: .char '\n' :: rest => some rest
  | c :: rest => if isLineEnd c then some rest else none

/-- An assignment of a value, or the mention of a key without one. -/
abbrev Binding := Text × Option Text

inductive Statement where
  | assignment (b : Binding)
  | comment
  | unreadable
deriving DecidableEq, Repr

/-- Passes over the rest of a line that cannot be read. -/
def skipLine (t : Text) : Text := (t.dropWhile (!isLineEnd ·)).drop 1

/-- The value behind an equals sign, if there is one. -/
def assigned? (t : Text) : Option ((Option Text) × Text) :=
  match t with
  | .char '=' :: rest => (value? rest).map fun (v, rest) => (some v, rest)
  | _ => some (none, t)

/-- Reads one statement, and hands back the text after it. A statement is given up where it goes
wrong, which may be below the line it starts on. -/
def statement (t : Text) : Statement × Text :=
  let t := skipExport t
  match key? t with
  | none => (.unreadable, skipLine t)
  | some (name, rest) =>
    match assigned? (skipGap rest) with
    | none => (.unreadable, skipLine rest)
    | some (value, rest) =>
      let rest := skipComment rest
      match endOfLine? rest with
      | none => (.unreadable, skipLine rest)
      | some rest => (name.elim .comment fun name => .assignment (name, value), rest)

/-- How many lines end in a text. -/
def lineEnds (t : Text) : Nat := t.count (.char '\n')

/-- Statements with the line that each starts on. Blank lines above a statement belong to it. -/
def statementsFrom : Nat → Nat → Text → List (Nat × Statement)
  | 0, _, _ => []
  | fuel + 1, line, t =>
    match t.dropWhile CodePoint.isBlank with
    | [] => []
    | start =>
      let (s, rest) := statement start
      (line, s) :: statementsFrom fuel (line + (lineEnds t - lineEnds rest)) rest

/-- The statements of a file, in order. A byte order mark at its start does not count. -/
def statements (t : Text) : List (Nat × Statement) :=
  let t := if t.head? = some (.char '\uFEFF') then t.drop 1 else t
  statementsFrom (t.length + 1) 1 t

/-- The assignments of a file, in order. -/
def bindings (t : Text) : List Binding :=
  (statements t).filterMap fun
    | (_, .assignment b) => some b
    | _ => none

/-- The lines that unreadable statements start on. -/
def unreadableLines (t : Text) : List Nat :=
  (statements t).filterMap fun
    | (line, .unreadable) => some line
    | _ => none

/-- The variables that a value may refer to. A key without a value has none. -/
abbrev Scope := Members (Option Text)

def lookUp (scope : Scope) (name default : Text) : Text :=
  match scope.get? name with
  | none => default
  | some none => []
  | some (some value) => value

/-- A reference to a variable, with an optional default, whose opening brace has been read. -/
def reference? (t : Text) : Option (Text × Text × Text) :=
  let (name, rest) := t.span fun c => c != .char '\x7d' && c != .char ':'
  match rest with
  | .char '\x7d' :: rest => some (name, [], rest)
  | .char ':' :: .char '-' :: rest =>
    let (default, rest) := rest.span (· != .char '\x7d')
    if rest.isEmpty then none else some (name, default, rest.drop 1)
  | _ => none

def expandFrom (scope : Scope) : Nat → Text → Text
  | 0, _ => []
  | _ + 1, [] => []
  | fuel + 1, c :: rest =>
    match c, rest with
    | .char '$', .char '\x7b' :: after =>
      match reference? after with
      | some (name, default, after) => lookUp scope name default ++ expandFrom scope fuel after
      | none => c :: expandFrom scope fuel rest
    | _, _ => c :: expandFrom scope fuel rest

/-- A value with its references replaced. -/
def expand (scope : Scope) (t : Text) : Text := expandFrom scope (t.length + 1) t

/-- The values of a file in an environment. A later assignment to a key wins, and a value sees the
environment and, before it, the lines above. -/
def ofText (environment : Members Text) (t : Text) : Members (Option Text) :=
  let outer : Scope := environment.map fun (k, v) => (k, some v)
  (bindings t).foldl
    (fun values (name, value) =>
      values.put name (value.map (expand (Members.putAll outer values))))
    []

end ClassVerification.DotEnv
