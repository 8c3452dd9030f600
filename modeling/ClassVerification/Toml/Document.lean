import ClassVerification.Toml.Scalar

/-!
A TOML document: values with the values inside them, and the statements that fill and open tables.
A table that a header has opened cannot be opened again, and nothing is added to an inline value.
-/

namespace ClassVerification.Toml

/-- Puts a pair into an inline table. A value that has been closed before is not extended. -/
def addInline (closed : List Key) (path : Key) (value : Toml) (members : Members Toml) :
    Except Defect (Members Toml) :=
  if closed.any (·.isPrefixOf path) then reject
  else match path.getLast? with
    | none => reject
    | some name =>
      match within false (addNew name value) path.dropLast members with
      | some members => .ok members
      | none => reject

def isComposite : Toml → Bool
  | .list _ | .table _ => true
  | _ => false

mutual
/-- A value at the front of a text. -/
def value : Nat → Text → Except Defect (Toml × Text)
  | 0, _ => reject
  | fuel + 1, t =>
    match t with
    | .char '"' :: rest => do
      let (s, rest) ←
        if Text.startsWith rest "\"\"" then longBasicText (rest.drop 2) else basicText rest
      return (.text s, rest)
    | .char '\'' :: rest => do
      let (s, rest) ←
        if Text.startsWith rest "''" then longLiteralRest (rest.drop 2) else literalRest rest
      return (.text s, rest)
    | .char '[' :: rest => do
      let (items, rest) ← items fuel (← skipBetweenItems rest)
      return (.list items, rest)
    | .char '\x7b' :: rest =>
      match skipSpace rest with
      | .char '\x7d' :: rest => .ok (.table [], rest)
      | rest => do
        let (members, rest) ← inlineMembers fuel [] [] rest
        return (.table members, rest)
    | _ =>
      match t.dropPrefix? "true", t.dropPrefix? "false" with
      | some rest, _ => .ok (.bool true, rest)
      | _, some rest => .ok (.bool false, rest)
      | none, none => momentOrNumber t

/-- The items of a list up to its closing bracket. -/
def items : Nat → Text → Except Defect ((List Toml) × Text)
  | 0, _ => reject
  | fuel + 1, t =>
    match t with
    | .char ']' :: rest => .ok ([], rest)
    | _ => do
      let (item, rest) ← value fuel t
      match ← skipBetweenItems rest with
      | .char ']' :: rest => return ([item], rest)
      | .char ',' :: rest =>
        let (items, rest) ← items fuel (← skipBetweenItems rest)
        return (item :: items, rest)
      | _ => reject

/-- The pairs of an inline table up to its closing brace. -/
def inlineMembers (fuel : Nat) (closed : List Key) (members : Members Toml) (t : Text) :
    Except Defect ((Members Toml) × Text) :=
  match fuel with
  | 0 => reject
  | fuel + 1 => do
    let (path, rest) ← key t
    match rest with
    | .char '=' :: rest =>
      let (v, rest) ← value fuel (skipSpace rest)
      let members ← addInline closed path v members
      match skipSpace rest with
      | .char '\x7d' :: rest => return (members, rest)
      | .char ',' :: rest =>
        let closed := if isComposite v then path :: closed else closed
        inlineMembers fuel closed members (skipSpace rest)
      | _ => reject
    | _ => reject
end

/-- A document while it is being read. `opened` holds the tables that no header may open,
`pending` those that join them at the next header, `closed` the inline values. -/
structure Draft where
  root : Members Toml := []
  header : Key := []
  opened : List Key := []
  pending : List Key := []
  closed : List Key := []

namespace Draft

def isOpened (d : Draft) (path : Key) : Bool := d.opened.contains path

/-- Whether a key leads to or into an inline value. -/
def isClosed (d : Draft) (path : Key) : Bool := d.closed.any (·.isPrefixOf path)

/-- Tables named by dotted keys can no longer be opened once a header comes. -/
def settle (d : Draft) : Draft := { d with opened := d.pending ++ d.opened, pending := [] }

/-- A new item of a list of tables has no past. -/
def forget (d : Draft) (path : Key) : Draft :=
  { d with
    opened := d.opened.filter (!path.isPrefixOf ·)
    closed := d.closed.filter (!path.isPrefixOf ·) }

/-- The header of a table. -/
def openTable (d : Draft) (path : Key) : Option Draft :=
  if d.isOpened path || d.isClosed path then none
  else
    (within true some path d.root).map fun root =>
      { d with root, header := path, opened := path :: d.opened }

/-- The header of an item in a list of tables. -/
def openItem (d : Draft) (path : Key) : Option Draft :=
  if d.isClosed path then none
  else match path.getLast? with
    | none => none
    | some name =>
      (within true (appendTable name) path.dropLast d.root).map fun root =>
        let d := d.forget path
        { d with root, header := path, opened := path :: d.opened }

/-- The tables that a dotted key passes through below the current header. -/
def passed (d : Draft) (path : Key) : List Key :=
  (List.range (path.length - 1)).map fun i => d.header ++ path.take (i + 1)

/-- A pair of a key and a value. -/
def assign (d : Draft) (path : Key) (v : Toml) : Option Draft :=
  let way := d.passed path
  let target := d.header ++ path.dropLast
  if way.any d.isOpened || d.isClosed target then none
  else match path.getLast? with
    | none => none
    | some name =>
      (within true (addNew name v) target d.root).map fun root =>
        { d with
          root
          pending := way ++ d.pending
          closed := if isComposite v then (d.header ++ path) :: d.closed else d.closed }

end Draft

def orReject {α : Type} : Option α → Except Defect α
  | some a => .ok a
  | none => reject

/-- A header whose brackets have a width, the first of them read. -/
def headerLine (d : Draft) (t : Text) : Except Defect (Draft × Text) :=
  let d := d.settle
  match t with
  | .char '[' :: rest => do
    let (path, rest) ← key (skipSpace rest)
    let d ← orReject (d.openItem path)
    let rest ← orReject (rest.dropPrefix? "]]")
    return (d, rest)
  | _ => do
    let (path, rest) ← key (skipSpace t)
    let d ← orReject (d.openTable path)
    let rest ← orReject (rest.dropPrefix? "]")
    return (d, rest)

/-- A pair of a key and a value, on a line. -/
def pairLine (d : Draft) (t : Text) : Except Defect (Draft × Text) := do
  let (path, rest) ← key t
  match rest with
  | .char '=' :: rest =>
    let (v, rest) ← value (rest.length + 1) (skipSpace rest)
    return (← orReject (d.assign path v), rest)
  | _ => reject

/-- The statement at the front of a line, which may be missing. -/
def statement (d : Draft) (t : Text) : Except Defect (Draft × Text) :=
  match t with
  | [] => .ok (d, t)
  | .char '[' :: rest => headerLine d rest
  | c :: _ =>
    if c = .char '#' || c = .char '\n' then .ok (d, t) else pairLine d t

def statements : Nat → Draft → Text → Except Defect Draft
  | 0, d, _ => .ok d
  | fuel + 1, d, t => do
    let (d, rest) ← statement d (skipSpace t)
    match ← skipComment (skipSpace rest) with
    | [] => return d
    | .char '\n' :: rest => statements fuel d rest
    | _ => reject

/-- The root table of a document. -/
def ofText (t : Text) : Except Defect (Members Toml) := do
  let d ← statements (t.length + 1) {} t
  return d.root

end ClassVerification.Toml
