import TypeForward.Toml.Scalar
import TypeForward.Toml.Tree

/-! Configuration documents: statements line by line, each a header or a key with its value. -/
namespace TypeForward.Toml

/-- Arrays and inline tables take no more entries once they are written. -/
def isClosed : Value → Bool
  | .list _ | .table _ => true
  | _ => false

/-- Adds a dotted key to an inline table. -/
def addInline (path : KeyPath) (v : Value) (g : Guards) (t : Table) : Except Error (Guards × Table) :=
  match path.getLast? with
  | none => .error .malformed
  | some last => do
    if g.isFrozen path then throw .malformed
    let t ← changeAt false (addEntry last v) path.dropLast t
    return (if isClosed v then g.freeze path else g, t)

mutual

/-- Any value. The fuel bounds the nesting; one unit for each character is enough. -/
def value : Nat → List Char → Except Error (Read Value)
  | 0, _ => .error .malformed
  | fuel + 1, cs =>
    match string? cs with
    | some found => found.map fun (text, rest) => (.text (String.ofList text), rest)
    | none =>
      match cs with
      | '[' :: rest => do
        let (items, rest) ← arrayItems fuel (← skipLines rest)
        return (.list items, rest)
      | '\x7b' :: rest => do
        match skipSpace rest with
        | '\x7d' :: rest => return (.table [], rest)
        | rest =>
          let (t, rest) ← inlineEntries fuel .none [] rest
          return (.table t, rest)
      | _ => scalar cs

/-- The items of an array up to its end; a comma may follow the last one. -/
def arrayItems : Nat → List Char → Except Error (Read (List Value))
  | 0, _ => .error .malformed
  | _ + 1, ']' :: rest => .ok ([], rest)
  | fuel + 1, cs => do
    let (item, rest) ← value fuel cs
    match ← skipLines rest with
    | ']' :: rest => return ([item], rest)
    | ',' :: rest =>
      let (items, rest) ← arrayItems fuel (← skipLines rest)
      return (item :: items, rest)
    | _ => throw .malformed

/-- The entries of an inline table up to its end; no comma follows the last one. -/
def inlineEntries : Nat → Guards → Table → List Char → Except Error (Read Table)
  | 0, _, _, _ => .error .malformed
  | fuel + 1, g, t, cs => do
    let (path, v, rest) ← keyValue fuel cs
    let (g, t) ← addInline path v g t
    match skipSpace rest with
    | '\x7d' :: rest => return (t, rest)
    | ',' :: rest => inlineEntries fuel g t (skipSpace rest)
    | _ => throw .malformed

/-- A key, the equals sign and a value. -/
def keyValue : Nat → List Char → Except Error (KeyPath × Value × List Char)
  | 0, _ => .error .malformed
  | fuel + 1, cs => do
    let (path, rest) ← key (cs.length + 1) cs
    match rest with
    | '=' :: rest =>
      let (v, rest) ← value fuel (skipSpace rest)
      return (path, v, rest)
    | _ => throw .malformed

end

/-- A document while it is read: its tables, their guards, and the header in force. -/
structure Draft where
  root : Table
  guards : Guards
  header : KeyPath

/-- A table header opens a table that no header has opened before. -/
def Draft.openTable (d : Draft) (path : KeyPath) : Except Error Draft := do
  if d.guards.isDeclared path || d.guards.isFrozen path then throw .malformed
  let root ← changeAt true .ok path d.root
  return ⟨root, d.guards.declare path, path⟩

/-- A header of a list of tables opens one more table, about which nothing is known yet. -/
def Draft.openItem (d : Draft) (path : KeyPath) : Except Error Draft :=
  match path.getLast? with
  | none => .error .malformed
  | some last => do
    if d.guards.isFrozen path then throw .malformed
    let root ← changeAt true (addToList last) path.dropLast d.root
    return ⟨root, (d.guards.release path).declare path, path⟩

/-- The tables on the way of a dotted key below a header. -/
def innerPaths (header path : KeyPath) : List KeyPath :=
  ((List.range path.length).drop 1).map fun n => header ++ path.take n

/-- A key with its value. A dotted key may not reopen a table that has a header of its own. -/
def Draft.addEntry (d : Draft) (path : KeyPath) (v : Value) : Except Error Draft :=
  match path.getLast? with
  | none => .error .malformed
  | some last => do
    let inner := innerPaths d.header path
    if inner.any d.guards.isDeclared then throw .malformed
    let parent := d.header ++ path.dropLast
    if d.guards.isFrozen parent then throw .malformed
    let root ← changeAt true (Toml.addEntry last v) parent d.root
    let guards := { d.guards with pending := inner ++ d.guards.pending }
    return ⟨root, if isClosed v then guards.freeze (d.header ++ path) else guards, d.header⟩

/-- A header with its brackets. -/
def header (d : Draft) (cs : List Char) : Except Error (Read Draft) := do
  let d := { d with guards := d.guards.settle }
  match cs with
  | '[' :: '[' :: rest =>
    let rest := skipSpace rest
    let (path, rest) ← key (rest.length + 1) rest
    let d ← d.openItem path
    match rest with
    | ']' :: ']' :: rest => return (d, rest)
    | _ => throw .malformed
  | '[' :: rest =>
    let rest := skipSpace rest
    let (path, rest) ← key (rest.length + 1) rest
    let d ← d.openTable path
    match rest with
    | ']' :: rest => return (d, rest)
    | _ => throw .malformed
  | _ => throw .malformed

/-- What a line holds besides space and a comment. -/
def statement (d : Draft) (cs : List Char) : Except Error (Read Draft) := do
  match cs with
  | '[' :: _ => header d cs
  | '#' :: _ => return (d, cs)
  | _ =>
    let (path, v, rest) ← keyValue (cs.length + 1) cs
    return (← d.addEntry path v, rest)

/-- All lines. The fuel bounds their number. -/
def lines : Nat → Draft → List Char → Except Error Draft
  | 0, d, _ => .ok d
  | fuel + 1, d, cs =>
    match skipSpace cs with
    | [] => .ok d
    | '\n' :: rest => lines fuel d rest
    | cs => do
      let (d, rest) ← statement d cs
      match ← skipComment (skipSpace rest) with
      | [] => return d
      | '\n' :: rest => lines fuel d rest
      | _ => throw .malformed

/-- A carriage return before a line feed is dropped. -/
def unifyLineEnds : List Char → List Char
  | '\r' :: '\n' :: rest => '\n' :: unifyLineEnds rest
  | c :: rest => c :: unifyLineEnds rest
  | [] => []

/-- The table that a document stands for. -/
def parse (document : String) : Except Error Table :=
  let cs := unifyLineEnds document.toList
  (lines (cs.length + 1) ⟨[], .none, []⟩ cs).map (·.root)

end TypeForward.Toml
