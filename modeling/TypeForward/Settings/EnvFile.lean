import TypeForward.Settings.Environment
import TypeForward.Text.Blank

/-! Files that preset environment variables. A line holds a name and a value, which may be quoted over several lines;
lines that cannot be read are skipped. Values may refer to other variables. -/
namespace TypeForward.EnvFile

/-- A name without an equals sign has no value. -/
structure Binding where
  name : String
  value : Option String
  deriving DecidableEq

/-- All conventions for the end of a line become the line feed. -/
def unifyLineEnds : List Char → List Char
  | '\r' :: '\n' :: rest => '\n' :: unifyLineEnds rest
  | '\r' :: rest => '\n' :: unifyLineEnds rest
  | c :: rest => c :: unifyLineEnds rest
  | [] => []

/-- White space that does not end the line. -/
def isInline (c : Char) : Bool :=
  Text.isBlank c && c != '\n'

def skipInline (cs : List Char) : List Char :=
  cs.dropWhile isInline

def skipLine (cs : List Char) : List Char :=
  (cs.dropWhile (· != '\n')).drop 1

def exportWord : List Char :=
  ['e', 'x', 'p', 'o', 'r', 't']

/-- The word `export` in front of a name, if space follows it. -/
def skipExport (cs : List Char) : List Char :=
  match exportWord.isPrefixOf? cs with
  | some (c :: rest) => if isInline c then skipInline rest else cs
  | _ => cs

def isNameChar (c : Char) : Bool :=
  c != '=' && c != '#' && !Text.isBlank c

/-- The name of a binding, or nothing before a comment. What cannot be read is returned as the error. -/
def takeName (cs : List Char) : Except (List Char) (Option String × List Char) :=
  match cs with
  | '#' :: _ => .ok (none, cs)
  | '\'' :: rest =>
    match rest.takeWhile (· != '\''), rest.dropWhile (· != '\'') with
    | c :: name, _ :: rest => .ok (some (String.ofList (c :: name)), rest)
    | _, _ => .error cs
  | _ =>
    match cs.takeWhile isNameChar with
    | [] => .error cs
    | name => .ok (some (String.ofList name), cs.dropWhile isNameChar)

/-- What stands before the closing quote, and what follows it. A quote after a backslash closes nothing, unless no
other quote does: then the last such one closes. -/
def closeQuote (quote : Char) : List Char → Option (List Char × List Char)
  | [] => none
  | '\\' :: c :: rest =>
    if c = quote then
      match closeQuote quote rest with
      | some (inside, after) => some ('\\' :: c :: inside, after)
      | none => some (['\\'], rest)
    else (closeQuote quote (c :: rest)).map fun (inside, after) => ('\\' :: inside, after)
  | c :: rest =>
    if c = quote then some ([], rest)
    else (closeQuote quote rest).map fun (inside, after) => (c :: inside, after)

/-- Replaces a backslash with the character after it where the table has an answer. -/
def unescape (table : Char → Option Char) : List Char → List Char
  | '\\' :: c :: rest =>
    match table c with
    | some d => d :: unescape table rest
    | none => '\\' :: unescape table (c :: rest)
  | c :: rest => c :: unescape table rest
  | [] => []

def singleEscape (c : Char) : Option Char :=
  if c = '\\' ∨ c = '\'' then some c else none

def doubleEscape : Char → Option Char
  | 'a' => some '\x07'
  | 'b' => some '\x08'
  | 'f' => some '\x0C'
  | 'n' => some '\n'
  | 'r' => some '\r'
  | 't' => some '\t'
  | 'v' => some '\x0B'
  | '"' => some '"'
  | c => singleEscape c

/-- The part of a line before a number sign that follows white space. -/
def beforeComment (afterBlank : Bool) : List Char → List Char
  | [] => []
  | c :: rest => if c = '#' && afterBlank then [] else c :: beforeComment (Text.isBlank c) rest

/-- A value, quoted or up to the end of the line. -/
def takeValue (cs : List Char) : Except (List Char) (List Char × List Char) :=
  match cs with
  | '\'' :: rest =>
    match closeQuote '\'' rest with
    | some (inside, after) => .ok (unescape singleEscape inside, after)
    | none => .error cs
  | '"' :: rest =>
    match closeQuote '"' rest with
    | some (inside, after) => .ok (unescape doubleEscape inside, after)
    | none => .error cs
  | _ =>
    let line := cs.takeWhile (· != '\n')
    .ok (Text.trimEnd (beforeComment false line), cs.dropWhile (· != '\n'))

/-- The end of a line after an optional comment. -/
def takeLineEnd (cs : List Char) : Except (List Char) (List Char) :=
  let afterComment := match skipInline cs with
    | '#' :: rest => rest.dropWhile (· != '\n')
    | _ => cs
  match skipInline afterComment with
  | [] => .ok []
  | '\n' :: rest => .ok rest
  | _ => .error afterComment

/-- A value with the equals sign before it, if there is one. -/
def takeAssignment (cs : List Char) : Except (List Char) (Option (List Char) × List Char) :=
  match cs with
  | '=' :: rest => (takeValue (skipInline rest)).map fun (value, rest) => (some value, rest)
  | _ => .ok (none, cs)

/-- The binding that starts here, if there is one before the end of its line. -/
def takeBinding (cs : List Char) : Except (List Char) (Option Binding × List Char) := do
  let (name, rest) ← takeName (skipExport cs)
  let (value, rest) ← takeAssignment (skipInline rest)
  let rest ← takeLineEnd rest
  return (name.map fun name => ⟨name, value.map String.ofList⟩, rest)

/-- All bindings. Every step reads at least one character, so the number of characters is fuel enough. -/
def bindings : Nat → List Char → List Binding
  | 0, _ => []
  | fuel + 1, cs =>
    match cs.dropWhile Text.isBlank with
    | [] => []
    | cs =>
      match takeBinding cs with
      | .ok (found, rest) => found.toList ++ bindings fuel rest
      | .error rest => bindings fuel (skipLine rest)

/-- A reference to a variable, with what stands for it if it is not set. -/
structure Reference where
  name : String
  fallback : String
  deriving DecidableEq

/-- The reference that starts here, after its first brace, and what follows it. -/
def reference? (cs : List Char) : Option (Reference × List Char) :=
  let name := String.ofList (cs.takeWhile fun c => c != '\x7d' && c != ':')
  match cs.dropWhile fun c => c != '\x7d' && c != ':' with
  | ':' :: '-' :: rest =>
    match rest.dropWhile (· != '\x7d') with
    | _ :: after => some (⟨name, String.ofList (rest.takeWhile (· != '\x7d'))⟩, after)
    | [] => none
  | '\x7d' :: rest => some (⟨name, ""⟩, rest)
  | _ => none

/-- Text with its references replaced. The fuel bounds its length. -/
def expand (value : Reference → String) : Nat → List Char → List Char
  | 0, cs => cs
  | _ + 1, [] => []
  | fuel + 1, '$' :: '\x7b' :: rest =>
    match reference? rest with
    | some (r, after) => (value r).toList ++ expand value fuel after
    | none => '$' :: expand value fuel ('\x7b' :: rest)
  | fuel + 1, c :: rest => c :: expand value fuel rest

/-- The meaning of a reference: the environment first, then earlier bindings, of which one without a value means
the empty text, then the fallback. -/
def meaning (env : Environment) (earlier : List (String × Option String)) (r : Reference) : String :=
  match Entries.get? r.name env, Entries.get? r.name earlier with
  | some value, _ => value
  | none, some value => value.getD ""
  | none, none => r.fallback

/-- The variables that a file presets. Of bindings for one name the last counts, at the place of the first. -/
def presets (text : String) (env : Environment) : List (String × Option String) :=
  let cs := unifyLineEnds text.toList
  (bindings (cs.length + 1) cs).foldl (fun found b =>
    let value := b.value.map fun v =>
      String.ofList (expand (meaning env found) (v.length + 1) v.toList)
    Entries.put b.name value found) []

/-- Sets the variables that the environment does not have yet. If one cannot be set, those before it stay set. -/
def preset : List (String × Option String) → Environment → Except Fault Unit × Environment
  | [], env => (.ok (), env)
  | (name, value) :: rest, env =>
    match value, Entries.get? name env with
    | some value, none =>
      match env.assign name value with
      | .ok env => preset rest env
      | .error fault => (.error fault, env)
    | _, _ => preset rest env

end TypeForward.EnvFile
