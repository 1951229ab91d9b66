import RenderPlan.Format.TomlLexis

/-! TOML documents. A table remembers how it came about, because that decides whether it may be
extended later. -/
namespace RenderPlan.Format
open TomlLexis

/-- How a table was written. -/
inductive TableOrigin
  /-- Between braces. -/
  | inline
  /-- As a part of the name of another table. -/
  | implied
  /-- As a part of a dotted key. -/
  | dotted
  /-- Under a header of its own. -/
  | header
  deriving DecidableEq

inductive Toml
  | string (s : String)
  | integer (n : Int)
  | float
  | boolean (b : Bool)
  | moment
  | array (items : List Toml)
  | table (origin : TableOrigin) (entries : List (String × Toml))
  /-- Tables under headers of the same name. -/
  | tables (elements : List (List (String × Toml)))

namespace Toml

def replace (key : String) (value : Toml) (entries : List (String × Toml)) :
    List (String × Toml) :=
  entries.map fun e => if e.1 == key then (key, value) else e

/-- Gives a dotted key its value. The tables on the way must not have a header or braces. -/
def assign (value : Toml) : List String → List (String × Toml) → Option (List (String × Toml))
  | [], _ => none
  | [key], entries =>
    match entries.lookup key with
    | none => some (entries ++ [(key, value)])
    | some _ => none
  | key :: keys, entries =>
    match entries.lookup key with
    | none => (assign value keys []).map fun inner => entries ++ [(key, .table .dotted inner)]
    | some (.table .dotted inner) =>
      (assign value keys inner).map fun inner => replace key (.table .dotted inner) entries
    | some (.table .implied inner) =>
      (assign value keys inner).map fun inner => replace key (.table .implied inner) entries
    | some _ => none

/-- Changes the table that a name leads to, making those on the way that are missing. -/
def descend (change : List (String × Toml) → Option (List (String × Toml))) :
    List String → List (String × Toml) → Option (List (String × Toml))
  | [], entries => change entries
  | key :: keys, entries =>
    match entries.lookup key with
    | none => (descend change keys []).map fun inner => entries ++ [(key, .table .implied inner)]
    | some (.table .inline _) => none
    | some (.table origin inner) =>
      (descend change keys inner).map fun inner => replace key (.table origin inner) entries
    | some (.tables elements) =>
      (descend change keys (elements.getLast?.getD [])).map fun inner =>
        replace key (.tables (elements.dropLast ++ [inner])) entries
    | some _ => none

def openTable (key : String) (entries : List (String × Toml)) : Option (List (String × Toml)) :=
  match entries.lookup key with
  | none => some (entries ++ [(key, .table .header [])])
  | some (.table .implied inner) => some (replace key (.table .header inner) entries)
  | some _ => none

/-- Opens one more table of a list under a header. -/
def openElement (key : String) (entries : List (String × Toml)) : Option (List (String × Toml)) :=
  match entries.lookup key with
  | none => some (entries ++ [(key, .tables [[]])])
  | some (.tables elements) => some (replace key (.tables (elements ++ [[]])) entries)
  | some _ => none

def ofWord (cs : List Char) : Option Toml :=
  if cs = "true".toList then some (.boolean true)
  else if cs = "false".toList then some (.boolean false)
  else if isMoment cs then some .moment
  else
    match TomlLexis.integer cs with
    | some n => some (.integer n)
    | none => if isFloat cs then some .float else none

mutual

def value : (fuel : Nat) → List Char → Option (Toml × List Char)
  | 0, _ => none
  | fuel + 1, cs =>
    match cs with
    | '"' :: _ | '\'' :: _ => (text cs).map fun (s, rest) => (.string s, rest)
    | '[' :: rest => (items fuel rest []).map fun (vs, rest) => (.array vs, rest)
    | '\x7b' :: rest => (members fuel rest []).map fun (es, rest) => (.table .inline es, rest)
    | _ =>
      let (run, rest) := word cs
      (ofWord run).map fun v => (v, rest)

/-- The items of an array up to its end, with those read so far in reverse. -/
def items : (fuel : Nat) → List Char → List Toml → Option (List Toml × List Char)
  | 0, _, _ => none
  | fuel + 1, cs, acc => do
    let rest ← skipLines false cs
    if rest.head? = some ']' then some (acc.reverse, rest.tail)
    else
      let (v, rest) ← value fuel rest
      match ← skipLines false rest with
      | ',' :: rest => items fuel rest (v :: acc)
      | ']' :: rest => some ((v :: acc).reverse, rest)
      | _ => none

/-- The entries of a table between braces up to its end. -/
def members : (fuel : Nat) → List Char → List (String × Toml) →
    Option (List (String × Toml) × List Char)
  | 0, _, _ => none
  | fuel + 1, cs, entries => do
    let rest ← skipLines false cs
    if rest.head? = some '\x7d' then some (entries, rest.tail)
    else
      let (keys, rest) ← dottedKey (rest.length + 1) rest
      let '=' :: rest := skipBlanks rest | none
      let (v, rest) ← value fuel (skipBlanks rest)
      let entries ← assign v keys entries
      match ← skipLines false rest with
      | ',' :: rest => members fuel rest entries
      | '\x7d' :: rest => some (entries, rest)
      | _ => none

end

/-- The name of a table in its header, with the brackets that close it. -/
def headerName (close cs : List Char) : Option (List String × List Char) := do
  let (keys, rest) ← dottedKey (cs.length + 1) cs
  let rest ← Text.after? close (skipBlanks rest)
  return (keys, ← endOfLine rest)

/-- The lines of a document. `here` is the name of the table they belong to. -/
def lines : (fuel : Nat) → (here : List String) → List Char → List (String × Toml) →
    Option (List (String × Toml))
  | 0, _, _, _ => none
  | fuel + 1, here, cs, root => do
    match ← skipLines false cs with
    | [] => some root
    | '[' :: '[' :: rest =>
      let (name, rest) ← headerName "]]".toList rest
      let key ← name.getLast?
      lines fuel name rest (← descend (openElement key) name.dropLast root)
    | '[' :: rest =>
      let (name, rest) ← headerName "]".toList rest
      let key ← name.getLast?
      lines fuel name rest (← descend (openTable key) name.dropLast root)
    | rest =>
      let (keys, rest) ← dottedKey (rest.length + 1) rest
      let '=' :: rest := skipBlanks rest | none
      let rest := skipBlanks rest
      let (v, rest) ← value (2 * rest.length + 2) rest
      lines fuel here (← endOfLine rest) (← descend (assign v keys) here root)

/-- Reads a document: the entries of its outermost table. A byte order mark is passed over. -/
def parse (text : String) : Option (List (String × Toml)) :=
  let cs := match text.toList with
    | '\uFEFF' :: cs => cs
    | cs => cs
  lines (cs.length + 1) [] cs []

end Toml

end RenderPlan.Format
