import RenderPlan.Format.RonNumber

/-! Values of RON, the format of specification files, and the reader of their texts. A number
keeps its spelling, because what it may be depends on where it stands. -/
namespace RenderPlan.Format
open RonLexis RonNumber Text

inductive Ron
  | number (n : RonNumeral)
  /-- A range with the bounds that it has. -/
  | range (bounds : List RonNumeral)
  /-- A word alone: a case without parameters. -/
  | name (word : String)
  | text (s : String)
  | character (c : Char)
  | bytes
  /-- A pair of parentheses with nothing between. -/
  | unit
  /-- A value after the word `Some`, without parentheses. -/
  | present (value : Ron)
  | list (items : List Ron)
  | map (entries : List (Ron × Ron))
  | tuple (name : Option String) (items : List Ron)
  | record (name : Option String) (fields : List (String × Ron))

/-- The switches a text can turn on in front of its value. -/
structure RonExtensions where
  /-- A value that is present may do without `Some`, or without the parentheses behind it. -/
  implicitSome : Bool := false
  /-- A parameter that is itself a tuple is written without its own parentheses. -/
  unwrapParameters : Bool := false
  /-- A record is written with the name of its type. -/
  explicitNames : Bool := false

namespace Ron

def fieldName (cs : List Char) : Option (String × List Char) := do
  let (w, rest) ← word cs
  let ':' :: rest ← skip rest | none
  return (plain w, rest)

/-- What follows the two points of a range: its upper bound, which has to be there after an equals
sign. -/
def upper : List Char → Option (List RonNumeral × List Char)
  | '=' :: cs => (numeral cs).map fun (n, rest) => ([n], rest)
  | cs =>
    match numeral cs with
    | some (n, rest) => some ([n], rest)
    | none => some ([], cs)

def numeric : List Char → Option (Ron × List Char)
  | '.' :: '.' :: cs => (upper cs).map fun (bounds, rest) => (.range bounds, rest)
  | cs =>
    match numeral cs with
    | some (n, '.' :: '.' :: rest) =>
      (upper rest).map fun (bounds, rest) => (.range (n :: bounds), rest)
    | some (n, rest) => some (.number n, rest)
    | none => none

def atom (cs : List Char) : Option (Ron × List Char) :=
  match numeric cs, text? cs, cs with
  | some (v, rest), _, _ => some (v, rest)
  | none, some (s, rest), _ => some (.text s, rest)
  | none, none, '\'' :: cs => (character? cs).map fun (c, rest) => (.character c, rest)
  | none, none, 'b' :: cs => (bytes? cs).map fun rest => (.bytes, rest)
  | none, none, '(' :: ')' :: rest => some (.unit, rest)
  | none, none, _ => none

mutual

def value (e : RonExtensions) : (fuel : Nat) → List Char → Option (Ron × List Char)
  | 0, _ => none
  | fuel + 1, cs =>
    match atom cs, cs with
    | some (v, rest), _ => some (v, rest)
    | none, '(' :: rest => group e fuel none rest
    | none, '[' :: rest => (items e fuel ']' rest []).map fun (vs, rest) => (.list vs, rest)
    | none, '\x7b' :: rest => (entries e fuel rest []).map fun (es, rest) => (.map es, rest)
    | none, cs => do
      let (w, rest) ← word cs
      match ← skip rest with
      | '(' :: rest => group e fuel (some w) rest
      | rest =>
        if e.implicitSome ∧ w = "Some" then
          (value e fuel rest).map fun (v, rest) => (.present v, rest)
        else some (.name w, rest)

/-- What stands between parentheses, after the opening one: named fields, or values. -/
def group (e : RonExtensions) : (fuel : Nat) → Option String → List Char → Option (Ron × List Char)
  | 0, _, _ => none
  | fuel + 1, type, cs => do
    let rest ← skip cs
    match fieldName rest with
    | some _ => (fields e fuel rest []).map fun (fs, rest) => (.record type fs, rest)
    | none => (items e fuel ')' rest []).map fun (vs, rest) => (.tuple type vs, rest)

/-- The values up to a closing mark, with those read so far in reverse. -/
def items (e : RonExtensions) : (fuel : Nat) → (close : Char) → List Char → List Ron →
    Option (List Ron × List Char)
  | 0, _, _, _ => none
  | fuel + 1, close, cs, acc => do
    let c :: rest ← skip cs | none
    if c = close then some (acc.reverse, rest)
    else
      let (v, rest) ← value e fuel (c :: rest)
      let c :: rest ← skip rest | none
      if c = ',' then items e fuel close rest (v :: acc)
      else if c = close then some ((v :: acc).reverse, rest)
      else none

/-- The fields of a record up to its end, with those read so far in reverse. -/
def fields (e : RonExtensions) : (fuel : Nat) → List Char → List (String × Ron) →
    Option (List (String × Ron) × List Char)
  | 0, _, _ => none
  | fuel + 1, cs, acc => do
    let rest ← skip cs
    if rest.head? = some ')' then some (acc.reverse, rest.tail)
    else
      let (key, rest) ← fieldName rest
      let (v, rest) ← value e fuel (← skip rest)
      match ← skip rest with
      | ',' :: rest => fields e fuel rest ((key, v) :: acc)
      | ')' :: rest => some (((key, v) :: acc).reverse, rest)
      | _ => none

/-- The entries of a map up to its end, with those read so far in reverse. -/
def entries (e : RonExtensions) : (fuel : Nat) → List Char → List (Ron × Ron) →
    Option (List (Ron × Ron) × List Char)
  | 0, _, _ => none
  | fuel + 1, cs, acc => do
    let rest ← skip cs
    if rest.head? = some '\x7d' then some (acc.reverse, rest.tail)
    else
      let (k, rest) ← value e fuel rest
      let ':' :: rest ← skip rest | none
      let (v, rest) ← value e fuel (← skip rest)
      match ← skip rest with
      | ',' :: rest => entries e fuel rest ((k, v) :: acc)
      | '\x7d' :: rest => some (((k, v) :: acc).reverse, rest)
      | _ => none

end

/-! Documents -/

def enable (e : RonExtensions) : String → Option RonExtensions
  | "implicit_some" => some { e with implicitSome := true }
  | "unwrap_newtypes" => some e
  | "unwrap_variant_newtypes" => some { e with unwrapParameters := true }
  | "explicit_struct_names" => some { e with explicitNames := true }
  | _ => none

/-- The tokens of an attribute in order, blanks between them. -/
def expect : List String → List Char → Option (List Char)
  | [], cs => some cs
  | token :: tokens, cs => do expect tokens (← after? token.toList (← skip cs))

/-- The names an attribute enables, separated by commas. -/
def enabled : (fuel : Nat) → RonExtensions → List Char → Option (RonExtensions × List Char)
  | 0, _, _ => none
  | fuel + 1, e, cs => do
    let (w, rest) ← word (← skip cs)
    let e ← enable e (plain w)
    match ← skip rest with
    | ',' :: rest =>
      let rest ← skip rest
      if rest.head?.any isWordPart then enabled fuel e rest else some (e, rest)
    | rest => some (e, rest)

/-- A remark in an attribute: a text about the type or the schema of the value. -/
def remark (cs : List Char) : Option (List Char) := do
  let rest ← (after? "type".toList cs).or (after? "schema".toList cs)
  let (_, rest) ← text? (← skip (← expect ["="] rest))
  return rest

def attributes : (fuel : Nat) → RonExtensions → List Char → Option (RonExtensions × List Char)
  | 0, _, _ => none
  | fuel + 1, e, cs => do
    let rest ← skip cs
    if rest.head? = some '#' then
      let rest ← skip (← expect ["#", "!", "["] rest)
      match after? "enable".toList rest with
      | some rest =>
        let (e, rest) ← enabled fuel e (← expect ["("] rest)
        attributes fuel e (← expect [")", "]"] rest)
      | none => attributes fuel e (← expect ["]"] (← remark rest))
    else some (e, rest)

/-- Reads a text that holds one value. Every step takes at least one character, so the length bounds
the work. -/
def parse (text : String) : Option (RonExtensions × Ron) := do
  let cs := text.toList
  let (e, rest) ← attributes (cs.length + 1) {} cs
  let (v, rest) ← value e (3 * cs.length + 3) rest
  if (← skip rest) = [] then some (e, v) else none

end Ron

end RenderPlan.Format
