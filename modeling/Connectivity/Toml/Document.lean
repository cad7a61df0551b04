/-
  Connectivity.Toml.Document — a TOML document from its text. The text is read into lines (a key
  with its value, a table header, a header of an array of tables) and the lines are then placed
  into one table. A table may be defined once: a header may take up a table that was only implied
  by other headers, dotted keys may extend tables that dotted keys made, and nothing extends an
  inline table or a plain value.
-/

import Connectivity.Toml.Value
import Connectivity.Toml.Lexeme

namespace Connectivity.Toml

/-! ## Placing keys -/

/-- Changes the table at the end of a path and makes the tables on the way that are missing.
    `place` is told whether the table it changes was made by dotted keys. With `dotted` the path
    is that of a dotted key: it may not enter a table that has a header, and what it makes is
    dotted. Without, the path is that of a header and what it makes is implied. -/
def alterAt (dotted : Bool) (place : Bool → Rows → Option Rows) :
    List String → Bool → Rows → Option Rows
  | [], isDotted, rows => place isDotted rows
  | k :: ks, _, rows =>
    match rows.value? k with
    | none => do
      let inner ← alterAt dotted place ks dotted []
      return rows ++ [(k, .table (if dotted then .dotted else .implied) inner)]
    | some (.table origin inner) =>
      if origin = .inline ∨ (dotted ∧ origin = .header) then none
      else do
        let inner ← alterAt dotted place ks (origin == .dotted) inner
        return rows.replace k (.table origin inner)
    | some (.tables items) => do
      let inner ← alterAt dotted place ks false (items.getLast?.getD [])
      return rows.replace k (.tables (items.dropLast ++ [inner]))
    | some _ => none

/-- Splits a key into the path to its table and its last part. -/
def splitLast (parts : List String) : List String × String :=
  (parts.dropLast, parts.getLast?.getD "")

/-- Adds a key with its value. A key is added once, and a table is filled either by plain keys
    or by dotted ones. -/
def addKey (parts : List String) (v : Value) (rows : Rows) : Option Rows :=
  let (path, last) := splitLast parts
  alterAt true
    (fun isDotted rows =>
      if isDotted == path.isEmpty || (rows.value? last).isSome then none
      else some (rows ++ [(last, v)]))
    path false rows

/-! ## Values -/

/-- The values of an array after its opening bracket. -/
def items (item : Reader Value) : Nat → Reader (List Value)
  | 0, _ => none
  | fuel + 1, cs =>
    match skipBlank (cs.length + 1) cs with
    | ']' :: rest => some ([], rest)
    | cs => do
      let (v, rest) ← item cs
      match skipBlank (rest.length + 1) rest with
      | ',' :: rest =>
        let (vs, rest) ← items item fuel rest
        return (v :: vs, rest)
      | ']' :: rest => return ([v], rest)
      | _ => none

/-- The keys and values of an inline table, of which there is at least one. -/
def pairs (item : Reader Value) : Nat → Rows → Reader Rows
  | 0, _, _ => none
  | fuel + 1, rows, cs => do
    let (parts, rest) ← key cs
    let rest ← character '=' rest
    let (v, rest) ← item (skipSpace rest)
    let rows ← addKey parts v rows
    match skipSpace rest with
    | ',' :: rest => pairs item fuel rows rest
    | '}' :: rest => return (rows, rest)
    | _ => none

/-- A number or a date-time. -/
def numeric : Reader Value := fun cs =>
  match dateTime cs with
  | some (_, rest) => some (.dateTime, rest)
  | none =>
    match float cs with
    | some (_, rest) => some (.float, rest)
    | none => (integer cs).map (fun read => (.integer read.1, read.2))

/-- A value in which arrays and inline tables nest less deep than `depth`. -/
def value : Nat → Reader Value
  | 0, _ => none
  | depth + 1, cs =>
    match cs with
    | '"' :: _ => (string cs).map (fun read => (.text read.1, read.2))
    | '\'' :: _ => (string cs).map (fun read => (.text read.1, read.2))
    | '[' :: rest =>
      if depth = 0 then none
      else (items (value depth) (rest.length + 1) rest).map (fun read => (.array read.1, read.2))
    | '\x7b' :: rest =>
      if depth = 0 then none
      else
        match skipSpace rest with
        | '\x7d' :: rest => some (.table .inline [], rest)
        | rest =>
          (pairs (value depth) (rest.length + 1) [] rest).map
            (fun read => (.table .inline read.1, read.2))
    | 't' :: 'r' :: 'u' :: 'e' :: rest => some (.boolean true, rest)
    | 'f' :: 'a' :: 'l' :: 's' :: 'e' :: rest => some (.boolean false, rest)
    | _ => numeric cs

/-! ## Lines -/

inductive Line where
  | pair (key : List String) (v : Value)
  | header (path : List String)
  | arrayHeader (path : List String)

/-- A header, from its opening bracket to the end of its line. -/
def headerLine : Reader Line := fun cs =>
  match cs with
  | '[' :: '[' :: rest => do
    let (path, rest) ← key rest
    let rest ← character ']' rest
    let rest ← character ']' rest
    let rest ← lineRest? rest
    return (.arrayHeader path, rest)
  | '[' :: rest => do
    let (path, rest) ← key rest
    let rest ← character ']' rest
    let rest ← lineRest? rest
    return (.header path, rest)
  | _ => none

/-- A key and its value, to the end of their line. -/
def pairLine : Reader Line := fun cs => do
  let (parts, rest) ← key cs
  let rest ← character '=' rest
  let (v, rest) ← value depthLimit (skipSpace rest)
  let rest ← lineRest? rest
  return (.pair parts v, rest)

/-- The lines of a text that say something. -/
def lines : Nat → List Char → Option (List Line)
  | 0, _ => none
  | fuel + 1, cs =>
    match skipSpace cs with
    | [] => some []
    | '#' :: rest => (lineRest? ('#' :: rest)).bind (lines fuel)
    | '\n' :: rest => lines fuel rest
    | '\r' :: rest => (newline? ('\r' :: rest)).bind (lines fuel)
    | '[' :: rest => do
      let (line, rest) ← headerLine ('[' :: rest)
      let more ← lines fuel rest
      return line :: more
    | cs => do
      let (line, rest) ← pairLine cs
      let more ← lines fuel rest
      return line :: more

/-! ## The document -/

/-- A document half read: the finished part, and the table that the lines now fill, with the path
    of its header and whether it is an item of an array of tables. -/
structure Draft where
  root : Rows := []
  path : List String := []
  isItem : Bool := false
  current : Rows := []

/-- The value at the end of a path. An array of tables stands for its last item. -/
def valueAt? : List String → Rows → Option Value
  | [], _ => none
  | [k], rows => rows.value? k
  | k :: ks, rows =>
    match rows.value? k with
    | some (.table _ inner) => valueAt? ks inner
    | some (.tables done) => valueAt? ks (done.getLast?.getD [])
    | _ => none

/-- Puts the current table in its place, over a table that was only implied. -/
def Draft.close (d : Draft) : Option Rows :=
  if d.path.isEmpty then some d.current
  else
    let (path, last) := splitLast d.path
    alterAt false
      (fun _ rows =>
        match d.isItem, rows.value? last with
        | true, none => some (rows ++ [(last, .tables [d.current])])
        | true, some (.tables done) => some (rows.replace last (.tables (done ++ [d.current])))
        | false, none => some (rows ++ [(last, .table .header d.current)])
        | false, some (.table .implied _) => some (rows.replace last (.table .header d.current))
        | _, _ => none)
      path false d.root

/-- Takes in one line. A header starts from what is in a table that earlier headers implied. -/
def Draft.add (d : Draft) : Line → Option Draft
  | .pair parts v => (addKey parts v d.current).map (fun rows => { d with current := rows })
  | .arrayHeader path => d.close.map (fun root => { root, path, isItem := true, current := [] })
  | .header path =>
    d.close.bind (fun root =>
      match valueAt? path root with
      | none => some { root, path, isItem := false, current := [] }
      | some (.table .implied rows) => some { root, path, isItem := false, current := rows }
      | some _ => none)

/-- A byte order mark may stand before the document. -/
def skipMark : List Char → List Char
  | '\ufeff' :: rest => rest
  | cs => cs

/-- The rows of the table that a document is. -/
def parse? (s : String) : Option Rows :=
  let cs := skipMark s.toList
  (lines (cs.length + 1) cs).bind (fun ls =>
    (ls.foldlM Draft.add ({} : Draft)).bind Draft.close)

end Connectivity.Toml
