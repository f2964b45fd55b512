/-
  TOML documents: how keys and headers build up tables.

  A table is defined at most once.  A header may define a table that other headers have only implied;
  dotted keys may add to tables that dotted keys have made, in the same table, and to tables that
  headers have only implied, which no header can define from then on; nothing adds to an inline table
  or to an array that is written as a value.
-/
import ApiProto.Toml.Scan

namespace ApiProto.Toml

/-! ## Tables -/

/-- Replaces the value of a key, or appends it. -/
def setEntry (k : String) (v : Value) : Entries → Entries
  | [] => [(k, v)]
  | (k', v') :: rest => if k' = k then (k, v) :: rest else (k', v') :: setEntry k v rest

/-- Whether the path to a dotted key (`dotted`) or to a header may lead through a table. -/
def mayPass (dotted : Bool) : Origin → Bool
  | .inlined => false
  | .header => !dotted
  | .implied | .dotted => true

/-- How a table came to be, once the path to a dotted key (`dotted`) or to a header has led
through it. -/
def Origin.passed (dotted : Bool) : Origin → Origin
  | .implied => if dotted then .dotted else .implied
  | origin => origin

/-- Changes the table at the end of a path.  Tables that are not there yet are made, and an array of
tables stands for its last element. -/
def changeAt (dotted : Bool) (change : Origin → Entries → Option Entries) :
    List String → Origin → Entries → Option Entries
  | [], origin, es => change origin es
  | k :: path, _, es =>
    match es.lookup k with
    | none => do
      let origin := Origin.implied.passed dotted
      let inner ← changeAt dotted change path origin []
      some (setEntry k (.table origin inner) es)
    | some (.table origin inner) =>
      if mayPass dotted origin then do
        let origin := origin.passed dotted
        let inner ← changeAt dotted change path origin inner
        some (setEntry k (.table origin inner) es)
      else none
    | some (.tables elements) => do
      let last ← elements.getLast?
      let inner ← changeAt dotted change path .header last
      some (setEntry k (.tables (elements.dropLast ++ [inner])) es)
    | some _ => none

/-- Adds a key to a table, dotted if `path` leads to the table of the key. -/
def addKey (path : List String) (k : String) (v : Value) (origin : Origin) (es : Entries) :
    Option Entries :=
  changeAt (path ≠ [])
    (fun origin es =>
      if (origin = .dotted ∧ path = []) ∨ (origin ≠ .dotted ∧ path ≠ []) then none
      else if (es.lookup k).isSome then none
      else some (es ++ [(k, v)]))
    path origin es

/-- Defines a table by a header. -/
def openTable (path : List String) (k : String) (es : Entries) : Option Entries :=
  changeAt false
    (fun _ es =>
      match es.lookup k with
      | none => some (es ++ [(k, .table .header [])])
      | some (.table .implied inner) => some (setEntry k (.table .header inner) es)
      | some _ => none)
    path .header es

/-- Adds an element to an array of tables by a header. -/
def openElement (path : List String) (k : String) (es : Entries) : Option Entries :=
  changeAt false
    (fun _ es =>
      match es.lookup k with
      | none => some (es ++ [(k, .tables [[]])])
      | some (.tables elements) => some (setEntry k (.tables (elements ++ [[]])) es)
      | some _ => none)
    path .header es

/-! ## Values -/

/-- Reads the items of an array and the bracket behind them. -/
def readItems (item : List Char → Option (Value × List Char)) :
    List Char → List Char → Option (List Value × List Char)
  | [], _ => none
  | _ :: fuel, s =>
    match skipAll s with
    | ']' :: rest => some ([], rest)
    | s => do
      let (v, s) ← item s
      match skipAll s with
      | ',' :: rest => do
        let (vs, s) ← readItems item fuel rest
        some (v :: vs, s)
      | ']' :: rest => some ([v], rest)
      | _ => none

/-- Reads a key, the sign of equality and its value, with what `skip` skips around the sign. -/
def readPair (skip : List Char → List Char) (item : List Char → Option (Value × List Char))
    (s : List Char) : Option (List String × String × Value × List Char) := do
  let (path, k, s) ← readKey s
  let s ← expect '=' (skip s)
  let (v, s) ← item (skip s)
  some (path, k, v, s)

/-- Reads the keys of an inline table and the brace behind them, into the entries so far. -/
def readInline (item : List Char → Option (Value × List Char)) :
    List Char → Entries → List Char → Option (Entries × List Char)
  | [], _, _ => none
  | _ :: fuel, es, s =>
    match skipAll s with
    | '\x7d' :: rest => some (es, rest)
    | s => do
      let (path, k, v, s) ← readPair skipAll item s
      let es ← addKey path k v .header es
      match skipAll s with
      | ',' :: rest => readInline item fuel es rest
      | '\x7d' :: rest => some (es, rest)
      | _ => none

/-- Reads a value whose arrays and inline tables hold what `inner` reads. -/
def readValueWith (inner : Option (List Char → Option (Value × List Char))) (s : List Char) :
    Option (Value × List Char) :=
  match s, inner with
  | '[' :: rest, some item => do
    let (vs, s) ← readItems item rest rest
    some (.array vs, s)
  | '\x7b' :: rest, some item => do
    let (es, s) ← readInline item rest [] rest
    some (.table .inlined es, s)
  | '[' :: _, none => none
  | '\x7b' :: _, none => none
  | s, _ =>
    match s with
    | c :: _ =>
      if c = '"' ∨ c.toNat = 0x27 then do
        let (t, s) ← readString s
        some (.string t, s)
      else do
        let (token, s) := takeToken s
        let v ← readToken? token
        some (v, s)
    | [] => none

/-- Reads a value whose arrays and inline tables nest at most so deep. -/
def readValue : Nat → List Char → Option (Value × List Char)
  | 0 => readValueWith none
  | room + 1 => readValueWith (some (readValue room))

/-- How deep arrays and inline tables may nest. -/
def depthLimit : Nat := 80

/-! ## Documents -/

/-- The text behind the end of a line: blanks, a comment and the line break, unless the text ends. -/
def endLine (s : List Char) : Option (List Char) :=
  match skipComment s with
  | [] => some []
  | s => newline? s

/-- Reads a header: the path to its table, the name of the table, and the text behind it.  The first
bracket has been read, and `double` tells of a second one. -/
def readHeader (double : Bool) (s : List Char) : Option (List String × String × List Char) := do
  let (path, k, s) ← readKey s
  let s ← expect ']' s
  let s ← if double then expect ']' s else some s
  some (path, k, s)

/-- Reads lines into the document `root`, `header` being the path of the table that is open; `fuel`
is a text at least as long as what is left. -/
def readLinesInto : List Char → List String → Entries → List Char → Option Entries
  | [], _, root, s => if s = [] then some root else none
  | _ :: fuel, header, root, s =>
    match skipAll s with
    | [] => some root
    | '[' :: '[' :: rest => do
      let (path, k, s) ← readHeader true rest
      let root ← openElement path k root
      readLinesInto fuel (path ++ [k]) root (← endLine s)
    | '[' :: rest => do
      let (path, k, s) ← readHeader false rest
      let root ← openTable path k root
      readLinesInto fuel (path ++ [k]) root (← endLine s)
    | s => do
      let (path, k, v, s) ← readPair skipBlanks (readValue depthLimit) s
      let root ← changeAt false (addKey path k v) header .header root
      readLinesInto fuel header root (← endLine s)

/-- The document that a text holds.  A byte order mark may come first. -/
def read (source : String) : Option Entries :=
  let s := match source.toList with
    | c :: rest => if c.toNat = 0xFEFF then rest else c :: rest
    | [] => []
  readLinesInto s [] [] s

end ApiProto.Toml
