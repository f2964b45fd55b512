/-
  Reading JSON texts as values of a wanted shape.

  A `Decoder` reads one value and stops at the first fault, be it one of the spelling or a value of
  the wrong kind: nothing behind that place is looked at.  Members of an object go through a rule
  that says by their name what to do with each (`MemberRule`): read it, skip it, or refuse it as
  repeated.  Skipped values are checked for their spelling only, and may nest without a limit;
  all others nest at most `depthLimit` deep.
-/
import ApiProto.Json.Scan

namespace ApiProto.Json

/-- Reads one value; the number says how deep containers may still nest. -/
abbrev Decoder (α : Type) := Nat → Cursor → Except Fault (α × Cursor)

/-- How deep arrays and objects may nest. -/
def depthLimit : Nat := 127

/-! ## Scalars -/

/-- Reads a value that is neither array nor object. -/
def readScalar (c : Cursor) : Except Fault (Json × Cursor) :=
  match c.rest with
  | [] => c.fail .endInValue
  | x :: rest =>
    if x = 'n' then do let c ← readWord "null".toList c; .ok (.null, c)
    else if x = 't' then do let c ← readWord "true".toList c; .ok (.bool true, c)
    else if x = 'f' then do let c ← readWord "false".toList c; .ok (.bool false, c)
    else if x = '-' ∨ x.isDigit then do let (n, c) ← readNumber c; .ok (.number n, c)
    else if x = '"' then do
      let (s, c) ← readString ⟨rest, c.offset + 1⟩
      .ok (.string s, c)
    else c.failNext .expectedValue

/-- The fault of a value of the wrong kind.  A scalar is read first, so a fault of its spelling
comes before. -/
def mismatch {α : Type} (expected : Expected) (c : Cursor) : Except Fault α :=
  match c.rest with
  | '[' :: _ => c.fail (.mismatch .sequence expected)
  | '\x7b' :: _ => c.fail (.mismatch .map expected)
  | _ => do
    let (v, c) ← readScalar c
    c.fail (.mismatch v.found expected)

/-! ## Arrays -/

/-- The place of the next item of an array, of which the first comes without a comma. -/
def itemStart (first : Bool) (c : Cursor) : Except Fault Cursor :=
  if first then .ok c
  else match c.rest with
    | ',' :: rest =>
      let c := (Cursor.mk rest (c.offset + 1)).skipBlanks
      match c.rest with
      | [] => c.fail .endInValue
      | ']' :: _ => c.failNext .trailingComma
      | _ => .ok c
    | _ => c.failNext .expectedCommaOrBracket

/-- Reads the items of an array and the bracket behind them; `fuel` is a text at least as long as
what is left. -/
def readItems {α : Type} (item : Cursor → Except Fault (α × Cursor)) :
    List Char → Bool → Cursor → Except Fault (List α × Cursor)
  | [], _, c => c.fail .endInArray
  | _ :: fuel, first, c =>
    let c := c.skipBlanks
    match c.rest with
    | [] => c.fail .endInArray
    | ']' :: rest => .ok ([], ⟨rest, c.offset + 1⟩)
    | _ => do
      let c ← itemStart first c
      let (v, c) ← item c
      let (vs, c) ← readItems item fuel false c
      .ok (v :: vs, c)

/-! ## Objects -/

/-- What to do with a member. -/
inductive MemberRule (σ : Type) where
  /-- Read its value into the state. -/
  | take (read : Cursor → Except Fault (σ × Cursor))
  /-- Pass over its value. -/
  | skip
  /-- Refuse it, for it has come before. -/
  | repeated

/-- The place behind the first quote of the next name, of which the first comes without a comma. -/
def nameStart (first : Bool) (c : Cursor) : Except Fault Cursor :=
  match c.rest with
  | '"' :: rest => if first then .ok ⟨rest, c.offset + 1⟩ else c.failNext .expectedCommaOrBrace
  | ',' :: rest =>
    if first then c.failNext .nameNotString
    else
      let c := (Cursor.mk rest (c.offset + 1)).skipBlanks
      match c.rest with
      | '"' :: rest => .ok ⟨rest, c.offset + 1⟩
      | [] => c.fail .endInValue
      | '\x7d' :: _ => c.failNext .trailingComma
      | _ => c.failNext .nameNotString
  | _ => c.failNext (if first then .nameNotString else .expectedCommaOrBrace)

/-- The place behind the colon that follows a name. -/
def readColon (c : Cursor) : Except Fault Cursor :=
  let c := c.skipBlanks
  match c.rest with
  | [] => c.fail .endInObject
  | ':' :: rest => .ok ⟨rest, c.offset + 1⟩
  | _ => c.failNext .expectedColon

/-- The place to which an object is read on when a member is refused: behind blanks and, if that is
what follows, the closing brace. -/
def afterRefusal (c : Cursor) : Cursor :=
  let c := c.skipBlanks
  match c.rest with
  | '\x7d' :: rest => ⟨rest, c.offset + 1⟩
  | _ => c

/-! ## Values that nobody asks for -/

/-- Skips the items of an array and the bracket behind them. -/
def skipItems (item : Cursor → Except Fault Cursor) :
    List Char → Bool → Cursor → Except Fault Cursor
  | [], _, c => c.fail .endInArray
  | _ :: fuel, first, c =>
    let c := c.skipBlanks
    match c.rest with
    | [] => c.fail .endInArray
    | ']' :: rest => .ok ⟨rest, c.offset + 1⟩
    | ',' :: rest =>
      if first then do
        let c ← item c
        skipItems item fuel false c
      else do
        let c ← item ⟨rest, c.offset + 1⟩
        skipItems item fuel false c
    | _ =>
      if first then do
        let c ← item c
        skipItems item fuel false c
      else c.failNext .expectedCommaOrBracket

/-- Skips a name, its colon and its value. -/
def skipMember (item : Cursor → Except Fault Cursor) (c : Cursor) : Except Fault Cursor :=
  let c := c.skipBlanks
  match c.rest with
  | [] => c.fail .endInObject
  | '"' :: rest => do
    let c ← skipString ⟨rest, c.offset + 1⟩
    let c ← readColon c
    item c
  | _ => c.failNext .nameNotString

/-- Skips the members of an object and the brace behind them. -/
def skipMembers (item : Cursor → Except Fault Cursor) :
    List Char → Bool → Cursor → Except Fault Cursor
  | [], _, c => c.fail .endInObject
  | _ :: fuel, first, c =>
    let c := c.skipBlanks
    match c.rest with
    | [] => c.fail .endInObject
    | '\x7d' :: rest => .ok ⟨rest, c.offset + 1⟩
    | ',' :: rest => do
      let c ← skipMember item (if first then c else ⟨rest, c.offset + 1⟩)
      skipMembers item fuel false c
    | _ =>
      if first then do
        let c ← skipMember item c
        skipMembers item fuel false c
      else c.failNext .expectedCommaOrBrace

/-- Skips a value; it nests at most as deep as `fuel` is long. -/
def skipNested : List Char → Cursor → Except Fault Cursor
  | [], c => c.fail .endInValue
  | _ :: fuel, c =>
    let c := c.skipBlanks
    match c.rest with
    | [] => c.fail .endInValue
    | x :: rest =>
      if x = 'n' then readWord "null".toList c
      else if x = 't' then readWord "true".toList c
      else if x = 'f' then readWord "false".toList c
      else if x = '-' ∨ x.isDigit then do let (_, c) ← scanNumber .badNumber c; .ok c
      else if x = '"' then skipString ⟨rest, c.offset + 1⟩
      else if x = '[' then
        skipItems (skipNested fuel) rest true ⟨rest, c.offset + 1⟩
      else if x = '\x7b' then
        skipMembers (skipNested fuel) rest true ⟨rest, c.offset + 1⟩
      else c.failNext .expectedValue

/-- Skips a value. -/
def skipValue (c : Cursor) : Except Fault Cursor := skipNested c.rest c

/-- Reads the members of an object, and the brace behind them, into a state. -/
def readMembers {σ : Type} (rule : σ → String → MemberRule σ) :
    List Char → Bool → σ → Cursor → Except Fault (σ × Cursor)
  | [], _, _, c => c.fail .endInObject
  | _ :: fuel, first, s, c =>
    let c := c.skipBlanks
    match c.rest with
    | [] => c.fail .endInObject
    | '\x7d' :: rest => .ok (s, ⟨rest, c.offset + 1⟩)
    | _ => do
      let c ← nameStart first c
      let (name, c) ← readString c
      match rule s name with
      | .repeated => (afterRefusal c).fail (.repeatedMember name)
      | .skip => do
        let c ← readColon c
        let c ← skipValue c
        readMembers rule fuel false s c
      | .take read => do
        let c ← readColon c
        let (s, c) ← read c
        readMembers rule fuel false s c

/-! ## Decoders -/

/-- Reads a container behind its first bracket, if it may still nest. -/
def readContainer {α : Type} (room : Nat) (c : Cursor)
    (inner : Nat → Cursor → Except Fault (α × Cursor)) : Except Fault (α × Cursor) :=
  match room with
  | 0 => c.failNext .tooDeep
  | room + 1 => inner room ⟨c.rest.tail, c.offset + 1⟩

/-- Reads an array. -/
def Decoder.list {α : Type} (item : Decoder α) : Decoder (List α) := fun room c =>
  let c := c.skipBlanks
  match c.rest with
  | [] => c.fail .endInValue
  | '[' :: _ => readContainer room c fun room c => readItems (item room) c.rest true c
  | _ => mismatch .sequence c

/-- Reads an object: its members by the rule, from a first state, and what they come to. -/
def Decoder.object {σ α : Type} (expected : Expected) (init : σ)
    (rule : Nat → σ → String → MemberRule σ) (finish : σ → Except Cause α) : Decoder α :=
  fun room c =>
    let c := c.skipBlanks
    match c.rest with
    | [] => c.fail .endInValue
    | '\x7b' :: _ => readContainer room c fun room c => do
      let (s, c) ← readMembers (rule room) c.rest true init c
      match finish s with
      | .ok v => .ok (v, c)
      | .error cause => c.fail cause
    | _ => mismatch expected c

/-- Reads an object with members of any name into a map. -/
def Decoder.dict {α : Type} (expected : Expected) (item : Decoder α) : Decoder (OrderedMap String α) :=
  Decoder.object expected OrderedMap.empty
    (fun room m name => .take fun c => do
      let (v, c) ← item room c
      .ok (m.insert name v, c))
    .ok

/-- Reads a string. -/
def Decoder.text : Decoder String := fun _ c =>
  let c := c.skipBlanks
  match c.rest with
  | [] => c.fail .endInValue
  | '"' :: rest => readString ⟨rest, c.offset + 1⟩
  | _ => mismatch .string c

/-- Reads null, or what the decoder reads. -/
def Decoder.optional {α : Type} (item : Decoder α) : Decoder (Option α) := fun room c =>
  let c := c.skipBlanks
  match c.rest with
  | 'n' :: _ => do let c ← readWord "null".toList c; .ok (none, c)
  | _ => do let (v, c) ← item room c; .ok (some v, c)

/-- Reads any value whose arrays and objects hold what `inner` reads. -/
def valueWith (inner : Option (Cursor → Except Fault (Json × Cursor))) (c : Cursor) :
    Except Fault (Json × Cursor) :=
  let c := c.skipBlanks
  match c.rest, inner with
  | '[' :: _, none | '\x7b' :: _, none => c.failNext .tooDeep
  | '[' :: rest, some item => do
    let (vs, c) ← readItems item rest true ⟨rest, c.offset + 1⟩
    .ok (.array vs, c)
  | '\x7b' :: rest, some item => do
    let rule := fun (ms : List (String × Json)) name => MemberRule.take fun c => do
      let (v, c) ← item c
      .ok (OrderedMap.insertEntry name v ms, c)
    let (ms, c) ← readMembers rule rest true [] ⟨rest, c.offset + 1⟩
    .ok (.object ms, c)
  | _, _ => readScalar c

/-- Reads any value. -/
def Decoder.value : Decoder Json
  | 0 => valueWith none
  | room + 1 => valueWith (some (Decoder.value room))

/-! ## Whole texts -/

/-- Reads a text that holds one value and blanks. -/
def decode {α : Type} (decoder : Decoder α) (s : String) : Except Fault α := do
  let (v, c) ← decoder depthLimit (Cursor.ofText s.toList)
  let c := c.skipBlanks
  if c.rest = [] then .ok v else c.failNext .trailingText

/-- The position at which a fault of a text was seen. -/
def Fault.position (fault : Fault) (s : String) : Text.Position :=
  Text.positionAfter s.toList fault.offset

end ApiProto.Json
