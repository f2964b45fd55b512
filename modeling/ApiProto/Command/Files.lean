/-
  Files and folders, as a value.

  A path is looked up component by component from the working folder or, if it starts with a slash,
  from the root.  `.` and empty components stand for the folder itself and `..` for the one above.
-/

namespace ApiProto.Command

/-- Why a file cannot be read or written. -/
inductive IoError where
  | notFound
  | notADirectory
  | isADirectory
  | nameTooLong
  | nulInName
  | invalidText
  | other (text : String)
  deriving DecidableEq, Repr

/-- The wording of the error. -/
def IoError.text : IoError → String
  | .notFound => "No such file or directory (os error 2)"
  | .notADirectory => "Not a directory (os error 20)"
  | .isADirectory => "Is a directory (os error 21)"
  | .nameTooLong => "File name too long (os error 36)"
  | .nulInName => "file name contained an unexpected NUL byte"
  | .invalidText => "stream did not contain valid UTF-8"
  | .other text => text

/-- What a path may lead to. -/
inductive Entry where
  | folder
  | file (content : ByteArray)
  /-- Reads as an empty text and keeps nothing of what is written to it. -/
  | sink

/-- Entries by the components of their absolute paths, and the working folder. -/
structure Files where
  working : List String
  entries : List (List String × Entry)

namespace Files

/-- The entry of an absolute path.  The folders above the working folder and above any entry are
there. -/
def entry? (fs : Files) (path : List String) : Option Entry :=
  match fs.entries.lookup path with
  | some e => some e
  | none =>
    if path.isPrefixOf fs.working || fs.entries.any fun e => path.isPrefixOf e.1 then some .folder
    else none

/-- The components of a path. -/
def components : List Char → List (List Char)
  | [] => [[]]
  | c :: rest =>
    if c = '/' then [] :: components rest
    else match components rest with
      | [] => [[c]]
      | s :: ss => (c :: s) :: ss

/-- The most bytes of a component. -/
def maxName : Nat := 255

/-- The most bytes of a path. -/
def maxPath : Nat := 4095

/-- Follows components from a folder.  The last one need not be there, unless a slash follows it.
`create` tells of an attempt to write: a slash after the last name then asks for a folder, which is
refused whatever the name leads to. -/
def follow (fs : Files) (create : Bool) :
    List String → List String → Except IoError (List String × Option Entry)
  | here, [] => .ok (here, some .folder)
  | here, name :: rest =>
    if name = "" ∨ name = "." then fs.follow create here rest
    else if name = ".." then fs.follow create here.dropLast rest
    else if create && !rest.isEmpty && rest.all (· == "") then .error .isADirectory
    else if maxName < name.utf8ByteSize then .error .nameTooLong
    else
      let path := here ++ [name]
      match fs.entry? path with
      | some .folder => fs.follow create path rest
      | some e => if rest = [] then .ok (path, some e) else .error .notADirectory
      | none => if rest = [] then .ok (path, none) else .error .notFound

/-- What a path leads to. -/
def find (fs : Files) (create : Bool) (path : String) :
    Except IoError (List String × Option Entry) :=
  if path.toList.contains (Char.ofNat 0) then .error .nulInName
  else if path = "" then .error .notFound
  else if maxPath < path.utf8ByteSize then .error .nameTooLong
  else
    let start := if path.toList.head? = some '/' then [] else fs.working
    fs.follow create start ((components path.toList).map String.ofList)

/-- Whether the path leads to a file. -/
def isFile (fs : Files) (path : String) : Bool :=
  match fs.find false path with
  | .ok (_, some (.file _)) => true
  | _ => false

/-- The text of a file. -/
def readText (fs : Files) (path : String) : Except IoError String :=
  match fs.find false path with
  | .error e => .error e
  | .ok (_, none) => .error .notFound
  | .ok (_, some .folder) => .error .isADirectory
  | .ok (_, some .sink) => .ok ""
  | .ok (_, some (.file content)) =>
    match String.fromUTF8? content with
    | some text => .ok text
    | none => .error .invalidText

/-- Sets the entry of an absolute path. -/
def setEntry (path : List String) (e : Entry) :
    List (List String × Entry) → List (List String × Entry)
  | [] => [(path, e)]
  | (p, e') :: rest => if p = path then (path, e) :: rest else (p, e') :: setEntry path e rest

/-- Writes a file. -/
def writeText (fs : Files) (path text : String) : Except IoError Files :=
  match fs.find true path with
  | .error e => .error e
  | .ok (_, some .folder) => .error .isADirectory
  | .ok (_, some .sink) => .ok fs
  | .ok (p, _) => .ok { fs with entries := setEntry p (.file text.toUTF8) fs.entries }

end Files

end ApiProto.Command
