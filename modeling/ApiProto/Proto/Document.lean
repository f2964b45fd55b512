/-
  What a file declares, and the lines that declare it.

  A `Document` is the content of a file without its layout: services with the calls they offer,
  enumerations and messages with their numbered members, and the groups of wrapper messages.
  `Document.lines` puts its lines together part by part, without a writer: `block` frames the body
  of a declaration, and `spaced` sets parts apart by one empty line.
-/
import ApiProto.Proto.Order
import ApiProto.Proto.Signature
import ApiProto.Proto.TypeName
import ApiProto.Proto.Wrapper
import ApiProto.Proto.Writer

namespace ApiProto.Proto

/-! ## Content -/

/-- A call of a service: the message that it takes, and the one that it gives, if there is one. -/
structure Rpc where
  name : String
  request : String
  response : Option String
  deriving DecidableEq, Repr

/-- A field of a message. -/
structure Field where
  type : String
  name : String
  number : Nat
  deriving DecidableEq, Repr

/-- What a file declares. -/
structure Document where
  package : String
  services : List (String × List Rpc)
  enums : List (String × List (String × Nat))
  messages : List (String × List Field)
  wrappers : List (List Wrapper)
  deriving DecidableEq, Repr

/-- The call of an operation. -/
def Rpc.ofOperation (o : Operation) : Rpc := ⟨o.name, requestType o, returnType o⟩

/-- The fields of a model, numbered from one. -/
def fieldsOf (m : Model) : List Field :=
  (m.entries.zipIdx 1).map fun ((property, type), number) => ⟨typeName type, property, number⟩

/-- What the file of a definition declares; enumeration values are numbered from zero. -/
def Document.ofDefinition (d : Definition) (package : String) (deduplicate : Bool) : Document where
  package := package
  services := (sortedServices d).map fun (name, operations) => (name, operations.map Rpc.ofOperation)
  enums := (sortedEnums d).map fun (name, values) => (name, values.zipIdx)
  messages := (sortedModels d).map fun (name, model) => (name, fieldsOf model)
  wrappers := wrapperGroups (sortedServices d) deduplicate

/-! ## Layout -/

/-- A line of a body, indented unless it is empty. -/
def bodyLine (width : Nat) (line : String) : String :=
  if line = "" then "" else Writer.spaces width ++ line

/-- The lines of a block: its header with a brace, its body, and a brace. -/
def block (width : Nat) (header : String) (body : List String) : List String :=
  (header ++ " \x7b") :: (body.map (bodyLine width) ++ ["\x7d"])

/-- The lines of parts, with an empty line between one part and the next. -/
def spaced (parts : List (List String)) : List String := [""].intercalate parts

/-- The line that declares a call. -/
def Rpc.line (r : Rpc) : String :=
  "rpc " ++ r.name ++ "(" ++ r.request ++ ") returns " ++
    match r.response with
    | some response => "(" ++ response ++ ") \x7b\x7d"
    | none => "\x7b\x7d"

/-- The line that declares a field. -/
def Field.line (f : Field) : String := f.type ++ " " ++ f.name ++ " = " ++ toString f.number ++ ";"

/-- The block of a service: its calls, with empty lines between them. -/
def serviceBlock (width : Nat) (s : String × List Rpc) : List String :=
  block width ("service " ++ s.1) (spaced (s.2.map fun r => [r.line]))

/-- The block of an enumeration. -/
def enumBlock (width : Nat) (e : String × List (String × Nat)) : List String :=
  block width ("enum " ++ e.1) (e.2.map fun (value, number) => value ++ " = " ++ toString number ++ ";")

/-- The block of a message. -/
def messageBlock (width : Nat) (m : String × List Field) : List String :=
  block width ("message " ++ m.1) (m.2.map Field.line)

/-- The block of a wrapper message. -/
def wrapperBlock (width : Nat) (m : Wrapper) : List String :=
  block width ("message " ++ m.name) [m.kind.name ++ " value = 1;"]

namespace Document

/-- Whether an enumeration or a message of a model is declared. -/
def hasTypes (doc : Document) : Bool := !doc.enums.isEmpty || !doc.messages.isEmpty

/-- The sections of services, enumerations and messages; a section may be empty. -/
def sections (width : Nat) (doc : Document) : List (List String) :=
  [spaced (doc.services.map (serviceBlock width)),
    spaced (doc.enums.map (enumBlock width)),
    spaced (doc.messages.map (messageBlock width))]

/-- The lines of the groups of wrapper messages. -/
def wrapperLines (width : Nat) (doc : Document) : List String :=
  spaced (doc.wrappers.map fun group => group.flatMap (wrapperBlock width))

/-- The lines of a file: a header, the sections that are not empty, and the wrapper messages. -/
def lines (width : Nat) (doc : Document) : List String :=
  ["syntax = \"proto3\";", "", "package " ++ doc.package ++ ";", ""]
    ++ spaced ((doc.sections width).filter (!·.isEmpty))
    ++ (if doc.hasTypes || !doc.wrappers.isEmpty then [""] else [])
    ++ doc.wrapperLines width

/-- The text of a file: every line with a line break behind it. -/
def text (width : Nat) (doc : Document) : String :=
  String.join ((doc.lines width).map (· ++ "\n"))

end Document

end ApiProto.Proto
