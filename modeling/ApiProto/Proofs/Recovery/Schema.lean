/-
  Schemas that are read back from declarations.

  A `Schema` is what a text tells about the definition that it was written for: services with their
  calls, enumerations with their values, and messages with their fields, those of models first and
  the wrapper messages behind them.  Its declarations determine it (`Schema.eq_of_declarations_eq`):
  the headers tell the kinds apart, the brackets the names in a call, and the last spaces in a
  numbered line its number and the name before it.
-/
import ApiProto.Proofs.Identifiers
import ApiProto.Proofs.Recovery.Blocks

namespace ApiProto.Proto

open Package (IsIdentifier)

/-! ## Schemas -/

/-- Services with their calls, enumerations with their values, and messages with their fields, each
a name of a type and a name of its own. -/
structure Schema where
  services : List (String × List Rpc)
  enums : List (String × List String)
  messages : List (String × List (String × String))
  deriving DecidableEq, Repr

/-- The message of a model. -/
def modelMessage (m : String × Model) : String × List (String × String) :=
  (m.1, m.2.entries.map fun p => (typeName p.2, p.1))

/-- The message of a wrapper. -/
def wrapperMessage (w : Wrapper) : String × List (String × String) :=
  (w.name, [(w.kind.name, "value")])

namespace Schema

/-- What is declared for a definition: its services, enumerations and models in their order, and the
wrapper messages behind the models. -/
def ofDefinition (d : Definition) (deduplicate : Bool) : Schema where
  services := (sortedServices d).map fun s => (s.1, s.2.map Rpc.ofOperation)
  enums := sortedEnums d
  messages := (sortedModels d).map modelMessage
    ++ (wrapperGroups (sortedServices d) deduplicate).flatten.map wrapperMessage

end Schema

/-- Lines of texts with their numbers. -/
def numberedLines (first : Nat) (texts : List String) : List String :=
  (texts.zipIdx first).map fun t => t.1 ++ " = " ++ toString t.2 ++ ";"

/-! ## Declarations of a schema -/

def serviceDeclaration (s : String × List Rpc) : Declaration :=
  ⟨"service " ++ s.1, s.2.map Rpc.line⟩

def enumDeclaration (e : String × List String) : Declaration :=
  ⟨"enum " ++ e.1, numberedLines 0 e.2⟩

def messageDeclaration (m : String × List (String × String)) : Declaration :=
  ⟨"message " ++ m.1, numberedLines 1 (m.2.map fun f => f.1 ++ " " ++ f.2)⟩

namespace Schema

/-- The declarations of a schema, one behind the other. -/
def declarations (s : Schema) : List Declaration :=
  s.services.map serviceDeclaration ++ (s.enums.map enumDeclaration
    ++ s.messages.map messageDeclaration)

end Schema

/-- What a file declares for a definition is its schema. -/
theorem declarations_ofDefinition (d : Definition) (package : String) (deduplicate : Bool) :
    (Document.ofDefinition d package deduplicate).declarations
      = (Schema.ofDefinition d deduplicate).declarations := by
  have hmodel (m : String × Model) :
      ⟨"message " ++ m.1, (fieldsOf m.2).map Field.line⟩ = messageDeclaration (modelMessage m) := by
    simp [messageDeclaration, modelMessage, numberedLines, fieldsOf, List.zipIdx_map, Field.line]
  have hwrapper (w : Wrapper) : ⟨"message " ++ w.name, [w.kind.name ++ " value = 1;"]⟩
      = messageDeclaration (wrapperMessage w) := by
    have hvalue : " value = 1;" = " " ++ ("value" ++ (" = " ++ (toString 1 ++ ";"))) := by decide
    simp only [messageDeclaration, wrapperMessage, numberedLines, List.map_cons, List.map_nil,
      List.zipIdx_cons, List.zipIdx_nil, String.append_assoc, hvalue]
  simp only [Document.declarations, Document.ofDefinition, Schema.declarations, Schema.ofDefinition,
    List.map_append, List.map_map, Function.comp_def, hmodel, hwrapper, List.append_assoc,
    serviceDeclaration]
  rfl

/-! ## Plain schemas -/

/-- The names of a call are identifiers. -/
structure Rpc.Plain (r : Rpc) : Prop where
  name : IsIdentifier r.name.toList
  request : IsIdentifier r.request.toList
  response : ∀ response ∈ r.response, IsIdentifier response.toList

/-- All names are identifiers, but those of types, in which no line break stands. -/
structure Schema.Plain (schema : Schema) : Prop where
  services : ∀ s ∈ schema.services, IsIdentifier s.1.toList ∧ ∀ r ∈ s.2, r.Plain
  enums : ∀ e ∈ schema.enums, IsIdentifier e.1.toList ∧ ∀ value ∈ e.2, IsIdentifier value.toList
  messages : ∀ m ∈ schema.messages,
    IsIdentifier m.1.toList ∧ ∀ f ∈ m.2, '\n' ∉ f.1.toList ∧ IsIdentifier f.2.toList

/-! ## Lines of members -/

/-- What stands behind the message that a call takes. -/
def Rpc.answer (r : Rpc) : String :=
  match r.response with
  | some response => "(" ++ response ++ ") \x7b\x7d"
  | none => "\x7b\x7d"

theorem Rpc.toList_line (r : Rpc) : r.line.toList = "rpc ".toList ++ (r.name.toList
    ++ '(' :: (r.request.toList ++ ')' :: (" returns ".toList ++ r.answer.toList))) := by
  have hreturns : ") returns ".toList = ')' :: " returns ".toList := by decide
  show ("rpc " ++ r.name ++ "(" ++ r.request ++ ") returns " ++ r.answer).toList = _
  simp only [String.toList_append, hreturns, List.append_assoc, List.cons_append]
  rfl

theorem Rpc.response_eq_of_answer_eq {r r' : Rpc} (h : r.answer = r'.answer) :
    r.response = r'.response := by
  obtain ⟨name, request, response⟩ := r
  obtain ⟨name', request', response'⟩ := r'
  have hne : ∀ x : String, "(" ++ x ++ ") \x7b\x7d" ≠ "\x7b\x7d" := fun x hx => by
    simpa using congrArg (fun s => '(' ∈ s.toList) hx
  cases response with
  | none =>
      cases response' with
      | none => rfl
      | some x => exact absurd h.symm (hne x)
  | some x =>
      cases response' with
      | none => exact absurd h (hne x)
      | some y =>
          have hbracketed := (String.append_left_inj _).mp h
          exact congrArg some ((String.append_right_inj _).mp hbracketed)

/-- The brackets in the line of a call tell its names apart. -/
theorem Rpc.eq_of_line_eq {r r' : Rpc} (h : r.Plain) (h' : r'.Plain) (heq : r.line = r'.line) :
    r = r' := by
  have hchars := congrArg String.toList heq
  rw [toList_line, toList_line] at hchars
  obtain ⟨hname, hbehind⟩ := append_mark_inj (h.name.notMem rfl) (h'.name.notMem rfl)
    (List.append_cancel_left hchars)
  obtain ⟨hrequest, hreturns⟩ :=
    append_mark_inj (h.request.notMem rfl) (h'.request.notMem rfl) hbehind
  have hanswer := String.toList_inj.mp (List.append_cancel_left hreturns)
  have hresponse := response_eq_of_answer_eq hanswer
  obtain ⟨name, request, response⟩ := r
  obtain ⟨name', request', response'⟩ := r'
  rw [Rpc.mk.injEq]
  exact ⟨String.toList_inj.mp hname, String.toList_inj.mp hrequest, hresponse⟩

theorem notMem_toString {c : Char} (hc : c.isDigit = false) (n : Nat) : c ∉ (toString n).toList := by
  intro hmem
  rw [show toString n = n.repr from rfl, Nat.toList_repr] at hmem
  have hdigit := Nat.isDigit_of_mem_toDigits (by decide) (by decide) hmem
  rw [hc] at hdigit
  exact Bool.false_ne_true hdigit

/-- The last space in a numbered line stands before its number. -/
theorem eq_of_numbered_eq {t t' : String} {n n' : Nat}
    (h : t ++ " = " ++ toString n ++ ";" = t' ++ " = " ++ toString n' ++ ";") : t = t' := by
  have hchars := congrArg String.toList ((String.append_left_inj _).mp h)
  have hsplit : ∀ (t : String) (n : Nat), (t ++ " = " ++ toString n).toList
      = (t.toList ++ [' ', '=']) ++ ' ' :: (toString n).toList := by
    intro t n
    simp [String.toList_append]
  -- the text itself may have spaces, the digits have none
  rw [hsplit, hsplit] at hchars
  obtain ⟨htext, -⟩ := append_last_mark_inj (notMem_toString rfl n) (notMem_toString rfl n') hchars
  exact String.toList_inj.mp (List.append_cancel_right htext)

theorem numberedLines_injective (first : Nat) : Function.Injective (numberedLines first) := by
  intro ts
  induction ts generalizing first with
  | nil =>
      intro ts' h
      cases ts' with
      | nil => rfl
      | cons t' ts' => simp [numberedLines] at h
  | cons t ts ih =>
      intro ts' h
      cases ts' with
      | nil => simp [numberedLines] at h
      | cons t' ts' =>
          obtain ⟨hline, hlines⟩ := List.cons.inj h
          have hfirst : t = t' := eq_of_numbered_eq hline
          have hrest : ts = ts' := ih (first + 1) hlines
          rw [hfirst, hrest]

/-- The last space in a field stands before its name. -/
theorem eq_of_field_eq {f f' : String × String} (h : ' ' ∉ f.2.toList) (h' : ' ' ∉ f'.2.toList)
    (heq : f.1 ++ " " ++ f.2 = f'.1 ++ " " ++ f'.2) : f = f' := by
  have hchars := congrArg String.toList heq
  simp only [String.toList_append, List.append_assoc] at hchars
  obtain ⟨htype, hname⟩ := append_last_mark_inj h h' hchars
  exact Prod.ext (String.toList_inj.mp htype) (String.toList_inj.mp hname)

/-! ## Schemas that are told apart -/

theorem eq_of_map_eq {α β : Type} {p : α → Prop} {f : α → β}
    (hf : ∀ a b, p a → p b → f a = f b → a = b) {as bs : List α} (ha : ∀ a ∈ as, p a)
    (hb : ∀ b ∈ bs, p b) (h : as.map f = bs.map f) : as = bs := by
  induction as generalizing bs with
  | nil => exact (List.map_eq_nil_iff.mp h.symm).symm
  | cons a as ih =>
      cases bs with
      | nil => cases h
      | cons b bs =>
          obtain ⟨ha, has⟩ := List.forall_mem_cons.mp ha
          obtain ⟨hb, hbs⟩ := List.forall_mem_cons.mp hb
          obtain ⟨hfirst, hrest⟩ := List.cons.inj h
          rw [hf a b ha hb hfirst, ih has hbs hrest]

/-- Two parts can be told apart if a class has all members of the first and none of the second. -/
theorem append_inj_of_class {α : Type} {p : α → Bool} {as as' bs bs' : List α} (ha : ∀ a ∈ as, p a)
    (ha' : ∀ a ∈ as', p a) (hb : ∀ b ∈ bs, ¬ p b) (hb' : ∀ b ∈ bs', ¬ p b)
    (h : as ++ bs = as' ++ bs') : as = as' ∧ bs = bs' := by
  have hfilter := congrArg (List.filter p) h
  rw [List.filter_append, List.filter_append, List.filter_eq_self.mpr ha,
    List.filter_eq_self.mpr ha', List.filter_eq_nil_iff.mpr hb, List.filter_eq_nil_iff.mpr hb',
    List.append_nil, List.append_nil] at hfilter
  rw [hfilter] at h
  exact ⟨hfilter, List.append_cancel_left h⟩

/-- Whether the header of a declaration begins with a character. -/
def Declaration.beginsWith (c : Char) (d : Declaration) : Bool := d.header.toList.head? == some c

theorem serviceDeclaration_inj {s s' : String × List Rpc} (h : ∀ r ∈ s.2, r.Plain)
    (h' : ∀ r ∈ s'.2, r.Plain) (heq : serviceDeclaration s = serviceDeclaration s') : s = s' := by
  obtain ⟨hheader, hmembers⟩ := Declaration.mk.inj heq
  exact Prod.ext ((String.append_right_inj _).mp hheader)
    (eq_of_map_eq (fun _ _ => Rpc.eq_of_line_eq) h h' hmembers)

theorem enumDeclaration_injective : Function.Injective enumDeclaration := by
  intro e e' heq
  obtain ⟨hheader, hmembers⟩ := Declaration.mk.inj heq
  exact Prod.ext ((String.append_right_inj _).mp hheader) (numberedLines_injective 0 hmembers)

theorem messageDeclaration_inj {m m' : String × List (String × String)}
    (h : ∀ f ∈ m.2, IsIdentifier f.2.toList) (h' : ∀ f ∈ m'.2, IsIdentifier f.2.toList)
    (heq : messageDeclaration m = messageDeclaration m') : m = m' := by
  obtain ⟨hheader, hmembers⟩ := Declaration.mk.inj heq
  have hfield : ∀ f f' : String × String, IsIdentifier f.2.toList → IsIdentifier f'.2.toList →
      f.1 ++ " " ++ f.2 = f'.1 ++ " " ++ f'.2 → f = f' := fun _ _ hf hf' =>
    eq_of_field_eq (hf.notMem rfl) (hf'.notMem rfl)
  exact Prod.ext ((String.append_right_inj _).mp hheader)
    (eq_of_map_eq hfield h h' (numberedLines_injective 1 hmembers))

theorem beginsWith_serviceDeclaration {c : Char} (s : String × List Rpc) :
    (serviceDeclaration s).beginsWith c ↔ 's' = c := by
  simp [serviceDeclaration, Declaration.beginsWith]

theorem beginsWith_enumDeclaration {c : Char} (e : String × List String) :
    (enumDeclaration e).beginsWith c ↔ 'e' = c := by
  simp [enumDeclaration, Declaration.beginsWith]

theorem beginsWith_messageDeclaration {c : Char} (m : String × List (String × String)) :
    (messageDeclaration m).beginsWith c ↔ 'm' = c := by
  simp [messageDeclaration, Declaration.beginsWith]

/-- The first letters of the headers tell services, enumerations and messages apart. -/
theorem Schema.declarations_inj {s s' : Schema} (heq : s.declarations = s'.declarations) :
    s.services.map serviceDeclaration = s'.services.map serviceDeclaration ∧
      s.enums.map enumDeclaration = s'.enums.map enumDeclaration ∧
      s.messages.map messageDeclaration = s'.messages.map messageDeclaration := by
  have hservices (s : Schema) : ∀ d ∈ s.services.map serviceDeclaration, d.beginsWith 's' :=
    List.forall_mem_map.mpr fun x _ => (beginsWith_serviceDeclaration x).mpr rfl
  have henums (s : Schema) : ∀ d ∈ s.enums.map enumDeclaration, d.beginsWith 'e' :=
    List.forall_mem_map.mpr fun x _ => (beginsWith_enumDeclaration x).mpr rfl
  have hmessages (s : Schema) : ∀ d ∈ s.messages.map messageDeclaration, ¬ d.beginsWith 'e' :=
    List.forall_mem_map.mpr fun x _ => mt (beginsWith_messageDeclaration x).mp (by decide)
  have htypes (s : Schema) : ∀ d ∈ s.enums.map enumDeclaration ++ s.messages.map messageDeclaration,
      ¬ d.beginsWith 's' := List.forall_mem_append.mpr
    ⟨List.forall_mem_map.mpr fun x _ => mt (beginsWith_enumDeclaration x).mp (by decide),
      List.forall_mem_map.mpr fun x _ => mt (beginsWith_messageDeclaration x).mp (by decide)⟩
  -- services first, then enumerations before messages in what is left
  obtain ⟨hS, hrest⟩ :=
    append_inj_of_class (hservices s) (hservices s') (htypes s) (htypes s') heq
  exact ⟨hS, append_inj_of_class (henums s) (henums s') (hmessages s) (hmessages s') hrest⟩

/-- A plain schema can be read back from its declarations. -/
theorem Schema.eq_of_declarations_eq {s s' : Schema} (h : s.Plain) (h' : s'.Plain)
    (heq : s.declarations = s'.declarations) : s = s' := by
  obtain ⟨hservices, henums, hmessages⟩ := declarations_inj heq
  have hS : s.services = s'.services :=
    eq_of_map_eq (fun _ _ => serviceDeclaration_inj) (fun x hx => (h.services x hx).2)
      (fun x hx => (h'.services x hx).2) hservices
  have hE : s.enums = s'.enums := List.map_injective_iff.mpr enumDeclaration_injective henums
  have hM : s.messages = s'.messages :=
    eq_of_map_eq (fun _ _ => messageDeclaration_inj) (fun x hx f hf => ((h.messages x hx).2 f hf).2)
      (fun x hx f hf => ((h'.messages x hx).2 f hf).2) hmessages
  obtain ⟨services, enums, messages⟩ := s
  obtain ⟨services', enums', messages'⟩ := s'
  rw [Schema.mk.injEq]
  exact ⟨hS, hE, hM⟩

/-! ## Legible declarations -/

theorem Rpc.Plain.legible {r : Rpc} (h : r.Plain) : Declaration.LegibleLine r.line := by
  have hanswer : '\n' ∉ r.answer.toList := by
    unfold answer
    split
    · rename_i response hresponse
      have hfree : '\n' ∉ response.toList := (h.response response hresponse).notMem rfl
      simp [hfree]
    · decide
  have hname : '\n' ∉ r.name.toList := h.name.notMem rfl
  have hrequest : '\n' ∉ r.request.toList := h.request.notMem rfl
  have hunbroken : '\n' ∉ r.line.toList := by
    rw [toList_line]
    simp [hname, hrequest, hanswer]
  have hbracket : '(' ∈ r.line.toList := by
    rw [toList_line]
    simp
  exact ⟨hunbroken, '(', hbracket, by decide, by decide⟩

theorem legible_numberedLines {first : Nat} {ts : List String} (h : ∀ t ∈ ts, '\n' ∉ t.toList) :
    ∀ l ∈ numberedLines first ts, Declaration.LegibleLine l := by
  refine List.forall_mem_map.mpr ?_
  rintro ⟨t, n⟩ ht
  have htext := h t (List.fst_mem_of_mem_zipIdx ht)
  have hnumber : '\n' ∉ (toString n).toList := notMem_toString rfl n
  have hline := newline_notMem_append (newline_notMem_append
    (newline_notMem_append htext (t := " = ") (by decide)) hnumber) (t := ";") (by decide)
  exact ⟨hline, '=', by simp, by decide, by decide⟩

/-- The declarations of a plain schema are legible. -/
theorem Schema.Plain.legible {s : Schema} (h : s.Plain) : ∀ d ∈ s.declarations, d.Legible := by
  have hservices : ∀ d ∈ s.services.map serviceDeclaration, d.Legible := by
    refine List.forall_mem_map.mpr fun x hx => ?_
    obtain ⟨hname, hcalls⟩ := h.services x hx
    exact ⟨newline_notMem_append (by decide) (hname.notMem rfl),
      List.forall_mem_map.mpr fun r hr => (hcalls r hr).legible⟩
  have henums : ∀ d ∈ s.enums.map enumDeclaration, d.Legible := by
    refine List.forall_mem_map.mpr fun x hx => ?_
    obtain ⟨hname, hvalues⟩ := h.enums x hx
    exact ⟨newline_notMem_append (by decide) (hname.notMem rfl),
      legible_numberedLines fun value hvalue => (hvalues value hvalue).notMem rfl⟩
  have hmessages : ∀ d ∈ s.messages.map messageDeclaration, d.Legible := by
    refine List.forall_mem_map.mpr fun x hx => ?_
    obtain ⟨hname, hfields⟩ := h.messages x hx
    have htexts : ∀ t ∈ x.2.map fun f => f.1 ++ " " ++ f.2, '\n' ∉ t.toList := by
      refine List.forall_mem_map.mpr fun f hf => ?_
      obtain ⟨htype, hfield⟩ := hfields f hf
      exact newline_notMem_append (newline_notMem_append htype (by decide)) (hfield.notMem rfl)
    exact ⟨newline_notMem_append (by decide) (hname.notMem rfl), legible_numberedLines htexts⟩
  exact List.forall_mem_append.mpr ⟨hservices, List.forall_mem_append.mpr ⟨henums, hmessages⟩⟩

end ApiProto.Proto
