import DeclMacros.Meaning.Struct
import DeclMacros.Proofs.Programs
import DeclMacros.Proofs.Quoting
import DeclMacros.Run

/-! # What is generated is a program

    Each thing that a macro generates is given as a program (`Generated.code`), and what
    is emitted for it are the tokens of that program (`Generated.tokens_eq_code`).

    The route: the value of a field in a literal is an expression with the same tokens
    (`FieldInit.tokens_eq_code`), so a literal is a literal of the program, and the
    functions of each thing follow one by one.  On the side of values, an expression has
    the value that its form has (`FieldInit.eval_code`), provided that the function in
    which it stands has the names that it uses; and so the functions of a constructor, of a
    builder and of a conversion return what these are said to compute. -/

set_option autoImplicit false

namespace DeclMacros

/-! ## Fields of literals -/

/-- The expression of a supplied value. -/
def Initial.code : Initial → Code
  | .given e => .given e
  | .absent => .absent
  | .stubOf ty => .stub ty
  | .presentStub inner => .present (.stub inner)

theorem Initial.tokens_eq_code (i : Initial) : i.tokens = i.code.tokens := by
  cases i <;> simp [tokens, code, Code.tokens, Tokens.underType, Tokens.absent, Tokens.present,
    Tokens.core]

theorem Initial.eval_code (s : Surroundings) (scope : Scope) (i : Initial) :
    i.code.eval s scope = .ok (i.eval s) := by
  cases i <;> rfl

/-- The parameter of conversions. -/
def rawName : Ident := { text := "raw" }

/-- The expression of a field value; a parameter is written in short. -/
def FieldValue.code? (name : Ident) : FieldValue → Option Code
  | .parameter => none
  | .initial i => some i.code
  | .phantom => some .phantom
  | .stored => some (.field .self name)
  | .required => some (.presentOr (.field .self name) (Text.literalQuoted name.display))
  | .raw => some (.field (.bound rawName) name)
  | .parsed ty => some (.parse ty (.field (.bound rawName) name))
  | .mapParsed inner => some (.mapParse (.field (.bound rawName) name) inner)

/-- The expression is printed as the value is. -/
theorem FieldValue.tokens_eq_code {name : Ident} {value : FieldValue} {c : Code}
    (h : value.code? name = some c) : value.tokens name = c.tokens := by
  cases value with
  | parameter => cases h
  | initial i =>
      cases h
      exact i.tokens_eq_code
  | _ =>
      cases h
      simp [tokens, tokens.rawField, Code.tokens, Code.parseTokens, Tokens.selfField,
        Tokens.present, Tokens.absent, Tokens.core, Tokens.parseOf, Tokens.underType, rawName,
        Token.word, Token.text, Token.ofLiteral]

/-- The field of the program for a field of a literal. -/
def FieldInit.code (f : FieldInit) : FieldCode := ⟨f.name, f.value.code? f.name⟩

theorem FieldInit.tokens_eq_code (f : FieldInit) : f.tokens = f.code.tokens := by
  obtain ⟨name, value⟩ := f
  -- only a parameter is written in short
  cases hcode : value.code? name with
  | none =>
      cases value with
      | parameter => rfl
      | _ => cases hcode
  | some c =>
      have hvalue := FieldValue.tokens_eq_code hcode
      cases value with
      | parameter => cases hcode
      | _ => simp [tokens, code, FieldCode.tokens, hcode, hvalue]

/-- A literal of the type itself, or of a type that is named. -/
theorem structLiteral_eq_code (ty : Option Ident) (fields : List FieldInit) :
    structLiteral (typeToken ty) fields
      = (LiteralCode.mk ty (fields.map FieldInit.code)).tokens := by
  simp [structLiteral, LiteralCode.tokens, Tokens.commaTerminated, List.flatMap_map,
    FieldInit.tokens_eq_code]

/-- The function in which a field value stands finds what the value is computed from. -/
def FieldValue.SeenIn (scope : Scope) (frame : Frame) : FieldValue → Prop
  | .parameter => scope.names = frame.parameters
  | .initial _ | .phantom => True
  | .stored | .required => scope.self = some frame.self
  | .raw | .parsed _ | .mapParsed _ => scope.names.lookup rawName.text = some frame.raw

section Values

variable {s : Surroundings} {scope : Scope} {frame : Frame}

theorem Scope.receiver_eq {v : Value} (h : scope.self = some v) : scope.receiver = .ok v := by
  rw [receiver, h]
  rfl

theorem Scope.valueOf_eq {name : Ident} {v : Value} (h : scope.names.lookup name.text = some v) :
    scope.valueOf name = .ok v := by
  rw [valueOf, h]
  rfl

/-- A field of an expression that has a value. -/
theorem Code.eval_field {c : Code} {v : Value} (h : c.eval s scope = .ok v) (name : Ident) :
    (Code.field c name).eval s scope = Halt.orUndefined name (v.field? name.text) := by
  rw [eval, h]
  rfl

/-- What has to be present in a field of the receiver. -/
theorem Code.eval_presentOr {self : Value} (hself : Code.self.eval s scope = .ok self)
    (name : Ident) :
    (Code.presentOr (.field .self name) (Text.literalQuoted name.display)).eval s scope
      = FieldValue.required.eval s { self := self } name := by
  rw [eval, eval_field hself, FieldValue.eval]
  cases self.field? name.text with
  | none => rfl
  | some v =>
      cases v with
      | absent =>
          -- the quoted name is read back, so it is the one that is reported
          simp only [Halt.orUndefined, bind, Except.bind, Literal.ofText_literalQuoted]
      | _ => rfl

/-- A field of the program has the value of the field of the literal. -/
theorem FieldInit.eval_code {f : FieldInit} (h : f.value.SeenIn scope frame) :
    f.code.eval s scope = f.eval s frame := by
  obtain ⟨name, value⟩ := f
  -- what is read from the receiver, and what from the raw value
  have hself (h : scope.self = some frame.self) : Code.self.eval s scope = .ok frame.self :=
    Scope.receiver_eq h
  have hraw (h : scope.names.lookup rawName.text = some frame.raw) :
      (Code.field (.bound rawName) name).eval s scope = FieldValue.eval.rawField frame name := by
    have hbound : (Code.bound rawName).eval s scope = .ok frame.raw := Scope.valueOf_eq h
    exact Code.eval_field hbound name
  have hvalue : ((value.code? name).getD (.bound name)).eval s scope
      = value.eval s frame name := by
    cases value with
    | parameter =>
        have hnames : scope.names = frame.parameters := h
        show Halt.orUndefined name (scope.names.lookup name.text) = _
        rw [hnames]
        rfl
    | initial i => exact i.eval_code s scope
    | phantom => rfl
    | stored => exact Code.eval_field (hself h) name
    | required => exact Code.eval_presentOr (hself h) name
    | raw => exact hraw h
    | parsed ty => exact congrArg (Except.map (s.parse ty)) (hraw h)
    | mapParsed inner =>
        exact congrArg (Except.map (Container.option.map (s.parse inner))) (hraw h)
  exact congrArg (Except.map fun v => (name.text, v)) hvalue

/-- A literal of the program makes the record of the literal. -/
theorem LiteralCode.eval_code {ty : Option Ident} {fields : List FieldInit} {name : Ident}
    (hname : scope.nameOf ty = name.text) (h : ∀ f ∈ fields, f.value.SeenIn scope frame) :
    (LiteralCode.mk ty (fields.map FieldInit.code)).eval s scope
      = literalValue s frame name fields := by
  have hfields : (fields.map FieldInit.code).mapM (FieldCode.eval s scope)
      = fields.mapM (FieldInit.eval s frame) := by
    induction fields with
    | nil => rfl
    | cons f fields ih =>
        rw [List.map_cons, List.mapM_cons, List.mapM_cons,
          FieldInit.eval_code (h f (List.mem_cons_self ..)),
          ih fun g hg => h g (List.mem_cons_of_mem f hg)]
  rw [eval, literalValue, hname, hfields]

/-- A field of the receiver is replaced by the value of an expression. -/
theorem Body.eval_replace {call : String → String → List Value → Except Halt Value} {self v : Value}
    {field : Ident} {c : Code} (hself : scope.self = some self) (hvalue : c.eval s scope = .ok v) :
    (Body.replace field c).eval s call scope = .ok (self.setField field.text v) := by
  rw [eval, Scope.receiver_eq hself, hvalue]
  rfl

end Values

/-! ## Functions -/

/-- The function as the parts that are printed. -/
def Method.function (m : Method) : Function where
  attrs := m.attrs.flatMap fun content => Tokens.op "#" ++ [.brackets content]
  vis := m.vis
  name := m.name
  params := Tokens.commaSeparated
    ((m.receiver.map ReceiverCode.tokens).toList ++ m.params.map Method.typed)
  output := m.output
  body := m.body.tokens

theorem Method.tokens_function (m : Method) : m.function.tokens = m.tokens := by
  simp [function, Function.tokens, tokens]

/-- What is printed function by function. -/
theorem Method.flatMap_tokens_function (ms : List Method) :
    (ms.map Method.function).flatMap Function.tokens = ms.flatMap Method.tokens := by
  rw [List.flatMap_map]
  exact congrArg (ms.flatMap ·) (funext Method.tokens_function)

/-- The function of a setter. -/
def Setter.method (vis : Tokens) (t : Setter) : Method where
  attrs := [[.word "must_use"]]
  vis := vis
  name := t.name
  receiver := some .mutable
  params := [(t.field, t.ty.tokens)]
  output := [.word "Self"]
  body := .replace t.field (if t.wraps then .present (.bound t.field) else .bound t.field)

theorem Setter.function_eq (vis : Tokens) (t : Setter) :
    t.function vis = (t.method vis).function := by
  cases hwraps : t.wraps <;>
    simp [function, method, Method.function, Method.typed, typedName, Body.tokens, Code.tokens,
      ReceiverCode.tokens, Tokens.commaSeparated, Tokens.attr, Tokens.selfField, Tokens.present,
      Tokens.core, hwraps]

/-- The function of a setter does what the setter does. -/
theorem Setter.call_method (s : Surroundings)
    (call : String → String → List Value → Except Halt Value) (type : String) (vis : Tokens)
    (t : Setter) (self v : Value) :
    (t.method vis).call s call type (some self) [v] = .ok (t.set self v) := by
  have hbound : (Code.bound t.field).eval s ⟨type, some self, [(t.field.text, v)]⟩ = .ok v :=
    Scope.valueOf_eq List.lookup_cons_self
  rw [Method.call, if_pos ⟨rfl, rfl⟩, set]
  refine Body.eval_replace rfl ?_
  cases t.wraps with
  | true => exact congrArg (Except.map Value.present) hbound
  | false => exact hbound

/-! ## Constructors -/

namespace Constructor

/-- The function of a constructor. -/
def method (c : Constructor) : Method where
  attrs := match c.kind with
    | .memberwise => [[.word "inline"]]
    | .stub => []
  vis := c.vis
  name := { text := c.kind.function }
  params := c.inputs.map fun p => (p.name, p.ty.tokens)
  output := [.word "Self"]
  body := .literal ⟨none, c.literal.map FieldInit.code⟩

/-- The functions of a constructor and its setters. -/
def methods (c : Constructor) : List Method :=
  c.method :: c.setters.map (Setter.method c.vis)

/-- The program of a constructor. -/
def code (c : Constructor) : Program := [.impl c.target c.methods]

theorem function_eq (c : Constructor) : c.function = c.method.function := by
  have hliteral := structLiteral_eq_code none c.literal
  -- the two kinds differ in the attribute and the name
  cases hkind : c.kind <;>
    simp [function, method, Method.function, Body.tokens, Tokens.attr, hkind, ← hliteral,
      typeToken, Parameter.inputTokens, inputs, Function.comp_def, Method.typed, typedName]

theorem tokens_eq_code (c : Constructor) : c.tokens = c.code.tokens := by
  have hmethods : c.function.tokens
      ++ (c.setters.map (Setter.function c.vis)).flatMap Function.tokens
      = c.methods.flatMap Method.tokens := by
    rw [← Method.flatMap_tokens_function, methods, List.map_cons, List.map_map, List.flatMap_cons,
      function_eq]
    congr 3
    exact funext (Setter.function_eq c.vis)
  simp [tokens, code, Program.tokens, Definition.tokens, Target.implBlock, Target.applied, hmethods]

/-- The function of a constructor makes what the constructor makes. -/
theorem call_method (s : Surroundings) (call : String → String → List Value → Except Halt Value)
    (c : Constructor) (arguments : List Value) :
    c.method.call s call c.target.name.text none arguments = c.call s arguments := by
  have hparams : c.method.params.length = c.inputs.length := List.length_map ..
  rw [Method.call, Constructor.call, hparams]
  by_cases hlength : arguments.length = c.inputs.length
  · rw [if_pos ⟨rfl, hlength⟩, if_pos hlength]
    refine LiteralCode.eval_code rfl ?_
    intro f hf
    rcases List.mem_append.mp hf with hparam | hphantom
    · obtain ⟨p, -, rfl⟩ := List.mem_map.mp hparam
      rw [Parameter.init]
      cases p.initial with
      | some i => trivial
      -- the arguments are bound to the names of the inputs, which is how the literal sees them
      | none => exact congrArg (List.zip · arguments) (List.map_map ..)
    · obtain ⟨name, -, rfl⟩ := List.mem_map.mp hphantom
      trivial
  · rw [if_neg fun h => hlength h.2, if_neg hlength]
    rfl

end Constructor

/-! ## Builders -/

namespace Builder

/-- The function that makes a new builder. -/
def newMethod (b : Builder) : Method where
  vis := b.vis
  name := { text := "new" }
  output := [.word "Self"]
  body := .literal ⟨none, b.initial.map FieldInit.code⟩

/-- The function that builds. -/
def buildMethod (b : Builder) : Method where
  vis := b.vis
  name := { text := "build" }
  receiver := some .owned
  output := Tokens.globalPath ["core", "result", "Result"] ++ Tokens.op "<"
    ++ (.ident b.target.name :: b.target.generics.argumentTokens) ++ Tokens.op ","
    ++ Tokens.globalPath ["brewery", "BuildError"] ++ Tokens.op ">"
  body := .success ⟨some b.target.name, b.built.map FieldInit.code⟩

/-- The functions of a builder. -/
def methods (b : Builder) : List Method :=
  b.newMethod :: b.setters.map (Setter.method b.vis) ++ [b.buildMethod]

/-- The function that makes the default builder. -/
def defaultMethod : Method where
  name := { text := "default" }
  output := [.word "Self"]
  body := .call none "new" []

/-- The function of the target that makes a builder. -/
def entryMethod (b : Builder) : Method where
  vis := b.vis
  name := { text := "builder" }
  output := .ident b.name :: b.target.generics.argumentTokens
  body := .call (some b.name) "new" []

/-- The program of a builder. -/
def code (b : Builder) : Program :=
  [.struct b.vis b.self b.declared, .impl b.self b.methods,
    .implTrait (Tokens.globalPath ["core", "default", "Default"]) b.self [] [defaultMethod],
    .impl b.target [b.entryMethod]]

theorem functions_eq (b : Builder) : b.functions = b.methods.map Method.function := by
  have hinitial := structLiteral_eq_code none b.initial
  have hbuilt := structLiteral_eq_code (some b.target.name) b.built
  simp [functions, methods, newMethod, buildMethod, Method.function, Body.tokens, ← hinitial,
    ← hbuilt, typeToken, Setter.function_eq, resultType, Target.applied, Tokens.core,
    ReceiverCode.tokens, Tokens.commaSeparated]

theorem defaultFunction_eq : defaultFunction = defaultMethod.function := by
  rfl

theorem entryFunction_eq (b : Builder) : b.entryFunction = b.entryMethod.function := by
  rfl

theorem tokens_eq_code (b : Builder) : b.tokens = b.code.tokens := by
  simp [tokens, code, Program.tokens, Definition.tokens, structTokens, Target.implBlock,
    Target.implTraitBlock, Target.applied, self, functions_eq, defaultFunction_eq,
    entryFunction_eq, Method.tokens_function, Tokens.core, Tokens.commaTerminated,
    List.flatMap_map, Method.typed, typedName]

section Calls

variable (s : Surroundings) (call : String → String → List Value → Except Halt Value) (b : Builder)

/-- The first function makes the builder that a run starts with. -/
theorem call_newMethod : b.newMethod.call s call b.name.text none [] = b.start s := by
  rw [Method.call, if_pos ⟨rfl, rfl⟩, start]
  refine LiteralCode.eval_code rfl ?_
  intro f hf
  rcases List.mem_append.mp hf with hfield | hphantom
  · obtain ⟨field, -, rfl⟩ := List.mem_map.mp hfield
    rw [BuilderField.init]
    cases field.slot <;> trivial
  · obtain ⟨name, -, rfl⟩ := List.mem_map.mp hphantom
    trivial

/-- The last function builds from its receiver. -/
theorem call_buildMethod (type : String) (self : Value) :
    b.buildMethod.call s call type (some self) [] = b.build s self := by
  rw [Method.call, if_pos ⟨rfl, rfl⟩, build]
  refine LiteralCode.eval_code rfl ?_
  intro f hf
  rcases List.mem_append.mp hf with hfield | hphantom
  · obtain ⟨field, -, rfl⟩ := List.mem_map.mp hfield
    rw [BuilderField.built]
    cases field.isRequired <;> rfl
  · obtain ⟨name, -, rfl⟩ := List.mem_map.mp hphantom
    trivial

end Calls

end Builder

/-! ## Conversions -/

namespace Conversion

/-- The function that does the work. -/
def fromRaw (c : Conversion) : Method where
  vis := c.vis
  name := { text := "from_raw" }
  params := [(rawName, c.source.tokens)]
  output := [.word "Self"]
  body := .literal ⟨none, c.literal.map FieldInit.code⟩

/-- A function of this name that calls it. -/
def entry (c : Conversion) (name : String) : Method where
  attrs := [[.word "inline"]]
  name := { text := name }
  params := [(rawName, c.source.tokens)]
  output := [.word "Self"]
  body := .call none "from_raw" [rawName]

/-- The program of a conversion. -/
def code (c : Conversion) : Program :=
  [.impl c.target [c.fromRaw],
    .implTrait (Tokens.globalPath ["brewery", "AutoParseable"]) c.target
      ([.word "type", .word "Raw"] ++ Tokens.op "=" ++ c.source.tokens ++ Tokens.op ";")
      [c.entry "parse"],
    .implTrait (Tokens.globalPath ["core", "convert", "From"] ++ Tokens.op "<" ++ c.source.tokens
      ++ Tokens.op ">") c.target [] [c.entry "from"]]

theorem function_eq (c : Conversion) : c.function = c.fromRaw.function := by
  have hliteral := structLiteral_eq_code none c.literal
  simp [function, fromRaw, Method.function, Body.tokens, ← hliteral, typeToken, parameter,
    Tokens.commaSeparated, Method.typed, typedName, rawName]

theorem delegate_eq (c : Conversion) (name : String) :
    c.delegate name = (c.entry name).function := by
  simp [delegate, entry, Method.function, Body.tokens, typeToken, parameter, Tokens.attr,
    Tokens.commaSeparated, Method.typed, typedName, rawName, Token.word]

theorem tokens_eq_code (c : Conversion) : c.tokens = c.code.tokens := by
  simp [tokens, code, Program.tokens, Definition.tokens, Target.implBlock, Target.implTraitBlock,
    Target.applied, function_eq, delegate_eq, Method.tokens_function, Tokens.core]

/-- The value of a property is computed from the raw value. -/
theorem seenIn_of_conversion? {p : Property} {f : FieldInit} (h : p.conversion? = some f)
    {scope : Scope} {frame : Frame} (hraw : scope.names.lookup rawName.text = some frame.raw) :
    f.value.SeenIn scope frame := by
  unfold Property.conversion? at h
  cases hname : p.name with
  | none => rw [hname] at h; cases h
  | some name =>
      cases hty : p.ty with
      | none => rw [hname, hty] at h; cases h
      | some ty =>
          rw [hname, hty] at h
          rw [← Option.some.inj h]
          -- converted or not, the value is made from the field of the raw value
          cases p.recursiveParse with
          | false => exact hraw
          | true => cases ty.optionInner? <;> exact hraw

/-- The function that does the work converts as the conversion does, if its values are those
    of properties. -/
theorem call_fromRaw (s : Surroundings) (call : String → String → List Value → Except Halt Value)
    {c : Conversion} (hvalues : ∀ f ∈ c.values, ∃ p : Property, p.conversion? = some f)
    (raw : Value) :
    c.fromRaw.call s call c.target.name.text none [raw] = c.call s raw := by
  rw [Method.call, if_pos ⟨rfl, rfl⟩, Conversion.call]
  refine LiteralCode.eval_code rfl ?_
  intro f hf
  rcases List.mem_append.mp hf with hvalue | hphantom
  · obtain ⟨p, hp⟩ := hvalues f hvalue
    exact seenIn_of_conversion? hp List.lookup_cons_self
  · obtain ⟨name, -, rfl⟩ := List.mem_map.mp hphantom
    trivial

end Conversion

/-! ## Accessors -/

namespace VariantAccess

/-- The check. -/
def checkMethod (vis : Tokens) (a : VariantAccess) : Method where
  vis := vis
  name := a.check
  receiver := some .borrowed
  output := [.word "bool"]
  body := .isVariant a.variant.name

/-- The payload accessor. -/
def payloadMethod (vis : Tokens) (a : VariantAccess) (name : Ident) : Method where
  attrs := [[.word "allow", .parens [.word "unreachable_patterns"]]]
  vis := vis
  name := name
  receiver := some .borrowed
  output := Tokens.globalPath ["core", "option", "Option"] ++ Tokens.op "<"
    ++ .tupleOf (a.variant.fields.list.map fun f => Tokens.op "&" ++ f.ty.tokens) ++ Tokens.op ">"
  body := .select a.variant.name a.pattern a.bindings

/-- The functions of a variant. -/
def methods (vis : Tokens) (a : VariantAccess) : List Method :=
  a.checkMethod vis :: (a.payload.map (a.payloadMethod vis)).toList

/-- A payload has one reference for each declared field, in order. -/
theorem payloadType_eq (a : VariantAccess) :
    a.payloadType = .tupleOf (a.variant.fields.list.map fun f => Tokens.op "&" ++ f.ty.tokens) := by
  rw [payloadType, payloadTypes]
  rcases a.variant.fields.list with _ | ⟨f, _ | ⟨f', rest⟩⟩
  · rfl
  · rfl
  · simp [Tokens.tupleOf, Function.comp_def]

/-- What is found is put together from the bindings, in order. -/
theorem payloadValue_eq (a : VariantAccess) :
    a.payloadValue = .tupleOf (a.bindings.map fun name => [.ident name]) := by
  rw [payloadValue]
  rcases a.bindings with _ | ⟨b, _ | ⟨b', rest⟩⟩ <;> rfl

theorem patternTokens_eq (a : VariantAccess) :
    a.patternTokens = DeclMacros.patternTokens a.variant.name a.pattern := by
  rw [VariantAccess.patternTokens]
  cases a.pattern <;> simp [DeclMacros.patternTokens, path, typedName]

theorem functions_eq (vis : Tokens) (a : VariantAccess) :
    a.functions vis = (a.methods vis).map Method.function := by
  have hcheck : a.checkFunction vis = (a.checkMethod vis).function := by
    simp [checkFunction, checkMethod, Method.function, Body.tokens, ReceiverCode.tokens,
      Tokens.commaSeparated, path, Tokens.core]
  have hpayload : a.payloadFunction vis = fun name => (a.payloadMethod vis name).function := by
    funext name
    simp [payloadFunction, payloadMethod, Method.function, Body.tokens, ReceiverCode.tokens,
      Tokens.commaSeparated, Tokens.attr, Tokens.optionOf, Tokens.present, Tokens.absent,
      Tokens.core, payloadType_eq, payloadValue_eq, patternTokens_eq]
  rw [functions, methods, hcheck, hpayload]
  cases a.payload <;> rfl

end VariantAccess

namespace Accessors

/-- The functions of all variants. -/
def methods (g : Accessors) : List Method := g.variants.flatMap (VariantAccess.methods g.vis)

/-- The program of accessors. -/
def code (g : Accessors) : Program := [.impl g.target g.methods]

theorem functions_eq (g : Accessors) : g.functions = g.methods.map Method.function := by
  rw [functions, methods, List.map_flatMap]
  exact congrArg (g.variants.flatMap ·) (funext (VariantAccess.functions_eq g.vis))

theorem tokens_eq_code (g : Accessors) : g.tokens = g.code.tokens := by
  simp [tokens, code, Program.tokens, Definition.tokens, Target.implBlock, Target.applied,
    functions_eq, Method.flatMap_tokens_function]

end Accessors

/-! ## All that is generated -/

/-- The program of what is generated. -/
def Generated.code : Generated → Program
  | .constructor c => c.code
  | .builder b => b.code
  | .conversion c => c.code
  | .accessors a => a.code
  | .wrapper w => [.other w.tokens]

/-- **What is emitted is a program.**  The tokens of all that is generated are those of its
    program. -/
theorem Generated.tokens_eq_code (g : Generated) : g.tokens = g.code.tokens := by
  cases g with
  | constructor c => exact c.tokens_eq_code
  | builder b => exact b.tokens_eq_code
  | conversion c => exact c.tokens_eq_code
  | accessors a => exact a.tokens_eq_code
  | wrapper w => exact (List.append_nil _).symm

namespace MacroStep

/-- The program that a step generates. -/
def code (step : MacroStep) : Program :=
  match step.applied.outcome with
  | .ok e => e.items.flatMap Generated.code
  | .error _ => []

/-- The reports of a step. -/
def reports (step : MacroStep) : Tokens :=
  match step.applied.outcome with
  | .ok e => e.diagnostics.flatMap Diagnostic.tokens
  | .error fault => compileError fault.message

/-- A step emits the item that is left, its program and its reports. -/
theorem tokens_eq_code (step : MacroStep) :
    step.applied.tokens = step.applied.item.tokens ++ (step.code.tokens ++ step.reports) := by
  rw [Applied.tokens, code, reports]
  cases step.applied.outcome with
  | error fault => rfl
  | ok e =>
      have hitems : (e.items.map Generated.tokens).flatten
          = Program.tokens (e.items.flatMap Generated.code) := by
        rw [Program.tokens, List.flatMap_assoc, ← List.flatMap_def]
        exact congrArg (e.items.flatMap ·) (funext Generated.tokens_eq_code)
      show _ ++ ((e.items.map Generated.tokens).flatten ++ _) = _
      rw [hitems]
      rfl

end MacroStep

/-- The program that all macros of an item generate. -/
def Item.code (item : Item) : Program := item.generated.flatMap Generated.code

/-- It is the program of the steps. -/
theorem Item.code_eq {item : Item} {steps : List MacroStep} (h : item.steps = .ok steps) :
    item.code = steps.flatMap MacroStep.code := by
  rw [code, generated, h, List.flatMap_assoc]
  refine congrArg (steps.flatMap ·) (funext fun step => ?_)
  rw [MacroStep.code]
  cases step.applied.outcome <;> rfl

/-- The run of an item emits a program: each step emits the item that is left, a part of the
    program and reports. -/
def Item.EmitsProgram (item : Item) (p : Program) : Prop :=
  ∃ steps, item.steps = .ok steps ∧ p = steps.flatMap MacroStep.code ∧ ∀ step ∈ steps,
    step.applied.tokens = step.applied.item.tokens ++ (step.code.tokens ++ step.reports)

theorem Item.emitsProgram_code {item : Item} {steps : List MacroStep}
    (h : item.steps = .ok steps) : item.EmitsProgram item.code :=
  ⟨steps, h, Item.code_eq h, fun step _ => step.tokens_eq_code⟩

/-! ## Functions by type -/

namespace Program

theorem methods_flatMap {α : Type} (f : α → Program) (xs : List α) (type : String) :
    methods (xs.flatMap f) type = xs.flatMap fun x => (f x).methods type := by
  rw [methods, List.flatMap_assoc]
  rfl

end Program

theorem Constructor.methods_code {c : Constructor} {type : String}
    (h : c.target.name.text = type) : c.code.methods type = c.methods := by
  simp [code, Program.methods, h]

/-- The functions of a builder are those of its own type. -/
theorem Builder.methods_code {b : Builder} (h : b.name.text ≠ b.target.name.text) :
    b.code.methods b.name.text = b.methods := by
  simp [code, Program.methods, self, h.symm]

/-- For the type that it builds there is one more. -/
theorem Builder.methods_code_target {b : Builder} (h : b.name.text ≠ b.target.name.text) :
    b.code.methods b.target.name.text = [b.entryMethod] := by
  simp [code, Program.methods, self, h]

theorem Conversion.methods_code (c : Conversion) :
    c.code.methods c.target.name.text = [c.fromRaw] := by
  simp [code, Program.methods]

theorem Conversion.traitMethods_code (c : Conversion) :
    c.code.traitMethods c.target.name.text = [c.entry "parse", c.entry "from"] := by
  simp [code, Program.traitMethods]

theorem Accessors.methods_code (g : Accessors) :
    g.code.methods g.target.name.text = g.methods := by
  simp [code, Program.methods]

end DeclMacros
