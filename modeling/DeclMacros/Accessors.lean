import DeclMacros.Attachment
import DeclMacros.Code.Basic
import DeclMacros.Declaration
import DeclMacros.Name
import DeclMacros.Text.SnakeCase

/-! # Accessors for variants

    Each variant of an enumeration gets a check, and an accessor for its payload if it
    has fields.  A variant whose accessor names an earlier variant already uses is
    reported and gets none. -/

set_option autoImplicit false

namespace DeclMacros

/-- The names under which a variant is accessed. -/
structure VariantAccess where
  variant : Variant
  /-- The name of the check. -/
  check : Ident
  /-- The name of the payload accessor; none without fields. -/
  payload : Option Ident

namespace VariantAccess

/-- The accessors of a variant, named by its name in snake case. -/
def ofVariant (v : Variant) : Except Crash VariantAccess := do
  let snake := Text.snakeCase v.name.text
  let check ← Ident.escaped ("is_" ++ snake) v.name.span
  if v.fields.list.isEmpty then return ⟨v, check, none⟩
  else return ⟨v, check, some (← Ident.escaped snake v.name.span)⟩

/-- The names that the accessors take. -/
def names (a : VariantAccess) : List String :=
  (a.check :: a.payload.toList).map Ident.display

/-- The name to which the field at a position is bound. -/
def binding (i : Nat) : Ident := { text := "__" ++ toString i }

/-- The names to which the fields are bound. -/
def bindings (a : VariantAccess) : List Ident :=
  (List.range a.variant.fields.list.length).map binding

/-- The pattern of the variant, each field bound to a name. -/
inductive FieldPattern where
  | named (fields : List (Ident × Ident))
  | tuple (fields : List Ident)

/-- The pattern of the payload accessor. -/
def pattern (a : VariantAccess) : FieldPattern :=
  match a.variant.fields with
  | .named fields _ => .named ((fields.values.filterMap Field.name).zip a.bindings)
  | _ => .tuple a.bindings

/-- The path of the variant. -/
def path (a : VariantAccess) : Tokens :=
  .word "Self" :: Tokens.op "::" ++ [.ident a.variant.name]

/-- The tokens of the pattern. -/
def patternTokens (a : VariantAccess) : Tokens :=
  match a.pattern with
  | .named fields =>
    a.path ++ [.braces (Tokens.commaSeparated
      (fields.map fun (label, name) => typedName label [.ident name]))]
  | .tuple fields =>
    a.path ++ [.parens (Tokens.commaSeparated (fields.map fun name => [.ident name]))]

/-- The types of the payload, one for each field. -/
def payloadTypes (a : VariantAccess) : List Ty := a.variant.fields.list.map Field.ty

/-- The type that the payload accessor finds: a reference, or a tuple of references. -/
def payloadType (a : VariantAccess) : Tokens :=
  match a.payloadTypes with
  | [ty] => Tokens.op "&" ++ ty.tokens
  | tys => [.parens (Tokens.commaSeparated (tys.map fun ty => Tokens.op "&" ++ ty.tokens))]

/-- The value that the payload accessor finds. -/
def payloadValue (a : VariantAccess) : Tokens :=
  match a.bindings with
  | [name] => [.ident name]
  | names => [.parens (Tokens.commaSeparated (names.map fun name => [.ident name]))]

/-- The check. -/
def checkFunction (vis : Tokens) (a : VariantAccess) : Function where
  vis := vis
  name := a.check
  params := Tokens.op "&" ++ [.word "self"]
  output := [.word "bool"]
  body := Tokens.core ["matches"] ++ Tokens.op "!"
    ++ [.parens (.word "self" :: Tokens.op "," ++ a.path ++ [.braces (Tokens.op "..")])]

/-- The payload accessor. -/
def payloadFunction (vis : Tokens) (a : VariantAccess) (name : Ident) : Function where
  attrs := Tokens.attr [.word "allow", .parens [.word "unreachable_patterns"]]
  vis := vis
  name := name
  params := Tokens.op "&" ++ [.word "self"]
  output := Tokens.optionOf a.payloadType
  body :=
    [.word "match", .word "self", .braces (
      a.patternTokens ++ Tokens.op "=>" ++ Tokens.present a.payloadValue ++ Tokens.op ","
      ++ .word "_" :: Tokens.op "=>" ++ Tokens.absent ++ Tokens.op ",")]

/-- The functions of a variant. -/
def functions (vis : Tokens) (a : VariantAccess) : List Function :=
  a.checkFunction vis :: (a.payload.map (a.payloadFunction vis)).toList

end VariantAccess

/-- The generated accessors of an enumeration. -/
structure Accessors where
  target : Target
  vis : Tokens
  variants : List VariantAccess

namespace Accessors

/-- The functions in the order of the variants. -/
def functions (a : Accessors) : List Function :=
  a.variants.flatMap (VariantAccess.functions a.vis)

/-- The code of the accessors. -/
def tokens (a : Accessors) : Tokens :=
  a.target.implBlock (a.functions.flatMap Function.tokens)

/-- Keeps the variants whose names are free, in order; the others are reported. -/
def selectFree (taken : List String) : List VariantAccess → List VariantAccess × List Diagnostic
  | [] => ([], [])
  | a :: rest =>
    if a.names.any taken.contains then
      let (kept, clashes) := selectFree taken rest
      (kept, ⟨.duplicateAccessor, a.variant.name.span⟩ :: clashes)
    else
      let (kept, clashes) := selectFree (taken ++ a.names) rest
      (a :: kept, clashes)

/-- Expands the macro of accessors. -/
def expand (a : Attachment) (item : Item) : Except Crash (Expansion Accessors) :=
  match item with
  | .enum e =>
    if e.variants.isEmpty then .ok {}
    else do
      let all ← e.variants.values.mapM VariantAccess.ofVariant
      let (kept, clashes) := selectFree [] all
      return { items := [{ target := ⟨e.name, e.generics⟩, vis := item.resolveAccess a.access,
                           variants := kept }],
               diagnostics := clashes }
  | _ => .ok (.report ⟨.supportedTypes .accessors, .callSite⟩)

end Accessors

end DeclMacros
