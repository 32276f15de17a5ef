import DeclMacros.Meaning.Constant
import DeclMacros.Meaning.Struct
import DeclMacros.Meaning.Variant
import DeclMacros.Run
import DeclMacros.Token.Lexer

/-! # Sample declarations

    A few declarations with macros attached.  What the macros generate for them can be
    called, so that the generated code can be tried out on values. -/

set_option autoImplicit false

namespace DeclMacros

/-- A declaration with macros attached, as it is written. -/
structure Sample where
  source : String

namespace Sample

/-! ## The declarations -/

/-- A request, with a constructor and a builder. -/
def request : Sample where
  source := "#[auto_init] #[auto_builder] pub struct Request \x7b pub url: String, "
    ++ "pub body: Option<Vec<u8>>, #[default(30)] pub timeout: u32 \x7d"

/-- A cat with a constructor. -/
def cat : Sample where
  source := "#[auto_init] pub struct Cat \x7b pub age: u32, pub name: Option<String>, "
    ++ "pub soft: bool, #[default(true)] pub fuzzy: bool \x7d"

/-- A value with a type that is only mentioned. -/
def tagged : Sample where
  source := "#[auto_init(access = \"internal\")] pub struct Tagged<T> \x7b pub id: u64, "
    ++ "#[default(Vec::new())] pub labels: Vec<String>, _tag: PhantomData<T> \x7d"

/-- An owner with a test factory. -/
def owner : Sample where
  source := "#[auto_stub] pub struct Owner \x7b #[stub(\"Ana\".to_string())] pub name: String, "
    ++ "#[default(1)] pub pets: u32 \x7d"

/-- A cat with a test factory, which uses that of its owner. -/
def ownedCat : Sample where
  source := "#[auto_stub] pub struct Cat \x7b pub age: u32, "
    ++ "#[stub(\"Tom\".to_string())] pub name: String, pub nickname: Option<String>, "
    ++ "#[stub] pub owner: Owner, #[stub] pub vet: Option<Owner>, "
    ++ "#[default(true)] #[stub(false)] pub fuzzy: bool \x7d"

/-- A dog with a constructor and a test factory. -/
def dog : Sample where
  source := "#[auto_init] #[auto_stub] pub struct Dog \x7b pub age: u32, "
    ++ "#[default(true)] pub good: bool, #[stub(\"Rex\".to_string())] pub name: String \x7d"

/-- An address that is converted from a raw one. -/
def address : Sample where
  source := "#[auto_parse(from = AddressDto)] pub struct Address \x7b pub street: String, "
    ++ "pub city: String \x7d"

/-- A user that is converted from a raw one, with the addresses in it. -/
def user : Sample where
  source := "#[auto_parse(from = UserDto)] pub struct User \x7b pub name: String, pub age: u32, "
    ++ "#[auto_parseable] pub home: Option<Address>, #[auto_parseable] pub previous: Vec<Address>, "
    ++ "pub nickname: Option<String> \x7d"

/-- A response with accessors. -/
def response : Sample where
  source := "#[enum_properties] pub enum Response \x7b Success(String), "
    ++ "Failure \x7b code: u16, reason: String \x7d, NotModified \x7d"

/-- One of two values, with accessors. -/
def either : Sample where
  source := "#[enum_properties(access = \"internal\")] pub enum Either<L, R> \x7b Left(L), "
    ++ "Right(R) \x7d"

/-- Animals, with a wrapper for any of them. -/
def animal : Sample where
  source := "#[auto_type_erase] trait Animal \x7b #[property] fn name(&self) -> String; "
    ++ "#[property] fn legs(&self) -> u8; fn speak(&self, times: usize) -> String; "
    ++ "fn greet(&self, other: &str) -> String; async fn sleep(&self, hours: u32) -> u32; \x7d"

/-! ## What is generated -/

/-- The declaration. -/
def item? (s : Sample) : Option Item := do
  match (← Tokens.lex? s.source).readItem with
  | .ok item => some item
  | .error _ => none

/-- The declaration, if it is a structure. -/
def struct? (s : Sample) : Option StructDecl :=
  s.item?.bind fun
    | .struct declared => some declared
    | _ => none

theorem item?_of_struct? {s : Sample} {declared : StructDecl} (h : s.struct? = some declared) :
    s.item? = some (.struct declared) := by
  unfold struct? at h
  obtain ⟨item, hitem, hstruct⟩ := Option.bind_eq_some_iff.mp h
  rw [hitem]
  cases item with
  | struct d =>
      cases hstruct
      rfl
  | _ => cases hstruct

/-- The declaration, if it is an enumeration. -/
def enum? (s : Sample) : Option EnumDecl :=
  s.item?.bind fun
    | .enum declared => some declared
    | _ => none

/-- The declaration, if it is a trait. -/
def trait? (s : Sample) : Option TraitDecl :=
  s.item?.bind fun
    | .trait declared => some declared
    | _ => none

/-- All that is generated for the declaration. -/
def generated (s : Sample) : List Generated :=
  (s.item?.map Item.generated).getD []

/-- The generated constructor of a kind. -/
def constructor? (s : Sample) (kind : ConstructorKind) : Option Constructor :=
  s.generated.findSome? fun
    | .constructor c => if c.kind = kind then some c else none
    | _ => none

/-- The generated builder. -/
def builder? (s : Sample) : Option Builder :=
  s.generated.findSome? fun
    | .builder b => some b
    | _ => none

theorem mem_of_constructor? {s : Sample} {kind : ConstructorKind} {c : Constructor}
    (h : s.constructor? kind = some c) : .constructor c ∈ s.generated ∧ c.kind = kind := by
  obtain ⟨g, hg, hc⟩ := List.exists_of_findSome?_eq_some h
  cases g with
  | constructor d =>
      dsimp only at hc
      split at hc
      · next hkind =>
          cases hc
          exact ⟨hg, hkind⟩
      · cases hc
  | _ => cases hc

theorem mem_of_builder? {s : Sample} {b : Builder} (h : s.builder? = some b) :
    .builder b ∈ s.generated := by
  obtain ⟨g, hg, hb⟩ := List.exists_of_findSome?_eq_some h
  cases g with
  | builder d =>
      cases hb
      exact hg
  | _ => cases hb

/-- The generated conversion. -/
def conversion? (s : Sample) : Option Conversion :=
  s.generated.findSome? fun
    | .conversion c => some c
    | _ => none

/-- The generated accessors. -/
def accessors? (s : Sample) : Option Accessors :=
  s.generated.findSome? fun
    | .accessors a => some a
    | _ => none

/-- The generated wrapper. -/
def wrapper? (s : Sample) : Option Wrapper :=
  s.generated.findSome? fun
    | .wrapper w => some w
    | _ => none

/-- The setters that the constructors of the declaration come with. -/
def setters (s : Sample) : List Setter :=
  s.generated.flatMap fun
    | .constructor c => c.setters
    | _ => []

/-- The stored fields of the declaration with their types, by name. -/
def fields (s : Sample) : List (String × Ty) :=
  match s.item?.map Item.storedProperties with
  | some (.ok properties) => properties.filterMap fun p => do
    return ((← p.name).text, ← p.ty)
  | _ => []

/-- The name of the declared type. -/
def typeName (s : Sample) : String :=
  ((s.item?.bind Item.name?).map Ident.text).getD ""

/-- The structures that others mention, by name. -/
def ofType? (ty : Ty) : Option Sample :=
  [owner, address].find? fun s =>
    match ty with
    | .path p => p.isIdent s.typeName
    | _ => false

/-- What the code around the declarations means, where structures mention each other at most so
    deep. -/
def surroundingsWithin : Nat → Surroundings
  | 0 =>
    { constant := fun e => e.constant?.getD .absent, stubOf := fun _ => .absent,
      convert := fun _ v => v }
  | depth + 1 =>
    let inner := surroundingsWithin depth
    { constant := inner.constant
      stubOf := fun ty =>
        match (ofType? ty).bind (constructor? · .stub) with
        | some c => (c.call inner []).toOption.getD .absent
        | none => .absent
      convert := fun ty v =>
        match (ofType? ty).bind conversion? with
        | some c => (c.call inner v).toOption.getD v
        | none => v }

/-- What the code around the declarations means.  None of them is mentioned within another that is
    mentioned. -/
def surroundings : Surroundings := surroundingsWithin 1

/-! ## Trying it out -/

/-- The value before the first setter call and after each of them. -/
def states (setters : List Setter) (start : Value) :
    List (String × Value) → Except Halt (List Value)
  | [] => .ok [start]
  | (name, v) :: rest => do
    let next ← Setter.call setters name start v
    return start :: (← states setters next rest)

/-- A constructor call, then setter calls. -/
def constructed (s : Sample) (kind : ConstructorKind) (arguments : List Value)
    (calls : List (String × Value)) : Except Halt (List Value) := do
  match s.constructor? kind with
  | some c => states s.setters (← c.call surroundings arguments) calls
  | none => .error (.undefined kind.function)

/-- The builder after each setter call, built. -/
def built (s : Sample) (calls : List (String × Value)) :
    Except Halt (List (Except Halt Value)) := do
  match s.builder? with
  | some b =>
    return (← states b.setters (← b.start surroundings) calls).map (b.build surroundings)
  | none => .error (.undefined "builder")

/-- A raw value, converted. -/
def converted (s : Sample) (entry : Conversion.Entry) (raw : Value) : Except Halt Value :=
  match s.conversion? with
  | some c => c.enter surroundings entry raw
  | none => .error (.undefined "from_raw")

/-- The answers of all accessors on a value, in order: the checks, then the payloads. -/
def accessed (s : Sample) (v : Value) : List (String × Bool) × List (String × Option Value) :=
  match s.accessors? with
  | some a =>
    (a.variants.map fun access => (access.check.text, access.holds v),
      a.variants.filterMap fun access =>
        access.payload.map fun name => (name.text, access.payload? v))
  | none => ([], [])

end Sample

end DeclMacros
