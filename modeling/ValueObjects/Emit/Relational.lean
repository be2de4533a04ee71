import ValueObjects.Emit.Subject

namespace ValueObjects.Emit

structure Converters where
  plain : String
  nullable : String
  deriving DecidableEq, Repr

def converterSuffix (nullable : Bool) : String :=
  if nullable then "NullableConverter" else "Converter"

def converterName (stem : String) (nullable : Bool) : Except Failure String :=
  identifier (stem ++ converterSuffix nullable) "converter name"

namespace Relational

def plainConverter (name : String) (path : String) (wrapper payload : List Token) : List Token :=
  let name := [Token.ident name]
  code [
    documented ("Column converter for `" ++ path ++ "`."),
    "pub struct", name, ";",
    "impl ::valuegen::relational::ValueConverter for", name, braces [
      "type Model =", wrapper, "; type Provider =", payload, "; const NULLABLE: bool = false;",
      inlined, "fn to_provider", parens ["model: &", wrapper], "->", payload, braces [
        "::core::clone::Clone::clone", parens [
          "<", wrapper, "as ::valuegen::Value>::payload", parens ["model"]]],
      inlined, "fn from_provider", parens ["provider:", payload], "->", wrapper, braces [
        "<", wrapper, "as ::valuegen::Value>::from_payload", parens ["provider"]]]]

def nullableConverter (name : String) (path : String) (wrapper payload : List Token) :
    List Token :=
  let name := [Token.ident name]
  code [
    documented ("Column converter for `Option<" ++ path ++ ">`."),
    "pub struct", name, ";",
    "impl ::valuegen::relational::ValueConverter for", name, braces [
      "type Model = ::core::option::Option<", wrapper, ">;",
      "type Provider = ::core::option::Option<", payload, ">;",
      "const NULLABLE: bool = true;",
      inlined, "fn to_provider", parens ["model: &::core::option::Option<", wrapper, ">"],
      "-> ::core::option::Option<", payload, ">", braces [
        "model.as_ref", parens [], ".map", parens ["|model|", braces [
          "::core::clone::Clone::clone", parens [
            "<", wrapper, "as ::valuegen::Value>::payload", parens ["model"]]]]],
      inlined, "fn from_provider", parens ["provider: ::core::option::Option<", payload, ">"],
      "-> ::core::option::Option<", wrapper, ">", braces [
        "provider.map", parens ["<", wrapper, "as ::valuegen::Value>::from_payload"]]]]

/-- What a database driver needs: the wrapper is stored as its payload is. -/
def column (wrapper payload : List Token) : List Token :=
  let own := code ["<Self as ::valuegen::Value>::payload", parens ["self"]]
  code [
    "impl<DB> ::valuegen::sqlx::Type<DB> for", wrapper,
    "where DB: ::valuegen::sqlx::Database,", payload, ": ::valuegen::sqlx::Type<DB>,", braces [
      "fn type_info", parens [], "-> <DB as ::valuegen::sqlx::Database>::TypeInfo", braces [
        "<", payload, "as ::valuegen::sqlx::Type<DB>>::type_info", parens []],
      "fn compatible", parens ["ty: &<DB as ::valuegen::sqlx::Database>::TypeInfo"],
      "-> bool", braces [
        "<", payload, "as ::valuegen::sqlx::Type<DB>>::compatible", parens ["ty"]]],
    "impl<'q, DB> ::valuegen::sqlx::Encode<'q, DB> for", wrapper,
    "where DB: ::valuegen::sqlx::Database,", payload, ": ::valuegen::sqlx::Encode<'q, DB>,",
    braces [
      "fn encode_by_ref", parens [
        "&self, buf: &mut <DB as ::valuegen::sqlx::Database>::ArgumentBuffer<'q>,"],
      "-> ::core::result::Result<::valuegen::sqlx::encode::IsNull,",
      "::valuegen::sqlx::error::BoxDynError>", braces [
        "<", payload, "as ::valuegen::sqlx::Encode<'q, DB>>::encode_by_ref",
        parens [own, ", buf,"]],
      "fn size_hint", parens ["&self"], "-> usize", braces [
        "<", payload, "as ::valuegen::sqlx::Encode<'q, DB>>::size_hint", parens [own]]],
    "impl<'r, DB> ::valuegen::sqlx::Decode<'r, DB> for", wrapper,
    "where DB: ::valuegen::sqlx::Database,", payload, ": ::valuegen::sqlx::Decode<'r, DB>,",
    braces [
      "fn decode", parens ["value: <DB as ::valuegen::sqlx::Database>::ValueRef<'r>,"],
      "-> ::core::result::Result<Self, ::valuegen::sqlx::error::BoxDynError>", braces [
        "<", payload, "as ::valuegen::sqlx::Decode<'r, DB>>::decode", parens ["value"],
        ".map", parens ["<Self as ::valuegen::Value>::from_payload"]]]]

end Relational

def convertersOf (stem : String) : Except Failure Converters := do
  let plain ← converterName stem false
  let nullable ← converterName stem true
  return ⟨plain, nullable⟩

def relational (subject : Subject) (converters : Converters) : List Token :=
  let wrapper := subject.wrapper.tokens
  let payload := subject.payload.tokens
  Relational.plainConverter converters.plain subject.typeName wrapper payload ++
  Relational.nullableConverter converters.nullable subject.typeName wrapper payload ++
  Relational.column wrapper payload

/-- A property of an entity and the name of the converter that it is registered with. -/
structure ConverterRow where
  converter : String
  property : String
  deriving DecidableEq, Repr

structure EntityConverters where
  entity : CratePath
  key : String
  rows : List ConverterRow

namespace EntityConverters

/-- The row of a property; `stem` is that of its wrapper's converters. -/
def row (stem : String) (property : Property) : Except Failure ConverterRow := do
  let converter ← converterName stem property.nullable
  let _ ← identifier property.name "property name"
  return ⟨converter, Naming.unraw property.name⟩

/-- The registration of the properties of one entity; none if there are no properties. -/
def of (stemOf : Property → String) (properties : List Property) :
    Except Failure (Option EntityConverters) := do
  match properties with
  | [] => return none
  | first :: _ =>
    let entity ← CratePath.of first.entityScope? first.entityName
    let rows ← properties.mapM fun property => row (stemOf property) property
    return some ⟨entity, first.entityPath, rows⟩

def rowTokens (row : ConverterRow) : List Token :=
  code [
    "registry.register::<", [Token.ident row.converter], ">", parens [
      "<Self as ::valuegen::relational::EntityConverters>::ENTITY,",
      stringLiteral row.property, ","],
    ";"]

def tokens (converters : EntityConverters) : List Token :=
  code [
    "impl ::valuegen::relational::EntityConverters for", converters.entity.tokens, braces [
      "const ENTITY: &'static str =", stringLiteral converters.key, ";",
      "fn register_converters",
      parens ["registry: &mut ::valuegen::relational::ConverterRegistry"], braces [
        converters.rows.flatMap rowTokens]]]

end EntityConverters

end ValueObjects.Emit
