import ValueObjects.Emit.Subject

namespace ValueObjects.Emit

def document (subject : Subject) : List Token :=
  let wrapper := subject.wrapper.tokens
  let payload := subject.payload.tokens
  let typeName := stringLiteral subject.typeName
  let own := code ["<Self as ::valuegen::Value>::payload", parens ["self"]]
  let wrapping := code [".map", parens ["<Self as ::valuegen::Value>::from_payload"]]
  code [
    "impl ::valuegen::serde::Serialize for", wrapper, braces [
      "fn serialize<S>", parens ["&self, serializer: S"],
      "-> ::core::result::Result<S::Ok, S::Error>",
      "where S: ::valuegen::serde::Serializer,", braces [
        "<", payload, "as ::valuegen::serde::Serialize>::serialize",
        parens [own, ", serializer,"]]],
    "impl<'de> ::valuegen::serde::Deserialize<'de> for", wrapper, braces [
      "fn deserialize<D>", parens ["deserializer: D"],
      "-> ::core::result::Result<Self, D::Error>",
      "where D: ::valuegen::serde::Deserializer<'de>,", braces [
        "<", payload, "as ::valuegen::serde::Deserialize<'de>>::deserialize",
        parens ["deserializer"], wrapping]],
    "impl ::valuegen::document::DocumentSerializer for", wrapper, braces [
      "fn to_bson", parens ["&self"],
      "-> ::core::result::Result<::valuegen::bson::Bson, ::valuegen::DocumentError>", braces [
        "::valuegen::document::payload_to_bson", parens [typeName, ",", own]],
      "fn from_bson", parens ["value: ::valuegen::bson::Bson,"],
      "-> ::core::result::Result<Self, ::valuegen::DocumentError>", braces [
        "::valuegen::document::payload_from_bson::<", payload, ">",
        parens [typeName, ", value"], wrapping]]]

/-- The function that registers the serializers of the wrappers, in order. -/
def registration (wrappers : List CratePath) : List Token :=
  let body :=
    if wrappers.isEmpty then phrase "let _ = registry;"
    else wrappers.flatMap fun wrapper =>
      code ["registry.register::<", wrapper.tokens, ">", parens [], ";"]
  let doc := "r\" Register the document serializer of every generated wrapper.\""
  code [
    "#", brackets ["doc =", [Token.literal doc]],
    "pub fn register_document_serializers",
    parens ["registry: &mut ::valuegen::document::SerializerRegistry"], braces [body]]

end ValueObjects.Emit
