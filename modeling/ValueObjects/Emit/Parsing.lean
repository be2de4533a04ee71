import ValueObjects.Emit.Subject

namespace ValueObjects.Emit

namespace Parsing

/-- How the payload is read from text. -/
def strategy (kind : Kind) (inner : List Token) : List Token :=
  match kind with
  | .string =>
    code ["let _ = culture; let value: ::std::string::String = ::std::string::ToString::to_string",
      parens ["text"], ";"]
  | .numeric _ =>
    code ["let value:", inner, "= ::valuegen::parse::number::<", inner, ">",
      parens ["text, culture"], "?", ";"]
  | .identifier =>
    code ["let value:", inner,
      "= ::valuegen::parse::identifier", parens ["text, culture"], "?", ";"]
  | .documentId =>
    code ["let _ = culture; let value:", inner, "= ::valuegen::parse::document_id",
      parens ["text"], "?", ";"]
  | .other =>
    code ["let value:", inner, "= <", inner,
      "as ::valuegen::parse::ParsePayload>::parse_payload", parens ["text, culture"], "?", ";"]

end Parsing

def parsing (subject : Subject) : List Token :=
  let wrapper := subject.wrapper.tokens
  let value :=
    if subject.classification.nullable then
      code ["::core::option::Option::Some", parens ["value"]]
    else phrase "value"
  code [
    "impl ::valuegen::Parseable for", wrapper, braces [
      "fn try_parse_with", parens [
        "text: ::core::option::Option<&str>,",
        "culture: ::core::option::Option<&::valuegen::Culture>,"],
      "-> ::core::option::Option<Self>", braces [
        "let text = ::valuegen::parse::has_text", parens ["text"], "?", ";",
        Parsing.strategy subject.classification.kind subject.inner.tokens,
        "::core::option::Option::Some", parens [
          "<Self as ::valuegen::Value>::from_payload", parens [value]]]],
    "impl ::core::str::FromStr for", wrapper, braces [
      "type Err = ::valuegen::ParseValueError;",
      "fn from_str", parens ["text: &str"],
      "-> ::core::result::Result<Self, Self::Err>", braces [
        "<Self as ::valuegen::Parseable>::parse_with",
        parens ["text, ::core::option::Option::None"]]]]

end ValueObjects.Emit
