import ValueObjects.Emit.Subject

namespace ValueObjects.Emit

namespace Operators

def conversions (wrapper payload : List Token) : List Token :=
  code [
    "impl ::core::convert::From<", payload, "> for", wrapper, braces [
      inlined, "fn from", parens ["payload:", payload], "-> Self", braces [
        "<Self as ::valuegen::Value>::from_payload", parens ["payload"]]],
    "impl ::core::convert::From<", wrapper, "> for", payload, braces [
      inlined, "fn from", parens ["wrapper:", wrapper], "-> Self", braces [
        "<", wrapper, "as ::valuegen::Value>::into_payload", parens ["wrapper"]]]]

def equality (wrapper payload : List Token) : List Token :=
  code [
    "impl ::core::cmp::PartialEq<", payload, "> for", wrapper, braces [
      inlined, "fn eq", parens ["&self, other: &", payload], "-> bool", braces [
        "<Self as ::valuegen::Value>::payload", parens ["self"], "== other"]],
    "impl ::core::cmp::PartialEq<", wrapper, "> for", payload, braces [
      inlined, "fn eq", parens ["&self, other: &", wrapper], "-> bool", braces [
        "self == <", wrapper, "as ::valuegen::Value>::payload", parens ["other"]]]]

/-- A missing payload is written as nothing. -/
def displayBody (nullable : Bool) : List Token :=
  let own := code ["<Self as ::valuegen::Value>::payload", parens ["self"]]
  if nullable then
    code ["match", own, braces [
      "::core::option::Option::Some", parens ["value"],
      "=> ::core::fmt::Display::fmt", parens ["value, f"], ",",
      "::core::option::Option::None => ::core::result::Result::Ok", parens [parens []], ","]]
  else
    code ["::core::fmt::Display::fmt", parens [own, ", f"]]

def display (wrapper : List Token) (nullable : Bool) : List Token :=
  code [
    "impl ::core::fmt::Display for", wrapper, braces [
      "fn fmt", parens ["&self, f: &mut ::core::fmt::Formatter<'_>"],
      "-> ::core::fmt::Result", braces [displayBody nullable]]]

def orderingResult : List Token :=
  phrase "-> ::core::option::Option<::core::cmp::Ordering>"

def ordering (wrapper payload : List Token) : List Token :=
  let compare := phrase "::core::cmp::PartialOrd::partial_cmp"
  code [
    "impl ::core::cmp::PartialOrd for", wrapper, braces [
      inlined, "fn partial_cmp", parens ["&self, other: &Self"], orderingResult, braces [
        compare, parens [
          "<Self as ::valuegen::Value>::payload", parens ["self"], ",",
          "<Self as ::valuegen::Value>::payload", parens ["other"], ","]]],
    "impl ::core::cmp::PartialOrd<", payload, "> for", wrapper, braces [
      inlined, "fn partial_cmp", parens ["&self, other: &", payload], orderingResult, braces [
        compare, parens ["<Self as ::valuegen::Value>::payload", parens ["self"], ", other"]]],
    "impl ::core::cmp::PartialOrd<", wrapper, "> for", payload, braces [
      inlined, "fn partial_cmp", parens ["&self, other: &", wrapper], orderingResult, braces [
        compare, parens [
          "self, <", wrapper, "as ::valuegen::Value>::payload", parens ["other"]]]]]

/-- An operator between two wrappers, and between a wrapper and a payload in both orders; the
result is a wrapper. -/
def binary (wrapper payload op method combine : List Token) : List Token :=
  code [
    "impl", op, "for", wrapper, braces [
      "type Output =", wrapper, ";",
      inlined, "fn", method, parens ["self, rhs: Self"], "-> Self::Output", braces [
        "<Self as ::valuegen::Value>::from_payload", parens [combine, parens [
          "<Self as ::valuegen::Value>::into_payload", parens ["self"], ",",
          "<Self as ::valuegen::Value>::into_payload", parens ["rhs"], ","]]]],
    "impl", op, "<", payload, "> for", wrapper, braces [
      "type Output =", wrapper, ";",
      inlined, "fn", method, parens ["self, rhs:", payload], "-> Self::Output", braces [
        "<Self as ::valuegen::Value>::from_payload", parens [combine, parens [
          "<Self as ::valuegen::Value>::into_payload", parens ["self"], ", rhs,"]]]],
    "impl", op, "<", wrapper, "> for", payload, braces [
      "type Output =", wrapper, ";",
      inlined, "fn", method, parens ["self, rhs:", wrapper], "-> Self::Output", braces [
        "<", wrapper, "as ::valuegen::Value>::from_payload", parens [combine, parens [
          "self, <", wrapper, "as ::valuegen::Value>::into_payload", parens ["rhs"], ","]]]]]

def addition (wrapper payload : List Token) : List Token :=
  binary wrapper payload (phrase "::core::ops::Add") (phrase "add")
    (phrase "::valuegen::ops::Additive::plus")

def subtraction (wrapper payload : List Token) : List Token :=
  binary wrapper payload (phrase "::core::ops::Sub") (phrase "sub")
    (phrase "::valuegen::ops::Subtractive::minus")

end Operators

def operators (subject : Subject) : List Token :=
  let wrapper := subject.wrapper.tokens
  let payload := subject.payload.tokens
  let kind := subject.classification
  Operators.conversions wrapper payload ++ Operators.equality wrapper payload ++
  Operators.display wrapper kind.nullable ++
  (if kind.supportsOrdering then Operators.ordering wrapper payload else []) ++
  (if kind.supportsAddition then Operators.addition wrapper payload else []) ++
  (if kind.supportsSubtraction then Operators.subtraction wrapper payload else [])

end ValueObjects.Emit
