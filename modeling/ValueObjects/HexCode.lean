import ValueObjects.Text.Hex

namespace ValueObjects

structure HexCode (count : Nat) where
  digits : List (Fin 16)
  length_eq : digits.length = count
  deriving DecidableEq

namespace HexCode

def digit? (c : Char) : Option (Fin 16) :=
  match Text.hexDigit? c with
  | some n => if h : n < 16 then some ⟨n, h⟩ else none
  | none => none

def read? (count : Nat) (text : List Char) : Option (HexCode count) :=
  match text.mapM digit? with
  | some digits => if h : digits.length = count then some ⟨digits, h⟩ else none
  | none => none

/-- The digits in lower case. -/
def text (code : HexCode count) : List Char :=
  code.digits.map fun digit => Nat.digitChar digit.val

end HexCode

abbrev DocumentId := HexCode 24

abbrev Uuid := HexCode 32

namespace Uuid

def groupLengths : List Nat := [8, 4, 4, 4, 12]

/-- Cuts a text into groups of the lengths, with one hyphen between two of them. -/
def groups? : List Nat → List Char → Option (List (List Char))
  | [], _ => none
  | [length], text => if text.length = length then some [text] else none
  | length :: lengths, text =>
    match text.drop length with
    | '-' :: rest => (groups? lengths rest).map (text.take length :: ·)
    | _ => none

def readHyphenated? (text : List Char) : Option Uuid :=
  (groups? groupLengths text).bind fun groups => HexCode.read? 32 groups.flatten

/-- What the form of a name begins with, in any case. -/
def namePrefix : List Char := "urn:uuid:".toList

/-- Reads an identifier: its digits with or without hyphens, between braces, or as a name. -/
def read? (text : List Char) : Option Uuid :=
  let start := text.take namePrefix.length
  match text with
  | '{' :: rest => if rest.getLast? == some '}' then readHyphenated? rest.dropLast else none
  | _ =>
    if start.map Char.toLower == namePrefix then readHyphenated? (text.drop namePrefix.length)
    else if text.length = 32 then HexCode.read? 32 text
    else readHyphenated? text

def layOut : List Nat → List Char → List Char
  | [], text => text
  | [_], text => text
  | length :: lengths, text => text.take length ++ '-' :: layOut lengths (text.drop length)

def text (uuid : Uuid) : List Char :=
  layOut groupLengths (HexCode.text uuid)

end Uuid

end ValueObjects
