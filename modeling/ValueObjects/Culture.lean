namespace ValueObjects

/-- A culture. Numbers are read by its decimal separator; its group separator is never accepted. -/
structure Culture where
  name : String
  decimalSeparator : Char
  groupSeparator : Char
  deriving DecidableEq, Repr

namespace Culture

def invariant : Culture := ⟨"", '.', ','⟩

def german : Culture := ⟨"de-DE", ',', '.'⟩

def known : List Culture := [
  ⟨"en", '.', ','⟩,
  ⟨"en-US", '.', ','⟩,
  ⟨"en-GB", '.', ','⟩,
  ⟨"ja-JP", '.', ','⟩,
  ⟨"zh-CN", '.', ','⟩,
  ⟨"de", ',', '.'⟩,
  ⟨"de-DE", ',', '.'⟩,
  ⟨"de-AT", ',', '.'⟩,
  ⟨"de-CH", '.', '\''⟩,
  ⟨"es", ',', '.'⟩,
  ⟨"es-ES", ',', '.'⟩,
  ⟨"it", ',', '.'⟩,
  ⟨"it-IT", ',', '.'⟩,
  ⟨"nl", ',', '.'⟩,
  ⟨"nl-NL", ',', '.'⟩,
  ⟨"pt-BR", ',', '.'⟩,
  ⟨"fr", ',', '\u202f'⟩,
  ⟨"fr-FR", ',', '\u202f'⟩,
  ⟨"ru", ',', '\u00a0'⟩,
  ⟨"ru-RU", ',', '\u00a0'⟩,
  ⟨"pl-PL", ',', '\u00a0'⟩]

def folded (name : String) : List Char :=
  name.toList.map Char.toLower

/-- The culture of the name, which may differ in the case of ASCII letters. -/
def ofName? (name : String) : Option Culture :=
  if name.isEmpty then some invariant
  else known.find? fun culture => folded culture.name == folded name

def isInvariant (culture : Culture) : Bool :=
  culture.name.isEmpty

/-- The text with a point for each decimal separator. -/
def normalize (culture : Culture) (text : List Char) : List Char :=
  text.map fun c => if c == culture.decimalSeparator then '.' else c

end Culture

end ValueObjects
