import ValueObjects.Emit.Relational
import ValueObjects.Generation.Groups

namespace ValueObjects.Generation

open Emit

def converterNames (stem : String) : List String :=
  [stem ++ converterSuffix false, stem ++ converterSuffix true]

def groupNames (group : Group) : List String :=
  ["As" ++ group.name, Extension.traitName group]

def clashes (taken : List String) (stem : String) : Bool :=
  (converterNames stem).any taken.contains

/-- The stem with the first number from `n` on that is free. -/
def numbered (taken : List String) (stem : String) : Nat → Nat → String
  | 0, n => stem ++ toString n
  | fuel + 1, n =>
    let candidate := stem ++ toString n
    if clashes taken candidate then numbered taken stem fuel (n + 1) else candidate

def qualifiedStem (descriptor : Descriptor) : String :=
  Naming.namespaceName descriptor.scope? ++ Naming.upperCamel descriptor.typeName

/-- The stem that a wrapper gets if no name is taken: the type name if only one wrapper has it. -/
def preferredStem (descriptors : List Descriptor) (descriptor : Descriptor) : String :=
  if descriptors.countP (·.typeName == descriptor.typeName) > 1 then qualifiedStem descriptor
  else Naming.unraw descriptor.typeName

/-- The stem of a wrapper: the preferred one, else the qualified one, else a numbered one. Each
taken name rules out at most two numbers. -/
def chooseStem (descriptors : List Descriptor) (taken : List String) (descriptor : Descriptor) :
    String :=
  let preferred := preferredStem descriptors descriptor
  if clashes taken preferred then
    let qualified := qualifiedStem descriptor
    if clashes taken qualified then numbered taken qualified (2 * taken.length) 2 else qualified
  else preferred

def assignStems (descriptors : List Descriptor) (taken : List String) :
    List Descriptor → List ((Option String × String) × String)
  | [] => []
  | next :: rest =>
    let stem := chooseStem descriptors taken next
    (next.key, stem) :: assignStems descriptors (converterNames stem ++ taken) rest

def stems (descriptors : List Descriptor) (groups : List Group) :
    List ((Option String × String) × String) :=
  assignStems descriptors (groups.flatMap groupNames) descriptors

/-- The stem of a wrapper; a wrapper that has none keeps its name. Of several stems the last
counts. -/
def stemOf (stems : List ((Option String × String) × String)) (key : Option String × String) :
    String :=
  (stems.reverse.lookup key).getD key.2

end ValueObjects.Generation
