import ValueObjects.Emit.Extension

namespace ValueObjects.Generation

open Emit

/-- Puts a descriptor into the group of its payload; groups are kept in the order of their
texts. -/
def insertMember (descriptor : Descriptor) :
    List (String × List Descriptor) → List (String × List Descriptor)
  | [] => [(descriptor.payload, [descriptor])]
  | (payload, members) :: rest =>
    match compare descriptor.payload payload with
    | .lt => (descriptor.payload, [descriptor]) :: (payload, members) :: rest
    | .eq => (payload, members ++ [descriptor]) :: rest
    | .gt => (payload, members) :: insertMember descriptor rest

def byPayload (descriptors : List Descriptor) : List (String × List Descriptor) :=
  descriptors.foldl (fun groups descriptor => insertMember descriptor groups) []

/-- The name of a payload among others: its simple name, or its full name if another payload has
the same simple name. -/
def groupName (payloads : List String) (payload : String) : String :=
  let simple := Naming.simpleName payload
  if payloads.countP (Naming.simpleName · == simple) > 1 then Naming.fullName payload else simple

def groups (descriptors : List Descriptor) : List Group :=
  let found := byPayload descriptors
  found.map fun (payload, members) => ⟨payload, groupName (found.map (·.1)) payload, members⟩

end ValueObjects.Generation
