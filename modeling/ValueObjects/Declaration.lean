import ValueObjects.Ty

namespace ValueObjects

/-- What stands after the path of an attribute: nothing, a bracketed list, or a value, whose text
is kept if it is a single literal. -/
inductive AttributeBody where
  | word
  | list (tokens : List Token)
  | value (literal : Option String)

structure Attribute where
  rooted : Bool
  path : List String
  body : AttributeBody

def Attribute.isNamed (attr : Attribute) (name : String) : Bool :=
  !attr.rooted && attr.path == [name]

/-- A field; `isPrivate` if no visibility is written. -/
structure Field where
  isPrivate : Bool
  name : Option String
  ty : Ty

inductive Fields where
  | named (fields : List Field)
  | positional (fields : List Field)
  | unit

def Fields.list : Fields → List Field
  | .named fields => fields
  | .positional fields => fields
  | .unit => []

structure StructDecl where
  attrs : List Attribute
  name : String
  isGeneric : Bool
  fields : Fields

structure TraitRef where
  negative : Bool
  segments : List Segment

/-- An implementation of a trait, or of nothing but the type itself. -/
structure ImplDecl where
  attrs : List Attribute
  isGeneric : Bool
  trait? : Option TraitRef
  self : Ty
  types : List (String × Ty)

/-- A declaration. A module has its items if they are written inside it. -/
inductive Item where
  | struct (decl : StructDecl)
  | impl (decl : ImplDecl)
  | module (attrs : List Attribute) (name : String) (content : Option (List Item))
  | other

instance : Inhabited Item := ⟨.other⟩

end ValueObjects
