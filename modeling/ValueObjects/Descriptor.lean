namespace ValueObjects

def qualifiedName (scope? : Option String) (name : String) : String :=
  match scope? with
  | some path => "crate::" ++ path ++ "::" ++ name
  | none => "crate::" ++ name

def dotted : List Char → List Char
  | [] => []
  | ':' :: ':' :: rest => '.' :: dotted rest
  | c :: rest => c :: dotted rest

/-- The path of a type with dots between its steps, as file names begin with it. -/
def dottedName (scope? : Option String) (name : String) : String :=
  match scope? with
  | some path => String.ofList (dotted path.toList) ++ "." ++ name
  | none => name

/-- The root module comes before all others. -/
def compareScopes : Option String → Option String → Ordering
  | none, none => .eq
  | none, some _ => .lt
  | some _, none => .gt
  | some a, some b => compare a b

/-- A wrapper: the name of the type, the canonical text of its payload, the module that it is
declared in, whether it is copied, and whether its payload is out of reach for others. -/
structure Descriptor where
  typeName : String
  payload : String
  scope? : Option String
  isCopy : Bool
  isImmutable : Bool
  deriving DecidableEq, Repr

namespace Descriptor

def path (descriptor : Descriptor) : String :=
  qualifiedName descriptor.scope? descriptor.typeName

def stem (descriptor : Descriptor) : String :=
  dottedName descriptor.scope? descriptor.typeName

def display (descriptor : Descriptor) : String :=
  descriptor.path ++ "(" ++ descriptor.payload ++ ")"

/-- By type name, then payload, then module; the flags come last. -/
def order (a b : Descriptor) : Ordering :=
  (compare a.typeName b.typeName).then <| (compare a.payload b.payload).then <|
    (compareScopes a.scope? b.scope?).then <|
      (compare a.isCopy b.isCopy).then (compare a.isImmutable b.isImmutable)

def sort (descriptors : List Descriptor) : List Descriptor :=
  descriptors.mergeSort fun a b => (order a b).isLE

def key (descriptor : Descriptor) : Option String × String :=
  (descriptor.scope?, descriptor.typeName)

end Descriptor

/-- A property of an entity: a field whose type is a wrapper, or an option of one if
`nullable`. -/
structure Property where
  entityName : String
  entityScope? : Option String
  name : String
  wrapperName : String
  wrapperScope? : Option String
  nullable : Bool
  deriving DecidableEq, Repr

namespace Property

def entityPath (property : Property) : String :=
  qualifiedName property.entityScope? property.entityName

def wrapperPath (property : Property) : String :=
  qualifiedName property.wrapperScope? property.wrapperName

def entityStem (property : Property) : String :=
  dottedName property.entityScope? property.entityName

def order (a b : Property) : Ordering :=
  (compare a.entityName b.entityName).then <|
    (compareScopes a.entityScope? b.entityScope?).then <|
      (compare a.name b.name).then <| (compare a.wrapperName b.wrapperName).then <|
        (compareScopes a.wrapperScope? b.wrapperScope?).then
          (compare a.nullable b.nullable)

def sort (properties : List Property) : List Property :=
  properties.mergeSort fun a b => (order a b).isLE

end Property

end ValueObjects
