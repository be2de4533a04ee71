import Mathlib.Data.List.Infix
import ValueObjects.Emit.Document
import ValueObjects.Emit.Relational
import ValueObjects.Proofs.Quoting
import ValueObjects.Proofs.Readers
import ValueObjects.Token.Lexer
import ValueObjects.Unit
/-!
What the code of an adapter declares and registers, read from the tokens: the converters of a
wrapper, the calls that bind them to the properties of an entity, and the calls that register the
serializers. The readers are those of the grammar, with fixed text between what differs.
-/
namespace ValueObjects

open Grammar
open Token (operator)

namespace Emit

/-- What follows fixed words and marks. -/
def past? : List Token → List Token → Option (List Token)
  | [], input => some input
  | .ident name :: more, .ident other :: rest => if name = other then past? more rest else none
  | .punct c spacing :: more, .punct other joined :: rest =>
    if c = other ∧ spacing = joined then past? more rest else none
  | _, _ => none

/-- Words and marks, which fixed text consists of. -/
inductive IsWordOrMark : Token → Prop where
  | word {name : String} : IsWordOrMark (.ident name)
  | mark {c : Char} : IsWordOrMark (.punct c spacing)

theorem isWordOrMark_operator (marks : List Char) : ∀ token ∈ operator marks, IsWordOrMark token := by
  induction marks with
  | nil => exact nofun
  | cons c more ih =>
    cases more with
    | nil => exact List.forall_mem_singleton.mpr .mark
    | cons next later => exact List.forall_mem_cons.mpr ⟨.mark, ih⟩

theorem isWordOrMark_cut (fuel : Nat) (chars : List Char) :
    ∀ token ∈ cut fuel chars, IsWordOrMark token := by
  induction fuel, chars using cut.induct with
  | case1 => exact nofun
  | case2 => simp [cut]
  | case3 fuel c rest blank ih => simpa only [cut, if_pos blank] using ih
  | case4 fuel c rest other isWord ih =>
    rw [cut, if_neg other, if_pos isWord]
    exact List.forall_mem_cons.mpr ⟨.word, ih⟩
  | case5 fuel c rest other noWord quote ih =>
    rw [cut, if_neg other, if_neg noWord, if_pos quote]
    exact List.forall_mem_append.mpr
      ⟨List.forall_mem_cons.mpr ⟨.mark, List.forall_mem_singleton.mpr .word⟩, ih⟩
  | case6 fuel c rest other noWord noQuote marks found ih =>
    rw [cut, if_neg other, if_neg noWord, if_neg noQuote, found]
    exact List.forall_mem_append.mpr ⟨isWordOrMark_operator marks, ih⟩
  | case7 fuel c rest other noWord noQuote none ih =>
    rw [cut, if_neg other, if_neg noWord, if_neg noQuote, none]
    exact List.forall_mem_cons.mpr ⟨.mark, ih⟩

theorem past?_append (fixed : ∀ token ∈ tokens, IsWordOrMark token) (rest : List Token) :
    past? tokens (tokens ++ rest) = some rest := by
  induction tokens with
  | nil => rfl
  | cons token more ih =>
    obtain ⟨first, later⟩ := List.forall_mem_cons.mp fixed
    cases first with
    | word => rw [List.cons_append, past?, if_pos rfl, ih later]
    | mark => rw [List.cons_append, past?, if_pos ⟨rfl, rfl⟩, ih later]

theorem past?_phrase (text : String) (rest : List Token) :
    past? (phrase text) (phrase text ++ rest) = some rest :=
  past?_append (isWordOrMark_cut _ _) rest

namespace Read

/-! Readers of code. -/

def fixed (text : String) : Reader Unit := do
  match past? (phrase text) (← upcoming) with
  | some rest => consume (phrase text) rest
  | none => fail

def fixed? (text : String) : Reader Bool := do
  if (past? (phrase text) (← upcoming)).isSome then
    fixed text
    return true
  else return false

/-- Reads all that is left, if the fixed text stands somewhere in it. -/
def restWith (text : String) : Reader Unit := do
  let tokens ← upcoming
  if tokens.tails.any fun tail => (past? (phrase text) tail).isSome then consume tokens [] else fail

def text : Reader String := do
  match Literal.stringValue? (← literalOf .string).toList with
  | some value => return String.ofList value
  | none => fail

def docComment : Reader Unit := do
  fixed "#"
  let _ ← anyGroup

def pathStep : Reader String := do
  mark "::"
  anyName

def cratePath : Reader CratePath := do
  word "crate"
  return ⟨← collectWhile (atMark "::") pathStep⟩

/-- A converter by its name, with the wrapper whose values it stores, or options of them. -/
structure Declared where
  name : String
  wrapper : CratePath
  nullable : Bool

/-- Reads the wrapper of a converter from its block, and whether the values are options of it. -/
def converterBody : Reader (CratePath × Bool) := do
  if ← fixed? "type Model = ::core::option::Option<" then
    let path ← cratePath
    fixed ">;"
    restWith "const NULLABLE: bool = true;"
    return (path, true)
  else
    fixed "type Model ="
    let path ← cratePath
    restWith "; const NULLABLE: bool = false;"
    return (path, false)

def converter : Reader Declared := do
  docComment
  fixed "pub struct"
  let name ← anyName
  fixed ";"
  fixed "impl ::valuegen::relational::ValueConverter for"
  word name
  let (wrapper, nullable) ← inside .brace converterBody
  return ⟨name, wrapper, nullable⟩

/-- The converters that are declared at the front of the tokens. -/
def declared (tokens : List Token) : List Declared :=
  match collectWhile (atMark "#") converter ⟨tokens, []⟩ with
  | some (found, _) => found
  | none => []

/-- Reads a call that binds a converter to a property of the entity. -/
def binding : Reader ConverterRow := do
  fixed "registry.register::<"
  let converter ← anyName
  fixed ">"
  let property ← inside .parenthesis do
    fixed "<Self as ::valuegen::relational::EntityConverters>::ENTITY,"
    let property ← text
    fixed ","
    return property
  fixed ";"
  return ⟨converter, property⟩

def entityBody : Reader (String × List ConverterRow) := do
  fixed "const ENTITY: &'static str ="
  let key ← text
  fixed ";"
  fixed "fn register_converters"
  inside .parenthesis (fixed "registry: &mut ::valuegen::relational::ConverterRegistry")
  let rows ← inside .brace (collectAll binding)
  return (key, rows)

def entityConverters : Reader EntityConverters := do
  fixed "impl ::valuegen::relational::EntityConverters for"
  let entity ← cratePath
  let (key, rows) ← inside .brace entityBody
  return ⟨entity, key, rows⟩

/-- Reads a call that registers the serializer of a wrapper. -/
def serializer : Reader CratePath := do
  fixed "registry.register::<"
  let path ← cratePath
  fixed ">"
  inside .parenthesis (pure ())
  fixed ";"
  return path

def serializersBody : Reader (List CratePath) := do
  if atWord "let" (← upcoming) then
    fixed "let _ = registry;"
    return []
  else collectAll serializer

def serializers : Reader (List CratePath) := do
  fixed "#"
  let _ ← anyGroup
  fixed "pub fn register_document_serializers"
  inside .parenthesis (fixed "registry: &mut ::valuegen::document::SerializerRegistry")
  inside .brace serializersBody

/-- The reader takes the tokens and gives the result wherever what follows allows it. -/
def Takes (reader : Reader α) (tokens : List Token) (result : α)
    (follows : List Token → Prop) : Prop :=
  ∀ rest, follows rest → ∀ done,
    reader ⟨tokens ++ rest, done⟩ = some (result, ⟨rest, tokens.reverse ++ done⟩)

variable {reader : Reader α} {tokens others : List Token} {result : α} {last : β}
  {follows between : List Token → Prop}

namespace Takes

theorem pure (result : α) : Takes (Pure.pure result) [] result follows :=
  fun _ _ _ => rfl

theorem free (takes : Takes reader tokens result fun _ => True) :
    Takes reader tokens result follows :=
  fun rest _ => takes rest trivial

/-- What is made of the result of a reader takes no more tokens. -/
theorem map {next : α → Reader β} (takes : Takes reader tokens result follows)
    (ends : next result = Pure.pure last) : Takes (reader >>= next) tokens last follows := by
  intro rest followed done
  rw [bind_apply, takes rest followed, Option.bind_some, ends]
  rfl

/-- A reader goes before another, if what the other begins with allows it. -/
theorem bind {next : α → Reader β} (first : Takes reader tokens result between)
    (linked : ∀ rest, follows rest → between (others ++ rest))
    (second : Takes (next result) others last follows) :
    Takes (reader >>= next) (tokens ++ others) last follows := by
  intro rest followed done
  rw [bind_apply, List.append_assoc, first _ (linked rest followed), Option.bind_some,
    second rest followed, List.reverse_append, List.append_assoc]

section

variable {piece : Piece} {pieces : List Piece} {next : α → Reader β}

/-- A reader for the first piece of code goes before one for the others, if these allow it. -/
theorem link (first : Takes reader piece.code result between)
    (linked : ∀ rest, between (code pieces ++ rest))
    (second : Takes (next result) (code pieces) last follows) :
    Takes (reader >>= next) (code (piece :: pieces)) last follows :=
  first.bind (fun rest _ => linked rest) second

/-- A reader that takes nothing goes before one for all the pieces. -/
theorem skip (first : Takes reader [] result between)
    (linked : ∀ rest, between (code pieces ++ rest))
    (second : Takes (next result) (code pieces) last follows) :
    Takes (reader >>= next) (code pieces) last follows :=
  first.bind (fun rest _ => linked rest) second

theorem only (takes : Takes reader piece.code result follows) :
    Takes reader (code [piece]) result follows := by
  have single : code [piece] = piece.code := List.append_nil _
  rwa [single]

theorem before (first : Takes reader piece.code result fun _ => True)
    (second : Takes (next result) (code pieces) last follows) :
    Takes (reader >>= next) (code (piece :: pieces)) last follows :=
  first.link (fun _ => trivial) second

end

/-- What the tokens to come decide. -/
theorem upcoming {body : List Token → Reader α} (takes : Takes reader tokens result follows)
    (decided : ∀ rest, follows rest → body (tokens ++ rest) = reader) :
    Takes (Grammar.upcoming >>= body) tokens result follows := by
  intro rest followed done
  rw [bind_apply, upcoming_apply, Option.bind_some, decided rest followed]
  exact takes rest followed done

theorem inside {delimiter : Delimiter} (takes : Takes reader tokens result (· = [])) :
    Takes (inside delimiter reader) [.group delimiter tokens] result fun _ => True := by
  intro rest _ done
  have body := takes [] rfl []
  rw [List.append_nil, List.append_nil] at body
  rw [Grammar.inside, bind_apply, upcoming_apply, List.singleton_append]
  simp [body]
  rfl

/-- One run of the reader for each of the results. -/
theorem collectWhile {test : List Token → Bool} {written : α → List Token} {elems : List α}
    (each : ∀ elem ∈ elems, Takes reader (written elem) elem between)
    (goes : ∀ elem ∈ elems, ∀ rest,
      test (written elem ++ rest) = true ∧ between (written elem ++ rest))
    (filled : ∀ elem ∈ elems, written elem ≠ [])
    (stops : ∀ rest, follows rest → test rest = false ∧ between rest) :
    Takes (collectWhile test reader) (elems.flatMap written) elems follows := by
  intro rest followed done
  obtain ⟨ends, last⟩ := stops rest followed
  have repeats : Repeats (guarded test reader) ⟨elems.flatMap written ++ rest, done⟩ elems
      ⟨rest, (elems.flatMap written).reverse ++ done⟩ := by
    clear filled
    induction elems generalizing done with
    | nil =>
      apply Repeats.done
      rw [guarded_apply, if_neg (by simp [ends])]
      rfl
    | cons elem more ih =>
      rw [List.forall_mem_cons] at each goes
      have linked : between (more.flatMap written ++ rest) := by
        cases more with
        | nil => exact last
        | cons next later =>
          rw [List.flatMap_cons, List.append_assoc]
          exact (goes.2 next List.mem_cons_self _).2
      have step : guarded test reader ⟨(elem :: more).flatMap written ++ rest, done⟩ =
          some (some elem, ⟨more.flatMap written ++ rest, (written elem).reverse ++ done⟩) := by
        rw [guarded_apply, List.flatMap_cons, List.append_assoc, if_pos (goes.1 _).1,
          each.1 _ linked]
        rfl
      have later := ih each.2 goes.2 ((written elem).reverse ++ done)
      rw [← List.append_assoc, ← List.reverse_append, ← List.flatMap_cons] at later
      exact .more step later
  have few : elems.length ≤ (elems.flatMap written ++ rest).length := by
    rw [List.length_append]
    exact Nat.le_add_right_of_le (length_le_flatMap filled)
  exact repeats.collect few

theorem complete (takes : Takes reader tokens result (· = [])) :
    complete reader tokens = some result := by
  have read := takes [] rfl []
  rw [List.append_nil] at read
  rw [Grammar.complete, read]

end Takes

theorem takes_fixed (text : String) : Takes (fixed text) (phrase text) () fun _ => True := by
  intro rest _ done
  have step : fixed text ⟨phrase text ++ rest, done⟩ =
      (match past? (phrase text) (phrase text ++ rest) with
        | some rest => consume (phrase text) rest
        | none => fail : Reader Unit) ⟨phrase text ++ rest, done⟩ := rfl
  rw [step, past?_phrase]
  rfl

theorem takes_fixed? (text : String) : Takes (fixed? text) (phrase text) true fun _ => True := by
  refine .upcoming ((takes_fixed text).map rfl) fun rest _ => if_pos ?_
  rw [past?_phrase, Option.isSome_some]

theorem takes_noFixed (text : String) :
    Takes (fixed? text) [] false fun rest => (past? (phrase text) rest).isSome = false :=
  .upcoming (.pure false) fun rest absent => if_neg (by simp [absent])

theorem takes_word (text : String) : Takes (word text) [.ident text] () fun _ => True := by
  intro rest _ done
  have step : word text ⟨.ident text :: rest, done⟩ =
      (if text == text then consume [.ident text] rest else fail : Reader Unit)
        ⟨.ident text :: rest, done⟩ := rfl
  rw [List.singleton_append, step, if_pos (beq_self_eq_true text)]
  rfl

theorem takes_anyName (name : String) : Takes anyName [.ident name] name fun _ => True :=
  fun _ _ _ => rfl

theorem takes_literalOf {literal : String} (kind : literalKind literal = .string) :
    Takes (literalOf .string) [.literal literal] literal fun _ => True := by
  intro rest _ done
  have step : literalOf .string ⟨.literal literal :: rest, done⟩ =
      (if literalKind literal == .string then do
        consume [.literal literal] rest
        return literal
      else fail : Reader String) ⟨.literal literal :: rest, done⟩ := rfl
  rw [List.singleton_append, step, if_pos (beq_iff_eq.mpr kind)]
  rfl

/-- A string literal is read as the text that it was made of. -/
theorem takes_text (value : String) : Takes text (stringLiteral value) value fun _ => True := by
  have kind : Literal.kind (Text.quoteLiteral value).toList = .string := by
    simp [Text.quoteLiteral, Literal.kind]
  have closed := Literal.textual?_quoteLiteral value []
  rw [List.append_nil] at closed
  refine (takes_literalOf kind).map ?_
  rw [Literal.stringValue?, if_pos kind, closed]
  simp

theorem takes_restWith (text : String) (before after : List Token) :
    Takes (restWith text) (before ++ (phrase text ++ after)) () (· = []) := by
  rintro _ rfl done
  have found : ((before ++ (phrase text ++ after)).tails.any fun tail =>
      (past? (phrase text) tail).isSome) = true := by
    refine List.any_eq_true.mpr ⟨phrase text ++ after, ?_, ?_⟩
    · exact (List.mem_tails _ _).mpr (List.suffix_append _ _)
    · rw [past?_phrase, Option.isSome_some]
  rw [List.append_nil, restWith, bind_apply, upcoming_apply, Option.bind_some, if_pos found]
  rfl

theorem takes_anyGroup (delimiter : Delimiter) (body : List Token) :
    Takes anyGroup [.group delimiter body] (delimiter, body) fun _ => True :=
  fun _ _ _ => rfl

theorem takes_docComment (text : String) :
    Takes docComment (documented text) () fun _ => True :=
  (takes_fixed _).before ((takes_anyGroup _ _).before (.pure ()))

theorem takes_pathStep (step : String) :
    Takes pathStep (operator [':', ':'] ++ [.ident step]) step fun _ => True :=
  fun _ _ _ => rfl

/-- A path is read up to what is no further step of it. -/
theorem takes_cratePath (path : CratePath) :
    Takes cratePath path.tokens path fun rest => atMark "::" rest = false := by
  have steps : Takes (collectWhile (atMark "::") pathStep)
      (path.steps.flatMap fun step => operator [':', ':'] ++ [.ident step]) path.steps
      fun rest => atMark "::" rest = false :=
    .collectWhile (fun step _ => takes_pathStep step) (fun _ _ _ => ⟨rfl, trivial⟩)
      (fun _ _ => List.cons_ne_nil _ _) fun _ ends => ⟨ends, trivial⟩
  intro rest followed done
  have step : cratePath ⟨path.tokens ++ rest, done⟩ =
      (collectWhile (atMark "::") pathStep >>= fun steps => Pure.pure ⟨steps⟩)
        ⟨(path.steps.flatMap fun step => operator [':', ':'] ++ [.ident step]) ++ rest,
          .ident "crate" :: done⟩ := rfl
  rw [step, bind_apply, steps rest followed]
  simp [pure_apply, CratePath.tokens]

/-- What a block begins with is read up to where the fixed text stands in it. -/
theorem takes_code_restWith {text : String} {before after : List Piece} :
    Takes (restWith text) (code (before ++ .text text :: after)) () (· = []) := by
  have split : code (before ++ .text text :: after) =
      code before ++ (phrase text ++ code after) := by
    simp [code, Piece.code]
  rw [split]
  exact takes_restWith text _ _

theorem takes_plainConverter (name path : String) (wrapper : CratePath) (payload : List Token) :
    Takes converter (Relational.plainConverter name path wrapper.tokens payload)
      ⟨name, wrapper, false⟩ fun _ => True := by
  refine (takes_docComment _).before ((takes_fixed _).before ((takes_anyName _).before
    ((takes_fixed _).before ((takes_fixed _).before ((takes_word _).before
      ((Takes.inside (?_ : Takes _ _ (wrapper, false) _)).before (.pure _)))))))
  refine .skip (takes_noFixed _) (fun _ => rfl) ?_
  rw [if_neg Bool.false_ne_true]
  refine (takes_fixed _).before ((takes_cratePath wrapper).link (fun _ => rfl) ?_)
  exact .map (@takes_code_restWith _ ["; type Provider =", payload] _) rfl

theorem takes_nullableConverter (name path : String) (wrapper : CratePath) (payload : List Token) :
    Takes converter (Relational.nullableConverter name path wrapper.tokens payload)
      ⟨name, wrapper, true⟩ fun _ => True := by
  refine (takes_docComment _).before ((takes_fixed _).before ((takes_anyName _).before
    ((takes_fixed _).before ((takes_fixed _).before ((takes_word _).before
      ((Takes.inside (?_ : Takes _ _ (wrapper, true) _)).before (.pure _)))))))
  refine (takes_fixed? _).before ?_
  rw [if_pos rfl]
  refine (takes_cratePath wrapper).link (fun _ => rfl) ((takes_fixed _).before ?_)
  exact .map (@takes_code_restWith _
    ["type Provider = ::core::option::Option<", payload, ">;"] _) rfl

theorem takes_rowTokens (row : ConverterRow) :
    Takes binding (EntityConverters.rowTokens row) row fun _ => True := by
  refine (takes_fixed _).before ((takes_anyName _).before ((takes_fixed _).before
    ((Takes.inside (?_ : Takes _ _ row.property _)).before ((takes_fixed _).before (.pure _)))))
  exact (takes_fixed _).before ((takes_text row.property).before ((takes_fixed _).before (.pure _)))

theorem takes_rows (rows : List ConverterRow) :
    Takes (collectAll binding) (rows.flatMap EntityConverters.rowTokens) rows (· = []) := by
  refine .collectWhile (fun row _ => takes_rowTokens row) (fun _ _ _ => ⟨rfl, trivial⟩)
    (fun _ _ => List.cons_ne_nil _ _) ?_
  rintro _ rfl
  exact ⟨rfl, trivial⟩

/-- The registration of an entity is read from its tokens: the calls that it makes, in order. -/
theorem takes_entityConverters (found : EntityConverters) :
    Takes entityConverters found.tokens found fun _ => True := by
  refine (takes_fixed _).before ((takes_cratePath found.entity).link (fun _ => rfl)
    ((Takes.inside (?_ : Takes _ _ (found.key, found.rows) _)).before (.pure _)))
  exact (takes_fixed _).before ((takes_text found.key).before ((takes_fixed _).before
    ((takes_fixed _).before ((Takes.inside (takes_fixed _).free.only).before
      ((Takes.inside (takes_rows found.rows).only).before (.pure _))))))

/-- The two converters of a wrapper are what its relational code declares. -/
theorem declared_relational (subject : Subject) (names : Converters) :
    declared (relational subject names) =
      [⟨names.plain, subject.wrapper, false⟩, ⟨names.nullable, subject.wrapper, true⟩] := by
  let written (found : Declared) : List Token :=
    if found.nullable then
      Relational.nullableConverter found.name subject.typeName found.wrapper.tokens
        subject.payload.tokens
    else
      Relational.plainConverter found.name subject.typeName found.wrapper.tokens
        subject.payload.tokens
  have each (found : Declared) : Takes converter (written found) found fun _ => True := by
    obtain ⟨name, wrapper, nullable⟩ := found
    cases nullable with
    | false => exact takes_plainConverter name subject.typeName wrapper subject.payload.tokens
    | true => exact takes_nullableConverter name subject.typeName wrapper subject.payload.tokens
  have begins (found : Declared) (rest : List Token) :
      atMark "#" (written found ++ rest) = true ∧ True := by
    obtain ⟨name, wrapper, nullable⟩ := found
    cases nullable <;> exact ⟨rfl, trivial⟩
  have filled (found : Declared) : written found ≠ [] := by
    obtain ⟨name, wrapper, nullable⟩ := found
    cases nullable <;> exact List.cons_ne_nil _ _
  have takes : Takes (collectWhile (atMark "#") converter)
      ([⟨names.plain, subject.wrapper, false⟩, ⟨names.nullable, subject.wrapper, true⟩].flatMap
        written) _ fun rest => atMark "#" rest = false :=
    .collectWhile (fun found _ => each found) (fun found _ => begins found)
      (fun found _ => filled found) fun _ ends => ⟨ends, trivial⟩
  have split : relational subject names =
      [⟨names.plain, subject.wrapper, false⟩, ⟨names.nullable, subject.wrapper, true⟩].flatMap
        written ++ Relational.column subject.wrapper.tokens subject.payload.tokens := by
    rfl
  rw [declared, split, takes _ rfl]

theorem takes_serializer (path : CratePath) :
    Takes serializer (code ["registry.register::<", path.tokens, ">", parens [], ";"]) path
      fun _ => True :=
  (takes_fixed _).before ((takes_cratePath path).link (fun _ => rfl) ((takes_fixed _).before
    ((Takes.inside (.pure ())).before ((takes_fixed _).before (.pure _)))))

theorem takes_serializersBody (wrappers : List CratePath) :
    Takes serializersBody
      (if wrappers.isEmpty then phrase "let _ = registry;"
        else wrappers.flatMap fun wrapper =>
          code ["registry.register::<", wrapper.tokens, ">", parens [], ";"])
      wrappers (· = []) := by
  cases wrappers with
  | nil => exact .upcoming ((takes_fixed _).free.map rfl) fun _ _ => rfl
  | cons first more =>
    refine .upcoming (?_ : Takes (collectAll serializer) _ _ _) fun _ _ => rfl
    refine .collectWhile (fun path _ => takes_serializer path) (fun _ _ _ => ⟨rfl, trivial⟩)
      (fun _ _ => List.cons_ne_nil _ _) ?_
    rintro _ rfl
    exact ⟨rfl, trivial⟩

/-- The registration of serializers is read from its tokens: the calls that it makes, in order. -/
theorem takes_registration (wrappers : List CratePath) :
    Takes serializers (registration wrappers) wrappers fun _ => True :=
  (takes_fixed _).before ((takes_anyGroup _ _).before ((takes_fixed _).before
    ((Takes.inside (takes_fixed _).free.only).before
      (takes_serializersBody wrappers).only.inside.only)))

end Read

end Emit

namespace GeneratedUnit

open Emit

variable {unit : GeneratedUnit}

/-- The converters that the code of a unit declares. -/
def declared (unit : GeneratedUnit) : List Read.Declared :=
  ((Lexer.tokens? unit.contents).map Read.declared).getD []

/-- The entity whose converters the code of a unit registers, with the calls that it makes. -/
def entityConverters? (unit : GeneratedUnit) : Option EntityConverters :=
  (Lexer.tokens? unit.contents).bind (complete Read.entityConverters)

/-- The wrappers whose serializers the code of a unit registers, in the order of the calls. -/
def serializers? (unit : GeneratedUnit) : Option (List CratePath) :=
  (Lexer.tokens? unit.contents).bind (complete Read.serializers)

theorem declared_of_tokens {subject : Subject} {names : Converters}
    (read : Lexer.tokens? unit.contents = some (relational subject names)) :
    unit.declared =
      [⟨names.plain, subject.wrapper, false⟩, ⟨names.nullable, subject.wrapper, true⟩] := by
  rw [declared, read, Option.map_some, Option.getD_some, Read.declared_relational]

theorem entityConverters?_of_tokens {found : EntityConverters}
    (read : Lexer.tokens? unit.contents = some found.tokens) :
    unit.entityConverters? = some found := by
  rw [entityConverters?, read, Option.bind_some]
  exact (Read.takes_entityConverters found).free.complete

theorem serializers?_of_tokens {wrappers : List CratePath}
    (read : Lexer.tokens? unit.contents = some (registration wrappers)) :
    unit.serializers? = some wrappers := by
  rw [serializers?, read, Option.bind_some]
  exact (Read.takes_registration wrappers).free.complete

end GeneratedUnit

end ValueObjects
