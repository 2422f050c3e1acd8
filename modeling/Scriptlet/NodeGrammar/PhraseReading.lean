import Scriptlet.NodeGrammar.Lexeme
import Scriptlet.NodeGrammar.Phrase

/-!
# Reading Go phrases

Types and expressions are read from lexemes by recursive descent. Every function takes fuel, and
each step of the descent spends some of it; a phrase of so many lexemes needs no more than a fixed
multiple of their number. What cannot be read is left as it is written.
-/

namespace Scriptlet.NodeGrammar

namespace Phrase

/-- What is read, and the lexemes behind it. -/
abbrev Found (α : Type) := Option (α × List Lexeme)

/-- A phrase in parentheses; a second pair around it is left out. -/
def grouped : Phrase → Phrase
  | .group inner => .group inner
  | other => .group other

/-- A phrase without parentheses around it. -/
def bare : Phrase → Phrase
  | .group inner => bare inner
  | other => other

/-- A parameter as it is read: a name that may turn out to be a type, a type, or both. -/
structure Parameter where
  name : Option Text := none
  type : Option Phrase := none

/-- Joins names to the first typed parameter behind them. -/
def joinNames (names : List Text) : List Parameter → Option (List Phrase)
  | [] => if names.isEmpty then some [] else none
  | { name := some name, type := none } :: rest => joinNames (names ++ [name]) rest
  | { name := some name, type := some type } :: rest =>
      (joinNames [] rest).map (.field (names ++ [name]) type.bare [] :: ·)
  | { name := none, .. } :: _ => none

/-- The fields of parameters. Either all of them are types, or all of them have names. -/
def parameterFields (parameters : List Parameter) : Option (List Phrase) :=
  if parameters.any fun parameter => parameter.name.isSome && parameter.type.isSome then
    joinNames [] parameters
  else
    some (parameters.map fun parameter =>
      .field [] ((parameter.type.getD (.word (parameter.name.getD []))).bare) [])

/-- Whether a phrase can stand before the braces of a composite literal. -/
def isLiteralType : Phrase → Bool
  | .word _ => true
  | .selected (.word _) _ => true
  | .indexed base _ => isLiteralType base
  | .array .. => true
  | .map .. => true
  | .structure _ => true
  | _ => false

/-- Whether a lexeme is a literal text, as tags are. -/
def isTag (spelling : Text) : Bool :=
  spelling.head? = some (byte '"') || spelling.head? = some (byte '\x60')

/-- Takes the tag that may stand behind a field. -/
def takeTag : List Lexeme → Text × List Lexeme
  | .literal spelling :: rest =>
      if isTag spelling then (spelling, rest) else ([], .literal spelling :: rest)
  | rest => ([], rest)

/-- The operators before an operand. -/
def signs : List String :=
  ["+", "-", "!", "^", "&", "~", "*"]

mutual

/-- Reads a type. -/
def type? : Nat → List Lexeme → Found Phrase
  | 0, _ => none
  | fuel + 1, .name first :: rest => namedType? fuel first rest
  | fuel + 1, .mark "(" :: rest =>
      match type? fuel rest with
      | some (inner, .mark ")" :: rest) => some (grouped inner, rest)
      | _ => none
  | fuel + 1, .mark "*" :: rest => (type? fuel rest).map fun (type, rest) => (.unary "*" type, rest)
  | fuel + 1, .mark "[" :: .mark "]" :: rest =>
      (type? fuel rest).map fun (type, rest) => (.array .absent type, rest)
  | fuel + 1, .mark "[" :: .mark "..." :: .mark "]" :: rest =>
      (type? fuel rest).map fun (type, rest) => (.array (.word (text "...")) type, rest)
  | fuel + 1, .mark "[" :: rest =>
      match binary? fuel 1 rest with
      | some (length, .mark "]" :: rest) =>
          (type? fuel rest).map fun (type, rest) => (.array length type, rest)
      | _ => none
  | fuel + 1, .mark "map" :: .mark "[" :: rest =>
      match type? fuel rest with
      | some (key, .mark "]" :: rest) =>
          (type? fuel rest).map fun (value, rest) => (.map key value, rest)
      | _ => none
  | fuel + 1, .mark "chan" :: .mark "<-" :: rest =>
      (type? fuel rest).map fun (type, rest) => (.channel "chan<-" type, rest)
  | fuel + 1, .mark "chan" :: rest =>
      (type? fuel rest).map fun (type, rest) => (.channel "chan" type, rest)
  | fuel + 1, .mark "<-" :: .mark "chan" :: rest =>
      (type? fuel rest).map fun (type, rest) => (.channel "<-chan" type, rest)
  | fuel + 1, .mark "func" :: rest => signature? fuel rest
  | fuel + 1, .mark "struct" :: .mark "\x7b" :: rest =>
      (fields? fuel rest).map fun (fields, rest) => (.structure fields, rest)
  | fuel + 1, .mark "interface" :: .mark "\x7b" :: rest =>
      (members? fuel rest).map fun (members, rest) => (.interface members, rest)
  | _, _ => none

/-- Reads a type that begins with a name: it may be qualified and have arguments. -/
def namedType? : Nat → Text → List Lexeme → Found Phrase
  | 0, _, _ => none
  | fuel + 1, first, .mark "." :: .name member :: rest =>
      typeArguments? fuel (.selected (.word first) member) rest
  | fuel + 1, first, rest => typeArguments? fuel (.word first) rest

/-- Reads the arguments that may stand behind the name of a type. -/
def typeArguments? : Nat → Phrase → List Lexeme → Found Phrase
  | 0, _, _ => none
  | fuel + 1, base, .mark "[" :: rest =>
      match types? fuel rest with
      | some (arguments, .mark "]" :: rest) => some (.indexed base arguments, rest)
      | _ => none
  | _, base, rest => some (base, rest)

/-- Reads types between commas. -/
def types? : Nat → List Lexeme → Found (List Phrase)
  | 0, _ => none
  | fuel + 1, lexemes =>
      match type? fuel lexemes with
      | some (type, .mark "," :: .mark "]" :: rest) => some ([type], .mark "]" :: rest)
      | some (type, .mark "," :: rest) =>
          (types? fuel rest).map fun (more, rest) => (type :: more, rest)
      | some (type, rest) => some ([type], rest)
      | none => none

/-- Reads the parameters and results of a function type. -/
def signature? : Nat → List Lexeme → Found Phrase
  | 0, _ => none
  | fuel + 1, .mark "(" :: rest =>
      match parameters? fuel rest with
      | some (parameters, .mark "(" :: rest) =>
          (parameters? fuel rest).map fun (results, rest) => (.function parameters results, rest)
      | some (parameters, rest) =>
          match type? fuel rest with
          | some (result, rest) => some (.function parameters [.field [] result.bare []], rest)
          | none => some (.function parameters [], rest)
      | none => none
  | _, _ => none

/-- Reads parameters up to the closing parenthesis. -/
def parameters? : Nat → List Lexeme → Found (List Phrase)
  | 0, _ => none
  | fuel + 1, lexemes =>
      match parameterList? fuel lexemes with
      | some (parameters, rest) =>
          (parameterFields parameters).map fun fields => (fields, rest)
      | none => none

/-- Reads parameters one by one. -/
def parameterList? : Nat → List Lexeme → Found (List Parameter)
  | 0, _ => none
  | _, .mark ")" :: rest => some ([], rest)
  | fuel + 1, lexemes =>
      match parameter? fuel lexemes with
      | some (parameter, .mark "," :: rest) =>
          (parameterList? fuel rest).map fun (more, rest) => (parameter :: more, rest)
      | some (parameter, .mark ")" :: rest) => some ([parameter], rest)
      | _ => none

/-- Reads one parameter. -/
def parameter? : Nat → List Lexeme → Found Parameter
  | 0, _ => none
  | _, .name first :: .mark "," :: rest => some ({ name := some first }, .mark "," :: rest)
  | _, .name first :: .mark ")" :: rest => some ({ name := some first }, .mark ")" :: rest)
  | fuel + 1, .name first :: .mark "." :: rest =>
      (namedType? fuel first (.mark "." :: rest)).map fun (type, rest) =>
        ({ type := some type }, rest)
  | fuel + 1, .name first :: .mark "..." :: rest =>
      (type? fuel rest).map fun (type, rest) =>
        ({ name := some first, type := some (.variadic type) }, rest)
  | fuel + 1, .name first :: .mark "[" :: rest =>
      match namedArray? fuel rest with
      | some (some type, rest) => some ({ name := some first, type := some type }, rest)
      | _ =>
          (namedType? fuel first (.mark "[" :: rest)).map fun (type, rest) =>
            ({ type := some type }, rest)
  | fuel + 1, .name first :: rest =>
      (type? fuel rest).map fun (type, rest) => ({ name := some first, type := some type }, rest)
  | fuel + 1, .mark "..." :: rest =>
      (type? fuel rest).map fun (type, rest) => ({ type := some (.variadic type) }, rest)
  | fuel + 1, lexemes =>
      (type? fuel lexemes).map fun (type, rest) => ({ type := some type }, rest)

/-- Reads an array type behind the name that has it; without an element type it is none. -/
def namedArray? : Nat → List Lexeme → Found (Option Phrase)
  | 0, _ => none
  | fuel + 1, .mark "]" :: rest =>
      (type? fuel rest).map fun (type, rest) => (some (.array .absent type), rest)
  | fuel + 1, lexemes =>
      match binary? fuel 1 lexemes with
      | some (length, .mark "]" :: rest) =>
          match type? fuel rest with
          | some (type, rest) => some (some (.array length type), rest)
          | none => some (none, rest)
      | _ => some (none, lexemes)

/-- Reads the fields of a structure up to the closing brace. -/
def fields? : Nat → List Lexeme → Found (List Phrase)
  | 0, _ => none
  | _, .mark "\x7d" :: rest => some ([], rest)
  | fuel + 1, lexemes =>
      match field? fuel [] lexemes with
      | some (found, .mark ";" :: rest) =>
          (fields? fuel rest).map fun (more, rest) => (found :: more, rest)
      | some (found, .mark "\x7d" :: rest) => some ([found], rest)
      | _ => none

/-- Reads a field of a structure behind earlier names. -/
def field? : Nat → List Text → List Lexeme → Found Phrase
  | 0, _, _ => none
  | fuel + 1, names, .name first :: .mark "," :: rest => field? fuel (names ++ [first]) rest
  | fuel + 1, [], .name first :: .mark "[" :: rest =>
      match namedArray? fuel rest with
      | some (some type, rest) =>
          let (tag, rest) := takeTag rest
          some (.field [first] type tag, rest)
      | _ => embedded? fuel (.name first :: .mark "[" :: rest)
  | fuel + 1, [], .name first :: .mark mark :: rest =>
      if [".", ";", "\x7d"].contains mark then embedded? fuel (.name first :: .mark mark :: rest)
      else typedField? fuel [first] (.mark mark :: rest)
  | fuel + 1, [], .name first :: .literal spelling :: rest =>
      embedded? fuel (.name first :: .literal spelling :: rest)
  | fuel + 1, names, .name first :: rest => typedField? fuel (names ++ [first]) rest
  | fuel + 1, [], lexemes => embedded? fuel lexemes
  | _, _, _ => none

/-- Reads the type and the tag of a field. -/
def typedField? : Nat → List Text → List Lexeme → Found Phrase
  | 0, _, _ => none
  | fuel + 1, names, lexemes =>
      (type? fuel lexemes).map fun (type, rest) =>
        let (tag, rest) := takeTag rest
        (.field names type tag, rest)

/-- Reads a field without a name. -/
def embedded? : Nat → List Lexeme → Found Phrase
  | 0, _ => none
  | fuel + 1, lexemes =>
      (type? fuel lexemes).map fun (type, rest) =>
        let (tag, rest) := takeTag rest
        (.field [] type tag, rest)

/-- Reads the members of an interface up to the closing brace. -/
def members? : Nat → List Lexeme → Found (List Phrase)
  | 0, _ => none
  | _, .mark "\x7d" :: rest => some ([], rest)
  | fuel + 1, lexemes =>
      match member? fuel lexemes with
      | some (member, .mark ";" :: rest) =>
          (members? fuel rest).map fun (more, rest) => (member :: more, rest)
      | some (member, .mark "\x7d" :: rest) => some ([member], rest)
      | _ => none

/-- Reads a member of an interface: a method, or a union of types. -/
def member? : Nat → List Lexeme → Found Phrase
  | 0, _ => none
  | fuel + 1, .name first :: .mark "(" :: rest =>
      (signature? fuel (.mark "(" :: rest)).map fun (signature, rest) =>
        (.method first signature, rest)
  | fuel + 1, lexemes =>
      match term? fuel lexemes with
      | some (left, rest) => union? fuel left rest
      | none => none

/-- Reads the rest of a union of types. -/
def union? : Nat → Phrase → List Lexeme → Found Phrase
  | 0, _, _ => none
  | fuel + 1, left, .mark "|" :: rest =>
      match term? fuel rest with
      | some (right, rest) => union? fuel (.binary "|" left right) rest
      | none => none
  | _, left, rest => some (left, rest)

/-- Reads a type of a union. -/
def term? : Nat → List Lexeme → Found Phrase
  | 0, _ => none
  | fuel + 1, .mark "~" :: rest => (type? fuel rest).map fun (type, rest) => (.unary "~" type, rest)
  | fuel + 1, lexemes => type? fuel lexemes

/-- Reads an expression whose operators bind at least as strongly as given. -/
def binary? : Nat → Nat → List Lexeme → Found Phrase
  | 0, _, _ => none
  | fuel + 1, least, lexemes =>
      match unary? fuel lexemes with
      | some (left, rest) => operations? fuel least left rest
      | none => none

/-- Reads the operators and operands behind a left operand. -/
def operations? : Nat → Nat → Phrase → List Lexeme → Found Phrase
  | 0, _, _, _ => none
  | fuel + 1, least, left, .mark operator :: rest =>
      if least ≤ strength operator && 0 < strength operator then
        match binary? fuel (strength operator + 1) rest with
        | some (right, rest) => operations? fuel least (.binary operator left right) rest
        | none => none
      else
        some (left, .mark operator :: rest)
  | _, _, left, rest => some (left, rest)

/-- Reads an operand with the operators before it. -/
def unary? : Nat → List Lexeme → Found Phrase
  | 0, _ => none
  | fuel + 1, .mark "<-" :: .mark "chan" :: rest => type? fuel (.mark "<-" :: .mark "chan" :: rest)
  | fuel + 1, .mark "<-" :: rest =>
      (unary? fuel rest).map fun (operand, rest) => (.unary "<-" operand, rest)
  | fuel + 1, .mark sign :: rest =>
      if signs.contains sign then
        (unary? fuel rest).map fun (operand, rest) => (.unary sign operand, rest)
      else
        match operand? fuel (.mark sign :: rest) with
        | some (operand, rest) => suffixes? fuel operand rest
        | none => none
  | fuel + 1, lexemes =>
      match operand? fuel lexemes with
      | some (operand, rest) => suffixes? fuel operand rest
      | none => none

/-- Reads an operand without what stands around it. -/
def operand? : Nat → List Lexeme → Found Phrase
  | 0, _ => none
  | _, .name first :: rest => some (.word first, rest)
  | _, .literal spelling :: rest => some (.word spelling, rest)
  | fuel + 1, .mark "(" :: rest =>
      match binary? fuel 1 rest with
      | some (inner, .mark ")" :: rest) => some (grouped inner, rest)
      | _ => none
  | fuel + 1, lexemes => type? fuel lexemes

/-- Reads what stands behind an operand: members, arguments, indices, elements. -/
def suffixes? : Nat → Phrase → List Lexeme → Found Phrase
  | 0, _, _ => none
  | fuel + 1, base, .mark "." :: .name member :: rest => suffixes? fuel (.selected base member) rest
  | fuel + 1, base, .mark "." :: .mark "(" :: rest =>
      match type? fuel rest with
      | some (type, .mark ")" :: rest) => suffixes? fuel (.asserted base type) rest
      | _ => none
  | fuel + 1, base, .mark "(" :: rest =>
      match arguments? fuel rest with
      | some ((arguments, spread), rest) => suffixes? fuel (.called base arguments spread) rest
      | none => none
  | fuel + 1, base, .mark "[" :: rest =>
      match bounds? fuel rest with
      | some ((bounds, true), rest) => suffixes? fuel (.sliced base bounds) rest
      | some ((indices, false), rest) => suffixes? fuel (.indexed base indices) rest
      | none => none
  | fuel + 1, base, .mark "\x7b" :: rest =>
      if isLiteralType base then
        match elements? fuel rest with
        | some (elements, rest) => suffixes? fuel (.composite base elements) rest
        | none => none
      else
        some (base, .mark "\x7b" :: rest)
  | _, base, rest => some (base, rest)

/-- Reads arguments up to the closing parenthesis, and whether the last one is spread. -/
def arguments? : Nat → List Lexeme → Found (List Phrase × Bool)
  | 0, _ => none
  | _, .mark ")" :: rest => some (([], false), rest)
  | fuel + 1, lexemes =>
      match binary? fuel 1 lexemes with
      | some (argument, .mark "," :: rest) =>
          (arguments? fuel rest).map fun ((more, spread), rest) =>
            ((argument :: more, spread), rest)
      | some (argument, .mark ")" :: rest) => some (([argument], false), rest)
      | some (argument, .mark "..." :: .mark ")" :: rest) => some (([argument], true), rest)
      | some (argument, .mark "..." :: .mark "," :: .mark ")" :: rest) =>
          some (([argument], true), rest)
      | _ => none

/-- Reads indices or bounds up to the closing bracket, and whether they are bounds. -/
def bounds? : Nat → List Lexeme → Found (List Phrase × Bool)
  | 0, _ => none
  | _, .mark ":" :: .mark "]" :: rest => some (([.absent, .absent], true), rest)
  | fuel + 1, .mark ":" :: rest =>
      (bounds? fuel rest).map fun ((bounds, _), rest) => ((.absent :: bounds, true), rest)
  | fuel + 1, lexemes =>
      match binary? fuel 1 lexemes with
      | some (index, .mark "]" :: rest) => some (([index], false), rest)
      | some (index, .mark "," :: .mark "]" :: rest) => some (([index], false), rest)
      | some (index, .mark "," :: rest) =>
          (bounds? fuel rest).map fun ((more, isSlice), rest) => ((index :: more, isSlice), rest)
      | some (bound, .mark ":" :: .mark "]" :: rest) => some (([bound, .absent], true), rest)
      | some (bound, .mark ":" :: rest) =>
          (bounds? fuel rest).map fun ((more, _), rest) => ((bound :: more, true), rest)
      | _ => none

/-- Reads the elements of a composite literal up to the closing brace. -/
def elements? : Nat → List Lexeme → Found (List Phrase)
  | 0, _ => none
  | _, .mark "\x7d" :: rest => some ([], rest)
  | fuel + 1, lexemes =>
      match element? fuel lexemes with
      | some (key, .mark ":" :: rest) =>
          match element? fuel rest with
          | some (value, .mark "," :: rest) =>
              (elements? fuel rest).map fun (more, rest) => (.keyed key value :: more, rest)
          | some (value, .mark "\x7d" :: rest) => some ([.keyed key value], rest)
          | _ => none
      | some (element, .mark "," :: rest) =>
          (elements? fuel rest).map fun (more, rest) => (element :: more, rest)
      | some (element, .mark "\x7d" :: rest) => some ([element], rest)
      | _ => none

/-- Reads an element of a composite literal; a literal inside may leave its type out. -/
def element? : Nat → List Lexeme → Found Phrase
  | 0, _ => none
  | fuel + 1, .mark "\x7b" :: rest =>
      (elements? fuel rest).map fun (elements, rest) => (.composite .absent elements, rest)
  | fuel + 1, lexemes => binary? fuel 1 lexemes

end

/-- Reads expressions between commas up to the end; each takes at least one lexeme, which the second
fuel counts. -/
def expressions? (steps : Nat) : Nat → List Lexeme → Option (List Phrase)
  | 0, _ => none
  | fuel + 1, lexemes =>
      match binary? steps 1 lexemes with
      | some (last, []) => some [last]
      | some (next, .mark "," :: rest) => (expressions? steps fuel rest).map (next :: ·)
      | _ => none

/-- The fuel that suffices for a number of lexemes: no lexeme is passed down more than eight times
before it is taken. -/
def enough (lexemes : List Lexeme) : Nat :=
  8 * lexemes.length + 8

/-- The field of a node with a name and a written type, if it can be read: as a field of a
structure, which may have a tag. -/
def ofField? (name written : Text) : Option Phrase := do
  let lexemes := .name name :: (← Lexeme.ofSource? written)
  match field? (enough lexemes) [] lexemes with
  | some (found, []) => some found
  | _ => none

/-- The field of a node with a name and a written type, which is left as it is written if it cannot
be read. -/
def ofField (name written : Text) : Phrase :=
  (ofField? name written).getD (.field [name] (.word written) [])

/-- The usual layout of written expressions, if they can be read. -/
def usualExpressions? (written : Text) : Option Text := do
  let lexemes ← Lexeme.ofSource? written
  let phrases ← expressions? (enough lexemes) lexemes.length lexemes
  return Text.joinWith (text ", ") (layoutAll 1 1 phrases)

/-- The usual layout of written expressions. -/
def usualExpressions (written : Text) : Text :=
  (usualExpressions? written).getD written

/-- The usual layout of the fields of a node, one line for each, or several if its type spans them.
-/
def fieldLines (fields : List Phrase) : List Text :=
  let rows := rowsOf 1 fields
  rowLines rows rows.length

end Phrase

end Scriptlet.NodeGrammar
