import Scriptlet.Text.Basic

/-!
# Go phrases

Types and expressions as trees, and their usual layout. The layout of an expression says where
blanks stand around operators: the more operators of different strength there are, and the deeper an
expression lies in others, the fewer blanks there are. The layout of a type says which of its parts
stand on lines of their own, and what stands in one column.
-/

namespace Scriptlet.NodeGrammar

/-- A type or an expression, or a part of one. -/
inductive Phrase where
  /-- A part that is left out. -/
  | absent
  /-- A name, or anything that is shown as it is written. -/
  | word (spelling : Text)
  | selected (base : Phrase) (member : Text)
  | asserted (base type : Phrase)
  | called (base : Phrase) (arguments : List Phrase) (spread : Bool)
  | indexed (base : Phrase) (indices : List Phrase)
  | sliced (base : Phrase) (bounds : List Phrase)
  | unary (operator : String) (operand : Phrase)
  | binary (operator : String) (left right : Phrase)
  | group (inner : Phrase)
  | composite (type : Phrase) (elements : List Phrase)
  | keyed (key value : Phrase)
  | array (length element : Phrase)
  | map (key value : Phrase)
  | channel (arrow : String) (element : Phrase)
  | function (parameters results : List Phrase)
  | variadic (element : Phrase)
  | structure (fields : List Phrase)
  | interface (members : List Phrase)
  /-- Names with a type and a tag behind it. A parameter is a field too, and a field may have no
  name. -/
  | field (names : List Text) (type : Phrase) (tag : Text)
  | method (name : Text) (signature : Phrase)
  deriving Inhabited

/-- How strongly an operator binds; other marks bind nothing. -/
def strength (operator : String) : Nat :=
  if operator = "||" then 1
  else if operator = "&&" then 2
  else if ["==", "!=", "<", "<=", ">", ">="].contains operator then 3
  else if ["+", "-", "|", "^"].contains operator then 4
  else if ["*", "/", "%", "<<", ">>", "&", "&^"].contains operator then 5
  else 0

namespace Phrase

/-- What decides about blanks in an expression: whether it has operators of the two strongest kinds,
and the strength up to which blanks are needed to keep two operators apart. -/
structure Mixture where
  additive : Bool := false
  multiplicative : Bool := false
  clash : Nat := 0

/-- Both mixtures together. -/
def Mixture.union (left right : Mixture) : Mixture where
  additive := left.additive || right.additive
  multiplicative := left.multiplicative || right.multiplicative
  clash := max left.clash right.clash

/-- The mixture of an operator alone. -/
def Mixture.ofOperator (operator : String) : Mixture where
  additive := strength operator = 4
  multiplicative := strength operator = 5

/-- The strength up to which an operator needs blanks before a sign. -/
def clash (operator sign : String) : Nat :=
  if ["/*", "&&", "&^"].contains (operator ++ sign) then 5
  else if ["++", "--"].contains (operator ++ sign) then 4
  else 0

/-- The mixture of an expression as far as its operators stand next to each other. -/
def mixture : Phrase → Mixture
  | .binary operator left right =>
      let leftPart := match left with
        | .binary inner _ _ =>
            if strength inner < strength operator then ({} : Mixture) else left.mixture
        | _ => ({} : Mixture)
      let rightPart := match right with
        | .binary inner _ _ =>
            if strength inner ≤ strength operator then ({} : Mixture) else right.mixture
        | .unary sign _ => { clash := clash operator sign }
        | _ => ({} : Mixture)
      (Mixture.ofOperator operator).union (leftPart.union rightPart)
  | _ => {}

/-- Operators that bind less than this have blanks around them. -/
def blankLimit (phrase : Phrase) (depth : Nat) : Nat :=
  let mixture := phrase.mixture
  if 0 < mixture.clash then mixture.clash + 1
  else if mixture.additive && mixture.multiplicative then (if depth = 1 then 5 else 4)
  else if depth = 1 then 6
  else 4

/-- Whether an expression is an operation on two operands of the given strength. -/
def isBinaryOf (limit : Nat) : Phrase → Bool
  | .binary operator _ _ => strength operator = limit
  | _ => false

/-- Whether an expression is an operation on two operands. -/
def isBinary : Phrase → Bool
  | .binary .. => true
  | _ => false

/-- Whether a part is there. -/
def isPresent : Phrase → Bool
  | .absent => false
  | _ => true

/-- The number of characters in a text. -/
def columns (source : Text) : Nat :=
  source.glyphs.length

/-- Whether a text spans several lines. -/
def spansLines (source : Text) : Bool :=
  source.contains Text.newline

/-- Line ends, and the tabs of a level behind each of them. -/
def lineBreak (level : Nat) : Text :=
  Text.newline :: List.replicate level (byte '\t')

/-- Pads the cells of a column. Cells of neighbouring rows are as wide as the widest of them and one
more; a row without a cell separates its neighbours. -/
def padColumn (rows : List (Option Text)) : List Text :=
  let widths := rows.map fun row => row.map columns
  -- Each row carries the greatest width of its run from both sides.
  let carry (widths : List (Option Nat)) : List (Option Nat) :=
    (widths.foldl
      (fun (done, widest) width =>
        match width with
        | none => (none :: done, 0)
        | some own => (some (max own widest) :: done, max own widest))
      (([] : List (Option Nat)), 0)).1
  let greatest := carry (carry widths)
  (rows.zip greatest).map fun (row, width) =>
    match row, width with
    | some cell, some width => cell ++ Text.spaces (width + 1 - columns cell)
    | _, _ => []

/-- A field as it is laid out: its names, its type and its tag. -/
structure Row where
  names : Text
  type : Text
  tag : Text

/-- The rows up to and with the first one whose type spans several lines, and the rest. -/
def section? : List Row → List Row × List Row
  | [] => ([], [])
  | row :: rest =>
      if spansLines row.type then ([row], rest)
      else
        let (more, after) := section? rest
        (row :: more, after)

/-- Lays out rows that share their columns. -/
def sectionLines (rows : List Row) : List Text :=
  let names := padColumn (rows.map fun row => if row.names.isEmpty then none else some row.names)
  let types := padColumn (rows.map fun row => if row.tag.isEmpty then none else some row.type)
  (rows.zip (names.zip types)).map fun (row, name, type) =>
    name ++ if row.tag.isEmpty then row.type else type ++ row.tag

/-- Lays out the rows of a structure. A row of several lines is the last of its columns, which the
fuel counts. -/
def rowLines (rows : List Row) : Nat → List Text
  | 0 => []
  | fuel + 1 =>
      match rows with
      | [] => []
      | _ =>
          let (shared, rest) := section? rows
          sectionLines shared ++ rowLines rest fuel

/-- The greatest width of the only part of a type that stands on one line with it. -/
def oneLineLimit : Nat := 30

/-- Whether the only part of a type stands on one line with it. -/
def fitsLine (named : Bool) (type : Text) : Bool :=
  !spansLines type && type.length + (if named then 1 else 0) ≤ oneLineLimit

/-- Names before a type. -/
def nameList (names : List Text) : Text :=
  Text.joinWith (text ", ") names

/-- Parts between braces on lines of their own. -/
def bracedLines (level : Nat) (lines : List Text) : Text :=
  text " \x7b" ++ lines.flatMap (lineBreak (level + 1) ++ ·) ++ lineBreak level ++ text "\x7d"

/-- The body of a structure type. -/
def structureBody (level : Nat) (rows : List Row) (one : Option Row) : Text :=
  match rows, one with
  | [], _ => text "\x7b\x7d"
  | _, some row =>
      text "\x7b " ++ row.names ++ (if row.names.isEmpty then [] else text " ") ++ row.type ++
        text " \x7d"
  | _, none => bracedLines level (rowLines rows rows.length)

/-- The row of a structure that stands on one line with it. -/
def oneRow? : List Row → Option Row
  | [row] => if row.tag.isEmpty && fitsLine (!row.names.isEmpty) row.type then some row else none
  | _ => none

/-- A member of an interface as it is laid out, and its size when it is to stand on one line with
the interface. A method counts with the word for functions. -/
structure Member where
  shown : Text
  size : Nat

/-- The body of an interface type. -/
def interfaceBody (level : Nat) (members : List Member) : Text :=
  match members with
  | [] => text "\x7b\x7d"
  | [only] =>
      if !spansLines only.shown && only.size ≤ oneLineLimit then
        text "\x7b " ++ only.shown ++ text " \x7d"
      else
        bracedLines level [only.shown]
  | _ => bracedLines level (members.map Member.shown)

/-- The bounds of a slice between colons; with blanks around the colons where bounds stand. -/
def boundsText (blanks : Bool) : List Text → Text
  | [] => []
  | [bound] => bound
  | bound :: next :: rest =>
      bound ++ (if blanks && !bound.isEmpty then text " " else []) ++ text ":" ++
        (if blanks && !next.isEmpty then text " " else []) ++ boundsText blanks (next :: rest)

/-- Whether the colons of a slice have blanks around them. -/
def spacedBounds (depth : Nat) (bounds : List Phrase) : Bool :=
  depth ≤ 1 && 1 < (bounds.filter isPresent).length && bounds.any isBinary

/-- Parameters and results behind the word for functions; a single result without a name stands
without parentheses. -/
def signature (parameters : List Text) (results : List Phrase) (shown : List Text) : Text :=
  text "(" ++ Text.joinWith (text ", ") parameters ++ text ")" ++
    match results, shown with
    | [], _ => []
    | [.field [] _ _], [only] => text " " ++ only
    | _, _ => text " (" ++ Text.joinWith (text ", ") shown ++ text ")"

mutual

/-- The layout of a phrase at a depth of expressions, on a line that is indented to a level. -/
def layout (level depth : Nat) : Phrase → Text
  | .absent => []
  | .word spelling => spelling
  | .selected base member => layout level depth base ++ text "." ++ member
  | .asserted base type =>
      layout level depth base ++ text ".(" ++ layout level 1 type ++ text ")"
  | .called base arguments spread =>
      let depth := if 1 < arguments.length then depth + 1 else depth
      layout level depth base ++ text "(" ++
        Text.joinWith (text ", ") (layoutAll level depth arguments) ++
        (if spread then text "..." else []) ++ text ")"
  | .indexed base indices =>
      layout level 1 base ++ text "[" ++
        Text.joinWith (text ", ") (layoutAll level (depth + 1) indices) ++ text "]"
  | .sliced base bounds =>
      layout level 1 base ++ text "[" ++
        boundsText (spacedBounds depth bounds) (layoutAll level (depth + 1) bounds) ++ text "]"
  | .unary operator operand =>
      text operator ++ layout level (if operator = "*" then 1 else depth) operand
  | .binary operator left right =>
      let blank :=
        if strength operator < blankLimit (.binary operator left right) depth then text " " else []
      layout level (if left.isBinaryOf (strength operator) then depth else depth + 1) left ++
        blank ++ text operator ++ blank ++ layout level (depth + 1) right
  | .group inner => text "(" ++ layout level (max 1 (depth - 1)) inner ++ text ")"
  | .composite type elements =>
      layout level depth type ++ text "\x7b" ++
        Text.joinWith (text ", ") (layoutAll level 1 elements) ++ text "\x7d"
  | .keyed key value => layout level 1 key ++ text ": " ++ layout level 1 value
  | .array length element =>
      text "[" ++ layout level 1 length ++ text "]" ++ layout level 1 element
  | .map key value => text "map[" ++ layout level 1 key ++ text "]" ++ layout level 1 value
  | .channel arrow element => text arrow ++ text " " ++ layout level 1 element
  | .function parameters results =>
      text "func" ++ signature (layoutAll level 1 parameters) results (layoutAll level 1 results)
  | .variadic element => text "..." ++ layout level 1 element
  | .structure fields =>
      let rows := rowsOf (level + 1) fields
      text "struct" ++ structureBody level rows (oneRow? rows)
  | .interface members =>
      text "interface" ++ interfaceBody level (membersOf (level + 1) members)
  | .field names type _ =>
      (if names.isEmpty then [] else nameList names ++ text " ") ++ layout level 1 type
  | .method name signature => name ++ (layout level 1 signature).drop 4

/-- The layouts of several phrases. -/
def layoutAll (level depth : Nat) : List Phrase → List Text
  | [] => []
  | phrase :: rest => layout level depth phrase :: layoutAll level depth rest

/-- The rows of the fields of a structure. -/
def rowsOf (level : Nat) : List Phrase → List Row
  | [] => []
  | .field names type tag :: rest =>
      { names := nameList names, type := layout level 1 type, tag } :: rowsOf level rest
  | other :: rest => { names := [], type := layout level 1 other, tag := [] } :: rowsOf level rest

/-- The members of an interface. -/
def membersOf (level : Nat) : List Phrase → List Member
  | [] => []
  | .method name signature :: rest =>
      let shown := layout level 1 signature
      { shown := name ++ shown.drop 4, size := shown.length + 1 } :: membersOf level rest
  | other :: rest =>
      let shown := layout level 1 other
      { shown, size := shown.length } :: membersOf level rest

end

end Phrase

end Scriptlet.NodeGrammar
