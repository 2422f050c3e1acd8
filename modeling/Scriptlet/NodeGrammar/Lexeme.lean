import Scriptlet.NodeGrammar.Basic

/-!
# Lexemes of Go phrases

A grammar holds small pieces of Go: the types of fields, and where a node keeps its line. Here such
a piece is cut into lexemes. Pieces with comments, with line ends or with other words of Go are not
cut.
-/

namespace Scriptlet.NodeGrammar

/-- A lexeme of a Go phrase. -/
inductive Lexeme where
  | name (word : Text)
  | literal (spelling : Text)
  | mark (spelling : String)
  deriving DecidableEq

namespace Lexeme

/-- The words that are marks of the phrases read here. -/
def markWords : List String :=
  ["chan", "func", "interface", "map", "struct"]

/-- The marks that are no words, longer ones before those they start with. -/
def marks : List String :=
  ["...", "&^", "&&", "||", "<<", ">>", "<-", "==", "!=", "<=", ">=", "++", "--", "+", "-", "*",
    "/", "%", "&", "|", "^", "<", ">", "!", "~", "(", ")", "[", "]", "\x7b", "\x7d", ",", ";", ".",
    ":"]

/-- Whether a character may stand in a number. -/
def inNumber (character : Char) : Bool :=
  character.isAlphanum || character = '_' || character = '.'

/-- The length of a number: a sign belongs to it behind the letter of an exponent. -/
def numberLength (hexadecimal : Bool) (previous : Char) : List Char → Nat
  | [] => 0
  | character :: rest =>
      let exponent := if hexadecimal then previous.toLower = 'p' else previous.toLower = 'e'
      if inNumber character || (exponent && (character = '+' || character = '-')) then
        1 + numberLength hexadecimal character rest
      else
        0

/-- Replaces the last occurrence of a character in a number by its lower-case form. -/
def lowerLast (target : Char) (characters : List Char) : List Char :=
  let behind := (characters.reverse.takeWhile (· ≠ target)).reverse
  if behind.length < characters.length then
    characters.take (characters.length - behind.length - 1) ++ target.toLower :: behind
  else
    characters

/-- The usual spelling of a number: letters for bases and exponents are small, and a whole imaginary
number has no leading zeros. -/
def usualNumber (characters : List Char) : List Char :=
  match characters with
  | [_] => characters
  | '0' :: 'X' :: rest => lowerLast 'P' ('0' :: 'x' :: rest)
  | '0' :: 'x' :: _ => lowerLast 'P' characters
  | '0' :: 'O' :: rest => '0' :: 'o' :: rest
  | '0' :: 'o' :: _ => characters
  | '0' :: 'B' :: rest => '0' :: 'b' :: rest
  | '0' :: 'b' :: _ => characters
  | _ =>
      if characters.contains 'E' then lowerLast 'E' characters
      else if characters.getLast? = some 'i' && !characters.contains '.' &&
          !characters.contains 'e' then
        match characters.dropWhile fun character => character = '0' || character = '_' with
        | ['i'] => ['0', 'i']
        | trimmed => trimmed
      else
        characters

/-- The length of a quoted literal behind its opening quote, up to and with the closing one. -/
def quotedLength? (quote : Char) : List Char → Option Nat
  | [] => none
  | character :: rest =>
      if character = quote then some 1
      else if character = '\n' && quote ≠ '\x60' then none
      else if character = '\\' && quote ≠ '\x60' then
        match rest with
        | [] => none
        | _ :: after => (quotedLength? quote after).map (· + 2)
      else
        (quotedLength? quote rest).map (· + 1)

/-- The lexeme that characters start with, and how many of them it takes. -/
def first? (character : Char) (rest : List Char) : Option (Lexeme × Nat) :=
  if (Glyph.char character).startsName then
    let word := character :: rest.takeWhile fun next => (Glyph.char next).continuesName
    let spelling := Text.ofChars word
    match markWords.find? fun known => text known = spelling with
    | some found => some (.mark found, word.length)
    | none =>
        if reservedWords.any fun known => text known = spelling then none
        else some (.name spelling, word.length)
  else if character.isDigit || (character = '.' && (rest.head?).any Char.isDigit) then
    let hexadecimal := character = '0' && (rest.head?).any fun next => next.toLower = 'x'
    let length := numberLength hexadecimal character rest
    some (.literal (Text.ofChars (usualNumber (character :: rest.take length))), length + 1)
  else if character = '"' || character = '\'' || character = '\x60' then
    (quotedLength? character rest).map fun length =>
      (.literal (Text.ofChars (character :: rest.take length)), length + 1)
  else
    (marks.find? fun known => known.toList.isPrefixOf (character :: rest)).map fun found =>
      (.mark found, found.length)

/-- Whether characters start with a comment. -/
def startsComment (characters : List Char) : Bool :=
  ['/', '/'].isPrefixOf characters || ['/', '*'].isPrefixOf characters

/-- The lexemes of characters; each takes at least one character, which the fuel counts. -/
def cut? (characters : List Char) : Nat → Option (List Lexeme)
  | 0 => some []
  | fuel + 1 =>
      match characters with
      | [] => some []
      | character :: rest =>
          if character = ' ' || character = '\t' then cut? rest fuel
          else if startsComment characters then none
          else do
            let (lexeme, length) ← first? character rest
            let more ← cut? (characters.drop length) fuel
            return lexeme :: more

/-- The lexemes of a phrase. -/
def ofSource? (source : Text) : Option (List Lexeme) :=
  let characters := source.scalars
  if source.isWellFormed then cut? characters characters.length else none

end Lexeme

end Scriptlet.NodeGrammar
