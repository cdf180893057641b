/-!
# Conditions

A condition compares texts and numbers and asks about files. It is read from left to right; a mistake
in it is met when everything in front of it has its value.
-/

namespace VolumeNode.Shell

/-- A condition. -/
inductive Condition where
  | never
  /-- The text is not empty. -/
  | filled (s : List Char)
  /-- The text is empty. -/
  | blank (s : List Char)
  /-- A descriptor leads to a terminal. -/
  | terminal (s : List Char)
  /-- What a path leads to is of a kind. -/
  | file (letter : Char) (path : List Char)
  | compare (operator : String) (a b : List Char)
  | denied (c : Condition)
  /-- Both have their value found. -/
  | both (a b : Condition)
  | either (a b : Condition)
  /-- A mistake. -/
  | broken (problem : String)
  deriving DecidableEq, Repr

namespace Condition

/-- What a word is in a condition. -/
inductive Role where
  | theEnd
  | operand
  | unary (letter : Char)
  | binary (operator : String)
  | negation
  | conjunction
  | disjunction
  | opening
  | closing
  deriving DecidableEq, Repr

/-- The operators between two words. -/
def binaryOperators : List String :=
  ["=", "!=", "<", ">", "-eq", "-ne", "-lt", "-le", "-gt", "-ge", "-nt", "-ot", "-ef"]

/-- The letters of the operators in front of a word. -/
def unaryLetters : List Char :=
  ['e', 'f', 'd', 'r', 'w', 'x', 's', 'h', 'L', 'p', 'S', 'b', 'c', 'u', 'g', 'k', 'O', 'G', 't', 'z',
   'n']

/-- What a word is on its own. -/
def role (word : List Char) : Role :=
  match word with
  | ['!'] => .negation
  | ['-', 'a'] => .conjunction
  | ['-', 'o'] => .disjunction
  | ['('] => .opening
  | [')'] => .closing
  | _ =>
    if binaryOperators.contains (String.ofList word) then .binary (String.ofList word)
    else
      match word with
      | ['-', c] => if unaryLetters.contains c then .unary c else .operand
      | _ => .operand

/-- Whether a word is an operator between two others. -/
def isBinary (word : List Char) : Bool :=
  binaryOperators.contains (String.ofList word)

/-- What the first of some words is: an operator needs words behind it, and in front of another
operator it is none. -/
def front : List (List Char) → Role
  | [] => .theEnd
  | word :: rest =>
    match role word, rest with
    | .unary _, [] => .operand
    | .unary c, [_] => .unary c
    | .unary c, next :: _ :: _ => if isBinary next then .operand else .unary c
    | .opening, [] => .operand
    | r, _ => r

/-- A mistake at a word. -/
def mistake (word : List Char) (problem : String) : Condition :=
  .broken ((if word.isEmpty then "" else String.ofList word ++ ": ") ++ problem)

/-- The condition of an operator in front of a word. -/
def ofUnary (letter : Char) (word : List Char) : Condition :=
  match letter with
  | 'n' => .filled word
  | 'z' => .blank word
  | 't' => .terminal word
  | c => .file c word

mutual

/-- Conditions of which one must hold, and the words from the last one of them on. -/
def anyOf : Nat → List (List Char) → Condition × List (List Char)
  | 0, words => (.never, words)
  | n + 1, words =>
    let (a, last) := allOf n words
    if front (last.drop 1) = .disjunction then
      let (b, last) := anyOf n (last.drop 2)
      (.either a b, last)
    else (a, last)

/-- Conditions that must all hold. -/
def allOf : Nat → List (List Char) → Condition × List (List Char)
  | 0, words => (.never, words)
  | n + 1, words =>
    let (a, last) := negated (front words) n words
    if front (last.drop 1) = .conjunction then
      let (b, last) := allOf n (last.drop 2)
      (.both a b, last)
    else (a, last)

/-- A condition with the negations in front of it. -/
def negated (r : Role) : Nat → List (List Char) → Condition × List (List Char)
  | 0, words => (.never, words)
  | n + 1, words =>
    if r = .negation then
      let next := front (words.drop 1)
      let (c, last) := negated next n (if next = .theEnd then words else words.drop 1)
      (.denied c, last)
    else single r n words

/-- A condition without connectives. -/
def single (r : Role) : Nat → List (List Char) → Condition × List (List Char)
  | 0, words => (.never, words)
  | n + 1, words =>
    match r with
    | .theEnd => (.never, words)
    | .opening =>
      let inside := words.drop 1
      if front inside = .closing then (.never, inside)
      else
        let (c, last) := anyOf n inside
        if front (last.drop 1) = .closing then (c, last.drop 1)
        else (.both c (.broken "closing paren expected"), [])
    | .unary letter =>
      match words.drop 1 with
      | [] => (mistake ['-', letter] "argument expected", [])
      | word :: rest => (ofUnary letter word, word :: rest)
    | _ =>
      match words with
      | a :: operator :: rest =>
        if isBinary operator then
          match rest with
          | [] => (mistake operator "argument expected", [])
          | b :: rest => (.compare (String.ofList operator) a b, b :: rest)
        else (.filled a, words)
      | [a] => (.filled a, words)
      | [] => (.never, [])

end

/-- The condition that all words make. -/
def whole (words : List (List Char)) : Condition :=
  match anyOf (6 * words.length + 6) words with
  | (c, word :: _ :: _) => .both c (mistake word "unexpected operator")
  | (c, _) => c

/-- Three words with an operator between two others. -/
def comparison? : List (List Char) → Option Condition
  | [a, operator, b] =>
    if isBinary operator then some (.compare (String.ofList operator) a b) else none
  | _ => none

/-- The condition that words make, of which three or four are read with a view to their number. A
negation in front of so few counts once, however often it stands there. -/
def ofWords (flipped : Bool) : Nat → List (List Char) → Condition
  | 0, words => if flipped then .denied (whole words) else whole words
  | n + 1, words =>
    let settle (c : Condition) : Condition := if flipped then .denied c else c
    match comparison? words with
    | some c => settle c
    | none =>
      if words.isEmpty then settle .never
      else if words.length != 3 && words.length != 4 then settle (whole words)
      else if words.head? = some ['('] && words.getLast? = some [')'] then
        settle (whole (words.drop 1).dropLast)
      else if words.head? = some ['!'] then ofWords true n (words.drop 1)
      else settle (whole words)

/-- The condition that words make. -/
def parse (words : List (List Char)) : Condition :=
  ofWords false 3 words

end Condition

end VolumeNode.Shell
