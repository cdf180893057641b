import VolumeNode.Shell.Script

/-!
# Reading scripts

A script is read one line of commands at a time, so that what stands in front of a mistake has run
before the mistake is seen. The recursion is bounded by a number that the length of the text gives.
-/

namespace VolumeNode.Shell.Reader

open Execution

/-- Why a text is no script. -/
inductive Fault where
  | unexpected (token : String) (expected : Option String)
  | unterminatedString
  | unterminatedSubstitution
  | missingBrace
  | missingBrackets
  | badSubstitution
  | badLoopVariable
  | badFunctionName
  | tooDeep
  deriving DecidableEq, Repr

/-- What is said of a text that is no script. -/
def Fault.message : Fault → String
  | unexpected token expected =>
    "Syntax error: " ++ token ++ " unexpected"
      ++ match expected with
        | some e => " (expecting " ++ e ++ ")"
        | none => ""
  | unterminatedString => "Syntax error: Unterminated quoted string"
  | unterminatedSubstitution => "Syntax error: EOF in backquote substitution"
  | missingBrace => "Syntax error: Missing '\x7d'"
  | missingBrackets => "Syntax error: Missing '))'"
  | badLoopVariable => "Syntax error: Bad for loop variable"
  | badSubstitution => "Bad substitution"
  | badFunctionName => "Syntax error: Bad function name"
  | tooDeep => "Syntax error: too deep"

/-- What is left of a text, and how many ends of lines the whole text has. -/
structure Input where
  rest : List Char
  lines : Nat

/-- A part of the reader. -/
abbrev Reading (α : Type) :=
  ExceptT Fault (StateM Input) α

/-- What is left of the text. -/
def peek : Reading (List Char) := do
  return (← get).rest

/-- Goes on with another rest of the text. -/
def goTo (cs : List Char) : Reading Unit :=
  modify fun i => { i with rest := cs }

/-- The number of the line that has been reached. -/
def lineNumber : Reading Nat := do
  let i ← get
  return i.lines + 1 - i.rest.count '\n'

/-- A character that ends a word. -/
def isMeta (c : Char) : Bool :=
  [' ', '\t', '\n', ';', '&', '|', '<', '>', '(', ')'].contains c

/-- A character that a name can begin with. -/
def startsName (c : Char) : Bool :=
  c.isAlpha || c == '_'

/-- A character of a name. -/
def inName (c : Char) : Bool :=
  c.isAlphanum || c == '_'

/-- The text behind blanks and a comment. -/
def skipBlanks : Bool → List Char → List Char
  | true, '\n' :: rest => '\n' :: rest
  | true, _ :: rest => skipBlanks true rest
  | false, ' ' :: rest => skipBlanks false rest
  | false, '\t' :: rest => skipBlanks false rest
  | false, '\\' :: '\n' :: rest => skipBlanks false rest
  | false, '#' :: rest => skipBlanks true rest
  | _, cs => cs

/-- The text behind blanks, comments and ends of lines. -/
def skipLines : Nat → List Char → List Char
  | 0, cs => cs
  | n + 1, cs =>
    match skipBlanks false cs with
    | '\n' :: rest => skipLines n rest
    | rest => rest

/-- Goes on behind blanks. -/
def blanks : Reading Unit := do
  goTo (skipBlanks false (← peek))

/-- Goes on behind blanks and ends of lines. -/
def newlines : Reading Unit := do
  let cs ← peek
  goTo (skipLines (cs.length + 1) cs)

/-- The words that have a meaning of their own where a command begins. -/
def reserved : List String :=
  ["if", "then", "else", "elif", "fi", "do", "done", "case", "esac", "while", "until", "for", "in",
   "\x7b", "\x7d", "!"]

/-- The reserved word that a text begins with, and the text behind it. -/
def reserved? (cs : List Char) : Option (String × List Char) :=
  let name := String.ofList (cs.takeWhile fun c => !isMeta c)
  if reserved.contains name then some (name, cs.dropWhile fun c => !isMeta c) else none

/-- How a text is called in a fault. -/
def tokenOf (cs : List Char) : String :=
  match cs with
  | [] => "end of file"
  | '\n' :: _ => "newline"
  | ';' :: ';' :: _ => "\";;\""
  | '&' :: '&' :: _ => "\"&&\""
  | '|' :: '|' :: _ => "\"||\""
  | c :: _ =>
    if isMeta c then "\"" ++ String.ofList [c] ++ "\""
    else
      match reserved? cs with
      | some (name, _) => "\"" ++ name ++ "\""
      | none => "word"

/-- Refuses what stands here. -/
def refuse {α : Type} (expected : Option String) : Reading α := do
  throw (.unexpected (tokenOf (← peek)) (expected.map fun e => "\"" ++ e ++ "\""))

/-- Goes on behind a reserved word that must stand here. -/
def expect (word : String) : Reading Unit := do
  newlines
  match reserved? (← peek) with
  | some (name, rest) => if name = word then goTo rest else refuse (some word)
  | none => refuse (some word)

/-- Goes on behind a character that must stand here. -/
def expectChar (c : Char) : Reading Unit := do
  newlines
  match ← peek with
  | d :: rest => if c = d then goTo rest else refuse (some (String.ofList [c]))
  | [] => refuse (some (String.ofList [c]))

/-- Where pieces of a word stand. -/
inductive Mode where
  | plain
  | braces
  | quoted
  | quotedBraces
  | document
  /-- Inside an expression, so many brackets deep. -/
  | expression (depth : Nat)
  deriving DecidableEq, Repr

/-- Whether pieces are quoted. -/
def Mode.isQuoted : Mode → Bool
  | plain | braces => false
  | _ => true

/-- A text up to the next quote of one kind, and the text behind it. -/
def upTo (quote : Char) (cs : List Char) : Reading (List Char) :=
  match cs.span (· != quote) with
  | (body, _ :: rest) => do
    goTo rest
    return body
  | (_, []) => do
    goTo []
    throw .unterminatedString

/-- The script between two back quotes, in which some backslashes do not count. -/
def backQuoted (quoted : Bool) : List Char → List Char → Option (List Char × List Char)
  | _, [] => none
  | done, '\x60' :: rest => some (done.reverse, rest)
  | done, '\\' :: c :: rest =>
    if c = '\x60' || c = '\\' || c = '$' || (quoted && c = '"') then backQuoted quoted (c :: done) rest
    else backQuoted quoted (c :: '\\' :: done) rest
  | done, c :: rest => backQuoted quoted (c :: done) rest

/-- The name of a parameter that a text begins with. In braces it may have several digits. -/
def parameterName? (braced : Bool) (cs : List Char) : Option (List Char × List Char) :=
  match cs with
  | [] => none
  | c :: rest =>
    if startsName c then some (cs.span inName)
    else if c.isDigit then if braced then some (cs.span Char.isDigit) else some ([c], rest)
    else if ['?', '#', '@', '*', '$', '!', '-'].contains c then some ([c], rest)
    else none

/-- The lines of a text up to one that is a given word, and the text behind that line. -/
def documentLines (word : List Char) (strip : Bool) : Nat → List Char → List Char × List Char
  | 0, cs => ([], cs)
  | n + 1, cs =>
    let (line, rest) := cs.span (· != '\n')
    let line := if strip then line.dropWhile (· == '\t') else line
    if line = word || (line.isEmpty && rest.isEmpty) then ([], rest.drop 1)
    else
      match rest with
      | [] => (line, [])
      | _ :: rest =>
        let (body, rest) := documentLines word strip n rest
        (line ++ '\n' :: body, rest)

/-- The operator that a redirection begins with, and the text behind it. -/
def redirectionOperator? : List Char → Option (String × List Char)
  | '<' :: '<' :: '-' :: rest => some ("<<-", rest)
  | '<' :: '<' :: rest => some ("<<", rest)
  | '<' :: '&' :: rest => some ("<&", rest)
  | '<' :: '>' :: rest => some ("<>", rest)
  | '<' :: rest => some ("<", rest)
  | '>' :: '>' :: rest => some (">>", rest)
  | '>' :: '&' :: rest => some (">&", rest)
  | '>' :: '|' :: rest => some (">", rest)
  | '>' :: rest => some (">", rest)
  | _ => none

/-- The descriptor and the operator of a redirection that a text begins with. -/
def redirectionStart? (cs : List Char) : Option (Nat × String × List Char) :=
  let (fd?, cs) := match cs with
    | c :: d :: rest =>
      if c.isDigit && (d = '<' || d = '>') then (some (c.toNat - 0x30), d :: rest) else (none, cs)
    | _ => (none, cs)
  (redirectionOperator? cs).map fun (operator, rest) =>
    (fd?.getD (if operator.startsWith "<" then 0 else 1), operator, rest)

/-- The name and the rest of a word that is an assignment. -/
def assignment? (cs : List Char) : Option (List Char × List Char) :=
  match cs with
  | c :: _ =>
    if startsName c then
      match cs.span inName with
      | (name, '=' :: rest) => some (name, rest)
      | _ => none
    else none
  | [] => none

/-- The characters of pieces that have no value of their own. -/
def literalText (ps : List Piece) : List Char :=
  ps.flatMap fun
    | .literal _ cs => cs
    | _ => []

/-- Whether a part of pieces is quoted. -/
def hasQuotes (ps : List Piece) : Bool :=
  ps.any fun
    | .literal quoted _ => quoted
    | _ => false

mutual

/-- The pieces up to what ends them. -/
def pieces (m : Mode) : Nat → Reading (List Piece)
  | 0 => throw .tooDeep
  | n + 1 => do
    let q := m.isQuoted
    match ← peek with
    | [] =>
      match m with
      | .plain | .document => return []
      | .quoted => throw .unterminatedString
      | .braces | .quotedBraces => throw .missingBrace
      | .expression _ => throw .missingBrackets
    | c :: rest =>
      match m, c, rest with
      | .quoted, '"', _ => return []
      | .braces, '\x7d', _ => return []
      | .quotedBraces, '\x7d', _ => return []
      | .expression 0, ')', ')' :: _ => return []
      | _, '\\', '\n' :: rest => do
        goTo rest
        pieces m n
      | _, '\\', d :: rest => do
        if q && !(d = '$' || d = '\x60' || d = '\\' || (d = '"' && m != .document)
            || (d = '\x7d' && m = .quotedBraces)) then
          goTo (d :: rest)
          return pushLiteral q '\\' (← pieces m n)
        else
          goTo rest
          return pushLiteral true d (← pieces m n)
      | _, '$', _ => do
        goTo rest
        let front ← dollar m n
        return front ++ (← pieces m n)
      | _, '\x60', _ => do
        match backQuoted q [] rest with
        | none => do
          goTo []
          throw .unterminatedSubstitution
        | some (script, rest) => do
          let i ← get
          set ({ rest := script, lines := script.count '\n' } : Input)
          let c ← list n
          newlines
          if !(← peek).isEmpty then refuse none
          set { i with rest := rest }
          return .output q c :: (← pieces m n)
      | _, '\'', _ =>
        if q then do
          goTo rest
          return pushLiteral true c (← pieces m n)
        else do
          let body ← upTo '\'' rest
          return .literal true body :: (← pieces m n)
      | _, '"', _ =>
        if m = .document then do
          goTo rest
          return pushLiteral true c (← pieces m n)
        else do
          goTo rest
          let inner ← pieces .quoted n
          goTo ((← peek).drop 1)
          return .literal true [] :: (inner ++ (← pieces m n))
      | .expression d, '(', _ => do
        goTo rest
        return pushLiteral true c (← pieces (.expression (d + 1)) n)
      | .expression d, ')', _ => do
        goTo rest
        return pushLiteral true c (← pieces (.expression (d - 1)) n)
      | _, _, _ =>
        if m = .plain && isMeta c then return []
        else do
          goTo rest
          return pushLiteral q c (← pieces m n)

/-- What stands behind a dollar sign. -/
def dollar (m : Mode) : Nat → Reading (List Piece)
  | 0 => throw .tooDeep
  | n + 1 => do
    let q := m.isQuoted
    match ← peek with
    | '(' :: '(' :: rest => do
      goTo rest
      let expression ← pieces (.expression 0) n
      goTo ((← peek).drop 2)
      return [.value q expression]
    | '(' :: rest => do
      goTo rest
      let c ← list n
      expectChar ')'
      return [.output q c]
    | '\x7b' :: rest => do
      goTo rest
      braced m n
    | cs =>
      match parameterName? false cs with
      | some (name, rest) => do
        goTo rest
        return [.parameter q name .plain]
      | none => return [.literal q ['$']]

/-- A parameter in braces. -/
def braced (m : Mode) : Nat → Reading (List Piece)
  | 0 => throw .tooDeep
  | n + 1 => do
    let q := m.isQuoted
    let cs ← peek
    let measured := match cs with
      | '#' :: c :: _ => c != '\x7d' && (parameterName? true (cs.drop 1)).isSome
      | _ => false
    match parameterName? true (if measured then cs.drop 1 else cs) with
    | none => throw (if cs.isEmpty then .missingBrace else .badSubstitution)
    | some (name, rest) => do
      let (orEmpty, rest) := match rest with
        | ':' :: rest => (true, rest)
        | _ => (false, rest)
      let inner : Mode := if q then .quotedBraces else .braces
      let word (rest : List Char) (m : Mode) : Reading (List Piece) := do
        goTo rest
        let ps ← pieces m n
        goTo ((← peek).drop 1)
        return ps
      match rest with
      | '\x7d' :: rest => do
        goTo rest
        return [.parameter q name (if measured then .length else .plain)]
      | '-' :: rest => return [.parameter q name (.otherwise orEmpty (← word rest inner))]
      | '=' :: rest => return [.parameter q name (.assign orEmpty (← word rest inner))]
      | '?' :: rest => return [.parameter q name (.require orEmpty (← word rest inner))]
      | '+' :: rest => return [.parameter q name (.instead orEmpty (← word rest inner))]
      | '#' :: '#' :: rest => return [.parameter q name (.without false true (← word rest .braces))]
      | '#' :: rest => return [.parameter q name (.without false false (← word rest .braces))]
      | '%' :: '%' :: rest => return [.parameter q name (.without true true (← word rest .braces))]
      | '%' :: rest => return [.parameter q name (.without true false (← word rest .braces))]
      | [] => do
        goTo []
        throw .missingBrace
      | _ => throw .badSubstitution

/-- A redirection, given what it begins with. -/
def redirection (fd : Nat) (operator : String) (rest : List Char) : Nat → Reading Redirection
  | 0 => throw .tooDeep
  | n + 1 => do
    goTo rest
    blanks
    let word ← pieces .plain n
    if word.isEmpty then refuse none
    match operator with
    | "<" => return .file fd .read word
    | ">" => return .file fd .write word
    | ">>" => return .file fd .append word
    | "<>" => return .file fd .both word
    | ">&" | "<&" => return .copy fd word
    | _ => do
      let cs ← peek
      let (front, back) := cs.span (· != '\n')
      let (body, back) :=
        documentLines (literalText word) (operator = "<<-") (back.length + 1) (back.drop 1)
      if hasQuotes word then do
        goTo (front ++ '\n' :: back)
        return .text fd [.literal true body]
      else do
        let i ← get
        set { i with rest := body }
        let ps ← pieces .document n
        goTo (front ++ '\n' :: back)
        return .text fd ps

/-- The redirections that stand here. -/
def redirections : Nat → Reading (List Redirection)
  | 0 => throw .tooDeep
  | n + 1 => do
    blanks
    match redirectionStart? (← peek) with
    | none => return []
    | some (fd, operator, rest) => do
      let r ← redirection fd operator rest n
      return r :: (← redirections n)

/-- The words that stand here. -/
def wordList : Nat → Reading (List (List Piece))
  | 0 => throw .tooDeep
  | n + 1 => do
    blanks
    match ← pieces .plain n with
    | [] => return []
    | word => return word :: (← wordList n)

/-- The assignments, words and redirections of a simple command, in front of which the given ones
stand. -/
def simpleParts (assignments : List (List Char × List Piece)) (words : List (List Piece))
    (rs : List Redirection) :
    Nat → Reading (List (List Char × List Piece) × List (List Piece) × List Redirection)
  | 0 => throw .tooDeep
  | n + 1 => do
    blanks
    let cs ← peek
    match redirectionStart? cs with
    | some (fd, operator, rest) => do
      let r ← redirection fd operator rest n
      simpleParts assignments words (rs ++ [r]) n
    | none =>
      match if words.isEmpty then assignment? cs else none with
      | some (name, rest) => do
        goTo rest
        let value ← pieces .plain n
        simpleParts (assignments ++ [(name, value)]) words rs n
      | none =>
        match ← pieces .plain n with
        | [] => return (assignments, words, rs)
        | word => simpleParts assignments (words ++ [word]) rs n

/-- The patterns of a branch. -/
def patterns : Nat → Reading (List (List Piece))
  | 0 => throw .tooDeep
  | n + 1 => do
    blanks
    let p ← pieces .plain n
    blanks
    match ← peek with
    | '|' :: rest => do
      goTo rest
      return p :: (← patterns n)
    | _ => return [p]

/-- The branches of a selection. -/
def branches : Nat → Reading (List (List (List Piece) × Command))
  | 0 => throw .tooDeep
  | n + 1 => do
    newlines
    match reserved? (← peek) with
    | some ("esac", rest) => do
      goTo rest
      return []
    | _ => do
      match ← peek with
      | '(' :: rest => goTo rest
      | _ => pure ()
      let ps ← patterns n
      expectChar ')'
      let c ← list n
      newlines
      match ← peek with
      | ';' :: ';' :: rest => do
        goTo rest
        return (ps, c) :: (← branches n)
      | _ => do
        expect "esac"
        return [(ps, c)]

/-- What stands behind the first condition. -/
def choiceRest : Nat → Reading (Command × Command)
  | 0 => throw .tooDeep
  | n + 1 => do
    expect "then"
    let yes ← list n
    newlines
    match reserved? (← peek) with
    | some ("elif", rest) => do
      goTo rest
      let test ← list n
      let (y, no) ← choiceRest n
      return (yes, .choice test y no)
    | some ("else", rest) => do
      goTo rest
      let no ← list n
      expect "fi"
      return (yes, no)
    | _ => do
      expect "fi"
      return (yes, .nothing)

/-- A command that is no pipeline. -/
def command : Nat → Reading Command
  | 0 => throw .tooDeep
  | n + 1 => do
    blanks
    let cs ← peek
    let compound (c : Command) : Reading Command := do
      match ← redirections n with
      | [] => return c
      | rs => return .redirected c rs
    match cs with
    | '(' :: rest => do
      goTo rest
      let c ← list n
      expectChar ')'
      compound (.subshell c)
    | _ =>
      match reserved? cs with
      | some ("\x7b", rest) => do
        goTo rest
        let c ← list n
        expect "\x7d"
        compound c
      | some ("if", rest) => do
        goTo rest
        let test ← list n
        let (yes, no) ← choiceRest n
        compound (.choice test yes no)
      | some ("while", rest) => do
        goTo rest
        let test ← list n
        expect "do"
        let body ← list n
        expect "done"
        compound (.loop false test body)
      | some ("until", rest) => do
        goTo rest
        let test ← list n
        expect "do"
        let body ← list n
        expect "done"
        compound (.loop true test body)
      | some ("for", rest) => do
        goTo rest
        blanks
        let (name, rest) := (← peek).span inName
        if name.isEmpty then throw .badLoopVariable
        goTo rest
        newlines
        let words ← match reserved? (← peek) with
          | some ("in", rest) => do
            goTo rest
            let ws ← wordList n
            blanks
            pure (some ws)
          | _ => pure none
        blanks
        match ← peek with
        | ';' :: rest => goTo rest
        | _ => pure ()
        expect "do"
        let body ← list n
        expect "done"
        compound (.each name words body)
      | some ("case", rest) => do
        goTo rest
        blanks
        let word ← pieces .plain n
        expect "in"
        let bs ← branches n
        compound (.select word bs)
      | some _ => refuse none
      | none =>
        let line ← lineNumber
        let (name, rest) := cs.span inName
        match if name.isEmpty then [] else skipBlanks false rest with
        | '(' :: rest => do
          match skipBlanks false rest with
          | ')' :: rest => do
            goTo rest
            newlines
            let body ← command n
            return .define name body
          | _ => do
            let cs := skipBlanks false rest
            goTo cs
            throw (.unexpected (if (reserved? cs).isSome then "word" else tokenOf cs) (some "\")\""))
        | _ => do
          let (assignments, words, rs) ← simpleParts [] [] [] n
          if assignments.isEmpty && words.isEmpty && rs.isEmpty then refuse none
          else return .simple line assignments words rs

/-- The commands of a pipeline. -/
def pipelineRest : Nat → Reading (List Command)
  | 0 => throw .tooDeep
  | n + 1 => do
    let c ← command n
    blanks
    match ← peek with
    | '|' :: '|' :: _ => return [c]
    | '|' :: rest => do
      goTo rest
      newlines
      return c :: (← pipelineRest n)
    | _ => return [c]

/-- A pipeline. -/
def pipeline : Nat → Reading Command
  | 0 => throw .tooDeep
  | n + 1 => do
    blanks
    match reserved? (← peek) with
    | some ("!", rest) => do
      goTo rest
      return .negated (← pipeline n)
    | _ => do
      match ← pipelineRest n with
      | [c] => return c
      | cs => return .pipeline cs

/-- Pipelines that depend on each other, behind a first one. -/
def andOrRest (first : Command) : Nat → Reading Command
  | 0 => throw .tooDeep
  | n + 1 => do
    blanks
    match ← peek with
    | '&' :: '&' :: rest => do
      goTo rest
      newlines
      let c ← pipeline n
      andOrRest (.both first c) n
    | '|' :: '|' :: rest => do
      goTo rest
      newlines
      let c ← pipeline n
      andOrRest (.either first c) n
    | _ => return first

/-- Commands up to what ends them: the end, a closing bracket, two semicolons or a reserved word that
begins no command. On one line they end where it ends. -/
def commands (oneLine : Bool) : Nat → Reading Command
  | 0 => throw .tooDeep
  | n + 1 => do
    if oneLine then blanks else newlines
    let cs ← peek
    let atEnd := match cs with
      | [] | ')' :: _ | ';' :: ';' :: _ | '\n' :: _ => true
      | _ =>
        match reserved? cs with
        | some (name, _) => ["then", "else", "elif", "fi", "do", "done", "esac", "\x7d", "in"].contains name
        | none => false
    if atEnd then return .nothing
    else do
      let first ← pipeline n
      let c ← andOrRest first n
      blanks
      match ← peek with
      | ';' :: ';' :: _ => return c
      | ';' :: rest => do
        goTo rest
        return c.andThen (← commands oneLine n)
      | '&' :: rest => do
        goTo rest
        return (Command.background c).andThen (← commands oneLine n)
      | '\n' :: _ =>
        if oneLine then return c else return c.andThen (← commands oneLine n)
      | [] | ')' :: _ => return c
      | _ => refuse none

/-- Commands on any number of lines. -/
def list : Nat → Reading Command
  | 0 => throw .tooDeep
  | n + 1 => commands false n

end

/-- Bounds the recursion on a text. -/
def bound (cs : List Char) : Nat :=
  12 * cs.length + 40

/-- What is found where a text goes on. -/
inductive Found where
  | theEnd
  | commands (c : Command) (rest : Input)
  | mistake (f : Fault) (line : Nat)

/-- The commands on the next line that has any. -/
def next (i : Input) : Found :=
  let rest := skipLines (i.rest.length + 1) i.rest
  if rest.isEmpty then .theEnd
  else
    let step : Reading Command := do
      let c ← commands true (bound rest)
      match ← peek with
      | [] => return c
      | '\n' :: rest => do
        goTo rest
        return c
      | _ => refuse none
    match (step.run { i with rest := rest }).run with
    | (.ok c, i) => .commands c i
    | (.error f, i) => .mistake f (i.lines + 1 - i.rest.count '\n')

/-- A text that is to be read. -/
def inputOf (cs : List Char) : Input :=
  ⟨cs, cs.count '\n'⟩

end VolumeNode.Shell.Reader
