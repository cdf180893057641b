import VolumeNode.CommandLine.Parameter

/-!
# Reading a command line

The words are read from the left. An option that wants a value takes the next word, unless that is an
option itself; its value is judged when the next thing is said at the same level, or at its end. The
first word that names a subcommand ends the level in front of it, and everything else is said to the
subcommand, whose faults come first. Behind two dashes there are operands only.
-/

namespace VolumeNode.CommandLine

/-- What has been read of one level. -/
structure Progress where
  /-- What has been accepted, and its values in order. -/
  given : List (Parameter × List String) := []
  /-- What is to be judged, and its value if it has one by now. -/
  pending : Option (Parameter × Option String) := none
  /-- How many operands there were. -/
  operands : Nat := 0
  deriving DecidableEq, Repr, Inhabited

namespace Progress

/-- The values that were given for a parameter. -/
def values? (g : Progress) (p : Parameter) : Option (List String) :=
  g.given.lookup p

/-- Whether the next word is a value, unless it is an option. -/
def awaits (g : Progress) : Bool :=
  match g.pending with
  | some (_, none) => true
  | _ => false

/-- Accepts a parameter with its values. -/
def accept (g : Progress) (p : Parameter) (values : List String) : Except Fault Progress :=
  match g.values? p with
  | none => do
    values.forM p.check
    .ok { g with given := g.given ++ [(p, values)] }
  | some before =>
    if p.arity = .repeated then do
      values.forM p.check
      .ok { g with given := g.given.map fun e => if e.1 = p then (p, before ++ values) else e }
    else .error .conflict

/-- Judges what is pending. -/
def settle (g : Progress) : Except Fault Progress :=
  match g.pending with
  | none => .ok g
  | some (_, none) => .error .invalidValue
  | some (p, some value) => accept { g with pending := none } p [value]

/-- A switch. Two of them are requests for a text. -/
def switch (g : Progress) (p : Parameter) : Except Fault Progress := do
  let g ← g.settle
  match p with
  | .help => .error .displayHelp
  | .version => .error .displayVersion
  | p => g.accept p []

/-- An option that has its value attached, or wants one. -/
def withValue (g : Progress) (p : Parameter) (attached : Option String) : Except Fault Progress := do
  let g ← g.settle
  match attached with
  | some value => g.accept p [value]
  | none => .ok { g with pending := some (p, none) }

/-- The value of an option that wants one. -/
def supply (g : Progress) (value : String) : Progress :=
  { g with pending := g.pending.map fun e => (e.1, some value) }

/-- A word that is neither an option nor the value of one. -/
def operand (g : Progress) (l : Level) (excess : Fault) (word : String) : Except Fault Progress :=
  match l.operands[g.operands]? with
  | none => .error excess
  | some p => do
    let g ← g.settle
    let g ← g.accept p [word]
    .ok { g with operands := g.operands + 1 }

/-- The text in front of the first equals sign, and the text behind it if there is one. -/
def splitEquals (cs : List Char) : String × Option String :=
  let (name, rest) := cs.span (· != '=')
  (String.ofList name, match rest with
    | [] => none
    | _ :: value => some (String.ofList value))

/-- A word with two dashes, given without them. -/
def longOption (g : Progress) (l : Level) (body : List Char) : Except Fault Progress :=
  let (name, attached) := splitEquals body
  match l.long? name with
  | none => .error .unknownArgument
  | some p =>
    if p.arity = .switch then
      if attached.isSome then .error .needlessValue else g.switch p
    else g.withValue p attached

/-- The value that stands behind a letter in the same word. -/
def attachedTo : List Char → Option String
  | [] => none
  | '=' :: rest => some (String.ofList rest)
  | cs => some (String.ofList cs)

/-- A word with one dash, given without it: letters of switches, and perhaps one that has a value. -/
def shortOptions (l : Level) : List Char → Progress → Except Fault Progress
  | [], g => .ok g
  | c :: rest, g =>
    match l.short? c with
    | none => .error .unknownArgument
    | some p =>
      if p.arity = .switch then do shortOptions l rest (← g.switch p)
      else g.withValue p (attachedTo rest)

/-- The fault of one operand too many. In front of a subcommand no word is an operand; one that
names a subcommand but stands behind two dashes is told apart. -/
def excess (l : Level) (literally : Bool) (word : String) : Fault :=
  match l with
  | .top =>
    if literally && ((Level.ofName? word).isSome || word == "help") then .unknownArgument
    else .invalidSubcommand
  | _ => .unknownArgument

/-- The words behind two dashes. -/
def literal (l : Level) : List String → Progress → Except Fault Progress
  | [], g => .ok g
  | word :: rest, g => do literal l rest (← g.operand l (excess l true word) word)

/-- Help for the subcommand that the words name. -/
def helpFor : List String → Fault
  | [] => .displayHelp
  | [name] => if (Level.ofName? name).isSome || name == "help" then .displayHelp else .invalidSubcommand
  | _ => .invalidSubcommand

/-- The subcommand that a word in front of any is. -/
def subcommand? (l : Level) (g : Progress) (word : String) : Option Level :=
  if l = .top && !g.awaits then Level.ofName? word else none

/-- Reads the words of a level up to a subcommand, and gives the words behind it. -/
def scan (l : Level) : List String → Progress → Except Fault (Progress × Option (Level × List String))
  | [], g => .ok (g, none)
  | word :: rest, g =>
    match subcommand? l g word with
    | some s => .ok (g, some (s, rest))
    | none =>
      if l = .top && !g.awaits && word == "help" then .error (helpFor rest)
      else
        match word.toList with
        | ['-', '-'] => do .ok (← literal l rest g, none)
        | '-' :: '-' :: body => do scan l rest (← g.longOption l body)
        | '-' :: c :: cs => do scan l rest (← shortOptions l (c :: cs) g)
        | _ =>
          if g.awaits then scan l rest (g.supply word)
          else do scan l rest (← g.operand l (excess l false word) word)

end Progress

end VolumeNode.CommandLine
