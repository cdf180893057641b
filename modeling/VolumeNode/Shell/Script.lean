import VolumeNode.Execution.Query

/-!
# Scripts

A script is a command, made of simple commands; a simple command is made of words, and a word of
pieces, some of which have their value only when the command runs.
-/

namespace VolumeNode.Shell

open Execution

mutual

/-- A piece of a word. A quoted piece is neither split nor a pattern. -/
inductive Piece where
  | literal (quoted : Bool) (cs : List Char)
  | parameter (quoted : Bool) (name : List Char) (use : Use)
  /-- What a command writes. -/
  | output (quoted : Bool) (c : Command)
  /-- The value of an expression. -/
  | value (quoted : Bool) (expression : List Piece)

/-- What is made of a parameter. A parameter that is empty may count as one that is not set. -/
inductive Use where
  | plain
  | length
  /-- A word for a parameter that is not set. -/
  | otherwise (orEmpty : Bool) (word : List Piece)
  /-- The same, and the parameter is set to it. -/
  | assign (orEmpty : Bool) (word : List Piece)
  /-- The script ends unless the parameter is set. -/
  | require (orEmpty : Bool) (word : List Piece)
  /-- A word for a parameter that is set. -/
  | instead (orEmpty : Bool) (word : List Piece)
  /-- The value without a match at its front or at its back. -/
  | without (back longest : Bool) (pattern : List Piece)

/-- Where a descriptor leads while a command runs. -/
inductive Redirection where
  | file (fd : Nat) (access : Access) (path : List Piece)
  | copy (fd : Nat) (source : List Piece)
  | text (fd : Nat) (body : List Piece)

/-- A command. -/
inductive Command where
  | nothing
  | simple (line : Nat) (assignments : List (List Char × List Piece)) (words : List (List Piece))
      (redirections : List Redirection)
  | redirected (c : Command) (redirections : List Redirection)
  | sequence (first second : Command)
  | background (c : Command)
  | both (first second : Command)
  | either (first second : Command)
  | negated (c : Command)
  | pipeline (cs : List Command)
  | subshell (c : Command)
  | choice (test yes no : Command)
  | loop (untilTrue : Bool) (test body : Command)
  | each (name : List Char) (words : Option (List (List Piece))) (body : Command)
  | select (word : List Piece) (branches : List (List (List Piece) × Command))
  | define (name : List Char) (body : Command)

end

/-- The descriptor that is redirected. -/
def Redirection.fd : Redirection → Nat
  | .file fd _ _ | .copy fd _ | .text fd _ => fd

instance : Inhabited Command :=
  ⟨.nothing⟩

/-- One command after the other. -/
def Command.andThen : Command → Command → Command
  | .nothing, c => c
  | c, .nothing => c
  | a, b => .sequence a b

/-- Adds a character to the front of pieces. -/
def pushLiteral (quoted : Bool) (c : Char) : List Piece → List Piece
  | .literal q cs :: rest => if q = quoted then .literal q (c :: cs) :: rest else .literal quoted [c] :: .literal q cs :: rest
  | ps => .literal quoted [c] :: ps

end VolumeNode.Shell
