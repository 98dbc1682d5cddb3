import EventChain.Pattern.Basic
import EventChain.Pattern.Fault

/-!
# Tokens of patterns

A pattern is read token by token, a backslash and the character after it being one token, with
one token of look-ahead. `Progress` is how far it is read and what has been met so far, and
`Read` is a computation on it. A fault is placed by counting back from the token that comes
next.
-/

namespace EventChain.Pattern

inductive Token where
  | plain (c : Char)
  | escape (c : Char)
  deriving DecidableEq

def Token.chars : Token → List Char
  | plain c => [c]
  | escape c => ['\\', c]

/-- How far a pattern is read. Position 0 of `groups` is the whole pattern; a group that is
still open has no width. -/
structure Progress where
  text : Array Char
  index : Nat
  next : Option Token
  flags : Flags
  names : List (List Char × Nat)
  groups : List (Option Width)
  lookBehindGroups : Option Nat
  referred : List (Nat × Nat)

abbrev Read := StateT Progress (Except Failure)

def advance : Read Unit := do
  let s ← get
  match s.text[s.index]? with
  | none => set { s with next := none }
  | some '\\' => match s.text[s.index + 1]? with
    | none => throw (.invalid ⟨.endsInBackslash, some (s.text.size - 1)⟩)
    | some c => set { s with next := some (.escape c), index := s.index + 2 }
  | some c => set { s with next := some (.plain c), index := s.index + 1 }

def tell : Read Nat := do
  let s ← get
  pure (s.index - match s.next with | some t => t.chars.length | none => 0)

/-- Refuses the pattern at a place `back` characters before the next token. -/
def refuse {α : Type} (fault : Fault) (back : Nat) : Read α := do
  let here ← tell
  throw (.invalid ⟨fault, some (here - back)⟩)

def refuseAt {α : Type} (fault : Fault) (position : Nat) : Read α :=
  throw (.invalid ⟨fault, some position⟩)

def peek : Read (Option Token) := do
  pure (← get).next

def take : Read (Option Token) := do
  let t ← peek
  advance
  pure t

def accept (c : Char) : Read Bool := do
  if (← peek) = some (.plain c) then
    advance
    pure true
  else pure false

/-- Takes up to `n` characters that pass a test. -/
def takeWhile (test : Char → Bool) : Nat → Read (List Char)
  | 0 => pure []
  | n + 1 => do
    match ← peek with
    | some (.plain c) =>
      if test c then
        advance
        let rest ← takeWhile test n
        pure (c :: rest)
      else pure []
    | _ => pure []

/-- Takes a name up to a terminator, which is taken as well. -/
def takeName (terminator : Char) (what : String) : Nat → List Char → Read (List Char)
  | 0, _ => refuse (.missing what) 0
  | steps + 1, name => do
    match ← take with
    | none =>
      if name.isEmpty then refuse (.missing what) 0
      else refuse (.unterminatedName terminator) name.length
    | some t =>
      if t = .plain terminator then
        if name.isEmpty then refuse (.missing what) 1 else pure name
      else takeName terminator what steps (name ++ t.chars)

end EventChain.Pattern
