import EventChain.Pattern.Group
import EventChain.Pattern.Repeat
import EventChain.Pattern.Set

/-!
# Reading regular expressions

`Pattern.read` reads a text as a `Pattern`: alternatives of sequences of nodes. What can only
be judged of the whole pattern is refused last: references to groups that do not exist, and
look-behinds of no fixed width.
-/

namespace EventChain

/-- A regular expression with the text it was read from and the flags it starts with. -/
structure Pattern where
  source : String
  flags : Pattern.Flags
  nodes : List Pattern.Node
  deriving Inhabited

namespace Pattern

def skipLine : Nat → Read Unit
  | 0 => pure ()
  | steps + 1 => do
    match ← take with
    | none | some (.plain '\n') => pure ()
    | some _ => skipLine steps

def isLayout (c : Char) : Bool :=
  c = ' ' || c = '\t' || c = '\n' || c = '\r' || c = '\x0b' || c = '\x0c'

mutual

/-- Reads alternatives up to a closing parenthesis or the end. Flags of the whole pattern can
only open the first alternative of the whole pattern. -/
def alternatives (whole : Bool) : Nat → Bool → List (List Node) → Read (List Node)
  | 0, _, _ => pure []
  | steps + 1, verbose, read => do
    let nodes ← sequence (whole && read.isEmpty) steps verbose []
    let read := read ++ [nodes]
    if ← accept '|' then
      let s ← get
      let verbose := if whole then s.flags.verbose else verbose
      alternatives whole steps verbose read
    else match read with
      | [nodes] => pure nodes
      | _ => pure [.branch read]

/-- Reads a sequence of nodes; `read` holds those so far, the latest first. -/
def sequence (first : Bool) : Nat → Bool → List Node → Read (List Node)
  | 0, _, read => pure read.reverse
  | steps + 1, verbose, read => do
    match ← peek with
    | none | some (.plain '|') | some (.plain ')') => pure read.reverse
    | some (.escape c) =>
      advance
      let node ← nodeEscape c
      sequence first steps verbose (node :: read)
    | some (.plain c) =>
      advance
      let here ← tell
      let repeated (least : Nat) (most : Option Nat) : Read (List Node) := do
        let read ← repeatLast (here - 1) least most read
        sequence first steps verbose read
      if verbose && isLayout c then sequence first steps verbose read
      else if verbose && c = '#' then
        skipLine ((← get).text.size + 1)
        sequence first steps verbose read
      else if c = '[' then
        let node ← set
        sequence first steps verbose (node :: read)
      else if c = '?' then repeated 0 (some 1)
      else if c = '*' then repeated 0 none
      else if c = '+' then repeated 1 none
      else if c = '\x7b' then
        match ← counts with
        | none => sequence first steps verbose (.literal 0x7b :: read)
        | some (least, most) => repeated least most
      else if c = '.' then sequence first steps verbose (.any :: read)
      else if c = '^' then sequence first steps verbose (.anchor .start :: read)
      else if c = '$' then sequence first steps verbose (.anchor .finish :: read)
      else if c = '(' then
        let start := here - 1
        match ← opening start with
        | .done node => sequence first steps verbose (node :: read)
        | .nothing => sequence first steps verbose read
        | .wholeFlags =>
          if !first || !read.isEmpty then refuseAt .globalFlags start
          sequence first steps (← get).flags.verbose read
        | .capture name =>
          let group ← openGroup name
          let body ← alternatives false steps verbose []
          close start
          closeGroup group body
          sequence first steps verbose (.group group body :: read)
        | .plain on off =>
          let body ← alternatives false steps ((verbose || on.verbose) && !off.verbose) []
          close start
          sequence first steps verbose (.scoped on off body :: read)
        | .atomic =>
          let body ← alternatives false steps verbose []
          close start
          sequence first steps verbose (.atomic body :: read)
        | .look behind negated =>
          let outside := (← get).lookBehindGroups
          if behind && outside.isNone then
            modify fun s => { s with lookBehindGroups := some s.groups.length }
          let body ← alternatives false steps verbose []
          if behind then modify ({ · with lookBehindGroups := outside })
          close start
          let width := sequenceWidth (← get).groups body
          let node := if behind then Node.lookBehind negated width body else .lookAhead negated body
          sequence first steps verbose (node :: read)
        | .conditional =>
          let group ← conditionGroup
          let yes ← sequence false steps verbose []
          let no ← if ← accept '|' then
              let no ← sequence false steps verbose []
              if (← peek) = some (.plain '|') then refuse .threeBranches 0
              pure no
            else pure []
          close start
          sequence first steps verbose (.conditional group yes no :: read)
      else sequence first steps verbose (.literal (Text.code c) :: read)

end

def Mode.label : Mode → String
  | greedy => "MAX_REPEAT"
  | lazy => "MIN_REPEAT"
  | possessive => "POSSESSIVE_REPEAT"

mutual

/-- Refuses repeats under the template flag and look-behinds of no fixed width. -/
def Node.check (flags : Flags) : Node → Except Fault Unit
  | .repeated mode _ _ body =>
    if flags.template then throw (.templateRepeat mode.label) else checkSequence flags body
  | .lookBehind _ width body =>
    if repeatBound < width.least then throw .longLookBehind
    else if width.least ≠ width.most then throw .openLookBehind
    else checkSequence flags body
  | .scoped on off body => checkSequence (flags.change on off) body
  | .group _ body | .atomic body | .lookAhead _ body => checkSequence flags body
  | .branch alternatives => checkBranch flags alternatives
  | .conditional _ yes no => do
    checkSequence flags yes
    checkSequence flags no
  | _ => pure ()

def checkSequence (flags : Flags) : List Node → Except Fault Unit
  | [] => pure ()
  | node :: rest => do
    node.check flags
    checkSequence flags rest

def checkBranch (flags : Flags) : List (List Node) → Except Fault Unit
  | [] => pure ()
  | nodes :: rest => do
    checkSequence flags nodes
    checkBranch flags rest

end

def Progress.initial (cs : List Char) : Progress :=
  ⟨cs.toArray, 0, none, .none, [], [none], none, []⟩

/-- Reads a whole text: its nodes and flags. -/
def readWhole (size : Nat) : Read (Flags × List Node) := do
  advance
  let nodes ← alternatives true (4 * size + 8) false []
  let flags := (← get).flags
  if flags.ascii && flags.unicode then throw .alphabets
  if (← peek).isSome then refuse .unbalanced 0
  let s ← get
  match s.referred.find? fun (group, _) => s.groups.length ≤ group with
  | some (group, place) => refuseAt (.invalidGroup group) place
  | none => pure ({ flags with unicode := !flags.ascii }, nodes)

def read (source : String) : Except Failure Pattern := do
  let cs := source.toList
  let ((flags, nodes), _) ← (readWhole cs.length).run (.initial cs)
  match checkSequence flags nodes with
  | .ok () => pure ⟨source, flags, nodes⟩
  | .error fault => throw (.invalid ⟨fault, none⟩)

end Pattern

end EventChain
