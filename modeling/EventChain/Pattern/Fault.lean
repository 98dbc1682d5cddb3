import EventChain.Number.Basic
import EventChain.Text.Quoted

/-!
# Faults of patterns

Why a text is no regular expression. A `Fault` is what is wrong, an `Invalid` adds where, and
`Failure` also covers what fails outside the grammar: a repetition count that is too large,
two alphabets asked for at once, and a count with too many digits.
-/

namespace EventChain.Pattern

inductive Fault where
  | endsInBackslash
  | missing (what : String)
  | unterminatedName (terminator : Char)
  | groupNameCharacter (name : List Char)
  | unknownGroupName (name : List Char)
  | redefinedGroup (name : List Char) (group earlier : Nat)
  | openGroup
  | groupOfSameLookBehind
  | badGroupNumber
  | invalidGroup (group : Nat)
  | incompleteEscape (escape : List Char)
  | badEscape (escape : List Char)
  | octalRange (escape : List Char)
  | undefinedName (name : List Char)
  | unterminatedSet
  | badRange (low high : List Char)
  | emptyRepeat
  | repeatedRepeat
  | repeatOrder
  | unexpectedEnd
  | unknownExtension (mark : List Char)
  | unterminatedComment
  | unterminatedGroup
  | unbalanced
  | threeBranches
  | globalFlags
  | flagForBytes
  | flagsIncompatible
  | unknownFlag
  | globalFlagOn
  | globalFlagOff
  | alphabetFlagOff
  | flagOnAndOff
  | templateRepeat (mode : String)
  | longLookBehind
  | openLookBehind
  deriving DecidableEq, Repr

namespace Fault

def message : Fault → String
  | endsInBackslash => "bad escape (end of pattern)"
  | missing what => "missing " ++ what
  | unterminatedName t => "missing " ++ t.toString ++ ", unterminated name"
  | groupNameCharacter name => "bad character in group name " ++ Text.quote (String.ofList name)
  | unknownGroupName name => "unknown group name " ++ Text.quote (String.ofList name)
  | redefinedGroup name group earlier =>
    "redefinition of group name " ++ Text.quote (String.ofList name) ++ " as group "
      ++ toString group ++ "; was group " ++ toString earlier
  | openGroup => "cannot refer to an open group"
  | groupOfSameLookBehind => "cannot refer to group defined in the same lookbehind subpattern"
  | badGroupNumber => "bad group number"
  | invalidGroup group => "invalid group reference " ++ toString group
  | incompleteEscape escape => "incomplete escape " ++ String.ofList escape
  | badEscape escape => "bad escape " ++ String.ofList escape
  | octalRange escape =>
    "octal escape value " ++ String.ofList escape ++ " outside of range 0-0o377"
  | undefinedName name => "undefined character name " ++ Text.quote (String.ofList name)
  | unterminatedSet => "unterminated character set"
  | badRange low high =>
    "bad character range " ++ String.ofList low ++ "-" ++ String.ofList high
  | emptyRepeat => "nothing to repeat"
  | repeatedRepeat => "multiple repeat"
  | repeatOrder => "min repeat greater than max repeat"
  | unexpectedEnd => "unexpected end of pattern"
  | unknownExtension mark => "unknown extension " ++ String.ofList mark
  | unterminatedComment => "missing ), unterminated comment"
  | unterminatedGroup => "missing ), unterminated subpattern"
  | unbalanced => "unbalanced parenthesis"
  | threeBranches => "conditional backref with more than two branches"
  | globalFlags => "global flags not at the start of the expression"
  | flagForBytes => "bad inline flags: cannot use 'L' flag with a str pattern"
  | flagsIncompatible => "bad inline flags: flags 'a', 'u' and 'L' are incompatible"
  | unknownFlag => "unknown flag"
  | globalFlagOn => "bad inline flags: cannot turn on global flag"
  | globalFlagOff => "bad inline flags: cannot turn off global flag"
  | alphabetFlagOff => "bad inline flags: cannot turn off flags 'a', 'u' and 'L'"
  | flagOnAndOff => "bad inline flags: flag turned on and off"
  | templateRepeat mode => "internal: unsupported template operator " ++ mode
  | longLookBehind => "looks too much behind"
  | openLookBehind => "look-behind requires fixed-width pattern"

end Fault

/-- A fault and the place in the pattern where it shows, if it shows at one. -/
structure Invalid where
  fault : Fault
  position : Option Nat
  deriving DecidableEq, Repr

/-- The fault with its place; in a pattern of several lines also as line and column. -/
def Invalid.message (invalid : Invalid) (pattern : List Char) : String :=
  invalid.fault.message ++ match invalid.position with
    | none => ""
    | some p =>
      let before := pattern.take p
      let column := (before.reverse.takeWhile (· ≠ '\n')).length + 1
      " at position " ++ toString p
        ++ (if pattern.contains '\n' then
            " (line " ++ toString (before.count '\n' + 1) ++ ", column " ++ toString column ++ ")"
          else "")

inductive Failure where
  | invalid (invalid : Invalid)
  /-- A repetition count of 4294967295 or more. -/
  | repetitionTooLarge
  /-- The flags for the ASCII and for the full alphabet together. -/
  | alphabets
  | digitLimit (limit : DigitLimit)
  deriving DecidableEq, Repr

end EventChain.Pattern
