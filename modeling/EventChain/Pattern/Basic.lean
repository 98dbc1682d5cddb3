import EventChain.Text.Blank
import EventChain.Text.Digit
import EventChain.Text.Letter
import EventChain.Text.Quoted
import EventChain.Text.Word

/-!
# Regular expressions

A pattern is a sequence of `Node`s. `Flags` decide how nodes match; a `scoped` node changes
them for the sequence inside it. `Node.width` bounds the number of characters that a node
takes, which is what a look-behind needs to know.
-/

namespace EventChain.Pattern

structure Flags where
  ignoreCase : Bool
  multiline : Bool
  dotAll : Bool
  verbose : Bool
  ascii : Bool
  unicode : Bool
  template : Bool
  deriving DecidableEq, Repr, Inhabited

namespace Flags

def none : Flags := ⟨false, false, false, false, false, false, false⟩

/-- The flags that are set on either side. -/
def union (a b : Flags) : Flags :=
  ⟨a.ignoreCase || b.ignoreCase, a.multiline || b.multiline, a.dotAll || b.dotAll,
    a.verbose || b.verbose, a.ascii || b.ascii, a.unicode || b.unicode, a.template || b.template⟩

def minus (a b : Flags) : Flags :=
  ⟨a.ignoreCase && !b.ignoreCase, a.multiline && !b.multiline, a.dotAll && !b.dotAll,
    a.verbose && !b.verbose, a.ascii && !b.ascii, a.unicode && !b.unicode,
    a.template && !b.template⟩

/-- Turns flags on and off. A new alphabet takes the place of the one in force. -/
def change (flags on off : Flags) : Flags :=
  let base := if on.ascii || on.unicode then { flags with ascii := false, unicode := false }
    else flags
  (base.union on).minus off

/-- The flag of a letter. -/
def ofLetter? : Char → Option Flags
  | 'i' => some { none with ignoreCase := true }
  | 'm' => some { none with multiline := true }
  | 's' => some { none with dotAll := true }
  | 'x' => some { none with verbose := true }
  | 'a' => some { none with ascii := true }
  | 'u' => some { none with unicode := true }
  | 't' => some { none with template := true }
  | _ => Option.none

end Flags

inductive Category where
  | digit
  | space
  | word
  deriving DecidableEq, Repr

/-- Whether a character is in a category, of the ASCII alphabet or of the full one. -/
def Category.contains (ascii : Bool) (code : Nat) (category : Category) : Bool :=
  let c := Char.ofNat code
  if ascii && 128 ≤ code then false
  else match category with
    | digit => Text.isDigit c
    | space => if ascii then c = ' ' || (9 ≤ code && code ≤ 13) else Text.isBlank c
    | word => Text.isWord c

/-- An item of a character set. -/
inductive Item where
  | literal (code : Nat)
  | range (low high : Nat)
  | category (category : Category) (negated : Bool)
  deriving DecidableEq, Repr

inductive Anchor where
  | start
  | finish
  | absoluteStart
  | absoluteFinish
  | boundary
  | noBoundary
  deriving DecidableEq, Repr

/-- Whether a repeat prefers many items, few, or many without giving any back. -/
inductive Mode where
  | greedy
  | lazy
  | possessive
  deriving DecidableEq, Repr

/-- The least and the greatest number of characters taken. -/
structure Width where
  least : Nat
  most : Nat
  deriving DecidableEq, Repr, Inhabited

namespace Width

/-- Widths are counted up to this bound, which also stands for no bound. -/
def bound : Nat := 0x10000000000000000

def zero : Width := ⟨0, 0⟩

def add (a b : Width) : Width := ⟨a.least + b.least, a.most + b.most⟩

def either (a b : Width) : Width := ⟨min a.least b.least, max a.most b.most⟩

def cap (w : Width) : Width := ⟨min w.least bound, min w.most bound⟩

def times (w : Width) (least : Nat) (most : Option Nat) : Width :=
  ⟨w.least * least, match most with
    | some n => w.most * n
    | none => if w.most = 0 then 0 else bound⟩

end Width

inductive Node where
  | literal (code : Nat)
  | notLiteral (code : Nat)
  | set (negated : Bool) (items : List Item)
  | any
  | anchor (anchor : Anchor)
  | group (index : Nat) (body : List Node)
  | scoped (on off : Flags) (body : List Node)
  | atomic (body : List Node)
  | branch (alternatives : List (List Node))
  | repeated (mode : Mode) (least : Nat) (most : Option Nat) (body : List Node)
  | lookAhead (negated : Bool) (body : List Node)
  | lookBehind (negated : Bool) (width : Width) (body : List Node)
  | reference (group : Nat)
  | conditional (group : Nat) (yes : List Node) (no : List Node)
  deriving Inhabited

mutual

/-- The width of a node, given the widths of the groups that are closed. -/
def Node.width (groups : List (Option Width)) : Node → Width
  | .literal _ | .notLiteral _ | .set _ _ | .any => ⟨1, 1⟩
  | .anchor _ | .lookAhead _ _ | .lookBehind _ _ _ => .zero
  | .group _ body | .scoped _ _ body | .atomic body => sequenceWidth groups body
  | .branch alternatives => branchWidth groups alternatives
  | .repeated _ least most body => (sequenceWidth groups body).times least most
  | .reference group => ((groups[group]?).join).getD .zero
  | .conditional _ yes no => (sequenceWidth groups yes).either (sequenceWidth groups no)

def sequenceWidth (groups : List (Option Width)) : List Node → Width
  | [] => .zero
  | node :: rest => ((node.width groups).add (sequenceWidth groups rest)).cap

def branchWidth (groups : List (Option Width)) : List (List Node) → Width
  | [] => ⟨Width.bound, 0⟩
  | nodes :: rest => (sequenceWidth groups nodes).either (branchWidth groups rest)

end

end EventChain.Pattern
