import EventChain.Pattern.Reader

/-!
# Searching with regular expressions

`Pattern.search` tells whether a pattern matches somewhere in a text. Matching backtracks: a
node is run with a continuation for what follows it, and alternatives are tried in their
order. A repeat stops when an item took no character, so every search ends; the steps of a
repeat are counted by its least count and the characters left.
-/

namespace EventChain.Pattern

/-- A place in the text with the marks set so far, the latest first: mark `2 * g` is where group
`g` begins and mark `2 * g + 1` where it ends. -/
structure Spot where
  position : Nat
  marks : List (Nat × Nat)

/-- Where a group begins and ends, if it has matched. -/
def Spot.group? (s : Spot) (group : Nat) : Option (Nat × Nat) := do
  let first ← s.marks.lookup (2 * group)
  let last ← s.marks.lookup (2 * group + 1)
  if first ≤ last then some (first, last) else none

def Spot.mark (s : Spot) (mark : Nat) : Spot := { s with marks := (mark, s.position) :: s.marks }

/-- The lower case of a code in the alphabet in force. -/
def lower (flags : Flags) (code : Nat) : Nat :=
  if flags.unicode then Text.lowerCode code
  else if 65 ≤ code ∧ code ≤ 90 then code + 32 else code

/-- A lower-case code and those that count as the same letter. -/
def variants (flags : Flags) (code : Nat) : List Nat :=
  if flags.unicode then Text.caseGroup code else [code]

/-- The codes whose lower case is a code. -/
def sources (flags : Flags) (code : Nat) : List Nat :=
  if flags.unicode then Text.lowerSources code
  else if 97 ≤ code ∧ code ≤ 122 then [code, code - 32]
  else if 65 ≤ code ∧ code ≤ 90 then []
  else [code]

/-- Whether a run of letters has one between two codes. -/
def runMeets (low high : Nat) (run : Text.CaseRun) : Bool :=
  let start := max low run.first
  let next := run.first + (start - run.first + run.step - 1) / run.step * run.step
  next ≤ min high run.last

/-- Whether a code between two codes has another case. -/
def hasCase (flags : Flags) (low high : Nat) : Bool :=
  if flags.unicode then
    Text.lowerRuns.any (runMeets low high) || Text.upperRuns.any (runMeets low high)
      || Text.upperGroups.any fun (code, _) => low ≤ code && code ≤ high
  else (max low 65 ≤ min high 90) || (max low 97 ≤ min high 122)

/-- The last code of the basic plane. -/
def basicPlane : Nat := 0xFFFF

/-- Whether an item of a set makes the set regard cases. -/
def Item.isCased (flags : Flags) : Item → Bool
  | .literal code => basicPlane < code || hasCase flags code code
  | .range low high => basicPlane < high || hasCase flags low high
  | .category _ _ => false

def Item.hasCategory (flags : Flags) (category : Category) (negated : Bool) (code : Nat) : Bool :=
  category.contains (!flags.unicode) code != negated

/-- Whether an item of a set holds a code, cases apart. -/
def Item.contains (flags : Flags) (code : Nat) : Item → Bool
  | .literal c => code = c
  | .range low high => low ≤ code && code ≤ high
  | .category kind negated => Item.hasCategory flags kind negated code

/-- Whether an item of a set holds a letter with the given lower case. -/
def Item.containsLower (flags : Flags) (code : Nat) : Item → Bool
  | .literal c => if basicPlane < c then code = c else between c c
  | .range low high =>
    between low (min high basicPlane)
      || (basicPlane < high && ((low ≤ code && code ≤ high)
          || (low ≤ Text.upperCode code && Text.upperCode code ≤ high)))
  | .category kind negated => Item.hasCategory flags kind negated code
where
  /-- Whether a code of the basic plane between two codes is a variant of the letter. -/
  between (low high : Nat) : Bool :=
    (variants flags code).any fun v => (sources flags v).any fun c => low ≤ c && c ≤ high

/-- Whether a literal stands for a code. -/
def literalTakes (flags : Flags) (literal code : Nat) : Bool :=
  if flags.ignoreCase && hasCase flags literal literal then
    (variants flags (lower flags literal)).contains (lower flags code)
  else code = literal

/-- Whether a set holds a code. -/
def setTakes (flags : Flags) (negated : Bool) (items : List Item) (code : Nat) : Bool :=
  let found :=
    if flags.ignoreCase && items.any (Item.isCased flags) then
      items.any (Item.containsLower flags (lower flags code))
    else items.any (Item.contains flags code)
  found != negated

/-- The test of a node that takes exactly one character. -/
def Node.test? (flags : Flags) : Node → Option (Nat → Bool)
  | .literal c => some (literalTakes flags c)
  | .notLiteral c => some fun code => !literalTakes flags c code
  | .set negated items => some (setTakes flags negated items)
  | .any => some fun code => flags.dotAll || code ≠ 10
  | _ => none

def isWordAt (flags : Flags) (text : Array Nat) (i : Nat) : Bool :=
  text[i]?.any (Category.contains (!flags.unicode) · .word)

def isBoundary (flags : Flags) (text : Array Nat) (i : Nat) : Bool :=
  (0 < i && isWordAt flags text (i - 1)) != isWordAt flags text i

def Anchor.holds (flags : Flags) (text : Array Nat) (i : Nat) : Anchor → Bool
  | start => i = 0 || (flags.multiline && text[i - 1]? = some 10)
  | finish =>
    i = text.size || (text[i]? = some 10 && (flags.multiline || i + 1 = text.size))
  | absoluteStart => i = 0
  | absoluteFinish => i = text.size
  | boundary => 0 < text.size && isBoundary flags text i
  | noBoundary => 0 < text.size && !isBoundary flags text i

/-- Whether the text at a position repeats what a group matched. -/
def repeats (flags : Flags) (text : Array Nat) (first last i : Nat) : Bool :=
  let same (a b : Nat) : Bool := if flags.ignoreCase then lower flags a = lower flags b else a = b
  i + (last - first) ≤ text.size &&
    (List.range (last - first)).all fun j =>
      match text[first + j]?, text[i + j]? with
      | some a, some b => same a b
      | _, _ => false

/-- What remains to be matched, as a function of where it starts. -/
abbrev Continuation := Spot → Option Spot

/-- How many characters from a position on pass a test, up to a number. -/
def run (text : Array Nat) (test : Nat → Bool) (i : Nat) : Nat → Nat
  | 0 => 0
  | n + 1 => if text[i]?.any test then run text test (i + 1) n + 1 else 0

/-- Goes on after the most characters from `most` down to `least`. -/
def fromMost (k : Continuation) (s : Spot) (least : Nat) : Nat → Option Spot
  | 0 => if least = 0 then k s else none
  | n + 1 =>
    if n + 1 < least then none
    else match k { s with position := s.position + (n + 1) } with
      | some found => some found
      | none => fromMost k s least n

/-- Goes on after the fewest characters: `taken`, then one more up to `more` times. -/
def fromLeast (k : Continuation) (s : Spot) (taken : Nat) : Nat → Option Spot
  | 0 => k { s with position := s.position + taken }
  | more + 1 =>
    match k { s with position := s.position + taken } with
    | some found => some found
    | none => fromLeast k s (taken + 1) more

def repeatTest (text : Array Nat) (test : Nat → Bool) (mode : Mode) (least : Nat)
    (most : Option Nat) (k : Continuation) (s : Spot) : Option Spot :=
  let left := text.size - s.position
  let reach := run text test s.position (match most with | some n => min n left | none => left)
  if reach < least then none
  else match mode with
    | .greedy => fromMost k s least reach
    | .lazy => fromLeast k s least (reach - least)
    | .possessive => k { s with position := s.position + reach }

/-- Repeats a body as often as it can, giving items back one by one. `last` is where the latest
item began, once the least count is reached. -/
def repeatGreedy (body : Continuation → Spot → Option Spot) (least : Nat) (most : Option Nat)
    (k : Continuation) : Nat → Nat → Option Nat → Spot → Option Spot
  | 0, _, _, s => k s
  | steps + 1, count, last, s =>
    if count < least then body (repeatGreedy body least most k steps (count + 1) last) s
    else if most.all (count < ·) && last ≠ some s.position then
      match body (repeatGreedy body least most k steps (count + 1) (some s.position)) s with
      | some found => some found
      | none => k s
    else k s

/-- Repeats a body no more often than it must. -/
def repeatLazy (body : Continuation → Spot → Option Spot) (least : Nat) (most : Option Nat)
    (k : Continuation) : Nat → Nat → Option Nat → Spot → Option Spot
  | 0, _, _, s => k s
  | steps + 1, count, last, s =>
    if count < least then body (repeatLazy body least most k steps (count + 1) last) s
    else match k s with
      | some found => some found
      | none =>
        if most.all (count < ·) && last ≠ some s.position then
          body (repeatLazy body least most k steps (count + 1) (some s.position)) s
        else none

/-- Repeats a body as often as it can and gives nothing back. -/
def repeatPossessive (body : Continuation → Spot → Option Spot) (least : Nat) (most : Option Nat) :
    Nat → Nat → Option Nat → Spot → Option Spot
  | 0, _, _, s => some s
  | steps + 1, count, last, s =>
    if count < least then
      match body some s with
      | some next => repeatPossessive body least most steps (count + 1) last next
      | none => none
    else if most.all (count < ·) && last ≠ some s.position then
      match body some s with
      | some next => repeatPossessive body least most steps (count + 1) (some s.position) next
      | none => some s
    else some s

def repeatBody (text : Array Nat) (body : Continuation → Spot → Option Spot) (mode : Mode)
    (least : Nat) (most : Option Nat) (k : Continuation) (s : Spot) : Option Spot :=
  let steps := least + (text.size - s.position) + 2
  match mode with
  | .greedy => repeatGreedy body least most k steps 0 none s
  | .lazy => repeatLazy body least most k steps 0 none s
  | .possessive => (repeatPossessive body least most steps 0 none s).bind k

mutual

/-- Matches a node at a spot and goes on with what follows. -/
def Node.run (text : Array Nat) (flags : Flags) : Node → Continuation → Spot → Option Spot
  | .anchor a, k, s => if a.holds flags text s.position then k s else none
  | .group index body, k, s =>
    runSequence text flags body (fun t => k (t.mark (2 * index + 1))) (s.mark (2 * index))
  | .scoped on off body, k, s => runSequence text (flags.change on off) body k s
  | .atomic body, k, s => (runSequence text flags body some s).bind k
  | .branch alternatives, k, s => runBranch text flags alternatives k s
  | .repeated mode least most body, k, s =>
    match body with
    | [node] => match node.test? flags with
      | some test => repeatTest text test mode least most k s
      | none => repeatBody text (node.run text flags) mode least most k s
    | body => repeatBody text (runSequence text flags body) mode least most k s
  | .lookAhead negated body, k, s =>
    match runSequence text flags body some s, negated with
    | some t, false => k { t with position := s.position }
    | none, true => k s
    | _, _ => none
  | .lookBehind negated width body, k, s =>
    if s.position < width.least then (if negated then k s else none)
    else
      let start := { s with position := s.position - width.least }
      match runSequence text flags body some start, negated with
      | some t, false => k { t with position := s.position }
      | none, true => k s
      | _, _ => none
  | .reference group, k, s =>
    match s.group? group with
    | none => none
    | some (first, last) =>
      if repeats flags text first last s.position then
        k { s with position := s.position + (last - first) }
      else none
  | .conditional group yes no, k, s =>
    if (s.group? group).isSome then runSequence text flags yes k s
    else runSequence text flags no k s
  | node, k, s =>
    match node.test? flags, text[s.position]? with
    | some test, some code => if test code then k { s with position := s.position + 1 } else none
    | _, _ => none

def runSequence (text : Array Nat) (flags : Flags) :
    List Node → Continuation → Spot → Option Spot
  | [], k, s => k s
  | node :: rest, k, s => node.run text flags (runSequence text flags rest k) s

def runBranch (text : Array Nat) (flags : Flags) :
    List (List Node) → Continuation → Spot → Option Spot
  | [], _, _ => none
  | nodes :: rest, k, s =>
    match runSequence text flags nodes k s with
    | some found => some found
    | none => runBranch text flags rest k s

end

/-- Whether a pattern matches somewhere in a text. -/
def search (pattern : Pattern) (text : String) : Bool :=
  let codes := (text.toList.map Text.code).toArray
  (List.range (codes.size + 1)).any fun start =>
    (runSequence codes pattern.flags pattern.nodes some ⟨start, []⟩).isSome

end EventChain.Pattern
