import EventChain.Pattern.Token
import EventChain.Text.Named

/-!
# Escapes in patterns

What a backslash and the character after it stand for: `setEscape` inside of sets and
`nodeEscape` outside of them, where an escape may also be an anchor or refer to a group.
-/

namespace EventChain.Pattern

def isOctal (c : Char) : Bool := '0' ≤ c && c ≤ '7'

def isHex (c : Char) : Bool := c.isDigit || ('a' ≤ c && c ≤ 'f') || ('A' ≤ c && c ≤ 'F')

def isAsciiLetter (c : Char) : Bool := ('a' ≤ c && c ≤ 'z') || ('A' ≤ c && c ≤ 'Z')

def numeral (base : Nat) (cs : List Char) : Nat :=
  cs.foldl (fun n c =>
    base * n + (if c.isDigit then c.toNat - 48
      else if c ≤ 'F' then c.toNat - 55 else c.toNat - 87)) 0

/-- Reads an escape of exactly `n` hexadecimal digits. -/
def hexEscape (letter : Char) (n : Nat) : Read Nat := do
  let digits ← takeWhile isHex n
  let escape := '\\' :: letter :: digits
  if digits.length ≠ n then refuse (.incompleteEscape escape) escape.length
  else
    let code := numeral 16 digits
    if code < 0x110000 then pure code else refuse (.badEscape escape) escape.length

/-- Reads the name of a character between braces. -/
def namedEscape : Read Nat := do
  if ← accept '\x7b' then
    let name ← takeName '\x7d' "character name" ((← get).text.size + 1) []
    match Text.named? name with
    | some code => pure code
    | none => refuse (.undefinedName name) (name.length + 4)
  else refuse (.missing "\x7b") 0

/-- The control character that an escape stands for. -/
def control? : Char → Option Nat
  | 'a' => some 7
  | 'f' => some 12
  | 'n' => some 10
  | 'r' => some 13
  | 't' => some 9
  | 'v' => some 11
  | '\\' => some 92
  | _ => none

/-- The category that an escape stands for. -/
def category? : Char → Option Item
  | 'd' => some (.category .digit false)
  | 'D' => some (.category .digit true)
  | 's' => some (.category .space false)
  | 'S' => some (.category .space true)
  | 'w' => some (.category .word false)
  | 'W' => some (.category .word true)
  | _ => none

def anchor? : Char → Option Anchor
  | 'A' => some .absoluteStart
  | 'b' => some .boundary
  | 'B' => some .noBoundary
  | 'Z' => some .absoluteFinish
  | _ => none

def commonEscape (c : Char) : Read Nat :=
  if c = 'x' then hexEscape c 2
  else if c = 'u' then hexEscape c 4
  else if c = 'U' then hexEscape c 8
  else if c = 'N' then namedEscape
  else if isAsciiLetter c || c.isDigit then refuse (.badEscape ['\\', c]) 2
  else pure (Text.code c)

/-- Reads an octal escape whose digits so far are given. -/
def octal (digits : List Char) : Read Nat :=
  let code := numeral 8 digits
  if 0o377 < code then refuse (.octalRange ('\\' :: digits)) (digits.length + 1) else pure code

/-- Reads an escape inside a set. -/
def setEscape (c : Char) : Read Item := do
  if c = 'b' then pure (.literal 8)
  else match control? c, category? c with
    | some code, _ => pure (.literal code)
    | none, some item => pure item
    | none, none =>
      if isOctal c then
        let more ← takeWhile isOctal 2
        pure (.literal (← octal (c :: more)))
      else pure (.literal (← commonEscape c))

def isClosed (group : Nat) : Read Bool := do
  pure (((← get).groups[group]?).join).isSome

/-- Refuses a reference from a look-behind to a group that is open or inside it. -/
def checkLookBehind (group : Nat) : Read Unit := do
  match (← get).lookBehindGroups with
  | none => pure ()
  | some outside =>
    if !(← isClosed group) then refuse .openGroup 0
    if outside ≤ group then refuse .groupOfSameLookBehind 0

/-- Reads an escape that starts with a digit from 1 to 9: three octal digits are a character,
fewer digits the number of a group. -/
def numberEscape (c : Char) : Read Node := do
  let second ← takeWhile Char.isDigit 1
  let third ← match second with
    | [d] => if isOctal c && isOctal d then takeWhile isOctal 1 else pure []
    | _ => pure []
  let digits := c :: (second ++ third)
  if !third.isEmpty then pure (.literal (← octal digits))
  else
    let group := numeral 10 digits
    if group < (← get).groups.length then
      if !(← isClosed group) then refuse .openGroup (digits.length + 1)
      checkLookBehind group
      pure (.reference group)
    else refuse (.invalidGroup group) digits.length

def nodeEscape (c : Char) : Read Node := do
  match anchor? c, category? c, control? c with
  | some a, _, _ => pure (.anchor a)
  | none, some item, _ => pure (.set false [item])
  | none, none, some code => pure (.literal code)
  | none, none, none =>
    if c = '0' then
      let more ← takeWhile isOctal 2
      pure (.literal (numeral 8 more))
    else if c.isDigit then numberEscape c
    else pure (.literal (← commonEscape c))

end EventChain.Pattern
