import EventChain.Number.Reading
import EventChain.Pattern.Escape

/-!
# Groups of patterns

What an opening parenthesis begins: a group that is captured, perhaps under a name, flags, a
comment, a look around or a conditional. `opening` reads the text after the parenthesis up to
the body of the group; `openGroup` and `closeGroup` number the groups that are captured.
-/

namespace EventChain.Pattern

/-- The flag that a token names; the letter L names the flag of byte patterns. -/
def flagOf? : Token → Option (Option Flags)
  | .plain 'L' => some none
  | .plain c => (Flags.ofLetter? c).map some
  | .escape _ => none

/-- Refuses a token among flags: a letter as an unknown flag, else for what is missing. -/
def refuseFlag {α : Type} (t : Token) (missing : String) : Read α :=
  let isLetter := match t with
    | .plain c => Text.isLetter c
    | .escape _ => false
  refuse (if isLetter then .unknownFlag else .missing missing) t.chars.length

/-- Reads the flags to turn on up to the character that ends them. -/
def flagsOn : Nat → Token → Flags → Read (Flags × Char)
  | 0, t, _ => refuseFlag t "-, : or )"
  | steps + 1, t, on => do
    match flagOf? t with
    | none => refuseFlag t "-, : or )"
    | some none => refuse .flagForBytes 0
    | some (some flag) =>
      let on := on.union flag
      if on.ascii && on.unicode then refuse .flagsIncompatible 0
      match ← take with
      | none => refuse (.missing "-, : or )") 0
      | some t =>
        if t = .plain ')' then pure (on, ')')
        else if t = .plain '-' then pure (on, '-')
        else if t = .plain ':' then pure (on, ':')
        else flagsOn steps t on

/-- Reads the flags to turn off up to the colon. -/
def flagsOff : Nat → Token → Flags → Read Flags
  | 0, t, _ => refuseFlag t ":"
  | steps + 1, t, off => do
    match flagOf? t with
    | none => refuseFlag t ":"
    | some none => refuse .alphabetFlagOff 0
    | some (some flag) =>
      if flag.ascii || flag.unicode then refuse .alphabetFlagOff 0
      let off := off.union flag
      match ← take with
      | none => refuse (.missing ":") 0
      | some t => if t = .plain ':' then pure off else flagsOff steps t off

/-- Reads inline flags from their first token on: none for flags of the whole pattern, which
take effect at once, else the flags to turn on and off. -/
def inlineFlags (t : Token) : Read (Option (Flags × Flags)) := do
  let size := (← get).text.size + 1
  let (on, last) ← if t = .plain '-' then pure (Flags.none, '-') else flagsOn size t .none
  if last = ')' then
    modify fun s => { s with flags := s.flags.union on }
    pure none
  else
    if on.template then refuse .globalFlagOn 1
    let off ← if last = '-' then
        match ← take with
        | none => refuse (.missing "flag") 0
        | some t => match flagOf? t with
          | none => refuseFlag t "flag"
          | some _ => flagsOff size t .none
      else pure .none
    if off.template then refuse .globalFlagOff 1
    if on.minus off ≠ on then refuse .flagOnAndOff 1
    pure (some (on, off))

/-- Refuses a name of a group that is no name. -/
def checkName (name : List Char) : Read Unit :=
  if Text.isName name then pure () else refuse (.groupNameCharacter name) (name.length + 1)

def groupNamed (name : List Char) : Read Nat := do
  match (← get).names.lookup name with
  | some group => pure group
  | none => refuse (.unknownGroupName name) (name.length + 1)

/-- The most groups that a pattern can have. -/
def groupBound : Nat := 1073741823

def conditionGroup : Read Nat := do
  let name ← takeName ')' "group name" ((← get).text.size + 1) []
  let group ← if Text.isName name then groupNamed name
    else match Numeral.groupedInt name with
      | .error _ => refuse (.groupNameCharacter name) (name.length + 1)
      | .ok n =>
        if n < 0 then refuse (.groupNameCharacter name) (name.length + 1)
        else if n = 0 then refuse .badGroupNumber (name.length + 1)
        else if groupBound ≤ n.toNat then refuse (.invalidGroup n.toNat) (name.length + 1)
        else
          let place := (← tell) - name.length - 1
          modify fun s =>
            if (s.referred.lookup n.toNat).isSome then s
            else { s with referred := s.referred ++ [(n.toNat, place)] }
          pure n.toNat
  checkLookBehind group
  pure group

/-- Opens the next group, under a name if it has one. -/
def openGroup (name : Option (List Char)) : Read Nat := do
  let s ← get
  let group := s.groups.length
  modify fun s => { s with groups := s.groups ++ [none] }
  match name with
  | none => pure ()
  | some name => match s.names.lookup name with
    | some earlier => refuse (.redefinedGroup name group earlier) (name.length + 1)
    | none => modify fun s => { s with names := s.names ++ [(name, group)] }
  pure group

def closeGroup (group : Nat) (body : List Node) : Read Unit :=
  modify fun s => { s with groups := s.groups.set group (some (sequenceWidth s.groups body)) }

/-- What the text after an opening parenthesis makes of it. -/
inductive Opening where
  /-- A node that is complete. -/
  | done (node : Node)
  /-- A comment. -/
  | nothing
  /-- Flags of the whole pattern. -/
  | wholeFlags
  | capture (name : Option (List Char))
  | plain (on off : Flags)
  | atomic
  | look (behind negated : Bool)
  | conditional

/-- Skips a comment; `start` is where its parenthesis stands. -/
def skipComment (start : Nat) : Nat → Read Opening
  | 0 => refuseAt .unterminatedComment start
  | steps + 1 => do
    if (← peek).isNone then refuseAt .unterminatedComment start
    if (← take) = some (.plain ')') then pure .nothing else skipComment start steps

/-- Reads what follows the letter P of an extension. -/
def namedOpening : Read Opening := do
  let size := (← get).text.size + 1
  if ← accept '<' then
    let name ← takeName '>' "group name" size []
    checkName name
    pure (.capture (some name))
  else if ← accept '=' then
    let name ← takeName ')' "group name" size []
    checkName name
    let group ← groupNamed name
    if !(← isClosed group) then refuse .openGroup (name.length + 1)
    checkLookBehind group
    pure (.done (.reference group))
  else match ← take with
    | none => refuse .unexpectedEnd 0
    | some t => refuse (.unknownExtension ("?P".toList ++ t.chars)) (t.chars.length + 2)

/-- Reads what follows an opening parenthesis that stands at `start`. -/
def opening (start : Nat) : Read Opening := do
  if !(← accept '?') then pure (.capture none)
  else match ← take with
    | none => refuse .unexpectedEnd 0
    | some (.plain 'P') => namedOpening
    | some (.plain ':') => pure (.plain .none .none)
    | some (.plain '#') => skipComment start ((← get).text.size + 1)
    | some (.plain '=') => pure (.look false false)
    | some (.plain '!') => pure (.look false true)
    | some (.plain '<') => match ← take with
      | none => refuse .unexpectedEnd 0
      | some (.plain '=') => pure (.look true false)
      | some (.plain '!') => pure (.look true true)
      | some t => refuse (.unknownExtension ("?<".toList ++ t.chars)) (t.chars.length + 2)
    | some (.plain '(') => pure .conditional
    | some (.plain '>') => pure .atomic
    | some t =>
      if (flagOf? t).isSome || t = .plain '-' then
        match ← inlineFlags t with
        | none => pure .wholeFlags
        | some (on, off) => pure (.plain on off)
      else refuse (.unknownExtension ('?' :: t.chars)) (t.chars.length + 1)

/-- Takes the closing parenthesis of what was opened at `start`. -/
def close (start : Nat) : Read Unit := do
  if !(← accept ')') then refuseAt .unterminatedGroup start

end EventChain.Pattern
