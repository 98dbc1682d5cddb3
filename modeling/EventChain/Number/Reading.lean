import EventChain.Number.Basic
import EventChain.Text.Blank
import EventChain.Text.Digit
import EventChain.Text.Quoted

/-!
# Numbers read from text

An integer numeral is an optional sign and decimal digits of any script; a decimal numeral
adds a point and an exponent. `Number.ofText?` reads a whole text: blanks at its ends do not
count, blank text is zero, and an underscore anywhere refuses the text.
-/

namespace EventChain

namespace Numeral

/-- Splits a sign off: true for a minus. -/
def sign : List Char → Bool × List Char
  | '-' :: rest => (true, rest)
  | '+' :: rest => (false, rest)
  | rest => (false, rest)

/-- Splits the leading digits off. -/
def digits : List Char → List Nat × List Char
  | [] => ([], [])
  | c :: rest => match Text.digit? c with
    | some d => let (ds, tail) := digits rest; (d :: ds, tail)
    | none => ([], c :: rest)

/-- Reads an integer numeral of at most `DigitLimit.most` digits. -/
def int? (cs : List Char) : Option Int :=
  let (negative, body) := sign cs
  match digits body with
  | ([], _) | (_, _ :: _) => none
  | (ds, []) =>
    if DigitLimit.most < ds.length then none
    else
      let n : Int := Decimal.ofDigits ds
      some (if negative then -n else n)

/-- Reads an exponent: nothing, or the letter and an integer. -/
def exponent? : List Char → Option Int
  | [] => some 0
  | c :: rest =>
    if c = 'e' ∨ c = 'E' then
      let (negative, body) := sign rest
      match digits body with
      | ([], _) | (_, _ :: _) => none
      | (ds, []) => some (if negative then -(Decimal.ofDigits ds : Int) else Decimal.ofDigits ds)
    else none

/-- Reads an unsigned decimal numeral: digits on at least one side of an optional point, then
an exponent. -/
def decimal? (cs : List Char) : Option Decimal := do
  let (whole, rest) := digits cs
  let (fraction, rest) := match rest with
    | '.' :: tail => digits tail
    | _ => ([], rest)
  if whole.isEmpty && fraction.isEmpty then none
  else
    let e ← exponent? rest
    some ⟨Decimal.ofDigits (whole ++ fraction), e - fraction.length⟩

/-- Reads a decimal numeral with an optional sign as the nearest float. -/
def float? (cs : List Char) : Option Binary64 :=
  let (negative, body) := sign cs
  (decimal? body).map (Binary64.ofDecimal negative)

/-- Drops underscores, each of which has to stand between two digits. -/
def ungroup? : List Char → Option (List Char)
  | [] => some []
  | '_' :: _ => none
  | a :: '_' :: b :: rest =>
    if (Text.digit? a).isSome && (Text.digit? b).isSome then (ungroup? (b :: rest)).map (a :: ·)
    else none
  | a :: rest => (ungroup? rest).map (a :: ·)

/-- Why a text is no integer. -/
inductive IntegerFault where
  | malformed (text : List Char)
  | digitLimit (limit : DigitLimit)

/-- The message of a fault, which shows no more than the beginning of a long text. -/
def IntegerFault.message : IntegerFault → String
  | malformed text => "invalid literal for int() with base 10: "
      ++ String.ofList ((Text.quote (String.ofList text)).toList.take 200)
  | digitLimit limit => limit.message

/-- Reads a text with white space at its ends and underscores between digits as an integer. The
number of digits counts before what follows them. -/
def groupedInt (cs : List Char) : Except IntegerFault Int :=
  let (negative, body) := sign (Text.trimSpace cs)
  let isPart (c : Char) := Text.isDigit c || c = '_'
  match ungroup? (body.takeWhile isPart) with
  | none | some [] => throw (.malformed cs)
  | some ds =>
    if DigitLimit.most < ds.length then throw (.digitLimit (.reading ds.length))
    else if !(body.dropWhile isPart).isEmpty then throw (.malformed cs)
    else
      let n : Int := Decimal.ofDigits (digits ds).1
      pure (if negative then -n else n)

/-- Reads a text with white space at its ends and underscores between digits as a float, which
may be infinite or no number. -/
def groupedFloat? (cs : List Char) : Option Binary64 :=
  let cs := Text.trimSpace cs
  let (negative, body) := sign cs
  match String.ofList (body.map Char.toLower) with
  | "inf" | "infinity" => some (.infinite negative)
  | "nan" => some .nan
  | _ => (ungroup? cs).bind float?

end Numeral

/-- The number that a text denotes, an integer where it is an integer numeral. Texts of floats
beyond the largest one denote none. -/
def Number.ofText? (text : String) : Option Number :=
  match Text.trim text.toList with
  | [] => some (.int 0)
  | cs =>
    if cs.contains '_' then none
    else match Numeral.int? cs with
      | some n => some (.int n)
      | none => match Numeral.float? cs with
        | some x => if x.isFinite then some (.float x) else none
        | none => none

end EventChain
