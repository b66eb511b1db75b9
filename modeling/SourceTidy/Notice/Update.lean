import SourceTidy.Notice.Basic

/-!
# Years of copyright notices

A notice with a first year, and maybe further years, gets the current year as its last one. A notice
that starts with the current year stays as it is.
-/

namespace SourceTidy.Notice

/-- A notice whose years are brought up to date: its text up to the blanks before the years, and its
first year. -/
structure Dated where
  mark : Text
  firstYear : Text
  deriving DecidableEq, Repr

def skipColon (s : Text) : Text := (takeChar? (· == ':') s).getD s

def before (s rest : Text) : Text := s.take (s.length - rest.length)

def skipYears : Nat → Text → Text
  | 0, s => s
  | fuel + 1, s =>
    match (takeChar? (· == ',') s).bind (takeYear? Text.isDecimal) with
    | some (_, rest) => skipYears fuel rest
    | none => s

/-- The rest of a text after what follows a first year: a hyphen and maybe a last year, or years
after commas and maybe one more comma. -/
def skipFurther (s : Text) : Text :=
  match takeChar? (· == '-') s with
  | some s => ((takeYear? Text.isDecimal s).map (·.2)).getD s
  | none =>
    let s := skipYears s.length s
    (takeChar? (· == ',') s).getD s

/-- The notice with which a text starts, unless it starts with the current year, and the rest.
Colons around the word belong to it. -/
def takeDated? (year : Text) (s : Text) : Option (Dated × Text) := do
  let marked := skipColon (← takeMark? (skipColon s))
  let years ← takeBlanks? marked
  if year.isPrefixOf years then none
  else
    let (firstYear, rest) ← takeYear? Text.isDecimal years
    return ({ mark := before s marked, firstYear }, skipFurther rest)

def Dated.updated (d : Dated) (year : Text) : Text := d.mark ++ ' ' :: d.firstYear ++ '-' :: year

/-- Updates the years of all notices. The counter holds the characters of a notice still to pass. -/
def updateFrom (year : Text) : Nat → Text → Text
  | _, [] => []
  | skip + 1, _ :: s => updateFrom year skip s
  | 0, c :: s =>
    match takeDated? year (c :: s) with
    | some (d, rest) => d.updated year ++ updateFrom year (s.length - rest.length) s
    | none => c :: updateFrom year 0 s

def update (year : Text) (s : Text) : Text := updateFrom year 0 s

end SourceTidy.Notice
