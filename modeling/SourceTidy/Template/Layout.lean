import SourceTidy.Setting
import SourceTidy.Template.Problem
import SourceTidy.Text.CodePoint

/-!
# Layout of values in templates

A field of a template can say how its value is laid out: fill and alignment, sign, width,
separators between groups of digits, precision, and a code for the notation.
-/

namespace SourceTidy

inductive Align where
  | left
  | right
  | center
  /-- The filling stands between the sign and the digits. -/
  | inset
  deriving DecidableEq, Repr

structure Layout where
  fill : Char := ' '
  align : Align
  sign : Option Char := none
  positiveZero : Bool := false
  alternate : Bool := false
  width : Option Nat := none
  separator : Option Char := none
  precision : Option Nat := none
  code : Char

namespace Layout

def sizeLimit : Nat := 9223372036854775808

def align? (c : Char) : Option Align :=
  if c == '<' then some .left
  else if c == '>' then some .right
  else if c == '^' then some .center
  else if c == '=' then some .inset
  else none

def takeNumber (s : Text) : Except TemplateFault (Option Nat × Text) :=
  let digits := s.takeWhile Text.isDecimal
  if digits.isEmpty then .ok (none, s)
  else
    let n := digits.foldl (fun n c => n * 10 + (Text.digitValue? c).getD 0) 0
    if sizeLimit ≤ n then .error .tooManyDigits else .ok (some n, s.drop digits.length)

def takeChar (c : Char) (s : Text) : Bool × Text :=
  match s with
  | a :: rest => if a == c then (true, rest) else (false, s)
  | [] => (false, [])

def takeAlign (s : Text) : Option Char × Option Align × Text :=
  match s with
  | fill :: c :: rest =>
    match align? c with
    | some a => (some fill, some a, rest)
    | none =>
      match align? fill with
      | some a => (none, some a, c :: rest)
      | none => (none, none, s)
  | [c] =>
    match align? c with
    | some a => (none, some a, [])
    | none => (none, none, s)
  | [] => (none, none, [])

def takeSign (s : Text) : Option Char × Text :=
  match s with
  | c :: rest => if c == ' ' || c == '+' || c == '-' then (some c, rest) else (none, s)
  | [] => (none, [])

def takeSeparator (s : Text) : Except TemplateFault (Option Char × Text) :=
  match s with
  | ',' :: '_' :: _ => .error .twoSeparators
  | '_' :: ',' :: _ => .error .twoSeparators
  | ',' :: rest => .ok (some ',', rest)
  | '_' :: rest => .ok (some '_', rest)
  | s => .ok (none, s)

def takePrecision (s : Text) : Except TemplateFault (Option Nat × Text) :=
  match s with
  | '.' :: rest => do
    match ← takeNumber rest with
    | (some n, rest) => .ok (some n, rest)
    | (none, _) => .error .missingPrecision
  | s => .ok (none, s)

def checkSeparator (separator : Option Char) (code : Char) : Except TemplateFault Unit :=
  match separator with
  | none => .ok ()
  | some c =>
    if "defgEG%F".toList.contains code || code.toNat == 0 then .ok ()
    else if "boxX".toList.contains code && c == '_' then .ok ()
    else .error (.separatorWith c code)

/-- Reads a layout for a value of a kind with the given alignment and code, unless it has its own. -/
def read (kind : String) (align : Align) (code : Char) (spec : Text) : Except TemplateFault Layout := do
  let (fill, given, s) := takeAlign spec
  let (sign, s) := takeSign s
  let (positiveZero, s) := takeChar 'z' s
  let (alternate, s) := takeChar '#' s
  let (zero, s) := if fill.isSome then (false, s) else takeChar '0' s
  let (width, s) ← takeNumber s
  let (separator, s) ← takeSeparator s
  let (precision, s) ← takePrecision s
  let code ← match s with
    | [] => .ok code
    | [c] => .ok c
    | _ => .error (.invalidSpec spec kind)
  checkSeparator separator code
  let align := match given with
    | some a => a
    | none => if zero && align == .right then .inset else align
  return {
    fill := if zero then '0' else fill.getD ' '
    align, sign, positiveZero, alternate, width, separator, precision, code }

def filling (l : Layout) (n : Nat) : Text := List.replicate n l.fill

def widthLimit : Nat := Nat.pow 2 35

/-- Fills a field around something made of a head, which stays in front, and a body. -/
def padWith {α : Type} (l : Layout) (ofChar : Char → α) (head body : List α) :
    Except TemplateFault (List α) :=
  let width := l.width.getD 0
  let missing := width - (head.length + body.length)
  let filling := fun n => (l.filling n).map ofChar
  if widthLimit ≤ width then .error .outOfMemory
  else .ok (match l.align with
    | .left => head ++ body ++ filling missing
    | .right => filling missing ++ head ++ body
    | .center => filling (missing / 2) ++ head ++ body ++ filling (missing - missing / 2)
    | .inset => head ++ filling missing ++ body)

def pad (l : Layout) (head body : Text) : Except TemplateFault Text := l.padWith id head body

def layText (l : Layout) (kind : String) (s : Text) : Except TemplateFault Text :=
  if l.code != 's' then .error (.unknownCode l.code kind)
  else if l.sign == some ' ' then .error .spaceInText
  else if l.sign.isSome then .error .signInText
  else if l.positiveZero then .error .zeroInText
  else if l.alternate then .error .alternateInText
  else if l.align == .inset then .error .insetInText
  else l.pad [] (match l.precision with
    | some n => s.take n
    | none => s)

def signOf (l : Layout) (negative : Bool) : Text :=
  if negative then ['-']
  else match l.sign with
    | some '+' => ['+']
    | some ' ' => [' ']
    | _ => []

/-- Groups of digits from the right, with zeros in front up to a least width, all in reverse. -/
def groupDigits (size : Nat) (separator : Char) : Nat → Int → Text → Text
  | 0, _, digits => digits
  | fuel + 1, least, digits =>
    let wanted : Int := min (size : Int) (max (max (digits.length : Int) least) 1)
    let count := wanted.toNat
    let group := digits.take count ++ List.replicate (count - digits.length) '0'
    let rest := digits.drop count
    let least := least - wanted
    if rest.isEmpty && least ≤ 0 then group
    else group ++ separator :: groupDigits size separator fuel (least - 1) rest

/-- Lays out a number from its sign, its digits before the point and what stands around them. Without
digits there is nothing to separate. -/
def layNumber (l : Layout) (negative : Bool) (lead digits tail : Text) : Except TemplateFault Text :=
  let head := l.signOf negative ++ lead
  let width := l.width.getD 0
  let least : Int :=
    if l.fill == '0' && l.align == .inset then (width : Int) - (head.length + tail.length : Nat)
    else 0
  if widthLimit ≤ width then .error .outOfMemory
  else
    let digits := match l.separator with
      | none => digits
      | some c =>
        if digits.isEmpty then []
        else
          let size := if "boxX".toList.contains l.code then 4 else 3
          (groupDigits size c (digits.length + least.toNat + 1) least digits.reverse).reverse
    l.pad head (digits ++ tail)

/-- The limit for integers that are taken for numbers of characters. -/
def charNumberLimit : Nat := 9223372036854775808

def layChar (l : Layout) (n : Int) : Except TemplateFault (List CodePoint) :=
  if l.sign.isSome then .error .signWithChar
  else if l.alternate then .error .alternateWithChar
  else if n < -(charNumberLimit : Int) || (charNumberLimit : Int) ≤ n then .error .notCharNumber
  else if n < 0 then .error .noSuchChar
  else match CodePoint.ofNat? n.toNat with
    | some c => l.padWith .char [] [c]
    | none => .error .noSuchChar

def layDigits (l : Layout) (n : Int) : Except TemplateFault Text :=
  let base := if l.code == 'b' then 2 else if l.code == 'o' then 8
    else if l.code == 'x' || l.code == 'X' then 16 else 10
  let lead := if l.alternate && base != 10 then ['0', l.code] else []
  let digits := Nat.toDigits base n.natAbs
  let digits := if l.code == 'X' then digits.map Char.toUpper else digits
  l.layNumber (n < 0) lead digits []

def layInteger (l : Layout) (n : Int) : Except TemplateFault (List CodePoint) :=
  if l.precision.isSome then .error .precisionInInteger
  else if l.positiveZero then .error .zeroInInteger
  else if l.code == 'c' then l.layChar n
  else (l.layDigits n).map CodePoint.ofText

def fraction (l : Layout) (digits : Text) : Text :=
  if digits.isEmpty && !l.alternate then [] else '.' :: digits

inductive NumberForm where
  | fixed
  | scientific
  /-- A number of significant digits, and an exponent where that is shorter. -/
  | general
  | generalWithPoint
  deriving DecidableEq, Repr

/-- The digits of a number in a notation, before the point and from the point on. Zeros at the end
of significant digits are left out, unless the layout asks for the alternate form. -/
def digitsIn (l : Layout) (form : NumberForm) (mark : Char) (num den : Nat) : Digits × Text × Text :=
  let precision := l.precision.getD 6
  match form with
  | .fixed =>
    let d := if num == 0 then Digits.zero else Digits.toPlaces num den precision
    (d, d.whole, l.fraction (d.fraction (d.point + precision)))
  | .scientific =>
    let d := Digits.toSignificant num den (precision + 1)
    let (s, e) := d.scientific
    (d, s.whole, l.fraction (s.fraction (1 + precision)) ++ Digits.exponentText mark e)
  | .general | .generalWithPoint =>
    let count := max precision 1
    let d := Digits.toSignificant num den count
    let places := if form == .generalWithPoint then (1 : Nat) else 0
    let stop : Int := if l.alternate then count else d.digits.length
    if d.point ≤ -4 || (count : Int) - places < d.point then
      let (s, e) := d.scientific
      (d, s.whole, l.fraction (s.fraction (max stop 1)) ++ Digits.exponentText mark e)
    else (d, d.whole, l.fraction (d.fraction (max stop (d.point + places))))

def precisionLimit : Nat := 2147483648

def layReal (l : Layout) (form : NumberForm) (x : Binary64) (tail : Text) : Except TemplateFault Text :=
  let upper := "EFG".toList.contains l.code
  let mark := if upper then 'E' else 'e'
  let word := fun s : String => (if upper then s.toList.map Char.toUpper else s.toList) ++ tail
  match x with
  | .nan => l.layNumber false [] [] (word "nan")
  | .infinite negative => l.layNumber negative [] [] (word "inf")
  | .finite negative mantissa exponent =>
    let (num, den) := Binary64.ratio mantissa exponent
    let (d, whole, rest) := l.digitsIn form mark num den
    let negative := negative && !(l.positiveZero && d.digits.all (· == '0'))
    l.layNumber negative [] whole (rest ++ tail)

/-- Lays out a number in the fewest digits. The alternate form has a point in any case. -/
def layPlain (l : Layout) (x : Binary64) : Except TemplateFault Text :=
  match x with
  | .finite negative mantissa exponent =>
    let (whole, rest) := Binary64.plainParts mantissa exponent
    let rest := if l.alternate && !rest.contains '.' then '.' :: rest else rest
    l.layNumber (negative && !(l.positiveZero && mantissa == 0)) [] whole rest
  | x => l.layReal .general x []

def layByCode (l : Layout) (x : Binary64) : Except TemplateFault Text :=
  if precisionLimit ≤ l.precision.getD 0 then .error .precisionTooLarge
  else if l.code.toNat == 0 then
    if l.precision.isSome then l.layReal .generalWithPoint x [] else l.layPlain x
  else if l.code == 'e' || l.code == 'E' then l.layReal .scientific x []
  else if l.code == 'f' || l.code == 'F' then l.layReal .fixed x []
  else if l.code == '%' then l.layReal .fixed x.timesHundred ['%']
  else l.layReal .general x []

def layIntegerAs (kind : String) (n : Int) (spec : Text) : Except TemplateFault (List CodePoint) := do
  let l ← read kind .right 'd' spec
  if "bcdoxXn".toList.contains l.code then l.layInteger n
  else if "eEfFgG%".toList.contains l.code then
    match Binary64.ofInt? n with
    | some x => CodePoint.ofText <$> l.layByCode x
    | none => .error .integerTooLarge
  else .error (.unknownCode l.code kind)

def layRealAs (x : Binary64) (spec : Text) : Except TemplateFault Text := do
  let l ← read "float" .right (Char.ofNat 0) spec
  if l.code.toNat == 0 || "eEfFgGn%".toList.contains l.code then l.layByCode x
  else .error (.unknownCode l.code "float")

def layTextAs (s : String) (spec : Text) : Except TemplateFault Text := do
  (← read "str" .left 's' spec).layText "str" s.toList

/-- Lays out a setting. Without a layout it is shown as plain text. -/
def lay (v : Setting) (spec : Text) : Except TemplateFault (List CodePoint) :=
  if spec.isEmpty then .ok (CodePoint.ofText v.plain.toList)
  else match v with
    | .int n => layIntegerAs "int" n spec
    | .flag b => layIntegerAs "bool" (if b then 1 else 0) spec
    | .real x => CodePoint.ofText <$> layRealAs x spec
    | .text s => CodePoint.ofText <$> layTextAs s spec
    | .eol _ | .mode _ => CodePoint.ofText <$> layTextAs v.plain spec
    | .none | .list _ | .record _ => .error (.noFormat v.kind)

end Layout

end SourceTidy
