import SourceTidy.Fault

/-!
# Settings as what they are asked for

A setting of another kind than an option expects may still stand for a value of that kind: a text
for the number it spells, or for the line ending of its characters.
-/

namespace SourceTidy

namespace Setting

def ofReal (x : Binary64) : Except Fault Int :=
  match x.truncate? with
  | some n => .ok n
  | .none => if x == .nan then .error (.value .notANumber) else .error .infiniteInteger

/-- The integer that a setting stands for. A fraction is cut off. -/
def toInt (v : Setting) : Except Fault Int :=
  match v with
  | .int n => .ok n
  | .flag b => .ok (if b then 1 else 0)
  | .real x => ofReal x
  | .text s =>
    (Text.readInteger s.toList).mapError fun f =>
      match f with
      | .invalid => .value (.notInteger s)
      | .tooLong n => .value (.tooManyDigits n)
  | v => .error (.kind (.notNumber v.kind))

def toEol (v : Setting) : Except Fault Eol :=
  match v with
  | .eol e => .ok e
  | .text s =>
    match Eol.ofTerminator? s with
    | some e => .ok e
    | .none => .error (.value (.notEol v))
  | v => .error (.value (.notEol v))

/-- The characters of a line ending or the letters of a mode. -/
def characters (v : Setting) : Except Fault String :=
  match v with
  | .eol e => .ok e.terminator
  | .mode m => .ok m.letters
  | v => .error (.noProperty v.kind "value")

def givenName (v : Setting) : Except Fault String :=
  match v with
  | .eol e => .ok e.name
  | .mode m => .ok m.name
  | v => .error (.noProperty v.kind "name")

def isBelow (v : Setting) (length : Nat) : Except Fault Bool :=
  match v with
  | .int n => .ok (decide (n < length))
  | .flag b => .ok (decide (b.toNat < length))
  | .real x => .ok (x.isBelow length)
  | v => .error (.kind (.notLength v.kind))

/-- The members of a list. A text is the list of its characters, and values with names are the list
of their names. -/
def members (v : Setting) (otherwise : KindFault) : Except Fault (List Scalar) :=
  if !v.isOn then .ok []
  else match v with
    | .list members => .ok members
    | .record fields => .ok (fields.map fun p => .text p.1)
    | .text s => .ok (s.toList.map fun c => .text c.toString)
    | _ => .error (.kind otherwise)

def items (v : Setting) : Except Fault (List Scalar) :=
  match v with
  | .list members => .ok members
  | .record fields => .ok (fields.map fun p => .text p.1)
  | .text s => .ok (s.toList.map fun c => .text c.toString)
  | v => .error (.kind (.notList v.kind))

/-- Numbers of files are below this, and not below its negative. -/
def fileNumberLimit : Int := Int.pow 2 31

/-- The path that a setting is, where a file tree is asked about it. A number is looked up among the
open files, of which there are none. -/
def toPath (v : Setting) : Except Fault String :=
  match v with
  | .text s => .ok s
  | .int n =>
    .error (.fileNumber
      (if fileNumberLimit ≤ n then .tooGreat
      else if n < -fileNumberLimit then .tooSmall
      else .notOpen (some n)))
  | v => .error (.kind (.notPath v.kind))

/-- The path that a setting is, where a file is opened. -/
def toFile (v : Setting) : Except Fault String :=
  match v with
  | .text s => .ok s
  | .int n =>
    if fileNumberLimit ≤ n || n < -fileNumberLimit then .error (.kind (.notProgram v.kind))
    else .error (.fileNumber (if n < 0 then .negative else .notOpen .none))
  | v => .error (.kind (.notProgram v.kind))

end Setting

/-- Options by their names, as they are given to a tool. -/
abbrev Options := List (String × Setting)

namespace Options

def ownName : String := "self"

def get (options : Options) (name : String) (default : Setting) : Setting :=
  (options.lookup name).getD default

def check (title : String) (known : List String) (options : Options) : Except Fault Unit :=
  match options.find? fun p => !known.contains p.1 with
  | none => .ok ()
  | some (name, _) =>
    if name == ownName then .error (.kind (.ownOption title))
    else .error (.kind (.unknownOption title name))

def find (options : Options) (title name : String) : Except Fault Setting :=
  match options.lookup name with
  | some v => .ok v
  | none => .error (.noProperty title name)

end Options

end SourceTidy
