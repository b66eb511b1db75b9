import SourceTidy.Text.Encoding.Names

/-!
# Named encodings

Names of encodings are compared without regard to case, and each run of other characters counts as
one separator.
-/

namespace SourceTidy.Encoding

/-- The normal form of a name: letters in lower case, and one underscore for each run of
characters other than letters, digits and full stops, save at the ends. -/
def normalName (name : Text) : Text :=
  let kept := name.map fun c => if c.isAlphanum || c == '.' then c.toLower else '_'
  let pieces := (Text.splitAt '_' kept).filter (!·.isEmpty)
  List.intercalate ['_'] pieces

def ofNormalName? (name : String) : Option Encoding :=
  if fullNames.contains name then some (.singleByte []) else byName.lookup name

/-- The encoding with the given name. Other names come first, and in them a full stop may stand for
an underscore. -/
def ofName? (name : String) : Option Encoding :=
  let normal := normalName name.toList
  let undotted := normal.map fun c => if c == '.' then '_' else c
  let known := ofOtherName? (Text.str normal) <|> ofOtherName? (Text.str undotted)
  known.bind ofNormalName? <|> ofNormalName? (Text.str normal)

end SourceTidy.Encoding
