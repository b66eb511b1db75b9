import SourceTidy.Text.Ranges

/-!
# Letter case

Most letters differ from their counterpart by a fixed distance along a run of neighbours; a few have
more than one character in the other case, and the capital sigma has a lower case of its own at the
end of a word.
-/

namespace SourceTidy.Text

/-- A run of characters `first, first + step, …, last` whose counterpart lies `shift` further. -/
structure CaseRun where
  first : Nat
  last : Nat
  step : Nat
  shift : Int

def shiftCase (runs : Array CaseRun) (n : Nat) : Nat :=
  match runs.find? fun r => r.first ≤ n && n ≤ r.last && (n - r.first) % r.step == 0 with
  | some r => (n + r.shift).toNat
  | none => n

/-- The runs that numbers give after a start. A run has four of them: the distance of its first member
from that of the run before, the distance between its ends, its step, and its shift, where the odd
numbers stand for the negative ones. -/
def runsFrom (start : Nat) : List Nat → List CaseRun
  | gap :: width :: step :: shift :: rest =>
    let first := start + gap
    let shift : Int := if shift % 2 == 0 then shift / 2 else -(shift / 2 + 1)
    ⟨first, first + width, step, shift⟩ :: runsFrom first rest
  | _ => []

def runTable (lines : List String) : Array CaseRun := (runsFrom 0 (numbers lines)).toArray

def lowerRuns : Array CaseRun := runTable [
  "cg1mh4g1omh4g2o2uii3ikiinuii1h2sii2ughfhhkiiogh1akhiiikgh19shghiihh19qighijgh9uhgh19khgh19mhgh",
  "iigh19qhgh19uigh1amhgh1aihghikgh1amhgh1aqigh1ashkiimgh1bkhghiigh1bkjghiigh1bkhghiihh1biiiiikgh",
  "1bmhghikghioghkhghiighkhghiighkh1gii1j1gii1jghkhiiikghchhgh6vh2mii2ogh10ji1gii1ogh545mhghiigh1",
  "4lhgh545gjghiigh18lhgh8qhgh8uhoii12qiiimghipgheongh4siih4qkgh8gihh7uj1gh4g1ioh4g2sgh1gp1mii1sg",
  "h7njghiighthghijih10jjvhag1g1vh4g5g2gii2q3kii3mgh1uhsiiv5uii6h2lh6gb6v2lh38cg2ngh38cgmgh38cg2d",
  "j4vh12fag5glh1g8ag2qh177v2tih177v14j9kii9ugh3b7ti5uii6onhv1glhv1gnhv1gnhv1glhv1hmivvnhv2gnhv1g",
  "nhv1gnhv1ghhvihh9jigh1hsjharkgh1hshhvihhcnuhhvihhdvightshhfvihhfrigh1h12qgh3abpkgh417thgh408rn",
  "gh3o2uvh2g2jghi33j1ph3k74q2vh6g6gghiigh53ethgh1dcrhgh53ctjkiimgh543nhgh53fphgh543thgh543righij",
  "ghiphh547ti6iii6riiinghi794u2sii4g1qiiaisii1g3sii4niiikgh1140nhoiitghiigh14a4vjiiim1iii1kgh14a",
  "8nhgh14a9thgh14a9lhgh14a8hhgh14a8nigh14a2jhgh14a5jhgh14a2phgh74ghuii1ggh5vhgh14a8lhgh1146vhiii",
  "pghimiii1vghi572s1ph4g4dv2nh5gbg2jh5gcgqh4usuh4u1gmh4uohh4u6es3ih8gc2g1vh4g55ag1vh4g7acg2hh4k"]

def upperRuns : Array CaseRun := runTable [
  "blgh5cu2r1mh3v1omh3vnghfii2uih3ggh1cvikihnuih1h2sih2vkihlgh25nhgh18mjiihlghhkghhmghhjghcikghhh",
  "gh14mkgh10kjkihnghhlghhjghhkiihlghhkghhigh7gmghhhghjighhhghjighhhghjiuihvgh9ti1gih1jghhhghjigh",
  "hk2mih2q1gih1pghhjhh547ujghhloihpgh543uhgh543ohgh543shgh1ajhgh19rihh19pjgh19jigh19lhgh14a9ukgh",
  "19phgh14a9migh19tigh14a5ghgh14a8oigh1ahhgh1alhgh14a8ohgh53euhgh14a8ijgh1aligh53fqhgh1apjgh1aro",
  "gh53cujgh1bjigh14a8mhgh1bjkgh14a5khgh1bjhgh8phhh1bhigh8tmgh1blrgh14a2qhgh14a2kanghao2siihmghhk",
  "ih10k3hgh4rhih4pk1gh3v1hgh3thoh3vpgh7vhhh7tjgh7rhgh7hkgh5thgh6rhghvi1mih1ngharhgh9vhghuhghenig",
  "hbvjghhjghh3l1vh3v2gvh9v1h2gih2q3kih3nsihtgh1ti5uih9g2lh5vb6v2qh178g2tih178g2frlhv88ogh30drhgh",
  "30dphgh30cnhhh30cjigh30clhgh30bnhgh304phgh1138kfhgh1140okgh1dcs1hgh1147g7j9kih9qgh7lm5uih5vnh1",
  "g1glh1g1gnh1g1gnh1g1glh1g1hmi1gvnh1g1ghh9kijhaskhhcoihh10gihhegihhfs3khh1gugh384p1ihh1g1ghh1gl",
  "ghu16pgh3n2ivh1v1kghh34s1ph3j76g2vh5v3hghhkgh545lhgh544vikihrghhjghhr6iih6riihnghht2lh38bv2ngh",
  "38bvmgh38bv791k2sih4g1qihaisih1g3sih4niihloihtghhliihjgh6gj1iih1uuih1jiihpghhmiih1vghh35tgh73v",
  "1t4vh12f9v53dh1ph3v4en2nh4vbg2jh4vbvqh4tsuh4t1gmh4tohh4t70l3ih7vc0g1vh3v55ag1vh3v7aci2hh4j"]

/-- Up to three numbers for each of the numbers from a start on, each given by its distance from the
one before. -/
def listsFrom (start : Nat) : List Nat → List (Nat × List Nat)
  | gap :: a :: b :: c :: rest =>
    (start + gap, [a, b, c].filter (· != 0)) :: listsFrom (start + gap) rest
  | _ => []

def listTable (lines : List String) : Array (Nat × List Nat) :=
  (listsFrom 0 (numbers lines)).toArray

def upperExpansions : Array (Nat × List Nat) := listTable [
  "dv5j5jg6q2bs4ugan4q30sg1ag39p30o30h2g3al30o30h1dn53l55ig190v4o33hgh5k30ogh5n30qgh5p30qgh4h2bug",
  "bm3al31jgi3al31j30gi3al31j30hi3al31j34i2q1f0o39pgh1f0p39pgh1f0q39pgh1f0r39pgh1f0s39pgh1f0t39pg",
  "h1f0u39pgh1f0v39pgh1f0o39pgh1f0p39pgh1f0q39pgh1f0r39pgh1f0s39pgh1f0t39pgh1f0u39pgh1f0v39pgh1f2",
  "o39pgh1f2p39pgh1f2q39pgh1f2r39pgh1f2s39pgh1f2t39pgh1f2u39pgh1f2v39pgh1f2o39pgh1f2p39pgh1f2q39p",
  "gh1f2r39pgh1f2s39pgh1f2t39pgh1f2u39pgh1f2v39pgh1f6o39pgh1f6p39pgh1f6q39pgh1f6r39pgh1f6s39pgh1f",
  "6t39pgh1f6u39pgh1f6v39pgh1f6o39pgh1f6p39pgh1f6q39pgh1f6r39pgh1f6s39pgh1f6t39pgh1f6u39pgh1f6v39",
  "pgj1fbq39pgh39h39pgh38m39pgi39h34igh39h34i39pl39h39pgm1fcq39pgh39n39pgh38p39pgi39n34igh39n34i3",
  "9pl39n39pgm39p30o30gh39p30o30hj39p34igh39p30o34ir3al30o30gh3al30o30hh3ah31jgi3al34igh3al30o34i",
  "r1ffq39pgh3ap39pgh38v39pgi3ap34igh3ap34i39pl3ap39pgdb0k4m4mgh4m4pgh4m4sgh4m4m4ph4m4m4sh5j5kgh5",
  "j5kgt54k54mgh54k53lgh54k53rgh54u54mgh54k53tg"]

/-- Lower case characters that share their upper case with other lower case characters. -/
def sameUpper : Array (Nat × List Nat) := listTable [
  "6p13hggq17vgg4i3bsgg7s6pgg4u7jgg1cm3bp1fbug4r1fdjgg2g1fejggi3dgggj3flggj3dhggh34l1fbugh3fgggib",
  "lggk3dmggh3fhggh3cjggh3ciggj3dlggq3biggh3boggk3cmggh3cggg1q3bqggh3chggk3blgg3t1c8gggi1c8hggq1c",
  "8iggj1c8jggh1c8k1c8lgo1c8mgg1p1c8ngg181t43iggh43kggh43uggh44hggh44i1c8lgh44i1c8kgh44qggh46jggh",
  "a64rgg1dp1e9rgg3q1e6hgg12j34l3bpg1l39ggg1g3bggg866o1c8ogg54bqfb0mgghfb0lgg"]

/-- The characters with a case that do not merely accompany a letter. -/
def casedRanges : Array (Nat × Nat) := rangeTable [
  "4h1pm1p2vgqgkgl1mh1uhcihjkcvh1qcgjihjihgmghihgh1jh5ih8qoalh2lp2ob1n2lhglgi2qii2ag5lil88ion2qii",
  "4g2r3vsh2h6l11lili2lilinhghghgh1ui3khmhgjihmjjilkslihm10lgkgiphgjkmghghghjhlkgijlkkg1h1vjh33h3",
  "j71m7ri6mmjjhs2lhglg791i2t1i1r8m4th1mjjh3qlhhghk1rhjg33l2qlon4v4f4gmsk40p1pm1p4al4v6g2jk2j7kqh",
  "uhmhhhqhuhmhh6cj3it3ibat3v556g3v658g5kh4mhhigihijhrhghmh4ghjinhmh1rhjhkhgjmh15ji1oh1oh1uh1oh1u",
  "h1oh1uh1oh1uh1ohn73kph1j9eh4j7es1pm1pm1p"]

/-- The characters that accompany letters and are passed over when the end of a word is sought. -/
def caseIgnorableRanges : Array (Nat × Nat) := rangeTable [
  "2ngmgrg2jghg4ngkghgkgih1fnbvkhkgphhgfrmcvglg3h2shghhhhhg2sgrlqqhg2jgq1k1gg6lnhphj2hghg1u1q5rq3",
  "qqkgig1o1n2ri2sgnhmn2p3p3nghgknkgjmqhtgvg3qgkjog1kh1qgih3pgkhkhiijg1uhjgrh3pgkkhhkg1kh1mlhg3qg",
  "ighjognhrh1ug3tgsg3igjg3nghilihjnhrh1tg3qgigmglh1kh1sh3phkjog1kh1tg4ognihg5qgimro6igiopghl4qh1",
  "rghghg3nthkhhlqh2jpg6mjhlhhih1phki1gjtgihmgvg5ug26gi3bii1th1uh1uh4ghhmogiqjglg2tk3jg4hh2ig7mik",
  "hpgmidrhig3qghmhghginmpig2ngo1u3hj3gghkhglg2oosh2gjihhi3oghhjghi3qnih4gl5iihshmkgmgjh3i3utg2i6",
  "k1btghirititithskohqgigik3hkhphgtg1gs3j2gb8rh7hi7tgvg6g1v2vg1dlg2kjjklg5tl5ti6f1mg4eil10ug6ijh",
  "phg1sj5ghu2h4ug1ni6nijhogjgkg1phlg9nh1q1htg2mn1pq2ui3ggijih1hg1lh4ilihihsgog2jgrg3jghiihlhhg1r",
  "guhlhhg6kkpi7pgigkg4f3gg9j1g23tvjgsv2igigapgngmgrg2jghg2vg2th4jg1li20hgeig9lk40llh2pho24mihhlj",
  "2oikgalh23tj18jh9pq3hj7rg3mu2pgihqi3hjihigkgqg3ii2kkhn3ugsh3koqjig5viighhmgaggjn1lh3phjg2lmjkc",
  "jniihg1ng5klhgkhhheujmhhh1rh5lnighh6qghgilhg6liijhk10johh10ghhgkg9gjihkg2gp2olijogplii2ushh19m",
  "mhlhg5i1limhhhh7qljghhhmhg4ohjghg15rh153ro36bnk3rmpj40rg3v1g4ghhh400rjhmhhc9uhhj125s2ti1m22gip",
  "vim1uj9ki7br3mk3hogug1mkhu55gmh1gimhhhk10lt17gg3tj5egm6tnaavkc0c0hg1u5v8gev"]

def shiftSources (runs : Array CaseRun) (n : Nat) : List Nat :=
  runs.toList.filterMap fun r =>
    let m := ((n : Int) - r.shift).toNat
    if r.first ≤ m && m ≤ r.last && (m - r.first) % r.step == 0 && (m : Int) + r.shift == n then
      some m
    else none

def CaseRun.meets (r : CaseRun) (first last : Nat) : Bool :=
  let skipped := first - r.first
  let next := r.first + (skipped + r.step - 1) / r.step * r.step
  next ≤ r.last && next ≤ last

def lowerChar (c : Char) : Char :=
  if c.toNat < 0x80 then c.toLower
  else if c.toNat == 0x130 then 'i'
  else Char.ofNat (shiftCase lowerRuns c.toNat)

def upperChar (c : Char) : Char :=
  if c.toNat < 0x80 then c.toUpper else Char.ofNat (shiftCase upperRuns c.toNat)

def caseSiblings (c : Char) : List Char :=
  match sameUpper.find? (·.1 == c.toNat) with
  | some (_, others) => others.map Char.ofNat
  | none => []

def upperExpand (c : Char) : List Char :=
  if c.toNat < 0x80 then [c.toUpper]
  else match upperExpansions.find? (·.1 == c.toNat) with
    | some (_, chars) => chars.map Char.ofNat
    | none => [upperChar c]

def hasCase (c : Char) : Bool := lowerChar c != c || upperExpand c != [c]

def caseInRange (first last : Nat) : Bool :=
  (first ≤ 0x5a && 0x41 ≤ last) || (first ≤ 0x7a && 0x61 ≤ last) ||
    (first ≤ 0x130 && 0x130 ≤ last) || lowerRuns.any (·.meets first last) ||
    upperRuns.any (·.meets first last) ||
    upperExpansions.any fun e => first ≤ e.1 && e.1 ≤ last

def withLower (c : Char) : List Nat :=
  let own := if lowerChar c == c then [c.toNat] else []
  let ascii := if 'a' ≤ c && c ≤ 'z' then [c.toNat - 0x20] else []
  let dotted := if c == 'i' then [0x130] else []
  own ++ ascii ++ dotted ++ shiftSources lowerRuns c.toNat

def toUpper (s : Text) : Text := s.flatMap upperExpand

/-- Whether the nearest character that is not merely an accompaniment has a case. -/
def besideCased (s : Text) : Bool :=
  match s.find? fun c => !inRanges caseIgnorableRanges c.toNat with
  | some c => inRanges casedRanges c.toNat
  | none => false

def lowerExpand (before : Text) (c : Char) (after : Text) : List Char :=
  if c.toNat < 0x80 then [c.toLower]
  else if c.toNat == 0x130 then ['i', Char.ofNat 0x307]
  else if c.toNat == 0x3a3 then
    if besideCased before && !besideCased after then [Char.ofNat 0x3c2] else [Char.ofNat 0x3c3]
  else [lowerChar c]

def lowerAfter (before : Text) : Text → Text
  | [] => []
  | c :: s => lowerExpand before c s ++ lowerAfter (c :: before) s

def toLower (s : Text) : Text := lowerAfter [] s

end SourceTidy.Text
