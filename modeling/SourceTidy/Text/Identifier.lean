import SourceTidy.Text.Ranges

/-!
# Identifiers

An identifier starts with a letter of any script or the underscore. Digits and marks may follow.
-/

namespace SourceTidy.Text

def identifierStarts : Array (Nat × Nat) := rangeTable [
  "aqgqgkgl1mh1uh1cpkruknghg8hkhhjihgmghihgh1jh5ih8qoalh2ligm2o4n1qkj2t2q2jhh6ihgvhnhqiig1ggh1t1t",
  "5org1o2gphkgl1lkgpgjg1n1onql1nhl1h2p3q3ljg1ignpvvknihi1lhmhgjjjg1ggthhiuhqgolkhi1lhmhhhhhh1vjh",
  "g1ji1gohih1lhmhhhkjg1igvh1ngrnihi1lhmhhhkjg1uhhivg1hghljihjjhhghhjhjijr1mg3knhih1mhvjg1qiigih1",
  "ugknhih1mhphkjg1vhhhvh1hohih2oig1gglioi1oll1hj1nhohgim3q2vhgtm3qhhghkh1nhghphgqgikhg1lj2gg3vnh",
  "2j1rk7j2q1kg1glkjjgjhnikssg1h2lhglgi2qh14shjimhghji2ohji2ghjimhghjiuh3ohji4i2lv1g5lilj26ri1gh1",
  "pl4qjqn1ht1iu1hushiv3j2jgkg4j5on2ohgl4lq1u3h1tikr2rk1p3m1mp3k5ig5t2u1hn3m1tthq2r1q2j2piq2jion2",
  "qii2pjhlhhjglbv4g11lili2lilinhghghgh1ui3khmhgjihmjjilkslihm7kgtg1gs6lgkgiphgilmghghghvijlkkg1h",
  "2oa7nekmjjhs2lhglgi3nng1g1mpmhmhmhmhmhmhmhm22mi1ponkikk5lmih5phjl2qh5t1h1v3gv20g19bv4g568s4j2t",
  "i10sjvqh1k2u1g1ui4v2noi6mi3vlhhghk1ovhihjh1m1t3ju3h3uljghhr1rq1m1p1sn2u1sg1gkhpqkh2o1nihn1k1mj",
  "gj3hhgjhikighg1oiiqnislililpmhmh2qhtm7i1t2bajs1mk3g210k16ti6p2mmsklghphshkhghhhhh6r2h8qmdp1i3v",
  "i3l2op7nghgjghghghgh7t2k1pm1pr3ni1ujlililii2jrh1ph1ihhhuit2i7q4l3k10r1sj3g2v1vt1tl2lq1ti2jknhk",
  "2q9t1i2jk2jk2no3jsqhuhmhhhqhuhmhh4j13mp1lqn1olh2pho4lligh2rhhjgi1mq1mp1u4h1ihhq1lq1p4m3nmh4ggv",
  "jhih1s2q1sj1s2jnh1r1r3lq1lq1it1h6u4o3n3it3it2j15s2pmh4u1sqgo1l2q1h2u1k1r1ms3k3phigt2s2g1o1q2j1",
  "tgigo2ijgs2vuj1lghg2j1hh1o5kmhghjhuhpn2u2mnihi1lhmhhhkjg1igsk9u3k1ij1ki1u2v1khhgbo2u2pj2k2v1kg",
  "3r2qtg4n1q2lmbp2r7k3v1vniginhhh1nvghg5uni2m1gghg1sgq2nng1lgr2t1jg1i4o10noh2k1hg3h1t7gmhhh2l1lg",
  "1plhhh1vug14n1ibtg4v39p6m6u1hcja4s6gv42ufdh24m21bp23on1u1h4u1h1t1i2v1gj1v1kl1i2bg3v8g4qlg4is4g",
  "hhg1s17fno4dl2qo22enjhmhhh12i2ti1hjo18r90k6qlsjonp176m5kh4mhhigihijhrhghmh4ghjinhmh1rhjhkhgjmh",
  "15ji1oh1oh1uh1oh1uh1oh1uh1oh1uh1ohn73k1u1eh2sqm1gg14h1t1i2r4fkmhjhhhuhck3r4jng4bkjh1qhhhgighph",
  "jhghgmgkghghghihhhgighghghghghhhgijhmhjhjhghph1glihkh1g114ka6dv2g103ondti168hu1d3gc1v21t5ei134",
  "q"]

def identifierParts : Array (Nat × Nat) := rangeTable [
  "aqgqghgigl1mh1uh1cpkruknghg1h7khhjihgmkhgh1jh5ih8qhkialh2ligm2oo2shghhhhhgo1qkj1tql4pk6lhniph1",
  "iig1g3qi6ku3lkgigi2t1i1rkql1nhlp4ph8giph1ihnihi1lhmhgjjioihijogkhhkirqghgiihlkhi1lhmhhhhhhighk",
  "khiijgnjhgnvrihohih1lhmhhhkiphihiigvjippmhihnihi1lhmhhhkioihiinikhhkiphg1ghhljihjjhhghhjhjijrk",
  "kjihjigmgup1gshih1mhviohihjnhhiigijip1gjhnhih1mhphkiohihjnhmhhjiphhtshih3ihihkljnkipqlhih1hj1n",
  "hohgimjgklhghnmpiht3pluhp2nhhghkh1nhgh1mikhghlipij2gg1nhmprghghgkph2jk1jh1hh2jpg3p4pm4ti2lhglg",
  "i2qh14shjimhghji2ohji2ghjimhghjiuh3ohji4iiipouv1g5lilj26ri1gh1pl4qjqn1lp1lr1jsshihhs5jjgkhip2h",
  "ihqm5on2ql4lq1uhrkrq2nikr2rk1pmq2l1rk3uh1siqmptgothv3h4sjp1hos7js3nopj3gion2qii1gih2ml21lili2l",
  "ilinhghghgh1ui3khmhgjihmjjilkslihm4ih1jg1sgtg1gs3jskgjr1hgkgiphgilmghghghvijlkkg1h2oa7nekmos2l",
  "hglgi3nngv1npmhmhmhmhmhmhmhmh1v20li1puhkikk5lihiih5phjl2qh5t1h1v3gv20g19bv4g568s4j2ti10sj1r1k2",
  "vkph7i2loi6mi3vlhhghk1o3lkg1j3js4lqpm1njgh3gi2js1sj4guqm1uh3mptipm1mj4o1oiivikqlililpmhmh2qhtm",
  "7qhhipm2bajs1mk3g210k16ti6p2mmsklrhshkhghhhhh6r2h8qmdp1i3vi3l2opmv1gvjh1oi2hghgjghghghgh7t1jpn",
  "1pkgh1pr5ojlililii2jrh1ph1ihhhuit2i7q4l3k8og8i1sj3gvg1v1vt1tl2ql1ti2jknhk2q9tipm2jk2jk2no3jsqh",
  "uhmhhhqhuhmhh4j13mp1lqn1olh2pho4lligh2rhhjgi1mq1mp1u4h1ihhq1lq1p4m3nmh4gjhhlnhih1siikg2g1sj1s2",
  "jnh1t1p3lq1lq1it1h6u4o3n3it3it2nop14m2phhjh4u1sqgo2g1v1l2q1k1r1mp4m1vvp3rngt1onpm3khpkjo2jigp4",
  "kkjhshg2j1hh2kmg4hmhghjhuhpn3qlpmjhnihi1lhmhhhkhpihiiigmglmimjk8r4qlpkj1u4lhgopam3lio1nl2i4gjg",
  "rp2m3onp3m1qiukpmmbp3q6l4p1lniginhhh1thhiosp4mni2tinhh1r3uogo4pjg1i4o10noh2shovp1o1ti1lht4pmhh",
  "h2rjghhhoopmlhhh2khhhlnp13m1mbpg4v39p6m6u1hcja4s6gv42ufdh24m21bp23on1uhpm4uhpm1tikr3mpjspp1kl1",
  "i2bg3v8g4qk3on1g4ghhhrhu17fno4dl2qo22enjhmhhh12i2ti1hjo18r90k6qlsjonpjh126h2ti1m21ukjlonim1uj9",
  "ki1br5kh4mhhigihijhrhghmh4ghjinhmh1rhjhkhgjmh15ji1oh1oh1uh1oh1uh1oh1uh1oh1uh1ohni3h20g3mk3hogu",
  "g1mkhu45g1uehmh1gimhhhkdl2sjtipkg14h1u1h3p4emmhjhhhuhckrm2p4rkp4amjh1qhhhgighphjhghgmgkghghghi",
  "hhhgighghghghghhhgijhmhjhjhghph1glihkh1gd3kp40ma6dv2g103ondti168hu1d3gc1v21t5ei134qaedblev"]

def startsIdentifier (c : Char) : Bool :=
  if c.toNat < 0x80 then c.isAlpha || c == '_' else inRanges identifierStarts c.toNat

def continuesIdentifier (c : Char) : Bool :=
  if c.toNat < 0x80 then c.isAlphanum || c == '_' else inRanges identifierParts c.toNat

def isIdentifier : Text → Bool
  | [] => false
  | c :: s => startsIdentifier c && s.all continuesIdentifier

end SourceTidy.Text
