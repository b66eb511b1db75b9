import SourceTidy.Text.Ranges

/-!
# Letters

The letters of all scripts, as opposed to digits, marks and other signs.
-/

namespace SourceTidy.Text

def letterRanges : Array (Nat × Nat) := rangeTable [
  "aqgqgkgl1mh1uh1cpkruknghg8hkhhijhgmghihgh1jh5ih8qoalh2ligm2o4n1qkj2t2q2jhh6ihgvhnhqiig1ggh1t1t",
  "5org1o2gphkgl1lkgpgjg1n1onql1nhl1h2p3q3ljg1ignpvvknihi1lhmhgjjjg1ggthhiuhqgolkhi1lhmhhhhhh1vjh",
  "g1ji1gohih1lhmhhhkjg1igvh1ngrnihi1lhmhhhkjg1uhhivg1hghljihjjhhghhjhjijr1mg3knhih1mhvjg1qiigih1",
  "ugknhih1mhphkjg1vhhhvh1hohih2oig1gglioi1oll1hj1nhohgim3q2vhhsm3qhhghkh1nhghphhpgikhg1lj2gg3vnh",
  "2j1rk7j2q1kg1glkjjgjhnikssg1h2lhglgi2qh14shjimhghji2ohji2ghjimhghjiuh3ohji4i2lv1g5lilj26ri1gh1",
  "pl4qmnn1ht1iu1hushiv3j2jgkg4j5onki2hhgl4lq1u3h1tikr2rk1p3m1mp3k5ig5t2u1hn3m1tthq2r1q2j2piq2jio",
  "n2qii2pjhlhhjglbv4g11lili2lilinhghghgh1ui3khmhgjihmjjilkslihm7kgtg1gs6lgkgiphgjkmghghghjhqijlk",
  "kg3kha7rekmjjhs2lhglgi3nng1g1mpmhmhmhmhmhmhmhm5gg1dlh2qklhk5lmih5phjl2qh5t1h1v3gv20g19bv4g568s",
  "4j2ti10sjvqh1k2u1g1ui4l3hoi6mi3vlhhghk1ovhihjh1m1t3ju3h3uljghhr1rq1m1p1sn2u1sg1gkhpqkh2o1nihn1",
  "k1mjgj3hhgjhikighg1oiiqnislililpmhmh2qhtm7i1t2bajs1mk3g210k16ti6p2mmsklghphshkhghhhhh6r2h16q1i",
  "3vi3l2or7kkh8m2k1pm1pr5ojlililii2jrh1ph1ihhhuit2i7q18l1sj3g2v1vt1jhnm2lq1ti2jkn3g9t1i2jk2jk2no",
  "3jsqhuhmhhhqhuhmhh4j13mp1lqn1olh2pho4lligh2rhhjgi1mq1mp1u4h1ihhq1lq1p4m3nmh4ggvjhih1s2q1sj1s2j",
  "nh1r1r3lq1lq1it1h6u4o3n3it3it2j15s2pmh4u1sqgo1l2q1h2u1k1r1ms3k3phigt2s2g1o1q2j1tgigo2ijgs2vuj1",
  "lghg2j1hh1o5kmhghjhuhpn2u2mnihi1lhmhhhkjg1igsk9u3k1ij1ki1u2v1khhgbo2u2pj2k2v1kg3r2qtg4n1q2lmbp",
  "2r7k3v1vniginhhh1nvghg5uni2m1gghg1sgq2nng1lgr2t1jg1i4o10noh2k1hg3h1t7gmhhh2l1lg1plhhh1vug14n1i",
  "btg4v39pemcja4s6gv42ufdh24m21bp23on1u1h4u1h1t1i2v1gj1v1kl1i2bg3v8g4qlg4is4ghhg1s17fno4dl2qo22e",
  "njhmhhh12i2ti1hjo18r90k6qlsjonp176m5kh4mhhigihijhrhghmh4ghjinhmh1rhjhkhgjmh15ji1oh1oh1uh1oh1uh",
  "1oh1uh1oh1uh1ohn73k1u1eh2sqm1gg14h1t1i2r4fkmhjhhhuhck3r4jng4bkjh1qhhhgighphjhghgmgkghghghihhhg",
  "ighghghghghhhgijhmhjhjhghph1glihkh1g114ka6dv2g103ondti168hu1d3gc1v21t5ei134q"]

def isLetter (c : Char) : Bool :=
  if c.toNat < 0x80 then c.isAlpha else inRanges letterRanges c.toNat

end SourceTidy.Text
