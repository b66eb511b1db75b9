import SourceTidy.Text.Ranges

/-!
# Printable characters

A character is printable when it is assigned and is neither a control, a format character, a
surrogate, a private-use character nor a separator other than the plain space.
-/

namespace SourceTidy.Text

def printableRanges : Array (Nat × Nat) := rangeTable [
  "ahrh2cpilkmhgh1jh18sh2li3hiih3mo1qkl1h1lhbvh2vi3qi6ku3qi3giuh1righql1up4phaghnihi1lhmhgjjioihi",
  "jogkhhki1oiihlkhi1lhmhhhhhhighkkhiijgnjhgn1gqihohih1lhmhhhkiphihiigvjirnmhihnihi1lhmhhhkioihii",
  "nikhhki1hqhhljihjjhhghhjhjijrkkjihjigmgu1klshih1mhviohihjnhhiigijipn1lhih1mhphkiohihjnhmhhjiph",
  "htshih3ihihlkvi1phih1hj1nhohgimjgklhghnmpiis3pk1s2lhhghkh1nhgh1mikhghlipij2g4nh2jk2mh2jhuhs2lc",
  "lhglgi17ohjimhghji2ohji2ghjimhghjiuh3ohji4ii1vj1pm5lili27vh1rj5on1lp1np1jsshihhs5tipmpmthqm5on",
  "2ql4lq1uhrkrkgj2pikr2rk1pmqj3ti4gh1siqmpmti1u3h4sj2uh7jo3rjuj3rn2qiqo2ql21lili2lilinhghghgh1ui",
  "3khuhtilh1iiiho1h1no2u1hhi1qhsj2gv2gv8rk29m1pq1l71ji1vh15sl2shglgi3nnhu1npmhmhmhmhmhmhmhmh7t2i",
  "1ph5osdl1qrl3uh5li6ml2qh5th5js2uh726sj3mp15r1kbnocqlhhghk1o3qjpm3no4lorm7jr1tj4thqk2gh3mptipi6",
  "m1o1rqlililpmhmh3rk7tipm2bajs1mk3g210k16ti6p2mmskl1phkhghhhhh7s1g1bsi3lng2g2pm3ih1ihjkkh8mkbtj",
  "lililiijmhmthirh1ph1ihhhuit2i7qlik2sj5nhsjg2v2t8i1sj3gv1rk2jp1tl2ql1th2kkt2q9tipm2jk2jk2no3jrr",
  "huhmhhhqhuhmhh4j13mp1lqn1olh2pho4lligh2rhhjgi1mh4noo3g1ihhl2gj1qlg4g3nk1ji3hhhlnhih1siikpnon3v",
  "2g2mkrp3lj1si1ql1pnjsm5g4o3n3it3in2top12m1uh2phiih4u2no2p1m1p2m1r1k1mp4tk2jp3thkt1onpm3kh1ho2m",
  "p5vh1jr1hh2r4hmhghjhuhqm3qlpmjhnihi1lhmhhhkhpihiiigmglmimjk8r5rhk1u4nopam3li2l2i4krpms1j3pmp3m",
  "1qiuk1mbp3r6k5isniginhhh1thhirpp4mni2tiq1r4no5it4o10noh2shtq1sj1vi1lht4pmhhh2rjghhhoopmlhhh2kh",
  "hhlnp13m1obngv3ht39q6m6uhkrcja4s6it42ufdh24m21bp23on1uhpk5ghpm1tilq4lqphmh1kl1i2bg5q6l4qk3on1g",
  "4gkrhu17fno4dl2qo22enjhmhhh12i2ti1hjo18r90k6qlsjonpij126g2ti1mp7j3sflq2mi4po6v1l4l9q1js5mp1o8n",
  "5kh4mhhigihijhrhghmh4ghjinhmh1rhjhkhgjmh15ji12ji2btvkhu45g1uehmh1gimhhhkdl2sjtipkh14g1u1h3plg4",
  "egmhjhhhuhckiv2p4rkpkh31h4j4s3scijh1qhhhgighphjhghgmgkghghghihhhgighghghghghhhgijhmhjhjhghph1g",
  "lihkh1g3kh10u2rk6jsuiuhuh2kqat3o1st2rkonhul9q3dnlvjsj7js5onrkgvrk3nopm2no1tih4u15jstikjkjmp1sj",
  "qllqpmnomp9ih3m2lp40ma6dv2g103ondti168hu1d3gc1v21t5ei134qaedblev"]

/-- Whether a character is shown as itself in a quoted text. -/
def isPrintable (c : Char) : Bool :=
  if c.toNat < 0x80 then 0x20 ≤ c.toNat && c.toNat < 0x7f
  else inRanges printableRanges c.toNat

end SourceTidy.Text
