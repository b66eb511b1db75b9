import SourceTidy.Text.Ranges

/-!
# Word characters

The characters that words are made of: letters and numeric characters of every script, and the
underscore. A word boundary lies between a word character and anything else.
-/

namespace SourceTidy.Text

def wordRanges : Array (Nat × Nat) := rangeTable [
  "aqgnhhgjhhih1mh1uh1cpkruknghg8hkhhijhgmghihgh1jh5ih8qoalh2ligm2o4n1qkj2t2q1lpkhh6ihgvhnuig1ggh",
  "1t1t5orgu2qphkgl1lkgpgjg1n1onql1nhl1h2p3q3ljg1ignpkphvknihi1lhmhgjjjg1ggthhikriligolkhi1lhmhhh",
  "hhh1vjhgnpii1gohih1lhmhhhkjg1igvhkppgrnihi1lhmhhhkjg1uhhikphmrghljihjjhhghhjhjijr1mg1ls1inhih1",
  "mhvjg1qiigihkpomhgknhih1mhphkjg1vhhhkphh1hohih2oig1gglihpk1ihll1hj1nhohgim1vp1h2vhhsmpp2nhhghk",
  "h1nhghphhpgikhgppij2gg1v1jsnh2j1rk7j2q1kqmlkjjgjhnikssghpm2lhglgi2qh14shjimhghji2ohji2ghjimhgh",
  "jiuh3ohji4iu1jjv1g5lilj26ri1gh1pl4qjqn1ht1iu1hushiv3j2jgkgjpmp1mpm5onki2hhgl4lq1u2n2nikr2rk1pm",
  "q2l1mp3k2rpmptg5t2u1hnjp2p1tt3n1q2j1spj3gion2qii2pjhlhhjglbv4g11lili2lilinhghghgh1ui3khmhgjihm",
  "jjilkslihm7jhillqms6lgkgiphgjkmghghghjhqijlkkgh3p2dm3r4u1l27m1t46sekmjjhpgi2lhglgi3nng1g1mpmhm",
  "hmhmhmhmhmhm5gg1dli1ponkikk5lmih5phjl2qh5tjjq1v3gv2gp1unhu2gp2nu14g19bv4g568s4j2ti10sj1r1k2u1g",
  "1ui4v2noi6mi3vlhhghk1ovhihjh1mtlq3ju3h1sp1oljghhh2lq1m1p1sn2u1sqmkh1oh2o1nihnkpm1mjgj3hhgjhiki",
  "ghg1oiiqnislililpmhmh2qhtm7itpm2bajs1mk3g210k16ti6p2mmsklghphshkhghhhhh6r2h16q1i3vi3l2or7kkh8m",
  "1jpn1pm1pr5ojlililii2jrh1ph1ihhhuit2i7qs2ss3o1hhfk1sj3g1g1qk2jp1tl2lq1ti2jknhk2q9tipm2jk2jk2no",
  "3jsqhuhmhhhqhuhmhh4j13mp1lqn1olh2pho4lligh2rhhjgi1mi1ui2loo3g1ihhl2gk1p4m3nk1ji2uvjhih1sqo1n1u",
  "h1v2gnh1rmk1g3lq1li1ql1p1nm5g4o3n3it3in2psp12m1uh2pmh4u2no1lrj1r1h2u1r1k1ms3k1q1thhigt2s2g1onp",
  "p2jvpkgigo2ijgs2vujrqhgk1jr1hh1o5kmhghjhuhpn2u1hprnihi1lhmhhhkjg1igsk9u3k1ijlpli1u2v1khhgopam2",
  "u2pj2k2v1kgrp2m2qtgnp3m1q1lrkmbp2r7k5isniginhhh1nvghgup4mni2m1gghg1sgq2nng1lgr2t1jg1i4o10noh2k",
  "1hgv1sl1t7gmhhh2l1lgppmlhhh1vugnp13m1ibtgv1k2r39p6m6u1hcja4s6gv42ufdh24m21bp23on1uhpm4uhpm1t1i",
  "2v1gjsphmh1kl1i2bg5m6p4qlg4is4ghhg1s17fno4dl2qo22enjhmhhh12i2ti1hjo18r90k6qlsjonp164m1j6s1o8n5",
  "kh4mhhigihijhrhghmh4ghjinhmh1rhjhkhgjmh15ji1oh1oh1uh1oh1uh1oh1uh1oh1uh1ohni3h70g1u1eh2sqmipkg1",
  "4h1t1i2rkp4emmhjhhhuhckio3g4jngkp31n3qhihj4s2shucijh1qhhhgighphjhghgmgkghghghihhhgighghghghghh",
  "hgijhmhjhjhghph1glihkh1g24ksaejp40ma6dv2g103ondti168hu1d3gc1v21t5ei134q"]

def isAsciiWord (c : Char) : Bool := c.isAlphanum || c == '_'

def isWord (c : Char) : Bool :=
  if c.toNat < 0x80 then isAsciiWord c else inRanges wordRanges c.toNat

end SourceTidy.Text
