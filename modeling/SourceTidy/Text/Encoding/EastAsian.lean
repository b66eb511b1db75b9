import SourceTidy.Text.Encoding.MultiByte

/-!
# Encodings of East Asia

Which bytes stand for characters in the encodings of Chinese, Japanese and Korean.
-/

namespace SourceTidy.Text

def big5Pairs : List ByteRow := byteRows [
  "ahh4g3u2i5t gg4g3u2i1u g2i4g3u2i5t gg4g3u2i5r h2v4g3u2i5t gg4g3u2i3k"]

def big5HkscsPairs : List ByteRow := byteRows [
  "8ng4g2lh1i gg4g3u2ip gg4ghhgiji3i2ilkjhiiqhih3p gg4ghh1vh1gho2iphkhnhshjhui1lho",
  "gg4g1jh2p2i3rh1v gg4g3u2ikh1ujjh1mh1o gg4ggh3s2i5t gg4g2ohkht2jphnh1nhhh2t",
  "gg4g1mh1ghjhv2i2pi3g gg4g2shrhj2i3qh1jhs gg4g3u2i1th3u gg4gjh3p2itk1khnh2s gg4g3u2i5t",
  "gg4gmh3m2i2oh3j gg4g3u2i3nh2k gg4gjh3p2i4rhthh gj4g3u2i5t gg4g2gh1jhghhhi2i2kh1mhshohn",
  "gg4ghhvhthkhhhqhm2i1qi1hh2t gg4g1mhhh2j2i2ih3p gg4g3u2inhhh1mh2phjhnhg",
  "gg4gth1ghkh1n2irhihthmhhhrhghqhihjhu gg4g1jhhhhhmithjhm2ijhmhgh2ihghohghhh1p gh4g3u2i5t",
  "gg4g3u2i1u g2h4g3u2i5t gg4g3u2i2thihghghli1u gg4g3u2i5t gg4g3u2ij2o2kjp g3g4g3u2i5t",
  "gg4g1uhlh1n2i1rhmhuh2o gg4gnh3l2i1mh3phkhk gg4guh1rh1h2i1nh2nhths gg4g3u2i1lihh3khs",
  "gg4g1hh1rhu2ioh3hh2g"]

def codePage932Pairs : List ByteRow := byteRows [
  "8hg4g3uh2srnomrunnkg gg4vpn1pn1pk5i gg4g3uh1mo1no1n gg4g2gvuh1ht1v ig4g1th1mogh1s gg9v5t",
  "gu4g3uh7s gg4g3i2s5t gm4g3uh7s 4gp4g3uh7s gg4g3uh2k ig4g3uh7s gg4g3uh6sit hr4g3uh7s gg4gr"]

def codePage949Pairs : List ByteRow := byteRows [
  "8h2g4h1pm1pm7t gg4h1pm1pm6m gh4h1pm1pm7t gg4h1pm1pm2plpn1no1n gg4h1pm1pm6j gg4h1pm1pm6u",
  "gg4h1pm1pm2jhghnh4t gg4h1pm1pm7t gg4h1pm1pm7i gg4h1pm1pm7l gg4h1pm1pm4gv2g gi4h1pm1pm1v",
  "g1l4h1pm1pm7t gg4h1h4u5t ghah5t h3jah5t"]

def codePage950Pairs : List ByteRow := byteRows [
  "ahh4g3u2i5t gg4g3u2i1u2hg g2i4g3u2i5t gg4g3u2i5r h3g4g3u2i5t"]

def eucJis2004Pairs : List ByteRow := byteRows [
  "8ugah3u 1iiah5t ggah5q giah5t ggah3to1l giah5t ggah5iph ggah3mn1gjgkhjh g5gah5t"]

def eucJisX0213Pairs : List ByteRow := byteRows [
  "8ugah3u 1iiah5t ggah5q giah5t ggah3to1l giah5t ggah5iph ggah3mn1gjgkhjh ggai5s ggah5s",
  "g1uah5t ggah3ih2o g2jah5t ggahlh5m goah5t ggah5o"]

def eucJpPairs : List ByteRow := byteRows [
  "8ugah3u 1igah5t ggahtrnomrunnkg ggbgpn1pm1p ggah5i ggah5l ggah1no1n ggah2gv2g ggah1v n1uah5t",
  "ggah3i g2jah5t ggahl"]

def eucKrPairs : List ByteRow := byteRows [
  "ahgah5t ggah4m ggah5t ggah3ih2p ggahplpn1no1n ggah4j ggah4u ggahjhghnh4t ggah5t ggah5i",
  "ggah5l ggah2gv2g j1oah5t h3jah5t"]

def gb18030Pairs : List ByteRow := byteRows [
  "8h7t4g3uh7u"]

def gb2312Pairs : List ByteRow := byteRows [
  "ahgah5t ggbh3hipir ggah5t ggah5i ggah5l ggah1no1n ggah2gv2g ggah1pq2k ggak4r m2mah5t ggah5o",
  "g1vah5t"]

def gbkPairs : List ByteRow := byteRows [
  "8h1v4g3uh7u ggah5t ggahpm3hipir ggah5t ggah5i ggah5l ggah1no1nnrikhh ggah2gv2g",
  "gg4g3uh1lr1qhhhgk2k gg4g1nhhhgj1uhotgt4r gl4g3uh2g g2m4g3uh7u gg4g3uh7p g1v4g3uh7u gl4g3uh2g",
  "gg4gv"]

def johabPairs : List ByteRow := byteRows [
  "8kg4h1ghqjg1vg1vg1vg1vg gh4hg1vg1vg1vg1vg1vg gg4hg1vg1vg1vg gg4hg1v1ghqj1ghqj1ghqj1ghqj1ghq",
  "gh4h1ghqj1ghqj1ghqj1ghqj1ghqj1ghq gg4h1ghqj1ghqj1ghqj1ghq gg4hg1v1ghqj1ghqj1ghqj1ghqj1ghq",
  "gh4h1ghqj1ghqj1ghqj1ghqj1ghqj1ghq gg4h1ghqj1ghqj1ghqj1ghq gg4hg1v1ghqj1ghqj1ghqj1ghqj1ghq",
  "gh4h1ghqj1ghqj1ghqj1ghqj1ghqj1ghq gg4h1ghqj1ghqj1ghqj1ghq gg4hg1v1ghqj1ghqj1ghqj1ghqj1ghq",
  "gh4h1ghqj1ghqj1ghqj1ghqj1ghqj1ghq gg4h1ghqj1ghqj1ghqj1ghq gg4hg1v1ghqj1ghqj1ghqj1ghqj1ghq",
  "gh4h1ghqj1ghqj1ghqj1ghqj1ghqj1ghq gg4h1ghqj1ghqj1ghqj1ghq gg4hg1v1ghqj1ghqj1ghqj1ghqj1ghq",
  "gh4h1ghqj1ghqj1ghqj1ghqj1ghqj1ghq gg4h1ghqj1ghqj1ghqj1ghq gg4hg1v1ghqj1ghqj1ghqj1ghqj1ghq",
  "gh4h1ghqj1ghqj1ghqj1ghqj1ghqj1ghq gg4h1ghqj1ghqj1ghqj1ghq gg4hg1v1ghqj1ghqj1ghqj1ghqj1ghq",
  "gh4h1ghqj1ghqj1ghqj1ghqj1ghqj1ghq gg4h1ghqj1ghqj1ghqj1ghq gg4hg1v1ghqj1ghqj1ghqj1ghqj1ghq",
  "gh4h1ghqj1ghqj1ghqj1ghqj1ghqj1ghq gg4h1ghqj1ghqj1ghqj1ghq gg4hg1v1ghqj1ghqj1ghqj1ghqj1ghq",
  "gh4h1ghqj1ghqj1ghqj1ghqj1ghqj1ghq gg4h1ghqj1ghqj1ghqj1ghq gg4hg1v1ghqj1ghqj1ghqj1ghqj1ghq",
  "gh4h1ghqj1ghqj1ghqj1ghqj1ghqj1ghq gg4h1ghqj1ghqj1ghqj1ghq gg4hg1v1ghqj1ghqj1ghqj1ghqj1ghq",
  "gh4h1ghqj1ghqj1ghqj1ghqj1ghqj1ghq gg4h1ghqj1ghqj1ghqj1ghq gg4hg1v1ghqj1ghqj1ghqj1ghqj1ghq",
  "gh4h1ghqj1ghqj1ghqj1ghqj1ghqj1ghq gg4h1ghqj1ghqj1ghqj1ghq gg4hg1v1ghqj1ghqj1ghqj1ghqj1ghq",
  "gh4h1ghqj1ghqj1ghqj1ghqj1ghqj1ghq gg4h1ghqj1ghqj1ghqj1ghq gg4hg1v1ghqj1ghqj1ghqj1ghqj1ghq",
  "gh4h1ghqj1ghqj1ghqj1ghqj1ghqj1ghq gg4h1ghqj1ghqj1ghqj1ghq gg4hg1v1ghqj1ghqj1ghqj1ghqj1ghq",
  "gh4h1ghqj1ghqj1ghqj1ghqj1ghqj1ghq gg4h1ghqj1ghqj1ghqj1ghq gg4hg1v1ghqj1ghqj1ghqj1ghqj1ghq",
  "gh4h1ghqj1ghqj1ghqj1ghqj1ghqj1ghq gg4h1ghqj1ghqj1ghqj1ghq gg4hg1v1ghqj1ghqj1ghqj1ghqj1ghq",
  "gh4h1ghqj1ghqj1ghqj1ghqj1ghqj1ghq gg4h1ghqj1ghqj1ghqj1ghq gg4hg1v1ghqj1ghqj1ghqj1ghqj1ghq",
  "gh4h1ghqj1ghqj1ghqj1ghqj1ghqj1ghq gg4h1ghqj1ghqj1ghqj1ghq lg3h4t1i5m gg3h4t1iv3j2q",
  "gg3hplpn1not1ipm4j gg3h4t1igvjhghnh4t gg3h4t1i6i gg3h4t1ino2gv2g h1p3h4t1i6t"]

def shiftJisPairs : List ByteRow := byteRows [
  "8hg4g3uh2srnomrunnkg gg4vpn1pn1pk5i gg4g3uh1mo1no1n gg4g2gvuh1ht1v jg9v5t gu4g3uh7s",
  "gg4g3i2s5t gm4g3uh7s 4gp4g3uh7s gg4g3uh2k"]

def shiftJis2004Pairs : List ByteRow := byteRows [
  "8hg4g3uh7s gg4g3uh7p gg4g3uh7s gg4g3uh5so1l gg4g3uh7s gg4g3uh7hph gg4g3mnghvjgkhj5v",
  "g1n4g3uh7s 4g1r4g3uh7s gg4g3uh7k"]

def shiftJisX0213Pairs : List ByteRow := byteRows [
  "8hg4g3uh7s gg4g3uh7p gg4g3uh7s gg4g3uh5so1l gg4g3uh7s gg4g3uh7hph gg4g3mnghvjgkhjhh5s",
  "gg4g3uh1th5t gu4g3uh7s gg4g3ihqh1th5t gm4g3uh7s 4gp4g3uh7s gg4g3uh2kh5m gj4g3uh7s gg4g3uh7n",
  "gr4g3uh7s gg4g3uh7k"]

def eucJis2004Triples : List ByteRow := byteRows [
  "ahgah5t ggavqoi2mm giah5t ggehkhghhhgkr ggcis2js ggah5t ggahhhghghhhihh1gv ggah1nh3t",
  "ggah1qhmh3i g4gah5t ggah4i gvah5t ggah5l"]

/-- The characters of three bytes in EUC-JISX0213, without their first byte. -/
def eucJisX0213Triples : List ByteRow := byteRows [
  "ahgah5t ggavqoi2mm giah5t ggehkhghhhgkr ggcis2js ggah5t ggahhhghghhhihh1gv ggah1nh3t",
  "ggah1qhmh3i g4gah5t ggah4i gvah5t ggah5l"]

def eucJpTriples : List ByteRow := byteRows [
  "aigavqoi2mm jgehkhghhhgkr ggcis2js hgahhhghghhhihh1gv ggah1nh3t ggah1qhmh3i k3sah5t ggah4i"]

def jisX0213Plane2 : List ByteRow := byteRows [
  "ahgah5t hiah5t igah5t jjah5t 3uvah5t ggah5l"]

/-- The characters of one byte in Shift JIS: ASCII and half-width katakana. -/
def shiftJisSingles : List (Nat × Nat) := [(0x00, 0x7f), (0xa1, 0xdf)]

def big5 : MultiByte where
  pairs := big5Pairs

def big5Hkscs : MultiByte where
  pairs := big5HkscsPairs

def codePage932 : MultiByte where
  singles := [(0x00, 0x80), (0xa0, 0xdf), (0xfd, 0xff)]
  pairs := codePage932Pairs

def codePage949 : MultiByte where
  pairs := codePage949Pairs

def codePage950 : MultiByte where
  pairs := codePage950Pairs

def eucJis2004 : MultiByte where
  pairs := eucJis2004Pairs
  triples := eucJis2004Triples

def eucJisX0213 : MultiByte where
  pairs := eucJisX0213Pairs
  triples := eucJisX0213Triples

def eucJp : MultiByte where
  pairs := eucJpPairs
  triples := eucJpTriples

def eucKr : MultiByte where
  pairs := eucKrPairs
  spelled := true

def gb18030 : MultiByte where
  pairs := gb18030Pairs
  quads := [(0, 39419), (189000, 1237575)]

def gb2312 : MultiByte where
  pairs := gb2312Pairs

def gbk : MultiByte where
  pairs := gbkPairs

def johab : MultiByte where
  pairs := johabPairs

def shiftJis : MultiByte where
  singles := shiftJisSingles
  pairs := shiftJisPairs

def shiftJis2004 : MultiByte where
  singles := shiftJisSingles
  pairs := shiftJis2004Pairs

def shiftJisX0213 : MultiByte where
  singles := shiftJisSingles
  pairs := shiftJisX0213Pairs

end SourceTidy.Text
