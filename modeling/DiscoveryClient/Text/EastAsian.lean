import DiscoveryClient.Text.EastAsian.Switched

/-!
# East Asian encodings

Every encoding of East Asian text is read in one of three ways: by bytes that
always mean the same, by escape sequences, or by the two modes of Hanzi text.
-/

namespace DiscoveryClient.Text

inductive EastAsian where
  | steady (front : UInt8 → List UInt8 → Front)
  | switched (rules : EastAsian.Switching)
  | hanzi

namespace EastAsian

/-- The text of bytes, by the name that faults are reported under. -/
def decode (name : String) : EastAsian → List UInt8 → Decoded
  | .steady front, bytes => decodeBy name front 0 bytes
  | .switched rules, bytes => decodeWith name rules.front 0 {} bytes
  | .hanzi, bytes => decodeWith name hzFront 0 false bytes

/-- The encodings by name. -/
def named : List (String × EastAsian) :=
  [ ("gb2312", .steady gb2312Front), ("gbk", .steady gbkFront),
    ("gb18030", .steady gb18030Front), ("hz", .hanzi),
    ("big5", .steady big5Front), ("cp950", .steady cp950Front),
    ("big5hkscs", .steady hongKongFront),
    ("euc_kr", .steady eucKrFront), ("cp949", .steady cp949Front),
    ("johab", .steady johabFront),
    ("shift_jis", .steady shiftJisFront), ("cp932", .steady cp932Front),
    ("euc_jp", .steady eucJpFront),
    ("shift_jisx0213", .steady (shiftJisX0213Front false)),
    ("shift_jis_2004", .steady (shiftJisX0213Front true)),
    ("euc_jisx0213", .steady (eucJisX0213Front false)),
    ("euc_jis_2004", .steady (eucJisX0213Front true)) ] ++
  Switching.named.map fun (name, rules) => (name, .switched rules)

end EastAsian

end DiscoveryClient.Text
