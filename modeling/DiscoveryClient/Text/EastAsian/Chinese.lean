import DiscoveryClient.Text.EastAsian.Chinese.HongKong
import DiscoveryClient.Text.EastAsian.Chinese.Simplified
import DiscoveryClient.Text.EastAsian.Chinese.Traditional

/-!
# Chinese encodings

GB 2312 is the standard set.  GBK adds the ideographs that it leaves out, in the
order of their code points, and some signs.  GB 18030 gives every other code
point a place: those for private use in the cells left over, then the rest of
the first 65536 and all beyond, both in order, in four bytes each.

The Big Five set has an extension of its own, and a supplement for Hong Kong.
-/

namespace DiscoveryClient.Text.EastAsian

/-! ## GB 2312 -/

def gb2312? (lead second : UInt8) : Option Char :=
  gb2312.pair? 0xa1 lead second

def gb2312Front : UInt8 → List UInt8 → Front :=
  extendAscii (pairFront gb2312?)

/-! ## GBK -/

/-- The signs that are added to the standard set, or differ from it. -/
def gbkSigns : List Stretch :=
  [ ⟨0xa1, 0xa4, "·"⟩,
    ⟨0xa1, 0xaa, "—"⟩,
    ⟨0xa2, 0xa1, "ⅰⅱⅲⅳⅴⅵⅶⅷⅸⅹ"⟩,
    ⟨0xa6, 0xe0, "︵︶︹︺︿﹀︽︾﹁﹂﹃﹄..︻︼︷︸︱.︳︴"⟩,
    ⟨0xa8, 0x40,
        "ˊˋ˙–―‥‵℅℉↖↗↘↙∕∟∣≒≦≧⊿═║╒╓╔╕╖╗╘╙╚╛╜╝╞╟╠╡╢" ++
        "╣╤╥╦╧╨╩╪╫╬╭╮╯╰╱╲╳▁▂▃▄▅▆▇.█▉▊▋▌▍▎▏▓▔▕▼▽◢" ++
        "◣◤◥☉⊕〒〝〞"⟩,
    ⟨0xa8, 0xbb, "ɑ.ńň.ɡ"⟩,
    ⟨0xa9, 0x40,
        "〡〢〣〤〥〦〧〨〩㊣㎎㎏㎜㎝㎞㎡㏄㏎㏑㏒㏕︰￢￤.℡㈱.‐...ー゛゜ヽヾ〆ゝゞ﹉" ++
        "﹊﹋﹌﹍﹎﹏﹐﹑﹒﹔﹕﹖﹗﹙﹚﹛﹜﹝﹞﹟﹠﹡.﹢﹣﹤﹥﹦﹨﹩﹪﹫"⟩,
    ⟨0xa9, 0x96, "〇"⟩ ]

/-- Compatibility ideographs, behind all others. -/
def gbkCompatibility : String :=
  "\uf92c\uf979\uf995\uf9e7\uf9f1\ufa0c\ufa0d\ufa0e\ufa0f\ufa11\ufa13" ++
    "\ufa14\ufa18\ufa1f\ufa20\ufa21\ufa23\ufa24\ufa27\ufa28\ufa29"

/-- The unified ideographs that the standard set leaves out, and some others. -/
def gbkIdeographs : Thunk (Array Char) :=
  .mk fun _ =>
    let standard := (gb2312.characters.map Char.toNat).filter fun code => 0x4e00 ≤ code
    ((skipping 0x4e00 0x51a6 (standard.mergeSort (· ≤ ·))).map Char.ofNat ++
      gbkCompatibility.toList).toArray

/-- The number of an ideograph among those that are added.  They lie below and to the
left of the standard set. -/
def gbkIndex? (lead second : UInt8) : Option Nat :=
  if 0x81 ≤ lead && lead ≤ 0xa0 then
    (placeIn? second [(0x40, 0x7e), (0x80, 0xfe)]).map
      ((lead.toNat - 0x81) * 190 + ·)
  else if 0xaa ≤ lead && lead ≤ 0xfe then
    (placeIn? second [(0x40, 0x7e), (0x80, 0xa0)]).map
      (32 * 190 + (lead.toNat - 0xaa) * 96 + ·)
  else none

def gbk? (lead second : UInt8) : Option Char :=
  ((Stretch.find? gbkSigns lead second).or (gb2312? lead second)).or
    ((gbkIndex? lead second).bind fun index => gbkIdeographs.get[index]?)

def gbkFront : UInt8 → List UInt8 → Front :=
  extendAscii (pairFront gbk?)

/-! ## GB 18030 -/

/-- Signs in cells that GBK leaves over. -/
def gb18030Signs : List Stretch :=
  [ ⟨0xa2, 0xe3, "€"⟩,
    ⟨0xa8, 0xbf, "ǹ"⟩,
    ⟨0xa9, 0x89, "〾⿰⿱⿲⿳⿴⿵⿶⿷⿸⿹⿺⿻"⟩,
    ⟨0xfe, 0x50,
        "⺁...⺄㑳㑇⺈⺋.㖞㘚㘎⺌⺗㥮㤘.㧏㧟㩳㧐..㭎㱮㳠⺧..⺪䁖䅟⺮䌷⺳⺶⺷.䎱䎬⺻䏝䓖" ++
        "䙡䙌..䜣䜩䝼䞍⻊䥇䥺䥽䦂䦃䦅䦆䦟䦛䦷䦶..䲣䲟䲠䲡䱷䲢䴓䴔䴕䴖䴗䴘䴙䶮"⟩ ]

/-- The places for private use that were there from the beginning. -/
def privateCode? (lead second : UInt8) : Option Nat :=
  let upper := [(0xa1, 0xfe)]
  let lower := [(0x40, 0x7e), (0x80, 0xa0)]
  if 0xaa ≤ lead && lead ≤ 0xaf then
    (placeIn? second upper).map (0xe000 + (lead.toNat - 0xaa) * 94 + ·)
  else if 0xf8 ≤ lead && lead ≤ 0xfe && 0xa1 ≤ second then
    (placeIn? second upper).map (0xe234 + (lead.toNat - 0xf8) * 94 + ·)
  else if 0xa1 ≤ lead && lead ≤ 0xa7 then
    (placeIn? second lower).map (0xe4c6 + (lead.toNat - 0xa1) * 96 + ·)
  else none

/-- All pairs of bytes that may be a character, in order. -/
def gbkPairs (leads : List Nat) : List (UInt8 × UInt8) :=
  leads.flatMap fun lead =>
    ((List.range' 0x40 0xbf).filter (· ≠ 0x7f)).map fun second =>
      (UInt8.ofNat lead, UInt8.ofNat second)

/-- The cells that are left over, which follow each other in private use. -/
def leftoverCells : Thunk (List (UInt8 × UInt8)) :=
  .mk fun _ => (gbkPairs (List.range' 0xa2 8 ++ [0xd7, 0xfe])).filter fun (lead, second) =>
    (gbk? lead second).isNone && (privateCode? lead second).isNone

def leftoverCode? (lead second : UInt8) : Option Nat :=
  (leftoverCells.get.findIdx? fun cell => cell = (lead, second)).map (0xe766 + ·)

/-- The characters of two bytes. -/
def gb18030Pair? (lead second : UInt8) : Option Char :=
  ((Stretch.find? gb18030Signs lead second).or (gbk? lead second)).or
    (((privateCode? lead second).or (leftoverCode? lead second)).map Char.ofNat)

/-- The characters of four bytes out of the first 65536: those that do not have two. -/
def gb18030Rest : Thunk (Array Char) :=
  .mk fun _ =>
    let pairs := (gbkPairs (List.range' 0x81 126)).filterMap fun (lead, second) =>
      (gb18030Pair? lead second).map Char.toNat
    let taken := (pairs ++ List.range' 0xd800 0x800).mergeSort (· ≤ ·)
    ((skipping 0x80 0xff80 taken).map Char.ofNat).toArray

/-- The characters of four bytes, the second and fourth of which are digits. -/
def gb18030Quad? (lead second third fourth : UInt8) : Option Char :=
  let isWide (byte : UInt8) : Bool := 0x81 ≤ byte && byte ≤ 0xfe
  let isDigit (byte : UInt8) : Bool := 0x30 ≤ byte && byte ≤ 0x39
  if isWide lead && isDigit second && isWide third && isDigit fourth then
    let group := (lead.toNat - 0x81) * 10 + (second.toNat - 0x30)
    let index := (group * 126 + (third.toNat - 0x81)) * 10 + (fourth.toNat - 0x30)
    let far := 0x10000 + index - 150 * 1260
    if lead < 0x85 then gb18030Rest.get[index]?
    else if 0x90 ≤ lead && far < 0x110000 then some (Char.ofNat far)
    else none
  else none

def gb18030Front : UInt8 → List UInt8 → Front :=
  extendAscii fun lead rest =>
    match rest with
    | [] => incomplete rest
    | second :: behind =>
        if 0x30 ≤ second && second ≤ 0x39 then
          match behind with
          | third :: fourth :: _ =>
              (gb18030Quad? lead second third fourth).elim illegal fun c => .ok ([c], 3)
          | _ => incomplete rest
        else pairFront gb18030Pair? lead rest

/-! ## Big5 -/

def big5? (lead second : UInt8) : Option Char :=
  if 0xa1 ≤ lead then
    (placeIn? second [(0x40, 0x7e), (0xa1, 0xfe)]).bind
      (big5Characters.cell? (lead.toNat - 0xa1))
  else none

def big5Front : UInt8 → List UInt8 → Front :=
  extendAscii (pairFront big5?)

/-- The characters that the extension adds, or has in the place of others. -/
def cp950Signs : List Stretch :=
  [ ⟨0xa1, 0x45, "‧"⟩,
    ⟨0xa1, 0x4e, "﹑"⟩,
    ⟨0xa1, 0xc2, "¯"⟩,
    ⟨0xa1, 0xe3, "～"⟩,
    ⟨0xa1, 0xf2, "⊕⊙"⟩,
    ⟨0xa2, 0x41, "∕﹨.￥.￠￡"⟩,
    ⟨0xa3, 0xe1, "€"⟩,
    ⟨0xf9, 0xd6,
        "碁銹裏墻恒粧嫺╔╦╗╠╬╣╚╩╝╒╤╕╞╪╡╘╧╛╓╥╖╟╫╢╙╨╜║═╭╮╰" ++
        "╯▓"⟩ ]

def cp950? (lead second : UInt8) : Option Char :=
  (Stretch.find? cp950Signs lead second).or (big5? lead second)

def cp950Front : UInt8 → List UInt8 → Front :=
  extendAscii (pairFront cp950?)

/-- Letters of the supplement that are written as two characters. -/
def hongKongPairs : List ((UInt8 × UInt8) × List Char) :=
  [ ((0x88, 0x62), ['Ê', '̄']), ((0x88, 0x64), ['Ê', '̌']),
    ((0x88, 0xa3), ['ê', '̄']), ((0x88, 0xa5), ['ê', '̌']) ]

/-- The text of two bytes.  In a few rows the supplement has characters of its own in
the place of others. -/
def hongKong? (lead second : UInt8) : Option (List Char) :=
  let isReplaced := 0xc6 ≤ lead && lead ≤ 0xc8 && !(lead = 0xc6 && second < 0xa1)
  let further : Option Char :=
    if 0x87 ≤ lead then
      (placeIn? second [(0x40, 0x7e), (0xa1, 0xfe)]).bind (hongKong.cell? (lead.toNat - 0x87))
    else none
  (((if isReplaced then none else big5? lead second).or further).map fun c => [c]).or
    (hongKongPairs.lookup (lead, second))

def hongKongFront : UInt8 → List UInt8 → Front :=
  extendAscii (textFront hongKong?)

end DiscoveryClient.Text.EastAsian
