import Amalgam.Text.Multibyte.Chinese
import Amalgam.Text.Multibyte.Iso2022
import Amalgam.Text.Multibyte.Japanese
import Amalgam.Text.Multibyte.Korean
/-!
# Encodings of several bytes per character

The encodings of East Asia, with their names and schemes.
-/

namespace Amalgam.Text

inductive Multibyte
  | big5
  | big5hkscs
  | cp932
  | cp949
  | cp950
  | eucJis2004
  | eucJisx0213
  | eucJp
  | eucKr
  | gb18030
  | gb2312
  | gbk
  | hz
  | iso2022Kr
  | iso2022Jp
  | iso2022Jp1
  | iso2022Jp2
  | iso2022Jp2004
  | iso2022Jp3
  | iso2022JpExt
  | johab
  | shiftJis
  | shiftJis2004
  | shiftJisx0213
deriving DecidableEq, Repr

namespace Multibyte

/-- The encodings with their names and the other names that are taken for them. -/
def all : List (Multibyte × String × List String) :=
  [(big5, "big5", ["big5_tw", "csbig5", "x_mac_trad_chinese"]), (big5hkscs, "big5hkscs", ["big5_hkscs", "hkscs"]),
    (cp932, "cp932", ["932", "ms932", "mskanji", "ms_kanji"]), (cp949, "cp949", ["949", "ms949", "uhc"]),
    (cp950, "cp950", ["950", "ms950"]),
    (eucJis2004, "euc_jis_2004", ["jisx0213", "eucjis2004", "euc_jis2004"]),
    (eucJisx0213, "euc_jisx0213", ["eucjisx0213"]), (eucJp, "euc_jp", ["eucjp", "ujis", "u_jis"]),
    (eucKr, "euc_kr",
      ["euckr", "korean", "ksc5601", "ks_c_5601", "ks_c_5601_1987", "ksx1001", "ks_x_1001", "x_mac_korean"]),
    (gb18030, "gb18030", ["gb18030_2000"]),
    (gb2312, "gb2312", ["chinese", "csiso58gb231280", "euc_cn", "euccn", "eucgb2312_cn", "gb2312_1980", "gb2312_80",
      "iso_ir_58", "x_mac_simp_chinese"]),
    (gbk, "gbk", ["936", "cp936", "ms936"]), (hz, "hz", ["hzgb", "hz_gb", "hz_gb_2312"]),
    (iso2022Kr, "iso2022_kr", ["csiso2022kr", "iso2022kr", "iso_2022_kr"]),
    (iso2022Jp, "iso2022_jp", ["csiso2022jp", "iso2022jp", "iso_2022_jp"]),
    (iso2022Jp1, "iso2022_jp_1", ["iso2022jp_1", "iso_2022_jp_1"]),
    (iso2022Jp2, "iso2022_jp_2", ["iso2022jp_2", "iso_2022_jp_2"]),
    (iso2022Jp2004, "iso2022_jp_2004", ["iso_2022_jp_2004", "iso2022jp_2004"]),
    (iso2022Jp3, "iso2022_jp_3", ["iso2022jp_3", "iso_2022_jp_3"]),
    (iso2022JpExt, "iso2022_jp_ext", ["iso2022jp_ext", "iso_2022_jp_ext"]), (johab, "johab", ["cp1361", "ms1361"]),
    (shiftJis, "shift_jis", ["csshiftjis", "shiftjis", "sjis", "s_jis", "x_mac_japanese"]),
    (shiftJis2004, "shift_jis_2004", ["shiftjis2004", "sjis_2004", "s_jis_2004"]),
    (shiftJisx0213, "shift_jisx0213", ["shiftjisx0213", "sjisx0213", "s_jisx0213"])]

def name (m : Multibyte) : String :=
  ((all.lookup m).map Prod.fst).getD ""

def scheme : Multibyte → Scheme
  | big5 => big5Scheme
  | big5hkscs => hkscsScheme
  | cp932 => cp932Scheme
  | cp949 => cp949Scheme
  | cp950 => cp950Scheme
  | eucJis2004 => eucJis2004Scheme .revised
  | eucJisx0213 => eucJis2004Scheme .first
  | eucJp => eucJpScheme
  | eucKr => eucKrScheme
  | gb18030 => gb18030Scheme
  | gb2312 => gb2312Scheme
  | gbk => .ofCoding gbkCoding
  | hz => hzScheme
  | iso2022Kr => Iso2022.kr.scheme
  | iso2022Jp => Iso2022.jp.scheme
  | iso2022Jp1 => Iso2022.jp1.scheme
  | iso2022Jp2 => Iso2022.jp2.scheme
  | iso2022Jp2004 => (Iso2022.jp2004 .revised).scheme
  | iso2022Jp3 => (Iso2022.jp2004 .first).scheme
  | iso2022JpExt => Iso2022.jpExt.scheme
  | johab => johabScheme
  | shiftJis => shiftJisScheme
  | shiftJis2004 => shiftJis2004Scheme .revised
  | shiftJisx0213 => shiftJis2004Scheme .first

end Multibyte

end Amalgam.Text
