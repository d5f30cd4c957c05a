/-!
# Table of script extensions

One row for each script that shares characters with others: its names, and the ranges of all
characters that it uses.
-/

namespace EditorBundles.Regex.Property
set_option autoImplicit false

/-- The names of a script and all characters that it uses. -/
def extensionRows : List (List String × List String) := [
  (["adlm", "adlam"], [
    "17j 0 x 0 2ncw 23 5 9 5 1"]),
  (["arab", "arabic"], [
    "16o 4 2 5y 2 x 29 1b 6p u 2 1 7 21 2 s 1bv5 36 h cc 3 1h 8 0 x f 35 4 2 3q ro r 291 u 3j 2 181t 3 2",
    "q 2 1 2 0 3 0 2 9 2 3 2 0 2 0 7 0 5 0 2 0 2 0 2 2 2 1 2 0 3 0 2 0 2 0 2 0 2 0 2 1 2 0 3 3 2 6 2 3 2",
    "3 2 0 2 9 2 g 6 2 2 4 2 g 1h 1"]),
  (["beng", "bengali"], [
    "1u9 1 i 1 r 3 2 7 3 1 3 l 2 6 2 0 4 3 3 8 3 1 3 3 9 0 5 1 2 4 3 o 3pu 0 2 0 3 1 2 0 9 0 9 0 3 0 5 0",
    "3 2 rne 0"]),
  (["bopo", "bopomofo"], [
    "kq 1 8wm 2 5 9 2 c b 3 3 0 7 0 5g 0 a 16 35 v 14ee 1 7v 4"]),
  (["bugi", "buginese"], [
    "54w r 3 1 sds 0"]),
  (["buhd", "buhid"], [
    "4l1 1 a j"]),
  (["cakm", "chakma"], [
    "1ye 9 18x 9 1epj 1g 2 h"]),
  (["copt", "coptic", "qaac"], [
    "rm d 80h 37 6 6 168x r"]),
  (["cpmn", "cyprominoan"], [
    "1erk 1 973 2q"]),
  (["cprt", "cypriot"], [
    "1erk 2 5 18 4 8 1c1 5 3 0 2 17 2 1 4 0 3 0"]),
  (["cyrl", "cyrillic"], [
    "sg 8f 4lt 8 4j 0 25 0 3k 0 354 v 1w 0 np9 2n han 1 18n5 1p y 0"]),
  (["deva", "devanagari"], [
    "1s0 2a 3 16 3td 12 2 1 s7 0 qps 9 4n v mip 9"]),
  (["dogr", "dogra"], [
    "1us b vcx 9 m2v 1n"]),
  (["dupl", "duployan"], [
    "2fpc 2y 6 c 4 8 8 9 3 7"]),
  (["geor", "georgian"], [
    "3a8 11 2 0 6 0 3 1b 2a9 16 3 2 37l 11 2 0 6 0"]),
  (["glag", "glagolitic"], [
    "w4 0 3 0 7sp 2n dg 0 nqk 0 1pxt 6 2 g 3 6 2 1 2 4"]),
  (["gong", "gunjalagondi"], [
    "1us 1 1iij 5 2 1 2 10 2 1 2 5 8 9"]),
  (["gonm", "masaramgondi"], [
    "1us 1 1ifv 6 2 1 2 17 4 0 2 1 2 8 9 9"]),
  (["gran", "grantha"], [
    "1u9 1 i 1 ht d 3bx 0 2 1 v 2 4 1 s7 0 1btc 3 2 7 3 1 3 l 2 6 2 1 2 4 2 9 3 1 3 2 3 0 7 0 6 6 3 6 4 4",
    "2fw 1 2 0"]),
  (["grek", "greek"], [
    "n6 0 3 0 17 3 2 2 3 3 2 0 5 0 2 0 2 2 2 0 2 j 2 1q f f 4yv 4 1f 4 5 4 2d 2 8v l 3 5 3 11 3 5 3 7 2 0",
    "2 0 2 0 2 u 3 1g 2 e 2 d 3 5 2 i 3 2 2 8 88 0 rb3 0 gyj 26 i 0 155s 1x"]),
  (["gujr", "gujarati"], [
    "1u9 1 i 1 7w 2 2 8 2 2 2 l 2 6 2 1 2 4 3 9 2 2 2 2 3 0 g 3 3 b 8 6 v1t 9"]),
  (["guru", "gurmukhi"], [
    "1u9 1 i 1 4c 2 2 5 5 1 3 l 2 6 2 1 2 1 2 1 3 0 2 4 5 1 3 2 4 0 8 3 2 0 8 g v5m 9"]),
  (["hang", "hangul"], [
    "3cw 73 5xe 2 5 9 2 c f 2 7 0 5g 0 1i 2l 36 u 1u u nhe s hw 8mb d m 5 1c 7ka 1 7v 4 1n u 4 5 3 5 3 5",
    "3 2"]),
  (["hani", "han"], [
    "96o p 2 2g d 5x 18 2 2 c 2 c 2 c 3 0 7 8 58 0 45 f x z 1p 13 1l 1c g b 1g 0 2h o b 4 2p u 2 533 1t",
    "g73 1dt 7 g6x a5 3 2x oc 1 7v 4 m7x 1 d 1 jn3 h 63j 1 2pb wyn x 37d 7 65 3 4g1 f 5rk 2e8 f1 15v 3t6",
    "6 38f"]),
  (["hano", "hanunoo"], [
    "4kg m"]),
  (["hira", "hiragana"], [
    "9hd 2 5 9 2 c h 5 2 0 5 1 4 2d 3 7 2j 1 14jt 1 7v 4 b 0 1a 1 yua 7y j 0 u 2 cry 0"]),
  (["java", "javanese"], [
    "xhc 25 2 a 5 1"]),
  (["kali", "kayahli"], [
    "xds 1b"]),
  (["kana", "katakana"], [
    "9hd 2 5 9 2 c h 5 2 0 5 1 2k 3 4 2n 6p f 5t 1a 2 2f 1432 1 7v 1q ytt 3 2 6 2 1 2 0 80 2 1f 0 f 3"]),
  (["khoj", "khojki"], [
    "25i 9 v29 9 kw7 h 2 1a"]),
  (["knda", "kannada"], [
    "1u9 1 i 1 m3 c 2 2 2 m 2 9 2 4 3 8 2 2 2 3 8 1 7 1 2 3 3 9 2 2 34t 0 2 0 8 0 o 0 2 0 ri4 5"]),
  (["kthi", "kaithi"], [
    "1uu 9 vcx 9 klj 1u b 0"]),
  (["latn", "latin"], [
    "1t p 7 p 1c 0 g 0 6 m 2 u 2 cg 14 4 3j c 7q 1 y3 1 1ih 0 2dh 11 7 1c 6 3 6 c 2 1x 1u 73 8g 0 1u 0 e",
    "0 h c 2c 0 1m 1 7 0 s 0 i 14 254 v o75 7 r 2t 4 1r 6 1 2 0 2 4 p d 8f 0 ea 16 2 8 2 3 fpz 6 t7 p 7 p",
    "1ly 5 2 15 2 8 16iu u 7 5"]),
  (["limb", "limbu"], [
    "1ut 0 32z u 2 b 5 b 5 0 4 b"]),
  (["lina", "lineara"], [
    "1err 18 y5 8m a l b 7"]),
  (["linb", "linearb"], [
    "1ekg b 2 p 2 i 2 1 2 e 3 d z 3e 6 2 5 18 4 8"]),
  (["mahj", "mahajani"], [
    "1us b vcx 9 krb 12"]),
  (["mand", "mandaic"], [
    "18g 0 e8 r 3 0"]),
  (["mani", "manichaean"], [
    "18g 0 1fgg 12 5 b"]),
  (["mlym", "malayalam"], [
    "1u9 1 i 1 pn c 2 2 2 1e 2 2 2 5 5 f 3 p 317 0 riu 2"]),
  (["modi"], [
    "x80 9 lon 1w c 9"]),
  (["mong", "mongolian"], [
    "4qo p 7 2g 8 16 1hh 0 1cmp c"]),
  (["mult", "multani"], [
    "21y 9 1g5t 6 2 0 2 3 2 e 2 a"]),
  (["mymr", "myanmar"], [
    "35s 4f u4v 0 4y u 2q v"]),
  (["nand", "nandinagari"], [
    "1us 1 ox 9 35m 0 9 0 8 0 rhy 5 mej 7 3 19 3 a"]),
  (["nkoo", "nko"], [
    "170 0 f 0 4 0 bl 1m 3 2 1cfz 1"]),
  (["orya", "oriya"], [
    "1u9 1 i 1 bg 2 2 7 3 1 3 l 2 6 2 1 2 4 3 8 3 1 3 2 8 2 5 1 2 4 3 h 3fn 0 o 0"]),
  (["ougr", "olduyghur"], [
    "18g 0 1fhu 0 vy p"]),
  (["perm", "oldpermic"], [
    "w3 0 1ebx 16"]),
  (["phag", "phagspa"], [
    "4qq 1 2 0 shn 1j"]),
  (["phlp", "psalterpahlavi"], [
    "18g 0 1fls h 8 3 d 6"]),
  (["rohg", "hanifirohingya"], [
    "170 0 f 0 4 0 x 0 44 0 1fsc 13 9 9"]),
  (["shrd", "sharada"], [
    "1u9 0 3uu 0 2 0 3 1 3 0 1cbk 2n"]),
  (["sind", "khudawadi"], [
    "1us 1 vd7 9 l13 1m 6 9"]),
  (["sinh", "sinhala"], [
    "1us 1 t8 2 2 h 4 n 2 8 2 0 3 6 4 0 5 5 2 0 2 7 7 9 3 2 1fcd j"]),
  (["sogd", "sogdian"], [
    "18g 0 1gc0 15"]),
  (["sylo", "sylotinagri"], [
    "1us 1 3l 9 v81 18"]),
  (["syrc", "syriac"], [
    "170 0 f 1 3 0 x 0 b a r 0 40 d 2 1n 3 2 7l a 49a 0 2 0"]),
  (["tagb", "tagbanwa"], [
    "4l1 1 16 c 2 2 2 1"]),
  (["takr", "takri"], [
    "1us 1 vd7 9 ls7 1l 7 9"]),
  (["tale", "taile"], [
    "37k 9 1s7 t 3 4"]),
  (["taml", "tamil"], [
    "1u9 1 i 1 f1 1 2 5 4 2 2 3 4 1 2 0 2 1 4 1 4 2 4 b 5 4 4 2 2 3 3 0 7 0 f k 3c0 0 ro9 0 ky6 0 2 0 1k",
    "1 2h0 1d e 0"]),
  (["telu", "telugu"], [
    "1u9 1 i 1 ij c 2 2 2 m 2 f 3 8 2 2 2 3 8 1 2 2 3 0 3 3 3 9 8 8 38b 0 o 0"]),
  (["tglg", "tagalog"], [
    "4jk l a 0 m 1"]),
  (["thaa", "thaana"], [
    "170 0 f 1 3 0 1t 9 7r 1d 1cn5 0 b 0"]),
  (["tirh", "tirhuta"], [
    "1u9 1 i 1 3v1 0 ri6 9 ldz 1z 9 9"]),
  (["yezi", "yezidi"], [
    "170 0 f 0 4 0 1t 9 1g5z 15 2 2 3 1"]),
  (["yiii", "yi"], [
    "9hd 1 6 9 3 7 68 0 lxh wc 4 1i hwb 4"]),
  (["zinh", "inherited", "qaai"], [
    "lc 1t 2 1 2 s 169 1 3fg u l0 1h 2 0 2 4 el 1 5f v 17o1 f h d r4 0 14hv 19 3 m f5 2 i 7 3 6 v 3 h45v",
    "6n"]),
  (["zyyy", "common"], [
    "0 1s r 5 r 1a 2 e 2 4 o 0 w 0 ci 12 6 4 3 j 39 0 a 0 7 0 2 0 hq 0 60 0 ed 0 125 0 ba 3 1eb 2 1sj b 3",
    "w 2 1g 2 a 4 a 2 e i w 1s 11 2 2 3 5 2 q 2 g 16 2 5 ie q a m pr 75 hf 3 v 2 2w e9 1u 2 p b7 b 5 0 4",
    "0 e 0 e 0 m 0 eq n w 0 1e e d 3 4i 9 6 2n w 0 535 1r hl5 p 2v 2 r5 0 f 1 gbp 9 n k 3 b 2 i 2 3 44 0",
    "2 v r 5 r 5 3k 6 2 6 b 4 b7 c 1g 18 14k4 37 1p 6t b 12 3 1p 4 g 9 1 8 t 5 1o 5y j d j d 2e s 6 3s 2c",
    "2 1y 2 1 3 0 3 1 3 3 2 b 2 0 2 6 2 1s 2 3 3 7 2 6 2 r 2 3 2 4 2 0 4 6 2 9f 3 83 3 1d 41e 1v 25 1o jn",
    "17 5 2r d e 3 e 2 e 2 10 b 4t 1l p 2 1 e 17 5 8 o 5 4b rb 5 g 4 c 4 3a 5 2m 7 b 5 0 g b 5 1j 9 9 7",
    "13 9 t 3 1 27 9f d d 3 c 4 8 8 19 2 6 9 d 5 8 8 8 8 42 2 1i 12 9 gvm0 0 v 2n"])]

end EditorBundles.Regex.Property
