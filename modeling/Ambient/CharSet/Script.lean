/-
The script of each character.

* `scriptTable` — the scripts by their four letters, in runs of characters;
* `CharSet.script` — the characters of a script;
* `scriptNames` — the other names of each script, in lower case and without blanks.
-/
import Ambient.CharSet.Coded

namespace Ambient

/-- The script of all characters from the first on; a dash stands for none. -/
def scriptTable : List String :=
  ["Zyyy:41 Latn:1A Zyyy:6 Latn:1A Zyyy:2F Latn Zyyy:F Latn Zyyy:5 Latn:17 Zyyy Latn:1F Zyyy",
   "Latn:1C1 Zyyy:27 Latn:5 Zyyy:5 Bopo:2 Zyyy:14 Zinh:70 Grek:4 Zyyy Grek:3 -:2 Grek:4 Zyyy Grek",
   "-:4 Grek Zyyy Grek Zyyy Grek:3 - Grek - Grek:14 - Grek:3F Copt:E Grek:10 Cyrl:85 Zinh:2",
   "Cyrl:A9 - Armn:26 -:2 Armn:32 -:2 Armn:3 - Hebr:37 -:8 Hebr:1B -:4 Hebr:6 -:B Arab:5 Zyyy",
   "Arab:6 Zyyy Arab:E Zyyy Arab:3 Zyyy Arab:20 Zyyy Arab:A Zinh:B Arab:1A Zinh Arab:6C Zyyy",
   "Arab:22 Syrc:E - Syrc:3C -:2 Syrc:3 Arab:30 Thaa:32 -:E Nkoo:3B -:2 Nkoo:3 Samr:2E -:2 Samr:F",
   "- Mand:1C -:2 Mand - Syrc:B -:5 Arab:1F - Arab:2 -:5 Arab:4B Zyyy Arab:1D Deva:51 Zinh:4",
   "Deva:F Zyyy:2 Deva:1A Beng:4 - Beng:8 -:2 Beng:2 -:2 Beng:16 - Beng:7 - Beng -:3 Beng:4 -:2",
   "Beng:9 -:2 Beng:2 -:2 Beng:4 -:8 Beng -:4 Beng:2 - Beng:5 -:2 Beng:19 -:2 Guru:3 - Guru:6 -:4",
   "Guru:2 -:2 Guru:16 - Guru:7 - Guru:2 - Guru:2 - Guru:2 -:2 Guru - Guru:5 -:4 Guru:2 -:2 Guru:3",
   "-:3 Guru -:7 Guru:4 - Guru -:7 Guru:11 -:A Gujr:3 - Gujr:9 - Gujr:3 - Gujr:16 - Gujr:7 -",
   "Gujr:2 - Gujr:5 -:2 Gujr:A - Gujr:3 - Gujr:3 -:2 Gujr -:F Gujr:4 -:2 Gujr:C -:7 Gujr:7 -",
   "Orya:3 - Orya:8 -:2 Orya:2 -:2 Orya:16 - Orya:7 - Orya:2 - Orya:5 -:2 Orya:9 -:2 Orya:2 -:2",
   "Orya:3 -:7 Orya:3 -:4 Orya:2 - Orya:5 -:2 Orya:12 -:A Taml:2 - Taml:6 -:3 Taml:3 - Taml:4 -:3",
   "Taml:2 - Taml - Taml:2 -:3 Taml:2 -:3 Taml:3 -:3 Taml:C -:4 Taml:5 -:3 Taml:3 - Taml:4 -:2",
   "Taml -:6 Taml -:E Taml:15 -:5 Telu:D - Telu:3 - Telu:17 - Telu:10 -:2 Telu:9 - Telu:3 - Telu:4",
   "-:7 Telu:2 - Telu:3 -:2 Telu -:2 Telu:4 -:2 Telu:A -:7 Telu:9 Knda:D - Knda:3 - Knda:17 -",
   "Knda:A - Knda:5 -:2 Knda:9 - Knda:3 - Knda:4 -:7 Knda:2 -:6 Knda:2 - Knda:4 -:2 Knda:A -",
   "Knda:3 -:C Mlym:D - Mlym:3 - Mlym:33 - Mlym:3 - Mlym:6 -:4 Mlym:10 -:2 Mlym:1A - Sinh:3 -",
   "Sinh:12 -:3 Sinh:18 - Sinh:9 - Sinh -:2 Sinh:7 -:3 Sinh -:4 Sinh:6 - Sinh - Sinh:8 -:6 Sinh:A",
   "-:2 Sinh:3 -:C Thai:3A -:4 Zyyy Thai:1C -:25 Laoo:2 - Laoo - Laoo:5 - Laoo:18 - Laoo - Laoo:17",
   "-:2 Laoo:5 - Laoo - Laoo:7 - Laoo:A -:2 Laoo:4 -:20 Tibt:48 - Tibt:24 -:4 Tibt:27 - Tibt:24 -",
   "Tibt:F - Tibt:7 Zyyy:4 Tibt:2 -:25 Mymr:A0 Geor:26 - Geor -:5 Geor -:2 Geor:2B Zyyy Geor:4",
   "Hang:100 Ethi:49 - Ethi:4 -:2 Ethi:7 - Ethi - Ethi:4 -:2 Ethi:29 - Ethi:4 -:2 Ethi:21 - Ethi:4",
   "-:2 Ethi:7 - Ethi - Ethi:4 -:2 Ethi:F - Ethi:39 - Ethi:4 -:2 Ethi:43 -:2 Ethi:20 -:3 Ethi:1A",
   "-:6 Cher:56 -:2 Cher:6 -:2 Cans:280 Ogam:1D -:3 Runr:4B Zyyy:3 Runr:B -:7 Tglg:16 -:9 Tglg",
   "Hano:15 Zyyy:2 -:9 Buhd:14 -:C Tagb:D - Tagb:3 - Tagb:2 -:C Khmr:5E -:2 Khmr:A -:6 Khmr:A -:6",
   "Mong:2 Zyyy:2 Mong Zyyy Mong:14 -:6 Mong:59 -:7 Mong:2B -:5 Cans:46 -:A Limb:1F - Limb:C -:4",
   "Limb:C -:4 Limb -:3 Limb:C Tale:1E -:2 Tale:5 -:B Talu:2C -:4 Talu:1A -:6 Talu:B -:3 Talu:2",
   "Khmr:20 Bugi:1C -:2 Bugi:2 Lana:3F - Lana:1D -:2 Lana:B -:6 Lana:A -:6 Lana:E -:2 Zinh:1F -:31",
   "Bali:4D - Bali:32 Sund:40 Batk:34 -:8 Batk:4 Lepc:38 -:3 Lepc:F -:3 Lepc:3 Olck:30 Cyrl:B -:5",
   "Geor:2B -:2 Geor:3 Sund:8 -:8 Zinh:3 Zyyy Zinh:D Zyyy Zinh:7 Zyyy:4 Zinh Zyyy:6 Zinh Zyyy:3",
   "Zinh:2 Zyyy -:5 Latn:26 Grek:5 Cyrl Latn:31 Grek:5 Latn:4 Grek:5 Latn:D Cyrl Latn:46 Grek",
   "Zinh:40 Latn:100 Grek:16 -:2 Grek:6 -:2 Grek:26 -:2 Grek:6 -:2 Grek:8 - Grek - Grek - Grek -",
   "Grek:1F -:2 Grek:35 - Grek:F - Grek:E -:2 Grek:6 - Grek:13 -:2 Grek:3 - Grek:9 - Zyyy:C Zinh:2",
   "Zyyy:57 - Zyyy:B Latn -:2 Zyyy:B Latn Zyyy:F - Latn:D -:3 Zyyy:21 -:F Zinh:21 -:F Zyyy:26 Grek",
   "Zyyy:3 Latn:2 Zyyy:6 Latn Zyyy:1B Latn Zyyy:11 Latn:29 Zyyy:3 -:4 Zyyy:29A -:16 Zyyy:B -:15",
   "Zyyy:3A0 Brai:100 Zyyy:274 -:2 Zyyy:20 - Zyyy:69 Glag:60 Latn:20 Copt:74 -:5 Copt:7 Geor:26 -",
   "Geor -:5 Geor -:2 Tfng:38 -:7 Tfng:2 -:E Tfng Ethi:17 -:9 Ethi:7 - Ethi:7 - Ethi:7 - Ethi:7 -",
   "Ethi:7 - Ethi:7 - Ethi:7 - Ethi:7 - Cyrl:20 Zyyy:5E -:22 Hani:1A - Hani:59 -:C Hani:D6 -:1A",
   "Zyyy:15 Hani Zyyy Hani Zyyy:19 Hani:9 Zinh:4 Hang:2 Zyyy:8 Hani:4 Zyyy:4 - Hira:56 -:2 Zinh:2",
   "Zyyy:2 Hira:3 Zyyy Kana:5A Zyyy:2 Kana:3 -:5 Bopo:2B - Hang:5E - Zyyy:10 Bopo:20 Zyyy:26 -:9",
   "Zyyy Kana:10 Hang:1F - Zyyy:40 Hang:1F Zyyy:51 Kana:2F Zyyy Kana:58 Zyyy:A8 Hani:19C0 Zyyy:40",
   "Hani:5200 Yiii:48D -:3 Yiii:37 -:9 Lisu:30 Vaii:12C -:14 Cyrl:60 Bamu:58 -:8 Zyyy:22 Latn:66",
   "Zyyy:3 Latn:43 -:2 Latn:2 - Latn - Latn:8 -:15 Latn:E Sylo:2D -:3 Zyyy:A -:6 Phag:38 -:8",
   "Saur:46 -:8 Saur:C -:6 Deva:20 Kali:2E Zyyy Kali Rjng:24 -:B Rjng Hang:1D -:3 Java:4E - Zyyy",
   "Java:A -:4 Java:2 Mymr:1F - Cham:37 -:9 Cham:E -:2 Cham:A -:2 Cham:4 Mymr:20 Tavt:43 -:18",
   "Tavt:5 Mtei:17 -:A Ethi:6 -:2 Ethi:6 -:2 Ethi:6 -:9 Ethi:7 - Ethi:7 - Latn:2B Zyyy Latn:9 Grek",
   "Latn:4 Zyyy:2 -:4 Cher:50 Mtei:2E -:2 Mtei:A -:6 Hang:2BA4 -:C Hang:17 -:4 Hang:31 -:2104",
   "Hani:16E -:2 Hani:6A -:26 Latn:7 -:C Armn:5 -:5 Hebr:1A - Hebr:5 - Hebr - Hebr:2 - Hebr:2 -",
   "Hebr:A Arab:73 -:10 Arab:16B Zyyy:2 Arab:50 -:2 Arab:36 -:7 Arab -:20 Arab:10 Zinh:10 Zyyy:A",
   "-:6 Zinh:E Cyrl:2 Zyyy:23 - Zyyy:13 - Zyyy:4 -:4 Arab:5 - Arab:87 -:2 Zyyy - Zyyy:20 Latn:1A",
   "Zyyy:6 Latn:1A Zyyy:B Kana:A Zyyy Kana:2D Zyyy:2 Hang:1F -:3 Hang:6 -:2 Hang:6 -:2 Hang:6 -:2",
   "Hang:3 -:3 Zyyy:7 - Zyyy:7 -:A Zyyy:5 -:2 Linb:C - Linb:1A - Linb:13 - Linb:2 - Linb:F -:2",
   "Linb:E -:22 Linb:7B -:5 Zyyy:3 -:4 Zyyy:2D -:3 Zyyy:9 Grek:4F - Zyyy:D -:3 Grek -:2F Zyyy:2D",
   "Zinh -:82 Lyci:1D -:3 Cari:31 -:F Zinh Zyyy:1B -:4 Ital:24 -:9 Ital:3 Goth:1B -:5 Perm:2B -:5",
   "Ugar:1E - Ugar Xpeo:24 -:4 Xpeo:E -:2A Dsrt:50 Shaw:30 Osma:1E -:2 Osma:A -:6 Osge:24 -:4",
   "Osge:24 -:4 Elba:28 -:8 Aghb:34 -:B Aghb Vith:B - Vith:F - Vith:7 - Vith:2 - Vith:B - Vith:F -",
   "Vith:7 - Vith:2 -:3 Todr:34 -:C Lina:137 -:9 Lina:16 -:A Lina:8 -:18 Latn:6 - Latn:2A - Latn:9",
   "-:45 Cprt:6 -:2 Cprt - Cprt:2C - Cprt:2 -:3 Cprt -:2 Cprt Armi:16 - Armi:9 Palm:20 Nbat:1F -:8",
   "Nbat:9 -:30 Hatr:13 - Hatr:2 -:5 Hatr:5 Phnx:1C -:3 Phnx Lydi:1A -:5 Lydi -:40 Mero:20 Merc:18",
   "-:4 Merc:14 -:2 Merc:2E Khar:4 - Khar:2 -:5 Khar:8 - Khar:3 - Khar:1D -:2 Khar:3 -:4 Khar:A",
   "-:7 Khar:9 -:7 Sarb:20 Narb:20 -:20 Mani:27 -:4 Mani:C -:9 Avst:36 -:3 Avst:7 Prti:16 -:2",
   "Prti:8 Phli:13 -:5 Phli:8 Phlp:12 -:7 Phlp:4 -:C Phlp:7 -:50 Orkh:49 -:37 Hung:33 -:D Hung:33",
   "-:7 Hung:6 Rohg:28 -:8 Rohg:A -:6 Gara:26 -:3 Gara:1D -:8 Gara:2 -:D0 Arab:1F - Yezi:2A -",
   "Yezi:3 -:2 Yezi:2 -:10 Arab:3 -:37 Arab:4 Sogo:28 -:8 Sogd:2A -:16 Ougr:1A -:26 Chrs:1C -:14",
   "Elym:17 -:9 Brah:4E -:4 Brah:24 -:9 Brah Kthi:43 -:A Kthi -:2 Sora:19 -:7 Sora:A -:6 Cakm:35 -",
   "Cakm:12 -:8 Mahj:27 -:9 Shrd:60 - Sinh:14 -:B Khoj:12 - Khoj:2F -:3E Mult:7 - Mult - Mult:4 -",
   "Mult:F - Mult:B -:6 Sind:3B -:5 Sind:A -:6 Gran:4 - Gran:8 -:2 Gran:2 -:2 Gran:16 - Gran:7 -",
   "Gran:2 - Gran:5 - Zinh Gran:9 -:2 Gran:2 -:2 Gran:3 -:2 Gran -:6 Gran -:5 Gran:7 -:2 Gran:7",
   "-:3 Gran:5 -:B Tutg:A - Tutg -:2 Tutg - Tutg:26 - Tutg:A - Tutg -:2 Tutg - Tutg:4 - Tutg:A -",
   "Tutg:2 -:8 Tutg:2 -:1D Newa:5C - Newa:5 -:1E Tirh:48 -:8 Tirh:A -:A6 Sidd:36 -:2 Sidd:26 -:22",
   "Modi:45 -:B Modi:A -:6 Mong:D -:13 Takr:3A -:6 Takr:A -:6 Mymr:14 -:1C Ahom:1B -:2 Ahom:F -:4",
   "Ahom:17 -:B9 Dogr:3C -:64 Wara:53 -:C Wara Diak:7 -:2 Diak -:2 Diak:8 - Diak:2 - Diak:1E -",
   "Diak:2 -:2 Diak:C -:9 Diak:A -:46 Nand:8 -:2 Nand:2E -:2 Nand:B -:1B Zanb:48 -:8 Soyo:53 -:D",
   "Cans:10 Pauc:39 -:7 Deva:A -:B6 Sunu:22 -:E Sunu:A -:6 Bhks:9 - Bhks:2D - Bhks:E -:A Bhks:1D",
   "-:3 Marc:20 -:2 Marc:16 - Marc:E -:49 Gonm:7 - Gonm:2 - Gonm:2C -:3 Gonm - Gonm:2 - Gonm:9 -:8",
   "Gonm:A -:6 Gong:6 - Gong:2 - Gong:25 - Gong:2 - Gong:6 -:7 Gong:A -:136 Maka:19 -:7 Kawi:11 -",
   "Kawi:29 -:3 Kawi:1D -:55 Lisu -:F Taml:32 -:D Taml Xsux:39A -:66 Xsux:6F - Xsux:5 -:B Xsux:C4",
   "-:A4C Cpmn:63 -:D Egyp:456 -:A Egyp:F9B -:5 Hluw:247 -:1AB9 Gukh:3A -:6C6 Bamu:239 -:7 Mroo:1F",
   "- Mroo:A -:4 Mroo:2 Tnsa:4F - Tnsa:A -:6 Bass:1E -:2 Bass:6 -:A Hmng:46 -:A Hmng:A - Hmng:7 -",
   "Hmng:15 -:5 Hmng:13 -:1B0 Krai:3A -:C6 Medf:5B -:65 Plrd:4B -:4 Plrd:39 -:7 Plrd:11 -:40 Tang",
   "Nshu Hani:2 Kits -:B Hani:2 -:E Tang:17F8 -:8 Tang:300 Kits:1D6 -:29 Kits Tang:9 -:22E7 Kana:4",
   "- Kana:7 - Kana:2 - Kana Hira:11F Kana:3 -:F Hira -:1D Hira:3 -:2 Kana -:E Kana:4 -:8 Nshu:18C",
   "-:904 Dupl:6B -:5 Dupl:D -:3 Dupl:9 -:7 Dupl:A -:2 Dupl:4 Zyyy:4 -:F5C Zyyy:FA -:6 Zyyy:1B4",
   "-:4C Zinh:2E -:2 Zinh:17 -:9 Zyyy:74 -:3C Zyyy:F6 -:A Zyyy:27 -:2 Zyyy:3E Zinh:3 Zyyy:11",
   "Zinh:8 Zyyy:2 Zinh:7 Zyyy:1E Zinh:4 Zyyy:3D -:15 Grek:46 -:7A Zyyy:14 -:C Zyyy:14 -:C Zyyy:57",
   "-:9 Zyyy:19 -:87 Zyyy:55 - Zyyy:47 - Zyyy:2 -:2 Zyyy -:2 Zyyy:2 -:2 Zyyy:4 - Zyyy:C - Zyyy -",
   "Zyyy:7 - Zyyy:41 - Zyyy:4 -:2 Zyyy:8 - Zyyy:7 - Zyyy:1C - Zyyy:4 - Zyyy:5 - Zyyy -:3 Zyyy:7 -",
   "Zyyy:154 -:2 Zyyy:124 -:2 Zyyy:32 Sgnw:28C -:F Sgnw:5 - Sgnw:F -:450 Latn:1F -:6 Latn:6 -:D5",
   "Glag:7 - Glag:11 -:2 Glag:7 - Glag:2 - Glag:5 -:5 Cyrl:3E -:21 Cyrl -:70 Hmnp:2D -:3 Hmnp:E",
   "-:2 Hmnp:A -:4 Hmnp:2 -:140 Toto:1F -:11 Wcho:3A -:5 Wcho -:1D0 Nagm:2A -:D6 Onao:2B -:4 Onao",
   "-:1E0 Ethi:7 - Ethi:4 - Ethi:2 - Ethi:F - Mend:C5 -:2 Mend:10 -:29 Adlm:4C -:4 Adlm:A -:4",
   "Adlm:2 -:311 Zyyy:44 -:4C Zyyy:3D -:C2 Arab:4 - Arab:1B - Arab:2 - Arab -:2 Arab - Arab:A -",
   "Arab:4 - Arab - Arab -:6 Arab -:4 Arab - Arab - Arab - Arab:3 - Arab:2 - Arab -:2 Arab - Arab",
   "- Arab - Arab - Arab - Arab:2 - Arab -:2 Arab:4 - Arab:7 - Arab:4 - Arab:4 - Arab - Arab:A -",
   "Arab:11 -:5 Arab:3 - Arab:5 - Arab:11 -:34 Arab:2 -:10E Zyyy:2C -:4 Zyyy:64 -:C Zyyy:F -:2",
   "Zyyy:F - Zyyy:F - Zyyy:25 -:A Zyyy:AE -:38 Zyyy:1A Hira Zyyy:2 -:D Zyyy:2C -:4 Zyyy:9 -:7",
   "Zyyy:2 -:E Zyyy:6 -:9A Zyyy:3D8 -:4 Zyyy:11 -:3 Zyyy:D -:3 Zyyy:77 -:4 Zyyy:5F -:6 Zyyy:C -:4",
   "Zyyy -:F Zyyy:C -:4 Zyyy:38 -:8 Zyyy:A -:6 Zyyy:28 -:8 Zyyy:1E -:2 Zyyy:C -:4 Zyyy:2 -:3E",
   "Zyyy:154 -:C Zyyy:E -:2 Zyyy:D -:3 Zyyy:A -:5 Zyyy:38 -:7 Zyyy:F -:2 Zyyy:B -:6 Zyyy:9 -:7",
   "Zyyy:93 - Zyyy:66 -:406 Hani:A6E0 -:20 Hani:103A -:6 Hani:DE -:2 Hani:1682 -:E Hani:1D31 -:F",
   "Hani:26E -:9A2 Hani:21E -:5E2 Hani:134B -:5 Hani:1060 -:ADC51 Zyyy -:1E Zyyy:60 -:80 Zinh:F0"]

/-- The characters of a script. -/
def CharSet.script (code : String) : CharSet :=
  .ofRuns (code == ·) (Run.ofLines scriptTable)

/-- The letters of each script, and all its names. -/
def scriptNames : List (String × List String) :=
  [("Adlm", ["adlm", "adlam"]), ("Aghb", ["aghb", "caucasianalbanian"]), ("Ahom", ["ahom"]),
   ("Arab", ["arab", "arabic"]), ("Armi", ["armi", "imperialaramaic"]),
   ("Armn", ["armn", "armenian"]), ("Avst", ["avst", "avestan"]), ("Bali", ["bali", "balinese"]),
   ("Bamu", ["bamu", "bamum"]), ("Bass", ["bass", "bassavah"]), ("Batk", ["batk", "batak"]),
   ("Beng", ["beng", "bengali"]), ("Bhks", ["bhks", "bhaiksuki"]), ("Bopo", ["bopo", "bopomofo"]),
   ("Brah", ["brah", "brahmi"]), ("Brai", ["brai", "braille"]), ("Bugi", ["bugi", "buginese"]),
   ("Buhd", ["buhd", "buhid"]), ("Cakm", ["cakm", "chakma"]),
   ("Cans", ["cans", "canadianaboriginal"]), ("Cari", ["cari", "carian"]), ("Cham", ["cham"]),
   ("Cher", ["cher", "cherokee"]), ("Chrs", ["chrs", "chorasmian"]),
   ("Copt", ["copt", "coptic", "qaac"]), ("Cpmn", ["cpmn", "cyprominoan"]),
   ("Cprt", ["cprt", "cypriot"]), ("Cyrl", ["cyrl", "cyrillic"]),
   ("Deva", ["deva", "devanagari"]), ("Diak", ["diak", "divesakuru"]),
   ("Dogr", ["dogr", "dogra"]), ("Dsrt", ["dsrt", "deseret"]), ("Dupl", ["dupl", "duployan"]),
   ("Egyp", ["egyp", "egyptianhieroglyphs"]), ("Elba", ["elba", "elbasan"]),
   ("Elym", ["elym", "elymaic"]), ("Ethi", ["ethi", "ethiopic"]), ("Gara", ["gara", "garay"]),
   ("Geor", ["geor", "georgian"]), ("Glag", ["glag", "glagolitic"]),
   ("Gong", ["gong", "gunjalagondi"]), ("Gonm", ["gonm", "masaramgondi"]),
   ("Goth", ["goth", "gothic"]), ("Gran", ["gran", "grantha"]), ("Grek", ["grek", "greek"]),
   ("Gujr", ["gujr", "gujarati"]), ("Gukh", ["gukh", "gurungkhema"]),
   ("Guru", ["guru", "gurmukhi"]), ("Hang", ["hang", "hangul"]), ("Hani", ["hani", "han"]),
   ("Hano", ["hano", "hanunoo"]), ("Hatr", ["hatr", "hatran"]), ("Hebr", ["hebr", "hebrew"]),
   ("Hira", ["hira", "hiragana"]), ("Hluw", ["hluw", "anatolianhieroglyphs"]),
   ("Hmng", ["hmng", "pahawhhmong"]), ("Hmnp", ["hmnp", "nyiakengpuachuehmong"]),
   ("Hung", ["hung", "oldhungarian"]), ("Ital", ["ital", "olditalic"]),
   ("Java", ["java", "javanese"]), ("Kali", ["kali", "kayahli"]), ("Kana", ["kana", "katakana"]),
   ("Kawi", ["kawi"]), ("Khar", ["khar", "kharoshthi"]), ("Khmr", ["khmr", "khmer"]),
   ("Khoj", ["khoj", "khojki"]), ("Kits", ["kits", "khitansmallscript"]),
   ("Knda", ["knda", "kannada"]), ("Krai", ["krai", "kiratrai"]), ("Kthi", ["kthi", "kaithi"]),
   ("Lana", ["lana", "taitham"]), ("Laoo", ["laoo", "lao"]), ("Latn", ["latn", "latin"]),
   ("Lepc", ["lepc", "lepcha"]), ("Limb", ["limb", "limbu"]), ("Lina", ["lina", "lineara"]),
   ("Linb", ["linb", "linearb"]), ("Lisu", ["lisu"]), ("Lyci", ["lyci", "lycian"]),
   ("Lydi", ["lydi", "lydian"]), ("Mahj", ["mahj", "mahajani"]), ("Maka", ["maka", "makasar"]),
   ("Mand", ["mand", "mandaic"]), ("Mani", ["mani", "manichaean"]), ("Marc", ["marc", "marchen"]),
   ("Medf", ["medf", "medefaidrin"]), ("Mend", ["mend", "mendekikakui"]),
   ("Merc", ["merc", "meroiticcursive"]), ("Mero", ["mero", "meroitichieroglyphs"]),
   ("Mlym", ["mlym", "malayalam"]), ("Modi", ["modi"]), ("Mong", ["mong", "mongolian"]),
   ("Mroo", ["mroo", "mro"]), ("Mtei", ["mtei", "meeteimayek"]), ("Mult", ["mult", "multani"]),
   ("Mymr", ["mymr", "myanmar"]), ("Nagm", ["nagm", "nagmundari"]),
   ("Nand", ["nand", "nandinagari"]), ("Narb", ["narb", "oldnortharabian"]),
   ("Nbat", ["nbat", "nabataean"]), ("Newa", ["newa"]), ("Nkoo", ["nkoo", "nko"]),
   ("Nshu", ["nshu", "nushu"]), ("Ogam", ["ogam", "ogham"]), ("Olck", ["olck", "olchiki"]),
   ("Onao", ["onao", "olonal"]), ("Orkh", ["orkh", "oldturkic"]), ("Orya", ["orya", "oriya"]),
   ("Osge", ["osge", "osage"]), ("Osma", ["osma", "osmanya"]), ("Ougr", ["ougr", "olduyghur"]),
   ("Palm", ["palm", "palmyrene"]), ("Pauc", ["pauc", "paucinhau"]),
   ("Perm", ["perm", "oldpermic"]), ("Phag", ["phag", "phagspa"]),
   ("Phli", ["phli", "inscriptionalpahlavi"]), ("Phlp", ["phlp", "psalterpahlavi"]),
   ("Phnx", ["phnx", "phoenician"]), ("Plrd", ["plrd", "miao"]),
   ("Prti", ["prti", "inscriptionalparthian"]), ("Rjng", ["rjng", "rejang"]),
   ("Rohg", ["rohg", "hanifirohingya"]), ("Runr", ["runr", "runic"]),
   ("Samr", ["samr", "samaritan"]), ("Sarb", ["sarb", "oldsoutharabian"]),
   ("Saur", ["saur", "saurashtra"]), ("Sgnw", ["sgnw", "signwriting"]),
   ("Shaw", ["shaw", "shavian"]), ("Shrd", ["shrd", "sharada"]), ("Sidd", ["sidd", "siddham"]),
   ("Sind", ["sind", "khudawadi"]), ("Sinh", ["sinh", "sinhala"]), ("Sogd", ["sogd", "sogdian"]),
   ("Sogo", ["sogo", "oldsogdian"]), ("Sora", ["sora", "sorasompeng"]),
   ("Soyo", ["soyo", "soyombo"]), ("Sund", ["sund", "sundanese"]), ("Sunu", ["sunu", "sunuwar"]),
   ("Sylo", ["sylo", "sylotinagri"]), ("Syrc", ["syrc", "syriac"]),
   ("Tagb", ["tagb", "tagbanwa"]), ("Takr", ["takr", "takri"]), ("Tale", ["tale", "taile"]),
   ("Talu", ["talu", "newtailue"]), ("Taml", ["taml", "tamil"]), ("Tang", ["tang", "tangut"]),
   ("Tavt", ["tavt", "taiviet"]), ("Telu", ["telu", "telugu"]), ("Tfng", ["tfng", "tifinagh"]),
   ("Tglg", ["tglg", "tagalog"]), ("Thaa", ["thaa", "thaana"]), ("Thai", ["thai"]),
   ("Tibt", ["tibt", "tibetan"]), ("Tirh", ["tirh", "tirhuta"]), ("Tnsa", ["tnsa", "tangsa"]),
   ("Todr", ["todr", "todhri"]), ("Toto", ["toto"]), ("Tutg", ["tutg", "tulutigalari"]),
   ("Ugar", ["ugar", "ugaritic"]), ("Vaii", ["vaii", "vai"]), ("Vith", ["vith", "vithkuqi"]),
   ("Wara", ["wara", "warangciti"]), ("Wcho", ["wcho", "wancho"]),
   ("Xpeo", ["xpeo", "oldpersian"]), ("Xsux", ["xsux", "cuneiform"]),
   ("Yezi", ["yezi", "yezidi"]), ("Yiii", ["yiii", "yi"]), ("Zanb", ["zanb", "zanabazarsquare"]),
   ("Zinh", ["zinh", "inherited", "qaai"]), ("Zyyy", ["zyyy", "common"])]

end Ambient
