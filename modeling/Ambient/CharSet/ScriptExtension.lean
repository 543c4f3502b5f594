/-
The scripts that characters are used in, where these differ from their own.

* `extensionTable` — the scripts of such characters, in runs;
* `CharSet.scriptExtension` — the characters that are used in a script.
-/
import Ambient.CharSet.Script

namespace Ambient

/-- The scripts of the characters from the first on that are used in others than their own, with a
plus between them; a dash stands for no difference. -/
def extensionTable : List String :=
  ["-:B7 Avst+Cari+Copt+Dupl+Elba+Geor+Glag+Gong+Goth+Grek+Hani+Latn+Lydi+Mahj+Perm+Shaw -:204",
   "Beng+Cyrl+Deva+Latn+Lisu+Thai+Toto -:A Bopo+Latn - Bopo+Latn:3 - Latn+Lisu -:9 Latn+Thai -",
   "Bopo+Latn -:26 Cher+Copt+Cyrl+Grek+Latn+Perm+Sunu+Tale Cher+Cyrl+Grek+Latn+Osge+Sunu+Tale+Todr",
   "Cher+Cyrl+Latn+Tfng Glag+Latn+Sunu+Syrc+Thai",
   "Aghb+Cher+Copt+Cyrl+Goth+Grek+Latn+Osge+Syrc+Tfng+Todr Copt+Elba+Glag+Goth+Kana+Latn",
   "Cyrl+Grek+Latn+Perm+Tfng Copt+Dupl+Hebr+Latn+Perm+Syrc+Tale+Tfng+Todr",
   "Armn+Cyrl+Dupl+Goth+Grek+Hebr+Latn+Perm+Syrc+Tale+Tfng Latn+Tfng Dupl+Latn+Syrc",
   "Cher+Cyrl+Latn+Osge Cher+Latn+Tale Latn+Sunu Ethi+Latn - Latn+Sunu Cyrl+Latn+Todr -",
   "Grek+Latn+Perm+Todr -:F Cher+Dupl+Kana+Latn+Syrc+Tfng Cher+Dupl+Latn+Syrc Latn+Syrc -:7",
   "Latn+Sunu+Syrc Latn+Syrc - Cher+Latn+Syrc Aghb+Cher+Goth+Latn+Sunu+Syrc+Thai -:10 Grek -:2",
   "Grek -:12 Latn+Osge -:5 Aghb+Latn+Todr -:4 Latn:D -:4 Copt+Grek:2 -:10D Cyrl+Perm Cyrl+Glag",
   "Cyrl+Latn:2 Cyrl+Glag -:101 Armn+Geor+Glag -:82 Arab+Gara+Nkoo+Rohg+Syrc+Thaa+Yezi -:E",
   "Arab+Gara+Nkoo+Rohg+Syrc+Thaa+Yezi Arab+Syrc+Thaa -:2 Adlm+Arab+Gara+Nkoo+Rohg+Syrc+Thaa+Yezi",
   "-:20 Adlm+Arab+Mand+Mani+Ougr+Phlp+Rohg+Sogd+Syrc -:A Arab+Syrc:B -:A Arab+Thaa+Yezi:A -:6",
   "Arab+Syrc -:63 Arab+Rohg -:27C",
   "Beng+Deva+Gran+Gujr+Guru+Knda+Latn+Mlym+Nand+Newa+Orya+Shrd+Taml+Telu+Tirh",
   "Beng+Deva+Gran+Gujr+Guru+Knda+Latn+Mlym+Newa+Orya+Taml+Telu+Tirh -:11",
   "Beng+Deva+Dogr+Gong+Gonm+Gran+Gujr+Guru+Knda+Mahj+Mlym+Nand+Onao+Orya+Sind+Sinh+Sylo+Takr+Taml+Telu+Tirh",
   "Beng+Deva+Dogr+Gong+Gonm+Gran+Gujr+Gukh+Guru+Knda+Limb+Mahj+Mlym+Nand+Onao+Orya+Sind+Sinh+Sylo+Takr+Taml+Telu+Tirh",
   "Deva+Dogr+Kthi+Mahj:A -:76 Beng+Cakm+Sylo:A -:76 Guru+Mult:A -:76 Gujr+Khoj:A -:F6 Gran+Taml:E",
   "-:F2 Knda+Nand+Tutg:A -:350 Cakm+Mymr+Tale:A -:B1 Geor+Glag+Latn -:5EF Runr:3 -:47",
   "Buhd+Hano+Tagb+Tglg:2 -:CB Mong+Phag:2 - Mong+Phag -:4CA Beng+Deva+Gran+Knda Deva",
   "Beng+Deva+Gran+Knda Deva+Gran+Knda Deva Beng+Deva+Newa+Telu+Tirh Beng+Deva+Telu Deva+Newa+Shrd",
   "Beng+Deva+Newa+Telu Deva+Shrd Deva+Knda+Mlym+Orya+Taml+Telu Deva Deva+Shrd:2 Deva:2 Deva+Shrd",
   "Beng+Deva Deva+Newa+Tirh Deva:6 Deva+Nand+Newa Beng+Deva+Shrd Deva+Newa Deva",
   "Beng+Deva+Newa+Shrd Deva:4 Beng+Deva+Gran+Knda+Mlym+Nand+Orya+Sinh+Telu+Tirh+Tutg Deva+Gran",
   "Deva+Gran+Knda+Tutg Beng+Deva:2 Beng Deva+Gran:2 Nand -:C5 Grek:2 -:36 Cyrl+Latn+Syrc - Syrc",
   "-:234 Latn+Mong+Phag -:1F Adlm+Arab -:A Cari+Geor+Glag+Hung+Lyci+Orkh -:2 Cari+Grek+Hung+Mero",
   "-:92 Deva+Gran+Latn -:D26 Copt+Latn -:18 Avst+Orkh Avst+Cari+Geor+Hung+Kthi+Lydi+Samr -:A Dupl",
   "-:4 Adlm+Arab+Hung - Cyrl+Glag -:1AC Hani+Tang:10 - Bopo+Hang+Hani+Hira+Kana+Mong+Yiii",
   "Bopo+Hang+Hani+Hira+Kana+Mong+Phag+Yiii Bopo+Hang+Hani+Hira+Kana -:2 Hani -",
   "Bopo+Hang+Hani+Hira+Kana+Mong+Tibt+Yiii:2 Bopo+Hang+Hani+Hira+Kana+Lisu+Mong+Tibt+Yiii:2",
   "Bopo+Hang+Hani+Hira+Kana+Yiii:6 - Bopo+Hang+Hani+Hira+Kana Bopo+Hang+Hani+Hira+Kana+Yiii:8",
   "Bopo+Hang+Hani+Hira+Kana:4 -:A Bopo+Hani:4 -:2 Bopo+Hang+Hani+Hira+Kana Hira+Kana:5 -",
   "Bopo+Hang+Hani+Hira+Kana -:4 Hani+Hira+Kana:2 Hani:2 -:59 Hira+Kana:4 -:3 Hira+Kana -:5A",
   "Bopo+Hang+Hani+Hira+Kana+Yiii Hira+Kana -:93 Hani:10 -:20 Hani:26 -:9 Hani+Tang -:30 Hani:28",
   "-:38 Hani:31 -:F Hani:C -:33 Hani -:58 Hani:19 -:A Hani:5 -:60 Hani:1F -:7270 Cyrl+Glag -:90",
   "Hani+Latn:8 -:128",
   "Deva+Dogr+Gujr+Guru+Khoj+Knda+Kthi+Mahj+Mlym+Modi+Nand+Shrd+Sind+Takr+Tirh+Tutg:3",
   "Deva+Dogr+Gujr+Guru+Khoj+Knda+Kthi+Mahj+Modi+Nand+Shrd+Sind+Takr+Tirh+Tutg:3",
   "Deva+Dogr+Gujr+Guru+Khoj+Kthi+Mahj+Modi+Sind+Takr+Tirh:2",
   "Deva+Dogr+Gujr+Guru+Khoj+Kthi+Mahj+Modi+Shrd+Sind+Takr+Tirh",
   "Deva+Dogr+Gujr+Guru+Khoj+Kthi+Mahj+Modi+Sind+Takr+Tirh -:B7 Beng+Deva+Tutg - Deva+Taml -:3A",
   "Kali+Latn+Mymr -:A0 Bugi+Java -:536E Arab+Nkoo:2 -:B2 Arab+Thaa -:A Arab+Thaa -:47",
   "Bopo+Hang+Hani+Hira+Kana:2 -:11A Bopo+Hang+Hani+Hira+Kana+Yiii:5 -:A Hira+Kana -:2D",
   "Hira+Kana:2 -:160 Cpmn+Cprt+Linb:2 Cprt+Linb -:4 Cprt+Lina+Linb:2D -:3 Cprt+Linb:9 -:1A0",
   "Arab+Copt:1C -:7F6 Mani+Ougr -:80E Gran+Taml - Gran+Taml -:37 Gran+Taml:2 -:C93 Gran+Taml:2 -",
   "Gran+Taml -:9CCC Dupl:4 -:16BC Hani:12 -:1EDE Hani:2 -:F0DAE"]

/-- The characters that are used in a script. -/
def CharSet.scriptExtension (code : String) : CharSet :=
  let runs := Run.ofLines extensionTable
  let isUsedIn (value : String) := (Text.splitOn '+' value.toList).contains code.toList
  ((CharSet.script code).inter (.ofRuns (· == "-") runs)).union (.ofRuns isUsedIn runs)

end Ambient
