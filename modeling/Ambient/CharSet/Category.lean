/-
The general category of each character.

* `categoryTable` — the categories by their two letters, in runs of characters;
* `CharSet.category` — the characters of some categories;
* `categoryNames` — the names of categories and of groups of them, in lower case and without blanks.
-/
import Ambient.CharSet.Coded

namespace Ambient

/-- The category of all characters from the first to the last; a dash stands for codes that are no
characters. -/
def categoryTable : List String :=
  ["Cc:20 Zs Po:3 Sc Po:3 Ps Pe Po Sm Po Pd Po:2 Nd:A Po:2 Sm:3 Po:2 Lu:1A Ps Po Pe Sk Pc Sk Ll:1A",
   "Ps Sm Pe Sm Cc:21 Zs Po Sc:4 So Po Sk So Lo Pi Sm Cf So Sk So Sm No:2 Sk Ll Po:2 Sk No Lo Pf",
   "No:3 Po Lu:17 Sm Lu:7 Ll:18 Sm Ll:8 Lu Ll Lu Ll Lu Ll Lu Ll Lu Ll Lu Ll Lu Ll Lu Ll Lu Ll Lu",
   "Ll Lu Ll Lu Ll Lu Ll Lu Ll Lu Ll Lu Ll Lu Ll Lu Ll Lu Ll Lu Ll Lu Ll Lu Ll Lu Ll Lu Ll Lu Ll",
   "Lu Ll Lu Ll Lu Ll:2 Lu Ll Lu Ll Lu Ll Lu Ll Lu Ll Lu Ll Lu Ll Lu Ll:2 Lu Ll Lu Ll Lu Ll Lu Ll",
   "Lu Ll Lu Ll Lu Ll Lu Ll Lu Ll Lu Ll Lu Ll Lu Ll Lu Ll Lu Ll Lu Ll Lu Ll Lu Ll Lu Ll Lu Ll Lu",
   "Ll Lu Ll Lu Ll Lu Ll Lu:2 Ll Lu Ll Lu Ll:3 Lu:2 Ll Lu Ll Lu:2 Ll Lu:3 Ll:2 Lu:4 Ll Lu:2 Ll",
   "Lu:3 Ll:3 Lu:2 Ll Lu:2 Ll Lu Ll Lu Ll Lu:2 Ll Lu Ll:2 Lu Ll Lu:2 Ll Lu:3 Ll Lu Ll Lu:2 Ll:2 Lo",
   "Lu Ll:3 Lo:4 Lu Lt Ll Lu Lt Ll Lu Lt Ll Lu Ll Lu Ll Lu Ll Lu Ll Lu Ll Lu Ll Lu Ll Lu Ll:2 Lu",
   "Ll Lu Ll Lu Ll Lu Ll Lu Ll Lu Ll Lu Ll Lu Ll Lu Ll:2 Lu Lt Ll Lu Ll Lu:3 Ll Lu Ll Lu Ll Lu Ll",
   "Lu Ll Lu Ll Lu Ll Lu Ll Lu Ll Lu Ll Lu Ll Lu Ll Lu Ll Lu Ll Lu Ll Lu Ll Lu Ll Lu Ll Lu Ll Lu",
   "Ll Lu Ll Lu Ll Lu Ll Lu Ll Lu Ll Lu Ll Lu Ll Lu Ll Lu Ll Lu Ll:7 Lu:2 Ll Lu:2 Ll:2 Lu Ll Lu:4",
   "Ll Lu Ll Lu Ll Lu Ll Lu Ll:45 Lo Ll:1B Lm:12 Sk:4 Lm:C Sk:E Lm:5 Sk:7 Lm Sk Lm Sk:11 Mn:70 Lu",
   "Ll Lu Ll Lm Sk Lu Ll Cn:2 Lm Ll:3 Po Lu Cn:4 Sk:2 Lu Po Lu:3 Cn Lu Cn Lu:2 Ll Lu:11 Cn Lu:9",
   "Ll:23 Lu Ll:2 Lu:3 Ll:3 Lu Ll Lu Ll Lu Ll Lu Ll Lu Ll Lu Ll Lu Ll Lu Ll Lu Ll Lu Ll Lu Ll Lu",
   "Ll:5 Lu Ll Sm Lu Ll Lu:2 Ll:2 Lu:33 Ll:30 Lu Ll Lu Ll Lu Ll Lu Ll Lu Ll Lu Ll Lu Ll Lu Ll Lu",
   "Ll Lu Ll Lu Ll Lu Ll Lu Ll Lu Ll Lu Ll Lu Ll Lu Ll So Mn:5 Me:2 Lu Ll Lu Ll Lu Ll Lu Ll Lu Ll",
   "Lu Ll Lu Ll Lu Ll Lu Ll Lu Ll Lu Ll Lu Ll Lu Ll Lu Ll Lu Ll Lu Ll Lu Ll Lu Ll Lu Ll Lu Ll Lu",
   "Ll Lu Ll Lu Ll Lu Ll Lu Ll Lu Ll Lu Ll Lu:2 Ll Lu Ll Lu Ll Lu Ll Lu Ll Lu Ll Lu Ll:2 Lu Ll Lu",
   "Ll Lu Ll Lu Ll Lu Ll Lu Ll Lu Ll Lu Ll Lu Ll Lu Ll Lu Ll Lu Ll Lu Ll Lu Ll Lu Ll Lu Ll Lu Ll",
   "Lu Ll Lu Ll Lu Ll Lu Ll Lu Ll Lu Ll Lu Ll Lu Ll Lu Ll Lu Ll Lu Ll Lu Ll Lu Ll Lu Ll Lu Ll Lu",
   "Ll Lu Ll Lu Ll Lu Ll Lu Ll Lu Ll Lu Ll Lu Ll Lu Ll Lu Ll Lu Ll Lu Ll Lu Ll Lu Ll Lu Ll Lu Ll",
   "Cn Lu:26 Cn:2 Lm Po:6 Ll:29 Po Pd Cn:2 So:2 Sc Cn Mn:2D Pd Mn Po Mn:2 Po Mn:2 Po Mn Cn:8 Lo:1B",
   "Cn:4 Lo:4 Po:2 Cn:B Cf:6 Sm:3 Po:2 Sc Po:2 So:2 Mn:B Po Cf Po:3 Lo:20 Lm Lo:A Mn:15 Nd:A Po:4",
   "Lo:2 Mn Lo:63 Po Lo Mn:7 Cf So Mn:6 Lm:2 Mn:2 So Mn:4 Lo:2 Nd:A Lo:3 So:2 Lo Po:E Cn Cf Lo Mn",
   "Lo:1E Mn:1B Cn:2 Lo:59 Mn:B Lo Cn:E Nd:A Lo:21 Mn:9 Lm:2 So Po:3 Lm Cn:2 Mn Sc:2 Lo:16 Mn:4 Lm",
   "Mn:9 Lm Mn:3 Lm Mn:5 Cn:2 Po:F Cn Lo:19 Mn:3 Cn:2 Po Cn Lo:B Cn:5 Lo:18 Sk Lo:6 Cn Cf:2 Cn:5",
   "Mn:9 Lo:29 Lm Mn:18 Cf Mn:20 Mc Lo:36 Mn Mc Mn Lo Mc:3 Mn:8 Mc:4 Mn Mc:2 Lo Mn:7 Lo:A Mn:2",
   "Po:2 Nd:A Po Lm Lo:F Mn Mc:2 Cn Lo:8 Cn:2 Lo:2 Cn:2 Lo:16 Cn Lo:7 Cn Lo Cn:3 Lo:4 Cn:2 Mn Lo",
   "Mc:3 Mn:4 Cn:2 Mc:2 Cn:2 Mc:2 Mn Lo Cn:8 Mc Cn:4 Lo:2 Cn Lo:3 Mn:2 Cn:2 Nd:A Lo:2 Sc:2 No:6 So",
   "Sc Lo Po Mn Cn:2 Mn:2 Mc Cn Lo:6 Cn:4 Lo:2 Cn:2 Lo:16 Cn Lo:7 Cn Lo:2 Cn Lo:2 Cn Lo:2 Cn:2 Mn",
   "Cn Mc:3 Mn:2 Cn:4 Mn:2 Cn:2 Mn:3 Cn:3 Mn Cn:7 Lo:4 Cn Lo Cn:7 Nd:A Mn:2 Lo:3 Mn Po Cn:A Mn:2",
   "Mc Cn Lo:9 Cn Lo:3 Cn Lo:16 Cn Lo:7 Cn Lo:2 Cn Lo:5 Cn:2 Mn Lo Mc:3 Mn:5 Cn Mn:2 Mc Cn Mc:2 Mn",
   "Cn:2 Lo Cn:F Lo:2 Mn:2 Cn:2 Nd:A Po Sc Cn:7 Lo Mn:6 Cn Mn Mc:2 Cn Lo:8 Cn:2 Lo:2 Cn:2 Lo:16 Cn",
   "Lo:7 Cn Lo:2 Cn Lo:5 Cn:2 Mn Lo Mc Mn Mc Mn:4 Cn:2 Mc:2 Cn:2 Mc:2 Mn Cn:7 Mn:2 Mc Cn:4 Lo:2 Cn",
   "Lo:3 Mn:2 Cn:2 Nd:A So Lo No:6 Cn:A Mn Lo Cn Lo:6 Cn:3 Lo:3 Cn Lo:4 Cn:3 Lo:2 Cn Lo Cn Lo:2",
   "Cn:3 Lo:2 Cn:3 Lo:3 Cn:3 Lo:C Cn:4 Mc:2 Mn Mc:2 Cn:3 Mc:3 Cn Mc:3 Mn Cn:2 Lo Cn:6 Mc Cn:E Nd:A",
   "No:3 So:6 Sc So Cn:5 Mn Mc:3 Mn Lo:8 Cn Lo:3 Cn Lo:17 Cn Lo:10 Cn:2 Mn Lo Mn:3 Mc:4 Cn Mn:3 Cn",
   "Mn:4 Cn:7 Mn:2 Cn Lo:3 Cn:2 Lo Cn:2 Lo:2 Mn:2 Cn:2 Nd:A Cn:7 Po No:7 So Lo Mn Mc:2 Po Lo:8 Cn",
   "Lo:3 Cn Lo:17 Cn Lo:A Cn Lo:5 Cn:2 Mn Lo Mc Mn Mc:5 Cn Mn Mc:2 Cn Mc:2 Mn:2 Cn:7 Mc:2 Cn:6",
   "Lo:2 Cn Lo:2 Mn:2 Cn:2 Nd:A Cn Lo:2 Mc Cn:C Mn:2 Mc:2 Lo:9 Cn Lo:3 Cn Lo:29 Mn:2 Lo Mc:3 Mn:4",
   "Cn Mc:3 Cn Mc:3 Mn Lo So Cn:4 Lo:3 Mc No:7 Lo:3 Mn:2 Cn:2 Nd:A No:9 So Lo:6 Cn Mn Mc:2 Cn",
   "Lo:12 Cn:3 Lo:18 Cn Lo:9 Cn Lo Cn:2 Lo:7 Cn:3 Mn Cn:4 Mc:3 Mn:3 Cn Mn Cn Mc:8 Cn:6 Nd:A Cn:2",
   "Mc:2 Po Cn:C Lo:30 Mn Lo:2 Mn:7 Cn:4 Sc Lo:6 Lm Mn:8 Po Nd:A Po:2 Cn:25 Lo:2 Cn Lo Cn Lo:5 Cn",
   "Lo:18 Cn Lo Cn Lo:A Mn Lo:2 Mn:9 Lo Cn:2 Lo:5 Cn Lm Cn Mn:7 Cn Nd:A Cn:2 Lo:4 Cn:20 Lo So:3",
   "Po:F So Po So:3 Mn:2 So:6 Nd:A No:A So Mn So Mn So Mn Ps Pe Ps Pe Mc:2 Lo:8 Cn Lo:24 Cn:4 Mn:E",
   "Mc Mn:5 Po Mn:2 Lo:5 Mn:B Cn Mn:24 Cn So:8 Mn So:6 Cn So:2 Po:5 So:4 Po:2 Cn:25 Lo:2B Mc:2",
   "Mn:4 Mc Mn:6 Mc Mn:2 Mc:2 Mn:2 Lo Nd:A Po:6 Lo:6 Mc:2 Mn:2 Lo:4 Mn:3 Lo Mc:3 Lo:2 Mc:7 Lo:3",
   "Mn:4 Lo:D Mn Mc:2 Mn:2 Mc:6 Mn Lo Mc Nd:A Mc:3 Mn So:2 Lu:26 Cn Lu Cn:5 Lu Cn:2 Ll:2B Po Lm",
   "Ll:3 Lo:149 Cn Lo:4 Cn:2 Lo:7 Cn Lo Cn Lo:4 Cn:2 Lo:29 Cn Lo:4 Cn:2 Lo:21 Cn Lo:4 Cn:2 Lo:7 Cn",
   "Lo Cn Lo:4 Cn:2 Lo:F Cn Lo:39 Cn Lo:4 Cn:2 Lo:43 Cn:2 Mn:3 Po:9 No:14 Cn:3 Lo:10 So:A Cn:6",
   "Lu:56 Cn:2 Ll:6 Cn:2 Pd Lo:26C So Po Lo:11 Zs Lo:1A Ps Pe Cn:3 Lo:4B Po:3 Nl:3 Lo:8 Cn:7 Lo:12",
   "Mn:3 Mc Cn:9 Lo:13 Mn:2 Mc Po:2 Cn:9 Lo:12 Mn:2 Cn:C Lo:D Cn Lo:3 Cn Mn:2 Cn:C Lo:34 Mn:2 Mc",
   "Mn:7 Mc:8 Mn Mc:2 Mn:B Po:3 Lm Po:3 Sc Lo Mn Cn:2 Nd:A Cn:6 No:A Cn:6 Po:6 Pd Po:4 Mn:3 Cf Mn",
   "Nd:A Cn:6 Lo:23 Lm Lo:35 Cn:7 Lo:5 Mn:2 Lo:22 Mn Lo Cn:5 Lo:46 Cn:A Lo:1F Cn Mn:3 Mc:4 Mn:2",
   "Mc:3 Cn:4 Mc:2 Mn Mc:6 Mn:3 Cn:4 So Cn:3 Po:2 Nd:A Lo:1E Cn:2 Lo:5 Cn:B Lo:2C Cn:4 Lo:1A Cn:6",
   "Nd:A No Cn:3 So:22 Lo:17 Mn:2 Mc:2 Mn Cn:2 Po:2 Lo:35 Mc Mn Mc Mn:7 Cn Mn Mc Mn Mc:2 Mn:8 Mc:6",
   "Mn:A Cn:2 Mn Nd:A Cn:6 Nd:A Cn:6 Po:7 Lm Po:6 Cn:2 Mn:E Me Mn:10 Cn:31 Mn:4 Mc Lo:2F Mn Mc",
   "Mn:5 Mc Mn Mc:5 Mn Mc:2 Lo:8 Cn Po:2 Nd:A Po:7 So:A Mn:9 So:9 Po:3 Mn:2 Mc Lo:1E Mc Mn:4 Mc:2",
   "Mn:2 Mc Mn:3 Lo:2 Nd:A Lo:2C Mn Mc Mn:2 Mc:3 Mn Mc Mn:3 Mc:2 Cn:8 Po:4 Lo:24 Mc:8 Mn:8 Mc:2",
   "Mn:2 Cn:3 Po:5 Nd:A Cn:3 Lo:3 Nd:A Lo:1E Lm:6 Po:2 Ll:9 Lu Ll Cn:5 Lu:2B Cn:2 Lu:3 Po:8 Cn:8",
   "Mn:3 Po Mn:D Mc Mn:7 Lo:4 Mn Lo:6 Mn Lo:2 Mc Mn:2 Lo Cn:5 Ll:2C Lm:3F Ll:D Lm Ll:22 Lm:25",
   "Mn:40 Lu Ll Lu Ll Lu Ll Lu Ll Lu Ll Lu Ll Lu Ll Lu Ll Lu Ll Lu Ll Lu Ll Lu Ll Lu Ll Lu Ll Lu",
   "Ll Lu Ll Lu Ll Lu Ll Lu Ll Lu Ll Lu Ll Lu Ll Lu Ll Lu Ll Lu Ll Lu Ll Lu Ll Lu Ll Lu Ll Lu Ll",
   "Lu Ll Lu Ll Lu Ll Lu Ll Lu Ll Lu Ll Lu Ll Lu Ll Lu Ll Lu Ll Lu Ll Lu Ll Lu Ll Lu Ll Lu Ll Lu",
   "Ll Lu Ll Lu Ll Lu Ll Lu Ll Lu Ll Lu Ll Lu Ll Lu Ll Lu Ll Lu Ll Lu Ll Lu Ll Lu Ll Lu Ll Lu Ll",
   "Lu Ll Lu Ll Lu Ll Lu Ll Lu Ll Lu Ll Lu Ll Lu Ll Lu Ll Lu Ll Lu Ll Lu Ll Lu Ll Lu Ll:9 Lu Ll Lu",
   "Ll Lu Ll Lu Ll Lu Ll Lu Ll Lu Ll Lu Ll Lu Ll Lu Ll Lu Ll Lu Ll Lu Ll Lu Ll Lu Ll Lu Ll Lu Ll",
   "Lu Ll Lu Ll Lu Ll Lu Ll Lu Ll Lu Ll Lu Ll Lu Ll Lu Ll Lu Ll Lu Ll Lu Ll Lu Ll Lu Ll Lu Ll Lu",
   "Ll Lu Ll Lu Ll Lu Ll Lu Ll Lu Ll Lu Ll Lu Ll Lu Ll Lu Ll Lu Ll Lu Ll Lu Ll Lu Ll Lu Ll Lu Ll",
   "Lu Ll:9 Lu:8 Ll:6 Cn:2 Lu:6 Cn:2 Ll:8 Lu:8 Ll:8 Lu:8 Ll:6 Cn:2 Lu:6 Cn:2 Ll:8 Cn Lu Cn Lu Cn",
   "Lu Cn Lu Ll:8 Lu:8 Ll:E Cn:2 Ll:8 Lt:8 Ll:8 Lt:8 Ll:8 Lt:8 Ll:5 Cn Ll:2 Lu:4 Lt Sk Ll Sk:3",
   "Ll:3 Cn Ll:2 Lu:4 Lt Sk:3 Ll:4 Cn:2 Ll:2 Lu:4 Cn Sk:3 Ll:8 Lu:5 Sk:3 Cn:2 Ll:3 Cn Ll:2 Lu:4 Lt",
   "Sk:2 Cn Zs:B Cf:5 Pd:6 Po:2 Pi Pf Ps Pi:2 Pf Ps Pi Po:8 Zl Zp Cf:5 Zs Po:9 Pi Pf Po:4 Pc:2",
   "Po:3 Sm Ps Pe Po:B Sm Po Pc Po:A Zs Cf:5 Cn Cf:A No Lm Cn:2 No:6 Sm:3 Ps Pe Lm No:A Sm:3 Ps Pe",
   "Cn Lm:D Cn:3 Sc:21 Cn:F Mn:D Me:4 Mn Me:3 Mn:C Cn:F So:2 Lu So:4 Lu So:2 Ll Lu:3 Ll:2 Lu:3 Ll",
   "So Lu So:2 Sm Lu:5 So:6 Lu So Lu So Lu So Lu:4 So Ll Lu:4 Ll Lo:4 Ll So:2 Ll:2 Lu:2 Sm:5 Lu",
   "Ll:4 So Sm So:2 Ll So No:10 Nl:23 Lu Ll Nl:4 No So:2 Cn:4 Sm:5 So:5 Sm:2 So:4 Sm So:2 Sm So:2",
   "Sm So:7 Sm So:1F Sm:2 So:2 Sm So Sm So:1F Sm:10C So:8 Ps Pe Ps Pe So:14 Sm:2 So:7 Ps Pe So:51",
   "Sm So:1E Sm:19 So:28 Sm:6 So:48 Cn:16 So:B Cn:15 No:3C So:4E No:16 So:B7 Sm So:9 Sm So:36 Sm:8",
   "So:6F Sm So:F8 Ps Pe Ps Pe Ps Pe Ps Pe Ps Pe Ps Pe Ps Pe No:1E So:2C Sm:5 Ps Pe Sm:1F Ps Pe Ps",
   "Pe Ps Pe Ps Pe Ps Pe Sm:10 So:100 Sm:83 Ps Pe Ps Pe Ps Pe Ps Pe Ps Pe Ps Pe Ps Pe Ps Pe Ps Pe",
   "Ps Pe Ps Pe Sm:3F Ps Pe Ps Pe Sm:20 Ps Pe Sm:102 So:30 Sm:15 So:2 Sm:6 So:27 Cn:2 So:20 Cn",
   "So:69 Lu:30 Ll:30 Lu Ll Lu:3 Ll:2 Lu Ll Lu Ll Lu Ll Lu:4 Ll Lu Ll:2 Lu Ll:6 Lm:2 Lu:3 Ll Lu Ll",
   "Lu Ll Lu Ll Lu Ll Lu Ll Lu Ll Lu Ll Lu Ll Lu Ll Lu Ll Lu Ll Lu Ll Lu Ll Lu Ll Lu Ll Lu Ll Lu",
   "Ll Lu Ll Lu Ll Lu Ll Lu Ll Lu Ll Lu Ll Lu Ll Lu Ll Lu Ll Lu Ll Lu Ll Lu Ll Lu Ll Lu Ll Lu Ll",
   "Lu Ll Lu Ll Lu Ll Lu Ll Lu Ll Lu Ll Lu Ll Lu Ll Lu Ll Lu Ll Lu Ll Lu Ll Lu Ll Lu Ll Lu Ll Lu",
   "Ll Lu Ll:2 So:6 Lu Ll Lu Ll Mn:3 Lu Ll Cn:5 Po:4 No Po:2 Ll:26 Cn Ll Cn:5 Ll Cn:2 Lo:38 Cn:7",
   "Lm Po Cn:E Mn Lo:17 Cn:9 Lo:7 Cn Lo:7 Cn Lo:7 Cn Lo:7 Cn Lo:7 Cn Lo:7 Cn Lo:7 Cn Lo:7 Cn Mn:20",
   "Po:2 Pi Pf Pi Pf Po:3 Pi Pf Po Pi Pf Po:9 Pd Po:2 Pd Po Pi Pf Po:2 Pi Pf Ps Pe Ps Pe Ps Pe Ps",
   "Pe Po:5 Lm Po:A Pd:2 Po:4 Pd Po Ps Po:D So:2 Po:3 Ps Pe Ps Pe Ps Pe Ps Pe Pd Cn:22 So:1A Cn",
   "So:59 Cn:C So:D6 Cn:1A So:10 Zs Po:3 So Lm Lo Nl Ps Pe Ps Pe Ps Pe Ps Pe Ps Pe So:2 Ps Pe Ps",
   "Pe Ps Pe Ps Pe Pd Ps Pe:2 So Nl:9 Mn:4 Mc:2 Pd Lm:5 So:2 Nl:3 Lm Lo Po So:2 Cn Lo:56 Cn:2 Mn:2",
   "Sk:2 Lm:2 Lo Pd Lo:5A Po Lm:3 Lo Cn:5 Lo:2B Cn Lo:5E Cn So:2 No:4 So:A Lo:20 So:26 Cn:9 So",
   "Lo:10 So:1F Cn No:A So:1E No:8 So No:F So:20 No:A So:27 No:F So:140 Lo:19C0 So:40 Lo:5215 Lm",
   "Lo:477 Cn:3 So:37 Cn:9 Lo:28 Lm:6 Po:2 Lo:10C Lm Po:3 Lo:10 Nd:A Lo:2 Cn:14 Lu Ll Lu Ll Lu Ll",
   "Lu Ll Lu Ll Lu Ll Lu Ll Lu Ll Lu Ll Lu Ll Lu Ll Lu Ll Lu Ll Lu Ll Lu Ll Lu Ll Lu Ll Lu Ll Lu",
   "Ll Lu Ll Lu Ll Lu Ll Lu Ll Lo Mn Me:3 Po Mn:A Po Lm Lu Ll Lu Ll Lu Ll Lu Ll Lu Ll Lu Ll Lu Ll",
   "Lu Ll Lu Ll Lu Ll Lu Ll Lu Ll Lu Ll Lu Ll Lm:2 Mn:2 Lo:46 Nl:A Mn:2 Po:6 Cn:8 Sk:17 Lm:9 Sk:2",
   "Lu Ll Lu Ll Lu Ll Lu Ll Lu Ll Lu Ll Lu Ll:3 Lu Ll Lu Ll Lu Ll Lu Ll Lu Ll Lu Ll Lu Ll Lu Ll Lu",
   "Ll Lu Ll Lu Ll Lu Ll Lu Ll Lu Ll Lu Ll Lu Ll Lu Ll Lu Ll Lu Ll Lu Ll Lu Ll Lu Ll Lu Ll Lu Ll",
   "Lu Ll Lu Ll Lu Ll Lu Ll Lu Ll Lu Ll Lu Ll Lm Ll:8 Lu Ll Lu Ll Lu:2 Ll Lu Ll Lu Ll Lu Ll Lu Ll",
   "Lm Sk:2 Lu Ll Lu Ll Lo Lu Ll Lu Ll:3 Lu Ll Lu Ll Lu Ll Lu Ll Lu Ll Lu Ll Lu Ll Lu Ll Lu Ll Lu",
   "Ll Lu:5 Ll Lu:5 Ll Lu Ll Lu Ll Lu Ll Lu Ll Lu Ll Lu Ll Lu Ll Lu:4 Ll Lu Ll Lu:2 Ll Cn:2 Lu Ll",
   "Cn Ll Cn Ll Lu Ll Lu Ll Lu Ll Lu Cn:15 Lm:3 Lu Ll Lo Lm:2 Ll Lo:7 Mn Lo:3 Mn Lo:4 Mn Lo:17",
   "Mc:2 Mn:2 Mc So:4 Mn Cn:3 No:6 So:2 Sc So Cn:6 Lo:34 Po:4 Cn:8 Mc:2 Lo:32 Mc:10 Mn:2 Cn:8 Po:2",
   "Nd:A Cn:6 Mn:12 Lo:6 Po:3 Lo Po Lo:2 Mn Nd:A Lo:1C Mn:8 Po:2 Lo:17 Mn:B Mc:2 Cn:B Po Lo:1D",
   "Cn:3 Mn:3 Mc Lo:2F Mn Mc:2 Mn:4 Mc:2 Mn:2 Mc:3 Po:D Cn Lm Nd:A Cn:4 Po:2 Lo:5 Mn Lm Lo:9 Nd:A",
   "Lo:5 Cn Lo:29 Mn:6 Mc:2 Mn:2 Mc:2 Mn:2 Cn:9 Lo:3 Mn Lo:8 Mn Mc Cn:2 Nd:A Cn:2 Po:4 Lo:10 Lm",
   "Lo:6 So:3 Lo Mc Mn Mc Lo:32 Mn Lo Mn:3 Lo:2 Mn:2 Lo:5 Mn:2 Lo Mn Lo Cn:18 Lo:2 Lm Po:2 Lo:B Mc",
   "Mn:2 Mc:2 Po:2 Lo Lm:2 Mc Mn Cn:A Lo:6 Cn:2 Lo:6 Cn:2 Lo:6 Cn:9 Lo:7 Cn Lo:7 Cn Ll:2B Sk Lm:4",
   "Ll:9 Lm Sk:2 Cn:4 Ll:50 Lo:23 Mc:2 Mn Mc:2 Mn Mc:2 Po Mc Mn Cn:2 Nd:A Cn:6 Lo:2BA4 Cn:C Lo:17",
   "Cn:4 Lo:31 Cn:4 -:800 Co:1900 Lo:16E Cn:2 Lo:6A Cn:26 Ll:7 Cn:C Ll:5 Cn:5 Lo Mn Lo:A Sm Lo:D",
   "Cn Lo:5 Cn Lo Cn Lo:2 Cn Lo:2 Cn Lo:6C Sk:11 Cn:10 Lo:16B Pe Ps So:10 Lo:40 Cn:2 Lo:36 Cn:7 So",
   "Cn:20 Lo:C Sc So:3 Mn:10 Po:7 Ps Pe Po Cn:6 Mn:10 Po Pd:2 Pc:2 Ps Pe Ps Pe Ps Pe Ps Pe Ps Pe",
   "Ps Pe Ps Pe Ps Pe Po:2 Ps Pe Po:4 Pc:3 Po:3 Cn Po:4 Pd Ps Pe Ps Pe Ps Pe Po:3 Sm Pd Sm:3 Cn Po",
   "Sc Po:2 Cn:4 Lo:5 Cn Lo:87 Cn:2 Cf Cn Po:3 Sc Po:3 Ps Pe Po Sm Po Pd Po:2 Nd:A Po:2 Sm:3 Po:2",
   "Lu:1A Ps Po Pe Sk Pc Sk Ll:1A Ps Sm Pe Sm Ps Pe Po Ps Pe Po:2 Lo:A Lm Lo:2D Lm:2 Lo:1F Cn:3",
   "Lo:6 Cn:2 Lo:6 Cn:2 Lo:6 Cn:2 Lo:3 Cn:3 Sc:2 Sm Sk So Sc:2 Cn So Sm:4 So:2 Cn:A Cf:3 So:2 Cn:2",
   "Lo:C Cn Lo:1A Cn Lo:13 Cn Lo:2 Cn Lo:F Cn:2 Lo:E Cn:22 Lo:7B Cn:5 Po:3 Cn:4 No:2D Cn:3 So:9",
   "Nl:35 No:4 So:11 No:2 So:3 Cn So:D Cn:3 So Cn:2F So:2D Mn Cn:82 Lo:1D Cn:3 Lo:31 Cn:F Mn No:1B",
   "Cn:4 Lo:20 No:4 Cn:9 Lo:14 Nl Lo:8 Nl Cn:5 Lo:26 Mn:5 Cn:5 Lo:1E Cn Po Lo:24 Cn:4 Lo:8 Po Nl:5",
   "Cn:2A Lu:28 Ll:28 Lo:4E Cn:2 Nd:A Cn:6 Lu:24 Cn:4 Ll:24 Cn:4 Lo:28 Cn:8 Lo:34 Cn:B Po Lu:B Cn",
   "Lu:F Cn Lu:7 Cn Lu:2 Cn Ll:B Cn Ll:F Cn Ll:7 Cn Ll:2 Cn:3 Lo:34 Cn:C Lo:137 Cn:9 Lo:16 Cn:A",
   "Lo:8 Cn:18 Lm:6 Cn Lm:2A Cn Lm:9 Cn:45 Lo:6 Cn:2 Lo Cn Lo:2C Cn Lo:2 Cn:3 Lo Cn:2 Lo:17 Cn Po",
   "No:8 Lo:17 So:2 No:7 Lo:1F Cn:8 No:9 Cn:30 Lo:13 Cn Lo:2 Cn:5 No:5 Lo:16 No:6 Cn:3 Po Lo:1A",
   "Cn:5 Po Cn:40 Lo:38 Cn:4 No:2 Lo:2 No:10 Cn:2 No:2E Lo Mn:3 Cn Mn:2 Cn:5 Mn:4 Lo:4 Cn Lo:3 Cn",
   "Lo:1D Cn:2 Mn:3 Cn:4 Mn No:9 Cn:7 Po:9 Cn:7 Lo:1D No:2 Po Lo:1D No:3 Cn:20 Lo:8 So Lo:1C Mn:2",
   "Cn:4 No:5 Po:7 Cn:9 Lo:36 Cn:3 Po:7 Lo:16 Cn:2 No:8 Lo:13 Cn:5 No:8 Lo:12 Cn:7 Po:4 Cn:C No:7",
   "Cn:50 Lo:49 Cn:37 Lu:33 Cn:D Ll:33 Cn:7 No:6 Lo:24 Mn:4 Cn:8 Nd:A Cn:6 Nd:A Lo:4 Lm Lo Lu:16",
   "Cn:3 Mn:5 Pd Lm Ll:16 Cn:8 Sm:2 Cn:D0 No:1F Cn Lo:2A Cn Mn:2 Pd Cn:2 Lo:2 Cn:10 Lo:3 Cn:37",
   "Mn:4 Lo:1D No:A Lo Cn:8 Lo:16 Mn:B No:4 Po:5 Cn:16 Lo:12 Mn:4 Po:4 Cn:26 Lo:15 No:7 Cn:14",
   "Lo:17 Cn:9 Mc Mn Mc Lo:35 Mn:F Po:7 Cn:4 No:14 Nd:A Mn Lo:2 Mn:2 Lo Cn:9 Mn:3 Mc Lo:2D Mc:3",
   "Mn:4 Mc:2 Mn:2 Po:2 Cf Po:4 Mn Cn:A Cf Cn:2 Lo:19 Cn:7 Nd:A Cn:6 Mn:3 Lo:24 Mn:5 Mc Mn:8 Cn",
   "Nd:A Po:4 Lo Mc:2 Lo Cn:8 Lo:23 Mn Po:2 Lo Cn:9 Mn:2 Mc Lo:30 Mc:3 Mn:9 Mc:2 Lo:4 Po:4 Mn:4 Po",
   "Mc Mn Nd:A Lo Po Lo Po:3 Cn No:14 Cn:B Lo:12 Cn Lo:19 Mc:3 Mn:3 Mc:2 Mn Mc Mn:2 Po:6 Mn Lo:2",
   "Mn Cn:3E Lo:7 Cn Lo Cn Lo:4 Cn Lo:F Cn Lo:A Po Cn:6 Lo:2F Mn Mc:3 Mn:8 Cn:5 Nd:A Cn:6 Mn:2",
   "Mc:2 Cn Lo:8 Cn:2 Lo:2 Cn:2 Lo:16 Cn Lo:7 Cn Lo:2 Cn Lo:5 Cn Mn:2 Lo Mc:2 Mn Mc:4 Cn:2 Mc:2",
   "Cn:2 Mc:3 Cn:2 Lo Cn:6 Mc Cn:5 Lo:5 Mc:2 Cn:2 Mn:7 Cn:3 Mn:5 Cn:B Lo:A Cn Lo Cn:2 Lo Cn Lo:26",
   "Cn Lo Mc:3 Mn:6 Cn Mc Cn:2 Mc Cn Mc:4 Cn Mc:2 Mn Mc Mn Lo Mn Lo Po:2 Cn Po:2 Cn:8 Mn:2 Cn:1D",
   "Lo:35 Mc:3 Mn:8 Mc:2 Mn:3 Mc Mn Lo:4 Po:5 Nd:A Po:2 Cn Po Mn Lo:3 Cn:1E Lo:30 Mc:3 Mn:6 Mc Mn",
   "Mc:4 Mn:2 Mc Mn:2 Lo:2 Po Lo Cn:8 Nd:A Cn:A6 Lo:2F Mc:3 Mn:4 Cn:2 Mc:4 Mn:2 Mc Mn:2 Po:17 Lo:4",
   "Mn:2 Cn:22 Lo:30 Mc:3 Mn:8 Mc:2 Mn Mc Mn:2 Po:3 Lo Cn:B Nd:A Cn:6 Po:D Cn:13 Lo:2B Mn Mc Mn",
   "Mc:2 Mn:6 Mc Mn Lo Po Cn:6 Nd:A Cn:6 Nd:14 Cn:1C Lo:1B Cn:2 Mn Mc Mn Mc:2 Mn:4 Mc Mn:5 Cn:4",
   "Nd:A No:2 Po:3 So Lo:7 Cn:B9 Lo:2C Mc:3 Mn:9 Mc Mn:2 Po Cn:64 Lu:20 Ll:20 Nd:A No:9 Cn:C Lo:8",
   "Cn:2 Lo Cn:2 Lo:8 Cn Lo:2 Cn Lo:18 Mc:6 Cn Mc:2 Cn:2 Mn:2 Mc Mn Lo Mc Lo Mc Mn Po:3 Cn:9 Nd:A",
   "Cn:46 Lo:8 Cn:2 Lo:27 Mc:3 Mn:4 Cn:2 Mn:2 Mc:4 Mn Lo Po Lo Mc Cn:1B Lo Mn:A Lo:28 Mn:6 Mc Lo",
   "Mn:4 Po:8 Mn Cn:8 Lo Mn:6 Mc:2 Mn:3 Lo:2E Mn:D Mc Mn:2 Po:3 Lo Po:5 Cn:D Lo:49 Cn:7 Po:A Cn:B6",
   "Lo:21 Po Cn:E Nd:A Cn:6 Lo:9 Cn Lo:25 Mc Mn:7 Cn Mn:6 Mc Mn Lo Po:5 Cn:A Nd:A No:13 Cn:3 Po:2",
   "Lo:1E Cn:2 Mn:16 Cn Mc Mn:7 Mc Mn:2 Mc Mn:2 Cn:49 Lo:7 Cn Lo:2 Cn Lo:26 Mn:6 Cn:3 Mn Cn Mn:2",
   "Cn Mn:7 Lo Mn Cn:8 Nd:A Cn:6 Lo:6 Cn Lo:2 Cn Lo:20 Mc:5 Cn Mn:2 Cn Mc:2 Mn Mc Mn Lo Cn:7 Nd:A",
   "Cn:136 Lo:13 Mn:2 Mc:2 Po:2 Cn:7 Mn:2 Lo Mc Lo:D Cn Lo:22 Mc:2 Mn:5 Cn:3 Mc:2 Mn Mc Mn Po:D",
   "Nd:A Mn Cn:55 Lo Cn:F No:15 So:8 Sc:4 So:11 Cn:D Po Lo:39A Cn:66 Nl:6F Cn Po:5 Cn:B Lo:C4",
   "Cn:A4C Lo:61 Po:2 Cn:D Lo:430 Cf:10 Mn Lo:6 Mn:F Cn:A Lo:F9B Cn:5 Lo:247 Cn:1AB9 Lo:1E Mn:C",
   "Mc:3 Mn:3 Nd:A Cn:6C6 Lo:239 Cn:7 Lo:1F Cn Nd:A Cn:4 Po:2 Lo:4F Cn Nd:A Cn:6 Lo:1E Cn:2 Mn:5",
   "Po Cn:A Lo:30 Mn:7 Po:5 So:4 Lm:4 Po So Cn:A Nd:A Cn No:7 Cn Lo:15 Cn:5 Lo:13 Cn:1B0 Lm:3",
   "Lo:28 Lm:2 Po:3 Nd:A Cn:C6 Lu:20 Ll:20 No:17 Po:4 Cn:65 Lo:4B Cn:4 Mn Lo Mc:37 Cn:7 Mn:4 Lm:D",
   "Cn:40 Lm:2 Po Lm Mn Cn:B Mc:2 Cn:E Lo:17F8 Cn:8 Lo:4D6 Cn:29 Lo:A Cn:22E7 Lm:4 Cn Lm:7 Cn Lm:2",
   "Cn Lo:123 Cn:F Lo Cn:1D Lo:3 Cn:2 Lo Cn:E Lo:4 Cn:8 Lo:18C Cn:904 Lo:6B Cn:5 Lo:D Cn:3 Lo:9",
   "Cn:7 Lo:A Cn:2 So Mn:2 Po Cf:4 Cn:F5C So:F0 Nd:A Cn:6 So:1B4 Cn:4C Mn:2E Cn:2 Mn:17 Cn:9 So:74",
   "Cn:3C So:F6 Cn:A So:27 Cn:2 So:3C Mc:2 Mn:3 So:3 Mc:6 Cf:8 Mn:8 So:2 Mn:7 So:1E Mn:4 So:3D",
   "Cn:15 So:42 Mn:3 So Cn:7A No:14 Cn:C No:14 Cn:C So:57 Cn:9 No:19 Cn:87 Lu:1A Ll:1A Lu:1A Ll:7",
   "Cn Ll:12 Lu:1A Ll:1A Lu Cn Lu:2 Cn:2 Lu Cn:2 Lu:2 Cn:2 Lu:4 Cn Lu:8 Ll:4 Cn Ll Cn Ll:7 Cn Ll:B",
   "Lu:1A Ll:1A Lu:2 Cn Lu:4 Cn:2 Lu:8 Cn Lu:7 Cn Ll:1A Lu:2 Cn Lu:4 Cn Lu:5 Cn Lu Cn:3 Lu:7 Cn",
   "Ll:1A Lu:1A Ll:1A Lu:1A Ll:1A Lu:1A Ll:1A Lu:1A Ll:1A Lu:1A Ll:1A Lu:1A Ll:1C Cn:2 Lu:19 Sm",
   "Ll:19 Sm Ll:6 Lu:19 Sm Ll:19 Sm Ll:6 Lu:19 Sm Ll:19 Sm Ll:6 Lu:19 Sm Ll:19 Sm Ll:6 Lu:19 Sm",
   "Ll:19 Sm Ll:6 Lu Ll Cn:2 Nd:32 So:200 Mn:37 So:4 Mn:32 So:8 Mn So:E Mn So:2 Po:5 Cn:F Mn:5 Cn",
   "Mn:F Cn:450 Ll:A Lo Ll:14 Cn:6 Ll:6 Cn:D5 Mn:7 Cn Mn:11 Cn:2 Mn:7 Cn Mn:2 Cn Mn:5 Cn:5 Lm:3E",
   "Cn:21 Mn Cn:70 Lo:2D Cn:3 Mn:7 Lm:7 Cn:2 Nd:A Cn:4 Lo So Cn:140 Lo:1E Mn Cn:11 Lo:2C Mn:4 Nd:A",
   "Cn:5 Sc Cn:1D0 Lo:1B Lm Mn:4 Nd:A Cn:D6 Lo:1E Mn:2 Lo Nd:A Cn:4 Po Cn:1E0 Lo:7 Cn Lo:4 Cn Lo:2",
   "Cn Lo:F Cn Lo:C5 Cn:2 No:9 Mn:7 Cn:29 Lu:22 Ll:22 Mn:7 Lm Cn:4 Nd:A Cn:4 Po:2 Cn:311 No:3B So",
   "No:3 Sc No:4 Cn:4C No:2D So No:F Cn:C2 Lo:4 Cn Lo:1B Cn Lo:2 Cn Lo Cn:2 Lo Cn Lo:A Cn Lo:4 Cn",
   "Lo Cn Lo Cn:6 Lo Cn:4 Lo Cn Lo Cn Lo Cn Lo:3 Cn Lo:2 Cn Lo Cn:2 Lo Cn Lo Cn Lo Cn Lo Cn Lo Cn",
   "Lo:2 Cn Lo Cn:2 Lo:4 Cn Lo:7 Cn Lo:4 Cn Lo:4 Cn Lo Cn Lo:A Cn Lo:11 Cn:5 Lo:3 Cn Lo:5 Cn Lo:11",
   "Cn:34 Sm:2 Cn:10E So:2C Cn:4 So:64 Cn:C So:F Cn:2 So:F Cn So:F Cn So:25 Cn:A No:D So:A1 Cn:38",
   "So:1D Cn:D So:2C Cn:4 So:9 Cn:7 So:2 Cn:E So:6 Cn:9A So:FB Sk:5 So:2D8 Cn:4 So:11 Cn:3 So:D",
   "Cn:3 So:77 Cn:4 So:5F Cn:6 So:C Cn:4 So Cn:F So:C Cn:4 So:38 Cn:8 So:A Cn:6 So:28 Cn:8 So:1E",
   "Cn:2 So:C Cn:4 So:2 Cn:3E So:154 Cn:C So:E Cn:2 So:D Cn:3 So:A Cn:5 So:38 Cn:7 So:F Cn:2 So:B",
   "Cn:6 So:9 Cn:7 So:93 Cn So:5C Nd:A Cn:406 Lo:A6E0 Cn:20 Lo:103A Cn:6 Lo:DE Cn:2 Lo:1682 Cn:E",
   "Lo:1D31 Cn:F Lo:26E Cn:9A2 Lo:21E Cn:5E2 Lo:134B Cn:5 Lo:1060 Cn:ADC51 Cf Cn:1E Cf:60 Cn:80",
   "Mn:F0 Cn:FE10 Co:FFFE Cn:2 Co:FFFE Cn:2"]

/-- The characters of some categories. -/
def CharSet.category (codes : List String) : CharSet :=
  .ofRuns codes.contains (Run.ofLines categoryTable)

/-- The names of each category or group of categories. -/
def categoryNames : List (List String × List String) :=
  [(["c", "other"], ["Cc", "Cf", "Cn", "Co"]),
   (["cc", "control", "cntrl"], ["Cc"]),
   (["cf", "format"], ["Cf"]),
   (["cn", "unassigned"], ["Cn"]),
   (["co", "privateuse"], ["Co"]),
   (["l", "letter"], ["Ll", "Lm", "Lo", "Lt", "Lu"]),
   (["lc", "casedletter"], ["Ll", "Lt", "Lu"]),
   (["ll", "lowercaseletter"], ["Ll"]),
   (["lm", "modifierletter"], ["Lm"]),
   (["lo", "otherletter"], ["Lo"]),
   (["lt", "titlecaseletter"], ["Lt"]),
   (["lu", "uppercaseletter"], ["Lu"]),
   (["m", "mark", "combiningmark"], ["Mc", "Me", "Mn"]),
   (["mc", "spacingmark"], ["Mc"]),
   (["me", "enclosingmark"], ["Me"]),
   (["mn", "nonspacingmark"], ["Mn"]),
   (["n", "number"], ["Nd", "Nl", "No"]),
   (["nd", "decimalnumber", "digit"], ["Nd"]),
   (["nl", "letternumber"], ["Nl"]),
   (["no", "othernumber"], ["No"]),
   (["p", "punctuation", "punct"], ["Pc", "Pd", "Pe", "Pf", "Pi", "Po", "Ps"]),
   (["pc", "connectorpunctuation"], ["Pc"]),
   (["pd", "dashpunctuation"], ["Pd"]),
   (["pe", "closepunctuation"], ["Pe"]),
   (["pf", "finalpunctuation"], ["Pf"]),
   (["pi", "initialpunctuation"], ["Pi"]),
   (["po", "otherpunctuation"], ["Po"]),
   (["ps", "openpunctuation"], ["Ps"]),
   (["s", "symbol"], ["Sc", "Sk", "Sm", "So"]),
   (["sc", "currencysymbol"], ["Sc"]),
   (["sk", "modifiersymbol"], ["Sk"]),
   (["sm", "mathsymbol"], ["Sm"]),
   (["so", "othersymbol"], ["So"]),
   (["z", "separator"], ["Zl", "Zp", "Zs"]),
   (["zl", "lineseparator"], ["Zl"]),
   (["zp", "paragraphseparator"], ["Zp"]),
   (["zs", "spaceseparator"], ["Zs"])]

end Ambient
