import LayeredSchema.Unicode.Table

/-!
What each code point counts as where a text is divided into clusters of characters, words and
sentences. A value stands under its short name; code points without a value are like any other.
-/

namespace LayeredSchema.Unicode.Break

/-- The values of `Grapheme_Cluster_Break`, each with its loose names. -/
def clusterNames : List (String × List String) :=
  [("CN", ["cn", "control"]), ("CR", ["cr"]), ("EX", ["ex", "extend"]), ("L", ["l"]),
   ("LF", ["lf"]), ("LV", ["lv"]), ("LVT", ["lvt"]), ("PP", ["pp", "prepend"]),
   ("RI", ["regionalindicator", "ri"]), ("SM", ["sm", "spacingmark"]), ("T", ["t"]), ("V", ["v"]),
   ("ZWJ", ["zwj"])]

def clusterText : String :=
  "CN:a LF:1 CN:2 CR:1 CN:12 :5f CN:21 :d CN:1 :252 EX:70 :113 EX:7 :107 EX:2d :1 EX:1 :1 EX:2
   :1 EX:2 :1 EX:1 :38 PP:6 :a EX:b :1 CN:1 :2e EX:15 :10 EX:1 :65 EX:7 PP:1 :1 EX:6 :2 EX:2 :1
   EX:4 :21 PP:1 :1 EX:1 :1e EX:1b :5b EX:b :3a EX:9 :9 EX:1 :18 EX:4 :1 EX:9 :1 EX:3 :1 EX:5
   :2b EX:3 :34 PP:2 :5 EX:9 :2a EX:18 PP:1 EX:20 SM:1 :36 EX:1 SM:1 EX:1 :1 SM:3 EX:8 SM:4
   EX:1 SM:2 :1 EX:7 :a EX:2 :1d EX:1 SM:2 :38 EX:1 :1 EX:1 SM:2 EX:4 :2 SM:2 :2 SM:2 EX:1 :9
   EX:1 :a EX:2 :1a EX:1 :2 EX:2 SM:1 :38 EX:1 :1 SM:3 EX:2 :4 EX:2 :2 EX:3 :3 EX:1 :1e EX:2 :3
   EX:1 :b EX:2 SM:1 :38 EX:1 :1 SM:3 EX:5 :1 EX:2 SM:1 :1 SM:2 EX:1 :14 EX:2 :16 EX:6 :1 EX:1
   SM:2 :38 EX:1 :1 EX:2 SM:1 EX:4 :2 SM:2 :2 SM:2 EX:1 :7 EX:3 :a EX:2 :1e EX:1 :3b EX:1 SM:1
   EX:1 SM:2 :3 SM:3 :1 SM:3 EX:1 :9 EX:1 :28 EX:1 SM:3 EX:1 :37 EX:1 :1 EX:3 SM:4 :1 EX:3 :1
   EX:4 :7 EX:2 :b EX:2 :1d EX:1 SM:2 :38 EX:1 :1 SM:1 EX:2 SM:1 EX:1 SM:2 :1 EX:3 :1 EX:4 :7
   EX:2 :b EX:2 :f SM:1 :c EX:2 SM:2 :37 EX:2 :1 EX:1 SM:2 EX:4 :1 SM:3 :1 SM:3 EX:1 PP:1 :8
   EX:1 :a EX:2 :1d EX:1 SM:2 :46 EX:1 :4 EX:1 SM:2 EX:3 :1 EX:1 :1 SM:7 EX:1 :12 SM:2 :3d EX:1
   :1 SM:1 EX:7 :c EX:8 :62 EX:1 :1 SM:1 EX:9 :b EX:7 :49 EX:2 :1b EX:1 :1 EX:1 :1 EX:1 :4 SM:2
   :31 EX:e SM:1 EX:5 :1 EX:2 :5 EX:b :1 EX:24 :9 EX:1 :66 EX:4 SM:1 EX:6 :1 EX:2 SM:2 EX:2 :17
   SM:2 EX:2 :4 EX:3 :10 EX:4 :d EX:1 :1 SM:1 EX:2 :6 EX:1 :f EX:1 :62 L:60 V:48 T:58 :15d EX:3
   :3b2 EX:4 :1c EX:3 :1d EX:2 :1e EX:2 :40 EX:2 SM:1 EX:7 SM:8 EX:1 SM:2 EX:b :9 EX:1 :2d EX:3
   CN:1 EX:1 :75 EX:2 :22 EX:1 :76 EX:3 SM:4 EX:2 SM:3 :4 SM:2 EX:1 SM:6 EX:3 :db EX:2 SM:2
   EX:1 :39 SM:1 EX:1 SM:1 EX:7 :1 EX:1 :1 EX:1 :2 EX:8 SM:6 EX:a :2 EX:1 :30 EX:1f :31 EX:4
   SM:1 :2f EX:a SM:4 EX:3 :26 EX:9 :c EX:2 SM:1 :1e SM:1 EX:4 SM:2 EX:6 :38 EX:1 SM:1 EX:2
   SM:3 EX:1 SM:1 EX:5 :30 SM:8 EX:8 SM:2 EX:2 :98 EX:3 :1 EX:d SM:1 EX:7 :4 EX:1 :6 EX:1 :2
   SM:1 EX:2 :c6 EX:40 :20b CN:1 EX:1 ZWJ:1 CN:2 :18 CN:7 :31 CN:10 :60 EX:21 :bfe EX:3 :8d
   EX:1 :60 EX:20 :22a EX:6 :69 EX:2 :75d4 EX:4 :1 EX:a :20 EX:2 :50 EX:2 :110 EX:1 :3 EX:1 :4
   EX:1 :17 SM:2 EX:2 SM:1 :4 EX:1 :53 SM:2 :32 SM:10 EX:2 :1a EX:12 :d EX:1 :26 EX:8 :19 EX:b
   SM:1 EX:1 :c L:1d :3 EX:3 SM:1 :2f EX:1 SM:2 EX:4 SM:2 EX:2 SM:2 EX:1 :24 EX:1 :43 EX:6 SM:2
   EX:2 SM:2 EX:2 :c EX:1 :8 EX:1 SM:1 :2e EX:1 :33 EX:1 :1 EX:3 :2 EX:2 :5 EX:2 :1 EX:1 :29
   SM:1 EX:2 SM:2 :5 SM:1 EX:1 :ec SM:2 EX:1 SM:2 EX:1 SM:2 :1 SM:1 EX:1 :12 LV:1 LVT:1b LV:1
   LVT:1b LV:1 LVT:1b LV:1 LVT:1b LV:1 LVT:1b LV:1 LVT:1b LV:1 LVT:1b LV:1 LVT:1b LV:1 LVT:1b
   LV:1 LVT:1b LV:1 LVT:1b LV:1 LVT:1b LV:1 LVT:1b LV:1 LVT:1b LV:1 LVT:1b LV:1 LVT:1b LV:1
   LVT:1b LV:1 LVT:1b LV:1 LVT:1b LV:1 LVT:1b LV:1 LVT:1b LV:1 LVT:1b LV:1 LVT:1b LV:1 LVT:1b
   LV:1 LVT:1b LV:1 LVT:1b LV:1 LVT:1b LV:1 LVT:1b LV:1 LVT:1b LV:1 LVT:1b LV:1 LVT:1b LV:1
   LVT:1b LV:1 LVT:1b LV:1 LVT:1b LV:1 LVT:1b LV:1 LVT:1b LV:1 LVT:1b LV:1 LVT:1b LV:1 LVT:1b
   LV:1 LVT:1b LV:1 LVT:1b LV:1 LVT:1b LV:1 LVT:1b LV:1 LVT:1b LV:1 LVT:1b LV:1 LVT:1b LV:1
   LVT:1b LV:1 LVT:1b LV:1 LVT:1b LV:1 LVT:1b LV:1 LVT:1b LV:1 LVT:1b LV:1 LVT:1b LV:1 LVT:1b
   LV:1 LVT:1b LV:1 LVT:1b LV:1 LVT:1b LV:1 LVT:1b LV:1 LVT:1b LV:1 LVT:1b LV:1 LVT:1b LV:1
   LVT:1b LV:1 LVT:1b LV:1 LVT:1b LV:1 LVT:1b LV:1 LVT:1b LV:1 LVT:1b LV:1 LVT:1b LV:1 LVT:1b
   LV:1 LVT:1b LV:1 LVT:1b LV:1 LVT:1b LV:1 LVT:1b LV:1 LVT:1b LV:1 LVT:1b LV:1 LVT:1b LV:1
   LVT:1b LV:1 LVT:1b LV:1 LVT:1b LV:1 LVT:1b LV:1 LVT:1b LV:1 LVT:1b LV:1 LVT:1b LV:1 LVT:1b
   LV:1 LVT:1b LV:1 LVT:1b LV:1 LVT:1b LV:1 LVT:1b LV:1 LVT:1b LV:1 LVT:1b LV:1 LVT:1b LV:1
   LVT:1b LV:1 LVT:1b LV:1 LVT:1b LV:1 LVT:1b LV:1 LVT:1b LV:1 LVT:1b LV:1 LVT:1b LV:1 LVT:1b
   LV:1 LVT:1b LV:1 LVT:1b LV:1 LVT:1b LV:1 LVT:1b LV:1 LVT:1b LV:1 LVT:1b LV:1 LVT:1b LV:1
   LVT:1b LV:1 LVT:1b LV:1 LVT:1b LV:1 LVT:1b LV:1 LVT:1b LV:1 LVT:1b LV:1 LVT:1b LV:1 LVT:1b
   LV:1 LVT:1b LV:1 LVT:1b LV:1 LVT:1b LV:1 LVT:1b LV:1 LVT:1b LV:1 LVT:1b LV:1 LVT:1b LV:1
   LVT:1b LV:1 LVT:1b LV:1 LVT:1b LV:1 LVT:1b LV:1 LVT:1b LV:1 LVT:1b LV:1 LVT:1b LV:1 LVT:1b
   LV:1 LVT:1b LV:1 LVT:1b LV:1 LVT:1b LV:1 LVT:1b LV:1 LVT:1b LV:1 LVT:1b LV:1 LVT:1b LV:1
   LVT:1b LV:1 LVT:1b LV:1 LVT:1b LV:1 LVT:1b LV:1 LVT:1b LV:1 LVT:1b LV:1 LVT:1b LV:1 LVT:1b
   LV:1 LVT:1b LV:1 LVT:1b LV:1 LVT:1b LV:1 LVT:1b LV:1 LVT:1b LV:1 LVT:1b LV:1 LVT:1b LV:1
   LVT:1b LV:1 LVT:1b LV:1 LVT:1b LV:1 LVT:1b LV:1 LVT:1b LV:1 LVT:1b LV:1 LVT:1b LV:1 LVT:1b
   LV:1 LVT:1b LV:1 LVT:1b LV:1 LVT:1b LV:1 LVT:1b LV:1 LVT:1b LV:1 LVT:1b LV:1 LVT:1b LV:1
   LVT:1b LV:1 LVT:1b LV:1 LVT:1b LV:1 LVT:1b LV:1 LVT:1b LV:1 LVT:1b LV:1 LVT:1b LV:1 LVT:1b
   LV:1 LVT:1b LV:1 LVT:1b LV:1 LVT:1b LV:1 LVT:1b LV:1 LVT:1b LV:1 LVT:1b LV:1 LVT:1b LV:1
   LVT:1b LV:1 LVT:1b LV:1 LVT:1b LV:1 LVT:1b LV:1 LVT:1b LV:1 LVT:1b LV:1 LVT:1b LV:1 LVT:1b
   LV:1 LVT:1b LV:1 LVT:1b LV:1 LVT:1b LV:1 LVT:1b LV:1 LVT:1b LV:1 LVT:1b LV:1 LVT:1b LV:1
   LVT:1b LV:1 LVT:1b LV:1 LVT:1b LV:1 LVT:1b LV:1 LVT:1b LV:1 LVT:1b LV:1 LVT:1b LV:1 LVT:1b
   LV:1 LVT:1b LV:1 LVT:1b LV:1 LVT:1b LV:1 LVT:1b LV:1 LVT:1b LV:1 LVT:1b LV:1 LVT:1b LV:1
   LVT:1b LV:1 LVT:1b LV:1 LVT:1b LV:1 LVT:1b LV:1 LVT:1b LV:1 LVT:1b LV:1 LVT:1b LV:1 LVT:1b
   LV:1 LVT:1b LV:1 LVT:1b LV:1 LVT:1b LV:1 LVT:1b LV:1 LVT:1b LV:1 LVT:1b LV:1 LVT:1b LV:1
   LVT:1b LV:1 LVT:1b LV:1 LVT:1b LV:1 LVT:1b LV:1 LVT:1b LV:1 LVT:1b LV:1 LVT:1b LV:1 LVT:1b
   LV:1 LVT:1b LV:1 LVT:1b LV:1 LVT:1b LV:1 LVT:1b LV:1 LVT:1b LV:1 LVT:1b LV:1 LVT:1b LV:1
   LVT:1b LV:1 LVT:1b LV:1 LVT:1b LV:1 LVT:1b LV:1 LVT:1b LV:1 LVT:1b LV:1 LVT:1b LV:1 LVT:1b
   LV:1 LVT:1b LV:1 LVT:1b LV:1 LVT:1b LV:1 LVT:1b LV:1 LVT:1b LV:1 LVT:1b LV:1 LVT:1b LV:1
   LVT:1b LV:1 LVT:1b LV:1 LVT:1b LV:1 LVT:1b LV:1 LVT:1b LV:1 LVT:1b LV:1 LVT:1b LV:1 LVT:1b
   LV:1 LVT:1b LV:1 LVT:1b LV:1 LVT:1b LV:1 LVT:1b LV:1 LVT:1b LV:1 LVT:1b LV:1 LVT:1b LV:1
   LVT:1b LV:1 LVT:1b LV:1 LVT:1b LV:1 LVT:1b LV:1 LVT:1b LV:1 LVT:1b LV:1 LVT:1b LV:1 LVT:1b
   LV:1 LVT:1b LV:1 LVT:1b LV:1 LVT:1b LV:1 LVT:1b LV:1 LVT:1b LV:1 LVT:1b LV:1 LVT:1b LV:1
   LVT:1b LV:1 LVT:1b LV:1 LVT:1b LV:1 LVT:1b LV:1 LVT:1b LV:1 LVT:1b LV:1 LVT:1b LV:1 LVT:1b
   LV:1 LVT:1b LV:1 LVT:1b LV:1 LVT:1b LV:1 LVT:1b LV:1 LVT:1b LV:1 LVT:1b LV:1 LVT:1b LV:1
   LVT:1b LV:1 LVT:1b LV:1 LVT:1b LV:1 LVT:1b LV:1 LVT:1b LV:1 LVT:1b LV:1 LVT:1b LV:1 LVT:1b
   LV:1 LVT:1b LV:1 LVT:1b LV:1 LVT:1b LV:1 LVT:1b LV:1 LVT:1b LV:1 LVT:1b LV:1 LVT:1b LV:1
   LVT:1b LV:1 LVT:1b LV:1 LVT:1b LV:1 LVT:1b LV:1 LVT:1b LV:1 LVT:1b LV:1 LVT:1b LV:1 LVT:1b
   LV:1 LVT:1b LV:1 LVT:1b LV:1 LVT:1b LV:1 LVT:1b LV:1 LVT:1b LV:1 LVT:1b LV:1 LVT:1b LV:1
   LVT:1b LV:1 LVT:1b LV:1 LVT:1b LV:1 LVT:1b LV:1 LVT:1b LV:1 LVT:1b LV:1 LVT:1b LV:1 LVT:1b
   LV:1 LVT:1b LV:1 LVT:1b LV:1 LVT:1b LV:1 LVT:1b LV:1 LVT:1b LV:1 LVT:1b LV:1 LVT:1b LV:1
   LVT:1b LV:1 LVT:1b LV:1 LVT:1b LV:1 LVT:1b LV:1 LVT:1b LV:1 LVT:1b LV:1 LVT:1b LV:1 LVT:1b
   LV:1 LVT:1b LV:1 LVT:1b LV:1 LVT:1b LV:1 LVT:1b LV:1 LVT:1b LV:1 LVT:1b LV:1 LVT:1b LV:1
   LVT:1b LV:1 LVT:1b LV:1 LVT:1b LV:1 LVT:1b LV:1 LVT:1b LV:1 LVT:1b LV:1 LVT:1b LV:1 LVT:1b
   LV:1 LVT:1b LV:1 LVT:1b LV:1 LVT:1b LV:1 LVT:1b LV:1 LVT:1b LV:1 LVT:1b LV:1 LVT:1b LV:1
   LVT:1b LV:1 LVT:1b LV:1 LVT:1b LV:1 LVT:1b LV:1 LVT:1b LV:1 LVT:1b LV:1 LVT:1b LV:1 LVT:1b
   LV:1 LVT:1b LV:1 LVT:1b LV:1 LVT:1b LV:1 LVT:1b LV:1 LVT:1b LV:1 LVT:1b LV:1 LVT:1b LV:1
   LVT:1b LV:1 LVT:1b LV:1 LVT:1b LV:1 LVT:1b LV:1 LVT:1b LV:1 LVT:1b LV:1 LVT:1b LV:1 LVT:1b
   :c V:17 :4 T:31 :2322 EX:1 :2e1 EX:10 :10 EX:10 :cf CN:1 :9e EX:2 :50 CN:c :201 EX:1 :e2
   EX:1 :95 EX:5 :686 EX:3 :1 EX:2 :5 EX:4 :28 EX:3 :4 EX:1 :a5 EX:2 :23d EX:4 :41 EX:5 :13d
   EX:2 :4f EX:4 :46 EX:b :31 EX:4 :7a SM:1 EX:1 SM:1 :35 EX:f :29 EX:1 :2 EX:2 :a EX:3 SM:1
   :2d SM:3 EX:4 SM:2 EX:2 :2 PP:1 :4 EX:1 :a PP:1 :32 EX:3 :24 EX:5 SM:1 EX:8 :10 SM:2 :2c
   EX:1 :c EX:2 SM:1 :30 SM:3 EX:9 SM:1 EX:1 :1 PP:2 :5 EX:4 :1 SM:1 EX:1 :5c SM:3 EX:3 SM:2
   EX:4 :6 EX:1 :2 EX:1 :9d EX:1 SM:3 EX:8 :15 EX:2 SM:2 :37 EX:2 :1 EX:1 SM:1 EX:1 SM:4 :2
   SM:2 :2 SM:2 EX:1 :9 EX:1 :a SM:2 :2 EX:7 :3 EX:5 :43 EX:1 SM:2 EX:6 :1 EX:1 :2 EX:1 :1 EX:3
   SM:1 :1 SM:2 EX:3 PP:1 EX:1 :e EX:2 :52 SM:3 EX:8 SM:2 EX:3 SM:1 EX:1 :17 EX:1 :51 EX:1 SM:2
   EX:6 SM:1 EX:1 SM:2 EX:1 SM:1 EX:2 SM:1 EX:2 :eb EX:1 SM:2 EX:4 :2 SM:4 EX:2 SM:1 EX:2 :1b
   EX:2 :52 SM:3 EX:8 SM:2 EX:1 SM:1 EX:2 :6a EX:1 SM:1 EX:1 SM:2 EX:8 :65 EX:1 SM:1 EX:1 :2
   EX:4 SM:1 EX:5 :100 SM:3 EX:9 SM:1 EX:2 :f5 EX:1 SM:5 :1 SM:2 :2 EX:4 PP:1 SM:1 PP:1 SM:1
   EX:1 :8d SM:3 EX:4 :2 EX:2 SM:4 EX:1 :3 SM:1 :1c EX:a :28 EX:6 SM:1 PP:1 EX:4 :8 EX:1 :9
   EX:6 SM:2 EX:3 :28 PP:6 EX:d SM:1 EX:2 :195 SM:1 EX:7 :1 EX:6 SM:1 EX:1 :52 EX:16 :1 SM:1
   EX:7 SM:1 EX:2 SM:1 EX:2 :7a EX:6 :3 EX:1 :1 EX:2 :1 EX:7 PP:1 EX:1 :42 SM:5 :1 EX:2 :1 SM:2
   EX:1 SM:1 EX:1 :15b EX:2 SM:2 :9 EX:2 PP:1 SM:1 :30 SM:2 EX:5 :3 SM:2 EX:3 :17 EX:1 :14d5
   CN:10 EX:1 :6 EX:f :2cc8 EX:c SM:3 EX:3 :9c0 EX:5 :3b EX:7 :22c V:1 :3 V:4 :1e4 EX:1 :1
   SM:37 :7 EX:4 :51 EX:1 :b EX:2 :4cab EX:2 :1 CN:4 :125c EX:2e :2 EX:17 :21e EX:5 :3 EX:6
   CN:8 EX:8 :2 EX:7 :1e EX:4 :94 EX:3 :7bb EX:37 :4 EX:32 :8 EX:1 :e EX:1 :16 EX:5 :1 EX:f
   :550 EX:7 :1 EX:11 :2 EX:7 :1 EX:2 :1 EX:5 :64 EX:1 :a0 EX:7 :177 EX:1 :3d EX:4 :1fc EX:4
   :fe EX:2 :2e0 EX:7 :6d EX:7 :89b RI:1a :1fb EX:5 :c0c00 CN:20 EX:60 CN:80 EX:f0 CN:e10
   :2f000"

/-- The lengths of the runs of code points that count alike where clusters of characters end. -/
def clusterRuns : List (Nat × List String) := readListedRuns clusterText

/-- The values of `Word_Break`, each with its loose names. -/
def wordNames : List (String × List String) :=
  [("CR", ["cr"]), ("DQ", ["doublequote", "dq"]), ("EX", ["ex", "extendnumlet"]),
   ("Extend", ["extend"]), ("FO", ["fo", "format"]), ("HL", ["hebrewletter", "hl"]),
   ("KA", ["ka", "katakana"]), ("LE", ["aletter", "le"]), ("LF", ["lf"]),
   ("MB", ["mb", "midnumlet"]), ("ML", ["midletter", "ml"]), ("MN", ["midnum", "mn"]),
   ("NL", ["newline", "nl"]), ("NU", ["nu", "numeric"]), ("RI", ["regionalindicator", "ri"]),
   ("SQ", ["singlequote", "sq"]), ("WSegSpace", ["wsegspace"]), ("ZWJ", ["zwj"])]

def wordText : String :=
  ":a LF:1 NL:2 CR:1 :12 WSegSpace:1 :1 DQ:1 :4 SQ:1 :4 MN:1 :1 MB:1 :1 NU:a ML:1 MN:1 :5 LE:1a
   :4 EX:1 :1 LE:1a :a NL:1 :24 LE:1 :2 FO:1 :7 LE:1 :1 ML:1 :2 LE:1 :5 LE:17 :1 LE:1f :1
   LE:1e0 :6 LE:22 Extend:70 LE:5 :1 LE:2 :2 LE:4 MN:1 LE:1 :6 LE:1 ML:1 LE:3 :1 LE:1 :1 LE:14
   :1 LE:53 :1 LE:8b :1 Extend:7 LE:a6 :1 LE:26 :2 LE:4 :1 LE:1 ML:1 LE:29 MN:1 LE:1 :6
   Extend:2d :1 Extend:1 :1 Extend:2 :1 Extend:2 :1 Extend:1 :8 HL:1b :4 HL:4 LE:1 ML:1 :b NU:6
   :6 MN:2 :2 Extend:b :1 FO:1 :3 LE:2b Extend:15 NU:a :1 NU:1 MN:1 :1 LE:2 Extend:1 LE:63 :1
   LE:1 Extend:7 NU:1 :1 Extend:6 LE:2 Extend:2 :1 Extend:4 LE:2 NU:a LE:3 :2 LE:1 :f LE:2
   Extend:1 LE:1e Extend:1b :2 LE:59 Extend:b LE:1 :e NU:a LE:21 Extend:9 LE:2 :2 MN:1 :1 LE:1
   :2 Extend:1 :2 LE:16 Extend:4 LE:1 Extend:9 LE:1 Extend:3 LE:1 Extend:5 :12 LE:19 Extend:3
   :4 LE:b :5 LE:18 :1 LE:6 :1 NU:2 :5 Extend:9 LE:2a Extend:18 NU:1 Extend:21 LE:36 Extend:3
   LE:1 Extend:12 LE:1 Extend:7 LE:a Extend:2 :2 NU:a :1 LE:10 Extend:3 :1 LE:8 :2 LE:2 :2
   LE:16 :1 LE:7 :1 LE:1 :3 LE:4 :2 Extend:1 LE:1 Extend:7 :2 Extend:2 :2 Extend:3 LE:1 :8
   Extend:1 :4 LE:2 :1 LE:3 Extend:2 :2 NU:a LE:2 :a LE:1 :1 Extend:1 :2 Extend:3 :1 LE:6 :4
   LE:2 :2 LE:16 :1 LE:7 :1 LE:2 :1 LE:2 :1 LE:2 :2 Extend:1 :1 Extend:5 :4 Extend:2 :2
   Extend:3 :3 Extend:1 :7 LE:4 :1 LE:1 :7 NU:a Extend:2 LE:3 Extend:1 :b Extend:3 :1 LE:9 :1
   LE:3 :1 LE:16 :1 LE:7 :1 LE:2 :1 LE:5 :2 Extend:1 LE:1 Extend:8 :1 Extend:3 :1 Extend:3 :2
   LE:1 :f LE:2 Extend:2 :2 NU:a :9 LE:1 Extend:6 :1 Extend:3 :1 LE:8 :2 LE:2 :2 LE:16 :1 LE:7
   :1 LE:2 :1 LE:5 :2 Extend:1 LE:1 Extend:7 :2 Extend:2 :2 Extend:3 :7 Extend:3 :4 LE:2 :1
   LE:3 Extend:2 :2 NU:a :1 LE:1 :10 Extend:1 LE:1 :1 LE:6 :3 LE:3 :1 LE:4 :3 LE:2 :1 LE:1 :1
   LE:2 :3 LE:2 :3 LE:3 :3 LE:c :4 Extend:5 :3 Extend:3 :1 Extend:4 :2 LE:1 :6 Extend:1 :e NU:a
   :10 Extend:5 LE:8 :1 LE:3 :1 LE:17 :1 LE:10 :2 Extend:1 LE:1 Extend:7 :1 Extend:3 :1
   Extend:4 :7 Extend:2 :1 LE:3 :2 LE:1 :2 LE:2 Extend:2 :2 NU:a :10 LE:1 Extend:3 :1 LE:8 :1
   LE:3 :1 LE:17 :1 LE:a :1 LE:5 :2 Extend:1 LE:1 Extend:7 :1 Extend:3 :1 Extend:4 :7 Extend:2
   :6 LE:2 :1 LE:2 Extend:2 :2 NU:a :1 LE:2 Extend:1 :c Extend:4 LE:9 :1 LE:3 :1 LE:29 Extend:2
   LE:1 Extend:7 :1 Extend:3 :1 Extend:4 LE:1 :5 LE:3 Extend:1 :7 LE:3 Extend:2 :2 NU:a :a LE:6
   :1 Extend:3 :1 LE:12 :3 LE:18 :1 LE:9 :1 LE:1 :2 LE:7 :3 Extend:1 :4 Extend:6 :1 Extend:1 :1
   Extend:8 :6 NU:a :2 Extend:2 :3d Extend:1 :2 Extend:7 :c Extend:8 :1 NU:a :57 Extend:1 :2
   Extend:9 :b Extend:7 :1 NU:a :26 LE:1 :17 Extend:2 :6 NU:a :b Extend:1 :1 Extend:1 :1
   Extend:1 :4 Extend:2 LE:8 :1 LE:24 :4 Extend:14 :1 Extend:2 LE:5 Extend:b :1 Extend:24 :9
   Extend:1 :64 Extend:14 :1 NU:a :c Extend:4 :4 Extend:3 :1 Extend:3 :2 Extend:7 :3 Extend:4
   :d Extend:c :1 Extend:1 NU:a Extend:4 :2 LE:26 :1 LE:1 :5 LE:1 :2 LE:2b :1 LE:14d :1 LE:4 :2
   LE:7 :1 LE:1 :1 LE:4 :2 LE:29 :1 LE:4 :2 LE:21 :1 LE:4 :2 LE:7 :1 LE:1 :1 LE:4 :2 LE:f :1
   LE:39 :1 LE:4 :2 LE:43 :2 Extend:3 :20 LE:10 :10 LE:56 :2 LE:6 :3 LE:26c :2 LE:11
   WSegSpace:1 LE:1a :5 LE:4b :3 LE:b :7 LE:12 Extend:4 :9 LE:13 Extend:3 :b LE:12 Extend:2 :c
   LE:d :1 LE:3 :1 Extend:2 :40 Extend:20 :9 Extend:1 :2 NU:a :21 Extend:3 FO:1 Extend:1 NU:a
   :6 LE:59 :7 LE:5 Extend:2 LE:22 Extend:1 LE:1 :5 LE:46 :a LE:1f :1 Extend:c :4 Extend:c :a
   NU:a :80 NU:b :25 LE:17 Extend:5 :39 Extend:a :1 Extend:1d :2 Extend:1 NU:a :6 NU:a :16
   Extend:1f :31 Extend:5 LE:2f Extend:11 LE:8 :3 NU:a :11 Extend:9 :c Extend:3 LE:1e Extend:d
   LE:2 NU:a LE:2c Extend:e :c LE:24 Extend:14 :8 NU:a :3 LE:3 NU:a LE:24 :2 LE:b :5 LE:2b :2
   LE:3 :10 Extend:3 :1 Extend:15 LE:4 Extend:1 LE:6 Extend:1 LE:2 Extend:3 LE:1 :5 LE:c0
   Extend:40 LE:116 :2 LE:6 :2 LE:26 :2 LE:6 :2 LE:8 :1 LE:1 :1 LE:1 :1 LE:1 :1 LE:1f :2 LE:35
   :1 LE:7 :1 LE:1 :3 LE:3 :1 LE:7 :3 LE:4 :2 LE:6 :4 LE:d :5 LE:3 :1 LE:7 :3 WSegSpace:7 :1
   WSegSpace:3 :1 Extend:1 ZWJ:1 FO:2 :8 MB:2 :a MB:1 :2 ML:1 NL:2 FO:5 EX:1 :f EX:2 :3 MN:1 :f
   EX:1 :a WSegSpace:1 FO:5 :1 FO:a :1 LE:1 :d LE:1 :10 LE:d :33 Extend:21 :11 LE:1 :4 LE:1 :2
   LE:a :1 LE:1 :3 LE:5 :6 LE:1 :1 LE:1 :1 LE:1 :1 LE:4 :1 LE:b :2 LE:4 :5 LE:5 :4 LE:1 :11
   LE:29 :32d LE:34 :716 LE:e5 :6 LE:4 Extend:3 LE:2 :c LE:26 :1 LE:1 :5 LE:1 :2 LE:38 :7 LE:1
   :f Extend:1 LE:17 :9 LE:7 :1 LE:7 :1 LE:7 :1 LE:7 :1 LE:7 :1 LE:7 :1 LE:7 :1 LE:7 :1
   Extend:20 :2f LE:1 :1d0 WSegSpace:1 :4 LE:1 :24 Extend:6 :1 KA:5 :5 LE:2 :5c Extend:2 KA:2
   :3 KA:5b :1 KA:4 :5 LE:2b :1 LE:5e :11 LE:20 :30 KA:10 :d0 KA:2f :1 KA:58 :6ca8 LE:48d :43
   LE:2e :2 LE:10d :3 LE:10 NU:a LE:2 :14 LE:2f Extend:4 :1 Extend:a :1 LE:1f Extend:2 LE:50
   Extend:2 :16 LE:c6 :2 LE:2 :1 LE:1 :1 LE:8 :15 LE:10 Extend:1 LE:3 Extend:1 LE:4 Extend:1
   LE:17 Extend:5 :4 Extend:1 :13 LE:34 :c Extend:2 LE:32 Extend:12 :a NU:a :6 Extend:12 LE:6
   :3 LE:1 :1 LE:2 Extend:1 NU:a LE:1c Extend:8 :2 LE:17 Extend:d :c LE:1d :3 Extend:4 LE:2f
   Extend:e :e LE:1 NU:a :b Extend:1 :a NU:a :6 LE:29 Extend:e :9 LE:3 Extend:1 LE:8 Extend:2
   :2 NU:a :21 Extend:3 :32 Extend:1 :1 Extend:3 :2 Extend:2 :5 Extend:2 :1 Extend:1 :1e LE:b
   Extend:5 :2 LE:3 Extend:2 :a LE:6 :2 LE:6 :2 LE:6 :9 LE:7 :1 LE:7 :1 LE:3a :6 LE:73 Extend:8
   :1 Extend:2 :2 NU:a :6 LE:2ba4 :c LE:17 :4 LE:31 :2304 LE:7 :c LE:5 :5 HL:1 Extend:1 HL:a :1
   HL:d :1 HL:5 :1 HL:1 :1 HL:2 :1 HL:2 :1 HL:a LE:62 :21 LE:16b :12 LE:40 :2 LE:36 :28 LE:c :4
   Extend:10 :3 ML:1 :c Extend:10 :3 EX:2 :18 EX:3 MN:1 :1 MB:1 :1 MN:1 ML:1 :1a LE:5 :1 LE:87
   :2 FO:1 :7 MB:1 :4 MN:1 :1 MB:1 :1 NU:a ML:1 MN:1 :5 LE:1a :4 EX:1 :1 LE:1a :b KA:38
   Extend:2 LE:1f :3 LE:6 :2 LE:6 :2 LE:6 :2 LE:3 :1c FO:3 :4 LE:c :1 LE:1a :1 LE:13 :1 LE:2 :1
   LE:f :2 LE:e :22 LE:7b :45 LE:35 :88 Extend:1 :82 LE:1d :3 LE:31 :f Extend:1 :1f LE:20 :d
   LE:1e :5 LE:26 Extend:5 :5 LE:1e :2 LE:24 :4 LE:8 :1 LE:5 :2a LE:9e :2 NU:a :6 LE:24 :4
   LE:24 :4 LE:28 :8 LE:34 :c LE:b :1 LE:f :1 LE:7 :1 LE:2 :1 LE:b :1 LE:f :1 LE:7 :1 LE:2 :3
   LE:34 :c LE:137 :9 LE:16 :a LE:8 :18 LE:6 :1 LE:2a :1 LE:9 :45 LE:6 :2 LE:1 :1 LE:2c :1 LE:2
   :3 LE:1 :2 LE:17 :a LE:17 :9 LE:1f :41 LE:13 :1 LE:2 :a LE:16 :a LE:1a :46 LE:38 :6 LE:2 :40
   LE:1 Extend:3 :1 Extend:2 :5 Extend:4 LE:4 :1 LE:3 :1 LE:1d :2 Extend:3 :4 Extend:1 :20
   LE:1d :3 LE:1d :23 LE:8 :1 LE:1c Extend:2 :19 LE:36 :a LE:16 :a LE:13 :d LE:12 :6e LE:49 :37
   LE:33 :d LE:33 :d LE:24 Extend:4 :8 NU:a :6 NU:a LE:1c :3 Extend:5 :1 LE:17 :fa LE:2a :1
   Extend:2 :3 LE:2 :10 LE:3 :37 Extend:4 LE:1d :a LE:1 :8 LE:16 Extend:b :1f LE:12 Extend:4
   :2a LE:15 :1b LE:17 :9 Extend:3 LE:35 Extend:f :1f NU:a Extend:1 LE:2 Extend:2 LE:1 :9
   Extend:4 LE:2d Extend:b :2 NU:1 :4 Extend:1 :a NU:1 :2 LE:19 :7 NU:a :6 Extend:3 LE:24
   Extend:e :1 NU:a :4 LE:1 Extend:2 LE:1 :8 LE:23 Extend:1 :2 LE:1 :9 Extend:3 LE:30 Extend:e
   LE:4 :4 Extend:4 :1 Extend:2 NU:a LE:1 :1 LE:1 :23 LE:12 :1 LE:19 Extend:c :6 Extend:1 LE:2
   Extend:1 :3e LE:7 :1 LE:1 :1 LE:4 :1 LE:f :1 LE:a :7 LE:2f Extend:c :5 NU:a :6 Extend:4 :1
   LE:8 :2 LE:2 :2 LE:16 :1 LE:7 :1 LE:2 :1 LE:5 :1 Extend:2 LE:1 Extend:7 :2 Extend:2 :2
   Extend:3 :2 LE:1 :6 Extend:1 :5 LE:5 Extend:2 :2 Extend:7 :3 Extend:5 :b LE:a :1 LE:1 :2
   LE:1 :1 LE:26 :1 LE:1 Extend:9 :1 Extend:1 :2 Extend:1 :1 Extend:4 :1 Extend:5 LE:1 Extend:1
   LE:1 :d Extend:2 :1d LE:35 Extend:12 LE:4 :5 NU:a :4 Extend:1 LE:3 :1e LE:30 Extend:14 LE:2
   :1 LE:1 :8 NU:a :a6 LE:2f Extend:7 :2 Extend:9 :17 LE:4 Extend:2 :22 LE:30 Extend:11 :3 LE:1
   :b NU:a :26 LE:2b Extend:d LE:1 :7 NU:a :6 NU:14 :39 Extend:f :4 NU:a :c6 LE:2c Extend:f :65
   LE:40 NU:a :15 LE:8 :2 LE:1 :2 LE:8 :1 LE:2 :1 LE:18 Extend:6 :1 Extend:2 :2 Extend:4 LE:1
   Extend:1 LE:1 Extend:2 :c NU:a :46 LE:8 :2 LE:27 Extend:7 :2 Extend:7 LE:1 :1 LE:1 Extend:1
   :1b LE:1 Extend:a LE:28 Extend:7 LE:1 Extend:4 :8 Extend:1 :8 LE:1 Extend:b LE:2e Extend:10
   :3 LE:1 :12 LE:49 :c7 LE:21 :f NU:a :6 LE:9 :1 LE:25 Extend:8 :1 Extend:8 LE:1 :f NU:a :18
   LE:1e :2 Extend:16 :1 Extend:e :49 LE:7 :1 LE:2 :1 LE:26 Extend:6 :3 Extend:1 :1 Extend:2 :1
   Extend:7 LE:1 Extend:1 :8 NU:a :6 LE:6 :1 LE:2 :1 LE:20 Extend:5 :1 Extend:2 :1 Extend:5
   LE:1 :7 NU:a :136 LE:13 Extend:4 :9 Extend:2 LE:1 Extend:1 LE:d :1 LE:22 Extend:7 :3
   Extend:5 :d NU:a Extend:1 :55 LE:1 :4f LE:39a :66 LE:6f :11 LE:c4 :a4c LE:61 :f LE:430 FO:10
   Extend:1 LE:6 Extend:f :a LE:f9b :5 LE:247 :1ab9 LE:1e Extend:12 NU:a :6c6 LE:239 :7 LE:1f
   :1 NU:a :6 LE:4f :1 NU:a :6 LE:1e :2 Extend:5 :b LE:30 Extend:7 :9 LE:4 :c NU:a :9 LE:15 :5
   LE:13 :1b0 LE:2d :3 NU:a :c6 LE:40 :80 LE:4b :4 Extend:1 LE:1 Extend:37 :7 Extend:4 LE:d :40
   LE:2 :1 LE:1 Extend:1 :b Extend:2 :3ffe KA:4 :1 KA:7 :1 KA:2 :1 KA:1 :11f KA:3 :32 KA:1 :e
   KA:4 :a98 LE:6b :5 LE:d :3 LE:9 :7 LE:a :3 Extend:2 :1 FO:4 :104c NU:a :206 Extend:2e :2
   Extend:17 :21e Extend:5 :3 Extend:6 FO:8 Extend:8 :2 Extend:7 :1e Extend:4 :94 Extend:3 :1bb
   LE:55 :1 LE:47 :1 LE:2 :2 LE:1 :2 LE:2 :2 LE:4 :1 LE:c :1 LE:1 :1 LE:7 :1 LE:41 :1 LE:4 :2
   LE:8 :1 LE:7 :1 LE:1c :1 LE:4 :1 LE:5 :1 LE:1 :3 LE:7 :1 LE:154 :2 LE:19 :1 LE:19 :1 LE:1f
   :1 LE:19 :1 LE:1f :1 LE:19 :1 LE:1f :1 LE:19 :1 LE:1f :1 LE:19 :1 LE:8 :2 NU:32 :200
   Extend:37 :4 Extend:32 :8 Extend:1 :e Extend:1 :16 Extend:5 :1 Extend:f :450 LE:1f :6 LE:6
   :d5 Extend:7 :1 Extend:11 :2 Extend:7 :1 Extend:2 :1 Extend:5 :5 LE:3e :21 Extend:1 :70
   LE:2d :3 Extend:7 LE:7 :2 NU:a :4 LE:1 :141 LE:1e Extend:1 :11 LE:2c Extend:4 NU:a :1d6
   LE:1c Extend:4 NU:a :d6 LE:1e Extend:2 LE:1 NU:a :1e5 LE:7 :1 LE:4 :1 LE:2 :1 LE:f :1 LE:c5
   :b Extend:7 :29 LE:44 Extend:7 LE:1 :4 NU:a :4a6 LE:4 :1 LE:1b :1 LE:2 :1 LE:1 :2 LE:1 :1
   LE:a :1 LE:4 :1 LE:1 :1 LE:1 :6 LE:1 :4 LE:1 :1 LE:1 :1 LE:1 :1 LE:3 :1 LE:2 :1 LE:1 :2 LE:1
   :1 LE:1 :1 LE:1 :1 LE:1 :1 LE:1 :1 LE:2 :1 LE:1 :2 LE:4 :1 LE:7 :1 LE:4 :1 LE:4 :1 LE:1 :1
   LE:a :1 LE:11 :5 LE:3 :1 LE:5 :1 LE:11 :274 LE:1a :6 LE:1a :6 LE:1a :5c RI:1a :1fb Extend:5
   :7f0 NU:a :c0407 FO:1 :1e Extend:60 :80 Extend:f0 :2fe10"

/-- The lengths of the runs of code points that count alike where words end. -/
def wordRuns : List (Nat × List String) := readListedRuns wordText

/-- The values of `Sentence_Break`, each with its loose names. -/
def sentenceNames : List (String × List String) :=
  [("AT", ["at", "aterm"]), ("CL", ["cl", "close"]), ("CR", ["cr"]), ("EX", ["ex", "extend"]),
   ("FO", ["fo", "format"]), ("LE", ["le", "oletter"]), ("LF", ["lf"]), ("LO", ["lo", "lower"]),
   ("NU", ["nu", "numeric"]), ("SC", ["sc", "scontinue"]), ("SE", ["se", "sep"]), ("SP", ["sp"]),
   ("ST", ["st", "sterm"]), ("UP", ["up", "upper"])]

def sentenceText : String :=
  ":9 SP:1 LF:1 SP:2 CR:1 :12 SP:1 ST:1 CL:1 :4 CL:3 :2 SC:2 AT:1 :1 NU:a SC:2 :3 ST:1 :1 UP:1a
   CL:1 :1 CL:1 :3 LO:1a CL:1 :1 CL:1 :7 SE:1 :1a SP:1 :9 LO:1 CL:1 :1 FO:1 :7 LO:1 :4 LO:1
   CL:1 :4 UP:17 :1 UP:7 LO:18 :1 LO:8 UP:1 LO:1 UP:1 LO:1 UP:1 LO:1 UP:1 LO:1 UP:1 LO:1 UP:1
   LO:1 UP:1 LO:1 UP:1 LO:1 UP:1 LO:1 UP:1 LO:1 UP:1 LO:1 UP:1 LO:1 UP:1 LO:1 UP:1 LO:1 UP:1
   LO:1 UP:1 LO:1 UP:1 LO:1 UP:1 LO:1 UP:1 LO:1 UP:1 LO:1 UP:1 LO:1 UP:1 LO:1 UP:1 LO:1 UP:1
   LO:1 UP:1 LO:1 UP:1 LO:1 UP:1 LO:1 UP:1 LO:2 UP:1 LO:1 UP:1 LO:1 UP:1 LO:1 UP:1 LO:1 UP:1
   LO:1 UP:1 LO:1 UP:1 LO:1 UP:1 LO:2 UP:1 LO:1 UP:1 LO:1 UP:1 LO:1 UP:1 LO:1 UP:1 LO:1 UP:1
   LO:1 UP:1 LO:1 UP:1 LO:1 UP:1 LO:1 UP:1 LO:1 UP:1 LO:1 UP:1 LO:1 UP:1 LO:1 UP:1 LO:1 UP:1
   LO:1 UP:1 LO:1 UP:1 LO:1 UP:1 LO:1 UP:1 LO:1 UP:1 LO:1 UP:1 LO:1 UP:1 LO:1 UP:1 LO:1 UP:2
   LO:1 UP:1 LO:1 UP:1 LO:3 UP:2 LO:1 UP:1 LO:1 UP:2 LO:1 UP:3 LO:2 UP:4 LO:1 UP:2 LO:1 UP:3
   LO:3 UP:2 LO:1 UP:2 LO:1 UP:1 LO:1 UP:1 LO:1 UP:2 LO:1 UP:1 LO:2 UP:1 LO:1 UP:2 LO:1 UP:3
   LO:1 UP:1 LO:1 UP:2 LO:2 LE:1 UP:1 LO:3 LE:4 UP:2 LO:1 UP:2 LO:1 UP:2 LO:1 UP:1 LO:1 UP:1
   LO:1 UP:1 LO:1 UP:1 LO:1 UP:1 LO:1 UP:1 LO:1 UP:1 LO:1 UP:1 LO:2 UP:1 LO:1 UP:1 LO:1 UP:1
   LO:1 UP:1 LO:1 UP:1 LO:1 UP:1 LO:1 UP:1 LO:1 UP:1 LO:1 UP:1 LO:2 UP:2 LO:1 UP:1 LO:1 UP:3
   LO:1 UP:1 LO:1 UP:1 LO:1 UP:1 LO:1 UP:1 LO:1 UP:1 LO:1 UP:1 LO:1 UP:1 LO:1 UP:1 LO:1 UP:1
   LO:1 UP:1 LO:1 UP:1 LO:1 UP:1 LO:1 UP:1 LO:1 UP:1 LO:1 UP:1 LO:1 UP:1 LO:1 UP:1 LO:1 UP:1
   LO:1 UP:1 LO:1 UP:1 LO:1 UP:1 LO:1 UP:1 LO:1 UP:1 LO:1 UP:1 LO:1 UP:1 LO:1 UP:1 LO:1 UP:1
   LO:1 UP:1 LO:1 UP:1 LO:7 UP:2 LO:1 UP:2 LO:2 UP:1 LO:1 UP:4 LO:1 UP:1 LO:1 UP:1 LO:1 UP:1
   LO:1 UP:1 LO:45 LE:1 LO:24 LE:7 LO:2 :4 LE:c :e LO:5 :7 LE:1 :1 LE:1 :11 EX:70 UP:1 LO:1
   UP:1 LO:1 LE:1 :1 UP:1 LO:1 :2 LO:4 SC:1 UP:1 :6 UP:1 :1 UP:3 :1 UP:1 :1 UP:2 LO:1 UP:11 :1
   UP:9 LO:23 UP:1 LO:2 UP:3 LO:3 UP:1 LO:1 UP:1 LO:1 UP:1 LO:1 UP:1 LO:1 UP:1 LO:1 UP:1 LO:1
   UP:1 LO:1 UP:1 LO:1 UP:1 LO:1 UP:1 LO:1 UP:1 LO:1 UP:1 LO:5 UP:1 LO:1 :1 UP:1 LO:1 UP:2 LO:2
   UP:33 LO:30 UP:1 LO:1 UP:1 LO:1 UP:1 LO:1 UP:1 LO:1 UP:1 LO:1 UP:1 LO:1 UP:1 LO:1 UP:1 LO:1
   UP:1 LO:1 UP:1 LO:1 UP:1 LO:1 UP:1 LO:1 UP:1 LO:1 UP:1 LO:1 UP:1 LO:1 UP:1 LO:1 UP:1 LO:1 :1
   EX:7 UP:1 LO:1 UP:1 LO:1 UP:1 LO:1 UP:1 LO:1 UP:1 LO:1 UP:1 LO:1 UP:1 LO:1 UP:1 LO:1 UP:1
   LO:1 UP:1 LO:1 UP:1 LO:1 UP:1 LO:1 UP:1 LO:1 UP:1 LO:1 UP:1 LO:1 UP:1 LO:1 UP:1 LO:1 UP:1
   LO:1 UP:1 LO:1 UP:1 LO:1 UP:1 LO:1 UP:1 LO:1 UP:1 LO:1 UP:1 LO:1 UP:1 LO:1 UP:1 LO:1 UP:1
   LO:1 UP:2 LO:1 UP:1 LO:1 UP:1 LO:1 UP:1 LO:1 UP:1 LO:1 UP:1 LO:1 UP:1 LO:2 UP:1 LO:1 UP:1
   LO:1 UP:1 LO:1 UP:1 LO:1 UP:1 LO:1 UP:1 LO:1 UP:1 LO:1 UP:1 LO:1 UP:1 LO:1 UP:1 LO:1 UP:1
   LO:1 UP:1 LO:1 UP:1 LO:1 UP:1 LO:1 UP:1 LO:1 UP:1 LO:1 UP:1 LO:1 UP:1 LO:1 UP:1 LO:1 UP:1
   LO:1 UP:1 LO:1 UP:1 LO:1 UP:1 LO:1 UP:1 LO:1 UP:1 LO:1 UP:1 LO:1 UP:1 LO:1 UP:1 LO:1 UP:1
   LO:1 UP:1 LO:1 UP:1 LO:1 UP:1 LO:1 UP:1 LO:1 UP:1 LO:1 UP:1 LO:1 UP:1 LO:1 UP:1 LO:1 UP:1
   LO:1 UP:1 LO:1 UP:1 LO:1 UP:1 LO:1 UP:1 LO:1 UP:1 LO:1 UP:1 LO:1 UP:1 LO:1 UP:1 LO:1 UP:1
   LO:1 UP:1 LO:1 :1 UP:26 :2 LE:1 :3 SC:1 :2 LO:29 ST:1 :7 EX:2d :1 EX:1 :1 EX:2 :1 EX:2 :1
   EX:1 :8 LE:1b :4 LE:5 :c NU:6 :6 SC:2 :2 EX:b :1 FO:1 ST:3 LE:2b EX:15 NU:a :1 NU:2 :1 LE:2
   EX:1 LE:63 ST:1 LE:1 EX:7 NU:1 :1 EX:6 LE:2 EX:2 :1 EX:4 LE:2 NU:a LE:3 :2 LE:1 ST:3 :c FO:1
   LE:1 EX:1 LE:1e EX:1b :2 LE:59 EX:b LE:1 :e NU:a LE:21 EX:9 LE:2 :2 SC:1 ST:1 LE:1 :2 EX:1
   :2 LE:16 EX:4 LE:1 EX:9 LE:1 EX:3 LE:1 EX:5 :9 ST:1 :1 ST:1 :3 ST:2 :1 LE:19 EX:3 :4 LE:b :5
   LE:18 :1 LE:6 :1 NU:2 :5 EX:9 LE:2a EX:18 NU:1 EX:21 LE:36 EX:3 LE:1 EX:12 LE:1 EX:7 LE:a
   EX:2 ST:2 NU:a :1 LE:10 EX:3 :1 LE:8 :2 LE:2 :2 LE:16 :1 LE:7 :1 LE:1 :3 LE:4 :2 EX:1 LE:1
   EX:7 :2 EX:2 :2 EX:3 LE:1 :8 EX:1 :4 LE:2 :1 LE:3 EX:2 :2 NU:a LE:2 :a LE:1 :1 EX:1 :2 EX:3
   :1 LE:6 :4 LE:2 :2 LE:16 :1 LE:7 :1 LE:2 :1 LE:2 :1 LE:2 :2 EX:1 :1 EX:5 :4 EX:2 :2 EX:3 :3
   EX:1 :7 LE:4 :1 LE:1 :7 NU:a EX:2 LE:3 EX:1 :b EX:3 :1 LE:9 :1 LE:3 :1 LE:16 :1 LE:7 :1 LE:2
   :1 LE:5 :2 EX:1 LE:1 EX:8 :1 EX:3 :1 EX:3 :2 LE:1 :f LE:2 EX:2 :2 NU:a :9 LE:1 EX:6 :1 EX:3
   :1 LE:8 :2 LE:2 :2 LE:16 :1 LE:7 :1 LE:2 :1 LE:5 :2 EX:1 LE:1 EX:7 :2 EX:2 :2 EX:3 :7 EX:3
   :4 LE:2 :1 LE:3 EX:2 :2 NU:a :1 LE:1 :10 EX:1 LE:1 :1 LE:6 :3 LE:3 :1 LE:4 :3 LE:2 :1 LE:1
   :1 LE:2 :3 LE:2 :3 LE:3 :3 LE:c :4 EX:5 :3 EX:3 :1 EX:4 :2 LE:1 :6 EX:1 :e NU:a :10 EX:5
   LE:8 :1 LE:3 :1 LE:17 :1 LE:10 :2 EX:1 LE:1 EX:7 :1 EX:3 :1 EX:4 :7 EX:2 :1 LE:3 :2 LE:1 :2
   LE:2 EX:2 :2 NU:a :10 LE:1 EX:3 :1 LE:8 :1 LE:3 :1 LE:17 :1 LE:a :1 LE:5 :2 EX:1 LE:1 EX:7
   :1 EX:3 :1 EX:4 :7 EX:2 :6 LE:2 :1 LE:2 EX:2 :2 NU:a :1 LE:2 EX:1 :c EX:4 LE:9 :1 LE:3 :1
   LE:29 EX:2 LE:1 EX:7 :1 EX:3 :1 EX:4 LE:1 :5 LE:3 EX:1 :7 LE:3 EX:2 :2 NU:a :a LE:6 :1 EX:3
   :1 LE:12 :3 LE:18 :1 LE:9 :1 LE:1 :2 LE:7 :3 EX:1 :4 EX:6 :1 EX:1 :1 EX:8 :6 NU:a :2 EX:2 :d
   LE:30 EX:1 LE:2 EX:7 :5 LE:7 EX:8 :1 NU:a :27 LE:2 :1 LE:1 :1 LE:5 :1 LE:18 :1 LE:1 :1 LE:a
   EX:1 LE:2 EX:9 LE:1 :2 LE:5 :1 LE:1 :1 EX:7 :1 NU:a :2 LE:4 :20 LE:1 :17 EX:2 :6 NU:a :b
   EX:1 :1 EX:1 :1 EX:1 CL:4 EX:2 LE:8 :1 LE:24 :4 EX:14 :1 EX:2 LE:5 EX:b :1 EX:24 :9 EX:1 :39
   LE:2b EX:14 LE:1 NU:a ST:2 :4 LE:6 EX:4 LE:4 EX:3 LE:1 EX:3 LE:2 EX:7 LE:3 EX:4 LE:d EX:c
   LE:1 EX:1 NU:a EX:4 :2 UP:26 :1 UP:1 :5 UP:1 :2 LE:2b :1 LO:1 LE:14c :1 LE:4 :2 LE:7 :1 LE:1
   :1 LE:4 :2 LE:29 :1 LE:4 :2 LE:21 :1 LE:4 :2 LE:7 :1 LE:1 :1 LE:4 :2 LE:f :1 LE:39 :1 LE:4
   :2 LE:43 :2 EX:3 :2 ST:1 :4 ST:2 :17 LE:10 :10 UP:56 :2 LO:6 :3 LE:26c :1 ST:1 LE:11 SP:1
   LE:1a CL:2 :3 LE:4b :3 LE:b :7 LE:12 EX:4 :9 LE:13 EX:3 ST:2 :9 LE:12 EX:2 :c LE:d :1 LE:3
   :1 EX:2 :c LE:34 EX:20 ST:2 :1 LE:1 :4 LE:1 EX:1 :2 NU:a :18 SC:1 ST:1 :4 SC:1 ST:1 :1 EX:3
   FO:1 EX:1 NU:a :6 LE:59 :7 LE:5 EX:2 LE:22 EX:1 LE:1 :5 LE:46 :a LE:1f :1 EX:c :4 EX:c :8
   ST:2 NU:a LE:1e :2 LE:5 :b LE:2c :4 LE:1a :6 NU:b :25 LE:17 EX:5 :4 LE:35 EX:a :1 EX:1d :2
   EX:1 NU:a :6 NU:a :d LE:1 ST:4 :4 EX:1f :31 EX:5 LE:2f EX:11 LE:8 :1 ST:2 NU:a ST:2 :2 ST:2
   :b EX:9 :9 ST:3 EX:3 LE:1e EX:d LE:2 NU:a LE:2c EX:e :c LE:24 EX:14 :3 ST:2 :3 NU:a :3 LE:3
   NU:a LE:24 ST:2 LO:9 UP:1 LO:1 :5 LE:2b :2 LE:3 :10 EX:3 :1 EX:15 LE:4 EX:1 LE:6 EX:1 LE:2
   EX:3 LE:1 :5 LO:c0 EX:40 UP:1 LO:1 UP:1 LO:1 UP:1 LO:1 UP:1 LO:1 UP:1 LO:1 UP:1 LO:1 UP:1
   LO:1 UP:1 LO:1 UP:1 LO:1 UP:1 LO:1 UP:1 LO:1 UP:1 LO:1 UP:1 LO:1 UP:1 LO:1 UP:1 LO:1 UP:1
   LO:1 UP:1 LO:1 UP:1 LO:1 UP:1 LO:1 UP:1 LO:1 UP:1 LO:1 UP:1 LO:1 UP:1 LO:1 UP:1 LO:1 UP:1
   LO:1 UP:1 LO:1 UP:1 LO:1 UP:1 LO:1 UP:1 LO:1 UP:1 LO:1 UP:1 LO:1 UP:1 LO:1 UP:1 LO:1 UP:1
   LO:1 UP:1 LO:1 UP:1 LO:1 UP:1 LO:1 UP:1 LO:1 UP:1 LO:1 UP:1 LO:1 UP:1 LO:1 UP:1 LO:1 UP:1
   LO:1 UP:1 LO:1 UP:1 LO:1 UP:1 LO:1 UP:1 LO:1 UP:1 LO:1 UP:1 LO:1 UP:1 LO:1 UP:1 LO:1 UP:1
   LO:1 UP:1 LO:1 UP:1 LO:1 UP:1 LO:1 UP:1 LO:1 UP:1 LO:1 UP:1 LO:1 UP:1 LO:1 UP:1 LO:1 UP:1
   LO:1 UP:1 LO:1 UP:1 LO:1 UP:1 LO:1 UP:1 LO:1 UP:1 LO:1 UP:1 LO:1 UP:1 LO:1 UP:1 LO:1 UP:1
   LO:1 UP:1 LO:1 UP:1 LO:1 UP:1 LO:1 UP:1 LO:1 UP:1 LO:9 UP:1 LO:1 UP:1 LO:1 UP:1 LO:1 UP:1
   LO:1 UP:1 LO:1 UP:1 LO:1 UP:1 LO:1 UP:1 LO:1 UP:1 LO:1 UP:1 LO:1 UP:1 LO:1 UP:1 LO:1 UP:1
   LO:1 UP:1 LO:1 UP:1 LO:1 UP:1 LO:1 UP:1 LO:1 UP:1 LO:1 UP:1 LO:1 UP:1 LO:1 UP:1 LO:1 UP:1
   LO:1 UP:1 LO:1 UP:1 LO:1 UP:1 LO:1 UP:1 LO:1 UP:1 LO:1 UP:1 LO:1 UP:1 LO:1 UP:1 LO:1 UP:1
   LO:1 UP:1 LO:1 UP:1 LO:1 UP:1 LO:1 UP:1 LO:1 UP:1 LO:1 UP:1 LO:1 UP:1 LO:1 UP:1 LO:1 UP:1
   LO:1 UP:1 LO:1 UP:1 LO:1 UP:1 LO:1 UP:1 LO:1 UP:1 LO:1 UP:1 LO:1 UP:1 LO:1 UP:1 LO:1 UP:1
   LO:9 UP:8 LO:6 :2 UP:6 :2 LO:8 UP:8 LO:8 UP:8 LO:6 :2 UP:6 :2 LO:8 :1 UP:1 :1 UP:1 :1 UP:1
   :1 UP:1 LO:8 UP:8 LO:e :2 LO:8 UP:8 LO:8 UP:8 LO:8 UP:8 LO:5 :1 LO:2 UP:5 :1 LO:1 :3 LO:3 :1
   LO:2 UP:5 :3 LO:4 :2 LO:2 UP:4 :4 LO:8 UP:5 :5 LO:3 :1 LO:2 UP:5 :3 SP:b FO:1 EX:2 FO:2 :3
   SC:2 :3 CL:8 :4 AT:1 :3 SE:2 FO:5 SP:1 :9 CL:2 :1 ST:2 :7 CL:2 ST:3 :15 SP:1 FO:5 :1 FO:a :1
   LO:1 :b CL:2 LO:1 :d CL:2 :1 LO:d :33 EX:21 :11 UP:1 :4 UP:1 :2 LO:1 UP:3 LO:2 UP:3 LO:1 :1
   UP:1 :3 UP:5 :6 UP:1 :1 UP:1 :1 UP:1 :1 UP:4 :1 LO:1 UP:4 LO:1 LE:4 LO:1 :2 LO:2 UP:2 :5
   UP:1 LO:4 :4 LO:1 :11 UP:10 LO:10 LE:3 UP:1 LO:1 LE:4 :17f CL:4 :1d CL:2 :18b UP:1a LO:1a
   :271 CL:6 :7 CL:e :4f CL:2 :1f CL:a :193 CL:16 :3f CL:4 :20 CL:2 :202 UP:30 LO:30 UP:1 LO:1
   UP:3 LO:2 UP:1 LO:1 UP:1 LO:1 UP:1 LO:1 UP:4 LO:1 UP:1 LO:2 UP:1 LO:8 UP:3 LO:1 UP:1 LO:1
   UP:1 LO:1 UP:1 LO:1 UP:1 LO:1 UP:1 LO:1 UP:1 LO:1 UP:1 LO:1 UP:1 LO:1 UP:1 LO:1 UP:1 LO:1
   UP:1 LO:1 UP:1 LO:1 UP:1 LO:1 UP:1 LO:1 UP:1 LO:1 UP:1 LO:1 UP:1 LO:1 UP:1 LO:1 UP:1 LO:1
   UP:1 LO:1 UP:1 LO:1 UP:1 LO:1 UP:1 LO:1 UP:1 LO:1 UP:1 LO:1 UP:1 LO:1 UP:1 LO:1 UP:1 LO:1
   UP:1 LO:1 UP:1 LO:1 UP:1 LO:1 UP:1 LO:1 UP:1 LO:1 UP:1 LO:1 UP:1 LO:1 UP:1 LO:1 UP:1 LO:1
   UP:1 LO:1 UP:1 LO:1 UP:1 LO:1 UP:1 LO:1 UP:1 LO:1 UP:1 LO:1 UP:1 LO:1 UP:1 LO:1 UP:1 LO:1
   UP:1 LO:1 UP:1 LO:1 UP:1 LO:2 :6 UP:1 LO:1 UP:1 LO:1 EX:3 UP:1 LO:1 :5 ST:3 :4 LO:26 :1 LO:1
   :5 LO:1 :2 LE:38 :7 LE:1 :f EX:1 LE:17 :9 LE:7 :1 LE:7 :1 LE:7 :1 LE:7 :1 LE:7 :1 LE:7 :1
   LE:7 :1 LE:7 :1 EX:20 CL:e :e CL:2 :2 CL:a :4 ST:1 LE:1 :c ST:1 :5 CL:1 :10 ST:2 CL:8 :1a3
   SP:1 SC:1 ST:1 :2 LE:3 CL:a :2 CL:8 :1 CL:3 :1 LE:9 EX:6 :1 LE:5 :2 LE:5 :4 LE:56 :2 EX:2 :2
   LE:3 :1 LE:5a :1 LE:4 :5 LE:2b :1 LE:5e :11 LE:20 :30 LE:10 :200 LE:19c0 :40 LE:568d :43
   LE:2e :1 ST:1 LE:10d :1 ST:2 LE:10 NU:a LE:2 :14 UP:1 LO:1 UP:1 LO:1 UP:1 LO:1 UP:1 LO:1
   UP:1 LO:1 UP:1 LO:1 UP:1 LO:1 UP:1 LO:1 UP:1 LO:1 UP:1 LO:1 UP:1 LO:1 UP:1 LO:1 UP:1 LO:1
   UP:1 LO:1 UP:1 LO:1 UP:1 LO:1 UP:1 LO:1 UP:1 LO:1 UP:1 LO:1 UP:1 LO:1 UP:1 LO:1 UP:1 LO:1
   UP:1 LO:1 LE:1 EX:4 :1 EX:a :1 LE:1 UP:1 LO:1 UP:1 LO:1 UP:1 LO:1 UP:1 LO:1 UP:1 LO:1 UP:1
   LO:1 UP:1 LO:1 UP:1 LO:1 UP:1 LO:1 UP:1 LO:1 UP:1 LO:1 UP:1 LO:1 UP:1 LO:1 UP:1 LO:3 EX:2
   LE:50 EX:2 :1 ST:1 :3 ST:1 :1f LE:9 :2 UP:1 LO:1 UP:1 LO:1 UP:1 LO:1 UP:1 LO:1 UP:1 LO:1
   UP:1 LO:1 UP:1 LO:3 UP:1 LO:1 UP:1 LO:1 UP:1 LO:1 UP:1 LO:1 UP:1 LO:1 UP:1 LO:1 UP:1 LO:1
   UP:1 LO:1 UP:1 LO:1 UP:1 LO:1 UP:1 LO:1 UP:1 LO:1 UP:1 LO:1 UP:1 LO:1 UP:1 LO:1 UP:1 LO:1
   UP:1 LO:1 UP:1 LO:1 UP:1 LO:1 UP:1 LO:1 UP:1 LO:1 UP:1 LO:1 UP:1 LO:1 UP:1 LO:1 UP:1 LO:1
   UP:1 LO:1 UP:1 LO:1 UP:1 LO:1 UP:1 LO:1 UP:1 LO:1 UP:1 LO:a UP:1 LO:1 UP:1 LO:1 UP:2 LO:1
   UP:1 LO:1 UP:1 LO:1 UP:1 LO:1 UP:1 LO:1 LE:1 :2 UP:1 LO:1 UP:1 LO:1 LE:1 UP:1 LO:1 UP:1 LO:3
   UP:1 LO:1 UP:1 LO:1 UP:1 LO:1 UP:1 LO:1 UP:1 LO:1 UP:1 LO:1 UP:1 LO:1 UP:1 LO:1 UP:1 LO:1
   UP:1 LO:1 UP:5 LO:1 UP:5 LO:1 UP:1 LO:1 UP:1 LO:1 UP:1 LO:1 UP:1 LO:1 UP:1 LO:1 UP:1 LO:1
   UP:1 LO:1 UP:4 LO:1 UP:1 LO:1 UP:2 LO:1 :2 UP:1 LO:1 :1 LO:1 :1 LO:1 UP:1 LO:1 UP:1 LO:1
   UP:1 LO:1 UP:1 :15 LO:3 UP:1 LO:1 LE:1 LO:3 LE:7 EX:1 LE:3 EX:1 LE:4 EX:1 LE:17 EX:5 :4 EX:1
   :13 LE:34 :2 ST:2 :8 EX:2 LE:32 EX:12 :8 ST:2 NU:a :6 EX:12 LE:6 :3 LE:1 :1 LE:2 EX:1 NU:a
   LE:1c EX:8 :1 ST:1 LE:17 EX:d :c LE:1d :3 EX:4 LE:2f EX:e :7 ST:2 :5 LE:1 NU:a :6 LE:5 EX:1
   LE:a NU:a LE:5 :1 LE:29 EX:e :9 LE:3 EX:1 LE:8 EX:2 :2 NU:a :3 ST:3 LE:17 :3 LE:1 EX:3 LE:32
   EX:1 LE:1 EX:3 LE:2 EX:2 LE:5 EX:2 LE:1 EX:1 LE:1 :18 LE:3 :2 LE:b EX:5 ST:2 LE:3 EX:2 :a
   LE:6 :2 LE:6 :2 LE:6 :9 LE:7 :1 LE:7 :1 LO:2b :1 LO:e :6 LO:50 LE:23 EX:8 ST:1 EX:2 :2 NU:a
   :6 LE:2ba4 :c LE:17 :4 LE:31 :2104 LE:16e :2 LE:6a :26 LO:7 :c LO:5 :5 LE:1 EX:1 LE:a :1
   LE:d :1 LE:5 :1 LE:1 :1 LE:2 :1 LE:2 :1 LE:6c :21 LE:16b CL:2 :10 LE:40 :2 LE:36 :28 LE:c :4
   EX:10 SC:2 ST:1 SC:2 ST:2 CL:2 :7 EX:10 :1 SC:2 :2 CL:10 :2 CL:2 :7 SC:2 AT:1 :1 SC:2 ST:2
   SC:1 CL:6 :4 SC:1 :c LE:5 :1 LE:87 :2 FO:1 :1 ST:1 :6 CL:2 :2 SC:2 AT:1 :1 NU:a SC:2 :3 ST:1
   :1 UP:1a CL:1 :1 CL:1 :3 LO:1a CL:1 :1 CL:1 :1 CL:2 ST:1 CL:2 SC:1 :1 LE:38 EX:2 LE:1f :3
   LE:6 :2 LE:6 :2 LE:6 :2 LE:3 :1c FO:3 :4 LE:c :1 LE:1a :1 LE:13 :1 LE:2 :1 LE:f :2 LE:e :22
   LE:7b :45 LE:35 :88 EX:1 :82 LE:1d :3 LE:31 :f EX:1 :1f LE:20 :d LE:1e :5 LE:26 EX:5 :5
   LE:1e :2 LE:24 :4 LE:8 :1 LE:5 :2a UP:28 LO:28 LE:4e :2 NU:a :6 UP:24 :4 LO:24 :4 LE:28 :8
   LE:34 :c UP:b :1 UP:f :1 UP:7 :1 UP:2 :1 LO:b :1 LO:f :1 LO:7 :1 LO:2 :3 LE:34 :c LE:137 :9
   LE:16 :a LE:8 :18 LO:1 LE:2 LO:3 :1 LO:2a :1 LO:9 :45 LE:6 :2 LE:1 :1 LE:2c :1 LE:2 :3 LE:1
   :2 LE:17 :a LE:17 :9 LE:1f :41 LE:13 :1 LE:2 :a LE:16 :a LE:1a :46 LE:38 :6 LE:2 :40 LE:1
   EX:3 :1 EX:2 :5 EX:4 LE:4 :1 LE:3 :1 LE:1d :2 EX:3 :4 EX:1 :16 ST:2 :8 LE:1d :3 LE:1d :23
   LE:8 :1 LE:1c EX:2 :19 LE:36 :a LE:16 :a LE:13 :d LE:12 :6e LE:49 :37 UP:33 :d LO:33 :d
   LE:24 EX:4 :8 NU:a :6 NU:a LE:6 UP:16 :3 EX:5 :1 LE:1 LO:16 :fa LE:2a :1 EX:2 :3 LE:2 :10
   LE:3 :37 EX:4 LE:1d :a LE:1 :8 LE:16 EX:b :4 ST:5 :16 LE:12 EX:4 ST:4 :26 LE:15 :1b LE:17 :9
   EX:3 LE:35 EX:f ST:2 :1d NU:a EX:1 LE:2 EX:2 LE:1 :9 EX:4 LE:2d EX:b :2 NU:1 ST:4 EX:1 :a
   NU:1 :2 LE:19 :7 NU:a :6 EX:3 LE:24 EX:e :1 NU:a :1 ST:3 LE:1 EX:2 LE:1 :8 LE:23 EX:1 :2
   LE:1 :9 EX:3 LE:30 EX:e LE:4 ST:2 :2 EX:4 ST:1 EX:2 NU:a LE:1 :1 LE:1 :1 ST:2 :20 LE:12 :1
   LE:19 EX:c ST:2 :1 ST:2 :1 EX:1 LE:2 EX:1 :3e LE:7 :1 LE:1 :1 LE:4 :1 LE:f :1 LE:a ST:1 :6
   LE:2f EX:c :5 NU:a :6 EX:4 :1 LE:8 :2 LE:2 :2 LE:16 :1 LE:7 :1 LE:2 :1 LE:5 :1 EX:2 LE:1
   EX:7 :2 EX:2 :2 EX:3 :2 LE:1 :6 EX:1 :5 LE:5 EX:2 :2 EX:7 :3 EX:5 :b LE:a :1 LE:1 :2 LE:1 :1
   LE:26 :1 LE:1 EX:9 :1 EX:1 :2 EX:1 :1 EX:4 :1 EX:5 LE:1 EX:1 LE:1 ST:2 :b EX:2 :1d LE:35
   EX:12 LE:4 ST:2 :3 NU:a :4 EX:1 LE:3 :1e LE:30 EX:14 LE:2 :1 LE:1 :8 NU:a :a6 LE:2f EX:7 :2
   EX:9 :1 ST:2 :5 ST:f LE:4 EX:2 :22 LE:30 EX:11 ST:2 :1 LE:1 :b NU:a :26 LE:2b EX:d LE:1 :7
   NU:a :6 NU:14 :1c LE:1b :2 EX:f :4 NU:a :2 ST:3 :1 LE:7 :b9 LE:2c EX:f :65 UP:20 LO:20 NU:a
   :15 LE:8 :2 LE:1 :2 LE:8 :1 LE:2 :1 LE:18 EX:6 :1 EX:2 :2 EX:4 LE:1 EX:1 LE:1 EX:2 ST:1 :1
   ST:1 :9 NU:a :46 LE:8 :2 LE:27 EX:7 :2 EX:7 LE:1 :1 LE:1 EX:1 :1b LE:1 EX:a LE:28 EX:7 LE:1
   EX:4 :3 ST:2 :3 EX:1 :8 LE:1 EX:b LE:2e EX:10 :1 ST:2 LE:1 :12 LE:49 :c7 LE:21 :f NU:a :6
   LE:9 :1 LE:25 EX:8 :1 EX:8 LE:1 ST:2 :d NU:a :18 LE:1e :2 EX:16 :1 EX:e :49 LE:7 :1 LE:2 :1
   LE:26 EX:6 :3 EX:1 :1 EX:2 :1 EX:7 LE:1 EX:1 :8 NU:a :6 LE:6 :1 LE:2 :1 LE:20 EX:5 :1 EX:2
   :1 EX:5 LE:1 :7 NU:a :136 LE:13 EX:4 ST:2 :7 EX:2 LE:1 EX:1 LE:d :1 LE:22 EX:7 :3 EX:5 ST:2
   :b NU:a EX:1 :55 LE:1 :4f LE:39a :66 LE:6f :11 LE:c4 :a4c LE:61 :f LE:430 FO:10 EX:1 LE:6
   EX:f :a LE:f9b :5 LE:247 :1ab9 LE:1e EX:12 NU:a :6c6 LE:239 :7 LE:1f :1 NU:a :4 ST:2 LE:4f
   :1 NU:a :6 LE:1e :2 EX:5 ST:1 :a LE:30 EX:7 ST:2 :7 LE:4 ST:1 :b NU:a :9 LE:15 :5 LE:13 :1b0
   LE:2d :1 ST:2 NU:a :c6 UP:20 LO:20 :18 ST:1 :67 LE:4b :4 EX:1 LE:1 EX:37 :7 EX:4 LE:d :40
   LE:2 :1 LE:1 EX:1 :b EX:2 :e LE:17f8 :8 LE:4d6 :29 LE:a :22e7 LE:4 :1 LE:7 :1 LE:2 :1 LE:123
   :f LE:1 :1d LE:3 :2 LE:1 :e LE:4 :8 LE:18c :904 LE:6b :5 LE:d :3 LE:9 :7 LE:a :3 EX:2 ST:1
   FO:4 :104c NU:a :206 EX:2e :2 EX:17 :21e EX:5 :3 EX:6 FO:8 EX:8 :2 EX:7 :1e EX:4 :94 EX:3
   :1bb UP:1a LO:1a UP:1a LO:7 :1 LO:12 UP:1a LO:1a UP:1 :1 UP:2 :2 UP:1 :2 UP:2 :2 UP:4 :1
   UP:8 LO:4 :1 LO:1 :1 LO:7 :1 LO:b UP:1a LO:1a UP:2 :1 UP:4 :2 UP:8 :1 UP:7 :1 LO:1a UP:2 :1
   UP:4 :1 UP:5 :1 UP:1 :3 UP:7 :1 LO:1a UP:1a LO:1a UP:1a LO:1a UP:1a LO:1a UP:1a LO:1a UP:1a
   LO:1a UP:1a LO:1c :2 UP:19 :1 LO:19 :1 LO:6 UP:19 :1 LO:19 :1 LO:6 UP:19 :1 LO:19 :1 LO:6
   UP:19 :1 LO:19 :1 LO:6 UP:19 :1 LO:19 :1 LO:6 UP:1 LO:1 :2 NU:32 :200 EX:37 :4 EX:32 :8 EX:1
   :e EX:1 :3 ST:1 :12 EX:5 :1 EX:f :450 LO:a LE:1 LO:14 :6 LO:6 :d5 EX:7 :1 EX:11 :2 EX:7 :1
   EX:2 :1 EX:5 :5 LO:3e :21 EX:1 :70 LE:2d :3 EX:7 LE:7 :2 NU:a :4 LE:1 :141 LE:1e EX:1 :11
   LE:2c EX:4 NU:a :1d6 LE:1c EX:4 NU:a :d6 LE:1e EX:2 LE:1 NU:a :1e5 LE:7 :1 LE:4 :1 LE:2 :1
   LE:f :1 LE:c5 :b EX:7 :29 UP:22 LO:22 EX:7 LE:1 :4 NU:a :4a6 LE:4 :1 LE:1b :1 LE:2 :1 LE:1
   :2 LE:1 :1 LE:a :1 LE:4 :1 LE:1 :1 LE:1 :6 LE:1 :4 LE:1 :1 LE:1 :1 LE:1 :1 LE:3 :1 LE:2 :1
   LE:1 :2 LE:1 :1 LE:1 :1 LE:1 :1 LE:1 :1 LE:1 :1 LE:2 :1 LE:1 :2 LE:4 :1 LE:7 :1 LE:4 :1 LE:4
   :1 LE:1 :1 LE:a :1 LE:11 :5 LE:3 :1 LE:5 :1 LE:11 :274 UP:1a :6 UP:1a :6 UP:1a :4ec CL:3
   :577 NU:a :406 LE:a6e0 :20 LE:103a :6 LE:de :2 LE:1682 :e LE:1d31 :f LE:26e :9a2 LE:21e :5e2
   LE:134b :5 LE:1060 :adc51 FO:1 :1e EX:60 :80 EX:f0 :2fe10"

/-- The lengths of the runs of code points that count alike where sentences end. -/
def sentenceRuns : List (Nat × List String) := readListedRuns sentenceText

end LayeredSchema.Unicode.Break
