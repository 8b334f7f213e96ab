import CredentialSync.Url.MarkOrder

/-!
# Letters with marks

A letter and a mark on it may be one character or two. Texts that look the same are made equal in
two steps: letters with marks are taken apart and their marks brought into order, then every mark
that makes one character with its letter is joined to it (`compose`).

Syllables of the Korean alphabet are joined by calculation: a leading consonant and a vowel make
one, and a trailing consonant may follow.
-/

namespace CredentialSync.Url.Accents

/-! ## 1. Which two make one -/

/-- A mark, and in turn each letter and what the two make. -/
def accented : List (Nat × String) := [
  (0x300, "aàeèiìoòuùüǜnǹеѐиѝēḕōṑwẁâầăằêềôồơờưừyỳἀἂἁἃἐἒἑἓἠἢἡἣἰἲἱἳὀὂὁὃὐὒὑὓὠὢὡὣαὰεὲηὴιὶ"),
  (0x300, "οὸυὺωὼϊῒϋῢ"),
  (0x301, "aáeéiíoóuúyýcćlĺnńrŕsśzźüǘgǵåǻæǽøǿϊΐαάεέηήιίϋΰοόυύωώгѓкќçḉēḗïḯkḱmḿõṍōṓpṕũṹ"),
  (0x301, "wẃâấăắêếôốơớưứἀἄἁἅἐἔἑἕἠἤἡἥἰἴἱἵὀὄὁὅὐὔὑὕὠὤὡὥ"),
  (0x302, "aâeêiîoôuûcĉgĝhĥjĵsŝwŵyŷzẑạậẹệọộ"), (0x303, "aãnñoõiĩuũvṽâẫăẵeẽêễôỗơỡưữyỹ"),
  (0x304, "aāeēiīoōuūüǖäǟȧǡæǣǫǭöȫõȭȯȱyȳиӣуӯgḡḷḹṛṝαᾱιῑυῡ"),
  (0x306, "aăeĕgğiĭoŏuŭийуўжӂаӑеӗȩḝạặαᾰιῐυῠ"),
  (0x307, "cċeėgġzżaȧoȯbḃdḋfḟhḣmṁnṅpṗrṙsṡśṥšṧṣṩtṫwẇxẋyẏ"),
  (0x308, "aäeëiïoöuüyÿιϊυϋеёіїаӓәӛжӝзӟиӥоӧөӫэӭуӱчӵыӹhḧõṏūṻwẅxẍtẗ"),
  (0x309, "aảâẩăẳeẻêểiỉoỏôổơởuủưửyỷ"), (0x30a, "aåuůwẘyẙ"), (0x30b, "oőuűуӳ"),
  (0x30c, "cčdďeělľnňrřsštťzžaǎiǐoǒuǔüǚgǧkǩʒǯjǰhȟ"), (0x30f, "aȁeȅiȉoȍrȑuȕѵѷ"),
  (0x311, "aȃeȇiȋoȏrȓuȗ"), (0x313, "αἀεἐηἠιἰοὀυὐωὠρῤ"), (0x314, "αἁεἑηἡιἱοὁυὑωὡρῥ"),
  (0x31b, "oơuư"), (0x323, "bḅdḍhḥkḳlḷmṃnṇrṛsṣtṭvṿwẉzẓaạeẹiịoọơợuụưựyỵ"), (0x324, "uṳ"),
  (0x325, "aḁ"), (0x326, "sștț"), (0x327, "cçgģkķlļnņrŗsştţeȩdḑhḩ"), (0x328, "aąeęiįuųoǫ"),
  (0x32d, "dḓeḙlḽnṋtṱuṷ"), (0x32e, "hḫ"), (0x330, "eḛiḭuṵ"), (0x331, "bḇdḏkḵlḻnṉrṟtṯzẕhẖ"),
  (0x338, "←↚→↛↔↮⇐⇍⇔⇎⇒⇏∃∄∈∉∋∌∣∤∥∦∼≁≃≄≅≇≈≉=≠≡≢≍≭<≮>≯≤≰≥≱≲≴≳≵≶≸≷≹≺⊀≻⊁⊂⊄⊃⊅⊆⊈⊇⊉⊢⊬⊨⊭⊩⊮⊫⊯≼⋠"),
  (0x338, "≽⋡⊑⋢⊒⋣⊲⋪⊳⋫⊴⋬⊵⋭"), (0x342, "ἀἆἁἇἠἦἡἧἰἶἱἷὐὖὑὗὠὦὡὧαᾶηῆιῖϊῗυῦϋῧωῶ"),
  (0x653, "\u0627\u0622"),
  (0x654, "\u0627\u0623\u0648\u0624\u064a\u0626\u06d5\u06c0\u06c1\u06c2\u06d2\u06d3"),
  (0x655, "\u0627\u0625"), (0x93c, "नऩरऱळऴ"), (0x9be, "\u09c7\u09cb"), (0x9d7, "\u09c7\u09cc"),
  (0xb3e, "\u0b47\u0b4b"), (0xb56, "\u0b47\u0b48"), (0xb57, "\u0b47\u0b4c"),
  (0xbbe, "\u0bc6\u0bca\u0bc7\u0bcb"), (0xbd7, "ஒஔ\u0bc6\u0bcc"), (0xc56, "\u0c46\u0c48"),
  (0xcc2, "\u0cc6\u0cca"), (0xcd5, "\u0cbf\u0cc0\u0cc6\u0cc7\u0cca\u0ccb"),
  (0xcd6, "\u0cc6\u0cc8"), (0xd3e, "\u0d46\u0d4a\u0d47\u0d4b"), (0xd57, "\u0d46\u0d4c"),
  (0xdca, "\u0dd9\u0dda\u0ddc\u0ddd"), (0xdcf, "\u0dd9\u0ddc"), (0xddf, "\u0dd9\u0dde"),
  (0x102e, "ဥဦ"),
  (0x1b35, "ᬅᬆᬇᬈᬉᬊᬋᬌᬍᬎᬑᬒ\u1b3a\u1b3b\u1b3c\u1b3d\u1b3e\u1b40\u1b3f\u1b41\u1b42\u1b43"),
  (0x3099, "かがきぎくぐけげこごさざしじすずせぜそぞただちぢつづてでとどはばひびふぶへべほぼうゔゝゞカガキギクグケゲコゴサザシジスズセゼソゾタダチヂツヅテデトド"),
  (0x3099, "ハバヒビフブヘベホボウヴワヷヰヸヱヹヲヺヽヾ"),
  (0x309a, "はぱひぴふぷへぺほぽハパヒピフプヘペホポ")]

/-- Letters beyond the first plane: letter, mark, and what they make. -/
def rare : List (Nat × Nat × Nat) := [
  (0x105d2, 0x307, 0x105c9), (0x105da, 0x307, 0x105e4), (0x11099, 0x110ba, 0x1109a),
  (0x1109b, 0x110ba, 0x1109c), (0x110a5, 0x110ba, 0x110ab), (0x11131, 0x11127, 0x1112e),
  (0x11132, 0x11127, 0x1112f), (0x11347, 0x1133e, 0x1134b), (0x11347, 0x11357, 0x1134c),
  (0x11382, 0x113c9, 0x11383), (0x11384, 0x113bb, 0x11385), (0x1138b, 0x113c2, 0x1138e),
  (0x11390, 0x113c9, 0x11391), (0x113c2, 0x113c2, 0x113c5), (0x113c2, 0x113b8, 0x113c7),
  (0x113c2, 0x113c9, 0x113c8), (0x114b9, 0x114ba, 0x114bb), (0x114b9, 0x114b0, 0x114bc),
  (0x114b9, 0x114bd, 0x114be), (0x115b8, 0x115af, 0x115ba), (0x115b9, 0x115af, 0x115bb),
  (0x11935, 0x11930, 0x11938), (0x1611e, 0x1611e, 0x16121), (0x1611e, 0x16129, 0x16122),
  (0x1611e, 0x1611f, 0x16123), (0x16129, 0x1611f, 0x16124), (0x1611e, 0x16120, 0x16125),
  (0x16121, 0x1611f, 0x16126), (0x16122, 0x1611f, 0x16127), (0x16121, 0x16120, 0x16128),
  (0x16d67, 0x16d67, 0x16d68), (0x16d63, 0x16d67, 0x16d69), (0x16d69, 0x16d67, 0x16d6a)]

/-- Takes the characters of an `accented` entry two by two. -/
def pairsOf (mark : Nat) : List Char → List (Nat × Nat × Nat)
  | letter :: joined :: rest => (letter.toNat, mark, joined.toNat) :: pairsOf mark rest
  | _ => []

/-- Letter, mark, and what they make. -/
def pairs : List (Nat × Nat × Nat) :=
  (accented.flatMap fun (mark, letters) => pairsOf mark letters.toList) ++ rare

/-- The marks that make one character with some letter. -/
def joiningMarks : List Nat := (pairs.map (·.2.1)).eraseDups

/-- The syllable that two parts of one make. -/
def syllable? (a b : Nat) : Option Nat :=
  if 0x1100 ≤ a && a < 0x1113 && 0x1161 ≤ b && b < 0x1176 then
    some (0xac00 + ((a - 0x1100) * 21 + (b - 0x1161)) * 28)
  else if 0xac00 ≤ a && a < 0xd7a4 && (a - 0xac00) % 28 == 0 && 0x11a7 < b && b < 0x11c3 then
    some (a + (b - 0x11a7))
  else none

/-- The character that two neighbours make. -/
def join? (a b : Nat) : Option Nat :=
  if joiningMarks.contains b then (pairs.find? fun (x, m, _) => x == a && m == b).map (·.2.2)
  else syllable? a b

/-! ## 2. Taking apart and bringing into order -/

/-- The letter and the marks that a character is made of. No letter of the table carries more than
four marks, which `depth` counts. -/
def takeApart : Nat → Nat → List Nat
  | 0, c => [c]
  | depth + 1, c =>
    match pairs.find? fun (_, _, joined) => joined == c with
    | some (letter, mark, _) => takeApart depth letter ++ [mark]
    | none => [c]

/-- Sorts the marks in `run` by class, those of one class in the order they have, and puts them in
front of what follows. -/
def settle (run : List Nat) (rest : List Nat) : List Nat :=
  run.mergeSort (fun a b => MarkOrder.classOf a ≤ MarkOrder.classOf b) ++ rest

/-- Brings every row of marks into order; `run` holds the marks just read. -/
def inOrder (run : List Nat) : List Nat → List Nat
  | [] => settle run []
  | c :: cs =>
    if MarkOrder.classOf c == 0 then settle run (c :: inOrder [] cs) else inOrder (run ++ [c]) cs

/-! ## 3. Putting together -/

/-- Joins what follows to `letter` where the two make one character. `marks` holds the marks behind
the letter that stay apart, last one first; a mark reaches the letter only past marks of lower
classes. -/
def joinOnto (letter : Nat) (marks : List Nat) : List Nat → List Nat
  | [] => letter :: marks.reverse
  | c :: cs =>
    let free :=
      match marks with
      | [] => true
      | m :: _ => MarkOrder.classOf m < MarkOrder.classOf c
    match if free then join? letter c else none with
    | some joined => joinOnto joined marks cs
    | none =>
      if MarkOrder.classOf c == 0 then letter :: (marks.reverse ++ joinOnto c [] cs)
      else joinOnto letter (c :: marks) cs

/-- Joins every mark to its letter where the two make one character. Marks in front of the first
letter stay. -/
def joined : List Nat → List Nat
  | [] => []
  | c :: cs => if MarkOrder.classOf c == 0 then joinOnto c [] cs else c :: joined cs

/-- The text with its letters and marks in their one form. -/
def compose (cs : List Nat) : List Nat := joined (inOrder [] (cs.flatMap (takeApart 4)))

end CredentialSync.Url.Accents
