import BrokerClient.Text.Mark

/-!
# Composed characters

Characters that are the same as two others in a row: letters with marks and Hangul syllables. Only
characters that may stand in a name are listed, and so no capital letters.
-/

namespace BrokerClient.Text

/-- A character that is the same as two others in a row. -/
structure Composition where
  first : Char
  second : Char
  composite : Char
  deriving DecidableEq, Repr

/-- For a second part the first parts that it composes with, and what they compose to. -/
def compositionRows : List (Nat × String × String) := [
  (0x300, "aeinouwyâêôüăēōơưαεηιουωϊϋеи",
      "àèìǹòùẁỳầềồǜằḕṑờừὰὲὴὶὸὺὼῒῢѐѝ"),
    (0x300, "ἀἁἐἑἠἡἰἱὀὁὐὑὠὡ", "ἂἃἒἓἢἣἲἳὂὃὒὓὢὣ"),
    (0x301, "acegiklmnoprsuwyzâåæçêïôõøüă",
      "áćéǵíḱĺḿńóṕŕśúẃýźấǻǽḉếḯốṍǿǘắ"),
    (0x301, "ēōũơưαεηιουωϊϋгкἀἁἐἑἠἡἰἱὀὁὐὑ",
      "ḗṓṹớứάέήίόύώΐΰѓќἄἅἔἕἤἥἴἵὄὅὔὕ"),
    (0x301, "ὠὡ", "ὤὥ"),
    (0x302, "aceghijosuwyzạẹọ", "âĉêĝĥîĵôŝûŵŷẑậệộ"),
    (0x303, "aeinouvyâêôăơư", "ãẽĩñõũṽỹẫễỗẵỡữ"),
    (0x304, "aegiouyäæõöüǫȧȯαιυиуḷṛ",
      "āēḡīōūȳǟǣȭȫǖǭǡȱᾱῑῡӣӯḹṝ"),
    (0x306, "aegiouȩαιυаежиуạ", "ăĕğĭŏŭḝᾰῐῠӑӗӂйўặ"),
    (0x307, "abcdefghmnoprstwxyzśšṣ",
      "ȧḃċḋėḟġḣṁṅȯṗṙṡṫẇẋẏżṥṧṩ"),
    (0x308, "aehiotuwxyõūιυаежзиоучыэіәө",
      "äëḧïöẗüẅẍÿṏṻϊϋӓёӝӟӥӧӱӵӹӭїӛӫ"),
    (0x309, "aeiouyâêôăơư", "ảẻỉỏủỷẩểổẳởử"),
    (0x30A, "auwy", "åůẘẙ"),
    (0x30B, "ouу", "őűӳ"),
    (0x30C, "acdeghijklnorstuzüʒ", "ǎčďěǧȟǐǰǩľňǒřšťǔžǚǯ"),
    (0x30F, "aeioruѵ", "ȁȅȉȍȑȕѷ"),
    (0x311, "aeioru", "ȃȇȋȏȓȗ"),
    (0x313, "αεηιορυω", "ἀἐἠἰὀῤὐὠ"),
    (0x314, "αεηιορυω", "ἁἑἡἱὁῥὑὡ"),
    (0x31B, "ou", "ơư"),
    (0x323, "abdehiklmnorstuvwyzơư",
      "ạḅḍẹḥịḳḷṃṇọṛṣṭụṿẉỵẓợự"),
    (0x324, "u", "ṳ"),
    (0x325, "a", "ḁ"),
    (0x326, "st", "șț"),
    (0x327, "cdeghklnrst", "çḑȩģḩķļņŗşţ"),
    (0x328, "aeiou", "ąęįǫų"),
    (0x32D, "delntu", "ḓḙḽṋṱṷ"),
    (0x32E, "h", "ḫ"),
    (0x330, "eiu", "ḛḭṵ"),
    (0x331, "bdhklnrtz", "ḇḏẖḵḻṉṟṯẕ"),
    (0x338, "<=>←→↔⇐⇒⇔∃∈∋∣∥∼≃≅≈≍≡≤≥≲≳≶≷≺≻",
      "≮≠≯↚↛↮⇍⇏⇎∄∉∌∤∦≁≄≇≉≭≢≰≱≴≵≸≹⊀⊁"),
    (0x338, "≼≽⊂⊃⊆⊇⊑⊒⊢⊨⊩⊫⊲⊳⊴⊵", "⋠⋡⊄⊅⊈⊉⋢⋣⊬⊭⊮⊯⋪⋫⋬⋭"),
    (0x342, "αηιυωϊϋἀἁἠἡἰἱὐὑὠὡ", "ᾶῆῖῦῶῗῧἆἇἦἧἶἷὖὗὦὧ"),
    (0x653, "\u0627", "\u0622"),
    (0x654, "\u0627\u0648\u064A\u06C1\u06D2\u06D5", "\u0623\u0624\u0626\u06C2\u06D3\u06C0"),
    (0x655, "\u0627", "\u0625"),
    (0x93C, "नरळ", "ऩऱऴ"),
    (0x9BE, "\u09C7", "\u09CB"),
    (0x9D7, "\u09C7", "\u09CC"),
    (0xB3E, "\u0B47", "\u0B4B"),
    (0xB56, "\u0B47", "\u0B48"),
    (0xB57, "\u0B47", "\u0B4C"),
    (0xBBE, "\u0BC6\u0BC7", "\u0BCA\u0BCB"),
    (0xBD7, "ஒ\u0BC6", "ஔ\u0BCC"),
    (0xC56, "\u0C46", "\u0C48"),
    (0xCC2, "\u0CC6", "\u0CCA"),
    (0xCD5, "\u0CBF\u0CC6\u0CCA", "\u0CC0\u0CC7\u0CCB"),
    (0xCD6, "\u0CC6", "\u0CC8"),
    (0xD3E, "\u0D46\u0D47", "\u0D4A\u0D4B"),
    (0xD57, "\u0D46", "\u0D4C"),
    (0xDCA, "\u0DD9\u0DDC", "\u0DDA\u0DDD"),
    (0xDCF, "\u0DD9", "\u0DDC"),
    (0xDDF, "\u0DD9", "\u0DDE"),
    (0x102E, "ဥ", "ဦ"),
    (0x1B35, "ᬅᬇᬉᬋᬍᬑ\u1B3A\u1B3C\u1B3E\u1B3F\u1B42", "ᬆᬈᬊᬌᬎᬒ\u1B3B\u1B3D\u1B40\u1B41\u1B43"),
    (0x3099, "うかきくけこさしすせそたちつてとはひふへほゝウカキクケコ",
      "ゔがぎぐげござじずぜぞだぢづでどばびぶべぼゞヴガギグゲゴ"),
    (0x3099, "サシスセソタチツテトハヒフヘホワヰヱヲヽ", "ザジズゼゾダヂヅデドバビブベボヷヸヹヺヾ"),
    (0x309A, "はひふへほハヒフヘホ", "ぱぴぷぺぽパピプペポ")]

/-- First part, second part and composite of those that are not in the rows. -/
def furtherCompositions : List (Nat × Nat × Nat) := [
  (0x105D2, 0x307, 0x105C9), (0x105DA, 0x307, 0x105E4), (0x11099, 0x110BA, 0x1109A),
    (0x1109B, 0x110BA, 0x1109C), (0x110A5, 0x110BA, 0x110AB), (0x11131, 0x11127, 0x1112E),
    (0x11132, 0x11127, 0x1112F), (0x11347, 0x1133E, 0x1134B), (0x11347, 0x11357, 0x1134C),
    (0x11382, 0x113C9, 0x11383), (0x11384, 0x113BB, 0x11385), (0x1138B, 0x113C2, 0x1138E),
    (0x11390, 0x113C9, 0x11391), (0x113C2, 0x113C2, 0x113C5), (0x113C2, 0x113B8, 0x113C7),
    (0x113C2, 0x113C9, 0x113C8), (0x114B9, 0x114BA, 0x114BB), (0x114B9, 0x114B0, 0x114BC),
    (0x114B9, 0x114BD, 0x114BE), (0x115B8, 0x115AF, 0x115BA), (0x115B9, 0x115AF, 0x115BB),
    (0x11935, 0x11930, 0x11938), (0x1611E, 0x1611E, 0x16121), (0x1611E, 0x16129, 0x16122),
    (0x1611E, 0x1611F, 0x16123), (0x16129, 0x1611F, 0x16124), (0x1611E, 0x16120, 0x16125),
    (0x16121, 0x1611F, 0x16126), (0x16122, 0x1611F, 0x16127), (0x16121, 0x16120, 0x16128),
    (0x16D67, 0x16D67, 0x16D68), (0x16D63, 0x16D67, 0x16D69), (0x16D69, 0x16D67, 0x16D6A)]

def compositions : List Composition :=
  (compositionRows.flatMap fun (second, firsts, composites) =>
    (firsts.toList.zip composites.toList).map fun (first, composite) =>
      ⟨first, Char.ofNat second, composite⟩)
    ++ furtherCompositions.map fun (first, second, composite) =>
      ⟨Char.ofNat first, Char.ofNat second, Char.ofNat composite⟩

def hangulBase : Nat := 0xAC00

/-- The two parts of a Hangul syllable: two letters, or a shorter syllable and a third letter. -/
def hangulParts? (n : Nat) : Option (Nat × Nat) :=
  if hangulBase ≤ n && n ≤ 0xD7A3 then
    let i := n - hangulBase
    if i % 28 = 0 then some (0x1100 + i / 588, 0x1161 + i % 588 / 28)
    else some (n - i % 28, 0x11A7 + i % 28)
  else none

/-- The Hangul syllable of two parts. -/
def hangulComposite? (first second : Nat) : Option Nat :=
  if 0x1100 ≤ first && first ≤ 0x1112 && 0x1161 ≤ second && second ≤ 0x1175 then
    some (hangulBase + ((first - 0x1100) * 21 + (second - 0x1161)) * 28)
  else if hangulBase ≤ first && first ≤ 0xD7A3 && (first - hangulBase) % 28 = 0
      && 0x11A8 ≤ second && second ≤ 0x11C2 then
    some (first + (second - 0x11A7))
  else none

def parts? (c : Char) : Option (Char × Char) :=
  match hangulParts? c.toNat with
  | some (a, b) => some (Char.ofNat a, Char.ofNat b)
  | none => (compositions.find? (·.composite = c)).map fun p => (p.first, p.second)

def composite? (a b : Char) : Option Char :=
  match hangulComposite? a.toNat b.toNat with
  | some n => some (Char.ofNat n)
  | none => (compositions.find? fun p => p.second = b && p.first = a).map (·.composite)

end BrokerClient.Text
