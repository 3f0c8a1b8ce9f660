import BrokerClient.Text.Mark

/-!
# What characters of domain names are folded into

Capital letters into small ones, and variants of letters and digits into the letters and digits that
they stand for: full and half width, circled, raised, in a mathematical style, joined or in the form
for a place in a word. Full stops of all scripts become points.
-/

namespace BrokerClient.Uri

open BrokerClient.Text

/-- Ranges in which every other character, from the first on, is a capital before its small one. -/
def alternatingCapitals : List (Nat × Nat) := [
  (0x100, 0x12E), (0x134, 0x136), (0x139, 0x13D), (0x141, 0x147), (0x14A, 0x176), (0x179, 0x17D),
    (0x182, 0x184), (0x1A0, 0x1A4), (0x1B3, 0x1B5), (0x1CD, 0x1DB), (0x1DE, 0x1EE), (0x1F8, 0x21E),
    (0x222, 0x232), (0x246, 0x24E), (0x370, 0x372), (0x3D8, 0x3EE), (0x460, 0x480), (0x48A, 0x4BE),
    (0x4C1, 0x4CD), (0x4D0, 0x52E), (0x1E00, 0x1E94), (0x1EA0, 0x1EFE), (0x2C67, 0x2C6B),
    (0x2C80, 0x2CE2), (0x2CEB, 0x2CED), (0xA640, 0xA66C), (0xA680, 0xA69A), (0xA722, 0xA72E),
    (0xA732, 0xA76E), (0xA779, 0xA77B), (0xA77E, 0xA786), (0xA790, 0xA792), (0xA796, 0xA7A8),
    (0xA7B4, 0xA7C2), (0xA7C7, 0xA7C9), (0xA7CC, 0xA7DA)]

/-- Ranges that are folded in the same order into others, of which the first code point is given. -/
def shiftedRanges : List (Nat × Nat × Nat) := [
  (0xC0, 0xD6, 0xE0), (0xD8, 0xDE, 0xF8), (0x391, 0x3A1, 0x3B1), (0x3A3, 0x3AB, 0x3C3),
    (0x400, 0x40F, 0x450), (0x410, 0x42F, 0x430), (0x531, 0x556, 0x561), (0x10A0, 0x10C5, 0x2D00),
    (0x13F8, 0x13FD, 0x13F0), (0x1C90, 0x1CBA, 0x10D0), (0x1D33, 0x1D3A, 0x67),
    (0x1DAE, 0x1DB1, 0x272), (0x1F08, 0x1F0F, 0x1F00), (0x1F18, 0x1F1D, 0x1F10),
    (0x1F28, 0x1F2F, 0x1F20), (0x1F38, 0x1F3F, 0x1F30), (0x1F48, 0x1F4D, 0x1F40),
    (0x1F68, 0x1F6F, 0x1F60), (0x2074, 0x2079, 0x34), (0x2080, 0x2089, 0x30),
    (0x2096, 0x2099, 0x6B), (0x2135, 0x2138, 0x5D0), (0x2460, 0x2468, 0x31), (0x24B6, 0x24CF, 0x61),
    (0x24D0, 0x24E9, 0x61), (0x2C00, 0x2C2F, 0x2C30), (0x313A, 0x313F, 0x11B0),
    (0x3145, 0x314E, 0x1109), (0x314F, 0x3163, 0x1161), (0x3178, 0x317C, 0x112B),
    (0x3269, 0x326D, 0x110E), (0x32E4, 0x32E9, 0x30CA), (0x32EE, 0x32F2, 0x30DE),
    (0x32F5, 0x32FA, 0x30E8), (0x32FB, 0x32FE, 0x30EF), (0xAB70, 0xABBF, 0x13A0),
    (0xFE41, 0xFE44, 0x300C), (0xFF01, 0xFF20, 0x21), (0xFF21, 0xFF3A, 0x61),
    (0xFF3B, 0xFF5E, 0x5B), (0xFF85, 0xFF8A, 0x30CA), (0xFF8F, 0xFF93, 0x30DE),
    (0xFF96, 0xFF9B, 0x30E8), (0xFFAA, 0xFFAF, 0x11B0), (0xFFB5, 0xFFBE, 0x1109),
    (0xFFC2, 0xFFC7, 0x1161), (0xFFCA, 0xFFCF, 0x1167), (0xFFD2, 0xFFD7, 0x116D),
    (0xFFE9, 0xFFEC, 0x2190), (0x10400, 0x10427, 0x10428), (0x104B0, 0x104D3, 0x104D8),
    (0x10570, 0x1057A, 0x10597), (0x1057C, 0x1058A, 0x105A3), (0x1058C, 0x10592, 0x105B3),
    (0x10C80, 0x10CB2, 0x10CC0), (0x10D50, 0x10D65, 0x10D70), (0x118A0, 0x118BF, 0x118C0),
    (0x16E40, 0x16E5F, 0x16E60), (0x16EA0, 0x16EB8, 0x16EBB), (0x1CCD6, 0x1CCEF, 0x61),
    (0x1CCF0, 0x1CCF9, 0x30), (0x1D400, 0x1D419, 0x61), (0x1D41A, 0x1D433, 0x61),
    (0x1D434, 0x1D44D, 0x61), (0x1D44E, 0x1D454, 0x61), (0x1D456, 0x1D467, 0x69),
    (0x1D468, 0x1D481, 0x61), (0x1D482, 0x1D49B, 0x61), (0x1D4A9, 0x1D4AC, 0x6E),
    (0x1D4AE, 0x1D4B5, 0x73), (0x1D4B6, 0x1D4B9, 0x61), (0x1D4BD, 0x1D4C3, 0x68),
    (0x1D4C5, 0x1D4CF, 0x70), (0x1D4D0, 0x1D4E9, 0x61), (0x1D4EA, 0x1D503, 0x61),
    (0x1D507, 0x1D50A, 0x64), (0x1D50D, 0x1D514, 0x6A), (0x1D516, 0x1D51C, 0x73),
    (0x1D51E, 0x1D537, 0x61), (0x1D53B, 0x1D53E, 0x64), (0x1D540, 0x1D544, 0x69),
    (0x1D54A, 0x1D550, 0x73), (0x1D552, 0x1D56B, 0x61), (0x1D56C, 0x1D585, 0x61),
    (0x1D586, 0x1D59F, 0x61), (0x1D5A0, 0x1D5B9, 0x61), (0x1D5BA, 0x1D5D3, 0x61),
    (0x1D5D4, 0x1D5ED, 0x61), (0x1D5EE, 0x1D607, 0x61), (0x1D608, 0x1D621, 0x61),
    (0x1D622, 0x1D63B, 0x61), (0x1D63C, 0x1D655, 0x61), (0x1D656, 0x1D66F, 0x61),
    (0x1D670, 0x1D689, 0x61), (0x1D68A, 0x1D6A3, 0x61), (0x1D6A8, 0x1D6B8, 0x3B1),
    (0x1D6BA, 0x1D6C0, 0x3C3), (0x1D6C2, 0x1D6D2, 0x3B1), (0x1D6D4, 0x1D6DA, 0x3C3),
    (0x1D6E2, 0x1D6F2, 0x3B1), (0x1D6F4, 0x1D6FA, 0x3C3), (0x1D6FC, 0x1D70C, 0x3B1),
    (0x1D70E, 0x1D714, 0x3C3), (0x1D71C, 0x1D72C, 0x3B1), (0x1D72E, 0x1D734, 0x3C3),
    (0x1D736, 0x1D746, 0x3B1), (0x1D748, 0x1D74E, 0x3C3), (0x1D756, 0x1D766, 0x3B1),
    (0x1D768, 0x1D76E, 0x3C3), (0x1D770, 0x1D780, 0x3B1), (0x1D782, 0x1D788, 0x3C3),
    (0x1D790, 0x1D7A0, 0x3B1), (0x1D7A2, 0x1D7A8, 0x3C3), (0x1D7AA, 0x1D7BA, 0x3B1),
    (0x1D7BC, 0x1D7C2, 0x3C3), (0x1D7CE, 0x1D7D7, 0x30), (0x1D7D8, 0x1D7E1, 0x30),
    (0x1D7E2, 0x1D7EB, 0x30), (0x1D7EC, 0x1D7F5, 0x30), (0x1D7F6, 0x1D7FF, 0x30),
    (0x1E030, 0x1E038, 0x430), (0x1E03C, 0x1E046, 0x43E), (0x1E051, 0x1E059, 0x430),
    (0x1E05F, 0x1E064, 0x443), (0x1E900, 0x1E921, 0x1E922), (0x1EE0A, 0x1EE0D, 0x643),
    (0x1EE2A, 0x1EE2D, 0x643), (0x1F130, 0x1F149, 0x61), (0x1FBF0, 0x1FBF9, 0x30)]

/-- The characters that successive code points are folded into. -/
def singleFoldings : List (Nat × String) := [
  (0xA0, " "), (0xAA, "a"), (0xB2, "23"), (0xB5, "μ"), (0xB9, "1o"), (0x178, "ÿ"), (0x17F, "s"),
    (0x181, "ɓ"), (0x186, "ɔƈ"), (0x189, "ɖɗƌ"), (0x18E, "ǝəɛƒ"), (0x193, "ɠɣ"), (0x196, "ɩɨƙ"),
    (0x19C, "ɯɲ"), (0x19F, "ɵ"), (0x1A6, "ʀƨ"), (0x1A9, "ʃ"), (0x1AC, "ƭ"), (0x1AE, "ʈư"),
    (0x1B1, "ʊʋ"), (0x1B7, "ʒƹ"), (0x1BC, "ƽ"), (0x1F4, "ǵ"), (0x1F6, "ƕƿ"), (0x220, "ƞ"),
    (0x23A, "ⱥȼ"), (0x23D, "ƚⱦ"), (0x241, "ɂ"), (0x243, "ƀʉʌ"), (0x2B0, "hɦjrɹɻʁwy"),
    (0x2E0, "ɣlsxʕ"), (0x340, "\u0300\u0301"), (0x343, "\u0313"), (0x345, "ι"), (0x374, "ʹ"),
    (0x376, "ͷ"), (0x37E, ";ϳ"), (0x386, "ά·έήί"), (0x38C, "ό"), (0x38E, "ύώ"),
    (0x3CF, "ϗβθυύϋφπ"), (0x3F0, "κρσ"), (0x3F4, "θε"), (0x3F7, "ϸ"), (0x3F9, "σϻ"),
    (0x3FD, "ͻͼͽ"), (0x4C0, "ӏ"), (0xF0C, "་"), (0x10C7, "ⴧ"), (0x10CD, "ⴭ"), (0x10FC, "ნ"),
    (0x1C80, "вдосттъѣꙋᲊ"), (0x1CBD, "ჽჾჿ"), (0x1D2C, "aæb"), (0x1D30, "deǝ"),
    (0x1D3C, "oȣprtuwaɐɑᴂbdeəɛɜg"), (0x1D4F, "kmŋoɔᴖᴗptuᴝɯvᴥβγδφχiruvβγρφχ"), (0x1D78, "н"),
    (0x1D9B, "ɒcɕðɜfɟɡɥɨɩɪᵻʝɭᶅʟɱɰ"), (0x1DB2, "ɸʂʃƫʉʊᴜʋʌzʐʑʒθ"), (0x1E9B, "ṡ"), (0x1E9E, "ß"),
    (0x1F59, "ὑ"), (0x1F5B, "ὓ"), (0x1F5D, "ὕ"), (0x1F5F, "ὗ"), (0x1F71, "ά"), (0x1F73, "έ"),
    (0x1F75, "ή"), (0x1F77, "ί"), (0x1F79, "ό"), (0x1F7B, "ύ"), (0x1F7D, "ώ"), (0x1FB8, "ᾰᾱὰά"),
    (0x1FBE, "ι"), (0x1FC8, "ὲέὴή"), (0x1FD3, "ΐ"), (0x1FD8, "ῐῑὶί"), (0x1FE3, "ΰ"),
    (0x1FE8, "ῠῡὺύῥ"), (0x1FEF, "`"), (0x1FF8, "ὸόὼώ"), (0x2000, "           "), (0x2011, "‐"),
    (0x202F, " "), (0x205F, " "), (0x2070, "0i"), (0x207A, "+−=()n"), (0x208A, "+−=()"),
    (0x2090, "aeoxəh"), (0x209A, "pst"), (0x2102, "c"), (0x2107, "ɛ"), (0x210A, "ghhhhħiill"),
    (0x2115, "n"), (0x2119, "pqrrr"), (0x2124, "z"), (0x2126, "ω"), (0x2128, "z"),
    (0x212A, "kåbc"), (0x212F, "eefⅎmo"), (0x2139, "i"), (0x213C, "πγγπ∑"), (0x2145, "ddeij"),
    (0x2160, "i"), (0x2164, "v"), (0x2169, "x"), (0x216C, "lcdmi"), (0x2174, "v"), (0x2179, "x"),
    (0x217C, "lcdm"), (0x2183, "ↄ"), (0x2329, "〈〉"), (0x24EA, "0"), (0x2C60, "ⱡ"),
    (0x2C62, "ɫᵽɽ"), (0x2C6D, "ɑɱɐɒ"), (0x2C72, "ⱳ"), (0x2C75, "ⱶ"), (0x2C7C, "jvȿɀ"),
    (0x2CF2, "ⳳ"), (0x2D6F, "ⵡ"), (0x2E9F, "母"), (0x2EF3, "龟"),
    (0x2F00, "一丨丶丿乙亅二亠人儿入八冂冖冫几凵刀力勹匕匚匸十卜卩厂厶又口囗土士夂夊夕大女子宀"),
    (0x2F28, "寸小尢尸屮山巛工己巾干幺广廴廾弋弓彐彡彳心戈戶手支攴文斗斤方无日曰月木欠止歹殳毋"),
    (0x2F50, "比毛氏气水火爪父爻爿片牙牛犬玄玉瓜瓦甘生用田疋疒癶白皮皿目矛矢石示禸禾穴立竹米糸"),
    (0x2F78, "缶网羊羽老而耒耳聿肉臣自至臼舌舛舟艮色艸虍虫血行衣襾見角言谷豆豕豸貝赤走足身車辛"),
    (0x2FA0, "辰辵邑酉釆里金長門阜隶隹雨靑非面革韋韭音頁風飛食首香馬骨高髟鬥鬯鬲鬼魚鳥鹵鹿麥麻"), (0x2FC8, "黃黍黑黹黽鼎鼓鼠鼻齊齒龍龜龠"),
    (0x3000, " "), (0x3002, "."), (0x3036, "〒"), (0x3038, "十卄卅"), (0x3131,
    "\u1100\u1101\u11AA\u1102\u11AC\u11AD\u1103\u1104\u1105"),
    (0x3140, "\u111A\u1106\u1107\u1108\u1121"), (0x3165,
    "\u1114\u1115\u11C7\u11C8\u11CC\u11CE\u11D3\u11D7\u11D9\u111C\u11DD\u11DF\u111D"),
    (0x3172, "\u111E\u1120\u1122\u1123\u1127\u1129"), (0x317D,
    "\u1132\u1136\u1140\u1147\u114C\u11F1\u11F2\u1157\u1158\u1159\u1184\u1185\u1188"),
    (0x318A, "\u1191\u1192\u1194\u119E\u11A1"), (0x3192, "一二三四上中下甲乙丙丁天地人"), (0x3244, "問幼文箏"),
    (0x3260, "\u1100\u1102\u1103\u1105\u1106\u1107\u1109\u110B\u110C"),
    (0x326E, "가나다라마바사아자차카타파하"), (0x327E, "우"),
    (0x3280, "一二三四五六七八九十月火水木金土日株有社名特財祝労秘男女適優印注項休写正上中下左"), (0x32A8, "右医宗学監企資協夜"),
    (0x32D0, "アイウエオカキクケコサシスセソタチツテト"), (0x32EA, "ヒフヘホ"), (0x32F3, "ヤユ"), (0xA69C, "ъь"),
    (0xA770, "ꝯ"), (0xA77D, "ᵹ"), (0xA78B, "ꞌ"), (0xA78D, "ɥ"), (0xA7AA, "ɦɜɡɬɪ"),
    (0xA7B0, "ʞʇʝꭓ"), (0xA7C4, "ꞔʂᶎ"), (0xA7CB, "ɤ"), (0xA7DC, "ƛ"), (0xA7F1, "scfqꟶ"),
    (0xA7F8, "ħœ"), (0xAB5C, "ꜧꬷɫꭒ"), (0xAB69, "ʍ"),
    (0xF900, "豈更車賈滑串句龜龜契金喇奈懶癩羅蘿螺裸邏樂洛烙珞落酪駱亂卵欄爛蘭鸞嵐濫藍襤拉臘蠟"),
    (0xF928, "廊朗浪狼郎來冷勞擄櫓爐盧老蘆虜路露魯鷺碌祿綠菉錄鹿論壟弄籠聾牢磊賂雷壘屢樓淚漏累"),
    (0xF950, "縷陋勒肋凜凌稜綾菱陵讀拏樂諾丹寧怒率異北磻便復不泌數索參塞省葉說殺辰沈拾若掠略亮"),
    (0xF978, "兩凉梁糧良諒量勵呂女廬旅濾礪閭驪麗黎力曆歷轢年憐戀撚漣煉璉秊練聯輦蓮連鍊列劣咽烈"),
    (0xF9A0, "裂說廉念捻殮簾獵令囹寧嶺怜玲瑩羚聆鈴零靈領例禮醴隸惡了僚寮尿料樂燎療蓼遼龍暈阮劉"),
    (0xF9C8, "杻柳流溜琉留硫紐類六戮陸倫崙淪輪律慄栗率隆利吏履易李梨泥理痢罹裏裡里離匿溺吝燐璘"),
    (0xF9F0, "藺隣鱗麟林淋臨立笠粒狀炙識什茶刺切度拓糖宅洞暴輻行降見廓兀嗀"), (0xFA10, "塚"), (0xFA12, "晴"),
    (0xFA15, "凞猪益礼神祥福靖精羽"), (0xFA20, "蘒"), (0xFA22, "諸"), (0xFA25, "逸都"),
    (0xFA2A, "飯飼館鶴郞隷侮僧免勉勤卑喝嘆器塀墨層屮悔慨憎懲敏既暑梅海渚漢煮爫琢碑社祉祈祐祖祝"),
    (0xFA52, "禍禎穀突節練縉繁署者臭艹艹著褐視謁謹賓贈辶逸難響頻恵𤋮舘"),
    (0xFA70, "並况全侀充冀勇勺喝啕喙嗢塚墳奄奔婢嬨廒廙彩徭惘慎愈憎慠懲戴揄搜摒敖晴朗望杖歹殺流"),
    (0xFA98, "滛滋漢瀞煮瞧爵犯猪瑱甆画瘝瘟益盛直睊着磌窱節类絛練缾者荒華蝹襁覆視調諸請謁諾諭謹"), (0xFAC0, "變贈輸遲醙鉶陼難靖韛響頋頻鬒龜𢡊𢡄𣏕㮝䀘䀹𥉉𥳐𧻓齃龎"),
    (0xFB20, "\u05E2\u05D0\u05D3\u05D4\u05DB\u05DC\u05DD\u05E8\u05EA+"), (0xFB50,
    "\u0671\u0671\u067B\u067B\u067B\u067B\u067E\u067E\u067E\u067E\u0680\u0680\u0680"), (0xFB5D,
    "\u0680\u067A\u067A\u067A\u067A\u067F\u067F\u067F\u067F\u0679\u0679\u0679\u0679"), (0xFB6A,
    "\u06A4\u06A4\u06A4\u06A4\u06A6\u06A6\u06A6\u06A6\u0684\u0684\u0684\u0684\u0683"), (0xFB77,
    "\u0683\u0683\u0683\u0686\u0686\u0686\u0686\u0687\u0687\u0687\u0687\u068D\u068D"), (0xFB84,
    "\u068C\u068C\u068E\u068E\u0688\u0688\u0698\u0698\u0691\u0691\u06A9\u06A9\u06A9"), (0xFB91,
    "\u06A9\u06AF\u06AF\u06AF\u06AF\u06B3\u06B3\u06B3\u06B3\u06B1\u06B1\u06B1\u06B1"), (0xFB9E,
    "\u06BA\u06BA\u06BB\u06BB\u06BB\u06BB\u06C0\u06C0\u06C1\u06C1\u06C1\u06C1\u06BE"),
    (0xFBAB, "\u06BE\u06BE\u06BE\u06D2\u06D2\u06D3\u06D3"), (0xFBD3,
    "\u06AD\u06AD\u06AD\u06AD\u06C7\u06C7\u06C6\u06C6\u06C8\u06C8"), (0xFBDE,
    "\u06CB\u06CB\u06C5\u06C5\u06C9\u06C9\u06D0\u06D0\u06D0\u06D0\u0649\u0649"),
    (0xFBFC, "\u06CC\u06CC\u06CC\u06CC"), (0xFE10, ",、"), (0xFE13, ":;!?〖〗"),
    (0xFE31, "—–__()\x7b\x7d〔〕【】《》〈〉"), (0xFE47, "[]"), (0xFE4D, "___,、"),
    (0xFE54, ";:?!—()\x7b\x7d〔〕#&*+-<>="), (0xFE68, "\\$%@"), (0xFE80,
    "\u0621\u0622\u0622\u0623\u0623\u0624\u0624\u0625\u0625\u0626\u0626\u0626\u0626"), (0xFE8D,
    "\u0627\u0627\u0628\u0628\u0628\u0628\u0629\u0629\u062A\u062A\u062A\u062A\u062B"), (0xFE9A,
    "\u062B\u062B\u062B\u062C\u062C\u062C\u062C\u062D\u062D\u062D\u062D\u062E\u062E"), (0xFEA7,
    "\u062E\u062E\u062F\u062F\u0630\u0630\u0631\u0631\u0632\u0632\u0633\u0633\u0633"), (0xFEB4,
    "\u0633\u0634\u0634\u0634\u0634\u0635\u0635\u0635\u0635\u0636\u0636\u0636\u0636"), (0xFEC1,
    "\u0637\u0637\u0637\u0637\u0638\u0638\u0638\u0638\u0639\u0639\u0639\u0639\u063A"), (0xFECE,
    "\u063A\u063A\u063A\u0641\u0641\u0641\u0641\u0642\u0642\u0642\u0642\u0643\u0643"), (0xFEDB,
    "\u0643\u0643\u0644\u0644\u0644\u0644\u0645\u0645\u0645\u0645\u0646\u0646\u0646"), (0xFEE8,
    "\u0646\u0647\u0647\u0647\u0647\u0648\u0648\u0649\u0649\u064A\u064A\u064A\u064A"),
    (0xFF5F, "⦅⦆.「」、・ヲァィゥェォャュョッーアイウエオカキクケコサシスセソタチツテト"), (0xFF8B, "ヒフヘホ"), (0xFF94, "ヤユ"),
    (0xFF9C, "ワン\u3099\u309A"), (0xFFA1,
    "\u1100\u1101\u11AA\u1102\u11AC\u11AD\u1103\u1104\u1105"),
    (0xFFB0, "\u111A\u1106\u1107\u1108\u1121"), (0xFFDA, "\u1173\u1174\u1175"), (0xFFE0, "¢£¬"),
    (0xFFE4, "¦¥₩"), (0xFFE8, "│"), (0xFFED, "■○"), (0x10594, "𐖻𐖼"), (0x10781, "ːˑæʙɓ"),
    (0x10787, "ʣꭦʥʤɖɗᶑɘɞʩɤɢɠʛħʜɧʄʪʫɬ𝼄ꞎɮ𝼅ʎ𝼆øɶɷqɺ𝼈ɽɾʀʨʦꭧʧ"), (0x107AF, "ʈⱱ"),
    (0x107B2, "ʏʡʢʘǀǁǂ𝼊𝼞"), (0x1D49C, "a"), (0x1D49E, "cd"), (0x1D4A2, "g"), (0x1D4A5, "jk"),
    (0x1D4BB, "f"), (0x1D504, "ab"), (0x1D538, "ab"), (0x1D546, "o"), (0x1D6A4, "ıȷ"),
    (0x1D6B9, "θ"), (0x1D6C1, "∇"), (0x1D6D3, "σ"), (0x1D6DB, "∂εθκφρπ"), (0x1D6F3, "θ"),
    (0x1D6FB, "∇"), (0x1D70D, "σ"), (0x1D715, "∂εθκφρπ"), (0x1D72D, "θ"), (0x1D735, "∇"),
    (0x1D747, "σ"), (0x1D74F, "∂εθκφρπ"), (0x1D767, "θ"), (0x1D76F, "∇"), (0x1D781, "σ"),
    (0x1D789, "∂εθκφρπ"), (0x1D7A1, "θ"), (0x1D7A9, "∇"), (0x1D7BB, "σ"), (0x1D7C3, "∂εθκφρπϝϝ"),
    (0x1E039, "клм"), (0x1E047, "ыэюꚉәіјөүӏ"), (0x1E05A, "клопс"), (0x1E065, "ъыґіѕџҫꙑұ"),
    (0x1EE00, "\u0627\u0628\u062C\u062F"), (0x1EE05, "\u0648\u0632\u062D\u0637\u064A"), (0x1EE0E,
    "\u0633\u0639\u0641\u0635\u0642\u0631\u0634\u062A\u062B\u062E\u0630\u0636\u0638"),
    (0x1EE1B, "\u063A\u066E\u06BA\u06A1\u066F"), (0x1EE21, "\u0628\u062C"), (0x1EE24, "\u0647"),
    (0x1EE27, "\u062D"), (0x1EE29, "\u064A"), (0x1EE2E, "\u0633\u0639\u0641\u0635\u0642"),
    (0x1EE34, "\u0634\u062A\u062B\u062E"), (0x1EE39, "\u0636"), (0x1EE3B, "\u063A"),
    (0x1EE42, "\u062C"), (0x1EE47, "\u062D"), (0x1EE49, "\u064A"), (0x1EE4B, "\u0644"),
    (0x1EE4D, "\u0646\u0633\u0639"), (0x1EE51, "\u0635\u0642"), (0x1EE54, "\u0634"),
    (0x1EE57, "\u062E"), (0x1EE59, "\u0636"), (0x1EE5B, "\u063A"), (0x1EE5D, "\u06BA"),
    (0x1EE5F, "\u066F"), (0x1EE61, "\u0628\u062C"), (0x1EE64, "\u0647"),
    (0x1EE67, "\u062D\u0637\u064A\u0643"),
    (0x1EE6C, "\u0645\u0646\u0633\u0639\u0641\u0635\u0642"),
    (0x1EE74, "\u0634\u062A\u062B\u062E"), (0x1EE79, "\u0636\u0638\u063A\u066E"),
    (0x1EE7E, "\u06A1"), (0x1EE80,
    "\u0627\u0628\u062C\u062F\u0647\u0648\u0632\u062D\u0637\u064A"), (0x1EE8B,
    "\u0644\u0645\u0646\u0633\u0639\u0641\u0635\u0642\u0631\u0634\u062A\u062B\u062E"),
    (0x1EE98, "\u0630\u0636\u0638\u063A"), (0x1EEA1, "\u0628\u062C\u062F"),
    (0x1EEA5, "\u0648\u0632\u062D\u0637\u064A"), (0x1EEAB,
    "\u0644\u0645\u0646\u0633\u0639\u0641\u0635\u0642\u0631\u0634\u062A\u062B\u062E"),
    (0x1EEB8, "\u0630\u0636\u0638\u063A"), (0x1F12B, "cr"), (0x1F202, "サ"),
    (0x1F210, "手字双デ二多解天交映無料前後再新初終生販声吹演投捕一三遊左中右指走打禁空合満有月"), (0x1F238, "申割営配"), (0x1F250, "得可"),
    (0x2F800, "丽丸乁𠄢你侮侻倂偺備僧像㒞𠘺免兔兤具𠔜㒹內再𠕋冗冤仌冬况𩇟凵刃㓟刻剆割剷㔕勇勉勤"),
    (0x2F828, "勺包匆北卉卑博即卽卿卿卿𠨬灰及叟𠭣叫叱吆咞吸呈周咢哶唐啓啣善善喙喫喳嗂圖嘆圗噑噴"),
    (0x2F850, "切壮城埴堍型堲報墬𡓤売壷夆多夢奢𡚨𡛪姬娛娧姘婦㛮㛼嬈嬾嬾𡧈寃寘寧寳𡬘寿将当尢㞁屠"),
    (0x2F878, "屮峀岍𡷤嵃𡷦嵮嵫嵼巡巢㠯巽帨帽幩㡢𢆃㡼庰庳庶廊𪎒廾𢌱𢌱舁弢弢㣇𣊸𦇚形彫㣣徚忍志忹"),
    (0x2F8A0, "悁㤺㤜悔𢛔惇慈慌慎慌慺憎憲憤憯懞懲懶成戛扝抱拔捐𢬌挽拼捨掃揤𢯱搢揅掩㨮摩摾撝摷㩬"),
    (0x2F8C8, "敏敬𣀊旣書晉㬙暑㬈㫤冒冕最暜肭䏙朗望朡杞杓𣏃㭉柺枅桒梅𣑭梎栟椔㮝楂榣槪檨𣚣櫛㰘次"),
    (0x2F8F0, "𣢧歔㱎歲殟殺殻𣪍𡴋𣫺汎𣲼沿泍汧洖派海流浩浸涅𣴞洴港湮㴳滋滇𣻑淹潮𣽞𣾎濆瀹瀞瀛㶖灊"),
    (0x2F918, "災灷炭𠔥煅𤉣熜𤎫爨爵牐𤘈犀犕𤜵𤠔獺王㺬玥㺸㺸瑇瑜瑱璅瓊㼛甤𤰶甾𤲒異𢆟瘐𤾡𤾸𥁄㿼䀈"),
    (0x2F940, "直𥃳𥃲𥄙𥄳眞真真睊䀹瞋䁆䂖𥐝硎碌磌䃣𥘦祖𥚚𥛅福秫䄯穀穊穏𥥼𥪧𥪧竮䈂𥮫篆築䈧𥲀糒䊠"),
    (0x2F968, "糨糣紀𥾆絣䌁緇縂繅䌴𦈨𦉇䍙𦋙罺𦌾羕翺者𦓚𦔣聠𦖨聰𣍟䏕育脃䐋脾媵𦞧𦞵𣎓𣎜舁舄辞䑫芑"),
    (0x2F990, "芋芝劳花芳芽苦𦬼若茝荣莭茣莽菧著荓菊菌菜𦰶𦵫𦳕䔫蓱蓳蔖𧏊蕤𦼬䕝䕡𦾱𧃒䕫虐虜虧虩蚩"),
    (0x2F9B8, "蚈蜎蛢蝹蜨蝫螆䗗蟡蠁䗹衠衣𧙧裗裞䘵裺㒻𧢮𧥦䚾䛇誠諭變豕𧲨貫賁贛起𧼯𠠄跋趼跰𠣞軔輸"),
    (0x2F9E0, "𨗒𨗭邔郱鄑𨜮鄛鈸鋗鋘鉼鏹鐕𨯺開䦕閷𨵷䧦雃嶲霣𩅅𩈚䩮䩶韠𩐊䪲𩒖頋頋頩𩖶飢䬳餩馧駂駾"), (0x2FA08, "䯎𩬰鬒鱀鳽䳎䳭鵧𪃎䳸𪄅𪈎𪊑麻䵖黹黾鼅鼏鼖鼻𪘀")]

/-- The texts that successive code points are folded into. -/
def multipleFoldings : List (Nat × List String) := [
  (0xA8, [" \u0308"]), (0xAF, [" \u0304"]), (0xB4, [" \u0301"]), (0xB8, [" \u0327"]),
    (0xBC, ["1⁄4", "1⁄2", "3⁄4"]), (0x130, ["i\u0307"]), (0x132, ["ij", "ij"]),
    (0x13F, ["l·", "l·"]), (0x149, ["ʼn"]),
    (0x1C4, ["dž", "dž", "dž", "lj", "lj", "lj", "nj", "nj"]), (0x1CC, ["nj"]),
    (0x1F1, ["dz", "dz", "dz"]), (0x2D8, [" \u0306", " \u0307", " \u030A", " \u0328", " \u0303",
    " \u030B"]), (0x344, ["\u0308\u0301"]), (0x37A, [" ι"]),
    (0x384, [" \u0301", " \u0308\u0301"]), (0x587, ["եւ"]), (0x675, ["\u0627\u0674",
    "\u0648\u0674", "\u06C7\u0674", "\u064A\u0674"]), (0x958, ["क\u093C", "ख\u093C", "ग\u093C",
    "ज\u093C", "ड\u093C", "ढ\u093C", "फ\u093C", "य\u093C"]), (0x9DC, ["ড\u09BC", "ঢ\u09BC"]),
    (0x9DF, ["য\u09BC"]), (0xA33, ["ਲ\u0A3C"]), (0xA36, ["ਸ\u0A3C"]),
    (0xA59, ["ਖ\u0A3C", "ਗ\u0A3C", "ਜ\u0A3C"]), (0xA5E, ["ਫ\u0A3C"]),
    (0xB5C, ["ଡ\u0B3C", "ଢ\u0B3C"]), (0xE33, ["\u0E4Dา"]), (0xEB3, ["\u0ECDາ"]),
    (0xEDC, ["ຫນ", "ຫມ"]), (0xF43, ["ག\u0FB7"]), (0xF4D, ["ཌ\u0FB7"]), (0xF52, ["ད\u0FB7"]),
    (0xF57, ["བ\u0FB7"]), (0xF5C, ["ཛ\u0FB7"]), (0xF69, ["ཀ\u0FB5"]), (0xF73, ["\u0F71\u0F72"]),
    (0xF75, ["\u0F71\u0F74", "\u0FB2\u0F80", "\u0FB2\u0F71\u0F80", "\u0FB3\u0F80",
    "\u0FB3\u0F71\u0F80"]), (0xF81, ["\u0F71\u0F80"]), (0xF93, ["\u0F92\u0FB7"]),
    (0xF9D, ["\u0F9C\u0FB7"]), (0xFA2, ["\u0FA1\u0FB7"]), (0xFA7, ["\u0FA6\u0FB7"]),
    (0xFAC, ["\u0FAB\u0FB7"]), (0xFB9, ["\u0F90\u0FB5"]), (0x1E9A, ["aʾ"]),
    (0x1F80, ["ἀι", "ἁι", "ἂι", "ἃι", "ἄι", "ἅι", "ἆι", "ἇι"]),
    (0x1F88, ["ἀι", "ἁι", "ἂι", "ἃι", "ἄι", "ἅι", "ἆι", "ἇι"]),
    (0x1F90, ["ἠι", "ἡι", "ἢι", "ἣι", "ἤι", "ἥι", "ἦι", "ἧι"]),
    (0x1F98, ["ἠι", "ἡι", "ἢι", "ἣι", "ἤι", "ἥι", "ἦι", "ἧι"]),
    (0x1FA0, ["ὠι", "ὡι", "ὢι", "ὣι", "ὤι", "ὥι", "ὦι", "ὧι"]),
    (0x1FA8, ["ὠι", "ὡι", "ὢι", "ὣι", "ὤι", "ὥι", "ὦι", "ὧι"]), (0x1FB2, ["ὰι", "αι", "άι"]),
    (0x1FB7, ["ᾶι"]), (0x1FBC, ["αι", " \u0313"]), (0x1FBF, [" \u0313", " \u0342",
    " \u0308\u0342", "ὴι", "ηι", "ήι"]), (0x1FC7, ["ῆι"]), (0x1FCC, ["ηι", " \u0313\u0300",
    " \u0313\u0301", " \u0313\u0342"]), (0x1FDD, [" \u0314\u0300", " \u0314\u0301",
    " \u0314\u0342"]), (0x1FED, [" \u0308\u0300", " \u0308\u0301"]), (0x1FF2, ["ὼι", "ωι", "ώι"]),
    (0x1FF7, ["ῶι"]), (0x1FFC, ["ωι", " \u0301", " \u0314"]), (0x2017, [" \u0333"]),
    (0x2033, ["′′", "′′′"]), (0x2036, ["‵‵", "‵‵‵"]), (0x203C, ["!!"]), (0x203E, [" \u0305"]),
    (0x2047, ["??", "?!", "!?"]), (0x2057, ["′′′′"]), (0x20A8, ["rs"]), (0x2100, ["a/c", "a/s"]),
    (0x2103, ["°c"]), (0x2105, ["c/o", "c/u"]), (0x2109, ["°f"]), (0x2116, ["no"]),
    (0x2120, ["sm", "tel", "tm"]), (0x213B, ["fax"]), (0x2150, ["1⁄7", "1⁄9", "1⁄10", "1⁄3",
    "2⁄3", "1⁄5", "2⁄5", "3⁄5"]), (0x2158, ["4⁄5", "1⁄6", "5⁄6", "1⁄8", "3⁄8", "5⁄8", "7⁄8",
    "1⁄"]), (0x2161, ["ii", "iii", "iv"]), (0x2165, ["vi", "vii", "viii", "ix"]),
    (0x216A, ["xi", "xii"]), (0x2171, ["ii", "iii", "iv"]), (0x2175, ["vi", "vii", "viii", "ix"]),
    (0x217A, ["xi", "xii"]), (0x2189, ["0⁄3"]), (0x222C, ["∫∫", "∫∫∫"]), (0x222F, ["∮∮", "∮∮∮"]),
    (0x2469, ["10", "11", "12", "13", "14", "15", "16", "17"]), (0x2471, ["18", "19", "20", "(1)",
    "(2)", "(3)", "(4)", "(5)"]), (0x2479, ["(6)", "(7)", "(8)", "(9)", "(10)", "(11)", "(12)",
    "(13)"]), (0x2481, ["(14)", "(15)", "(16)", "(17)", "(18)", "(19)", "(20)"]), (0x249C, ["(a)",
    "(b)", "(c)", "(d)", "(e)", "(f)", "(g)", "(h)"]), (0x24A4, ["(i)", "(j)", "(k)", "(l)",
    "(m)", "(n)", "(o)", "(p)"]), (0x24AC, ["(q)", "(r)", "(s)", "(t)", "(u)", "(v)", "(w)",
    "(x)"]), (0x24B4, ["(y)", "(z)"]), (0x2A0C, ["∫∫∫∫"]), (0x2A74, ["::=", "==", "==="]),
    (0x2ADC, ["⫝\u0338"]), (0x309B, [" \u3099", " \u309A"]), (0x309F, ["より"]), (0x30FF, ["コト"]),
    (0x3200, ["(\u1100)", "(\u1102)", "(\u1103)", "(\u1105)", "(\u1106)", "(\u1107)", "(\u1109)",
    "(\u110B)"]), (0x3208, ["(\u110C)", "(\u110E)", "(\u110F)", "(\u1110)", "(\u1111)",
    "(\u1112)", "(가)", "(나)"]), (0x3210, ["(다)", "(라)", "(마)", "(바)", "(사)", "(아)", "(자)",
    "(차)"]), (0x3218, ["(카)", "(타)", "(파)", "(하)", "(주)", "(오전)", "(오후)"]), (0x3220, ["(一)",
    "(二)", "(三)", "(四)", "(五)", "(六)", "(七)", "(八)"]), (0x3228, ["(九)", "(十)", "(月)", "(火)",
    "(水)", "(木)", "(金)", "(土)"]), (0x3230, ["(日)", "(株)", "(有)", "(社)", "(名)", "(特)", "(財)",
    "(祝)"]), (0x3238, ["(労)", "(代)", "(呼)", "(学)", "(監)", "(企)", "(資)", "(協)"]),
    (0x3240, ["(祭)", "(休)", "(自)", "(至)"]), (0x3250, ["pte", "21", "22", "23", "24", "25", "26",
    "27"]), (0x3258, ["28", "29", "30", "31", "32", "33", "34", "35"]), (0x327C, ["참고", "주의"]),
    (0x32B1, ["36", "37", "38", "39", "40", "41", "42", "43"]),
    (0x32B9, ["44", "45", "46", "47", "48", "49", "50", "1月"]),
    (0x32C1, ["2月", "3月", "4月", "5月", "6月", "7月", "8月", "9月"]),
    (0x32C9, ["10月", "11月", "12月", "hg", "erg", "ev", "ltd"]), (0x32FF, ["令和", "アパート", "アルファ",
    "アンペア", "アール", "イニング", "インチ", "ウォン"]), (0x3307, ["エスクード", "エーカー", "オンス", "オーム", "カイリ", "カラット",
    "カロリー", "ガロン"]), (0x330F, ["ガンマ", "ギガ", "ギニー", "キュリー", "ギルダー", "キロ", "キログラム", "キロメートル"]),
    (0x3317, ["キロワット", "グラム", "グラムトン", "クルゼイロ", "クローネ", "ケース", "コルナ", "コーポ"]), (0x331F, ["サイクル",
    "サンチーム", "シリング", "センチ", "セント", "ダース", "デシ", "ドル"]), (0x3327, ["トン", "ナノ", "ノット", "ハイツ",
    "パーセント", "パーツ", "バーレル", "ピアストル"]), (0x332F, ["ピクル", "ピコ", "ビル", "ファラッド", "フィート", "ブッシェル",
    "フラン", "ヘクタール"]), (0x3337, ["ペソ", "ペニヒ", "ヘルツ", "ペンス", "ページ", "ベータ", "ポイント", "ボルト"]), (0x333F,
    ["ホン", "ポンド", "ホール", "ホーン", "マイクロ", "マイル", "マッハ", "マルク"]), (0x3347, ["マンション", "ミクロン", "ミリ",
    "ミリバール", "メガ", "メガトン", "メートル", "ヤード"]), (0x334F, ["ヤール", "ユアン", "リットル", "リラ", "ルピー", "ルーブル",
    "レム", "レントゲン"]), (0x3357, ["ワット", "0点", "1点", "2点", "3点", "4点", "5点", "6点"]), (0x335F, ["7点",
    "8点", "9点", "10点", "11点", "12点", "13点", "14点"]), (0x3367, ["15点", "16点", "17点", "18点", "19点",
    "20点", "21点", "22点"]), (0x336F, ["23点", "24点", "hpa", "da", "au", "bar", "ov", "pc"]),
    (0x3377, ["dm", "dm2", "dm3", "iu", "平成", "昭和", "大正", "明治"]), (0x337F, ["株式会社", "pa", "na",
    "μa", "ma", "ka", "kb", "mb"]), (0x3387, ["gb", "cal", "kcal", "pf", "nf", "μf", "μg", "mg"]),
    (0x338F, ["kg", "hz", "khz", "mhz", "ghz", "thz", "μl", "ml"]),
    (0x3397, ["dl", "kl", "fm", "nm", "μm", "mm", "cm", "km"]), (0x339F, ["mm2", "cm2", "m2",
    "km2", "mm3", "cm3", "m3", "km3"]), (0x33A7, ["m∕s", "m∕s2", "pa", "kpa", "mpa", "gpa", "rad",
    "rad∕s"]), (0x33AF, ["rad∕s2", "ps", "ns", "μs", "ms", "pv", "nv", "μv"]),
    (0x33B7, ["mv", "kv", "mv", "pw", "nw", "μw", "mw", "kw"]), (0x33BF, ["mw", "kω", "mω"]),
    (0x33C3, ["bq", "cc", "cd", "c∕kg"]),
    (0x33C8, ["db", "gy", "ha", "hp", "in", "kk", "km", "kt"]), (0x33D0, ["lm", "ln", "log", "lx",
    "mb", "mil", "mol", "ph"]), (0x33D9, ["ppm", "pr", "sr", "sv", "wb", "v∕m", "a∕m", "1日"]),
    (0x33E1, ["2日", "3日", "4日", "5日", "6日", "7日", "8日", "9日"]), (0x33E9, ["10日", "11日", "12日",
    "13日", "14日", "15日", "16日", "17日"]), (0x33F1, ["18日", "19日", "20日", "21日", "22日", "23日",
    "24日", "25日"]), (0x33F9, ["26日", "27日", "28日", "29日", "30日", "31日", "gal"]),
    (0xFB00, ["ff", "fi", "fl", "ffi", "ffl", "st", "st"]),
    (0xFB13, ["մն", "մե", "մի", "վն", "մխ"]), (0xFB1D, ["\u05D9\u05B4"]),
    (0xFB1F, ["\u05F2\u05B7"]), (0xFB2A, ["\u05E9\u05C1", "\u05E9\u05C2", "\u05E9\u05BC\u05C1",
    "\u05E9\u05BC\u05C2", "\u05D0\u05B7", "\u05D0\u05B8", "\u05D0\u05BC", "\u05D1\u05BC"]),
    (0xFB32, ["\u05D2\u05BC", "\u05D3\u05BC", "\u05D4\u05BC", "\u05D5\u05BC", "\u05D6\u05BC"]),
    (0xFB38, ["\u05D8\u05BC", "\u05D9\u05BC", "\u05DA\u05BC", "\u05DB\u05BC", "\u05DC\u05BC"]),
    (0xFB3E, ["\u05DE\u05BC"]), (0xFB40, ["\u05E0\u05BC", "\u05E1\u05BC"]),
    (0xFB43, ["\u05E3\u05BC", "\u05E4\u05BC"]), (0xFB46, ["\u05E6\u05BC", "\u05E7\u05BC",
    "\u05E8\u05BC", "\u05E9\u05BC", "\u05EA\u05BC", "\u05D5\u05B9", "\u05D1\u05BF",
    "\u05DB\u05BF"]), (0xFB4E, ["\u05E4\u05BF", "\u05D0\u05DC"]), (0xFBDD, ["\u06C7\u0674"]),
    (0xFBEA, ["\u0626\u0627", "\u0626\u0627", "\u0626\u06D5", "\u0626\u06D5", "\u0626\u0648",
    "\u0626\u0648", "\u0626\u06C7", "\u0626\u06C7"]), (0xFBF2, ["\u0626\u06C6", "\u0626\u06C6",
    "\u0626\u06C8", "\u0626\u06C8", "\u0626\u06D0", "\u0626\u06D0", "\u0626\u06D0",
    "\u0626\u0649"]), (0xFBFA, ["\u0626\u0649", "\u0626\u0649"]), (0xFC00, ["\u0626\u062C",
    "\u0626\u062D", "\u0626\u0645", "\u0626\u0649", "\u0626\u064A", "\u0628\u062C",
    "\u0628\u062D", "\u0628\u062E"]), (0xFC08, ["\u0628\u0645", "\u0628\u0649", "\u0628\u064A",
    "\u062A\u062C", "\u062A\u062D", "\u062A\u062E", "\u062A\u0645", "\u062A\u0649"]), (0xFC10,
    ["\u062A\u064A", "\u062B\u062C", "\u062B\u0645", "\u062B\u0649", "\u062B\u064A",
    "\u062C\u062D", "\u062C\u0645", "\u062D\u062C"]), (0xFC18, ["\u062D\u0645", "\u062E\u062C",
    "\u062E\u062D", "\u062E\u0645", "\u0633\u062C", "\u0633\u062D", "\u0633\u062E",
    "\u0633\u0645"]), (0xFC20, ["\u0635\u062D", "\u0635\u0645", "\u0636\u062C", "\u0636\u062D",
    "\u0636\u062E", "\u0636\u0645", "\u0637\u062D", "\u0637\u0645"]), (0xFC28, ["\u0638\u0645",
    "\u0639\u062C", "\u0639\u0645", "\u063A\u062C", "\u063A\u0645", "\u0641\u062C",
    "\u0641\u062D", "\u0641\u062E"]), (0xFC30, ["\u0641\u0645", "\u0641\u0649", "\u0641\u064A",
    "\u0642\u062D", "\u0642\u0645", "\u0642\u0649", "\u0642\u064A", "\u0643\u0627"]), (0xFC38,
    ["\u0643\u062C", "\u0643\u062D", "\u0643\u062E", "\u0643\u0644", "\u0643\u0645",
    "\u0643\u0649", "\u0643\u064A", "\u0644\u062C"]), (0xFC40, ["\u0644\u062D", "\u0644\u062E",
    "\u0644\u0645", "\u0644\u0649", "\u0644\u064A", "\u0645\u062C", "\u0645\u062D",
    "\u0645\u062E"]), (0xFC48, ["\u0645\u0645", "\u0645\u0649", "\u0645\u064A", "\u0646\u062C",
    "\u0646\u062D", "\u0646\u062E", "\u0646\u0645", "\u0646\u0649"]), (0xFC50, ["\u0646\u064A",
    "\u0647\u062C", "\u0647\u0645", "\u0647\u0649", "\u0647\u064A", "\u064A\u062C",
    "\u064A\u062D", "\u064A\u062E"]), (0xFC58, ["\u064A\u0645", "\u064A\u0649", "\u064A\u064A",
    "\u0630\u0670", "\u0631\u0670", "\u0649\u0670", " \u064C\u0651", " \u064D\u0651"]), (0xFC60,
    [" \u064E\u0651", " \u064F\u0651", " \u0650\u0651", " \u0651\u0670", "\u0626\u0631",
    "\u0626\u0632", "\u0626\u0645", "\u0626\u0646"]), (0xFC68, ["\u0626\u0649", "\u0626\u064A",
    "\u0628\u0631", "\u0628\u0632", "\u0628\u0645", "\u0628\u0646", "\u0628\u0649",
    "\u0628\u064A"]), (0xFC70, ["\u062A\u0631", "\u062A\u0632", "\u062A\u0645", "\u062A\u0646",
    "\u062A\u0649", "\u062A\u064A", "\u062B\u0631", "\u062B\u0632"]), (0xFC78, ["\u062B\u0645",
    "\u062B\u0646", "\u062B\u0649", "\u062B\u064A", "\u0641\u0649", "\u0641\u064A",
    "\u0642\u0649", "\u0642\u064A"]), (0xFC80, ["\u0643\u0627", "\u0643\u0644", "\u0643\u0645",
    "\u0643\u0649", "\u0643\u064A", "\u0644\u0645", "\u0644\u0649", "\u0644\u064A"]), (0xFC88,
    ["\u0645\u0627", "\u0645\u0645", "\u0646\u0631", "\u0646\u0632", "\u0646\u0645",
    "\u0646\u0646", "\u0646\u0649", "\u0646\u064A"]), (0xFC90, ["\u0649\u0670", "\u064A\u0631",
    "\u064A\u0632", "\u064A\u0645", "\u064A\u0646", "\u064A\u0649", "\u064A\u064A",
    "\u0626\u062C"]), (0xFC98, ["\u0626\u062D", "\u0626\u062E", "\u0626\u0645", "\u0626\u0647",
    "\u0628\u062C", "\u0628\u062D", "\u0628\u062E", "\u0628\u0645"]), (0xFCA0, ["\u0628\u0647",
    "\u062A\u062C", "\u062A\u062D", "\u062A\u062E", "\u062A\u0645", "\u062A\u0647",
    "\u062B\u0645", "\u062C\u062D"]), (0xFCA8, ["\u062C\u0645", "\u062D\u062C", "\u062D\u0645",
    "\u062E\u062C", "\u062E\u0645", "\u0633\u062C", "\u0633\u062D", "\u0633\u062E"]), (0xFCB0,
    ["\u0633\u0645", "\u0635\u062D", "\u0635\u062E", "\u0635\u0645", "\u0636\u062C",
    "\u0636\u062D", "\u0636\u062E", "\u0636\u0645"]), (0xFCB8, ["\u0637\u062D", "\u0638\u0645",
    "\u0639\u062C", "\u0639\u0645", "\u063A\u062C", "\u063A\u0645", "\u0641\u062C",
    "\u0641\u062D"]), (0xFCC0, ["\u0641\u062E", "\u0641\u0645", "\u0642\u062D", "\u0642\u0645",
    "\u0643\u062C", "\u0643\u062D", "\u0643\u062E", "\u0643\u0644"]), (0xFCC8, ["\u0643\u0645",
    "\u0644\u062C", "\u0644\u062D", "\u0644\u062E", "\u0644\u0645", "\u0644\u0647",
    "\u0645\u062C", "\u0645\u062D"]), (0xFCD0, ["\u0645\u062E", "\u0645\u0645", "\u0646\u062C",
    "\u0646\u062D", "\u0646\u062E", "\u0646\u0645", "\u0646\u0647", "\u0647\u062C"]), (0xFCD8,
    ["\u0647\u0645", "\u0647\u0670", "\u064A\u062C", "\u064A\u062D", "\u064A\u062E",
    "\u064A\u0645", "\u064A\u0647", "\u0626\u0645"]), (0xFCE0, ["\u0626\u0647", "\u0628\u0645",
    "\u0628\u0647", "\u062A\u0645", "\u062A\u0647", "\u062B\u0645", "\u062B\u0647",
    "\u0633\u0645"]), (0xFCE8, ["\u0633\u0647", "\u0634\u0645", "\u0634\u0647", "\u0643\u0644",
    "\u0643\u0645", "\u0644\u0645", "\u0646\u0645", "\u0646\u0647"]), (0xFCF0, ["\u064A\u0645",
    "\u064A\u0647", "\u0640\u064E\u0651", "\u0640\u064F\u0651", "\u0640\u0650\u0651",
    "\u0637\u0649", "\u0637\u064A", "\u0639\u0649"]), (0xFCF8, ["\u0639\u064A", "\u063A\u0649",
    "\u063A\u064A", "\u0633\u0649", "\u0633\u064A", "\u0634\u0649", "\u0634\u064A",
    "\u062D\u0649"]), (0xFD00, ["\u062D\u064A", "\u062C\u0649", "\u062C\u064A", "\u062E\u0649",
    "\u062E\u064A", "\u0635\u0649", "\u0635\u064A", "\u0636\u0649"]), (0xFD08, ["\u0636\u064A",
    "\u0634\u062C", "\u0634\u062D", "\u0634\u062E", "\u0634\u0645", "\u0634\u0631",
    "\u0633\u0631", "\u0635\u0631"]), (0xFD10, ["\u0636\u0631", "\u0637\u0649", "\u0637\u064A",
    "\u0639\u0649", "\u0639\u064A", "\u063A\u0649", "\u063A\u064A", "\u0633\u0649"]), (0xFD18,
    ["\u0633\u064A", "\u0634\u0649", "\u0634\u064A", "\u062D\u0649", "\u062D\u064A",
    "\u062C\u0649", "\u062C\u064A", "\u062E\u0649"]), (0xFD20, ["\u062E\u064A", "\u0635\u0649",
    "\u0635\u064A", "\u0636\u0649", "\u0636\u064A", "\u0634\u062C", "\u0634\u062D",
    "\u0634\u062E"]), (0xFD28, ["\u0634\u0645", "\u0634\u0631", "\u0633\u0631", "\u0635\u0631",
    "\u0636\u0631", "\u0634\u062C", "\u0634\u062D", "\u0634\u062E"]), (0xFD30, ["\u0634\u0645",
    "\u0633\u0647", "\u0634\u0647", "\u0637\u0645", "\u0633\u062C", "\u0633\u062D",
    "\u0633\u062E", "\u0634\u062C"]), (0xFD38, ["\u0634\u062D", "\u0634\u062E", "\u0637\u0645",
    "\u0638\u0645", "\u0627\u064B", "\u0627\u064B"]), (0xFD50, ["\u062A\u062C\u0645",
    "\u062A\u062D\u062C", "\u062A\u062D\u062C", "\u062A\u062D\u0645", "\u062A\u062E\u0645",
    "\u062A\u0645\u062C", "\u062A\u0645\u062D", "\u062A\u0645\u062E"]), (0xFD58,
    ["\u062C\u0645\u062D", "\u062C\u0645\u062D", "\u062D\u0645\u064A", "\u062D\u0645\u0649",
    "\u0633\u062D\u062C", "\u0633\u062C\u062D", "\u0633\u062C\u0649", "\u0633\u0645\u062D"]),
    (0xFD60, ["\u0633\u0645\u062D", "\u0633\u0645\u062C", "\u0633\u0645\u0645",
    "\u0633\u0645\u0645", "\u0635\u062D\u062D", "\u0635\u062D\u062D", "\u0635\u0645\u0645",
    "\u0634\u062D\u0645"]), (0xFD68, ["\u0634\u062D\u0645", "\u0634\u062C\u064A",
    "\u0634\u0645\u062E", "\u0634\u0645\u062E", "\u0634\u0645\u0645", "\u0634\u0645\u0645",
    "\u0636\u062D\u0649", "\u0636\u062E\u0645"]), (0xFD70, ["\u0636\u062E\u0645",
    "\u0637\u0645\u062D", "\u0637\u0645\u062D", "\u0637\u0645\u0645", "\u0637\u0645\u064A",
    "\u0639\u062C\u0645", "\u0639\u0645\u0645", "\u0639\u0645\u0645"]), (0xFD78,
    ["\u0639\u0645\u0649", "\u063A\u0645\u0645", "\u063A\u0645\u064A", "\u063A\u0645\u0649",
    "\u0641\u062E\u0645", "\u0641\u062E\u0645", "\u0642\u0645\u062D", "\u0642\u0645\u0645"]),
    (0xFD80, ["\u0644\u062D\u0645", "\u0644\u062D\u064A", "\u0644\u062D\u0649",
    "\u0644\u062C\u062C", "\u0644\u062C\u062C", "\u0644\u062E\u0645", "\u0644\u062E\u0645",
    "\u0644\u0645\u062D"]), (0xFD88, ["\u0644\u0645\u062D", "\u0645\u062D\u062C",
    "\u0645\u062D\u0645", "\u0645\u062D\u064A", "\u0645\u062C\u062D", "\u0645\u062C\u0645",
    "\u0645\u062E\u062C", "\u0645\u062E\u0645"]), (0xFD92, ["\u0645\u062C\u062E",
    "\u0647\u0645\u062C", "\u0647\u0645\u0645", "\u0646\u062D\u0645", "\u0646\u062D\u0649",
    "\u0646\u062C\u0645", "\u0646\u062C\u0645", "\u0646\u062C\u0649"]), (0xFD9A,
    ["\u0646\u0645\u064A", "\u0646\u0645\u0649", "\u064A\u0645\u0645", "\u064A\u0645\u0645",
    "\u0628\u062E\u064A", "\u062A\u062C\u064A", "\u062A\u062C\u0649", "\u062A\u062E\u064A"]),
    (0xFDA2, ["\u062A\u062E\u0649", "\u062A\u0645\u064A", "\u062A\u0645\u0649",
    "\u062C\u0645\u064A", "\u062C\u062D\u0649", "\u062C\u0645\u0649", "\u0633\u062E\u0649",
    "\u0635\u062D\u064A"]), (0xFDAA, ["\u0634\u062D\u064A", "\u0636\u062D\u064A",
    "\u0644\u062C\u064A", "\u0644\u0645\u064A", "\u064A\u062D\u064A", "\u064A\u062C\u064A",
    "\u064A\u0645\u064A", "\u0645\u0645\u064A"]), (0xFDB2, ["\u0642\u0645\u064A",
    "\u0646\u062D\u064A", "\u0642\u0645\u062D", "\u0644\u062D\u0645", "\u0639\u0645\u064A",
    "\u0643\u0645\u064A", "\u0646\u062C\u062D", "\u0645\u062E\u064A"]), (0xFDBA,
    ["\u0644\u062C\u0645", "\u0643\u0645\u0645", "\u0644\u062C\u0645", "\u0646\u062C\u062D",
    "\u062C\u062D\u064A", "\u062D\u062C\u064A", "\u0645\u062C\u064A", "\u0641\u0645\u064A"]),
    (0xFDC2, ["\u0628\u062D\u064A", "\u0643\u0645\u0645", "\u0639\u062C\u0645",
    "\u0635\u0645\u0645", "\u0633\u062E\u064A", "\u0646\u062C\u064A"]), (0xFDF0,
    ["\u0635\u0644\u06D2", "\u0642\u0644\u06D2", "\u0627\u0644\u0644\u0647",
    "\u0627\u0643\u0628\u0631", "\u0645\u062D\u0645\u062F", "\u0635\u0644\u0639\u0645",
    "\u0631\u0633\u0648\u0644", "\u0639\u0644\u064A\u0647"]), (0xFDF8,
    ["\u0648\u0633\u0644\u0645", "\u0635\u0644\u0649",
    "\u0635\u0644\u0649 \u0627\u0644\u0644\u0647 \u0639\u0644\u064A\u0647 \u0648\u0633\u0644\u0645",
    "\u062C\u0644 \u062C\u0644\u0627\u0644\u0647", "\u0631\u06CC\u0627\u0644"]),
    (0xFE49, [" \u0305", " \u0305", " \u0305", " \u0305"]),
    (0xFE70, [" \u064B", "\u0640\u064B", " \u064C"]), (0xFE74, [" \u064D"]), (0xFE76, [" \u064E",
    "\u0640\u064E", " \u064F", "\u0640\u064F", " \u0650", "\u0640\u0650", " \u0651",
    "\u0640\u0651"]), (0xFE7E, [" \u0652", "\u0640\u0652"]), (0xFEF5, ["\u0644\u0622",
    "\u0644\u0622", "\u0644\u0623", "\u0644\u0623", "\u0644\u0625", "\u0644\u0625",
    "\u0644\u0627", "\u0644\u0627"]), (0xFFE3, [" \u0304"]),
    (0x1D15E, ["𝅗𝅥", "𝅘𝅥", "𝅘𝅥𝅮", "𝅘𝅥𝅯", "𝅘𝅥𝅰", "𝅘𝅥𝅱", "𝅘𝅥𝅲"]),
    (0x1D1BB, ["𝆹𝅥", "𝆺𝅥", "𝆹𝅥𝅮", "𝆺𝅥𝅮", "𝆹𝅥𝅯", "𝆺𝅥𝅯"]), (0x1F101, ["0,", "1,", "2,", "3,", "4,",
    "5,", "6,", "7,"]), (0x1F109, ["8,", "9,"]), (0x1F110, ["(a)", "(b)", "(c)", "(d)", "(e)",
    "(f)", "(g)", "(h)"]), (0x1F118, ["(i)", "(j)", "(k)", "(l)", "(m)", "(n)", "(o)", "(p)"]),
    (0x1F120, ["(q)", "(r)", "(s)", "(t)", "(u)", "(v)", "(w)", "(x)"]),
    (0x1F128, ["(y)", "(z)", "〔s〕"]), (0x1F12D, ["cd", "wz"]),
    (0x1F14A, ["hv", "mv", "sd", "ss", "ppv", "wc"]), (0x1F16A, ["mc", "md", "mr"]),
    (0x1F190, ["dj"]), (0x1F200, ["ほか", "ココ"]), (0x1F240, ["〔本〕", "〔三〕", "〔二〕", "〔安〕", "〔点〕",
    "〔打〕", "〔盗〕", "〔勝〕"]), (0x1F248, ["〔敗〕"])]

/-- The character that a code point is folded into by one of the rows. -/
def singleFolding? (n : Nat) : List (Nat × String) → Option Char
  | [] => none
  | (low, text) :: r =>
    if n < low then none
    else match text.toList[n - low]? with
      | some c => some c
      | none => singleFolding? n r

/-- The text that a code point is folded into by one of the rows. -/
def multipleFolding? (n : Nat) : List (Nat × List String) → Option String
  | [] => none
  | (low, texts) :: r =>
    if n < low then none
    else match texts[n - low]? with
      | some s => some s
      | none => multipleFolding? n r

/-- The first of the shifted ranges that a code point lies in moves it. -/
def shifted? (n : Nat) : List (Nat × Nat × Nat) → Option Char
  | [] => none
  | (low, high, target) :: r =>
    if n < low then none
    else if n ≤ high then some (Char.ofNat (target + (n - low)))
    else shifted? n r

/-- A capital in one of the alternating ranges. -/
def isAlternatingCapital (n : Nat) : List (Nat × Nat) → Bool
  | [] => false
  | (low, high) :: r =>
    if n < low then false
    else if n ≤ high then (n - low) % 2 = 0
    else isAlternatingCapital n r

/-- What a character beyond ASCII is folded into, if it does not stand for itself. -/
def folding? (c : Char) : Option (List Char) :=
  let n := c.toNat
  if isAlternatingCapital n alternatingCapitals then some [Char.ofNat (n + 1)]
  else match shifted? n shiftedRanges with
    | some d => some [d]
    | none =>
      match singleFolding? n singleFoldings with
      | some d => some [d]
      | none => (multipleFolding? n multipleFoldings).map String.toList

end BrokerClient.Uri
