namespace DocQuery.Web.Domain

/-- Runs of characters that are written as one other: the code point of the first and how the
characters from there on are written. -/
def respelled : List (Nat × String) :=
  [(0xA0, " "), (0xAA, "a"), (0xB2, "23"), (0xB5, "μ"), (0xB9, "1o"), (0xC6, "æ"), (0xD0, "ð"),
  (0xD8, "ø"), (0xDE, "þ"), (0x110, "đ"), (0x126, "ħ"), (0x141, "ł"), (0x14A, "ŋ"), (0x152, "œ"),
  (0x166, "ŧ"), (0x17F, "s"), (0x181, "ɓƃ"), (0x184, "ƅ"), (0x186, "ɔƈ"), (0x189, "ɖɗƌ"),
  (0x18E, "ǝəɛƒ"), (0x193, "ɠɣ"), (0x196, "ɩɨƙ"), (0x19C, "ɯɲ"), (0x19F, "ɵ"), (0x1A2, "ƣ"),
  (0x1A4, "ƥ"), (0x1A6, "ʀƨ"), (0x1A9, "ʃ"), (0x1AC, "ƭ"), (0x1AE, "ʈ"), (0x1B1, "ʊʋƴ"),
  (0x1B5, "ƶ"), (0x1B7, "ʒƹ"), (0x1BC, "ƽ"), (0x1E4, "ǥ"), (0x1F6, "ƕƿ"), (0x21C, "ȝ"),
  (0x220, "ƞ"), (0x222, "ȣ"), (0x224, "ȥ"), (0x23A, "ⱥȼ"), (0x23D, "ƚⱦ"), (0x241, "ɂ"),
  (0x243, "ƀʉʌ"), (0x2B0, "hɦjrɹɻʁwy"), (0x2E0, "ɣlsxʕ"), (0x345, "ι"), (0x370, "ͱ"), (0x372, "ͳ"),
  (0x376, "ͷ"), (0x37F, "ϳ"), (0x3CF, "ϗβθυ"), (0x3D5, "φπ"), (0x3F0, "κρσ"), (0x3F4, "θε"),
  (0x3F7, "ϸ"), (0x3F9, "σϻ"), (0x405, "ѕ"), (0x409, "љ"), (0x40B, "ћ"), (0x40F, "џ"),
  (0x4C0, "ӏ"), (0x4D4, "ӕ"), (0x4D8, "ә"), (0x4E0, "ӡ"), (0x4E8, "ө"), (0x4F6, "ӷ"), (0x558, "ֈ"),
  (0xF0C, "་"), (0x10C7, "ⴧ"), (0x10CD, "ⴭ"), (0x10FC, "ნ"), (0x1C80, "вдосттъѣꙋ\u1C8A"),
  (0x1D2C, "aæb"), (0x1D30, "d"), (0x1D32, "ǝ"), (0x1D3C, "oȣprtuwaɐɑᴂbdeəɛɜg"),
  (0x1D4F, "kmŋoɔᴖᴗptuᴝɯvᴥ"), (0x1D60, "φχiruvβγρφχ"), (0x1D78, "н"), (0x1D9B, "ɒcɕðɜfɟɡɥ"),
  (0x1DA7, "ᵻʝɭᶅʟɱɰ"), (0x1DB2, "ɸʂʃƫʉʊᴜʋʌz"), (0x1DBF, "θ"), (0x1E9E, "ß"), (0x2002, "         "),
  (0x2011, "‐"), (0x202F, " "), (0x205F, " "), (0x2070, "0i"), (0x207A, "+−=()n"),
  (0x208A, "+−=()"), (0x2090, "aeoxəh"), (0x209A, "pst"), (0x2102, "c"), (0x2107, "ɛ"),
  (0x210A, "ghhhhħiill"), (0x2115, "n"), (0x211C, "rr"), (0x2124, "z"), (0x2128, "z"),
  (0x212C, "bc"), (0x212F, "eefⅎmo"), (0x2139, "i"), (0x213C, "πγγπ∑"), (0x2145, "ddeij"),
  (0x2160, "i"), (0x2164, "v"), (0x2169, "x"), (0x216C, "lcdmi"), (0x2174, "v"), (0x2179, "x"),
  (0x217C, "lcdm"), (0x2183, "ↄ"), (0x24EA, "0"), (0x2C60, "ⱡ"), (0x2C62, "ɫᵽɽ"), (0x2C6D, "ɑɱɐɒ"),
  (0x2C72, "ⱳ"), (0x2C75, "ⱶ"), (0x2C7C, "jvȿɀ"), (0x2CEB, "ⳬ"), (0x2CED, "ⳮ"), (0x2CF2, "ⳳ"),
  (0x2D6F, "ⵡ"), (0x2E9F, "母"), (0x2EF3, "龟"),
  (0x2F00, "一丨丶丿乙亅二亠人儿入八冂冖冫几凵刀力勹匕匚匸十卜卩厂厶又口囗土士夂夊夕大女"),
  (0x2F26, "子宀寸小尢尸屮山巛工己巾干幺广廴廾弋弓彐彡彳心戈戶手支攴文斗斤方无日曰月木欠"),
  (0x2F4C, "止歹殳毋比毛氏气水火爪父爻爿片牙牛犬玄玉瓜瓦甘生用田疋疒癶白皮皿目矛矢石示禸"),
  (0x2F72, "禾穴立竹米糸缶网羊羽老而耒耳聿肉臣自至臼舌舛舟艮色艸虍虫血行衣襾見角言谷豆豕"),
  (0x2F98, "豸貝赤走足身車辛辰辵邑酉釆里金長門阜隶隹雨靑非面革韋韭音頁風飛食首香馬骨高髟"),
  (0x2FBE, "鬥鬯鬲鬼魚鳥鹵鹿麥麻黃黍黑黹黽鼎鼓鼠鼻齊齒龍龜龠"), (0x3000, " "), (0x3002, "."),
  (0x3036, "〒"), (0x3038, "十卄卅"), (0x3131, "ᄀᄁᆪᄂᆬᆭ"), (0x3140, "ᄚ"), (0x3144, "ᄡ"),
  (0x3165, "ᄔᄕᇇᇈᇌᇎᇓᇗᇙᄜᇝᇟᄝᄞᄠᄢᄣᄧᄩ"), (0x317D, "ᄲᄶᅀᅇᅌᇱᇲ"), (0x3187, "ᆄᆅᆈᆑᆒᆔᆞᆡ"),
  (0x3192, "一二三四上中下甲乙丙丁天地人"), (0x3244, "問幼文箏"), (0x3260, "ᄀᄂᄃ"),
  (0x3266, "ᄉᄋᄌ"), (0x326E, "가나다라마바사아자차카타파하"), (0x327E, "우"),
  (0x3280, "一二三四五六七八九十月火水木金土日株有社名特財祝労秘男女適優印注項休写正上中"),
  (0x32A6, "下左右医宗学監企資協夜"), (0x32D0, "アイウエオカキクケコサシスセソタチツテト"),
  (0x32EA, "ヒフヘホ"), (0x32F3, "ヤユ"), (0xA69C, "ъь"), (0xA770, "ꝯ"), (0xA779, "ꝺ"),
  (0xA77B, "ꝼ"), (0xA77D, "ᵹ"), (0xA78B, "ꞌ"), (0xA78D, "ɥ"), (0xA790, "ꞑ"), (0xA792, "ꞓ"),
  (0xA7AA, "ɦɜɡɬɪ"), (0xA7B0, "ʞʇʝꭓ"), (0xA7C4, "ꞔʂᶎꟈ"), (0xA7C9, "ꟊ"), (0xA7CB, "ɤ"),
  (0xA7DC, "ƛ"), (0xA7F1, "scfqꟶ"), (0xA7F8, "ħœ"), (0xAB5C, "ꜧꬷɫꭒ"), (0xAB69, "ʍ"),
  (0xFB20, "\u05E2\u05D0\u05D3\u05D4"), (0xFB27, "\u05E8\u05EA+"),
  (0xFB50, "\u0671\u0671\u067B\u067B\u067B\u067B\u067E\u067E\u067E\u067E\u0680\u0680"),
  (0xFB5C, "\u0680\u0680\u067A\u067A\u067A\u067A\u067F\u067F\u067F\u067F\u0679\u0679"),
  (0xFB68, "\u0679\u0679\u06A4\u06A4\u06A4\u06A4\u06A6\u06A6\u06A6\u06A6\u0684\u0684"),
  (0xFB74, "\u0684\u0684\u0683\u0683\u0683\u0683\u0686\u0686\u0686\u0686\u0687\u0687"),
  (0xFB80, "\u0687\u0687\u068D\u068D\u068C\u068C\u068E\u068E\u0688\u0688\u0698\u0698"),
  (0xFB8C, "\u0691\u0691\u06A9\u06A9\u06A9\u06A9\u06AF\u06AF\u06AF\u06AF\u06B3\u06B3"),
  (0xFB98, "\u06B3\u06B3\u06B1\u06B1\u06B1\u06B1\u06BA\u06BA\u06BB\u06BB\u06BB\u06BB"),
  (0xFBA4, "\u06C0\u06C0\u06C1\u06C1\u06C1\u06C1\u06BE\u06BE\u06BE\u06BE\u06D2\u06D2"),
  (0xFBB0, "\u06D3\u06D3"),
  (0xFBD3, "\u06AD\u06AD\u06AD\u06AD\u06C7\u06C7\u06C6\u06C6\u06C8\u06C8"),
  (0xFBDE, "\u06CB\u06CB\u06C5\u06C5\u06C9\u06C9\u06D0\u06D0\u06D0\u06D0\u0649\u0649"),
  (0xFBFC, "\u06CC\u06CC\u06CC\u06CC"), (0xFE10, ",、"), (0xFE13, ":;!?〖〗"),
  (0xFE31, "—–__()\x7b\x7d〔〕【】《》〈〉"), (0xFE47, "\x5b\x5d"), (0xFE4D, "___,、"),
  (0xFE54, ";:?!—()\x7b\x7d〔〕#&*+-<>="), (0xFE68, "\x5c\x24%@"),
  (0xFE80, "\u0621\u0622\u0622\u0623\u0623\u0624\u0624\u0625\u0625\u0626\u0626\u0626"),
  (0xFE8C, "\u0626\u0627\u0627\u0628\u0628\u0628\u0628\u0629\u0629\u062A\u062A\u062A"),
  (0xFE98, "\u062A\u062B\u062B\u062B\u062B\u062C\u062C\u062C\u062C\u062D\u062D\u062D"),
  (0xFEA4, "\u062D\u062E\u062E\u062E\u062E\u062F\u062F\u0630\u0630\u0631\u0631\u0632"),
  (0xFEB0, "\u0632\u0633\u0633\u0633\u0633\u0634\u0634\u0634\u0634\u0635\u0635\u0635"),
  (0xFEBC, "\u0635\u0636\u0636\u0636\u0636\u0637\u0637\u0637\u0637\u0638\u0638\u0638"),
  (0xFEC8, "\u0638\u0639\u0639\u0639\u0639\u063A\u063A\u063A\u063A\u0641\u0641\u0641"),
  (0xFED4, "\u0641\u0642\u0642\u0642\u0642\u0643\u0643\u0643\u0643\u0644\u0644\u0644"),
  (0xFEE0, "\u0644\u0645\u0645\u0645\u0645\u0646\u0646\u0646\u0646\u0647\u0647\u0647"),
  (0xFEEC, "\u0647\u0648\u0648\u0649\u0649\u064A\u064A\u064A\u064A"),
  (0xFF5F, "⦅⦆.「」、・ヲァィゥェォャュョッ\u30FCアイウエオカキクケコサシスセソタチツテ"),
  (0xFF84, "ト"), (0xFF8B, "ヒフヘホ"), (0xFF94, "ヤユ"), (0xFF9C, "ワン\u3099\u309A"),
  (0xFFA1, "ᄀᄁᆪᄂᆬᆭ"), (0xFFB0, "ᄚ"), (0xFFB4, "ᄡ"), (0xFFE0, "¢£¬"), (0xFFE4, "¦¥₩"),
  (0xFFE8, "│"), (0xFFED, "■○"), (0x10595, "𐖼"), (0x10781, "\u02D0\u02D1æʙɓ"),
  (0x10787, "ʣꭦʥʤɖɗᶑɘɞʩɤɢɠʛħʜɧʄʪʫɬ𝼄ꞎɮ𝼅ʎ𝼆øɶɷqɺ𝼈ɽɾʀʨʦꭧʧ"), (0x107AF, "ʈⱱ"), (0x107B2, "ʏʡʢʘ"),
  (0x107B9, "𝼊𝼞"), (0x1D49C, "a"), (0x1D49E, "cd"), (0x1D4A2, "g"), (0x1D4A5, "jk"),
  (0x1D504, "a"), (0x1D508, "e"), (0x1D50A, "g"), (0x1D538, "a"), (0x1D541, "j"), (0x1D543, "l"),
  (0x1D6A4, "ıȷ"), (0x1D6B9, "θ"), (0x1D6C1, "∇"), (0x1D6D3, "σ"), (0x1D6DB, "∂εθκφρπ"),
  (0x1D6F3, "θ"), (0x1D6FB, "∇"), (0x1D70D, "σ"), (0x1D715, "∂εθκφρπ"), (0x1D72D, "θ"),
  (0x1D735, "∇"), (0x1D747, "σ"), (0x1D74F, "∂εθκφρπ"), (0x1D767, "θ"), (0x1D76F, "∇"),
  (0x1D781, "σ"), (0x1D789, "∂εθκφρπ"), (0x1D7A1, "θ"), (0x1D7A9, "∇"), (0x1D7BB, "σ"),
  (0x1D7C3, "∂εθκφρπϝϝ"), (0x1E047, "ыэюꚉәіјөүӏ"), (0x1E05A, "клопс"), (0x1E065, "ъыґіѕџҫꙑұ"),
  (0x1EE00, "\u0627\u0628\u062C\u062F"), (0x1EE05, "\u0648\u0632\u062D\u0637\u064A"),
  (0x1EE0E, "\u0633\u0639\u0641\u0635\u0642\u0631\u0634\u062A\u062B\u062E\u0630\u0636"),
  (0x1EE1A, "\u0638\u063A\u066E\u06BA\u06A1\u066F"), (0x1EE21, "\u0628\u062C"),
  (0x1EE24, "\u0647"), (0x1EE27, "\u062D"), (0x1EE29, "\u064A"),
  (0x1EE2E, "\u0633\u0639\u0641\u0635\u0642"), (0x1EE34, "\u0634\u062A\u062B\u062E"),
  (0x1EE39, "\u0636"), (0x1EE3B, "\u063A"), (0x1EE42, "\u062C"), (0x1EE47, "\u062D"),
  (0x1EE49, "\u064A"), (0x1EE4B, "\u0644"), (0x1EE4D, "\u0646\u0633\u0639"),
  (0x1EE51, "\u0635\u0642"), (0x1EE54, "\u0634"), (0x1EE57, "\u062E"), (0x1EE59, "\u0636"),
  (0x1EE5B, "\u063A"), (0x1EE5D, "\u06BA"), (0x1EE5F, "\u066F"), (0x1EE61, "\u0628\u062C"),
  (0x1EE64, "\u0647"), (0x1EE67, "\u062D\u0637\u064A\u0643"),
  (0x1EE6C, "\u0645\u0646\u0633\u0639\u0641\u0635\u0642"), (0x1EE74, "\u0634\u062A\u062B\u062E"),
  (0x1EE79, "\u0636\u0638\u063A\u066E"), (0x1EE7E, "\u06A1"),
  (0x1EE80, "\u0627\u0628\u062C\u062F\u0647\u0648\u0632\u062D\u0637\u064A"),
  (0x1EE8E, "\u0633\u0639\u0641\u0635\u0642\u0631\u0634\u062A\u062B\u062E\u0630\u0636"),
  (0x1EE9A, "\u0638\u063A"), (0x1EEA1, "\u0628\u062C\u062F"),
  (0x1EEA5, "\u0648\u0632\u062D\u0637\u064A"),
  (0x1EEAE, "\u0633\u0639\u0641\u0635\u0642\u0631\u0634\u062A\u062B\u062E\u0630\u0636"),
  (0x1EEBA, "\u0638\u063A"), (0x1F12B, "cr"), (0x1F202, "サ"),
  (0x1F210, "手字双デ二多解天交映無料前後再新初終生販声吹演投捕一三遊左中右指走打禁空合満"),
  (0x1F236, "有月申割営配"), (0x1F250, "得可")]

def spelledOut : List (Nat × List String) :=
  [(0xA8, [" \u0308"]), (0xAF, [" \u0304"]), (0xB4, [" \u0301"]), (0xB8, [" \u0327"]),
  (0xBC, ["1⁄4", "1⁄2", "3⁄4"]), (0x132, ["ij", "ij"]), (0x13F, ["l·", "l·"]),
  (0x149, ["\u02BCn"]), (0x1C4, ["dž", "dž", "dž", "lj", "lj", "lj", "nj", "nj", "nj"]),
  (0x1F1, ["dz", "dz", "dz"]),
  (0x2D8, [" \u0306", " \u0307", " \u030A", " \u0328", " \u0303", " \u030B"]), (0x37A, [" ι"]),
  (0x384, [" \u0301"]), (0x587, ["եւ"]),
  (0x675, ["\u0627\u0674", "\u0648\u0674", "\u06C7\u0674", "\u064A\u0674"]), (0xE33, ["\u0E4Dา"]),
  (0xEB3, ["\u0ECDາ"]), (0xEDC, ["ຫນ", "ຫມ"]), (0xF77, ["\u0FB2\u0F71\u0F80"]),
  (0xF79, ["\u0FB3\u0F71\u0F80"]), (0x1E9A, ["a\u02BE"]), (0x1FBD, [" \u0313"]),
  (0x1FBF, [" \u0313", " \u0342"]), (0x1FFE, [" \u0314"]), (0x2017, [" \u0333"]),
  (0x2033, ["′′", "′′′"]), (0x2036, ["‵‵", "‵‵‵"]), (0x203C, ["!!"]), (0x203E, [" \u0305"]),
  (0x2047, ["??", "?!", "!?"]), (0x2057, ["′′′′"]), (0x20A8, ["rs"]), (0x2100, ["a/c", "a/s"]),
  (0x2103, ["°c"]), (0x2105, ["c/o", "c/u"]), (0x2109, ["°f"]), (0x2116, ["no"]),
  (0x2120, ["sm", "tel", "tm"]), (0x213B, ["fax"]),
  (0x2150, ["1⁄7", "1⁄9", "1⁄10", "1⁄3", "2⁄3", "1⁄5", "2⁄5", "3⁄5", "4⁄5", "1⁄6", "5⁄6", "1⁄8"]),
  (0x215C, ["3⁄8", "5⁄8", "7⁄8", "1⁄"]), (0x2161, ["ii", "iii", "iv"]),
  (0x2165, ["vi", "vii", "viii", "ix"]), (0x216A, ["xi", "xii"]), (0x2171, ["ii", "iii", "iv"]),
  (0x2175, ["vi", "vii", "viii", "ix"]), (0x217A, ["xi", "xii"]), (0x2189, ["0⁄3"]),
  (0x222C, ["∫∫", "∫∫∫"]), (0x222F, ["∮∮", "∮∮∮"]),
  (0x2469, ["10", "11", "12", "13", "14", "15", "16", "17", "18", "19", "20", "(1)", "(2)"]),
  (0x2476, ["(3)", "(4)", "(5)", "(6)", "(7)", "(8)", "(9)", "(10)", "(11)", "(12)", "(13)"]),
  (0x2481, ["(14)", "(15)", "(16)", "(17)", "(18)", "(19)", "(20)"]),
  (0x249C, ["(a)", "(b)", "(c)", "(d)", "(e)", "(f)", "(g)", "(h)", "(i)", "(j)", "(k)", "(l)"]),
  (0x24A8, ["(m)", "(n)", "(o)", "(p)", "(q)", "(r)", "(s)", "(t)", "(u)", "(v)", "(w)", "(x)"]),
  (0x24B4, ["(y)", "(z)"]), (0x2A0C, ["∫∫∫∫"]), (0x2A74, ["::=", "==", "==="]),
  (0x309B, [" \u3099", " \u309A"]), (0x309F, ["より"]), (0x30FF, ["コト"]),
  (0x3200, ["(ᄀ)", "(ᄂ)", "(ᄃ)", "(ᄅ)", "(ᄆ)", "(ᄇ)", "(ᄉ)", "(ᄋ)", "(ᄌ)", "(ᄎ)"]),
  (0x320A, ["(ᄏ)", "(ᄐ)", "(ᄑ)", "(ᄒ)", "(가)", "(나)", "(다)", "(라)", "(마)", "(바)"]),
  (0x3214, ["(사)", "(아)", "(자)", "(차)", "(카)", "(타)", "(파)", "(하)", "(주)", "(오전)"]),
  (0x321E, ["(오후)"]),
  (0x3220, ["(一)", "(二)", "(三)", "(四)", "(五)", "(六)", "(七)", "(八)", "(九)", "(十)"]),
  (0x322A, ["(月)", "(火)", "(水)", "(木)", "(金)", "(土)", "(日)", "(株)", "(有)", "(社)"]),
  (0x3234, ["(名)", "(特)", "(財)", "(祝)", "(労)", "(代)", "(呼)", "(学)", "(監)", "(企)"]),
  (0x323E, ["(資)", "(協)", "(祭)", "(休)", "(自)", "(至)"]),
  (0x3250, ["pte", "21", "22", "23", "24", "25", "26", "27", "28", "29", "30", "31", "32", "33"]),
  (0x325E, ["34", "35"]), (0x327C, ["참고", "주의"]),
  (0x32B1, ["36", "37", "38", "39", "40", "41", "42", "43", "44", "45", "46", "47", "48", "49"]),
  (0x32BF, ["50", "1月", "2月", "3月", "4月", "5月", "6月", "7月", "8月", "9月", "10月", "11月"]),
  (0x32CB, ["12月", "hg", "erg", "ev", "ltd"]),
  (0x32FF, ["令和", "アパ\u30FCト", "アルファ", "アンペア", "ア\u30FCル", "イニング", "インチ"]),
  (0x3306, ["ウォン", "エスク\u30FCド", "エ\u30FCカ\u30FC", "オンス", "オ\u30FCム", "カイリ"]),
  (0x330C, ["カラット", "カロリ\u30FC", "ガロン", "ガンマ", "ギガ", "ギニ\u30FC", "キュリ\u30FC"]),
  (0x3313, ["ギルダ\u30FC", "キロ", "キログラム", "キロメ\u30FCトル", "キロワット", "グラム"]),
  (0x3319, ["グラムトン", "クルゼイロ", "クロ\u30FCネ", "ケ\u30FCス", "コルナ", "コ\u30FCポ"]),
  (0x331F, ["サイクル", "サンチ\u30FCム", "シリング", "センチ", "セント", "ダ\u30FCス", "デシ"]),
  (0x3326, ["ドル", "トン", "ナノ", "ノット", "ハイツ", "パ\u30FCセント", "パ\u30FCツ"]),
  (0x332D, ["バ\u30FCレル", "ピアストル", "ピクル", "ピコ", "ビル", "ファラッド", "フィ\u30FCト"]),
  (0x3334, ["ブッシェル", "フラン", "ヘクタ\u30FCル", "ペソ", "ペニヒ", "ヘルツ", "ペンス"]),
  (0x333B, ["ペ\u30FCジ", "ベ\u30FCタ", "ポイント", "ボルト", "ホン", "ポンド", "ホ\u30FCル"]),
  (0x3342, ["ホ\u30FCン", "マイクロ", "マイル", "マッハ", "マルク", "マンション", "ミクロン"]),
  (0x3349, ["ミリ", "ミリバ\u30FCル", "メガ", "メガトン", "メ\u30FCトル", "ヤ\u30FCド"]),
  (0x334F, ["ヤ\u30FCル", "ユアン", "リットル", "リラ", "ルピ\u30FC", "ル\u30FCブル", "レム"]),
  (0x3356, ["レントゲン", "ワット", "0点", "1点", "2点", "3点", "4点", "5点", "6点", "7点"]),
  (0x3360, ["8点", "9点", "10点", "11点", "12点", "13点", "14点", "15点", "16点", "17点", "18点"]),
  (0x336B, ["19点", "20点", "21点", "22点", "23点", "24点", "hpa", "da", "au", "bar", "ov", "pc"]),
  (0x3377, ["dm", "dm2", "dm3", "iu", "平成", "昭和", "大正", "明治", "株式会社", "pa", "na"]),
  (0x3382, ["μa", "ma", "ka", "kb", "mb", "gb", "cal", "kcal", "pf", "nf", "μf", "μg", "mg"]),
  (0x338F, ["kg", "hz", "khz", "mhz", "ghz", "thz", "μl", "ml", "dl", "kl", "fm", "nm", "μm"]),
  (0x339C, ["mm", "cm", "km", "mm2", "cm2", "m2", "km2", "mm3", "cm3", "m3", "km3", "m∕s"]),
  (0x33A8, ["m∕s2", "pa", "kpa", "mpa", "gpa", "rad", "rad∕s", "rad∕s2", "ps", "ns", "μs", "ms"]),
  (0x33B4, ["pv", "nv", "μv", "mv", "kv", "mv", "pw", "nw", "μw", "mw", "kw", "mw", "kω", "mω"]),
  (0x33C3, ["bq", "cc", "cd", "c∕kg"]),
  (0x33C8, ["db", "gy", "ha", "hp", "in", "kk", "km", "kt", "lm", "ln", "log", "lx", "mb", "mil"]),
  (0x33D6, ["mol", "ph"]),
  (0x33D9, ["ppm", "pr", "sr", "sv", "wb", "v∕m", "a∕m", "1日", "2日", "3日", "4日", "5日"]),
  (0x33E5, ["6日", "7日", "8日", "9日", "10日", "11日", "12日", "13日", "14日", "15日", "16日"]),
  (0x33F0, ["17日", "18日", "19日", "20日", "21日", "22日", "23日", "24日", "25日", "26日"]),
  (0x33FA, ["27日", "28日", "29日", "30日", "31日", "gal"]),
  (0xFB00, ["ff", "fi", "fl", "ffi", "ffl", "st", "st"]), (0xFB13, ["մն", "մե", "մի", "վն", "մխ"]),
  (0xFB4F, ["\u05D0\u05DC"]), (0xFBDD, ["\u06C7\u0674"]),
  (0xFBEA, ["\u0626\u0627", "\u0626\u0627", "\u0626\u06D5", "\u0626\u06D5", "\u0626\u0648"]),
  (0xFBEF, ["\u0626\u0648", "\u0626\u06C7", "\u0626\u06C7", "\u0626\u06C6", "\u0626\u06C6"]),
  (0xFBF4, ["\u0626\u06C8", "\u0626\u06C8", "\u0626\u06D0", "\u0626\u06D0", "\u0626\u06D0"]),
  (0xFBF9, ["\u0626\u0649", "\u0626\u0649", "\u0626\u0649"]),
  (0xFC00, ["\u0626\u062C", "\u0626\u062D", "\u0626\u0645", "\u0626\u0649", "\u0626\u064A"]),
  (0xFC05, ["\u0628\u062C", "\u0628\u062D", "\u0628\u062E", "\u0628\u0645", "\u0628\u0649"]),
  (0xFC0A, ["\u0628\u064A", "\u062A\u062C", "\u062A\u062D", "\u062A\u062E", "\u062A\u0645"]),
  (0xFC0F, ["\u062A\u0649", "\u062A\u064A", "\u062B\u062C", "\u062B\u0645", "\u062B\u0649"]),
  (0xFC14, ["\u062B\u064A", "\u062C\u062D", "\u062C\u0645", "\u062D\u062C", "\u062D\u0645"]),
  (0xFC19, ["\u062E\u062C", "\u062E\u062D", "\u062E\u0645", "\u0633\u062C", "\u0633\u062D"]),
  (0xFC1E, ["\u0633\u062E", "\u0633\u0645", "\u0635\u062D", "\u0635\u0645", "\u0636\u062C"]),
  (0xFC23, ["\u0636\u062D", "\u0636\u062E", "\u0636\u0645", "\u0637\u062D", "\u0637\u0645"]),
  (0xFC28, ["\u0638\u0645", "\u0639\u062C", "\u0639\u0645", "\u063A\u062C", "\u063A\u0645"]),
  (0xFC2D, ["\u0641\u062C", "\u0641\u062D", "\u0641\u062E", "\u0641\u0645", "\u0641\u0649"]),
  (0xFC32, ["\u0641\u064A", "\u0642\u062D", "\u0642\u0645", "\u0642\u0649", "\u0642\u064A"]),
  (0xFC37, ["\u0643\u0627", "\u0643\u062C", "\u0643\u062D", "\u0643\u062E", "\u0643\u0644"]),
  (0xFC3C, ["\u0643\u0645", "\u0643\u0649", "\u0643\u064A", "\u0644\u062C", "\u0644\u062D"]),
  (0xFC41, ["\u0644\u062E", "\u0644\u0645", "\u0644\u0649", "\u0644\u064A", "\u0645\u062C"]),
  (0xFC46, ["\u0645\u062D", "\u0645\u062E", "\u0645\u0645", "\u0645\u0649", "\u0645\u064A"]),
  (0xFC4B, ["\u0646\u062C", "\u0646\u062D", "\u0646\u062E", "\u0646\u0645", "\u0646\u0649"]),
  (0xFC50, ["\u0646\u064A", "\u0647\u062C", "\u0647\u0645", "\u0647\u0649", "\u0647\u064A"]),
  (0xFC55, ["\u064A\u062C", "\u064A\u062D", "\u064A\u062E", "\u064A\u0645", "\u064A\u0649"]),
  (0xFC5A, ["\u064A\u064A", "\u0630\u0670", "\u0631\u0670", "\u0649\u0670", " \u064C\u0651"]),
  (0xFC5F, [" \u064D\u0651", " \u064E\u0651", " \u064F\u0651", " \u0650\u0651", " \u0651\u0670"]),
  (0xFC64, ["\u0626\u0631", "\u0626\u0632", "\u0626\u0645", "\u0626\u0646", "\u0626\u0649"]),
  (0xFC69, ["\u0626\u064A", "\u0628\u0631", "\u0628\u0632", "\u0628\u0645", "\u0628\u0646"]),
  (0xFC6E, ["\u0628\u0649", "\u0628\u064A", "\u062A\u0631", "\u062A\u0632", "\u062A\u0645"]),
  (0xFC73, ["\u062A\u0646", "\u062A\u0649", "\u062A\u064A", "\u062B\u0631", "\u062B\u0632"]),
  (0xFC78, ["\u062B\u0645", "\u062B\u0646", "\u062B\u0649", "\u062B\u064A", "\u0641\u0649"]),
  (0xFC7D, ["\u0641\u064A", "\u0642\u0649", "\u0642\u064A", "\u0643\u0627", "\u0643\u0644"]),
  (0xFC82, ["\u0643\u0645", "\u0643\u0649", "\u0643\u064A", "\u0644\u0645", "\u0644\u0649"]),
  (0xFC87, ["\u0644\u064A", "\u0645\u0627", "\u0645\u0645", "\u0646\u0631", "\u0646\u0632"]),
  (0xFC8C, ["\u0646\u0645", "\u0646\u0646", "\u0646\u0649", "\u0646\u064A", "\u0649\u0670"]),
  (0xFC91, ["\u064A\u0631", "\u064A\u0632", "\u064A\u0645", "\u064A\u0646", "\u064A\u0649"]),
  (0xFC96, ["\u064A\u064A", "\u0626\u062C", "\u0626\u062D", "\u0626\u062E", "\u0626\u0645"]),
  (0xFC9B, ["\u0626\u0647", "\u0628\u062C", "\u0628\u062D", "\u0628\u062E", "\u0628\u0645"]),
  (0xFCA0, ["\u0628\u0647", "\u062A\u062C", "\u062A\u062D", "\u062A\u062E", "\u062A\u0645"]),
  (0xFCA5, ["\u062A\u0647", "\u062B\u0645", "\u062C\u062D", "\u062C\u0645", "\u062D\u062C"]),
  (0xFCAA, ["\u062D\u0645", "\u062E\u062C", "\u062E\u0645", "\u0633\u062C", "\u0633\u062D"]),
  (0xFCAF, ["\u0633\u062E", "\u0633\u0645", "\u0635\u062D", "\u0635\u062E", "\u0635\u0645"]),
  (0xFCB4, ["\u0636\u062C", "\u0636\u062D", "\u0636\u062E", "\u0636\u0645", "\u0637\u062D"]),
  (0xFCB9, ["\u0638\u0645", "\u0639\u062C", "\u0639\u0645", "\u063A\u062C", "\u063A\u0645"]),
  (0xFCBE, ["\u0641\u062C", "\u0641\u062D", "\u0641\u062E", "\u0641\u0645", "\u0642\u062D"]),
  (0xFCC3, ["\u0642\u0645", "\u0643\u062C", "\u0643\u062D", "\u0643\u062E", "\u0643\u0644"]),
  (0xFCC8, ["\u0643\u0645", "\u0644\u062C", "\u0644\u062D", "\u0644\u062E", "\u0644\u0645"]),
  (0xFCCD, ["\u0644\u0647", "\u0645\u062C", "\u0645\u062D", "\u0645\u062E", "\u0645\u0645"]),
  (0xFCD2, ["\u0646\u062C", "\u0646\u062D", "\u0646\u062E", "\u0646\u0645", "\u0646\u0647"]),
  (0xFCD7, ["\u0647\u062C", "\u0647\u0645", "\u0647\u0670", "\u064A\u062C", "\u064A\u062D"]),
  (0xFCDC, ["\u064A\u062E", "\u064A\u0645", "\u064A\u0647", "\u0626\u0645", "\u0626\u0647"]),
  (0xFCE1, ["\u0628\u0645", "\u0628\u0647", "\u062A\u0645", "\u062A\u0647", "\u062B\u0645"]),
  (0xFCE6, ["\u062B\u0647", "\u0633\u0645", "\u0633\u0647", "\u0634\u0645", "\u0634\u0647"]),
  (0xFCEB, ["\u0643\u0644", "\u0643\u0645", "\u0644\u0645", "\u0646\u0645", "\u0646\u0647"]),
  (0xFCF0, ["\u064A\u0645", "\u064A\u0647", "\u0640\u064E\u0651", "\u0640\u064F\u0651"]),
  (0xFCF4, ["\u0640\u0650\u0651", "\u0637\u0649", "\u0637\u064A", "\u0639\u0649", "\u0639\u064A"]),
  (0xFCF9, ["\u063A\u0649", "\u063A\u064A", "\u0633\u0649", "\u0633\u064A", "\u0634\u0649"]),
  (0xFCFE, ["\u0634\u064A", "\u062D\u0649", "\u062D\u064A", "\u062C\u0649", "\u062C\u064A"]),
  (0xFD03, ["\u062E\u0649", "\u062E\u064A", "\u0635\u0649", "\u0635\u064A", "\u0636\u0649"]),
  (0xFD08, ["\u0636\u064A", "\u0634\u062C", "\u0634\u062D", "\u0634\u062E", "\u0634\u0645"]),
  (0xFD0D, ["\u0634\u0631", "\u0633\u0631", "\u0635\u0631", "\u0636\u0631", "\u0637\u0649"]),
  (0xFD12, ["\u0637\u064A", "\u0639\u0649", "\u0639\u064A", "\u063A\u0649", "\u063A\u064A"]),
  (0xFD17, ["\u0633\u0649", "\u0633\u064A", "\u0634\u0649", "\u0634\u064A", "\u062D\u0649"]),
  (0xFD1C, ["\u062D\u064A", "\u062C\u0649", "\u062C\u064A", "\u062E\u0649", "\u062E\u064A"]),
  (0xFD21, ["\u0635\u0649", "\u0635\u064A", "\u0636\u0649", "\u0636\u064A", "\u0634\u062C"]),
  (0xFD26, ["\u0634\u062D", "\u0634\u062E", "\u0634\u0645", "\u0634\u0631", "\u0633\u0631"]),
  (0xFD2B, ["\u0635\u0631", "\u0636\u0631", "\u0634\u062C", "\u0634\u062D", "\u0634\u062E"]),
  (0xFD30, ["\u0634\u0645", "\u0633\u0647", "\u0634\u0647", "\u0637\u0645", "\u0633\u062C"]),
  (0xFD35, ["\u0633\u062D", "\u0633\u062E", "\u0634\u062C", "\u0634\u062D", "\u0634\u062E"]),
  (0xFD3A, ["\u0637\u0645", "\u0638\u0645", "\u0627\u064B", "\u0627\u064B"]),
  (0xFD50, ["\u062A\u062C\u0645", "\u062A\u062D\u062C", "\u062A\u062D\u062C"]),
  (0xFD53, ["\u062A\u062D\u0645", "\u062A\u062E\u0645", "\u062A\u0645\u062C"]),
  (0xFD56, ["\u062A\u0645\u062D", "\u062A\u0645\u062E", "\u062C\u0645\u062D"]),
  (0xFD59, ["\u062C\u0645\u062D", "\u062D\u0645\u064A", "\u062D\u0645\u0649"]),
  (0xFD5C, ["\u0633\u062D\u062C", "\u0633\u062C\u062D", "\u0633\u062C\u0649"]),
  (0xFD5F, ["\u0633\u0645\u062D", "\u0633\u0645\u062D", "\u0633\u0645\u062C"]),
  (0xFD62, ["\u0633\u0645\u0645", "\u0633\u0645\u0645", "\u0635\u062D\u062D"]),
  (0xFD65, ["\u0635\u062D\u062D", "\u0635\u0645\u0645", "\u0634\u062D\u0645"]),
  (0xFD68, ["\u0634\u062D\u0645", "\u0634\u062C\u064A", "\u0634\u0645\u062E"]),
  (0xFD6B, ["\u0634\u0645\u062E", "\u0634\u0645\u0645", "\u0634\u0645\u0645"]),
  (0xFD6E, ["\u0636\u062D\u0649", "\u0636\u062E\u0645", "\u0636\u062E\u0645"]),
  (0xFD71, ["\u0637\u0645\u062D", "\u0637\u0645\u062D", "\u0637\u0645\u0645"]),
  (0xFD74, ["\u0637\u0645\u064A", "\u0639\u062C\u0645", "\u0639\u0645\u0645"]),
  (0xFD77, ["\u0639\u0645\u0645", "\u0639\u0645\u0649", "\u063A\u0645\u0645"]),
  (0xFD7A, ["\u063A\u0645\u064A", "\u063A\u0645\u0649", "\u0641\u062E\u0645"]),
  (0xFD7D, ["\u0641\u062E\u0645", "\u0642\u0645\u062D", "\u0642\u0645\u0645"]),
  (0xFD80, ["\u0644\u062D\u0645", "\u0644\u062D\u064A", "\u0644\u062D\u0649"]),
  (0xFD83, ["\u0644\u062C\u062C", "\u0644\u062C\u062C", "\u0644\u062E\u0645"]),
  (0xFD86, ["\u0644\u062E\u0645", "\u0644\u0645\u062D", "\u0644\u0645\u062D"]),
  (0xFD89, ["\u0645\u062D\u062C", "\u0645\u062D\u0645", "\u0645\u062D\u064A"]),
  (0xFD8C, ["\u0645\u062C\u062D", "\u0645\u062C\u0645", "\u0645\u062E\u062C"]),
  (0xFD8F, ["\u0645\u062E\u0645"]),
  (0xFD92, ["\u0645\u062C\u062E", "\u0647\u0645\u062C", "\u0647\u0645\u0645"]),
  (0xFD95, ["\u0646\u062D\u0645", "\u0646\u062D\u0649", "\u0646\u062C\u0645"]),
  (0xFD98, ["\u0646\u062C\u0645", "\u0646\u062C\u0649", "\u0646\u0645\u064A"]),
  (0xFD9B, ["\u0646\u0645\u0649", "\u064A\u0645\u0645", "\u064A\u0645\u0645"]),
  (0xFD9E, ["\u0628\u062E\u064A", "\u062A\u062C\u064A", "\u062A\u062C\u0649"]),
  (0xFDA1, ["\u062A\u062E\u064A", "\u062A\u062E\u0649", "\u062A\u0645\u064A"]),
  (0xFDA4, ["\u062A\u0645\u0649", "\u062C\u0645\u064A", "\u062C\u062D\u0649"]),
  (0xFDA7, ["\u062C\u0645\u0649", "\u0633\u062E\u0649", "\u0635\u062D\u064A"]),
  (0xFDAA, ["\u0634\u062D\u064A", "\u0636\u062D\u064A", "\u0644\u062C\u064A"]),
  (0xFDAD, ["\u0644\u0645\u064A", "\u064A\u062D\u064A", "\u064A\u062C\u064A"]),
  (0xFDB0, ["\u064A\u0645\u064A", "\u0645\u0645\u064A", "\u0642\u0645\u064A"]),
  (0xFDB3, ["\u0646\u062D\u064A", "\u0642\u0645\u062D", "\u0644\u062D\u0645"]),
  (0xFDB6, ["\u0639\u0645\u064A", "\u0643\u0645\u064A", "\u0646\u062C\u062D"]),
  (0xFDB9, ["\u0645\u062E\u064A", "\u0644\u062C\u0645", "\u0643\u0645\u0645"]),
  (0xFDBC, ["\u0644\u062C\u0645", "\u0646\u062C\u062D", "\u062C\u062D\u064A"]),
  (0xFDBF, ["\u062D\u062C\u064A", "\u0645\u062C\u064A", "\u0641\u0645\u064A"]),
  (0xFDC2, ["\u0628\u062D\u064A", "\u0643\u0645\u0645", "\u0639\u062C\u0645"]),
  (0xFDC5, ["\u0635\u0645\u0645", "\u0633\u062E\u064A", "\u0646\u062C\u064A"]),
  (0xFDF0, ["\u0635\u0644\u06D2", "\u0642\u0644\u06D2", "\u0627\u0644\u0644\u0647"]),
  (0xFDF3, ["\u0627\u0643\u0628\u0631", "\u0645\u062D\u0645\u062F", "\u0635\u0644\u0639\u0645"]),
  (0xFDF6, ["\u0631\u0633\u0648\u0644", "\u0639\u0644\u064A\u0647", "\u0648\u0633\u0644\u0645"]),
  (0xFDF9, ["\u0635\u0644\u0649"]),
  (0xFDFA, ["\u0635\u0644\u0649 \u0627\u0644\u0644\u0647 " ++
    "\u0639\u0644\u064A\u0647 \u0648\u0633\u0644\u0645"]),
  (0xFDFB, ["\u062C\u0644 \u062C\u0644\u0627\u0644\u0647", "\u0631\u06CC\u0627\u0644"]),
  (0xFE49, [" \u0305", " \u0305", " \u0305", " \u0305"]),
  (0xFE70, [" \u064B", "\u0640\u064B", " \u064C"]), (0xFE74, [" \u064D"]),
  (0xFE76, [" \u064E", "\u0640\u064E", " \u064F", "\u0640\u064F", " \u0650", "\u0640\u0650"]),
  (0xFE7C, [" \u0651", "\u0640\u0651", " \u0652", "\u0640\u0652"]),
  (0xFEF5, ["\u0644\u0622", "\u0644\u0622", "\u0644\u0623", "\u0644\u0623", "\u0644\u0625"]),
  (0xFEFA, ["\u0644\u0625", "\u0644\u0627", "\u0644\u0627"]), (0xFFE3, [" \u0304"]),
  (0x1F101, ["0,", "1,", "2,", "3,", "4,", "5,", "6,", "7,", "8,", "9,"]),
  (0x1F110, ["(a)", "(b)", "(c)", "(d)", "(e)", "(f)", "(g)", "(h)", "(i)", "(j)", "(k)", "(l)"]),
  (0x1F11C, ["(m)", "(n)", "(o)", "(p)", "(q)", "(r)", "(s)", "(t)", "(u)", "(v)", "(w)", "(x)"]),
  (0x1F128, ["(y)", "(z)", "〔s〕"]), (0x1F12D, ["cd", "wz"]),
  (0x1F14A, ["hv", "mv", "sd", "ss", "ppv", "wc"]), (0x1F16A, ["mc", "md", "mr"]),
  (0x1F190, ["dj"]), (0x1F200, ["ほか", "ココ"]),
  (0x1F240, ["〔本〕", "〔三〕", "〔二〕", "〔安〕", "〔点〕", "〔打〕", "〔盗〕", "〔勝〕"]),
  (0x1F248, ["〔敗〕"])]

end DocQuery.Web.Domain
