/-
  What the characters of a name become.

  Names do not tell capital from small letters, nor wide, narrow, circled or otherwise adorned forms
  from plain ones.  So every character of a name is put for what it stands for: most of them for
  themselves (`usableRuns`), some for nothing (`voidRuns`), and the others for one character or for
  several.  Those that stand for one are found by their distance, where many in a row have the same
  (`shiftRuns`), and else each for itself (`letterImages`); for those that stand for several the
  images are separated by bars (`textImages`).  A character that is in none of the tables has no
  place in a name.

  The tables are those of version 17 of Unicode, for names that are looked up as they are written:
  the sharp s, the final sigma and the joiners stay.
-/
import Turnpike.Text.Ascii
import Turnpike.Text.Lowercase

namespace Turnpike.Url

open Turnpike.Text

/-- Is the code point in one of the runs, each given by its first and its last code point? -/
def within (runs : List (Nat × Nat)) (n : Nat) : Bool :=
  runs.any fun (first, last) => first ≤ n && n ≤ last

/-- Characters that go without a trace: joiners and spaces without width, and what selects a
    variant. -/
def voidRuns : List (Nat × Nat) := [
  (0xad, 0xad), (0x34f, 0x34f), (0x115f, 0x1160), (0x17b4, 0x17b5), (0x180b, 0x180f),
  (0x200b, 0x200b), (0x2060, 0x2064), (0x206a, 0x206f), (0x3164, 0x3164), (0xfe00, 0xfe0f),
  (0xfeff, 0xfeff), (0xffa0, 0xffa0), (0x1bca0, 0x1bca3), (0x1d173, 0x1d17a), (0xe0100, 0xe01ef)]

/-- Capital letters and adorned forms, with the distance to the plain small letter. -/
def shiftRuns : List CaseRun := [
  ⟨0xc0, 0xd6, 1, 32⟩, ⟨0xd8, 0xde, 1, 32⟩, ⟨0x100, 0x12e, 2, 1⟩, ⟨0x139, 0x13d, 2, 1⟩,
  ⟨0x141, 0x147, 2, 1⟩, ⟨0x14a, 0x176, 2, 1⟩, ⟨0x179, 0x17d, 2, 1⟩, ⟨0x1a0, 0x1a4, 2, 1⟩,
  ⟨0x1cd, 0x1db, 2, 1⟩, ⟨0x1de, 0x1ee, 2, 1⟩, ⟨0x1f8, 0x21e, 2, 1⟩, ⟨0x222, 0x232, 2, 1⟩,
  ⟨0x246, 0x24e, 2, 1⟩, ⟨0x388, 0x38a, 1, 37⟩, ⟨0x391, 0x3a1, 1, 32⟩, ⟨0x3a3, 0x3ab, 1, 32⟩,
  ⟨0x3d8, 0x3ee, 2, 1⟩, ⟨0x3fd, 0x3ff, 1, -130⟩, ⟨0x400, 0x40f, 1, 80⟩, ⟨0x410, 0x42f, 1, 32⟩,
  ⟨0x460, 0x480, 2, 1⟩, ⟨0x48a, 0x4be, 2, 1⟩, ⟨0x4c1, 0x4cd, 2, 1⟩, ⟨0x4d0, 0x52e, 2, 1⟩,
  ⟨0x531, 0x556, 1, 48⟩, ⟨0x10a0, 0x10c5, 1, 7264⟩, ⟨0x13f8, 0x13fd, 1, -8⟩,
  ⟨0x1c90, 0x1cba, 1, -3008⟩, ⟨0x1cbd, 0x1cbf, 1, -3008⟩, ⟨0x1d31, 0x1d39, 2, -7372⟩,
  ⟨0x1d34, 0x1d3a, 2, -7372⟩, ⟨0x1d5d, 0x1d5f, 1, -6571⟩, ⟨0x1da4, 0x1da6, 1, -6972⟩,
  ⟨0x1dae, 0x1db1, 1, -6972⟩, ⟨0x1dbc, 0x1dbe, 1, -6956⟩, ⟨0x1e00, 0x1e94, 2, 1⟩,
  ⟨0x1ea0, 0x1efe, 2, 1⟩, ⟨0x1f08, 0x1f0f, 1, -8⟩, ⟨0x1f18, 0x1f1d, 1, -8⟩,
  ⟨0x1f28, 0x1f2f, 1, -8⟩, ⟨0x1f38, 0x1f3f, 1, -8⟩, ⟨0x1f48, 0x1f4d, 1, -8⟩,
  ⟨0x1f59, 0x1f5f, 2, -8⟩, ⟨0x1f68, 0x1f6f, 1, -8⟩, ⟨0x2074, 0x2079, 1, -8256⟩,
  ⟨0x2080, 0x2089, 1, -8272⟩, ⟨0x2096, 0x2099, 1, -8235⟩, ⟨0x2119, 0x211b, 1, -8361⟩,
  ⟨0x2135, 0x2138, 1, -7013⟩, ⟨0x2460, 0x2468, 1, -9263⟩, ⟨0x24b6, 0x24cf, 1, -9301⟩,
  ⟨0x24d0, 0x24e9, 1, -9327⟩, ⟨0x2c00, 0x2c2f, 1, 48⟩, ⟨0x2c67, 0x2c6b, 2, 1⟩,
  ⟨0x2c80, 0x2ce2, 2, 1⟩, ⟨0x3137, 0x3139, 1, -8244⟩, ⟨0x313a, 0x313f, 1, -8074⟩,
  ⟨0x3141, 0x3143, 1, -8251⟩, ⟨0x3145, 0x314e, 1, -8252⟩, ⟨0x314f, 0x3163, 1, -8174⟩,
  ⟨0x3178, 0x317c, 1, -8269⟩, ⟨0x3184, 0x3186, 1, -8237⟩, ⟨0x3263, 0x3265, 1, -8542⟩,
  ⟨0x3269, 0x326d, 1, -8539⟩, ⟨0x32e4, 0x32e9, 1, -538⟩, ⟨0x32ee, 0x32f2, 1, -528⟩,
  ⟨0x32f5, 0x32fa, 1, -525⟩, ⟨0x32fb, 0x32fe, 1, -524⟩, ⟨0xa640, 0xa66c, 2, 1⟩,
  ⟨0xa680, 0xa69a, 2, 1⟩, ⟨0xa722, 0xa72e, 2, 1⟩, ⟨0xa732, 0xa76e, 2, 1⟩, ⟨0xa77e, 0xa786, 2, 1⟩,
  ⟨0xa796, 0xa7a8, 2, 1⟩, ⟨0xa7b4, 0xa7c2, 2, 1⟩, ⟨0xa7cc, 0xa7da, 2, 1⟩,
  ⟨0xab70, 0xabbf, 1, -38864⟩, ⟨0xfb24, 0xfb26, 1, -62793⟩, ⟨0xfe41, 0xfe44, 1, -52789⟩,
  ⟨0xff01, 0xff20, 1, -65248⟩, ⟨0xff21, 0xff3a, 1, -65216⟩, ⟨0xff3b, 0xff5e, 1, -65248⟩,
  ⟨0xff85, 0xff8a, 1, -52923⟩, ⟨0xff8f, 0xff93, 1, -52913⟩, ⟨0xff96, 0xff9b, 1, -52910⟩,
  ⟨0xffa7, 0xffa9, 1, -61092⟩, ⟨0xffaa, 0xffaf, 1, -60922⟩, ⟨0xffb1, 0xffb3, 1, -61099⟩,
  ⟨0xffb5, 0xffbe, 1, -61100⟩, ⟨0xffc2, 0xffc7, 1, -61025⟩, ⟨0xffca, 0xffcf, 1, -61027⟩,
  ⟨0xffd2, 0xffd7, 1, -61029⟩, ⟨0xffda, 0xffdc, 1, -61031⟩, ⟨0xffe9, 0xffec, 1, -56921⟩,
  ⟨0x10400, 0x10427, 1, 40⟩, ⟨0x104b0, 0x104d3, 1, 40⟩, ⟨0x10570, 0x10594, 2, 39⟩,
  ⟨0x10571, 0x10579, 2, 39⟩, ⟨0x1057d, 0x10589, 2, 39⟩, ⟨0x1058d, 0x10591, 2, 39⟩,
  ⟨0x107b6, 0x107b8, 1, -67062⟩, ⟨0x10c80, 0x10cb2, 1, 64⟩, ⟨0x10d50, 0x10d65, 1, 32⟩,
  ⟨0x118a0, 0x118bf, 1, 32⟩, ⟨0x16e40, 0x16e5f, 1, 32⟩, ⟨0x16ea0, 0x16eb8, 1, 27⟩,
  ⟨0x1ccd6, 0x1ccef, 1, -117877⟩, ⟨0x1ccf0, 0x1ccf9, 1, -117952⟩, ⟨0x1d400, 0x1d419, 1, -119711⟩,
  ⟨0x1d41a, 0x1d433, 1, -119737⟩, ⟨0x1d434, 0x1d44d, 1, -119763⟩, ⟨0x1d44e, 0x1d466, 2, -119789⟩,
  ⟨0x1d44f, 0x1d453, 2, -119789⟩, ⟨0x1d457, 0x1d467, 2, -119789⟩, ⟨0x1d468, 0x1d481, 1, -119815⟩,
  ⟨0x1d482, 0x1d49b, 1, -119841⟩, ⟨0x1d4a9, 0x1d4ac, 1, -119867⟩, ⟨0x1d4ae, 0x1d4b5, 1, -119867⟩,
  ⟨0x1d4b6, 0x1d4b9, 1, -119893⟩, ⟨0x1d4bb, 0x1d4cf, 2, -119893⟩, ⟨0x1d4be, 0x1d4c2, 2, -119893⟩,
  ⟨0x1d4c6, 0x1d4ce, 2, -119893⟩, ⟨0x1d4d0, 0x1d4e9, 1, -119919⟩, ⟨0x1d4ea, 0x1d503, 1, -119945⟩,
  ⟨0x1d505, 0x1d509, 2, -119971⟩, ⟨0x1d50d, 0x1d514, 1, -119971⟩, ⟨0x1d516, 0x1d51c, 1, -119971⟩,
  ⟨0x1d51e, 0x1d537, 1, -119997⟩, ⟨0x1d539, 0x1d53d, 2, -120023⟩, ⟨0x1d53c, 0x1d546, 2, -120023⟩,
  ⟨0x1d54a, 0x1d550, 1, -120023⟩, ⟨0x1d552, 0x1d56b, 1, -120049⟩, ⟨0x1d56c, 0x1d585, 1, -120075⟩,
  ⟨0x1d586, 0x1d59f, 1, -120101⟩, ⟨0x1d5a0, 0x1d5b9, 1, -120127⟩, ⟨0x1d5ba, 0x1d5d3, 1, -120153⟩,
  ⟨0x1d5d4, 0x1d5ed, 1, -120179⟩, ⟨0x1d5ee, 0x1d607, 1, -120205⟩, ⟨0x1d608, 0x1d621, 1, -120231⟩,
  ⟨0x1d622, 0x1d63b, 1, -120257⟩, ⟨0x1d63c, 0x1d655, 1, -120283⟩, ⟨0x1d656, 0x1d66f, 1, -120309⟩,
  ⟨0x1d670, 0x1d689, 1, -120335⟩, ⟨0x1d68a, 0x1d6a3, 1, -120361⟩, ⟨0x1d6a8, 0x1d6b8, 1, -119543⟩,
  ⟨0x1d6ba, 0x1d6c0, 1, -119543⟩, ⟨0x1d6c2, 0x1d6d2, 1, -119569⟩, ⟨0x1d6d4, 0x1d6da, 1, -119569⟩,
  ⟨0x1d6e2, 0x1d6f2, 1, -119601⟩, ⟨0x1d6f4, 0x1d6fa, 1, -119601⟩, ⟨0x1d6fc, 0x1d70c, 1, -119627⟩,
  ⟨0x1d70e, 0x1d714, 1, -119627⟩, ⟨0x1d71c, 0x1d72c, 1, -119659⟩, ⟨0x1d72e, 0x1d734, 1, -119659⟩,
  ⟨0x1d736, 0x1d746, 1, -119685⟩, ⟨0x1d748, 0x1d74e, 1, -119685⟩, ⟨0x1d756, 0x1d766, 1, -119717⟩,
  ⟨0x1d768, 0x1d76e, 1, -119717⟩, ⟨0x1d770, 0x1d780, 1, -119743⟩, ⟨0x1d782, 0x1d788, 1, -119743⟩,
  ⟨0x1d790, 0x1d7a0, 1, -119775⟩, ⟨0x1d7a2, 0x1d7a8, 1, -119775⟩, ⟨0x1d7aa, 0x1d7ba, 1, -119801⟩,
  ⟨0x1d7bc, 0x1d7c2, 1, -119801⟩, ⟨0x1d7ce, 0x1d7d7, 1, -120734⟩, ⟨0x1d7d8, 0x1d7e1, 1, -120744⟩,
  ⟨0x1d7e2, 0x1d7eb, 1, -120754⟩, ⟨0x1d7ec, 0x1d7f5, 1, -120764⟩, ⟨0x1d7f6, 0x1d7ff, 1, -120774⟩,
  ⟨0x1e030, 0x1e038, 1, -121856⟩, ⟨0x1e039, 0x1e03b, 1, -121855⟩, ⟨0x1e03c, 0x1e046, 1, -121854⟩,
  ⟨0x1e051, 0x1e059, 1, -121889⟩, ⟨0x1e05f, 0x1e064, 1, -121884⟩, ⟨0x1e900, 0x1e921, 1, 34⟩,
  ⟨0x1ee0a, 0x1ee0d, 1, -124871⟩, ⟨0x1ee2a, 0x1ee2d, 1, -124903⟩, ⟨0x1ee8b, 0x1ee8d, 1, -124999⟩,
  ⟨0x1eeab, 0x1eead, 1, -125031⟩, ⟨0x1f130, 0x1f149, 1, -127183⟩, ⟨0x1fbf0, 0x1fbf9, 1, -129984⟩]

/-- Characters in a row from a code point on, with the one that each stands for. -/
def letterImages : List (Nat × String) := [
  (0xa0, "\x20"), (0xaa, "a"), (0xb2, "23"), (0xb5, "μ"), (0xb9, "1o"), (0x134, "ĵ"),
  (0x136, "ķ"), (0x178, "ÿ"), (0x17f, "s"), (0x181, "ɓƃ"), (0x184, "ƅ"), (0x186, "ɔƈ"),
  (0x189, "ɖɗƌ"), (0x18e, "ǝəɛƒ"), (0x193, "ɠɣ"), (0x196, "ɩɨƙ"), (0x19c, "ɯɲ"), (0x19f, "ɵ"),
  (0x1a6, "ʀƨ"), (0x1a9, "ʃ"), (0x1ac, "ƭ"), (0x1ae, "ʈư"), (0x1b1, "ʊʋƴ"), (0x1b5, "ƶ"),
  (0x1b7, "ʒƹ"), (0x1bc, "ƽ"), (0x1f4, "ǵ"), (0x1f6, "ƕƿ"), (0x220, "ƞ"), (0x23a, "ⱥȼ"),
  (0x23d, "ƚⱦ"), (0x241, "ɂ"), (0x243, "ƀʉʌ"), (0x2b0, "hɦjrɹɻʁwy"), (0x2e0, "ɣlsxʕ"),
  (0x340, "\u0300\u0301"), (0x343, "\u0313"), (0x345, "ι"), (0x370, "ͱ"), (0x372, "ͳ"),
  (0x374, "\u02b9"), (0x376, "ͷ"), (0x37e, ";ϳ"), (0x386, "ά\u00b7"), (0x38c, "ό"), (0x38e, "ύώ"),
  (0x3cf, "ϗβθυύϋφπ"), (0x3f0, "κρσ"), (0x3f4, "θε"), (0x3f7, "ϸ"), (0x3f9, "σϻ"), (0x4c0, "ӏ"),
  (0xf0c, "\u0f0b"), (0x10c7, "\u2d27"), (0x10cd, "\u2d2d"), (0x10fc, "\u10dc"),
  (0x1c80, "вдосттъѣꙋ\u1c8a"), (0x1d2c, "aæb"), (0x1d30, "d"), (0x1d32, "ǝ"),
  (0x1d3c, "oȣprtuwaɐɑᴂbdeəɛɜg"), (0x1d4f, "kmŋoɔᴖᴗptuᴝɯvᴥ"), (0x1d60, "φχiruvβγρφχ"),
  (0x1d78, "н"), (0x1d9b, "ɒcɕðɜfɟɡɥ"), (0x1da7, "ᵻʝɭᶅʟɱɰ"), (0x1db2, "ɸʂʃƫʉʊᴜʋʌz"),
  (0x1dbf, "θ"), (0x1e9b, "ṡ"), (0x1e9e, "ß"), (0x1f71, "ά"), (0x1f73, "έ"), (0x1f75, "ή"),
  (0x1f77, "ί"), (0x1f79, "ό"), (0x1f7b, "ύ"), (0x1f7d, "ώ"), (0x1fb8, "ᾰᾱὰά"), (0x1fbe, "ι"),
  (0x1fc8, "ὲέὴή"), (0x1fd3, "ΐ"), (0x1fd8, "ῐῑὶί"), (0x1fe3, "ΰ"), (0x1fe8, "ῠῡὺύῥ"),
  (0x1fef, "\x60"), (0x1ff8, "ὸόὼώ"), (0x2000, "\x20\x20\x20\x20\x20\x20\x20\x20\x20\x20\x20"),
  (0x2011, "\u2010"), (0x202f, "\x20"), (0x205f, "\x20"), (0x2070, "0i"), (0x207a, "+\u2212=()n"),
  (0x208a, "+\u2212=()"), (0x2090, "aeoxəh"), (0x209a, "pst"), (0x2102, "c"), (0x2107, "ɛ"),
  (0x210a, "ghhhhħiill"), (0x2115, "n"), (0x211c, "rr"), (0x2124, "z"), (0x2126, "ω"),
  (0x2128, "z"), (0x212a, "kåbc"), (0x212f, "eef\u214emo"), (0x2139, "i"), (0x213c, "πγγπ\u2211"),
  (0x2145, "ddeij"), (0x2160, "i"), (0x2164, "v"), (0x2169, "x"), (0x216c, "lcdmi"),
  (0x2174, "v"), (0x2179, "x"), (0x217c, "lcdm"), (0x2183, "ↄ"), (0x2329, "\u3008\u3009"),
  (0x24ea, "0"), (0x2c60, "ⱡ"), (0x2c62, "ɫᵽɽ"), (0x2c6d, "ɑɱɐɒ"), (0x2c72, "ⱳ"), (0x2c75, "ⱶ"),
  (0x2c7c, "jvȿɀ"), (0x2ceb, "\u2cec"), (0x2ced, "\u2cee"), (0x2cf2, "\u2cf3"),
  (0x2d6f, "\u2d61"), (0x2e9f, "母"), (0x2ef3, "龟"),
  (0x2f00, "一丨丶丿乙亅二亠人儿入八冂冖冫几凵刀力勹匕匚匸十卜卩厂厶又口囗土士夂夊夕大女子"),
  (0x2f27, "宀寸小尢尸屮山巛工己巾干幺广廴廾弋弓彐彡彳心戈戶手支攴文斗斤方无日曰月木欠止歹"),
  (0x2f4e, "殳毋比毛氏气水火爪父爻爿片牙牛犬玄玉瓜瓦甘生用田疋疒癶白皮皿目矛矢石示禸禾穴立"),
  (0x2f75, "竹米糸缶网羊羽老而耒耳聿肉臣自至臼舌舛舟艮色艸虍虫血行衣襾見角言谷豆豕豸貝赤走"),
  (0x2f9c, "足身車辛辰辵邑酉釆里金長門阜隶隹雨靑非面革韋韭音頁風飛食首香馬骨高髟鬥鬯鬲鬼魚"),
  (0x2fc3, "鳥鹵鹿麥麻黃黍黑黹黽鼎鼓鼠鼻齊齒龍龜龠"), (0x3000, "\x20"), (0x3002, "."),
  (0x3036, "\u3012"), (0x3038, "十卄卅"), (0x3131, "ᄀᄁᆪᄂᆬᆭ"), (0x3140, "ᄚ"), (0x3144, "ᄡ"),
  (0x3165, "ᄔᄕᇇᇈᇌᇎᇓᇗᇙᄜᇝᇟᄝᄞᄠᄢᄣᄧᄩ"), (0x317d, "ᄲᄶᅀᅇᅌᇱᇲ"), (0x3187, "ᆄᆅᆈᆑᆒᆔᆞᆡ"),
  (0x3192, "一二三四上中下甲乙丙丁天地人"), (0x3244, "問幼文箏"), (0x3260, "ᄀᄂᄃ"),
  (0x3266, "ᄉᄋᄌ"), (0x326e, "가나다라마바사아자차카타파하"), (0x327e, "우"),
  (0x3280, "一二三四五六七八九十月火水木金土日株有社名特財祝労秘男女適優印注項休写正上中下"),
  (0x32a7, "左右医宗学監企資協夜"), (0x32d0, "アイウエオカキクケコサシスセソタチツテト"),
  (0x32ea, "ヒフヘホ"), (0x32f3, "ヤユ"), (0xa69c, "ъь"), (0xa770, "ꝯ"), (0xa779, "ꝺ"),
  (0xa77b, "ꝼ"), (0xa77d, "ᵹ"), (0xa78b, "ꞌ"), (0xa78d, "ɥ"), (0xa790, "ꞑ"), (0xa792, "ꞓ"),
  (0xa7aa, "ɦɜɡɬɪ"), (0xa7b0, "ʞʇʝꭓ"), (0xa7c4, "ꞔʂᶎꟈ"), (0xa7c9, "ꟊ"), (0xa7cb, "ɤ"),
  (0xa7dc, "ƛ"), (0xa7f1, "scfqꟶ"), (0xa7f8, "ħœ"), (0xab5c, "ꜧꬷɫꭒ"), (0xab69, "ʍ"),
  (0xf900, "豈更車賈滑串句龜龜契金喇奈懶癩羅蘿螺裸邏樂洛烙珞落酪駱亂卵欄爛蘭鸞嵐濫藍襤拉臘"),
  (0xf927, "蠟廊朗浪狼郎來冷勞擄櫓爐盧老蘆虜路露魯鷺碌祿綠菉錄鹿論壟弄籠聾牢磊賂雷壘屢樓淚"),
  (0xf94e, "漏累縷陋勒肋凜凌稜綾菱陵讀拏樂諾丹寧怒率異北磻便復不泌數索參塞省葉說殺辰沈拾若"),
  (0xf975, "掠略亮兩凉梁糧良諒量勵呂女廬旅濾礪閭驪麗黎力曆歷轢年憐戀撚漣煉璉秊練聯輦蓮連鍊"),
  (0xf99c, "列劣咽烈裂說廉念捻殮簾獵令囹寧嶺怜玲瑩羚聆鈴零靈領例禮醴隸惡了僚寮尿料樂燎療蓼"),
  (0xf9c3, "遼龍暈阮劉杻柳流溜琉留硫紐類六戮陸倫崙淪輪律慄栗率隆利吏履易李梨泥理痢罹裏裡里"),
  (0xf9ea, "離匿溺吝燐璘藺隣鱗麟林淋臨立笠粒狀炙識什茶刺切度拓糖宅洞暴輻行降見廓兀嗀"),
  (0xfa10, "塚"), (0xfa12, "晴"), (0xfa15, "凞猪益礼神祥福靖精羽"), (0xfa20, "蘒"),
  (0xfa22, "諸"), (0xfa25, "逸都"),
  (0xfa2a, "飯飼館鶴郞隷侮僧免勉勤卑喝嘆器塀墨層屮悔慨憎懲敏既暑梅海渚漢煮爫琢碑社祉祈祐祖"),
  (0xfa51, "祝禍禎穀突節練縉繁署者臭艹艹著褐視謁謹賓贈辶逸難響頻恵𤋮舘"),
  (0xfa70, "並况全侀充冀勇勺喝啕喙嗢塚墳奄奔婢嬨廒廙彩徭惘慎愈憎慠懲戴揄搜摒敖晴朗望杖歹殺"),
  (0xfa97, "流滛滋漢瀞煮瞧爵犯猪瑱甆画瘝瘟益盛直睊着磌窱節类絛練缾者荒華蝹襁覆視調諸請謁諾"),
  (0xfabe, "諭謹變贈輸遲醙鉶陼難靖韛響頋頻鬒龜𢡊𢡄𣏕㮝䀘䀹𥉉𥳐𧻓齃龎"),
  (0xfb20, "\u05e2\u05d0\u05d3\u05d4"), (0xfb27, "\u05e8\u05ea+"),
  (0xfb50, "\u0671\u0671\u067b\u067b\u067b\u067b\u067e\u067e\u067e\u067e\u0680\u0680\u0680"),
  (0xfb5d, "\u0680\u067a\u067a\u067a\u067a\u067f\u067f\u067f\u067f\u0679\u0679\u0679\u0679"),
  (0xfb6a, "\u06a4\u06a4\u06a4\u06a4\u06a6\u06a6\u06a6\u06a6\u0684\u0684\u0684\u0684\u0683"),
  (0xfb77, "\u0683\u0683\u0683\u0686\u0686\u0686\u0686\u0687\u0687\u0687\u0687\u068d\u068d"),
  (0xfb84, "\u068c\u068c\u068e\u068e\u0688\u0688\u0698\u0698\u0691\u0691\u06a9\u06a9\u06a9"),
  (0xfb91, "\u06a9\u06af\u06af\u06af\u06af\u06b3\u06b3\u06b3\u06b3\u06b1\u06b1\u06b1\u06b1"),
  (0xfb9e, "\u06ba\u06ba\u06bb\u06bb\u06bb\u06bb\u06c0\u06c0\u06c1\u06c1\u06c1\u06c1\u06be"),
  (0xfbab, "\u06be\u06be\u06be\u06d2\u06d2\u06d3\u06d3"),
  (0xfbd3, "\u06ad\u06ad\u06ad\u06ad\u06c7\u06c7\u06c6\u06c6\u06c8\u06c8"),
  (0xfbde, "\u06cb\u06cb\u06c5\u06c5\u06c9\u06c9\u06d0\u06d0\u06d0\u06d0\u0649\u0649"),
  (0xfbfc, "\u06cc\u06cc\u06cc\u06cc"), (0xfe10, ",\u3001"), (0xfe13, ":;!?\u3016\u3017"),
  (0xfe31, "\u2014\u2013__()\x7b\x7d\u3014\u3015\u3010\u3011\u300a\u300b\u3008\u3009"),
  (0xfe47, "[]"), (0xfe4d, "___,\u3001"), (0xfe54, ";:?!\u2014()\x7b\x7d\u3014\u3015#&*+-<>="),
  (0xfe68, "\x5c$%@"),
  (0xfe80, "\u0621\u0622\u0622\u0623\u0623\u0624\u0624\u0625\u0625\u0626\u0626\u0626\u0626"),
  (0xfe8d, "\u0627\u0627\u0628\u0628\u0628\u0628\u0629\u0629\u062a\u062a\u062a\u062a\u062b"),
  (0xfe9a, "\u062b\u062b\u062b\u062c\u062c\u062c\u062c\u062d\u062d\u062d\u062d\u062e\u062e"),
  (0xfea7, "\u062e\u062e\u062f\u062f\u0630\u0630\u0631\u0631\u0632\u0632\u0633\u0633\u0633"),
  (0xfeb4, "\u0633\u0634\u0634\u0634\u0634\u0635\u0635\u0635\u0635\u0636\u0636\u0636\u0636"),
  (0xfec1, "\u0637\u0637\u0637\u0637\u0638\u0638\u0638\u0638\u0639\u0639\u0639\u0639\u063a"),
  (0xfece, "\u063a\u063a\u063a\u0641\u0641\u0641\u0641\u0642\u0642\u0642\u0642\u0643\u0643"),
  (0xfedb, "\u0643\u0643\u0644\u0644\u0644\u0644\u0645\u0645\u0645\u0645\u0646\u0646\u0646"),
  (0xfee8, "\u0646\u0647\u0647\u0647\u0647\u0648\u0648\u0649\u0649\u064a\u064a\u064a\u064a"),
  (0xff5f, "\u2985\u2986.\u300c\u300d\u3001\u30fbヲァィゥェォャュョッーアイウエオカキクケ"),
  (0xff7a, "コサシスセソタチツテト"), (0xff8b, "ヒフヘホ"), (0xff94, "ヤユ"),
  (0xff9c, "ワン\u3099\u309a"), (0xffa1, "ᄀᄁᆪᄂᆬᆭ"), (0xffb0, "ᄚ"), (0xffb4, "ᄡ"),
  (0xffe0, "\u00a2\u00a3\u00ac"), (0xffe4, "\u00a6\u00a5\u20a9"), (0xffe8, "\u2502"),
  (0xffed, "\u25a0\u25cb"), (0x10595, "𐖼"), (0x10781, "\u02d0\u02d1æʙɓ"),
  (0x10787, "ʣꭦʥʤɖɗᶑɘɞʩɤɢɠʛħʜɧʄʪʫɬ𝼄ꞎɮ𝼅ʎ𝼆øɶɷqɺ𝼈ɽɾʀʨʦꭧʧʈⱱ"), (0x107b2, "ʏʡʢʘ"), (0x107b9, "𝼊𝼞"),
  (0x1d49c, "a"), (0x1d49e, "cd"), (0x1d4a2, "g"), (0x1d4a5, "jk"), (0x1d504, "a"),
  (0x1d508, "e"), (0x1d50a, "g"), (0x1d538, "a"), (0x1d541, "j"), (0x1d543, "l"), (0x1d6a4, "ıȷ"),
  (0x1d6b9, "θ"), (0x1d6c1, "\u2207"), (0x1d6d3, "σ"), (0x1d6db, "\u2202εθκφρπ"), (0x1d6f3, "θ"),
  (0x1d6fb, "\u2207"), (0x1d70d, "σ"), (0x1d715, "\u2202εθκφρπ"), (0x1d72d, "θ"),
  (0x1d735, "\u2207"), (0x1d747, "σ"), (0x1d74f, "\u2202εθκφρπ"), (0x1d767, "θ"),
  (0x1d76f, "\u2207"), (0x1d781, "σ"), (0x1d789, "\u2202εθκφρπ"), (0x1d7a1, "θ"),
  (0x1d7a9, "\u2207"), (0x1d7bb, "σ"), (0x1d7c3, "\u2202εθκφρπϝϝ"), (0x1e047, "ыэюꚉәіјөүӏ"),
  (0x1e05a, "клопс"), (0x1e065, "ъыґіѕџҫꙑұ"), (0x1ee00, "\u0627\u0628\u062c\u062f"),
  (0x1ee05, "\u0648\u0632\u062d\u0637\u064a"),
  (0x1ee0e, "\u0633\u0639\u0641\u0635\u0642\u0631\u0634\u062a\u062b\u062e\u0630\u0636\u0638"),
  (0x1ee1b, "\u063a\u066e\u06ba\u06a1\u066f"), (0x1ee21, "\u0628\u062c"), (0x1ee24, "\u0647"),
  (0x1ee27, "\u062d"), (0x1ee29, "\u064a"), (0x1ee2e, "\u0633\u0639\u0641\u0635\u0642"),
  (0x1ee34, "\u0634\u062a\u062b\u062e"), (0x1ee39, "\u0636"), (0x1ee3b, "\u063a"),
  (0x1ee42, "\u062c"), (0x1ee47, "\u062d"), (0x1ee49, "\u064a"), (0x1ee4b, "\u0644"),
  (0x1ee4d, "\u0646\u0633\u0639"), (0x1ee51, "\u0635\u0642"), (0x1ee54, "\u0634"),
  (0x1ee57, "\u062e"), (0x1ee59, "\u0636"), (0x1ee5b, "\u063a"), (0x1ee5d, "\u06ba"),
  (0x1ee5f, "\u066f"), (0x1ee61, "\u0628\u062c"), (0x1ee64, "\u0647"),
  (0x1ee67, "\u062d\u0637\u064a\u0643"), (0x1ee6c, "\u0645\u0646\u0633\u0639\u0641\u0635\u0642"),
  (0x1ee74, "\u0634\u062a\u062b\u062e"), (0x1ee79, "\u0636\u0638\u063a\u066e"),
  (0x1ee7e, "\u06a1"), (0x1ee80, "\u0627\u0628\u062c\u062f\u0647\u0648\u0632\u062d\u0637\u064a"),
  (0x1ee8e, "\u0633\u0639\u0641\u0635\u0642\u0631\u0634\u062a\u062b\u062e\u0630\u0636\u0638"),
  (0x1ee9b, "\u063a"), (0x1eea1, "\u0628\u062c\u062f"),
  (0x1eea5, "\u0648\u0632\u062d\u0637\u064a"),
  (0x1eeae, "\u0633\u0639\u0641\u0635\u0642\u0631\u0634\u062a\u062b\u062e\u0630\u0636\u0638"),
  (0x1eebb, "\u063a"), (0x1f12b, "cr"), (0x1f202, "サ"),
  (0x1f210, "手字双デ二多解天交映無料前後再新初終生販声吹演投捕一三遊左中右指走打禁空合満有"),
  (0x1f237, "月申割営配"), (0x1f250, "得可"),
  (0x2f800, "丽丸乁𠄢你侮侻倂偺備僧像㒞𠘺免兔兤具𠔜㒹內再𠕋冗冤仌冬况𩇟凵刃㓟刻剆割剷㔕勇勉"),
  (0x2f827, "勤勺包匆北卉卑博即卽卿卿卿𠨬灰及叟𠭣叫叱吆咞吸呈周咢哶唐啓啣善善喙喫喳嗂圖嘆圗"),
  (0x2f84e, "噑噴切壮城埴堍型堲報墬𡓤売壷夆多夢奢𡚨𡛪姬娛娧姘婦㛮㛼嬈嬾嬾𡧈寃寘寧寳𡬘寿将当"),
  (0x2f875, "尢㞁屠屮峀岍𡷤嵃𡷦嵮嵫嵼巡巢㠯巽帨帽幩㡢𢆃㡼庰庳庶廊𪎒廾𢌱𢌱舁弢弢㣇𣊸𦇚形彫㣣"),
  (0x2f89c, "徚忍志忹悁㤺㤜悔𢛔惇慈慌慎慌慺憎憲憤憯懞懲懶成戛扝抱拔捐𢬌挽拼捨掃揤𢯱搢揅掩㨮"),
  (0x2f8c3, "摩摾撝摷㩬敏敬𣀊旣書晉㬙暑㬈㫤冒冕最暜肭䏙朗望朡杞杓𣏃㭉柺枅桒梅𣑭梎栟椔㮝楂榣"),
  (0x2f8ea, "槪檨𣚣櫛㰘次𣢧歔㱎歲殟殺殻𣪍𡴋𣫺汎𣲼沿泍汧洖派海流浩浸涅𣴞洴港湮㴳滋滇𣻑淹潮𣽞"),
  (0x2f911, "𣾎濆瀹瀞瀛㶖灊災灷炭𠔥煅𤉣熜𤎫爨爵牐𤘈犀犕𤜵𤠔獺王㺬玥㺸㺸瑇瑜瑱璅瓊㼛甤𤰶甾𤲒"),
  (0x2f938, "異𢆟瘐𤾡𤾸𥁄㿼䀈直𥃳𥃲𥄙𥄳眞真真睊䀹瞋䁆䂖𥐝硎碌磌䃣𥘦祖𥚚𥛅福秫䄯穀穊穏𥥼𥪧𥪧"),
  (0x2f95f, "竮䈂𥮫篆築䈧𥲀糒䊠糨糣紀𥾆絣䌁緇縂繅䌴𦈨𦉇䍙𦋙罺𦌾羕翺者𦓚𦔣聠𦖨聰𣍟䏕育脃䐋脾"),
  (0x2f986, "媵𦞧𦞵𣎓𣎜舁舄辞䑫芑芋芝劳花芳芽苦𦬼若茝荣莭茣莽菧著荓菊菌菜𦰶𦵫𦳕䔫蓱蓳蔖𧏊蕤"),
  (0x2f9ad, "𦼬䕝䕡𦾱𧃒䕫虐虜虧虩蚩蚈蜎蛢蝹蜨蝫螆䗗蟡蠁䗹衠衣𧙧裗裞䘵裺㒻𧢮𧥦䚾䛇誠諭變豕𧲨"),
  (0x2f9d4, "貫賁贛起𧼯𠠄跋趼跰𠣞軔輸𨗒𨗭邔郱鄑𨜮鄛鈸鋗鋘鉼鏹鐕𨯺開䦕閷𨵷䧦雃嶲霣𩅅𩈚䩮䩶韠"),
  (0x2f9fb, "𩐊䪲𩒖頋頋頩𩖶飢䬳餩馧駂駾䯎𩬰鬒鱀鳽䳎䳭鵧𪃎䳸𪄅𪈎𪊑麻䵖黹黾鼅鼏鼖鼻𪘀")]

/-- Characters in a row from a code point on, with the text that each stands for; bars separate the
    texts. -/
def textImages : List (Nat × String) := [
  (0xa8, "\x20\u0308"), (0xaf, "\x20\u0304"), (0xb4, "\x20\u0301"), (0xb8, "\x20\u0327"),
  (0xbc, "1\u20444|1\u20442|3\u20444"), (0x130, "i\u0307"), (0x132, "ij|ij"),
  (0x13f, "l\u00b7|l\u00b7"), (0x149, "\u02bcn"), (0x1c4, "dž|dž|dž|lj|lj|lj|nj|nj|nj"),
  (0x1f1, "dz|dz|dz"),
  (0x2d8, "\x20\u0306|\x20\u0307|\x20\u030a|\x20\u0328|\x20\u0303|\x20\u030b"),
  (0x344, "\u0308\u0301"), (0x37a, "\x20ι"), (0x384, "\x20\u0301|\x20\u0308\u0301"),
  (0x587, "\u0565\u0582"), (0x675, "\u0627\u0674|\u0648\u0674|\u06c7\u0674|\u064a\u0674"),
  (0x958, "\u0915\u093c|\u0916\u093c|\u0917\u093c|\u091c\u093c|\u0921\u093c|\u0922\u093c"),
  (0x95e, "\u092b\u093c|\u092f\u093c"), (0x9dc, "\u09a1\u09bc|\u09a2\u09bc"),
  (0x9df, "\u09af\u09bc"), (0xa33, "\u0a32\u0a3c"), (0xa36, "\u0a38\u0a3c"),
  (0xa59, "\u0a16\u0a3c|\u0a17\u0a3c|\u0a1c\u0a3c"), (0xa5e, "\u0a2b\u0a3c"),
  (0xb5c, "\u0b21\u0b3c|\u0b22\u0b3c"), (0xe33, "\u0e4d\u0e32"), (0xeb3, "\u0ecd\u0eb2"),
  (0xedc, "\u0eab\u0e99|\u0eab\u0ea1"), (0xf43, "\u0f42\u0fb7"), (0xf4d, "\u0f4c\u0fb7"),
  (0xf52, "\u0f51\u0fb7"), (0xf57, "\u0f56\u0fb7"), (0xf5c, "\u0f5b\u0fb7"),
  (0xf69, "\u0f40\u0fb5"), (0xf73, "\u0f71\u0f72"),
  (0xf75, "\u0f71\u0f74|\u0fb2\u0f80|\u0fb2\u0f71\u0f80|\u0fb3\u0f80|\u0fb3\u0f71\u0f80"),
  (0xf81, "\u0f71\u0f80"), (0xf93, "\u0f92\u0fb7"), (0xf9d, "\u0f9c\u0fb7"),
  (0xfa2, "\u0fa1\u0fb7"), (0xfa7, "\u0fa6\u0fb7"), (0xfac, "\u0fab\u0fb7"),
  (0xfb9, "\u0f90\u0fb5"), (0x1e9a, "a\u02be"),
  (0x1f80, "ἀι|ἁι|ἂι|ἃι|ἄι|ἅι|ἆι|ἇι|ἀι|ἁι|ἂι|ἃι|ἄι|ἅι|ἆι|ἇι|ἠι|ἡι|ἢι|ἣι|ἤι|ἥι|ἦι|ἧι|ἠι|ἡι"),
  (0x1f9a, "ἢι|ἣι|ἤι|ἥι|ἦι|ἧι|ὠι|ὡι|ὢι|ὣι|ὤι|ὥι|ὦι|ὧι|ὠι|ὡι|ὢι|ὣι|ὤι|ὥι|ὦι|ὧι"),
  (0x1fb2, "ὰι|αι|άι"), (0x1fb7, "ᾶι"), (0x1fbc, "αι|\x20\u0313"),
  (0x1fbf, "\x20\u0313|\x20\u0342|\x20\u0308\u0342|ὴι|ηι|ήι"), (0x1fc7, "ῆι"),
  (0x1fcc, "ηι|\x20\u0313\u0300|\x20\u0313\u0301|\x20\u0313\u0342"),
  (0x1fdd, "\x20\u0314\u0300|\x20\u0314\u0301|\x20\u0314\u0342"),
  (0x1fed, "\x20\u0308\u0300|\x20\u0308\u0301"), (0x1ff2, "ὼι|ωι|ώι"), (0x1ff7, "ῶι"),
  (0x1ffc, "ωι|\x20\u0301|\x20\u0314"), (0x2017, "\x20\u0333"),
  (0x2033, "\u2032\u2032|\u2032\u2032\u2032"), (0x2036, "\u2035\u2035|\u2035\u2035\u2035"),
  (0x203c, "!!"), (0x203e, "\x20\u0305"), (0x2047, "??|?!|!?"),
  (0x2057, "\u2032\u2032\u2032\u2032"), (0x20a8, "rs"), (0x2100, "a/c|a/s"), (0x2103, "\u00b0c"),
  (0x2105, "c/o|c/u"), (0x2109, "\u00b0f"), (0x2116, "no"), (0x2120, "sm|tel|tm"),
  (0x213b, "fax"),
  (0x2150, "1\u20447|1\u20449|1\u204410|1\u20443|2\u20443|1\u20445|2\u20445|3\u20445"),
  (0x2158, "4\u20445|1\u20446|5\u20446|1\u20448|3\u20448|5\u20448|7\u20448|1\u2044"),
  (0x2161, "ii|iii|iv"), (0x2165, "vi|vii|viii|ix"), (0x216a, "xi|xii"), (0x2171, "ii|iii|iv"),
  (0x2175, "vi|vii|viii|ix"), (0x217a, "xi|xii"), (0x2189, "0\u20443"),
  (0x222c, "\u222b\u222b|\u222b\u222b\u222b"), (0x222f, "\u222e\u222e|\u222e\u222e\u222e"),
  (0x2469, "10|11|12|13|14|15|16|17|18|19|20|(1)|(2)|(3)|(4)|(5)|(6)|(7)|(8)|(9)|(10)"),
  (0x247e, "(11)|(12)|(13)|(14)|(15)|(16)|(17)|(18)|(19)|(20)"),
  (0x249c, "(a)|(b)|(c)|(d)|(e)|(f)|(g)|(h)|(i)|(j)|(k)|(l)|(m)|(n)|(o)|(p)|(q)|(r)|(s)"),
  (0x24af, "(t)|(u)|(v)|(w)|(x)|(y)|(z)"), (0x2a0c, "\u222b\u222b\u222b\u222b"),
  (0x2a74, "\x3a\x3a=|==|==="), (0x2adc, "\u2add\u0338"), (0x309b, "\x20\u3099|\x20\u309a"),
  (0x309f, "より"), (0x30ff, "コト"),
  (0x3200, "(ᄀ)|(ᄂ)|(ᄃ)|(ᄅ)|(ᄆ)|(ᄇ)|(ᄉ)|(ᄋ)|(ᄌ)|(ᄎ)|(ᄏ)|(ᄐ)|(ᄑ)|(ᄒ)|(가)"),
  (0x320f, "(나)|(다)|(라)|(마)|(바)|(사)|(아)|(자)|(차)|(카)|(타)|(파)|(하)|(주)|(오전)"),
  (0x321e, "(오후)"),
  (0x3220, "(一)|(二)|(三)|(四)|(五)|(六)|(七)|(八)|(九)|(十)|(月)|(火)|(水)|(木)|(金)"),
  (0x322f, "(土)|(日)|(株)|(有)|(社)|(名)|(特)|(財)|(祝)|(労)|(代)|(呼)|(学)|(監)|(企)"),
  (0x323e, "(資)|(協)|(祭)|(休)|(自)|(至)"),
  (0x3250, "pte|21|22|23|24|25|26|27|28|29|30|31|32|33|34|35"), (0x327c, "참고|주의"),
  (0x32b1, "36|37|38|39|40|41|42|43|44|45|46|47|48|49|50|1月|2月|3月|4月|5月|6月|7月|8月"),
  (0x32c8, "9月|10月|11月|12月|hg|erg|ev|ltd"),
  (0x32ff, "令和|アパート|アルファ|アンペア|アール|イニング|インチ|ウォン|エスクード"),
  (0x3308, "エーカー|オンス|オーム|カイリ|カラット|カロリー|ガロン|ガンマ|ギガ|ギニー"),
  (0x3312, "キュリー|ギルダー|キロ|キログラム|キロメートル|キロワット|グラム|グラムトン"),
  (0x331a, "クルゼイロ|クローネ|ケース|コルナ|コーポ|サイクル|サンチーム|シリング|センチ"),
  (0x3323, "セント|ダース|デシ|ドル|トン|ナノ|ノット|ハイツ|パーセント|パーツ|バーレル"),
  (0x332e, "ピアストル|ピクル|ピコ|ビル|ファラッド|フィート|ブッシェル|フラン|ヘクタール"),
  (0x3337, "ペソ|ペニヒ|ヘルツ|ペンス|ページ|ベータ|ポイント|ボルト|ホン|ポンド|ホール"),
  (0x3342, "ホーン|マイクロ|マイル|マッハ|マルク|マンション|ミクロン|ミリ|ミリバール|メガ"),
  (0x334c, "メガトン|メートル|ヤード|ヤール|ユアン|リットル|リラ|ルピー|ルーブル|レム"),
  (0x3356, "レントゲン|ワット|0点|1点|2点|3点|4点|5点|6点|7点|8点|9点|10点|11点|12点|13点"),
  (0x3366, "14点|15点|16点|17点|18点|19点|20点|21点|22点|23点|24点|hpa|da|au|bar|ov|pc|dm"),
  (0x3378, "dm2|dm3|iu|平成|昭和|大正|明治|株式会社|pa|na|μa|ma|ka|kb|mb|gb|cal|kcal|pf"),
  (0x338b, "nf|μf|μg|mg|kg|hz|khz|mhz|ghz|thz|μl|ml|dl|kl|fm|nm|μm|mm|cm|km|mm2|cm2|m2"),
  (0x33a2, "km2|mm3|cm3|m3|km3|m\u2215s|m\u2215s2|pa|kpa|mpa|gpa|rad|rad\u2215s"),
  (0x33af, "rad\u2215s2|ps|ns|μs|ms|pv|nv|μv|mv|kv|mv|pw|nw|μw|mw|kw|mw|kω|mω"),
  (0x33c3, "bq|cc|cd|c\u2215kg"), (0x33c8, "db|gy|ha|hp|in|kk|km|kt|lm|ln|log|lx|mb|mil|mol|ph"),
  (0x33d9, "ppm|pr|sr|sv|wb|v\u2215m|a\u2215m|1日|2日|3日|4日|5日|6日|7日|8日|9日|10日"),
  (0x33ea, "11日|12日|13日|14日|15日|16日|17日|18日|19日|20日|21日|22日|23日|24日|25日"),
  (0x33f9, "26日|27日|28日|29日|30日|31日|gal"), (0xfb00, "ff|fi|fl|ffi|ffl|st|st"),
  (0xfb13, "\u0574\u0576|\u0574\u0565|\u0574\u056b|\u057e\u0576|\u0574\u056d"),
  (0xfb1d, "\u05d9\u05b4"), (0xfb1f, "\u05f2\u05b7"),
  (0xfb2a, "\u05e9\u05c1|\u05e9\u05c2|\u05e9\u05bc\u05c1|\u05e9\u05bc\u05c2|\u05d0\u05b7"),
  (0xfb2f, "\u05d0\u05b8|\u05d0\u05bc|\u05d1\u05bc|\u05d2\u05bc|\u05d3\u05bc|\u05d4\u05bc"),
  (0xfb35, "\u05d5\u05bc|\u05d6\u05bc"),
  (0xfb38, "\u05d8\u05bc|\u05d9\u05bc|\u05da\u05bc|\u05db\u05bc|\u05dc\u05bc"),
  (0xfb3e, "\u05de\u05bc"), (0xfb40, "\u05e0\u05bc|\u05e1\u05bc"),
  (0xfb43, "\u05e3\u05bc|\u05e4\u05bc"),
  (0xfb46, "\u05e6\u05bc|\u05e7\u05bc|\u05e8\u05bc|\u05e9\u05bc|\u05ea\u05bc|\u05d5\u05b9"),
  (0xfb4c, "\u05d1\u05bf|\u05db\u05bf|\u05e4\u05bf|\u05d0\u05dc"), (0xfbdd, "\u06c7\u0674"),
  (0xfbea, "\u0626\u0627|\u0626\u0627|\u0626\u06d5|\u0626\u06d5|\u0626\u0648|\u0626\u0648"),
  (0xfbf0, "\u0626\u06c7|\u0626\u06c7|\u0626\u06c6|\u0626\u06c6|\u0626\u06c8|\u0626\u06c8"),
  (0xfbf6, "\u0626\u06d0|\u0626\u06d0|\u0626\u06d0|\u0626\u0649|\u0626\u0649|\u0626\u0649"),
  (0xfc00, "\u0626\u062c|\u0626\u062d|\u0626\u0645|\u0626\u0649|\u0626\u064a|\u0628\u062c"),
  (0xfc06, "\u0628\u062d|\u0628\u062e|\u0628\u0645|\u0628\u0649|\u0628\u064a|\u062a\u062c"),
  (0xfc0c, "\u062a\u062d|\u062a\u062e|\u062a\u0645|\u062a\u0649|\u062a\u064a|\u062b\u062c"),
  (0xfc12, "\u062b\u0645|\u062b\u0649|\u062b\u064a|\u062c\u062d|\u062c\u0645|\u062d\u062c"),
  (0xfc18, "\u062d\u0645|\u062e\u062c|\u062e\u062d|\u062e\u0645|\u0633\u062c|\u0633\u062d"),
  (0xfc1e, "\u0633\u062e|\u0633\u0645|\u0635\u062d|\u0635\u0645|\u0636\u062c|\u0636\u062d"),
  (0xfc24, "\u0636\u062e|\u0636\u0645|\u0637\u062d|\u0637\u0645|\u0638\u0645|\u0639\u062c"),
  (0xfc2a, "\u0639\u0645|\u063a\u062c|\u063a\u0645|\u0641\u062c|\u0641\u062d|\u0641\u062e"),
  (0xfc30, "\u0641\u0645|\u0641\u0649|\u0641\u064a|\u0642\u062d|\u0642\u0645|\u0642\u0649"),
  (0xfc36, "\u0642\u064a|\u0643\u0627|\u0643\u062c|\u0643\u062d|\u0643\u062e|\u0643\u0644"),
  (0xfc3c, "\u0643\u0645|\u0643\u0649|\u0643\u064a|\u0644\u062c|\u0644\u062d|\u0644\u062e"),
  (0xfc42, "\u0644\u0645|\u0644\u0649|\u0644\u064a|\u0645\u062c|\u0645\u062d|\u0645\u062e"),
  (0xfc48, "\u0645\u0645|\u0645\u0649|\u0645\u064a|\u0646\u062c|\u0646\u062d|\u0646\u062e"),
  (0xfc4e, "\u0646\u0645|\u0646\u0649|\u0646\u064a|\u0647\u062c|\u0647\u0645|\u0647\u0649"),
  (0xfc54, "\u0647\u064a|\u064a\u062c|\u064a\u062d|\u064a\u062e|\u064a\u0645|\u064a\u0649"),
  (0xfc5a, "\u064a\u064a|\u0630\u0670|\u0631\u0670|\u0649\u0670|\x20\u064c\u0651"),
  (0xfc5f, "\x20\u064d\u0651|\x20\u064e\u0651|\x20\u064f\u0651|\x20\u0650\u0651"),
  (0xfc63, "\x20\u0651\u0670|\u0626\u0631|\u0626\u0632|\u0626\u0645|\u0626\u0646"),
  (0xfc68, "\u0626\u0649|\u0626\u064a|\u0628\u0631|\u0628\u0632|\u0628\u0645|\u0628\u0646"),
  (0xfc6e, "\u0628\u0649|\u0628\u064a|\u062a\u0631|\u062a\u0632|\u062a\u0645|\u062a\u0646"),
  (0xfc74, "\u062a\u0649|\u062a\u064a|\u062b\u0631|\u062b\u0632|\u062b\u0645|\u062b\u0646"),
  (0xfc7a, "\u062b\u0649|\u062b\u064a|\u0641\u0649|\u0641\u064a|\u0642\u0649|\u0642\u064a"),
  (0xfc80, "\u0643\u0627|\u0643\u0644|\u0643\u0645|\u0643\u0649|\u0643\u064a|\u0644\u0645"),
  (0xfc86, "\u0644\u0649|\u0644\u064a|\u0645\u0627|\u0645\u0645|\u0646\u0631|\u0646\u0632"),
  (0xfc8c, "\u0646\u0645|\u0646\u0646|\u0646\u0649|\u0646\u064a|\u0649\u0670|\u064a\u0631"),
  (0xfc92, "\u064a\u0632|\u064a\u0645|\u064a\u0646|\u064a\u0649|\u064a\u064a|\u0626\u062c"),
  (0xfc98, "\u0626\u062d|\u0626\u062e|\u0626\u0645|\u0626\u0647|\u0628\u062c|\u0628\u062d"),
  (0xfc9e, "\u0628\u062e|\u0628\u0645|\u0628\u0647|\u062a\u062c|\u062a\u062d|\u062a\u062e"),
  (0xfca4, "\u062a\u0645|\u062a\u0647|\u062b\u0645|\u062c\u062d|\u062c\u0645|\u062d\u062c"),
  (0xfcaa, "\u062d\u0645|\u062e\u062c|\u062e\u0645|\u0633\u062c|\u0633\u062d|\u0633\u062e"),
  (0xfcb0, "\u0633\u0645|\u0635\u062d|\u0635\u062e|\u0635\u0645|\u0636\u062c|\u0636\u062d"),
  (0xfcb6, "\u0636\u062e|\u0636\u0645|\u0637\u062d|\u0638\u0645|\u0639\u062c|\u0639\u0645"),
  (0xfcbc, "\u063a\u062c|\u063a\u0645|\u0641\u062c|\u0641\u062d|\u0641\u062e|\u0641\u0645"),
  (0xfcc2, "\u0642\u062d|\u0642\u0645|\u0643\u062c|\u0643\u062d|\u0643\u062e|\u0643\u0644"),
  (0xfcc8, "\u0643\u0645|\u0644\u062c|\u0644\u062d|\u0644\u062e|\u0644\u0645|\u0644\u0647"),
  (0xfcce, "\u0645\u062c|\u0645\u062d|\u0645\u062e|\u0645\u0645|\u0646\u062c|\u0646\u062d"),
  (0xfcd4, "\u0646\u062e|\u0646\u0645|\u0646\u0647|\u0647\u062c|\u0647\u0645|\u0647\u0670"),
  (0xfcda, "\u064a\u062c|\u064a\u062d|\u064a\u062e|\u064a\u0645|\u064a\u0647|\u0626\u0645"),
  (0xfce0, "\u0626\u0647|\u0628\u0645|\u0628\u0647|\u062a\u0645|\u062a\u0647|\u062b\u0645"),
  (0xfce6, "\u062b\u0647|\u0633\u0645|\u0633\u0647|\u0634\u0645|\u0634\u0647|\u0643\u0644"),
  (0xfcec, "\u0643\u0645|\u0644\u0645|\u0646\u0645|\u0646\u0647|\u064a\u0645|\u064a\u0647"),
  (0xfcf2, "\u0640\u064e\u0651|\u0640\u064f\u0651|\u0640\u0650\u0651|\u0637\u0649"),
  (0xfcf6, "\u0637\u064a|\u0639\u0649|\u0639\u064a|\u063a\u0649|\u063a\u064a|\u0633\u0649"),
  (0xfcfc, "\u0633\u064a|\u0634\u0649|\u0634\u064a|\u062d\u0649|\u062d\u064a|\u062c\u0649"),
  (0xfd02, "\u062c\u064a|\u062e\u0649|\u062e\u064a|\u0635\u0649|\u0635\u064a|\u0636\u0649"),
  (0xfd08, "\u0636\u064a|\u0634\u062c|\u0634\u062d|\u0634\u062e|\u0634\u0645|\u0634\u0631"),
  (0xfd0e, "\u0633\u0631|\u0635\u0631|\u0636\u0631|\u0637\u0649|\u0637\u064a|\u0639\u0649"),
  (0xfd14, "\u0639\u064a|\u063a\u0649|\u063a\u064a|\u0633\u0649|\u0633\u064a|\u0634\u0649"),
  (0xfd1a, "\u0634\u064a|\u062d\u0649|\u062d\u064a|\u062c\u0649|\u062c\u064a|\u062e\u0649"),
  (0xfd20, "\u062e\u064a|\u0635\u0649|\u0635\u064a|\u0636\u0649|\u0636\u064a|\u0634\u062c"),
  (0xfd26, "\u0634\u062d|\u0634\u062e|\u0634\u0645|\u0634\u0631|\u0633\u0631|\u0635\u0631"),
  (0xfd2c, "\u0636\u0631|\u0634\u062c|\u0634\u062d|\u0634\u062e|\u0634\u0645|\u0633\u0647"),
  (0xfd32, "\u0634\u0647|\u0637\u0645|\u0633\u062c|\u0633\u062d|\u0633\u062e|\u0634\u062c"),
  (0xfd38, "\u0634\u062d|\u0634\u062e|\u0637\u0645|\u0638\u0645|\u0627\u064b|\u0627\u064b"),
  (0xfd50, "\u062a\u062c\u0645|\u062a\u062d\u062c|\u062a\u062d\u062c|\u062a\u062d\u0645"),
  (0xfd54, "\u062a\u062e\u0645|\u062a\u0645\u062c|\u062a\u0645\u062d|\u062a\u0645\u062e"),
  (0xfd58, "\u062c\u0645\u062d|\u062c\u0645\u062d|\u062d\u0645\u064a|\u062d\u0645\u0649"),
  (0xfd5c, "\u0633\u062d\u062c|\u0633\u062c\u062d|\u0633\u062c\u0649|\u0633\u0645\u062d"),
  (0xfd60, "\u0633\u0645\u062d|\u0633\u0645\u062c|\u0633\u0645\u0645|\u0633\u0645\u0645"),
  (0xfd64, "\u0635\u062d\u062d|\u0635\u062d\u062d|\u0635\u0645\u0645|\u0634\u062d\u0645"),
  (0xfd68, "\u0634\u062d\u0645|\u0634\u062c\u064a|\u0634\u0645\u062e|\u0634\u0645\u062e"),
  (0xfd6c, "\u0634\u0645\u0645|\u0634\u0645\u0645|\u0636\u062d\u0649|\u0636\u062e\u0645"),
  (0xfd70, "\u0636\u062e\u0645|\u0637\u0645\u062d|\u0637\u0645\u062d|\u0637\u0645\u0645"),
  (0xfd74, "\u0637\u0645\u064a|\u0639\u062c\u0645|\u0639\u0645\u0645|\u0639\u0645\u0645"),
  (0xfd78, "\u0639\u0645\u0649|\u063a\u0645\u0645|\u063a\u0645\u064a|\u063a\u0645\u0649"),
  (0xfd7c, "\u0641\u062e\u0645|\u0641\u062e\u0645|\u0642\u0645\u062d|\u0642\u0645\u0645"),
  (0xfd80, "\u0644\u062d\u0645|\u0644\u062d\u064a|\u0644\u062d\u0649|\u0644\u062c\u062c"),
  (0xfd84, "\u0644\u062c\u062c|\u0644\u062e\u0645|\u0644\u062e\u0645|\u0644\u0645\u062d"),
  (0xfd88, "\u0644\u0645\u062d|\u0645\u062d\u062c|\u0645\u062d\u0645|\u0645\u062d\u064a"),
  (0xfd8c, "\u0645\u062c\u062d|\u0645\u062c\u0645|\u0645\u062e\u062c|\u0645\u062e\u0645"),
  (0xfd92, "\u0645\u062c\u062e|\u0647\u0645\u062c|\u0647\u0645\u0645|\u0646\u062d\u0645"),
  (0xfd96, "\u0646\u062d\u0649|\u0646\u062c\u0645|\u0646\u062c\u0645|\u0646\u062c\u0649"),
  (0xfd9a, "\u0646\u0645\u064a|\u0646\u0645\u0649|\u064a\u0645\u0645|\u064a\u0645\u0645"),
  (0xfd9e, "\u0628\u062e\u064a|\u062a\u062c\u064a|\u062a\u062c\u0649|\u062a\u062e\u064a"),
  (0xfda2, "\u062a\u062e\u0649|\u062a\u0645\u064a|\u062a\u0645\u0649|\u062c\u0645\u064a"),
  (0xfda6, "\u062c\u062d\u0649|\u062c\u0645\u0649|\u0633\u062e\u0649|\u0635\u062d\u064a"),
  (0xfdaa, "\u0634\u062d\u064a|\u0636\u062d\u064a|\u0644\u062c\u064a|\u0644\u0645\u064a"),
  (0xfdae, "\u064a\u062d\u064a|\u064a\u062c\u064a|\u064a\u0645\u064a|\u0645\u0645\u064a"),
  (0xfdb2, "\u0642\u0645\u064a|\u0646\u062d\u064a|\u0642\u0645\u062d|\u0644\u062d\u0645"),
  (0xfdb6, "\u0639\u0645\u064a|\u0643\u0645\u064a|\u0646\u062c\u062d|\u0645\u062e\u064a"),
  (0xfdba, "\u0644\u062c\u0645|\u0643\u0645\u0645|\u0644\u062c\u0645|\u0646\u062c\u062d"),
  (0xfdbe, "\u062c\u062d\u064a|\u062d\u062c\u064a|\u0645\u062c\u064a|\u0641\u0645\u064a"),
  (0xfdc2, "\u0628\u062d\u064a|\u0643\u0645\u0645|\u0639\u062c\u0645|\u0635\u0645\u0645"),
  (0xfdc6, "\u0633\u062e\u064a|\u0646\u062c\u064a"),
  (0xfdf0, "\u0635\u0644\u06d2|\u0642\u0644\u06d2|\u0627\u0644\u0644\u0647"),
  (0xfdf3, "\u0627\u0643\u0628\u0631|\u0645\u062d\u0645\u062f|\u0635\u0644\u0639\u0645"),
  (0xfdf6, "\u0631\u0633\u0648\u0644|\u0639\u0644\u064a\u0647|\u0648\u0633\u0644\u0645"),
  (0xfdf9, "\u0635\u0644\u0649"),
  (0xfdfa, "\u0635\u0644\u0649\x20\u0627\u0644\u0644\u0647\x20\u0639\u0644\u064a\u0647\x20\u0648\u0633\u0644\u0645"),
  (0xfdfb, "\u062c\u0644\x20\u062c\u0644\u0627\u0644\u0647|\u0631\u06cc\u0627\u0644"),
  (0xfe49, "\x20\u0305|\x20\u0305|\x20\u0305|\x20\u0305"),
  (0xfe70, "\x20\u064b|\u0640\u064b|\x20\u064c"), (0xfe74, "\x20\u064d"),
  (0xfe76, "\x20\u064e|\u0640\u064e|\x20\u064f|\u0640\u064f|\x20\u0650|\u0640\u0650"),
  (0xfe7c, "\x20\u0651|\u0640\u0651|\x20\u0652|\u0640\u0652"),
  (0xfef5, "\u0644\u0622|\u0644\u0622|\u0644\u0623|\u0644\u0623|\u0644\u0625|\u0644\u0625"),
  (0xfefb, "\u0644\u0627|\u0644\u0627"), (0xffe3, "\x20\u0304"),
  (0x1d15e, "𝅗𝅥|𝅘𝅥|𝅘𝅥𝅮|𝅘𝅥𝅯|𝅘𝅥𝅰|𝅘𝅥𝅱|𝅘𝅥𝅲"), (0x1d1bb, "𝆹𝅥|𝆺𝅥|𝆹𝅥𝅮|𝆺𝅥𝅮|𝆹𝅥𝅯|𝆺𝅥𝅯"),
  (0x1f101, "0,|1,|2,|3,|4,|5,|6,|7,|8,|9,"),
  (0x1f110, "(a)|(b)|(c)|(d)|(e)|(f)|(g)|(h)|(i)|(j)|(k)|(l)|(m)|(n)|(o)|(p)|(q)|(r)|(s)"),
  (0x1f123, "(t)|(u)|(v)|(w)|(x)|(y)|(z)|\u3014s\u3015"), (0x1f12d, "cd|wz"),
  (0x1f14a, "hv|mv|sd|ss|ppv|wc"), (0x1f16a, "mc|md|mr"), (0x1f190, "dj"), (0x1f200, "ほか|ココ"),
  (0x1f240, "\u3014本\u3015|\u3014三\u3015|\u3014二\u3015|\u3014安\u3015|\u3014点\u3015"),
  (0x1f245, "\u3014打\u3015|\u3014盗\u3015|\u3014勝\u3015|\u3014敗\u3015")]

/-- Characters that stand for themselves.  The runs go over those that stand for others. -/
def usableRuns : List (Nat × Nat) := [
  (0xa1, 0x377), (0x37b, 0x37d), (0x390, 0x390), (0x3ac, 0x52f), (0x559, 0x58a), (0x58d, 0x58f),
  (0x591, 0x5c7), (0x5d0, 0x5ea), (0x5ef, 0x5f4), (0x606, 0x61b), (0x61d, 0x6dc), (0x6de, 0x70d),
  (0x710, 0x74a), (0x74d, 0x7b1), (0x7c0, 0x7fa), (0x7fd, 0x82d), (0x830, 0x83e), (0x840, 0x85b),
  (0x85e, 0x85e), (0x860, 0x86a), (0x870, 0x88f), (0x897, 0x8e1), (0x8e3, 0x983), (0x985, 0x98c),
  (0x98f, 0x990), (0x993, 0x9a8), (0x9aa, 0x9b0), (0x9b2, 0x9b2), (0x9b6, 0x9b9), (0x9bc, 0x9c4),
  (0x9c7, 0x9c8), (0x9cb, 0x9ce), (0x9d7, 0x9d7), (0x9e0, 0x9e3), (0x9e6, 0x9fe), (0xa01, 0xa03),
  (0xa05, 0xa0a), (0xa0f, 0xa10), (0xa13, 0xa28), (0xa2a, 0xa30), (0xa32, 0xa32), (0xa35, 0xa35),
  (0xa38, 0xa39), (0xa3c, 0xa3c), (0xa3e, 0xa42), (0xa47, 0xa48), (0xa4b, 0xa4d), (0xa51, 0xa51),
  (0xa5c, 0xa5c), (0xa66, 0xa76), (0xa81, 0xa83), (0xa85, 0xa8d), (0xa8f, 0xa91), (0xa93, 0xaa8),
  (0xaaa, 0xab0), (0xab2, 0xab3), (0xab5, 0xab9), (0xabc, 0xac5), (0xac7, 0xac9), (0xacb, 0xacd),
  (0xad0, 0xad0), (0xae0, 0xae3), (0xae6, 0xaf1), (0xaf9, 0xaff), (0xb01, 0xb03), (0xb05, 0xb0c),
  (0xb0f, 0xb10), (0xb13, 0xb28), (0xb2a, 0xb30), (0xb32, 0xb33), (0xb35, 0xb39), (0xb3c, 0xb44),
  (0xb47, 0xb48), (0xb4b, 0xb4d), (0xb55, 0xb57), (0xb5f, 0xb63), (0xb66, 0xb77), (0xb82, 0xb83),
  (0xb85, 0xb8a), (0xb8e, 0xb90), (0xb92, 0xb95), (0xb99, 0xb9a), (0xb9c, 0xb9c), (0xb9e, 0xb9f),
  (0xba3, 0xba4), (0xba8, 0xbaa), (0xbae, 0xbb9), (0xbbe, 0xbc2), (0xbc6, 0xbc8), (0xbca, 0xbcd),
  (0xbd0, 0xbd0), (0xbd7, 0xbd7), (0xbe6, 0xbfa), (0xc00, 0xc0c), (0xc0e, 0xc10), (0xc12, 0xc28),
  (0xc2a, 0xc39), (0xc3c, 0xc44), (0xc46, 0xc48), (0xc4a, 0xc4d), (0xc55, 0xc56), (0xc58, 0xc5a),
  (0xc5c, 0xc5d), (0xc60, 0xc63), (0xc66, 0xc6f), (0xc77, 0xc8c), (0xc8e, 0xc90), (0xc92, 0xca8),
  (0xcaa, 0xcb3), (0xcb5, 0xcb9), (0xcbc, 0xcc4), (0xcc6, 0xcc8), (0xcca, 0xccd), (0xcd5, 0xcd6),
  (0xcdc, 0xcde), (0xce0, 0xce3), (0xce6, 0xcef), (0xcf1, 0xcf3), (0xd00, 0xd0c), (0xd0e, 0xd10),
  (0xd12, 0xd44), (0xd46, 0xd48), (0xd4a, 0xd4f), (0xd54, 0xd63), (0xd66, 0xd7f), (0xd81, 0xd83),
  (0xd85, 0xd96), (0xd9a, 0xdb1), (0xdb3, 0xdbb), (0xdbd, 0xdbd), (0xdc0, 0xdc6), (0xdca, 0xdca),
  (0xdcf, 0xdd4), (0xdd6, 0xdd6), (0xdd8, 0xddf), (0xde6, 0xdef), (0xdf2, 0xdf4), (0xe01, 0xe3a),
  (0xe3f, 0xe5b), (0xe81, 0xe82), (0xe84, 0xe84), (0xe86, 0xe8a), (0xe8c, 0xea3), (0xea5, 0xea5),
  (0xea7, 0xebd), (0xec0, 0xec4), (0xec6, 0xec6), (0xec8, 0xece), (0xed0, 0xed9), (0xede, 0xedf),
  (0xf00, 0xf47), (0xf49, 0xf6c), (0xf71, 0xf97), (0xf99, 0xfbc), (0xfbe, 0xfcc), (0xfce, 0xfda),
  (0x1000, 0x109f), (0x10d0, 0x1248), (0x124a, 0x124d), (0x1250, 0x1256), (0x1258, 0x1258),
  (0x125a, 0x125d), (0x1260, 0x1288), (0x128a, 0x128d), (0x1290, 0x12b0), (0x12b2, 0x12b5),
  (0x12b8, 0x12be), (0x12c0, 0x12c0), (0x12c2, 0x12c5), (0x12c8, 0x12d6), (0x12d8, 0x1310),
  (0x1312, 0x1315), (0x1318, 0x135a), (0x135d, 0x137c), (0x1380, 0x1399), (0x13a0, 0x13f5),
  (0x1400, 0x167f), (0x1681, 0x169c), (0x16a0, 0x16f8), (0x1700, 0x1715), (0x171f, 0x1736),
  (0x1740, 0x1753), (0x1760, 0x176c), (0x176e, 0x1770), (0x1772, 0x1773), (0x1780, 0x17dd),
  (0x17e0, 0x17e9), (0x17f0, 0x17f9), (0x1800, 0x1819), (0x1820, 0x1878), (0x1880, 0x18aa),
  (0x18b0, 0x18f5), (0x1900, 0x191e), (0x1920, 0x192b), (0x1930, 0x193b), (0x1940, 0x1940),
  (0x1944, 0x196d), (0x1970, 0x1974), (0x1980, 0x19ab), (0x19b0, 0x19c9), (0x19d0, 0x19da),
  (0x19de, 0x1a1b), (0x1a1e, 0x1a5e), (0x1a60, 0x1a7c), (0x1a7f, 0x1a89), (0x1a90, 0x1a99),
  (0x1aa0, 0x1aad), (0x1ab0, 0x1add), (0x1ae0, 0x1aeb), (0x1b00, 0x1b4c), (0x1b4e, 0x1bf3),
  (0x1bfc, 0x1c37), (0x1c3b, 0x1c49), (0x1c4d, 0x1c8a), (0x1cc0, 0x1cc7), (0x1cd0, 0x1cfa),
  (0x1d00, 0x1f15), (0x1f20, 0x1f45), (0x1f50, 0x1f57), (0x1f60, 0x1f7c), (0x1fb0, 0x1fb1),
  (0x1fb6, 0x1fb6), (0x1fc6, 0x1fd2), (0x1fd6, 0x1fd7), (0x1fe0, 0x1fe7), (0x1ff6, 0x1ff6),
  (0x200c, 0x200d), (0x2010, 0x2023), (0x2027, 0x2027), (0x2030, 0x205e), (0x20a0, 0x20c1),
  (0x20d0, 0x20f0), (0x2104, 0x218b), (0x2190, 0x2429), (0x2440, 0x244a), (0x24eb, 0x2b73),
  (0x2b76, 0x2cf3), (0x2cf9, 0x2d25), (0x2d27, 0x2d27), (0x2d2d, 0x2d2d), (0x2d30, 0x2d67),
  (0x2d70, 0x2d70), (0x2d7f, 0x2d96), (0x2da0, 0x2da6), (0x2da8, 0x2dae), (0x2db0, 0x2db6),
  (0x2db8, 0x2dbe), (0x2dc0, 0x2dc6), (0x2dc8, 0x2dce), (0x2dd0, 0x2dd6), (0x2dd8, 0x2dde),
  (0x2de0, 0x2e5d), (0x2e80, 0x2e99), (0x2e9b, 0x2ef2), (0x3001, 0x303f), (0x3041, 0x3096),
  (0x3099, 0x30fe), (0x3105, 0x312f), (0x3190, 0x31e5), (0x31f0, 0x31ff), (0x3248, 0x327f),
  (0x3400, 0xa48c), (0xa490, 0xa4c6), (0xa4d0, 0xa62b), (0xa641, 0xa6f7), (0xa700, 0xa7db),
  (0xa7f6, 0xa82c), (0xa830, 0xa839), (0xa840, 0xa877), (0xa880, 0xa8c5), (0xa8ce, 0xa8d9),
  (0xa8e0, 0xa953), (0xa95f, 0xa97c), (0xa980, 0xa9cd), (0xa9cf, 0xa9d9), (0xa9de, 0xa9fe),
  (0xaa00, 0xaa36), (0xaa40, 0xaa4d), (0xaa50, 0xaa59), (0xaa5c, 0xaac2), (0xaadb, 0xaaf6),
  (0xab01, 0xab06), (0xab09, 0xab0e), (0xab11, 0xab16), (0xab20, 0xab26), (0xab28, 0xab2e),
  (0xab30, 0xab6b), (0xabc0, 0xabed), (0xabf0, 0xabf9), (0xac00, 0xd7a3), (0xd7b0, 0xd7c6),
  (0xd7cb, 0xd7fb), (0xfa0e, 0xfa29), (0xfb1e, 0xfb1e), (0xfbb2, 0xfdcf), (0xfdfd, 0xfdff),
  (0xfe20, 0xfe2f), (0xfe45, 0xfe46), (0xfe73, 0xfe73), (0x10000, 0x1000b), (0x1000d, 0x10026),
  (0x10028, 0x1003a), (0x1003c, 0x1003d), (0x1003f, 0x1004d), (0x10050, 0x1005d),
  (0x10080, 0x100fa), (0x10100, 0x10102), (0x10107, 0x10133), (0x10137, 0x1018e),
  (0x10190, 0x1019c), (0x101a0, 0x101a0), (0x101d0, 0x101fd), (0x10280, 0x1029c),
  (0x102a0, 0x102d0), (0x102e0, 0x102fb), (0x10300, 0x10323), (0x1032d, 0x1034a),
  (0x10350, 0x1037a), (0x10380, 0x1039d), (0x1039f, 0x103c3), (0x103c8, 0x103d5),
  (0x10428, 0x1049d), (0x104a0, 0x104a9), (0x104d8, 0x104fb), (0x10500, 0x10527),
  (0x10530, 0x10563), (0x1056f, 0x1056f), (0x10597, 0x105a1), (0x105a3, 0x105b1),
  (0x105b3, 0x105b9), (0x105bb, 0x105bc), (0x105c0, 0x105f3), (0x10600, 0x10736),
  (0x10740, 0x10755), (0x10760, 0x10767), (0x10780, 0x10780), (0x10800, 0x10805),
  (0x10808, 0x10808), (0x1080a, 0x10835), (0x10837, 0x10838), (0x1083c, 0x1083c),
  (0x1083f, 0x10855), (0x10857, 0x1089e), (0x108a7, 0x108af), (0x108e0, 0x108f2),
  (0x108f4, 0x108f5), (0x108fb, 0x1091b), (0x1091f, 0x10939), (0x1093f, 0x10959),
  (0x10980, 0x109b7), (0x109bc, 0x109cf), (0x109d2, 0x10a03), (0x10a05, 0x10a06),
  (0x10a0c, 0x10a13), (0x10a15, 0x10a17), (0x10a19, 0x10a35), (0x10a38, 0x10a3a),
  (0x10a3f, 0x10a48), (0x10a50, 0x10a58), (0x10a60, 0x10a9f), (0x10ac0, 0x10ae6),
  (0x10aeb, 0x10af6), (0x10b00, 0x10b35), (0x10b39, 0x10b55), (0x10b58, 0x10b72),
  (0x10b78, 0x10b91), (0x10b99, 0x10b9c), (0x10ba9, 0x10baf), (0x10c00, 0x10c48),
  (0x10cc0, 0x10cf2), (0x10cfa, 0x10d27), (0x10d30, 0x10d39), (0x10d40, 0x10d4f),
  (0x10d69, 0x10d85), (0x10d8e, 0x10d8f), (0x10e60, 0x10e7e), (0x10e80, 0x10ea9),
  (0x10eab, 0x10ead), (0x10eb0, 0x10eb1), (0x10ec2, 0x10ec7), (0x10ed0, 0x10ed8),
  (0x10efa, 0x10f27), (0x10f30, 0x10f59), (0x10f70, 0x10f89), (0x10fb0, 0x10fcb),
  (0x10fe0, 0x10ff6), (0x11000, 0x1104d), (0x11052, 0x11075), (0x1107f, 0x110bc),
  (0x110be, 0x110c2), (0x110d0, 0x110e8), (0x110f0, 0x110f9), (0x11100, 0x11134),
  (0x11136, 0x11147), (0x11150, 0x11176), (0x11180, 0x111df), (0x111e1, 0x111f4),
  (0x11200, 0x11211), (0x11213, 0x11241), (0x11280, 0x11286), (0x11288, 0x11288),
  (0x1128a, 0x1128d), (0x1128f, 0x1129d), (0x1129f, 0x112a9), (0x112b0, 0x112ea),
  (0x112f0, 0x112f9), (0x11300, 0x11303), (0x11305, 0x1130c), (0x1130f, 0x11310),
  (0x11313, 0x11328), (0x1132a, 0x11330), (0x11332, 0x11333), (0x11335, 0x11339),
  (0x1133b, 0x11344), (0x11347, 0x11348), (0x1134b, 0x1134d), (0x11350, 0x11350),
  (0x11357, 0x11357), (0x1135d, 0x11363), (0x11366, 0x1136c), (0x11370, 0x11374),
  (0x11380, 0x11389), (0x1138b, 0x1138b), (0x1138e, 0x1138e), (0x11390, 0x113b5),
  (0x113b7, 0x113c0), (0x113c2, 0x113c2), (0x113c5, 0x113c5), (0x113c7, 0x113ca),
  (0x113cc, 0x113d5), (0x113d7, 0x113d8), (0x113e1, 0x113e2), (0x11400, 0x1145b),
  (0x1145d, 0x11461), (0x11480, 0x114c7), (0x114d0, 0x114d9), (0x11580, 0x115b5),
  (0x115b8, 0x115dd), (0x11600, 0x11644), (0x11650, 0x11659), (0x11660, 0x1166c),
  (0x11680, 0x116b9), (0x116c0, 0x116c9), (0x116d0, 0x116e3), (0x11700, 0x1171a),
  (0x1171d, 0x1172b), (0x11730, 0x11746), (0x11800, 0x1183b), (0x118c0, 0x118f2),
  (0x118ff, 0x11906), (0x11909, 0x11909), (0x1190c, 0x11913), (0x11915, 0x11916),
  (0x11918, 0x11935), (0x11937, 0x11938), (0x1193b, 0x11946), (0x11950, 0x11959),
  (0x119a0, 0x119a7), (0x119aa, 0x119d7), (0x119da, 0x119e4), (0x11a00, 0x11a47),
  (0x11a50, 0x11aa2), (0x11ab0, 0x11af8), (0x11b00, 0x11b09), (0x11b60, 0x11b67),
  (0x11bc0, 0x11be1), (0x11bf0, 0x11bf9), (0x11c00, 0x11c08), (0x11c0a, 0x11c36),
  (0x11c38, 0x11c45), (0x11c50, 0x11c6c), (0x11c70, 0x11c8f), (0x11c92, 0x11ca7),
  (0x11ca9, 0x11cb6), (0x11d00, 0x11d06), (0x11d08, 0x11d09), (0x11d0b, 0x11d36),
  (0x11d3a, 0x11d3a), (0x11d3c, 0x11d3d), (0x11d3f, 0x11d47), (0x11d50, 0x11d59),
  (0x11d60, 0x11d65), (0x11d67, 0x11d68), (0x11d6a, 0x11d8e), (0x11d90, 0x11d91),
  (0x11d93, 0x11d98), (0x11da0, 0x11da9), (0x11db0, 0x11ddb), (0x11de0, 0x11de9),
  (0x11ee0, 0x11ef8), (0x11f00, 0x11f10), (0x11f12, 0x11f3a), (0x11f3e, 0x11f5a),
  (0x11fb0, 0x11fb0), (0x11fc0, 0x11ff1), (0x11fff, 0x12399), (0x12400, 0x1246e),
  (0x12470, 0x12474), (0x12480, 0x12543), (0x12f90, 0x12ff2), (0x13000, 0x1342f),
  (0x13440, 0x13455), (0x13460, 0x143fa), (0x14400, 0x14646), (0x16100, 0x16139),
  (0x16800, 0x16a38), (0x16a40, 0x16a5e), (0x16a60, 0x16a69), (0x16a6e, 0x16abe),
  (0x16ac0, 0x16ac9), (0x16ad0, 0x16aed), (0x16af0, 0x16af5), (0x16b00, 0x16b45),
  (0x16b50, 0x16b59), (0x16b5b, 0x16b61), (0x16b63, 0x16b77), (0x16b7d, 0x16b8f),
  (0x16d40, 0x16d79), (0x16e60, 0x16e9a), (0x16ebb, 0x16ed3), (0x16f00, 0x16f4a),
  (0x16f4f, 0x16f87), (0x16f8f, 0x16f9f), (0x16fe0, 0x16fe4), (0x16ff0, 0x16ff6),
  (0x17000, 0x18cd5), (0x18cff, 0x18d1e), (0x18d80, 0x18df2), (0x1aff0, 0x1aff3),
  (0x1aff5, 0x1affb), (0x1affd, 0x1affe), (0x1b000, 0x1b122), (0x1b132, 0x1b132),
  (0x1b150, 0x1b152), (0x1b155, 0x1b155), (0x1b164, 0x1b167), (0x1b170, 0x1b2fb),
  (0x1bc00, 0x1bc6a), (0x1bc70, 0x1bc7c), (0x1bc80, 0x1bc88), (0x1bc90, 0x1bc99),
  (0x1bc9c, 0x1bc9f), (0x1cc00, 0x1ccfc), (0x1cd00, 0x1ceb3), (0x1ceba, 0x1ced0),
  (0x1cee0, 0x1cef0), (0x1cf00, 0x1cf2d), (0x1cf30, 0x1cf46), (0x1cf50, 0x1cfc3),
  (0x1d000, 0x1d0f5), (0x1d100, 0x1d126), (0x1d129, 0x1d1ea), (0x1d200, 0x1d245),
  (0x1d2c0, 0x1d2d3), (0x1d2e0, 0x1d2f3), (0x1d300, 0x1d356), (0x1d360, 0x1d378),
  (0x1d800, 0x1da8b), (0x1da9b, 0x1da9f), (0x1daa1, 0x1daaf), (0x1df00, 0x1df1e),
  (0x1df25, 0x1df2a), (0x1e000, 0x1e006), (0x1e008, 0x1e018), (0x1e01b, 0x1e021),
  (0x1e023, 0x1e024), (0x1e026, 0x1e02a), (0x1e08f, 0x1e08f), (0x1e100, 0x1e12c),
  (0x1e130, 0x1e13d), (0x1e140, 0x1e149), (0x1e14e, 0x1e14f), (0x1e290, 0x1e2ae),
  (0x1e2c0, 0x1e2f9), (0x1e2ff, 0x1e2ff), (0x1e4d0, 0x1e4f9), (0x1e5d0, 0x1e5fa),
  (0x1e5ff, 0x1e5ff), (0x1e6c0, 0x1e6de), (0x1e6e0, 0x1e6f5), (0x1e6fe, 0x1e6ff),
  (0x1e7e0, 0x1e7e6), (0x1e7e8, 0x1e7eb), (0x1e7ed, 0x1e7ee), (0x1e7f0, 0x1e7fe),
  (0x1e800, 0x1e8c4), (0x1e8c7, 0x1e8d6), (0x1e922, 0x1e94b), (0x1e950, 0x1e959),
  (0x1e95e, 0x1e95f), (0x1ec71, 0x1ecb4), (0x1ed01, 0x1ed3d), (0x1eef0, 0x1eef1),
  (0x1f000, 0x1f02b), (0x1f030, 0x1f093), (0x1f0a0, 0x1f0ae), (0x1f0b1, 0x1f0bf),
  (0x1f0c1, 0x1f0cf), (0x1f0d1, 0x1f0f5), (0x1f10b, 0x1f1ad), (0x1f1e6, 0x1f1ff),
  (0x1f260, 0x1f265), (0x1f300, 0x1f6d8), (0x1f6dc, 0x1f6ec), (0x1f6f0, 0x1f6fc),
  (0x1f700, 0x1f7d9), (0x1f7e0, 0x1f7eb), (0x1f7f0, 0x1f7f0), (0x1f800, 0x1f80b),
  (0x1f810, 0x1f847), (0x1f850, 0x1f859), (0x1f860, 0x1f887), (0x1f890, 0x1f8ad),
  (0x1f8b0, 0x1f8bb), (0x1f8c0, 0x1f8c1), (0x1f8d0, 0x1f8d8), (0x1f900, 0x1fa57),
  (0x1fa60, 0x1fa6d), (0x1fa70, 0x1fa7c), (0x1fa80, 0x1fa8a), (0x1fa8e, 0x1fac6),
  (0x1fac8, 0x1fac8), (0x1facd, 0x1fadc), (0x1fadf, 0x1faea), (0x1faef, 0x1faf8),
  (0x1fb00, 0x1fb92), (0x1fb94, 0x1fbfa), (0x20000, 0x2a6df), (0x2a700, 0x2b81d),
  (0x2b820, 0x2cead), (0x2ceb0, 0x2ebe0), (0x2ebf0, 0x2ee5d), (0x30000, 0x3134a),
  (0x31350, 0x33479)]

/-- The small or plain letter at a distance. -/
def shifted? (n : Nat) : Option Char :=
  (shiftRuns.find? fun r => r.first ≤ n && n ≤ r.last && (n - r.first) % r.step == 0).map fun r =>
    Char.ofNat ((n : Int) + r.shift).toNat

/-- The images by code points. -/
def images : List (Nat × List (List Char)) :=
  letterImages.map (fun (n, s) => (n, s.toList.map ([·]))) ++
    textImages.map fun (n, s) => (n, splitAll '|' s.toList)

/-- The text that a character stands for. -/
def image? (n : Nat) : Option (List Char) :=
  images.findSome? fun (first, texts) => if first ≤ n then texts[n - first]? else none

/-- What a character of a name becomes; none when it has no place in a name. -/
def mapChar? (c : Char) : Option (List Char) :=
  if c.toNat < 0x80 then some [c.toLower]
  else if within voidRuns c.toNat then some []
  else
    match shifted? c.toNat, image? c.toNat with
    | some d, _ => some [d]
    | none, some s => some s
    | none, none => if within usableRuns c.toNat then some [c] else none

/-- A name with every character mapped; none when it holds one that has no place in a name. -/
def mapName? (name : List Char) : Option (List Char) := (name.mapM mapChar?).map List.flatten

/-- Does the character stand for itself? -/
def isNameChar (c : Char) : Bool := mapChar? c == some [c]

example : mapName? "ＡÅ".toList = some "aå".toList := by decide +kernel

end Turnpike.Url
