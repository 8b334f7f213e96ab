import CredentialSync.Text.Span

/-!
# Letters in internet domains

Which letter a character of a domain stands for, where it stands for one other letter: capital
letters become small, and the forms that a letter has by its place, width, style or origin become
the letter itself.

* `upward` and `downward` hold the stretches whose characters all move by one distance;
* `stretches` holds the others: a code point and the letters that the characters from there on
  stand for.

A character named nowhere in this file does not stand for a letter other than itself.
-/

namespace CredentialSync.Url.Letters

open Text (Span)

/-! ## 1. Stretches that move by one distance -/

/-- Stretches whose characters move to higher code points. -/
def upward : List Span := [
  ⟨0xc0, 0xd6, 1, 0x20⟩, ⟨0xd8, 0xde, 1, 0x20⟩, ⟨0x100, 0x12e, 2, 0x1⟩, ⟨0x14a, 0x176, 2, 0x1⟩,
  ⟨0x1cd, 0x1db, 2, 0x1⟩, ⟨0x1de, 0x1ee, 2, 0x1⟩, ⟨0x1f8, 0x21e, 2, 0x1⟩, ⟨0x222, 0x232, 2, 0x1⟩,
  ⟨0x246, 0x24e, 2, 0x1⟩, ⟨0x391, 0x3a1, 1, 0x20⟩, ⟨0x3a3, 0x3ab, 1, 0x20⟩,
  ⟨0x3d8, 0x3ee, 2, 0x1⟩, ⟨0x400, 0x40f, 1, 0x50⟩, ⟨0x410, 0x42f, 1, 0x20⟩,
  ⟨0x460, 0x480, 2, 0x1⟩, ⟨0x48a, 0x4be, 2, 0x1⟩, ⟨0x4c1, 0x4cd, 2, 0x1⟩, ⟨0x4d0, 0x52e, 2, 0x1⟩,
  ⟨0x531, 0x556, 1, 0x30⟩, ⟨0x10a0, 0x10c5, 1, 0x1c60⟩, ⟨0x1e00, 0x1e94, 2, 0x1⟩,
  ⟨0x1ea0, 0x1efe, 2, 0x1⟩, ⟨0x2c00, 0x2c2f, 1, 0x30⟩, ⟨0x2c80, 0x2ce2, 2, 0x1⟩,
  ⟨0xa640, 0xa66c, 2, 0x1⟩, ⟨0xa680, 0xa69a, 2, 0x1⟩, ⟨0xa722, 0xa72e, 2, 0x1⟩,
  ⟨0xa732, 0xa76e, 2, 0x1⟩, ⟨0xa77e, 0xa786, 2, 0x1⟩, ⟨0xa796, 0xa7a8, 2, 0x1⟩,
  ⟨0xa7b4, 0xa7c2, 2, 0x1⟩, ⟨0xa7cc, 0xa7da, 2, 0x1⟩, ⟨0x10400, 0x10427, 1, 0x28⟩,
  ⟨0x104b0, 0x104d3, 1, 0x28⟩, ⟨0x10570, 0x10594, 2, 0x27⟩, ⟨0x10571, 0x10579, 2, 0x27⟩,
  ⟨0x1057d, 0x10589, 2, 0x27⟩, ⟨0x10c80, 0x10cb2, 1, 0x40⟩, ⟨0x10d50, 0x10d65, 1, 0x20⟩,
  ⟨0x118a0, 0x118bf, 1, 0x20⟩, ⟨0x16e40, 0x16e5f, 1, 0x20⟩, ⟨0x16ea0, 0x16eb8, 1, 0x1b⟩,
  ⟨0x1e900, 0x1e921, 1, 0x22⟩]

/-- Stretches whose characters move to lower code points. -/
def downward : List Span := [
  ⟨0x13f8, 0x13fd, 1, 0x8⟩, ⟨0x1c90, 0x1cba, 1, 0xbc0⟩, ⟨0x1d31, 0x1d39, 2, 0x1ccc⟩,
  ⟨0x1f08, 0x1f0f, 1, 0x8⟩, ⟨0x1f18, 0x1f1d, 1, 0x8⟩, ⟨0x1f28, 0x1f2f, 1, 0x8⟩,
  ⟨0x1f38, 0x1f3f, 1, 0x8⟩, ⟨0x1f48, 0x1f4d, 1, 0x8⟩, ⟨0x1f68, 0x1f6f, 1, 0x8⟩,
  ⟨0x2074, 0x2079, 1, 0x2040⟩, ⟨0x2080, 0x2089, 1, 0x2050⟩, ⟨0x2460, 0x2468, 1, 0x242f⟩,
  ⟨0x24b6, 0x24cf, 1, 0x2455⟩, ⟨0x24d0, 0x24e9, 1, 0x246f⟩, ⟨0x313a, 0x313f, 1, 0x1f8a⟩,
  ⟨0x3145, 0x314e, 1, 0x203c⟩, ⟨0x314f, 0x3163, 1, 0x1fee⟩, ⟨0x3178, 0x317c, 1, 0x204d⟩,
  ⟨0x3269, 0x326d, 1, 0x215b⟩, ⟨0x32e4, 0x32e9, 1, 0x21a⟩, ⟨0x32ee, 0x32f2, 1, 0x210⟩,
  ⟨0x32f5, 0x32fa, 1, 0x20d⟩, ⟨0xab70, 0xabbf, 1, 0x97d0⟩, ⟨0xff01, 0xff20, 1, 0xfee0⟩,
  ⟨0xff21, 0xff3a, 1, 0xfec0⟩, ⟨0xff3b, 0xff5e, 1, 0xfee0⟩, ⟨0xff85, 0xff8a, 1, 0xcebb⟩,
  ⟨0xff8f, 0xff93, 1, 0xceb1⟩, ⟨0xff96, 0xff9b, 1, 0xceae⟩, ⟨0xffaa, 0xffaf, 1, 0xedfa⟩,
  ⟨0xffb5, 0xffbe, 1, 0xeeac⟩, ⟨0xffc2, 0xffc7, 1, 0xee61⟩, ⟨0xffca, 0xffcf, 1, 0xee63⟩,
  ⟨0xffd2, 0xffd7, 1, 0xee65⟩, ⟨0x1ccd6, 0x1ccef, 1, 0x1cc75⟩, ⟨0x1ccf0, 0x1ccf9, 1, 0x1ccc0⟩,
  ⟨0x1d400, 0x1d419, 1, 0x1d39f⟩, ⟨0x1d41a, 0x1d433, 1, 0x1d3b9⟩, ⟨0x1d434, 0x1d44d, 1, 0x1d3d3⟩,
  ⟨0x1d44e, 0x1d466, 2, 0x1d3ed⟩, ⟨0x1d457, 0x1d467, 2, 0x1d3ed⟩, ⟨0x1d468, 0x1d481, 1, 0x1d407⟩,
  ⟨0x1d482, 0x1d49b, 1, 0x1d421⟩, ⟨0x1d4aa, 0x1d4b4, 2, 0x1d43b⟩, ⟨0x1d4b7, 0x1d4cf, 2, 0x1d455⟩,
  ⟨0x1d4c6, 0x1d4ce, 2, 0x1d455⟩, ⟨0x1d4d0, 0x1d4e9, 1, 0x1d46f⟩, ⟨0x1d4ea, 0x1d503, 1, 0x1d489⟩,
  ⟨0x1d50d, 0x1d514, 1, 0x1d4a3⟩, ⟨0x1d516, 0x1d51c, 1, 0x1d4a3⟩, ⟨0x1d51e, 0x1d537, 1, 0x1d4bd⟩,
  ⟨0x1d53c, 0x1d546, 2, 0x1d4d7⟩, ⟨0x1d54a, 0x1d550, 1, 0x1d4d7⟩, ⟨0x1d552, 0x1d56b, 1, 0x1d4f1⟩,
  ⟨0x1d56c, 0x1d585, 1, 0x1d50b⟩, ⟨0x1d586, 0x1d59f, 1, 0x1d525⟩, ⟨0x1d5a0, 0x1d5b9, 1, 0x1d53f⟩,
  ⟨0x1d5ba, 0x1d5d3, 1, 0x1d559⟩, ⟨0x1d5d4, 0x1d5ed, 1, 0x1d573⟩, ⟨0x1d5ee, 0x1d607, 1, 0x1d58d⟩,
  ⟨0x1d608, 0x1d621, 1, 0x1d5a7⟩, ⟨0x1d622, 0x1d63b, 1, 0x1d5c1⟩, ⟨0x1d63c, 0x1d655, 1, 0x1d5db⟩,
  ⟨0x1d656, 0x1d66f, 1, 0x1d5f5⟩, ⟨0x1d670, 0x1d689, 1, 0x1d60f⟩, ⟨0x1d68a, 0x1d6a3, 1, 0x1d629⟩,
  ⟨0x1d6a8, 0x1d6b8, 1, 0x1d2f7⟩, ⟨0x1d6ba, 0x1d6c0, 1, 0x1d2f7⟩, ⟨0x1d6c2, 0x1d6d2, 1, 0x1d311⟩,
  ⟨0x1d6d4, 0x1d6da, 1, 0x1d311⟩, ⟨0x1d6e2, 0x1d6f2, 1, 0x1d331⟩, ⟨0x1d6f4, 0x1d6fa, 1, 0x1d331⟩,
  ⟨0x1d6fc, 0x1d70c, 1, 0x1d34b⟩, ⟨0x1d70e, 0x1d714, 1, 0x1d34b⟩, ⟨0x1d71c, 0x1d72c, 1, 0x1d36b⟩,
  ⟨0x1d72e, 0x1d734, 1, 0x1d36b⟩, ⟨0x1d736, 0x1d746, 1, 0x1d385⟩, ⟨0x1d748, 0x1d74e, 1, 0x1d385⟩,
  ⟨0x1d756, 0x1d766, 1, 0x1d3a5⟩, ⟨0x1d768, 0x1d76e, 1, 0x1d3a5⟩, ⟨0x1d770, 0x1d780, 1, 0x1d3bf⟩,
  ⟨0x1d782, 0x1d788, 1, 0x1d3bf⟩, ⟨0x1d790, 0x1d7a0, 1, 0x1d3df⟩, ⟨0x1d7a2, 0x1d7a8, 1, 0x1d3df⟩,
  ⟨0x1d7aa, 0x1d7ba, 1, 0x1d3f9⟩, ⟨0x1d7bc, 0x1d7c2, 1, 0x1d3f9⟩, ⟨0x1d7ce, 0x1d7d7, 1, 0x1d79e⟩,
  ⟨0x1d7d8, 0x1d7e1, 1, 0x1d7a8⟩, ⟨0x1d7e2, 0x1d7eb, 1, 0x1d7b2⟩, ⟨0x1d7ec, 0x1d7f5, 1, 0x1d7bc⟩,
  ⟨0x1d7f6, 0x1d7ff, 1, 0x1d7c6⟩, ⟨0x1e030, 0x1e038, 1, 0x1dc00⟩, ⟨0x1e03c, 0x1e046, 1, 0x1dbfe⟩,
  ⟨0x1e051, 0x1e059, 1, 0x1dc21⟩, ⟨0x1e05f, 0x1e064, 1, 0x1dc1c⟩, ⟨0x1f130, 0x1f149, 1, 0x1f0cf⟩,
  ⟨0x1fbf0, 0x1fbf9, 1, 0x1fbc0⟩]

/-! ## 2. Stretches that name their letters

Within each table the stretches ascend. -/

/-- Modern European scripts, Georgian and Cherokee. -/
def european : List (Nat × String) := [
  (0xaa, "a"), (0xb2, "23"), (0xb5, "μ"), (0xb9, "1o"), (0x134, "ĵĵķķĸĺĺļļľ"),
  (0x141, "łłńńņņň"),
  (0x178, "ÿźźżżžžsƀɓƃƃƅƅɔƈƈɖɗƌƌƍǝəɛƒƒɠɣƕɩɨƙƙƚƛɯɲƞɵơơƣƣƥƥʀƨƨʃƪƫƭƭʈưưʊʋƴƴƶƶʒƹƹƺƻƽ"),
  (0x1f4, "ǵǵƕƿ"), (0x220, "ƞ"), (0x23a, "ⱥȼȼƚⱦȿɀɂɂƀʉʌ"), (0x2b0, "hɦjrɹɻʁwy"),
  (0x2e0, "ɣlsxʕ"), (0x340, "\u0300\u0301"), (0x343, "\u0313"), (0x345, "ι"),
  (0x370, "ͱͱͳͳʹ͵ͷ"), (0x37e, ";ϳ"), (0x386, "ά·έήί"), (0x38c, "ό"), (0x38e, "ύώ"),
  (0x3cf, "ϗβθυύϋφπ"), (0x3f0, "κρσϳθε϶ϸϸσϻϻϼͻͼͽ"), (0x4c0, "ӏ"), (0x558, "է"), (0xf0c, "་"),
  (0x10c7, "ⴧ"), (0x10cd, "ⴭ"), (0x10fc, "ნ"), (0x1c80, "вдосттъѣꙋᲊ"), (0x1cbd, "ჽჾჿ")]

/-- Phonetic and technical letters, Greek with accents, signs. -/
def phonetic : List (Nat × String) := [
  (0x1d2c, "aæbᴯd"), (0x1d32, "ǝ"), (0x1d34, "h"), (0x1d36, "j"), (0x1d38, "l"),
  (0x1d3a, "nᴻoȣprtuwaɐɑᴂbdeəɛɜgᵎkmŋoɔᴖᴗptuᴝɯvᴥβγδφχiruvβγρφχ"), (0x1d78, "н"),
  (0x1d9b, "ɒcɕðɜfɟɡɥɨɩɪᵻʝɭᶅʟɱɰɲɳɴɵɸʂʃƫʉʊᴜʋʌzʐʑʒθ"), (0x1e9b, "ṡẜẝß"), (0x1f59, "ὑ"),
  (0x1f5b, "ὓ"), (0x1f5d, "ὕ"), (0x1f5f, "ὗ"), (0x1f71, "άὲέὴήὶίὸόὺύὼώ"), (0x1fb8, "ᾰᾱὰά"),
  (0x1fbe, "ι"), (0x1fc8, "ὲέὴή"), (0x1fd3, "ΐ"), (0x1fd8, "ῐῑὶί"), (0x1fe3, "ΰῤῥῦῧῠῡὺύῥ"),
  (0x1fef, "`"), (0x1ff8, "ὸόὼώ"), (0x2011, "‐"), (0x2070, "0i"), (0x207a, "+−=()n"),
  (0x208a, "+−=()"), (0x2090, "aeoxəhklmnpst"), (0x210a, "ghhhhħiill℔n"), (0x2119, "pqrrr"),
  (0x2124, "z℥ω℧z℩kåbc℮eefⅎmo\u05d0\u05d1\u05d2\u05d3i"), (0x213c, "πγγπ∑⅁⅂⅃⅄ddeij"),
  (0x2164, "v"), (0x216c, "lcdmi"), (0x217c, "lcdmↀↁↂↄ"), (0x2329, "〈〉"), (0x24ea, "0"),
  (0x2c60, "ⱡⱡɫᵽɽⱥⱦⱨⱨⱪⱪⱬⱬɑɱɐɒⱱⱳⱳⱴⱶ"), (0x2c7c, "jvȿɀ"), (0x2ceb, "ⳬⳬⳮ"), (0x2cf2, "ⳳ"),
  (0x2d6f, "ⵡ")]

/-- Radicals, kana and letters in circles. -/
def eastAsian : List (Nat × String) := [
  (0x2e9f, "母"), (0x2ef3, "龟"),
  (0x2f00, "一丨丶丿乙亅二亠人儿入八冂冖冫几凵刀力勹匕匚匸十卜卩厂厶又口囗土士夂夊夕大女"),
  (0x2f26, "子宀寸小尢尸屮山巛工己巾干幺广廴廾弋弓彐彡彳心戈戶手支攴文斗斤方无日曰月木欠"),
  (0x2f4c, "止歹殳毋比毛氏气水火爪父爻爿片牙牛犬玄玉瓜瓦甘生用田疋疒癶白皮皿目矛矢石示禸"),
  (0x2f72, "禾穴立竹米糸缶网羊羽老而耒耳聿肉臣自至臼舌舛舟艮色艸虍虫血行衣襾見角言谷豆豕"),
  (0x2f98, "豸貝赤走足身車辛辰辵邑酉釆里金長門阜隶隹雨靑非面革韋韭音頁風飛食首香馬骨高髟"),
  (0x2fbe, "鬥鬯鬲鬼魚鳥鹵鹿麥麻黃黍黑黹黽鼎鼓鼠鼻齊齒龍龜龠"), (0x3002, "."),
  (0x3036, "〒〷十卄卅"), (0x3131, "ᄀᄁᆪᄂᆬᆭᄃᄄᄅ"), (0x3140, "ᄚᄆᄇᄈᄡ"),
  (0x3165, "ᄔᄕᇇᇈᇌᇎᇓᇗᇙᄜᇝᇟᄝᄞᄠᄢᄣᄧᄩ"), (0x317d, "ᄲᄶᅀᅇᅌᇱᇲᅗᅘᅙᆄᆅᆈᆑᆒᆔᆞᆡ"),
  (0x3192, "一二三四上中下甲乙丙丁天地人"), (0x3244, "問幼文箏"),
  (0x3260, "ᄀᄂᄃᄅᄆᄇᄉᄋᄌ"), (0x326e, "가나다라마바사아자차카타파하"),
  (0x327e, "우㉿一二三四五六七八九十月火水木金土日株有社名特財祝労秘男女適優印注項休写正"),
  (0x32a4, "上中下左右医宗学監企資協夜"), (0x32d0, "アイウエオカキクケコサシスセソタチツテト"),
  (0x32ea, "ヒフヘホ"), (0x32f3, "ヤユ"), (0x32fb, "ワヰヱヲ")]

/-- Later Latin and Cherokee, and ideographs of one spelling. -/
def ideographs : List (Nat × String) := [
  (0xa69c, "ъь"), (0xa770, "ꝯ"), (0xa779, "ꝺꝺꝼꝼᵹ"), (0xa78b, "ꞌꞌɥꞎꞏꞑꞑꞓ"),
  (0xa7aa, "ɦɜɡɬɪꞯʞʇʝꭓ"), (0xa7c4, "ꞔʂᶎꟈꟈꟊꟊɤ"), (0xa7dc, "ƛ"), (0xa7f1, "scfqꟶꟶꟷħœ"),
  (0xab5c, "ꜧꬷɫꭒ"), (0xab69, "ʍ"),
  (0xf900, "豈更車賈滑串句龜龜契金喇奈懶癩羅蘿螺裸邏樂洛烙珞落酪駱亂卵欄爛蘭鸞嵐濫藍襤拉"),
  (0xf926, "臘蠟廊朗浪狼郎來冷勞擄櫓爐盧老蘆虜路露魯鷺碌祿綠菉錄鹿論壟弄籠聾牢磊賂雷壘屢"),
  (0xf94c, "樓淚漏累縷陋勒肋凜凌稜綾菱陵讀拏樂諾丹寧怒率異北磻便復不泌數索參塞省葉說殺辰"),
  (0xf972, "沈拾若掠略亮兩凉梁糧良諒量勵呂女廬旅濾礪閭驪麗黎力曆歷轢年憐戀撚漣煉璉秊練聯"),
  (0xf998, "輦蓮連鍊列劣咽烈裂說廉念捻殮簾獵令囹寧嶺怜玲瑩羚聆鈴零靈領例禮醴隸惡了僚寮尿"),
  (0xf9be, "料樂燎療蓼遼龍暈阮劉杻柳流溜琉留硫紐類六戮陸倫崙淪輪律慄栗率隆利吏履易李梨泥"),
  (0xf9e4, "理痢罹裏裡里離匿溺吝燐璘藺隣鱗麟林淋臨立笠粒狀炙識什茶刺切度拓糖宅洞暴輻行降"),
  (0xfa0a, "見廓兀嗀﨎﨏塚﨑晴﨓﨔凞猪益礼神祥福靖精羽﨟蘒﨡諸﨣﨤逸都﨧﨨﨩飯飼館鶴郞隷"),
  (0xfa30, "侮僧免勉勤卑喝嘆器塀墨層屮悔慨憎懲敏既暑梅海渚漢煮爫琢碑社祉祈祐祖祝禍禎穀突"),
  (0xfa56, "節練縉繁署者臭艹艹著褐視謁謹賓贈辶逸難響頻恵𤋮舘"),
  (0xfa70, "並况全侀充冀勇勺喝啕喙嗢塚墳奄奔婢嬨廒廙彩徭惘慎愈憎慠懲戴揄搜摒敖晴朗望杖歹"),
  (0xfa96, "殺流滛滋漢瀞煮瞧爵犯猪瑱甆画瘝瘟益盛直睊着磌窱節类絛練缾者荒華蝹襁覆視調諸請"),
  (0xfabc, "謁諾諭謹變贈輸遲醙鉶陼難靖韛響頋頻鬒龜𢡊𢡄𣏕㮝䀘䀹𥉉𥳐𧻓齃龎"),
  (0xfb20, "\u05e2\u05d0\u05d3\u05d4\u05db\u05dc\u05dd\u05e8\u05ea+")]

/-- Arabic forms and forms of full or half width. -/
def arabicForms : List (Nat × String) := [
  (0xfb50, "\u0671\u0671\u067b\u067b\u067b\u067b\u067e\u067e\u067e\u067e\u0680\u0680"),
  (0xfb5c, "\u0680\u0680\u067a\u067a\u067a\u067a\u067f\u067f\u067f\u067f\u0679\u0679"),
  (0xfb68, "\u0679\u0679\u06a4\u06a4\u06a4\u06a4\u06a6\u06a6\u06a6\u06a6\u0684\u0684"),
  (0xfb74, "\u0684\u0684\u0683\u0683\u0683\u0683\u0686\u0686\u0686\u0686\u0687\u0687"),
  (0xfb80, "\u0687\u0687\u068d\u068d\u068c\u068c\u068e\u068e\u0688\u0688\u0698\u0698"),
  (0xfb8c, "\u0691\u0691\u06a9\u06a9\u06a9\u06a9\u06af\u06af\u06af\u06af\u06b3\u06b3"),
  (0xfb98, "\u06b3\u06b3\u06b1\u06b1\u06b1\u06b1\u06ba\u06ba\u06bb\u06bb\u06bb\u06bb"),
  (0xfba4, "\u06c0\u06c0\u06c1\u06c1\u06c1\u06c1\u06be\u06be\u06be\u06be\u06d2\u06d2"),
  (0xfbb0, "\u06d3\u06d3"),
  (0xfbd3, "\u06ad\u06ad\u06ad\u06ad\u06c7\u06c7\u06c6\u06c6\u06c8\u06c8"),
  (0xfbde, "\u06cb\u06cb\u06c5\u06c5\u06c9\u06c9\u06d0\u06d0\u06d0\u06d0\u0649\u0649"),
  (0xfbfc, "\u06cc\u06cc\u06cc\u06cc"), (0xfe10, ",、︒:;!?〖〗"),
  (0xfe31, "—–__()\x7b\x7d〔〕【】《》〈〉「」『』﹅﹆[]"), (0xfe4d, "___,、"),
  (0xfe54, ";:?!—()\x7b\x7d〔〕#&*+-<>="), (0xfe68, "\\$%@"),
  (0xfe80, "\u0621\u0622\u0622\u0623\u0623\u0624\u0624\u0625\u0625\u0626\u0626\u0626"),
  (0xfe8c, "\u0626\u0627\u0627\u0628\u0628\u0628\u0628\u0629\u0629\u062a\u062a\u062a"),
  (0xfe98, "\u062a\u062b\u062b\u062b\u062b\u062c\u062c\u062c\u062c\u062d\u062d\u062d"),
  (0xfea4, "\u062d\u062e\u062e\u062e\u062e\u062f\u062f\u0630\u0630\u0631\u0631\u0632"),
  (0xfeb0, "\u0632\u0633\u0633\u0633\u0633\u0634\u0634\u0634\u0634\u0635\u0635\u0635"),
  (0xfebc, "\u0635\u0636\u0636\u0636\u0636\u0637\u0637\u0637\u0637\u0638\u0638\u0638"),
  (0xfec8, "\u0638\u0639\u0639\u0639\u0639\u063a\u063a\u063a\u063a\u0641\u0641\u0641"),
  (0xfed4, "\u0641\u0642\u0642\u0642\u0642\u0643\u0643\u0643\u0643\u0644\u0644\u0644"),
  (0xfee0, "\u0644\u0645\u0645\u0645\u0645\u0646\u0646\u0646\u0646\u0647\u0647\u0647"),
  (0xfeec, "\u0647\u0648\u0648\u0649\u0649\u064a\u064a\u064a\u064a"),
  (0xff5f, "⦅⦆.「」、・ヲァィゥェォャュョッーアイウエオカキクケコサシスセソタチツテト"),
  (0xff8b, "ヒフヘホ"), (0xff94, "ヤユ"), (0xff9c, "ワン\u3099\u309a"),
  (0xffa1, "ᄀᄁᆪᄂᆬᆭᄃᄄᄅ"), (0xffb0, "ᄚᄆᄇᄈᄡ"), (0xffda, "ᅳᅴᅵ"), (0xffe0, "¢£¬"),
  (0xffe4, "¦¥₩"), (0xffe8, "│←↑→↓■○")]

/-- Old scripts, mathematical and musical letters. -/
def oldScripts : List (Nat × String) := [
  (0x1058d, "𐖴"), (0x1058f, "𐖶"), (0x10591, "𐖸"), (0x10595, "𐖼"), (0x10781, "ːˑæʙɓ"),
  (0x10787, "ʣꭦʥʤɖɗᶑɘɞʩɤɢɠʛħʜɧʄʪʫɬ𝼄ꞎɮ𝼅ʎ𝼆øɶɷqɺ𝼈ɽɾʀʨʦꭧʧʈⱱ"), (0x107b2, "ʏʡʢʘǀǁǂ𝼊𝼞"),
  (0x1d44f, "b"), (0x1d451, "d"), (0x1d453, "f"), (0x1d49c, "a"), (0x1d49e, "cd"),
  (0x1d4a2, "g"), (0x1d4a5, "jk"), (0x1d4a9, "n"), (0x1d4ab, "p"), (0x1d4af, "t"),
  (0x1d4b1, "v"), (0x1d4b3, "x"), (0x1d4b5, "za"), (0x1d4b8, "c"), (0x1d4be, "i"),
  (0x1d4c0, "k"), (0x1d4c2, "m"), (0x1d504, "ab"), (0x1d507, "defg"), (0x1d538, "ab"),
  (0x1d53b, "d"), (0x1d53d, "f"), (0x1d541, "j"), (0x1d543, "l"), (0x1d6a4, "ıȷ"),
  (0x1d6b9, "θ"), (0x1d6c1, "∇"), (0x1d6d3, "σ"), (0x1d6db, "∂εθκφρπ"), (0x1d6f3, "θ"),
  (0x1d6fb, "∇"), (0x1d70d, "σ"), (0x1d715, "∂εθκφρπ"), (0x1d72d, "θ"), (0x1d735, "∇"),
  (0x1d747, "σ"), (0x1d74f, "∂εθκφρπ"), (0x1d767, "θ"), (0x1d76f, "∇"), (0x1d781, "σ"),
  (0x1d789, "∂εθκφρπ"), (0x1d7a1, "θ"), (0x1d7a9, "∇"), (0x1d7bb, "σ"), (0x1d7c3, "∂εθκφρπϝϝ"),
  (0x1e039, "клм"), (0x1e047, "ыэюꚉәіјөүӏ"), (0x1e05a, "клопс"), (0x1e065, "ъыґіѕџҫꙑұ"),
  (0x1ee00, "\u0627\u0628\u062c\u062f"),
  (0x1ee05, "\u0648\u0632\u062d\u0637\u064a\u0643\u0644\u0645\u0646\u0633\u0639\u0641"),
  (0x1ee11, "\u0635\u0642\u0631\u0634\u062a\u062b\u062e\u0630\u0636\u0638\u063a\u066e"),
  (0x1ee1d, "\u06ba\u06a1\u066f"), (0x1ee21, "\u0628\u062c"), (0x1ee24, "\u0647"),
  (0x1ee27, "\u062d"),
  (0x1ee29, "\u064a\u0643\u0644\u0645\u0646\u0633\u0639\u0641\u0635\u0642"),
  (0x1ee34, "\u0634\u062a\u062b\u062e"), (0x1ee39, "\u0636"), (0x1ee3b, "\u063a"),
  (0x1ee42, "\u062c"), (0x1ee47, "\u062d"), (0x1ee49, "\u064a"), (0x1ee4b, "\u0644"),
  (0x1ee4d, "\u0646\u0633\u0639"), (0x1ee51, "\u0635\u0642"), (0x1ee54, "\u0634"),
  (0x1ee57, "\u062e"), (0x1ee59, "\u0636"), (0x1ee5b, "\u063a"), (0x1ee5d, "\u06ba"),
  (0x1ee5f, "\u066f"), (0x1ee61, "\u0628\u062c"), (0x1ee64, "\u0647"),
  (0x1ee67, "\u062d\u0637\u064a\u0643"),
  (0x1ee6c, "\u0645\u0646\u0633\u0639\u0641\u0635\u0642"),
  (0x1ee74, "\u0634\u062a\u062b\u062e"), (0x1ee79, "\u0636\u0638\u063a\u066e"),
  (0x1ee7e, "\u06a1"),
  (0x1ee80, "\u0627\u0628\u062c\u062f\u0647\u0648\u0632\u062d\u0637\u064a"),
  (0x1ee8b, "\u0644\u0645\u0646\u0633\u0639\u0641\u0635\u0642\u0631\u0634\u062a\u062b"),
  (0x1ee97, "\u062e\u0630\u0636\u0638\u063a"), (0x1eea1, "\u0628\u062c\u062f"),
  (0x1eea5, "\u0648\u0632\u062d\u0637\u064a"),
  (0x1eeab, "\u0644\u0645\u0646\u0633\u0639\u0641\u0635\u0642\u0631\u0634\u062a\u062b"),
  (0x1eeb7, "\u062e\u0630\u0636\u0638\u063a")]

/-- Framed letters and further ideographs. -/
def framed : List (Nat × String) := [
  (0x1f202, "サ"),
  (0x1f210, "手字双デ二多解天交映無料前後再新初終生販声吹演投捕一三遊左中右指走打禁空合満"),
  (0x1f236, "有月申割営配"), (0x1f250, "得可"),
  (0x2f800, "丽丸乁𠄢你侮侻倂偺備僧像㒞𠘺免兔兤具𠔜㒹內再𠕋冗冤仌冬况𩇟凵刃㓟刻剆割剷㔕勇"),
  (0x2f826, "勉勤勺包匆北卉卑博即卽卿卿卿𠨬灰及叟𠭣叫叱吆咞吸呈周咢哶唐啓啣善善喙喫喳嗂圖"),
  (0x2f84c, "嘆圗噑噴切壮城埴堍型堲報墬𡓤売壷夆多夢奢𡚨𡛪姬娛娧姘婦㛮㛼嬈嬾嬾𡧈寃寘寧寳𡬘"),
  (0x2f872, "寿将当尢㞁屠屮峀岍𡷤嵃𡷦嵮嵫嵼巡巢㠯巽帨帽幩㡢𢆃㡼庰庳庶廊𪎒廾𢌱𢌱舁弢弢㣇𣊸"),
  (0x2f898, "𦇚形彫㣣徚忍志忹悁㤺㤜悔𢛔惇慈慌慎慌慺憎憲憤憯懞懲懶成戛扝抱拔捐𢬌挽拼捨掃揤"),
  (0x2f8be, "𢯱搢揅掩㨮摩摾撝摷㩬敏敬𣀊旣書晉㬙暑㬈㫤冒冕最暜肭䏙朗望朡杞杓𣏃㭉柺枅桒梅𣑭"),
  (0x2f8e4, "梎栟椔㮝楂榣槪檨𣚣櫛㰘次𣢧歔㱎歲殟殺殻𣪍𡴋𣫺汎𣲼沿泍汧洖派海流浩浸涅𣴞洴港湮"),
  (0x2f90a, "㴳滋滇𣻑淹潮𣽞𣾎濆瀹瀞瀛㶖灊災灷炭𠔥煅𤉣熜𤎫爨爵牐𤘈犀犕𤜵𤠔獺王㺬玥㺸㺸瑇瑜"),
  (0x2f930, "瑱璅瓊㼛甤𤰶甾𤲒異𢆟瘐𤾡𤾸𥁄㿼䀈直𥃳𥃲𥄙𥄳眞真真睊䀹瞋䁆䂖𥐝硎碌磌䃣𥘦祖𥚚𥛅"),
  (0x2f956, "福秫䄯穀穊穏𥥼𥪧𥪧竮䈂𥮫篆築䈧𥲀糒䊠糨糣紀𥾆絣䌁緇縂繅䌴𦈨𦉇䍙𦋙罺𦌾羕翺者𦓚"),
  (0x2f97c, "𦔣聠𦖨聰𣍟䏕育脃䐋脾媵𦞧𦞵𣎓𣎜舁舄辞䑫芑芋芝劳花芳芽苦𦬼若茝荣莭茣莽菧著荓菊"),
  (0x2f9a2, "菌菜𦰶𦵫𦳕䔫蓱蓳蔖𧏊蕤𦼬䕝䕡𦾱𧃒䕫虐虜虧虩蚩蚈蜎蛢蝹蜨蝫螆䗗蟡蠁䗹衠衣𧙧裗裞"),
  (0x2f9c8, "䘵裺㒻𧢮𧥦䚾䛇誠諭變豕𧲨貫賁贛起𧼯𠠄跋趼跰𠣞軔輸𨗒𨗭邔郱鄑𨜮鄛鈸鋗鋘鉼鏹鐕𨯺"),
  (0x2f9ee, "開䦕閷𨵷䧦雃嶲霣𩅅𩈚䩮䩶韠𩐊䪲𩒖頋頋頩𩖶飢䬳餩馧駂駾䯎𩬰鬒鱀鳽䳎䳭鵧𪃎䳸𪄅𪈎"),
  (0x2fa14, "𪊑麻䵖黹黾鼅鼏鼖鼻𪘀")]

/-- All stretches with the letters of their characters, in ascending order. -/
def stretches : List (Nat × String) :=
  european ++ phonetic ++ eastAsian ++ ideographs ++ arabicForms ++ oldScripts ++ framed

/-! ## 3. Looking up -/

/-- The last entry that begins at or before `c`. -/
def rowAt? (c : Nat) (table : List (Nat × String)) : Option (Nat × String) :=
  (table.takeWhile (·.1 ≤ c)).getLast?

/-- The letter that a character stands for, if another one. -/
def letter? (c : Nat) : Option Nat :=
  match Span.distance? upward c with
  | some d => some (c + d)
  | none =>
    match Span.distance? downward c with
    | some d => some (c - d)
    | none => (rowAt? c stretches).bind fun (first, letters) =>
      (letters.toList[c - first]?).map Char.toNat

end CredentialSync.Url.Letters
