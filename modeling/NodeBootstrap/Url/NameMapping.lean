import NodeBootstrap.Text.Lowercase
import NodeBootstrap.Text.Parts
import NodeBootstrap.Text.Printable
import NodeBootstrap.Url.Punycode

/-! # Mapping of names

How the characters of a domain name are mapped before they are compared: case is folded, variants of
a character are replaced by the character that they stand for, and some leave no trace. -/

namespace NodeBootstrap.Url.Domain

open Text

/-! ## Tables -/

/-- What the characters from a code point on are mapped to, one after another, with dots between the
images. Where an image is left out, the character is mapped to its lower case. -/
def imageRows : List (Nat × String) :=
  [(0x00A0, " "), (0x00A8, " \u0308••a"),
    (0x00AF, " \u0304•••2•3• \u0301•μ••• \u0327•1•o••1⁄4•1⁄2•3⁄4"), (0x0132, "ij•ij"),
    (0x013F, "l·•l·"), (0x0149, "ʼn"), (0x017F, "s"), (0x01C4, "dž•dž•dž•lj•lj•lj•nj•nj•nj"),
    (0x01F1, "dz•dz•dz"), (0x02B0, "h•ɦ•j•r•ɹ•ɻ•ʁ•w•y"),
    (0x02D8, " \u0306• \u0307• \u030A• \u0328• \u0303• \u030B•••ɣ•l•s•x•ʕ"),
    (0x0340, "\u0300•\u0301••\u0313•\u0308\u0301•ι"), (0x0374, "ʹ"), (0x037A, " ι••••;"),
    (0x0384, " \u0301• \u0308\u0301••·"), (0x03D0, "β•θ•υ•ύ•ϋ•φ•π"), (0x03F0, "κ•ρ•σ•••ε••••σ"),
    (0x0587, "եւ"), (0x0675, "\u0627\u0674•\u0648\u0674•\u06C7\u0674•\u064A\u0674"),
    (0x0958, "क\u093C•ख\u093C•ग\u093C•ज\u093C•ड\u093C•ढ\u093C•फ\u093C•य\u093C"),
    (0x09DC, "ড\u09BC•ঢ\u09BC••য\u09BC"), (0x0A33, "ਲ\u0A3C•••ਸ\u0A3C"),
    (0x0A59, "ਖ\u0A3C•ਗ\u0A3C•ਜ\u0A3C•••ਫ\u0A3C"), (0x0B5C, "ଡ\u0B3C•ଢ\u0B3C"), (0x0E33, "\u0E4Dา"),
    (0x0EB3, "\u0ECDາ"), (0x0EDC, "ຫນ•ຫມ"), (0x0F0C, "་"), (0x0F43, "ག\u0FB7"), (0x0F4D, "ཌ\u0FB7"),
    (0x0F52, "ད\u0FB7"), (0x0F57, "བ\u0FB7"), (0x0F5C, "ཛ\u0FB7"), (0x0F69, "ཀ\u0FB5"),
    (0x0F73, "\u0F71\u0F72••\u0F71\u0F74•\u0FB2\u0F80•\u0FB2\u0F71\u0F80•\u0FB3\u0F80"),
    (0x0F79, "\u0FB3\u0F71\u0F80"), (0x0F81, "\u0F71\u0F80"), (0x0F93, "\u0F92\u0FB7"),
    (0x0F9D, "\u0F9C\u0FB7"), (0x0FA2, "\u0FA1\u0FB7"), (0x0FA7, "\u0FA6\u0FB7"),
    (0x0FAC, "\u0FAB\u0FB7"), (0x0FB9, "\u0F90\u0FB5"), (0x10FC, "ნ"), (0x13F8, "Ᏸ•Ᏹ•Ᏺ•Ᏻ•Ᏼ•Ᏽ"),
    (0x1C80, "в•д•о•с•т•т•ъ•ѣ•ꙋ"),
    (0x1D2C, "a•æ•b••d•e•ǝ•g•h•i•j•k•l•m•n••o•ȣ•p•r•t•u•w•a•ɐ•ɑ•ᴂ•b•d•e•ə•ɛ•ɜ•g••k•m•ŋ•o•ɔ•ᴖ"),
    (0x1D55, "ᴗ•p•t•u•ᴝ•ɯ•v•ᴥ•β•γ•δ•φ•χ•i•r•u•v•β•γ•ρ•φ•χ"), (0x1D78, "н"),
    (0x1D9B, "ɒ•c•ɕ•ð•ɜ•f•ɟ•ɡ•ɥ•ɨ•ɩ•ɪ•ᵻ•ʝ•ɭ•ᶅ•ʟ•ɱ•ɰ•ɲ•ɳ•ɴ•ɵ•ɸ•ʂ•ʃ•ƫ•ʉ•ʊ•ᴜ•ʋ•ʌ•z•ʐ•ʑ•ʒ•θ"),
    (0x1E9A, "aʾ•ṡ"),
    (0x1F71, "ά••έ••ή••ί••ό••ύ••ώ•••ἀι•ἁι•ἂι•ἃι•ἄι•ἅι•ἆι•ἇι•ἀι•ἁι•ἂι•ἃι•ἄι•ἅι•ἆι•ἇι•ἠι•ἡι•ἢι"),
    (0x1F93, "ἣι•ἤι•ἥι•ἦι•ἧι•ἠι•ἡι•ἢι•ἣι•ἤι•ἥι•ἦι•ἧι•ὠι•ὡι•ὢι•ὣι•ὤι•ὥι•ὦι•ὧι•ὠι•ὡι•ὢι•ὣι•ὤι"),
    (0x1FAD, "ὥι•ὦι•ὧι•••ὰι•αι•άι•••ᾶι••••ά•αι• \u0313•ι• \u0313• \u0342• \u0308\u0342•ὴι•ηι"),
    (0x1FC4, "ήι•••ῆι••έ••ή•ηι• \u0313\u0300• \u0313\u0301• \u0313\u0342••••ΐ"),
    (0x1FDB, "ί•• \u0314\u0300• \u0314\u0301• \u0314\u0342••••ΰ"),
    (0x1FEB, "ύ•• \u0308\u0300• \u0308\u0301•`•••ὼι•ωι•ώι•••ῶι••ό••ώ•ωι• \u0301• \u0314•• • "),
    (0x2002, " • • • • • • • • "), (0x2011, "‐"), (0x2017, " \u0333"),
    (0x202F, " ••••′′•′′′••‵‵•‵‵‵"), (0x203C, "!!•• \u0305"), (0x2047, "??•?!•!?"),
    (0x2057, "′′′′"), (0x205F, " "),
    (0x2070, "0•i•••4•5•6•7•8•9•+•−•=•(•)•n•0•1•2•3•4•5•6•7•8•9•+•−•=•(•)••a•e•o•x•ə•h•k•l•m"),
    (0x2099, "n•p•s•t"), (0x20A8, "rs"),
    (0x2100, "a/c•a/s•c•°c••c/o•c/u•ɛ••°f•g•h•h•h•h•ħ•i•i•l•l••n•no•••p•q•r•r•r•••sm•tel•tm•"),
    (0x2124, "z••••z••••b•c••e•e•f••m•o•\u05D0•\u05D1•\u05D2•\u05D3•i••fax•π•γ•γ•π•∑"),
    (0x2145, "d•d•e•i•j"),
    (0x2150, "1⁄7•1⁄9•1⁄10•1⁄3•2⁄3•1⁄5•2⁄5•3⁄5•4⁄5•1⁄6•5⁄6•1⁄8•3⁄8•5⁄8•7⁄8•1⁄•i•ii•iii•iv•v"),
    (0x2165, "vi•vii•viii•ix•x•xi•xii•l•c•d•m•i•ii•iii•iv•v•vi•vii•viii•ix•x•xi•xii•l•c•d•m"),
    (0x2189, "0⁄3"), (0x222C, "∫∫•∫∫∫••∮∮•∮∮∮"), (0x2329, "〈•〉"),
    (0x2460, "1•2•3•4•5•6•7•8•9•10•11•12•13•14•15•16•17•18•19•20•(1)•(2)•(3)•(4)•(5)•(6)•(7)"),
    (0x247B, "(8)•(9)•(10)•(11)•(12)•(13)•(14)•(15)•(16)•(17)•(18)•(19)•(20)"),
    (0x249C, "(a)•(b)•(c)•(d)•(e)•(f)•(g)•(h)•(i)•(j)•(k)•(l)•(m)•(n)•(o)•(p)•(q)•(r)•(s)•(t)"),
    (0x24B0, "(u)•(v)•(w)•(x)•(y)•(z)•a•b•c•d•e•f•g•h•i•j•k•l•m•n•o•p•q•r•s•t•u•v•w•x•y•z•a•b"),
    (0x24D2, "c•d•e•f•g•h•i•j•k•l•m•n•o•p•q•r•s•t•u•v•w•x•y•z•0"), (0x2A0C, "∫∫∫∫"),
    (0x2A74, "::=•==•==="), (0x2ADC, "⫝\u0338"), (0x2C7C, "j•v"), (0x2D6F, "ⵡ"), (0x2E9F, "母"),
    (0x2EF3, "龟"),
    (0x2F00, "一•丨•丶•丿•乙•亅•二•亠•人•儿•入•八•冂•冖•冫•几•凵•刀•力•勹•匕•匚•匸•十•卜•卩•厂•厶•又•口•囗•土•士•夂•夊•夕•大•女•子•宀"),
    (0x2F28, "寸•小•尢•尸•屮•山•巛•工•己•巾•干•幺•广•廴•廾•弋•弓•彐•彡•彳•心•戈•戶•手•支•攴•文•斗•斤•方•无•日•曰•月•木•欠•止•歹•殳•毋"),
    (0x2F50, "比•毛•氏•气•水•火•爪•父•爻•爿•片•牙•牛•犬•玄•玉•瓜•瓦•甘•生•用•田•疋•疒•癶•白•皮•皿•目•矛•矢•石•示•禸•禾•穴•立•竹•米•糸"),
    (0x2F78, "缶•网•羊•羽•老•而•耒•耳•聿•肉•臣•自•至•臼•舌•舛•舟•艮•色•艸•虍•虫•血•行•衣•襾•見•角•言•谷•豆•豕•豸•貝•赤•走•足•身•車•辛"),
    (0x2FA0, "辰•辵•邑•酉•釆•里•金•長•門•阜•隶•隹•雨•靑•非•面•革•韋•韭•音•頁•風•飛•食•首•香•馬•骨•高•髟•鬥•鬯•鬲•鬼•魚•鳥•鹵•鹿•麥•麻"),
    (0x2FC8, "黃•黍•黑•黹•黽•鼎•鼓•鼠•鼻•齊•齒•龍•龜•龠"), (0x3000, " ••."), (0x3036, "〒••十•卄•卅"),
    (0x309B, " \u3099• \u309A•••より"), (0x30FF, "コト"),
    (0x3131, "ᄀ•ᄁ•ᆪ•ᄂ•ᆬ•ᆭ•ᄃ•ᄄ•ᄅ•ᆰ•ᆱ•ᆲ•ᆳ•ᆴ•ᆵ•ᄚ•ᄆ•ᄇ•ᄈ•ᄡ•ᄉ•ᄊ•ᄋ•ᄌ•ᄍ•ᄎ•ᄏ•ᄐ•ᄑ•ᄒ•ᅡ•ᅢ•ᅣ•ᅤ•ᅥ•ᅦ•ᅧ•ᅨ•ᅩ•ᅪ"),
    (0x3159, "ᅫ•ᅬ•ᅭ•ᅮ•ᅯ•ᅰ•ᅱ•ᅲ•ᅳ•ᅴ•ᅵ"),
    (0x3165, "ᄔ•ᄕ•ᇇ•ᇈ•ᇌ•ᇎ•ᇓ•ᇗ•ᇙ•ᄜ•ᇝ•ᇟ•ᄝ•ᄞ•ᄠ•ᄢ•ᄣ•ᄧ•ᄩ•ᄫ•ᄬ•ᄭ•ᄮ•ᄯ•ᄲ•ᄶ•ᅀ•ᅇ•ᅌ•ᇱ•ᇲ•ᅗ•ᅘ•ᅙ•ᆄ•ᆅ•ᆈ•ᆑ•ᆒ•ᆔ"),
    (0x318D, "ᆞ•ᆡ••••一•二•三•四•上•中•下•甲•乙•丙•丁•天•地•人"),
    (0x3200, "(ᄀ)•(ᄂ)•(ᄃ)•(ᄅ)•(ᄆ)•(ᄇ)•(ᄉ)•(ᄋ)•(ᄌ)•(ᄎ)•(ᄏ)•(ᄐ)•(ᄑ)•(ᄒ)•(가)•(나)•(다)•(라)•(마)•(바)"),
    (0x3214, "(사)•(아)•(자)•(차)•(카)•(타)•(파)•(하)•(주)•(오전)•(오후)••(一)•(二)•(三)•(四)•(五)•(六)•(七)•(八)"),
    (0x3228, "(九)•(十)•(月)•(火)•(水)•(木)•(金)•(土)•(日)•(株)•(有)•(社)•(名)•(特)•(財)•(祝)•(労)•(代)•(呼)•(学)"),
    (0x323C, "(監)•(企)•(資)•(協)•(祭)•(休)•(自)•(至)•問•幼•文•箏"),
    (0x3250, "pte•21•22•23•24•25•26•27•28•29•30•31•32•33•34•35•ᄀ•ᄂ•ᄃ•ᄅ•ᄆ•ᄇ•ᄉ•ᄋ•ᄌ•ᄎ•ᄏ•ᄐ•ᄑ•ᄒ•가"),
    (0x326F, "나•다•라•마•바•사•아•자•차•카•타•파•하•참고•주의•우••一•二•三•四•五•六•七•八•九•十•月•火•水•木•金•土•日•株•有•社•名•特"),
    (0x3296, "財•祝•労•秘•男•女•適•優•印•注•項•休•写•正•上•中•下•左•右•医•宗•学•監•企•資•協•夜•36•37•38•39•40•41•42•43"),
    (0x32B9, "44•45•46•47•48•49•50•1月•2月•3月•4月•5月•6月•7月•8月•9月•10月•11月•12月•hg•erg•ev•ltd•ア•イ•ウ"),
    (0x32D3, "エ•オ•カ•キ•ク•ケ•コ•サ•シ•ス•セ•ソ•タ•チ•ツ•テ•ト•ナ•ニ•ヌ•ネ•ノ•ハ•ヒ•フ•ヘ•ホ•マ•ミ•ム•メ•モ•ヤ•ユ•ヨ•ラ•リ•ル•レ•ロ"),
    (0x32FB, "ワ•ヰ•ヱ•ヲ•令和•アパート•アルファ•アンペア•アール•イニング•インチ•ウォン•エスクード•エーカー•オンス•オーム•カイリ•カラット•カロリー•ガロン"),
    (0x330F, "ガンマ•ギガ•ギニー•キュリー•ギルダー•キロ•キログラム•キロメートル•キロワット•グラム•グラムトン•クルゼイロ•クローネ•ケース•コルナ•コーポ"),
    (0x331F, "サイクル•サンチーム•シリング•センチ•セント•ダース•デシ•ドル•トン•ナノ•ノット•ハイツ•パーセント•パーツ•バーレル•ピアストル•ピクル•ピコ•ビル"),
    (0x3332, "ファラッド•フィート•ブッシェル•フラン•ヘクタール•ペソ•ペニヒ•ヘルツ•ペンス•ページ•ベータ•ポイント•ボルト•ホン•ポンド•ホール•ホーン•マイクロ"),
    (0x3344, "マイル•マッハ•マルク•マンション•ミクロン•ミリ•ミリバール•メガ•メガトン•メートル•ヤード•ヤール•ユアン•リットル•リラ•ルピー•ルーブル•レム"),
    (0x3356, "レントゲン•ワット•0点•1点•2点•3点•4点•5点•6点•7点•8点•9点•10点•11点•12点•13点•14点•15点•16点•17点•18点•19点"),
    (0x336C, "20点•21点•22点•23点•24点•hpa•da•au•bar•ov•pc•dm•dm2•dm3•iu•平成•昭和•大正•明治•株式会社•pa•na•μa"),
    (0x3383, "ma•ka•kb•mb•gb•cal•kcal•pf•nf•μf•μg•mg•kg•hz•khz•mhz•ghz•thz•μl•ml•dl•kl•fm•nm"),
    (0x339B, "μm•mm•cm•km•mm2•cm2•m2•km2•mm3•cm3•m3•km3•m∕s•m∕s2•pa•kpa•mpa•gpa•rad•rad∕s"),
    (0x33AF, "rad∕s2•ps•ns•μs•ms•pv•nv•μv•mv•kv•mv•pw•nw•μw•mw•kw•mw•kω•mω••bq•cc•cd•c∕kg••db"),
    (0x33C9, "gy•ha•hp•in•kk•km•kt•lm•ln•log•lx•mb•mil•mol•ph••ppm•pr•sr•sv•wb•v∕m•a∕m•1日•2日"),
    (0x33E2, "3日•4日•5日•6日•7日•8日•9日•10日•11日•12日•13日•14日•15日•16日•17日•18日•19日•20日•21日•22日•23日"),
    (0x33F7, "24日•25日•26日•27日•28日•29日•30日•31日•gal"), (0xA69C, "ъ•ь"), (0xA770, "ꝯ"),
    (0xA7F1, "s•c•f•q••••ħ•œ"), (0xAB5C, "ꜧ•ꬷ•ɫ•ꭒ"), (0xAB69, "ʍ"),
    (0xAB70, "Ꭰ•Ꭱ•Ꭲ•Ꭳ•Ꭴ•Ꭵ•Ꭶ•Ꭷ•Ꭸ•Ꭹ•Ꭺ•Ꭻ•Ꭼ•Ꭽ•Ꭾ•Ꭿ•Ꮀ•Ꮁ•Ꮂ•Ꮃ•Ꮄ•Ꮅ•Ꮆ•Ꮇ•Ꮈ•Ꮉ•Ꮊ•Ꮋ•Ꮌ•Ꮍ•Ꮎ•Ꮏ•Ꮐ•Ꮑ•Ꮒ•Ꮓ•Ꮔ•Ꮕ•Ꮖ•Ꮗ"),
    (0xAB98, "Ꮘ•Ꮙ•Ꮚ•Ꮛ•Ꮜ•Ꮝ•Ꮞ•Ꮟ•Ꮠ•Ꮡ•Ꮢ•Ꮣ•Ꮤ•Ꮥ•Ꮦ•Ꮧ•Ꮨ•Ꮩ•Ꮪ•Ꮫ•Ꮬ•Ꮭ•Ꮮ•Ꮯ•Ꮰ•Ꮱ•Ꮲ•Ꮳ•Ꮴ•Ꮵ•Ꮶ•Ꮷ•Ꮸ•Ꮹ•Ꮺ•Ꮻ•Ꮼ•Ꮽ•Ꮾ•Ꮿ"),
    (0xF900, "豈•更•車•賈•滑•串•句•龜•龜•契•金•喇•奈•懶•癩•羅•蘿•螺•裸•邏•樂•洛•烙•珞•落•酪•駱•亂•卵•欄•爛•蘭•鸞•嵐•濫•藍•襤•拉•臘•蠟"),
    (0xF928, "廊•朗•浪•狼•郎•來•冷•勞•擄•櫓•爐•盧•老•蘆•虜•路•露•魯•鷺•碌•祿•綠•菉•錄•鹿•論•壟•弄•籠•聾•牢•磊•賂•雷•壘•屢•樓•淚•漏•累"),
    (0xF950, "縷•陋•勒•肋•凜•凌•稜•綾•菱•陵•讀•拏•樂•諾•丹•寧•怒•率•異•北•磻•便•復•不•泌•數•索•參•塞•省•葉•說•殺•辰•沈•拾•若•掠•略•亮"),
    (0xF978, "兩•凉•梁•糧•良•諒•量•勵•呂•女•廬•旅•濾•礪•閭•驪•麗•黎•力•曆•歷•轢•年•憐•戀•撚•漣•煉•璉•秊•練•聯•輦•蓮•連•鍊•列•劣•咽•烈"),
    (0xF9A0, "裂•說•廉•念•捻•殮•簾•獵•令•囹•寧•嶺•怜•玲•瑩•羚•聆•鈴•零•靈•領•例•禮•醴•隸•惡•了•僚•寮•尿•料•樂•燎•療•蓼•遼•龍•暈•阮•劉"),
    (0xF9C8, "杻•柳•流•溜•琉•留•硫•紐•類•六•戮•陸•倫•崙•淪•輪•律•慄•栗•率•隆•利•吏•履•易•李•梨•泥•理•痢•罹•裏•裡•里•離•匿•溺•吝•燐•璘"),
    (0xF9F0, "藺•隣•鱗•麟•林•淋•臨•立•笠•粒•狀•炙•識•什•茶•刺•切•度•拓•糖•宅•洞•暴•輻•行•降•見•廓•兀•嗀•••塚••晴•••凞•猪•益•礼•神"),
    (0xFA1A, "祥•福•靖•精•羽••蘒••諸•••逸•都••••飯•飼•館•鶴•郞•隷•侮•僧•免•勉•勤•卑•喝•嘆•器•塀•墨•層•屮•悔•慨•憎•懲•敏•既•暑•梅"),
    (0xFA45, "海•渚•漢•煮•爫•琢•碑•社•祉•祈•祐•祖•祝•禍•禎•穀•突•節•練•縉•繁•署•者•臭•艹•艹•著•褐•視•謁•謹•賓•贈•辶•逸•難•響•頻•恵•𤋮"),
    (0xFA6D, "舘•••並•况•全•侀•充•冀•勇•勺•喝•啕•喙•嗢•塚•墳•奄•奔•婢•嬨•廒•廙•彩•徭•惘•慎•愈•憎•慠•懲•戴•揄•搜•摒•敖•晴•朗•望•杖•歹"),
    (0xFA96, "殺•流•滛•滋•漢•瀞•煮•瞧•爵•犯•猪•瑱•甆•画•瘝•瘟•益•盛•直•睊•着•磌•窱•節•类•絛•練•缾•者•荒•華•蝹•襁•覆•視•調•諸•請•謁•諾"),
    (0xFABE, "諭•謹•變•贈•輸•遲•醙•鉶•陼•難•靖•韛•響•頋•頻•鬒•龜•𢡊•𢡄•𣏕•㮝•䀘•䀹•𥉉•𥳐•𧻓•齃•龎"),
    (0xFB00, "ff•fi•fl•ffi•ffl•st•st"), (0xFB13, "մն•մե•մի•վն•մխ"),
    (0xFB1D, "\u05D9\u05B4••\u05F2\u05B7•\u05E2•\u05D0•\u05D3•\u05D4•\u05DB•\u05DC•\u05DD"),
    (0xFB27, "\u05E8•\u05EA•+•\u05E9\u05C1•\u05E9\u05C2•\u05E9\u05BC\u05C1•\u05E9\u05BC\u05C2"),
    (0xFB2E, "\u05D0\u05B7•\u05D0\u05B8•\u05D0\u05BC•\u05D1\u05BC•\u05D2\u05BC•\u05D3\u05BC"),
    (0xFB34, "\u05D4\u05BC•\u05D5\u05BC•\u05D6\u05BC••\u05D8\u05BC•\u05D9\u05BC•\u05DA\u05BC"),
    (0xFB3B, "\u05DB\u05BC•\u05DC\u05BC••\u05DE\u05BC••\u05E0\u05BC•\u05E1\u05BC•"),
    (0xFB43, "\u05E3\u05BC•\u05E4\u05BC••\u05E6\u05BC•\u05E7\u05BC•\u05E8\u05BC•\u05E9\u05BC"),
    (0xFB4A, "\u05EA\u05BC•\u05D5\u05B9•\u05D1\u05BF•\u05DB\u05BF•\u05E4\u05BF•\u05D0\u05DC"),
    (0xFB50, "\u0671•\u0671•\u067B•\u067B•\u067B•\u067B•\u067E•\u067E•\u067E•\u067E•\u0680"),
    (0xFB5B, "\u0680•\u0680•\u0680•\u067A•\u067A•\u067A•\u067A•\u067F•\u067F•\u067F•\u067F"),
    (0xFB66, "\u0679•\u0679•\u0679•\u0679•\u06A4•\u06A4•\u06A4•\u06A4•\u06A6•\u06A6•\u06A6"),
    (0xFB71, "\u06A6•\u0684•\u0684•\u0684•\u0684•\u0683•\u0683•\u0683•\u0683•\u0686•\u0686"),
    (0xFB7C, "\u0686•\u0686•\u0687•\u0687•\u0687•\u0687•\u068D•\u068D•\u068C•\u068C•\u068E"),
    (0xFB87, "\u068E•\u0688•\u0688•\u0698•\u0698•\u0691•\u0691•\u06A9•\u06A9•\u06A9•\u06A9"),
    (0xFB92, "\u06AF•\u06AF•\u06AF•\u06AF•\u06B3•\u06B3•\u06B3•\u06B3•\u06B1•\u06B1•\u06B1"),
    (0xFB9D, "\u06B1•\u06BA•\u06BA•\u06BB•\u06BB•\u06BB•\u06BB•\u06C0•\u06C0•\u06C1•\u06C1"),
    (0xFBA8, "\u06C1•\u06C1•\u06BE•\u06BE•\u06BE•\u06BE•\u06D2•\u06D2•\u06D3•\u06D3"),
    (0xFBD3, "\u06AD•\u06AD•\u06AD•\u06AD•\u06C7•\u06C7•\u06C6•\u06C6•\u06C8•\u06C8"),
    (0xFBDD, "\u06C7\u0674•\u06CB•\u06CB•\u06C5•\u06C5•\u06C9•\u06C9•\u06D0•\u06D0•\u06D0"),
    (0xFBE7, "\u06D0•\u0649•\u0649•\u0626\u0627•\u0626\u0627•\u0626\u06D5•\u0626\u06D5"),
    (0xFBEE, "\u0626\u0648•\u0626\u0648•\u0626\u06C7•\u0626\u06C7•\u0626\u06C6•\u0626\u06C6"),
    (0xFBF4, "\u0626\u06C8•\u0626\u06C8•\u0626\u06D0•\u0626\u06D0•\u0626\u06D0•\u0626\u0649"),
    (0xFBFA, "\u0626\u0649•\u0626\u0649•\u06CC•\u06CC•\u06CC•\u06CC•\u0626\u062C•\u0626\u062D"),
    (0xFC02, "\u0626\u0645•\u0626\u0649•\u0626\u064A•\u0628\u062C•\u0628\u062D•\u0628\u062E"),
    (0xFC08, "\u0628\u0645•\u0628\u0649•\u0628\u064A•\u062A\u062C•\u062A\u062D•\u062A\u062E"),
    (0xFC0E, "\u062A\u0645•\u062A\u0649•\u062A\u064A•\u062B\u062C•\u062B\u0645•\u062B\u0649"),
    (0xFC14, "\u062B\u064A•\u062C\u062D•\u062C\u0645•\u062D\u062C•\u062D\u0645•\u062E\u062C"),
    (0xFC1A, "\u062E\u062D•\u062E\u0645•\u0633\u062C•\u0633\u062D•\u0633\u062E•\u0633\u0645"),
    (0xFC20, "\u0635\u062D•\u0635\u0645•\u0636\u062C•\u0636\u062D•\u0636\u062E•\u0636\u0645"),
    (0xFC26, "\u0637\u062D•\u0637\u0645•\u0638\u0645•\u0639\u062C•\u0639\u0645•\u063A\u062C"),
    (0xFC2C, "\u063A\u0645•\u0641\u062C•\u0641\u062D•\u0641\u062E•\u0641\u0645•\u0641\u0649"),
    (0xFC32, "\u0641\u064A•\u0642\u062D•\u0642\u0645•\u0642\u0649•\u0642\u064A•\u0643\u0627"),
    (0xFC38, "\u0643\u062C•\u0643\u062D•\u0643\u062E•\u0643\u0644•\u0643\u0645•\u0643\u0649"),
    (0xFC3E, "\u0643\u064A•\u0644\u062C•\u0644\u062D•\u0644\u062E•\u0644\u0645•\u0644\u0649"),
    (0xFC44, "\u0644\u064A•\u0645\u062C•\u0645\u062D•\u0645\u062E•\u0645\u0645•\u0645\u0649"),
    (0xFC4A, "\u0645\u064A•\u0646\u062C•\u0646\u062D•\u0646\u062E•\u0646\u0645•\u0646\u0649"),
    (0xFC50, "\u0646\u064A•\u0647\u062C•\u0647\u0645•\u0647\u0649•\u0647\u064A•\u064A\u062C"),
    (0xFC56, "\u064A\u062D•\u064A\u062E•\u064A\u0645•\u064A\u0649•\u064A\u064A•\u0630\u0670"),
    (0xFC5C, "\u0631\u0670•\u0649\u0670• \u064C\u0651• \u064D\u0651• \u064E\u0651"),
    (0xFC61, " \u064F\u0651• \u0650\u0651• \u0651\u0670•\u0626\u0631•\u0626\u0632"),
    (0xFC66, "\u0626\u0645•\u0626\u0646•\u0626\u0649•\u0626\u064A•\u0628\u0631•\u0628\u0632"),
    (0xFC6C, "\u0628\u0645•\u0628\u0646•\u0628\u0649•\u0628\u064A•\u062A\u0631•\u062A\u0632"),
    (0xFC72, "\u062A\u0645•\u062A\u0646•\u062A\u0649•\u062A\u064A•\u062B\u0631•\u062B\u0632"),
    (0xFC78, "\u062B\u0645•\u062B\u0646•\u062B\u0649•\u062B\u064A•\u0641\u0649•\u0641\u064A"),
    (0xFC7E, "\u0642\u0649•\u0642\u064A•\u0643\u0627•\u0643\u0644•\u0643\u0645•\u0643\u0649"),
    (0xFC84, "\u0643\u064A•\u0644\u0645•\u0644\u0649•\u0644\u064A•\u0645\u0627•\u0645\u0645"),
    (0xFC8A, "\u0646\u0631•\u0646\u0632•\u0646\u0645•\u0646\u0646•\u0646\u0649•\u0646\u064A"),
    (0xFC90, "\u0649\u0670•\u064A\u0631•\u064A\u0632•\u064A\u0645•\u064A\u0646•\u064A\u0649"),
    (0xFC96, "\u064A\u064A•\u0626\u062C•\u0626\u062D•\u0626\u062E•\u0626\u0645•\u0626\u0647"),
    (0xFC9C, "\u0628\u062C•\u0628\u062D•\u0628\u062E•\u0628\u0645•\u0628\u0647•\u062A\u062C"),
    (0xFCA2, "\u062A\u062D•\u062A\u062E•\u062A\u0645•\u062A\u0647•\u062B\u0645•\u062C\u062D"),
    (0xFCA8, "\u062C\u0645•\u062D\u062C•\u062D\u0645•\u062E\u062C•\u062E\u0645•\u0633\u062C"),
    (0xFCAE, "\u0633\u062D•\u0633\u062E•\u0633\u0645•\u0635\u062D•\u0635\u062E•\u0635\u0645"),
    (0xFCB4, "\u0636\u062C•\u0636\u062D•\u0636\u062E•\u0636\u0645•\u0637\u062D•\u0638\u0645"),
    (0xFCBA, "\u0639\u062C•\u0639\u0645•\u063A\u062C•\u063A\u0645•\u0641\u062C•\u0641\u062D"),
    (0xFCC0, "\u0641\u062E•\u0641\u0645•\u0642\u062D•\u0642\u0645•\u0643\u062C•\u0643\u062D"),
    (0xFCC6, "\u0643\u062E•\u0643\u0644•\u0643\u0645•\u0644\u062C•\u0644\u062D•\u0644\u062E"),
    (0xFCCC, "\u0644\u0645•\u0644\u0647•\u0645\u062C•\u0645\u062D•\u0645\u062E•\u0645\u0645"),
    (0xFCD2, "\u0646\u062C•\u0646\u062D•\u0646\u062E•\u0646\u0645•\u0646\u0647•\u0647\u062C"),
    (0xFCD8, "\u0647\u0645•\u0647\u0670•\u064A\u062C•\u064A\u062D•\u064A\u062E•\u064A\u0645"),
    (0xFCDE, "\u064A\u0647•\u0626\u0645•\u0626\u0647•\u0628\u0645•\u0628\u0647•\u062A\u0645"),
    (0xFCE4, "\u062A\u0647•\u062B\u0645•\u062B\u0647•\u0633\u0645•\u0633\u0647•\u0634\u0645"),
    (0xFCEA, "\u0634\u0647•\u0643\u0644•\u0643\u0645•\u0644\u0645•\u0646\u0645•\u0646\u0647"),
    (0xFCF0, "\u064A\u0645•\u064A\u0647•\u0640\u064E\u0651•\u0640\u064F\u0651"),
    (0xFCF4, "\u0640\u0650\u0651•\u0637\u0649•\u0637\u064A•\u0639\u0649•\u0639\u064A"),
    (0xFCF9, "\u063A\u0649•\u063A\u064A•\u0633\u0649•\u0633\u064A•\u0634\u0649•\u0634\u064A"),
    (0xFCFF, "\u062D\u0649•\u062D\u064A•\u062C\u0649•\u062C\u064A•\u062E\u0649•\u062E\u064A"),
    (0xFD05, "\u0635\u0649•\u0635\u064A•\u0636\u0649•\u0636\u064A•\u0634\u062C•\u0634\u062D"),
    (0xFD0B, "\u0634\u062E•\u0634\u0645•\u0634\u0631•\u0633\u0631•\u0635\u0631•\u0636\u0631"),
    (0xFD11, "\u0637\u0649•\u0637\u064A•\u0639\u0649•\u0639\u064A•\u063A\u0649•\u063A\u064A"),
    (0xFD17, "\u0633\u0649•\u0633\u064A•\u0634\u0649•\u0634\u064A•\u062D\u0649•\u062D\u064A"),
    (0xFD1D, "\u062C\u0649•\u062C\u064A•\u062E\u0649•\u062E\u064A•\u0635\u0649•\u0635\u064A"),
    (0xFD23, "\u0636\u0649•\u0636\u064A•\u0634\u062C•\u0634\u062D•\u0634\u062E•\u0634\u0645"),
    (0xFD29, "\u0634\u0631•\u0633\u0631•\u0635\u0631•\u0636\u0631•\u0634\u062C•\u0634\u062D"),
    (0xFD2F, "\u0634\u062E•\u0634\u0645•\u0633\u0647•\u0634\u0647•\u0637\u0645•\u0633\u062C"),
    (0xFD35, "\u0633\u062D•\u0633\u062E•\u0634\u062C•\u0634\u062D•\u0634\u062E•\u0637\u0645"),
    (0xFD3B, "\u0638\u0645•\u0627\u064B•\u0627\u064B"),
    (0xFD50, "\u062A\u062C\u0645•\u062A\u062D\u062C•\u062A\u062D\u062C•\u062A\u062D\u0645"),
    (0xFD54, "\u062A\u062E\u0645•\u062A\u0645\u062C•\u062A\u0645\u062D•\u062A\u0645\u062E"),
    (0xFD58, "\u062C\u0645\u062D•\u062C\u0645\u062D•\u062D\u0645\u064A•\u062D\u0645\u0649"),
    (0xFD5C, "\u0633\u062D\u062C•\u0633\u062C\u062D•\u0633\u062C\u0649•\u0633\u0645\u062D"),
    (0xFD60, "\u0633\u0645\u062D•\u0633\u0645\u062C•\u0633\u0645\u0645•\u0633\u0645\u0645"),
    (0xFD64, "\u0635\u062D\u062D•\u0635\u062D\u062D•\u0635\u0645\u0645•\u0634\u062D\u0645"),
    (0xFD68, "\u0634\u062D\u0645•\u0634\u062C\u064A•\u0634\u0645\u062E•\u0634\u0645\u062E"),
    (0xFD6C, "\u0634\u0645\u0645•\u0634\u0645\u0645•\u0636\u062D\u0649•\u0636\u062E\u0645"),
    (0xFD70, "\u0636\u062E\u0645•\u0637\u0645\u062D•\u0637\u0645\u062D•\u0637\u0645\u0645"),
    (0xFD74, "\u0637\u0645\u064A•\u0639\u062C\u0645•\u0639\u0645\u0645•\u0639\u0645\u0645"),
    (0xFD78, "\u0639\u0645\u0649•\u063A\u0645\u0645•\u063A\u0645\u064A•\u063A\u0645\u0649"),
    (0xFD7C, "\u0641\u062E\u0645•\u0641\u062E\u0645•\u0642\u0645\u062D•\u0642\u0645\u0645"),
    (0xFD80, "\u0644\u062D\u0645•\u0644\u062D\u064A•\u0644\u062D\u0649•\u0644\u062C\u062C"),
    (0xFD84, "\u0644\u062C\u062C•\u0644\u062E\u0645•\u0644\u062E\u0645•\u0644\u0645\u062D"),
    (0xFD88, "\u0644\u0645\u062D•\u0645\u062D\u062C•\u0645\u062D\u0645•\u0645\u062D\u064A"),
    (0xFD8C, "\u0645\u062C\u062D•\u0645\u062C\u0645•\u0645\u062E\u062C•\u0645\u062E\u0645••"),
    (0xFD92, "\u0645\u062C\u062E•\u0647\u0645\u062C•\u0647\u0645\u0645•\u0646\u062D\u0645"),
    (0xFD96, "\u0646\u062D\u0649•\u0646\u062C\u0645•\u0646\u062C\u0645•\u0646\u062C\u0649"),
    (0xFD9A, "\u0646\u0645\u064A•\u0646\u0645\u0649•\u064A\u0645\u0645•\u064A\u0645\u0645"),
    (0xFD9E, "\u0628\u062E\u064A•\u062A\u062C\u064A•\u062A\u062C\u0649•\u062A\u062E\u064A"),
    (0xFDA2, "\u062A\u062E\u0649•\u062A\u0645\u064A•\u062A\u0645\u0649•\u062C\u0645\u064A"),
    (0xFDA6, "\u062C\u062D\u0649•\u062C\u0645\u0649•\u0633\u062E\u0649•\u0635\u062D\u064A"),
    (0xFDAA, "\u0634\u062D\u064A•\u0636\u062D\u064A•\u0644\u062C\u064A•\u0644\u0645\u064A"),
    (0xFDAE, "\u064A\u062D\u064A•\u064A\u062C\u064A•\u064A\u0645\u064A•\u0645\u0645\u064A"),
    (0xFDB2, "\u0642\u0645\u064A•\u0646\u062D\u064A•\u0642\u0645\u062D•\u0644\u062D\u0645"),
    (0xFDB6, "\u0639\u0645\u064A•\u0643\u0645\u064A•\u0646\u062C\u062D•\u0645\u062E\u064A"),
    (0xFDBA, "\u0644\u062C\u0645•\u0643\u0645\u0645•\u0644\u062C\u0645•\u0646\u062C\u062D"),
    (0xFDBE, "\u062C\u062D\u064A•\u062D\u062C\u064A•\u0645\u062C\u064A•\u0641\u0645\u064A"),
    (0xFDC2, "\u0628\u062D\u064A•\u0643\u0645\u0645•\u0639\u062C\u0645•\u0635\u0645\u0645"),
    (0xFDC6, "\u0633\u062E\u064A•\u0646\u062C\u064A"),
    (0xFDF0, "\u0635\u0644\u06D2•\u0642\u0644\u06D2•\u0627\u0644\u0644\u0647"),
    (0xFDF3, "\u0627\u0643\u0628\u0631•\u0645\u062D\u0645\u062F•\u0635\u0644\u0639\u0645"),
    (0xFDF6, "\u0631\u0633\u0648\u0644•\u0639\u0644\u064A\u0647•\u0648\u0633\u0644\u0645"),
    (0xFDF9, "\u0635\u0644\u0649"),
    (0xFDFA, "\u0635\u0644\u0649 \u0627\u0644\u0644\u0647 \u0639\u0644\u064A\u0647 \u0648\u0633\u0644\u0645"),
    (0xFDFB, "\u062C\u0644 \u062C\u0644\u0627\u0644\u0647•\u0631\u06CC\u0627\u0644"),
    (0xFE10, ",•、••:•;•!•?•〖•〗"),
    (0xFE31, "—•–•_•_•(•)•\x7b•\x7d•〔•〕•【•】•《•》•〈•〉•「•」•『•』•••[•]• \u0305• \u0305• \u0305"),
    (0xFE4C, " \u0305•_•_•_•,•、•••;•:•?•!•—•(•)•\x7b•\x7d•〔•〕•#•&•*•+•-•<•>•=••\\•$•%•@"),
    (0xFE70, " \u064B•\u0640\u064B• \u064C•• \u064D•• \u064E•\u0640\u064E• \u064F"),
    (0xFE79, "\u0640\u064F• \u0650•\u0640\u0650• \u0651•\u0640\u0651• \u0652•\u0640\u0652"),
    (0xFE80, "\u0621•\u0622•\u0622•\u0623•\u0623•\u0624•\u0624•\u0625•\u0625•\u0626•\u0626"),
    (0xFE8B, "\u0626•\u0626•\u0627•\u0627•\u0628•\u0628•\u0628•\u0628•\u0629•\u0629•\u062A"),
    (0xFE96, "\u062A•\u062A•\u062A•\u062B•\u062B•\u062B•\u062B•\u062C•\u062C•\u062C•\u062C"),
    (0xFEA1, "\u062D•\u062D•\u062D•\u062D•\u062E•\u062E•\u062E•\u062E•\u062F•\u062F•\u0630"),
    (0xFEAC, "\u0630•\u0631•\u0631•\u0632•\u0632•\u0633•\u0633•\u0633•\u0633•\u0634•\u0634"),
    (0xFEB7, "\u0634•\u0634•\u0635•\u0635•\u0635•\u0635•\u0636•\u0636•\u0636•\u0636•\u0637"),
    (0xFEC2, "\u0637•\u0637•\u0637•\u0638•\u0638•\u0638•\u0638•\u0639•\u0639•\u0639•\u0639"),
    (0xFECD, "\u063A•\u063A•\u063A•\u063A•\u0641•\u0641•\u0641•\u0641•\u0642•\u0642•\u0642"),
    (0xFED8, "\u0642•\u0643•\u0643•\u0643•\u0643•\u0644•\u0644•\u0644•\u0644•\u0645•\u0645"),
    (0xFEE3, "\u0645•\u0645•\u0646•\u0646•\u0646•\u0646•\u0647•\u0647•\u0647•\u0647•\u0648"),
    (0xFEEE, "\u0648•\u0649•\u0649•\u064A•\u064A•\u064A•\u064A•\u0644\u0622•\u0644\u0622"),
    (0xFEF7, "\u0644\u0623•\u0644\u0623•\u0644\u0625•\u0644\u0625•\u0644\u0627•\u0644\u0627"),
    (0xFF01, "!•\"•#•$•%•&•'•(•)•*•+•,•-•.•/•0•1•2•3•4•5•6•7•8•9•:•;•<•=•>•?•@•a•b•c•d•e•f•g"),
    (0xFF28, "h•i•j•k•l•m•n•o•p•q•r•s•t•u•v•w•x•y•z•[•\\•]•^•_•`•a•b•c•d•e•f•g•h•i•j•k•l•m•n"),
    (0xFF4F, "o•p•q•r•s•t•u•v•w•x•y•z•\x7b•|•\x7d•~•⦅•⦆•.•「•」•、•・•ヲ•ァ•ィ•ゥ•ェ•ォ•ャ•ュ•ョ•ッ•ー•ア•イ•ウ"),
    (0xFF74, "エ•オ•カ•キ•ク•ケ•コ•サ•シ•ス•セ•ソ•タ•チ•ツ•テ•ト•ナ•ニ•ヌ•ネ•ノ•ハ•ヒ•フ•ヘ•ホ•マ•ミ•ム•メ•モ•ヤ•ユ•ヨ•ラ•リ•ル•レ•ロ"),
    (0xFF9C, "ワ•ン•\u3099•\u309A"),
    (0xFFA1, "ᄀ•ᄁ•ᆪ•ᄂ•ᆬ•ᆭ•ᄃ•ᄄ•ᄅ•ᆰ•ᆱ•ᆲ•ᆳ•ᆴ•ᆵ•ᄚ•ᄆ•ᄇ•ᄈ•ᄡ•ᄉ•ᄊ•ᄋ•ᄌ•ᄍ•ᄎ•ᄏ•ᄐ•ᄑ•ᄒ••••ᅡ•ᅢ•ᅣ•ᅤ•ᅥ•ᅦ•••ᅧ"),
    (0xFFCB, "ᅨ•ᅩ•ᅪ•ᅫ•ᅬ•••ᅭ•ᅮ•ᅯ•ᅰ•ᅱ•ᅲ•••ᅳ•ᅴ•ᅵ••••¢•£•¬• \u0304•¦•¥•₩••│•←•↑•→•↓•■•○"),
    (0x10781, "ː•ˑ•æ•ʙ•ɓ••ʣ•ꭦ•ʥ•ʤ•ɖ•ɗ•ᶑ•ɘ•ɞ•ʩ•ɤ•ɢ•ɠ•ʛ•ħ•ʜ•ɧ•ʄ•ʪ•ʫ•ɬ•𝼄•ꞎ•ɮ•𝼅•ʎ•𝼆•ø•ɶ•ɷ•q•ɺ•𝼈•ɽ"),
    (0x107A9, "ɾ•ʀ•ʨ•ʦ•ꭧ•ʧ•ʈ•ⱱ••ʏ•ʡ•ʢ•ʘ•ǀ•ǁ•ǂ•𝼊•𝼞"),
    (0x1CCD6, "a•b•c•d•e•f•g•h•i•j•k•l•m•n•o•p•q•r•s•t•u•v•w•x•y•z•0•1•2•3•4•5•6•7•8•9"),
    (0x1D15E, "𝅗𝅥•𝅘𝅥•𝅘𝅥𝅮•𝅘𝅥𝅯•𝅘𝅥𝅰•𝅘𝅥𝅱•𝅘𝅥𝅲"), (0x1D1BB, "𝆹𝅥•𝆺𝅥•𝆹𝅥𝅮•𝆺𝅥𝅮•𝆹𝅥𝅯•𝆺𝅥𝅯"),
    (0x1D400, "a•b•c•d•e•f•g•h•i•j•k•l•m•n•o•p•q•r•s•t•u•v•w•x•y•z•a•b•c•d•e•f•g•h•i•j•k•l•m•n"),
    (0x1D428, "o•p•q•r•s•t•u•v•w•x•y•z•a•b•c•d•e•f•g•h•i•j•k•l•m•n•o•p•q•r•s•t•u•v•w•x•y•z•a•b"),
    (0x1D450, "c•d•e•f•g••i•j•k•l•m•n•o•p•q•r•s•t•u•v•w•x•y•z•a•b•c•d•e•f•g•h•i•j•k•l•m•n•o•p"),
    (0x1D478, "q•r•s•t•u•v•w•x•y•z•a•b•c•d•e•f•g•h•i•j•k•l•m•n•o•p•q•r•s•t•u•v•w•x•y•z•a••c•d•"),
    (0x1D4A1, "•g•••j•k•••n•o•p•q••s•t•u•v•w•x•y•z•a•b•c•d••f••h•i•j•k•l•m•n••p•q•r•s•t•u•v•w"),
    (0x1D4CD, "x•y•z•a•b•c•d•e•f•g•h•i•j•k•l•m•n•o•p•q•r•s•t•u•v•w•x•y•z•a•b•c•d•e•f•g•h•i•j•k"),
    (0x1D4F5, "l•m•n•o•p•q•r•s•t•u•v•w•x•y•z•a•b••d•e•f•g•••j•k•l•m•n•o•p•q••s•t•u•v•w•x•y••a"),
    (0x1D51F, "b•c•d•e•f•g•h•i•j•k•l•m•n•o•p•q•r•s•t•u•v•w•x•y•z•a•b••d•e•f•g••i•j•k•l•m••o•••"),
    (0x1D54A, "s•t•u•v•w•x•y••a•b•c•d•e•f•g•h•i•j•k•l•m•n•o•p•q•r•s•t•u•v•w•x•y•z•a•b•c•d•e•f"),
    (0x1D572, "g•h•i•j•k•l•m•n•o•p•q•r•s•t•u•v•w•x•y•z•a•b•c•d•e•f•g•h•i•j•k•l•m•n•o•p•q•r•s•t"),
    (0x1D59A, "u•v•w•x•y•z•a•b•c•d•e•f•g•h•i•j•k•l•m•n•o•p•q•r•s•t•u•v•w•x•y•z•a•b•c•d•e•f•g•h"),
    (0x1D5C2, "i•j•k•l•m•n•o•p•q•r•s•t•u•v•w•x•y•z•a•b•c•d•e•f•g•h•i•j•k•l•m•n•o•p•q•r•s•t•u•v"),
    (0x1D5EA, "w•x•y•z•a•b•c•d•e•f•g•h•i•j•k•l•m•n•o•p•q•r•s•t•u•v•w•x•y•z•a•b•c•d•e•f•g•h•i•j"),
    (0x1D612, "k•l•m•n•o•p•q•r•s•t•u•v•w•x•y•z•a•b•c•d•e•f•g•h•i•j•k•l•m•n•o•p•q•r•s•t•u•v•w•x"),
    (0x1D63A, "y•z•a•b•c•d•e•f•g•h•i•j•k•l•m•n•o•p•q•r•s•t•u•v•w•x•y•z•a•b•c•d•e•f•g•h•i•j•k•l"),
    (0x1D662, "m•n•o•p•q•r•s•t•u•v•w•x•y•z•a•b•c•d•e•f•g•h•i•j•k•l•m•n•o•p•q•r•s•t•u•v•w•x•y•z"),
    (0x1D68A, "a•b•c•d•e•f•g•h•i•j•k•l•m•n•o•p•q•r•s•t•u•v•w•x•y•z•ı•ȷ•••α•β•γ•δ•ε•ζ•η•θ•ι•κ•λ"),
    (0x1D6B3, "μ•ν•ξ•ο•π•ρ•θ•σ•τ•υ•φ•χ•ψ•ω•∇•α•β•γ•δ•ε•ζ•η•θ•ι•κ•λ•μ•ν•ξ•ο•π•ρ•σ•σ•τ•υ•φ•χ•ψ•ω"),
    (0x1D6DB, "∂•ε•θ•κ•φ•ρ•π•α•β•γ•δ•ε•ζ•η•θ•ι•κ•λ•μ•ν•ξ•ο•π•ρ•θ•σ•τ•υ•φ•χ•ψ•ω•∇•α•β•γ•δ•ε•ζ•η"),
    (0x1D703, "θ•ι•κ•λ•μ•ν•ξ•ο•π•ρ•σ•σ•τ•υ•φ•χ•ψ•ω•∂•ε•θ•κ•φ•ρ•π•α•β•γ•δ•ε•ζ•η•θ•ι•κ•λ•μ•ν•ξ•ο"),
    (0x1D72B, "π•ρ•θ•σ•τ•υ•φ•χ•ψ•ω•∇•α•β•γ•δ•ε•ζ•η•θ•ι•κ•λ•μ•ν•ξ•ο•π•ρ•σ•σ•τ•υ•φ•χ•ψ•ω•∂•ε•θ•κ"),
    (0x1D753, "φ•ρ•π•α•β•γ•δ•ε•ζ•η•θ•ι•κ•λ•μ•ν•ξ•ο•π•ρ•θ•σ•τ•υ•φ•χ•ψ•ω•∇•α•β•γ•δ•ε•ζ•η•θ•ι•κ•λ"),
    (0x1D77B, "μ•ν•ξ•ο•π•ρ•σ•σ•τ•υ•φ•χ•ψ•ω•∂•ε•θ•κ•φ•ρ•π•α•β•γ•δ•ε•ζ•η•θ•ι•κ•λ•μ•ν•ξ•ο•π•ρ•θ•σ"),
    (0x1D7A3, "τ•υ•φ•χ•ψ•ω•∇•α•β•γ•δ•ε•ζ•η•θ•ι•κ•λ•μ•ν•ξ•ο•π•ρ•σ•σ•τ•υ•φ•χ•ψ•ω•∂•ε•θ•κ•φ•ρ•π•ϝ"),
    (0x1D7CB, "ϝ•••0•1•2•3•4•5•6•7•8•9•0•1•2•3•4•5•6•7•8•9•0•1•2•3•4•5•6•7•8•9•0•1•2•3•4•5•6•7"),
    (0x1D7F4, "8•9•0•1•2•3•4•5•6•7•8•9"),
    (0x1E030, "а•б•в•г•д•е•ж•з•и•к•л•м•о•п•р•с•т•у•ф•х•ц•ч•ш•ы•э•ю•ꚉ•ә•і•ј•ө•ү•ӏ•а•б•в•г•д•е•ж"),
    (0x1E058, "з•и•к•л•о•п•с•у•ф•х•ц•ч•ш•ъ•ы•ґ•і•ѕ•џ•ҫ•ꙑ•ұ"),
    (0x1EE00, "\u0627•\u0628•\u062C•\u062F••\u0648•\u0632•\u062D•\u0637•\u064A•\u0643•\u0644"),
    (0x1EE0C, "\u0645•\u0646•\u0633•\u0639•\u0641•\u0635•\u0642•\u0631•\u0634•\u062A•\u062B"),
    (0x1EE17, "\u062E•\u0630•\u0636•\u0638•\u063A•\u066E•\u06BA•\u06A1•\u066F••\u0628•\u062C•"),
    (0x1EE24, "\u0647•••\u062D••\u064A•\u0643•\u0644•\u0645•\u0646•\u0633•\u0639•\u0641•\u0635"),
    (0x1EE32, "\u0642••\u0634•\u062A•\u062B•\u062E••\u0636••\u063A"), (0x1EE42, "\u062C"),
    (0x1EE47, "\u062D••\u064A••\u0644••\u0646•\u0633•\u0639••\u0635•\u0642••\u0634•••\u062E•"),
    (0x1EE59, "\u0636••\u063A••\u06BA••\u066F••\u0628•\u062C••\u0647•••\u062D•\u0637•\u064A"),
    (0x1EE6A, "\u0643••\u0645•\u0646•\u0633•\u0639•\u0641•\u0635•\u0642••\u0634•\u062A•\u062B"),
    (0x1EE77, "\u062E••\u0636•\u0638•\u063A•\u066E••\u06A1••\u0627•\u0628•\u062C•\u062F•\u0647"),
    (0x1EE85, "\u0648•\u0632•\u062D•\u0637•\u064A••\u0644•\u0645•\u0646•\u0633•\u0639•\u0641"),
    (0x1EE91, "\u0635•\u0642•\u0631•\u0634•\u062A•\u062B•\u062E•\u0630•\u0636•\u0638•\u063A"),
    (0x1EEA1, "\u0628•\u062C•\u062F••\u0648•\u0632•\u062D•\u0637•\u064A••\u0644•\u0645•\u0646"),
    (0x1EEAE, "\u0633•\u0639•\u0641•\u0635•\u0642•\u0631•\u0634•\u062A•\u062B•\u062E•\u0630"),
    (0x1EEB9, "\u0636•\u0638•\u063A"), (0x1F101, "0,•1,•2,•3,•4,•5,•6,•7,•8,•9,"),
    (0x1F110, "(a)•(b)•(c)•(d)•(e)•(f)•(g)•(h)•(i)•(j)•(k)•(l)•(m)•(n)•(o)•(p)•(q)•(r)•(s)•(t)"),
    (0x1F124, "(u)•(v)•(w)•(x)•(y)•(z)•〔s〕•c•r•cd•wz••a•b•c•d•e•f•g•h•i•j•k•l•m•n•o•p•q•r•s•t"),
    (0x1F144, "u•v•w•x•y•z•hv•mv•sd•ss•ppv•wc"), (0x1F16A, "mc•md•mr"), (0x1F190, "dj"),
    (0x1F200, "ほか•ココ•サ"),
    (0x1F210, "手•字•双•デ•二•多•解•天•交•映•無•料•前•後•再•新•初•終•生•販•声•吹•演•投•捕•一•三•遊•左•中•右•指•走•打•禁•空•合•満•有•月"),
    (0x1F238, "申•割•営•配"), (0x1F240, "〔本〕•〔三〕•〔二〕•〔安〕•〔点〕•〔打〕•〔盗〕•〔勝〕•〔敗〕"), (0x1F250, "得•可"),
    (0x1FBF0, "0•1•2•3•4•5•6•7•8•9"),
    (0x2F800, "丽•丸•乁•𠄢•你•侮•侻•倂•偺•備•僧•像•㒞•𠘺•免•兔•兤•具•𠔜•㒹•內•再•𠕋•冗•冤•仌•冬•况•𩇟•凵•刃•㓟•刻•剆•割•剷•㔕•勇•勉•勤"),
    (0x2F828, "勺•包•匆•北•卉•卑•博•即•卽•卿•卿•卿•𠨬•灰•及•叟•𠭣•叫•叱•吆•咞•吸•呈•周•咢•哶•唐•啓•啣•善•善•喙•喫•喳•嗂•圖•嘆•圗•噑•噴"),
    (0x2F850, "切•壮•城•埴•堍•型•堲•報•墬•𡓤•売•壷•夆•多•夢•奢•𡚨•𡛪•姬•娛•娧•姘•婦•㛮•㛼•嬈•嬾•嬾•𡧈•寃•寘•寧•寳•𡬘•寿•将•当•尢•㞁•屠"),
    (0x2F878, "屮•峀•岍•𡷤•嵃•𡷦•嵮•嵫•嵼•巡•巢•㠯•巽•帨•帽•幩•㡢•𢆃•㡼•庰•庳•庶•廊•𪎒•廾•𢌱•𢌱•舁•弢•弢•㣇•𣊸•𦇚•形•彫•㣣•徚•忍•志•忹"),
    (0x2F8A0, "悁•㤺•㤜•悔•𢛔•惇•慈•慌•慎•慌•慺•憎•憲•憤•憯•懞•懲•懶•成•戛•扝•抱•拔•捐•𢬌•挽•拼•捨•掃•揤•𢯱•搢•揅•掩•㨮•摩•摾•撝•摷•㩬"),
    (0x2F8C8, "敏•敬•𣀊•旣•書•晉•㬙•暑•㬈•㫤•冒•冕•最•暜•肭•䏙•朗•望•朡•杞•杓•𣏃•㭉•柺•枅•桒•梅•𣑭•梎•栟•椔•㮝•楂•榣•槪•檨•𣚣•櫛•㰘•次"),
    (0x2F8F0, "𣢧•歔•㱎•歲•殟•殺•殻•𣪍•𡴋•𣫺•汎•𣲼•沿•泍•汧•洖•派•海•流•浩•浸•涅•𣴞•洴•港•湮•㴳•滋•滇•𣻑•淹•潮•𣽞•𣾎•濆•瀹•瀞•瀛•㶖•灊"),
    (0x2F918, "災•灷•炭•𠔥•煅•𤉣•熜•𤎫•爨•爵•牐•𤘈•犀•犕•𤜵•𤠔•獺•王•㺬•玥•㺸•㺸•瑇•瑜•瑱•璅•瓊•㼛•甤•𤰶•甾•𤲒•異•𢆟•瘐•𤾡•𤾸•𥁄•㿼•䀈"),
    (0x2F940, "直•𥃳•𥃲•𥄙•𥄳•眞•真•真•睊•䀹•瞋•䁆•䂖•𥐝•硎•碌•磌•䃣•𥘦•祖•𥚚•𥛅•福•秫•䄯•穀•穊•穏•𥥼•𥪧•𥪧•竮•䈂•𥮫•篆•築•䈧•𥲀•糒•䊠"),
    (0x2F968, "糨•糣•紀•𥾆•絣•䌁•緇•縂•繅•䌴•𦈨•𦉇•䍙•𦋙•罺•𦌾•羕•翺•者•𦓚•𦔣•聠•𦖨•聰•𣍟•䏕•育•脃•䐋•脾•媵•𦞧•𦞵•𣎓•𣎜•舁•舄•辞•䑫•芑"),
    (0x2F990, "芋•芝•劳•花•芳•芽•苦•𦬼•若•茝•荣•莭•茣•莽•菧•著•荓•菊•菌•菜•𦰶•𦵫•𦳕•䔫•蓱•蓳•蔖•𧏊•蕤•𦼬•䕝•䕡•𦾱•𧃒•䕫•虐•虜•虧•虩•蚩"),
    (0x2F9B8, "蚈•蜎•蛢•蝹•蜨•蝫•螆•䗗•蟡•蠁•䗹•衠•衣•𧙧•裗•裞•䘵•裺•㒻•𧢮•𧥦•䚾•䛇•誠•諭•變•豕•𧲨•貫•賁•贛•起•𧼯•𠠄•跋•趼•跰•𠣞•軔•輸"),
    (0x2F9E0, "𨗒•𨗭•邔•郱•鄑•𨜮•鄛•鈸•鋗•鋘•鉼•鏹•鐕•𨯺•開•䦕•閷•𨵷•䧦•雃•嶲•霣•𩅅•𩈚•䩮•䩶•韠•𩐊•䪲•𩒖•頋•頋•頩•𩖶•飢•䬳•餩•馧•駂•駾"),
    (0x2FA08, "䯎•𩬰•鬒•鱀•鳽•䳎•䳭•鵧•𪃎•䳸•𪄅•𪈎•𪊑•麻•䵖•黹•黾•鼅•鼏•鼖•鼻•𪘀")]

/-- Characters that leave no trace. -/
def traceless : CodeRanges :=
  [(0x00AD, 0x00AD), (0x034F, 0x034F), (0x115F, 0x1160), (0x17B4, 0x17B5), (0x180B, 0x180F),
    (0x200B, 0x200B), (0x2060, 0x2064), (0x206A, 0x206F), (0x3164, 0x3164), (0xFE00, 0xFE0F),
    (0xFEFF, 0xFEFF), (0xFFA0, 0xFFA0), (0x1BCA0, 0x1BCA3), (0x1D173, 0x1D17A), (0xE0100, 0xE01EF)]

/-- Capitals whose small forms are mapped to them. -/
def kept : CodeRanges := [(0x13A0, 0x13F5)]

/-- Printable characters that have no place in a name. -/
def misplaced : CodeRanges :=
  [(0x2024, 0x2026), (0x2488, 0x249B), (0x2FF0, 0x2FFF), (0x31EF, 0x31EF), (0x33C2, 0x33C2),
    (0x33C7, 0x33C7), (0x33D8, 0x33D8), (0xFE12, 0xFE12), (0xFE19, 0xFE19), (0xFE30, 0xFE30),
    (0xFE52, 0xFE52), (0xFFFC, 0xFFFD), (0x1F100, 0x1F100)]

/-! ## The mapping -/

def image? (c : Char) : Option (List Char) :=
  imageRows.findSome? fun (first, images) =>
    if first ≤ c.toNat ∧ c.toNat ≤ first + images.length then
      (parts '•' images.toList)[c.toNat - first]?.filter (· ≠ [])
    else none

/-- Characters that no name holds, among those without an image. -/
def isExcluded (c : Char) : Bool :=
  misplaced.contains c || (unprintables.contains c && c ≠ '\u200C' && c ≠ '\u200D')

def mapChar? (c : Char) : Option (List Char) :=
  if Punycode.isAscii c then some [c.toLower]
  else if traceless.contains c then some []
  else
    match image? c with
    | some image => some image
    | none =>
      if isExcluded c then none
      else if kept.contains c then some [c]
      else some (lowerChar c)

end NodeBootstrap.Url.Domain
