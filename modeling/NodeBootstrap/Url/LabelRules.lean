import NodeBootstrap.Text.Composition
import NodeBootstrap.Text.Printable

/-! # Rules for labels

What the labels of a name have to keep to: none starts with a mark, a joiner stands only where it
shows, and in a name with letters from right to left each label has one direction. The tables are
about the characters that names may hold. -/

namespace NodeBootstrap.Url.Domain

open Text

/-! ## Marks -/

/-- Marks that take up space, and some that go with them. -/
def spacingMarks : CodeRanges :=
  [(0x0903, 0x0903), (0x093B, 0x093B), (0x093E, 0x0940), (0x0949, 0x094C), (0x094E, 0x094F),
    (0x0982, 0x0983), (0x09BE, 0x09C0), (0x09C7, 0x09CC), (0x09D7, 0x09D7), (0x0A03, 0x0A03),
    (0x0A3E, 0x0A40), (0x0A83, 0x0A83), (0x0ABE, 0x0AC0), (0x0AC9, 0x0ACC), (0x0B02, 0x0B03),
    (0x0B3E, 0x0B3E), (0x0B40, 0x0B40), (0x0B47, 0x0B4C), (0x0B57, 0x0B57), (0x0BBE, 0x0BBF),
    (0x0BC1, 0x0BCC), (0x0BD7, 0x0BD7), (0x0C01, 0x0C03), (0x0C41, 0x0C44), (0x0C82, 0x0C83),
    (0x0CBE, 0x0CCB), (0x0CD5, 0x0CD6), (0x0CF3, 0x0CF3), (0x0D02, 0x0D03), (0x0D3E, 0x0D40),
    (0x0D46, 0x0D4C), (0x0D57, 0x0D57), (0x0D82, 0x0D83), (0x0DCF, 0x0DD1), (0x0DD8, 0x0DDF),
    (0x0DF2, 0x0DF3), (0x0F3E, 0x0F3F), (0x0F7F, 0x0F7F), (0x102B, 0x102C), (0x1031, 0x1031),
    (0x1038, 0x1038), (0x103B, 0x103C), (0x1056, 0x1057), (0x1062, 0x1064), (0x1067, 0x106D),
    (0x1083, 0x1084), (0x1087, 0x108C), (0x108F, 0x108F), (0x109A, 0x109C), (0x1715, 0x1715),
    (0x1734, 0x1734), (0x17B6, 0x17B6), (0x17BE, 0x17C5), (0x17C7, 0x17C8), (0x1923, 0x1926),
    (0x1929, 0x1931), (0x1933, 0x1938), (0x1A19, 0x1A1A), (0x1A55, 0x1A55), (0x1A57, 0x1A57),
    (0x1A61, 0x1A61), (0x1A63, 0x1A64), (0x1A6D, 0x1A72), (0x1B04, 0x1B04), (0x1B35, 0x1B35),
    (0x1B3B, 0x1B3B), (0x1B3D, 0x1B41), (0x1B43, 0x1B44), (0x1B82, 0x1B82), (0x1BA1, 0x1BA1),
    (0x1BA6, 0x1BA7), (0x1BAA, 0x1BAA), (0x1BE7, 0x1BE7), (0x1BEA, 0x1BEC), (0x1BEE, 0x1BEE),
    (0x1BF2, 0x1BF3), (0x1C24, 0x1C2B), (0x1C34, 0x1C35), (0x1CE1, 0x1CE1), (0x1CF7, 0x1CF7),
    (0x302E, 0x302F), (0xA823, 0xA824), (0xA827, 0xA827), (0xA880, 0xA881), (0xA8B4, 0xA8C3),
    (0xA952, 0xA953), (0xA983, 0xA983), (0xA9B4, 0xA9B5), (0xA9BA, 0xA9BB), (0xA9BE, 0xA9C0),
    (0xAA2F, 0xAA30), (0xAA33, 0xAA34), (0xAA4D, 0xAA4D), (0xAA7B, 0xAA7B), (0xAA7D, 0xAA7D),
    (0xAAEB, 0xAAEB), (0xAAEE, 0xAAEF), (0xAAF5, 0xAAF5), (0xABE3, 0xABE4), (0xABE6, 0xABE7),
    (0xABE9, 0xABEA), (0xABEC, 0xABEC), (0x11000, 0x11000), (0x11002, 0x11002), (0x11082, 0x11082),
    (0x110B0, 0x110B2), (0x110B7, 0x110B8), (0x1112C, 0x1112C), (0x11145, 0x11146),
    (0x11182, 0x11182), (0x111B3, 0x111B5), (0x111BF, 0x111C0), (0x111CE, 0x111CE),
    (0x1122C, 0x1122E), (0x11232, 0x11233), (0x11235, 0x11235), (0x112E0, 0x112E2),
    (0x11302, 0x11303), (0x1133E, 0x1133F), (0x11341, 0x1134D), (0x11357, 0x11357),
    (0x11362, 0x11363), (0x113B8, 0x113BA), (0x113C2, 0x113CD), (0x113CF, 0x113CF),
    (0x11435, 0x11437), (0x11440, 0x11441), (0x11445, 0x11445), (0x114B0, 0x114B2),
    (0x114B9, 0x114B9), (0x114BB, 0x114BE), (0x114C1, 0x114C1), (0x115AF, 0x115B1),
    (0x115B8, 0x115BB), (0x115BE, 0x115BE), (0x11630, 0x11632), (0x1163B, 0x1163C),
    (0x1163E, 0x1163E), (0x116AC, 0x116AC), (0x116AE, 0x116AF), (0x116B6, 0x116B6),
    (0x1171E, 0x1171E), (0x11720, 0x11721), (0x11726, 0x11726), (0x1182C, 0x1182E),
    (0x11838, 0x11838), (0x11930, 0x11938), (0x1193D, 0x1193D), (0x11940, 0x11940),
    (0x11942, 0x11942), (0x119D1, 0x119D3), (0x119DC, 0x119DF), (0x119E4, 0x119E4),
    (0x11A07, 0x11A08), (0x11A39, 0x11A39), (0x11A57, 0x11A58), (0x11A97, 0x11A97),
    (0x11B61, 0x11B61), (0x11B65, 0x11B65), (0x11B67, 0x11B67), (0x11C2F, 0x11C2F),
    (0x11C3E, 0x11C3F), (0x11CA9, 0x11CA9), (0x11CB1, 0x11CB1), (0x11CB4, 0x11CB4),
    (0x11D8A, 0x11D8E), (0x11D93, 0x11D94), (0x11D96, 0x11D96), (0x11EF5, 0x11EF6),
    (0x11F03, 0x11F03), (0x11F34, 0x11F35), (0x11F3E, 0x11F3F), (0x11F41, 0x11F41),
    (0x1612A, 0x1612C), (0x16F51, 0x16F87), (0x16FF0, 0x16FF1), (0x1D165, 0x1D166),
    (0x1D16D, 0x1D172)]

def isJoiner (c : Char) : Bool := c = '\u200C' || c = '\u200D'

def isNonspacing (c : Char) : Bool :=
  graphemeExtenders.contains c && ! spacingMarks.contains c && ! isJoiner c

def isMark (c : Char) : Bool := spacingMarks.contains c || isNonspacing c

/-! ## Joiners -/

/-- Letters that join on both sides. -/
def dualJoining : CodeRanges :=
  [(0x0620, 0x0620), (0x0626, 0x0626), (0x0628, 0x0628), (0x062A, 0x062E), (0x0633, 0x063F),
    (0x0641, 0x0647), (0x0649, 0x064A), (0x066E, 0x066F), (0x0679, 0x0687), (0x069A, 0x06BF),
    (0x06C1, 0x06C2), (0x06CC, 0x06CC), (0x06CE, 0x06CE), (0x06D0, 0x06D1), (0x06FA, 0x06FC),
    (0x06FF, 0x06FF), (0x0712, 0x0714), (0x071A, 0x071D), (0x071F, 0x0727), (0x0729, 0x0729),
    (0x072B, 0x072B), (0x072D, 0x072E), (0x074E, 0x0758), (0x075C, 0x076A), (0x076D, 0x0770),
    (0x0772, 0x0772), (0x0775, 0x0777), (0x077A, 0x077F), (0x07CA, 0x07EA), (0x0841, 0x0845),
    (0x0848, 0x0848), (0x084A, 0x0853), (0x0855, 0x0855), (0x0860, 0x0860), (0x0862, 0x0865),
    (0x0868, 0x0868), (0x0886, 0x0886), (0x0889, 0x088D), (0x08A0, 0x08A9), (0x08AF, 0x08B0),
    (0x08B3, 0x08B8), (0x08BA, 0x08C8), (0x1807, 0x1807), (0x1820, 0x1878), (0x1887, 0x18AA),
    (0xA840, 0xA871), (0x10AC0, 0x10AC4), (0x10AD3, 0x10AD6), (0x10AD8, 0x10ADC),
    (0x10ADE, 0x10AE0), (0x10AEB, 0x10AEE), (0x10B80, 0x10B80), (0x10B82, 0x10B82),
    (0x10B86, 0x10B88), (0x10B8A, 0x10B8B), (0x10B8D, 0x10B8D), (0x10B90, 0x10B90),
    (0x10BAD, 0x10BAE), (0x10D01, 0x10D21), (0x10D23, 0x10D23), (0x10F30, 0x10F32),
    (0x10F34, 0x10F44), (0x10F51, 0x10F53), (0x10F70, 0x10F73), (0x10F76, 0x10F81),
    (0x10FB0, 0x10FB0), (0x10FB2, 0x10FB3), (0x10FB8, 0x10FB8), (0x10FBB, 0x10FBC),
    (0x10FBE, 0x10FBF), (0x10FC1, 0x10FC1), (0x10FC4, 0x10FC4), (0x10FCA, 0x10FCA),
    (0x1E922, 0x1E943)]

def rightJoining : CodeRanges :=
  [(0x0622, 0x0625), (0x0627, 0x0627), (0x0629, 0x0629), (0x062F, 0x0632), (0x0648, 0x0648),
    (0x0671, 0x0673), (0x0688, 0x0699), (0x06C0, 0x06C0), (0x06C3, 0x06CB), (0x06CD, 0x06CD),
    (0x06CF, 0x06CF), (0x06D2, 0x06D3), (0x06D5, 0x06D5), (0x06EE, 0x06EF), (0x0710, 0x0710),
    (0x0715, 0x0719), (0x071E, 0x071E), (0x0728, 0x0728), (0x072A, 0x072A), (0x072C, 0x072C),
    (0x072F, 0x074D), (0x0759, 0x075B), (0x076B, 0x076C), (0x0771, 0x0771), (0x0773, 0x0774),
    (0x0778, 0x0779), (0x0840, 0x0840), (0x0846, 0x0847), (0x0849, 0x0849), (0x0854, 0x0854),
    (0x0856, 0x0858), (0x0867, 0x0867), (0x0869, 0x0882), (0x088E, 0x088E), (0x08AA, 0x08AC),
    (0x08AE, 0x08AE), (0x08B1, 0x08B2), (0x08B9, 0x08B9), (0x10AC5, 0x10AC5), (0x10AC7, 0x10AC7),
    (0x10AC9, 0x10ACA), (0x10ACE, 0x10AD2), (0x10ADD, 0x10ADD), (0x10AE1, 0x10AE1),
    (0x10AE4, 0x10AE4), (0x10AEF, 0x10AEF), (0x10B81, 0x10B81), (0x10B83, 0x10B85),
    (0x10B89, 0x10B89), (0x10B8C, 0x10B8C), (0x10B8E, 0x10B8F), (0x10B91, 0x10B91),
    (0x10BA9, 0x10BAC), (0x10D22, 0x10D22), (0x10F33, 0x10F33), (0x10F54, 0x10F54),
    (0x10F74, 0x10F75), (0x10FB4, 0x10FB6), (0x10FB9, 0x10FBA), (0x10FBD, 0x10FBD),
    (0x10FC2, 0x10FC3), (0x10FC9, 0x10FC9)]

def leftJoining : CodeRanges :=
  [(0xA872, 0xA872), (0x10ACD, 0x10ACD), (0x10AD7, 0x10AD7), (0x10D00, 0x10D00), (0x10FCB, 0x10FCB)]

/-- Further characters that joining passes over, besides the marks that take up no space. -/
def passedOver : CodeRanges :=
  [(0x0CBF, 0x0CBF), (0x0CC6, 0x0CC6), (0x11A07, 0x11A08), (0x11C3F, 0x11C3F), (0x1E94B, 0x1E94B)]

def isPassedOver (c : Char) : Bool := passedOver.contains c || isNonspacing c

/-- Whether the first character that is not passed over joins on the side. -/
def meetsJoining (side : CodeRanges) (s : List Char) : Bool :=
  (s.dropWhile isPassedOver).head?.any fun c => dualJoining.contains c || side.contains c

def virama : Nat := 9

/-- A joiner stands after a virama. The one that parts letters also stands between letters that would
join; the text before is reversed. -/
def joinsWell (before : List Char) (c : Char) (after : List Char) : Bool :=
  before.head?.any (combiningClass · = virama) ||
    c = '\u200C' && meetsJoining leftJoining before && meetsJoining rightJoining after

/-- Whether all joiners of a text stand well, after the reversed text `before`. -/
def joinersFit (before : List Char) : List Char → Bool
  | [] => true
  | c :: after => (! isJoiner c || joinsWell before c after) && joinersFit (c :: before) after

/-! ## Directions -/

inductive Direction where
  | left
  | right
  | arabicLetter
  | arabicNumber
  | number
  | numberSign
  | separator
  | terminator
  | neutral
  | nonspacing
  | boundary
  deriving DecidableEq, Repr

/-- All other characters go from left to right. -/
def directions : List (Direction × CodeRanges) :=
  [(.right, [(0x05BE, 0x05F4), (0x07C0, 0x07F5), (0x07FA, 0x085E), (0x10800, 0x1091B),
        (0x10920, 0x10B35), (0x10B40, 0x10CFF), (0x10D40, 0x10D85), (0x10E80, 0x10EB1),
        (0x10F00, 0x10F27), (0x10F70, 0x10FF6), (0x1E800, 0x1E95F)]),
    (.arabicLetter, [(0x0608, 0x0608), (0x060B, 0x060B), (0x060D, 0x060D), (0x061B, 0x064A),
        (0x066D, 0x06D5), (0x06E5, 0x06E6), (0x06EE, 0x06EF), (0x06FA, 0x07B1), (0x0860, 0x08C9),
        (0xFBB2, 0xFBC2), (0xFE73, 0xFE73), (0x10D00, 0x10D23), (0x10EC2, 0x10ED0),
        (0x10F30, 0x10F59), (0x1EC71, 0x1ED3D)]),
    (.arabicNumber, [(0x0660, 0x0669), (0x066B, 0x066C), (0x10D30, 0x10D39), (0x10E60, 0x10E7E)]),
    (.number, [(0x0030, 0x0039), (0x06F0, 0x06F9), (0x102E1, 0x102FB)]),
    (.numberSign, [(0x002B, 0x002B), (0x002D, 0x002D), (0x2212, 0x2212)]),
    (.separator, [(0x002C, 0x002C), (0x002E, 0x002F), (0x003A, 0x003A), (0x060C, 0x060C),
        (0x2044, 0x2044)]),
    (.terminator, [(0x0023, 0x0025), (0x00A2, 0x00A5), (0x00B0, 0x00B1), (0x058F, 0x058F),
        (0x0609, 0x060A), (0x066A, 0x066A), (0x09F2, 0x09F3), (0x09FB, 0x09FB), (0x0AF1, 0x0AF1),
        (0x0BF9, 0x0BF9), (0x0E3F, 0x0E3F), (0x17DB, 0x17DB), (0x2030, 0x2032), (0x20A0, 0x20C1),
        (0x212E, 0x212E), (0x2213, 0x2213), (0xA838, 0xA839), (0x11FDD, 0x11FE0),
        (0x1E2FF, 0x1E2FF)]),
    (.neutral, [(0x0021, 0x0022), (0x0026, 0x002A), (0x003B, 0x0040), (0x005B, 0x0060),
        (0x007B, 0x007E), (0x00A1, 0x00A1), (0x00A6, 0x00AE), (0x00B6, 0x00D7), (0x00F7, 0x00F7),
        (0x02B9, 0x02BA), (0x02C2, 0x02CF), (0x02D2, 0x02ED), (0x02EF, 0x02FF), (0x0375, 0x0375),
        (0x03F6, 0x03F6), (0x058A, 0x058E), (0x0606, 0x0607), (0x060E, 0x060F), (0x06DE, 0x06DE),
        (0x06E9, 0x06E9), (0x07F6, 0x07F9), (0x0BF3, 0x0BF8), (0x0BFA, 0x0BFA), (0x0C78, 0x0C7E),
        (0x0F3A, 0x0F3D), (0x1390, 0x1399), (0x1400, 0x1400), (0x169B, 0x169C), (0x17F0, 0x180A),
        (0x1940, 0x1945), (0x19DE, 0x19FF), (0x2010, 0x2027), (0x2035, 0x2043), (0x2045, 0x205E),
        (0x2104, 0x2129), (0x213A, 0x214D), (0x218A, 0x2211), (0x2214, 0x2335), (0x237B, 0x2394),
        (0x2396, 0x26AB), (0x26AD, 0x27FF), (0x2900, 0x2BFF), (0x2CE5, 0x2CEA), (0x2CF9, 0x2CFF),
        (0x2E00, 0x3004), (0x3008, 0x3020), (0x3030, 0x3030), (0x3037, 0x3037), (0x303D, 0x303F),
        (0x30A0, 0x30A0), (0x30FB, 0x30FB), (0x31C0, 0x31E5), (0x4DC0, 0x4DFF), (0xA490, 0xA4C6),
        (0xA60D, 0xA60F), (0xA673, 0xA67F), (0xA700, 0xA721), (0xA788, 0xA788), (0xA828, 0xA82B),
        (0xA874, 0xA877), (0xAB6A, 0xAB6B), (0xFBC3, 0xFE46), (0x10101, 0x10101),
        (0x10140, 0x1018C), (0x10190, 0x101A0), (0x1091F, 0x1091F), (0x10B39, 0x10B3F),
        (0x10D8E, 0x10D8F), (0x10ED1, 0x10ED8), (0x11052, 0x11065), (0x11660, 0x1166C),
        (0x11FD5, 0x11FDC), (0x11FE1, 0x11FF1), (0x16FE2, 0x16FE2), (0x1CC00, 0x1CEF0),
        (0x1D1E9, 0x1D245), (0x1D300, 0x1D356), (0x1EEF0, 0x1F12F), (0x1F16D, 0x1F16F),
        (0x1F1AD, 0x1F1AD), (0x1F260, 0x1FBFA)])]

def direction (c : Char) : Direction :=
  if isJoiner c then .boundary
  else if isNonspacing c then .nonspacing
  else ((directions.find? fun d => d.2.contains c).map Prod.fst).getD .left

namespace Direction

/-- A name with such a character is written from right to left. -/
def turns (d : Direction) : Bool := d ∈ [right, arabicLetter, arabicNumber]

/-- What any label may hold, whatever its direction. -/
def isWeak (d : Direction) : Bool :=
  d ∈ [number, numberSign, separator, terminator, neutral, nonspacing, boundary]

/-- The directions of a label fit each other. -/
def fit (label : List Direction) : Bool :=
  let ending := (label.reverse.dropWhile (· = nonspacing)).head?
  match label.head? with
  | none => true
  | some left => label.all (fun d => d = left || d.isWeak) && ending.any (· ∈ [left, number])
  | some right | some arabicLetter =>
    label.all (fun d => d.turns || d.isWeak) &&
      ending.any (fun d => d.turns || d = number) &&
      ! (label.contains number && label.contains arabicNumber)
  | some _ => false

end Direction

end NodeBootstrap.Url.Domain
