import CloneScan.Unicode.Property
import CloneScan.Unicode.Script

/-!
# Breaks between Characters

Where a text may be parted into what a reader takes for one character, into words and into
sentences goes by three properties, with a value for each part that a character can play there.
Most values are told by other properties. Some names are kept from earlier versions and have no
characters.

## Main definitions

* `graphemeBreaks`, `wordBreaks`, `sentenceBreaks`: The values of the three properties.
-/

namespace CloneScan

namespace Unicode

open Category

/-- The characters of a script. -/
def isOfScript (name : String) (c : Char) : Bool :=
  scriptTables.any fun (names, ranges) => names.contains name && ranges.has c

/-! ## Characters as a reader sees them -/

/-- The marks that take space but do not belong to the character before them. -/
def spacelessTable : RangeTable :=
  [(4139, 4140), (4152, 4152), (4194, 4196), (4199, 4205), (4227, 4227), (4231, 4236), (4239, 4239),
   (4250, 4252), (6753, 6753), (6755, 6756), (43643, 43643), (43645, 43645), (71456, 71457)]

/-- The characters that belong to the one after them, apart from those that precede a number. -/
def precedingTable : RangeTable :=
  [(3406, 3406), (70082, 70083), (71999, 71999), (72001, 72001), (72250, 72250), (72324, 72329),
   (73030, 73030), (73474, 73474)]

/-- The character belongs to the one before it and takes space. -/
def isSpacingMark (c : Char) : Bool :=
  (spacingMark.has c && !extendsGrapheme c && !spacelessTable.has c) ||
    c == '\u0e33' || c == '\u0eb3'

/-- The character does not show and parts those around it; line ends and joiners have values of
    their own. -/
def isControl (c : Char) : Bool :=
  (among [control, format, lineSeparator, paragraphSeparator] c ||
      (unassigned.has c && isIgnorable c)) &&
    !prependedTable.has c && !extendsGrapheme c && c != '\n' && c != '\r' && c != '\u200d'

/-- A syllable of the Korean script, by whether it ends with a consonant. -/
def isSyllable (ends : Bool) (c : Char) : Bool :=
  44032 ≤ c.toNat && c.toNat ≤ 55203 && ((c.toNat - 44032) % 28 != 0) == ends

/-- The values of the property that tells the parts of a character. -/
def graphemeBreaks : PropertyValues :=
  [(["cn", "control"], some isControl),
   (["cr"], some (· == '\r')),
   (["lf"], some (· == '\n')),
   (["ex", "extend"], some fun c => extendsGrapheme c || modifierTable.has c),
   (["sm", "spacingmark"], some isSpacingMark),
   (["pp", "prepend"], some fun c => precedingTable.has c || prependedTable.has c),
   (["ri", "regionalindicator"], some regionTable.has),
   (["zwj"], some (· == '\u200d')),
   (["l"], some (RangeTable.has [(4352, 4447), (43360, 43388)])),
   (["v"], some (RangeTable.has [(4448, 4519), (55216, 55238)])),
   (["t"], some (RangeTable.has [(4520, 4607), (55243, 55291)])),
   (["lv"], some (isSyllable false)),
   (["lvt"], some (isSyllable true)),
   (["eb", "ebase"], none),
   (["em", "emodifier"], none),
   (["ebg", "ebasegaz"], none),
   (["gaz", "glueafterzwj"], none),
   (["xx", "other"], none)]

/-! ## Words -/

/-- The characters written together with katakana. -/
def katakanaTable : RangeTable :=
  [(12337, 12341), (12443, 12444), (12448, 12538), (12540, 12543), (12784, 12799), (13008, 13054),
   (13056, 13143), (65382, 65437), (110576, 110579), (110581, 110587), (110589, 110590),
   (110592, 110592), (110880, 110882), (110933, 110933), (110948, 110951)]

/-- The characters that words are made of though they are no letters. -/
def otherWordLetterTable : RangeTable :=
  [(706, 709), (722, 727), (734, 735), (741, 747), (749, 749), (751, 767), (1370, 1372),
   (1374, 1374), (1418, 1418), (1523, 1523), (42760, 42774), (42784, 42785), (42889, 42890),
   (43867, 43867)]

/-- The characters of scripts that write words without anything between them. -/
def complexTable : RangeTable :=
  [(3585, 3642), (3648, 3662), (3713, 3714), (3716, 3716), (3718, 3722), (3724, 3747), (3749, 3749),
   (3751, 3773), (3776, 3780), (3782, 3782), (3784, 3790), (3804, 3807), (4096, 4159), (4176, 4239),
   (4250, 4255), (6016, 6099), (6103, 6103), (6108, 6109), (6480, 6509), (6512, 6516), (6528, 6571),
   (6576, 6601), (6618, 6618), (6622, 6623), (6688, 6750), (6752, 6780), (6816, 6829),
   (43488, 43503), (43514, 43518), (43616, 43714), (43739, 43743), (71424, 71450), (71453, 71467),
   (71482, 71483), (71487, 71494)]

/-- The marks that may stand between letters of a word. -/
def midLetterTable : RangeTable :=
  [(58, 58), (183, 183), (903, 903), (1375, 1375), (1524, 1524), (8231, 8231), (65043, 65043),
   (65109, 65109), (65306, 65306)]

/-- The marks that may stand between digits. -/
def midNumberTable : RangeTable :=
  [(44, 44), (59, 59), (894, 894), (1417, 1417), (1548, 1549), (1644, 1644), (2040, 2040),
   (8260, 8260), (65040, 65040), (65044, 65044), (65104, 65104), (65108, 65108), (65292, 65292),
   (65307, 65307)]

/-- The marks that may stand between letters and between digits. -/
def midBothTable : RangeTable :=
  [(46, 46), (8216, 8217), (8228, 8228), (65106, 65106), (65287, 65287), (65294, 65294)]

/-- The blanks of which several stand together. -/
def wordSpaceTable : RangeTable :=
  [(32, 32), (5760, 5760), (8192, 8198), (8200, 8202), (8287, 8287), (12288, 12288)]

/-- The character belongs to the one before it, as far as words are concerned. -/
def extendsWord (c : Char) : Bool :=
  (extendsGrapheme c || spacingMark.has c || modifierTable.has c) && c != '\u200d'

/-- The character is a letter of the Hebrew script. -/
def isHebrewLetter (c : Char) : Bool :=
  otherLetter.has c && isOfScript "hebr" c

/-- The character is a letter of a script that parts its words. -/
def isWordLetter (c : Char) : Bool :=
  (isAlphabetic c && !ideographTable.has c && !katakanaTable.has c && !complexTable.has c &&
      !isOfScript "hira" c && !extendsWord c && !isHebrewLetter c) ||
    otherWordLetterTable.has c

/-- The character is a digit, or the mark between the digits of the Arabic script. -/
def isWordDigit (c : Char) : Bool :=
  decimalNumber.has c || c == '\u066b'

/-- The format character is no part of the characters around it. -/
def isWordFormat (c : Char) : Bool :=
  format.has c && !extendsGrapheme c && c != '\u200b' && c != '\u200d'

/-- The values of the property that tells the parts of a word. -/
def wordBreaks : PropertyValues :=
  [(["cr"], some (· == '\r')),
   (["lf"], some (· == '\n')),
   (["nl", "newline"], some (RangeTable.has [(11, 12), (133, 133), (8232, 8233)])),
   (["dq", "doublequote"], some (· == '\x22')),
   (["sq", "singlequote"], some (· == '\x27')),
   (["extend"], some extendsWord),
   (["fo", "format"], some isWordFormat),
   (["zwj"], some (· == '\u200d')),
   (["ka", "katakana"], some katakanaTable.has),
   (["hl", "hebrewletter"], some isHebrewLetter),
   (["le", "aletter"], some isWordLetter),
   (["ml", "midletter"], some midLetterTable.has),
   (["mn", "midnum"], some midNumberTable.has),
   (["mb", "midnumlet"], some midBothTable.has),
   (["nu", "numeric"], some isWordDigit),
   (["ex", "extendnumlet"], some fun c => connector.has c || c == '\u202f'),
   (["ri", "regionalindicator"], some regionTable.has),
   (["wsegspace"], some wordSpaceTable.has),
   (["eb", "ebase"], none),
   (["em", "emodifier"], none),
   (["ebg", "ebasegaz"], none),
   (["gaz", "glueafterzwj"], none),
   (["xx", "other"], none)]

/-! ## Sentences -/

/-- The characters that open or close something, apart from brackets and quotation marks. -/
def otherCloseTable : RangeTable :=
  [(10075, 10080), (11776, 11777), (11782, 11784), (11787, 11787), (128630, 128632)]

/-- The marks that may end a sentence or a number. -/
def stopTable : RangeTable :=
  [(46, 46), (8228, 8228), (65106, 65106), (65294, 65294)]

/-- The marks after which a sentence goes on. -/
def continueTable : RangeTable :=
  [(44, 45), (58, 58), (1373, 1373), (1548, 1549), (2040, 2040), (6146, 6146), (6152, 6152),
   (8211, 8212), (12289, 12289), (65040, 65041), (65043, 65043), (65073, 65074), (65104, 65105),
   (65109, 65109), (65112, 65112), (65123, 65123), (65292, 65293), (65306, 65306), (65380, 65380)]

/-- The line ends of one character. -/
def parterTable : RangeTable :=
  [(133, 133), (8232, 8233)]

/-- The character belongs to the one before it, as far as sentences are concerned. -/
def extendsSentence (c : Char) : Bool :=
  extendsGrapheme c || spacingMark.has c || c == '\u200d'

/-- The small letters of sentences. -/
def isSentenceLower (c : Char) : Bool :=
  isLowercase c && !extendsGrapheme c && !georgianTable.has c

/-- The capital letters of sentences. -/
def isSentenceUpper (c : Char) : Bool :=
  (isUppercase c || titlecaseLetter.has c) && !georgianTable.has c

/-- The letters of sentences in which there is no case. -/
def isSentenceLetter (c : Char) : Bool :=
  (isAlphabetic c && !isSentenceLower c && !isSentenceUpper c && !extendsSentence c) ||
    c == '\u05f3'

/-- The character opens or closes something. -/
def isClose (c : Char) : Bool :=
  (among [opening, closing, initialQuote, finalQuote] c || quoteTable.has c ||
      otherCloseTable.has c) &&
    c != '\uff02' && c != '\uff07'

/-- The values of the property that tells the parts of a sentence. -/
def sentenceBreaks : PropertyValues :=
  [(["cr"], some (· == '\r')),
   (["lf"], some (· == '\n')),
   (["se", "sep"], some parterTable.has),
   (["ex", "extend"], some extendsSentence),
   (["fo", "format"], some fun c => format.has c && !extendsGrapheme c && c != '\u200d'),
   (["sp"], some fun c => isBlank c && !parterTable.has c && c != '\n' && c != '\r'),
   (["lo", "lower"], some isSentenceLower),
   (["up", "upper"], some isSentenceUpper),
   (["le", "oletter"], some isSentenceLetter),
   (["nu", "numeric"], some fun c => decimalNumber.has c || c == '\u066b' || c == '\u066c'),
   (["at", "aterm"], some stopTable.has),
   (["sc", "scontinue"], some continueTable.has),
   (["st", "sterm"], some fun c => sentenceEndTable.has c && !stopTable.has c),
   (["cl", "close"], some isClose),
   (["xx", "other"], none)]

end Unicode

end CloneScan
