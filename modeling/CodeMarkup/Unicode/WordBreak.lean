import CodeMarkup.Unicode.RunTable

/-!
# Word breaks

The part that a character plays where a text is cut into words
(`CodeMarkup.Unicode.wordBreakTable`).
-/

namespace CodeMarkup.Unicode

/-- The value of the property for each character, under its long name. -/
def wordBreakTable : RunTable String :=
  RunTable.read id [
    "aOther 1LF 2Newline 1CR 12Other 1WSegSpace 1Other 1Double_Quote 4Other 1Single_Quote 4Other",
    "1MidNum 1Other 1MidNumLet 1Other aNumeric 1MidLetter 1MidNum 5Other 1aALetter 4Other",
    "1ExtendNumLet 1Other 1aALetter aOther 1Newline 24Other 1ALetter 2Other 1Format 7Other",
    "1ALetter 1Other 1MidLetter 2Other 1ALetter 5Other 17ALetter 1Other 1fALetter 1Other",
    "1e0ALetter 6Other 22ALetter 70Extend 5ALetter 1Other 2ALetter 2Other 4ALetter 1MidNum",
    "1ALetter 6Other 1ALetter 1MidLetter 3ALetter 1Other 1ALetter 1Other 14ALetter 1Other",
    "53ALetter 1Other 8bALetter 1Other 7Extend a6ALetter 1Other 26ALetter 2Other 4ALetter 1Other",
    "1ALetter 1MidLetter 29ALetter 1MidNum 1ALetter 6Other 2dExtend 1Other 1Extend 1Other 2Extend",
    "1Other 2Extend 1Other 1Extend 8Other 1bHebrew_Letter 4Other 4Hebrew_Letter 1ALetter",
    "1MidLetter bOther 6Format 6Other 2MidNum 2Other bExtend 1Other 1Format 3Other 2bALetter",
    "15Extend aNumeric 1Other 1Numeric 1MidNum 1Other 2ALetter 1Extend 63ALetter 1Other 1ALetter",
    "7Extend 1Format 1Other 6Extend 2ALetter 2Extend 1Other 4Extend 2ALetter aNumeric 3ALetter",
    "2Other 1ALetter fOther 1Format 1ALetter 1Extend 1eALetter 1bExtend 2Other 59ALetter bExtend",
    "1ALetter eOther aNumeric 21ALetter 9Extend 2ALetter 2Other 1MidNum 1Other 1ALetter 2Other",
    "1Extend 2Other 16ALetter 4Extend 1ALetter 9Extend 1ALetter 3Extend 1ALetter 5Extend 12Other",
    "19ALetter 3Extend 4Other bALetter 5Other 18ALetter 1Other 6ALetter 1Other 2Format 5Other",
    "9Extend 2aALetter 18Extend 1Format 21Extend 36ALetter 3Extend 1ALetter 12Extend 1ALetter",
    "7Extend aALetter 2Extend 2Other aNumeric 1Other 10ALetter 3Extend 1Other 8ALetter 2Other",
    "2ALetter 2Other 16ALetter 1Other 7ALetter 1Other 1ALetter 3Other 4ALetter 2Other 1Extend",
    "1ALetter 7Extend 2Other 2Extend 2Other 3Extend 1ALetter 8Other 1Extend 4Other 2ALetter",
    "1Other 3ALetter 2Extend 2Other aNumeric 2ALetter aOther 1ALetter 1Other 1Extend 2Other",
    "3Extend 1Other 6ALetter 4Other 2ALetter 2Other 16ALetter 1Other 7ALetter 1Other 2ALetter",
    "1Other 2ALetter 1Other 2ALetter 2Other 1Extend 1Other 5Extend 4Other 2Extend 2Other 3Extend",
    "3Other 1Extend 7Other 4ALetter 1Other 1ALetter 7Other aNumeric 2Extend 3ALetter 1Extend",
    "bOther 3Extend 1Other 9ALetter 1Other 3ALetter 1Other 16ALetter 1Other 7ALetter 1Other",
    "2ALetter 1Other 5ALetter 2Other 1Extend 1ALetter 8Extend 1Other 3Extend 1Other 3Extend",
    "2Other 1ALetter fOther 2ALetter 2Extend 2Other aNumeric 9Other 1ALetter 6Extend 1Other",
    "3Extend 1Other 8ALetter 2Other 2ALetter 2Other 16ALetter 1Other 7ALetter 1Other 2ALetter",
    "1Other 5ALetter 2Other 1Extend 1ALetter 7Extend 2Other 2Extend 2Other 3Extend 7Other 3Extend",
    "4Other 2ALetter 1Other 3ALetter 2Extend 2Other aNumeric 1Other 1ALetter 10Other 1Extend",
    "1ALetter 1Other 6ALetter 3Other 3ALetter 1Other 4ALetter 3Other 2ALetter 1Other 1ALetter",
    "1Other 2ALetter 3Other 2ALetter 3Other 3ALetter 3Other cALetter 4Other 5Extend 3Other",
    "3Extend 1Other 4Extend 2Other 1ALetter 6Other 1Extend eOther aNumeric 10Other 5Extend",
    "8ALetter 1Other 3ALetter 1Other 17ALetter 1Other 10ALetter 2Other 1Extend 1ALetter 7Extend",
    "1Other 3Extend 1Other 4Extend 7Other 2Extend 1Other 3ALetter 2Other 1ALetter 2Other 2ALetter",
    "2Extend 2Other aNumeric 10Other 1ALetter 3Extend 1Other 8ALetter 1Other 3ALetter 1Other",
    "17ALetter 1Other aALetter 1Other 5ALetter 2Other 1Extend 1ALetter 7Extend 1Other 3Extend",
    "1Other 4Extend 7Other 2Extend 6Other 2ALetter 1Other 2ALetter 2Extend 2Other aNumeric 1Other",
    "2ALetter 1Extend cOther 4Extend 9ALetter 1Other 3ALetter 1Other 29ALetter 2Extend 1ALetter",
    "7Extend 1Other 3Extend 1Other 4Extend 1ALetter 5Other 3ALetter 1Extend 7Other 3ALetter",
    "2Extend 2Other aNumeric aOther 6ALetter 1Other 3Extend 1Other 12ALetter 3Other 18ALetter",
    "1Other 9ALetter 1Other 1ALetter 2Other 7ALetter 3Other 1Extend 4Other 6Extend 1Other 1Extend",
    "1Other 8Extend 6Other aNumeric 2Other 2Extend 3dOther 1Extend 2Other 7Extend cOther 8Extend",
    "1Other aNumeric 57Other 1Extend 2Other 9Extend bOther 7Extend 1Other aNumeric 26Other",
    "1ALetter 17Other 2Extend 6Other aNumeric bOther 1Extend 1Other 1Extend 1Other 1Extend 4Other",
    "2Extend 8ALetter 1Other 24ALetter 4Other 14Extend 1Other 2Extend 5ALetter bExtend 1Other",
    "24Extend 9Other 1Extend 64Other 14Extend 1Other aNumeric cOther 4Extend 4Other 3Extend",
    "1Other 3Extend 2Other 7Extend 3Other 4Extend dOther cExtend 1Other 1Extend aNumeric 4Extend",
    "2Other 26ALetter 1Other 1ALetter 5Other 1ALetter 2Other 2bALetter 1Other 14dALetter 1Other",
    "4ALetter 2Other 7ALetter 1Other 1ALetter 1Other 4ALetter 2Other 29ALetter 1Other 4ALetter",
    "2Other 21ALetter 1Other 4ALetter 2Other 7ALetter 1Other 1ALetter 1Other 4ALetter 2Other",
    "fALetter 1Other 39ALetter 1Other 4ALetter 2Other 43ALetter 2Other 3Extend 20Other 10ALetter",
    "10Other 56ALetter 2Other 6ALetter 3Other 26cALetter 2Other 11ALetter 1WSegSpace 1aALetter",
    "5Other 4bALetter 3Other bALetter 7Other 12ALetter 4Extend 9Other 13ALetter 3Extend bOther",
    "12ALetter 2Extend cOther dALetter 1Other 3ALetter 1Other 2Extend 40Other 20Extend 9Other",
    "1Extend 2Other aNumeric 21Other 3Extend 1Format 1Extend aNumeric 6Other 59ALetter 7Other",
    "5ALetter 2Extend 22ALetter 1Extend 1ALetter 5Other 46ALetter aOther 1fALetter 1Other cExtend",
    "4Other cExtend aOther aNumeric 80Other aNumeric 26Other 17ALetter 5Extend 39Other aExtend",
    "1Other 1dExtend 2Other 1Extend aNumeric 6Other aNumeric 16Other 1fExtend 31Other 5Extend",
    "2fALetter 11Extend 8ALetter 3Other aNumeric 11Other 9Extend cOther 3Extend 1eALetter dExtend",
    "2ALetter aNumeric 2cALetter eExtend cOther 24ALetter 14Extend 8Other aNumeric 3Other",
    "3ALetter aNumeric 24ALetter 2Other bALetter 5Other 2bALetter 2Other 3ALetter 10Other 3Extend",
    "1Other 15Extend 4ALetter 1Extend 6ALetter 1Extend 2ALetter 3Extend 1ALetter 5Other c0ALetter",
    "40Extend 116ALetter 2Other 6ALetter 2Other 26ALetter 2Other 6ALetter 2Other 8ALetter 1Other",
    "1ALetter 1Other 1ALetter 1Other 1ALetter 1Other 1fALetter 2Other 35ALetter 1Other 7ALetter",
    "1Other 1ALetter 3Other 3ALetter 1Other 7ALetter 3Other 4ALetter 2Other 6ALetter 4Other",
    "dALetter 5Other 3ALetter 1Other 7ALetter 3Other 7WSegSpace 1Other 3WSegSpace 1Other 1Extend",
    "1ZWJ 2Format 8Other 2MidNumLet aOther 1MidNumLet 2Other 1MidLetter 2Newline 5Format",
    "1ExtendNumLet fOther 2ExtendNumLet 3Other 1MidNum fOther 1ExtendNumLet aOther 1WSegSpace",
    "5Format 1Other aFormat 1Other 1ALetter dOther 1ALetter 10Other dALetter 33Other 21Extend",
    "11Other 1ALetter 4Other 1ALetter 2Other aALetter 1Other 1ALetter 3Other 5ALetter 6Other",
    "1ALetter 1Other 1ALetter 1Other 1ALetter 1Other 4ALetter 1Other bALetter 2Other 4ALetter",
    "5Other 5ALetter 4Other 1ALetter 11Other 29ALetter 32dOther 34ALetter 716Other e5ALetter",
    "6Other 4ALetter 3Extend 2ALetter cOther 26ALetter 1Other 1ALetter 5Other 1ALetter 2Other",
    "38ALetter 7Other 1ALetter fOther 1Extend 17ALetter 9Other 7ALetter 1Other 7ALetter 1Other",
    "7ALetter 1Other 7ALetter 1Other 7ALetter 1Other 7ALetter 1Other 7ALetter 1Other 7ALetter",
    "1Other 20Extend 2fOther 1ALetter 1d0Other 1WSegSpace 4Other 1ALetter 24Other 6Extend 1Other",
    "5Katakana 5Other 2ALetter 5cOther 2Extend 2Katakana 3Other 5bKatakana 1Other 4Katakana",
    "5Other 2bALetter 1Other 5eALetter 11Other 20ALetter 30Other 10Katakana d0Other 2fKatakana",
    "1Other 58Katakana 6ca8Other 48dALetter 43Other 2eALetter 2Other 10dALetter 3Other 10ALetter",
    "aNumeric 2ALetter 14Other 2fALetter 4Extend 1Other aExtend 1Other 1fALetter 2Extend",
    "50ALetter 2Extend 16Other c6ALetter 2Other 2ALetter 1Other 1ALetter 1Other 8ALetter 15Other",
    "10ALetter 1Extend 3ALetter 1Extend 4ALetter 1Extend 17ALetter 5Extend 4Other 1Extend 13Other",
    "34ALetter cOther 2Extend 32ALetter 12Extend aOther aNumeric 6Other 12Extend 6ALetter 3Other",
    "1ALetter 1Other 2ALetter 1Extend aNumeric 1cALetter 8Extend 2Other 17ALetter dExtend cOther",
    "1dALetter 3Other 4Extend 2fALetter eExtend eOther 1ALetter aNumeric bOther 1Extend aOther",
    "aNumeric 6Other 29ALetter eExtend 9Other 3ALetter 1Extend 8ALetter 2Extend 2Other aNumeric",
    "21Other 3Extend 32Other 1Extend 1Other 3Extend 2Other 2Extend 5Other 2Extend 1Other 1Extend",
    "1eOther bALetter 5Extend 2Other 3ALetter 2Extend aOther 6ALetter 2Other 6ALetter 2Other",
    "6ALetter 9Other 7ALetter 1Other 7ALetter 1Other 3aALetter 6Other 73ALetter 8Extend 1Other",
    "2Extend 2Other aNumeric 6Other 2ba4ALetter cOther 17ALetter 4Other 31ALetter 2304Other",
    "7ALetter cOther 5ALetter 5Other 1Hebrew_Letter 1Extend aHebrew_Letter 1Other dHebrew_Letter",
    "1Other 5Hebrew_Letter 1Other 1Hebrew_Letter 1Other 2Hebrew_Letter 1Other 2Hebrew_Letter",
    "1Other aHebrew_Letter 62ALetter 21Other 16bALetter 12Other 40ALetter 2Other 36ALetter",
    "28Other cALetter 4Other 10Extend 1MidNum 2Other 1MidLetter 1MidNum bOther 10Extend 3Other",
    "2ExtendNumLet 18Other 3ExtendNumLet 1MidNum 1Other 1MidNumLet 1Other 1MidNum 1MidLetter",
    "1aOther 5ALetter 1Other 87ALetter 2Other 1Format 7Other 1MidNumLet 4Other 1MidNum 1Other",
    "1MidNumLet 1Other aNumeric 1MidLetter 1MidNum 5Other 1aALetter 4Other 1ExtendNumLet 1Other",
    "1aALetter bOther 38Katakana 2Extend 1fALetter 3Other 6ALetter 2Other 6ALetter 2Other",
    "6ALetter 2Other 3ALetter 1cOther 3Format 4Other cALetter 1Other 1aALetter 1Other 13ALetter",
    "1Other 2ALetter 1Other fALetter 2Other eALetter 22Other 7bALetter 45Other 35ALetter 88Other",
    "1Extend 82Other 1dALetter 3Other 31ALetter fOther 1Extend 1fOther 20ALetter dOther 1eALetter",
    "5Other 26ALetter 5Extend 5Other 1eALetter 2Other 24ALetter 4Other 8ALetter 1Other 5ALetter",
    "2aOther 9eALetter 2Other aNumeric 6Other 24ALetter 4Other 24ALetter 4Other 28ALetter 8Other",
    "34ALetter cOther bALetter 1Other fALetter 1Other 7ALetter 1Other 2ALetter 1Other bALetter",
    "1Other fALetter 1Other 7ALetter 1Other 2ALetter 3Other 34ALetter cOther 137ALetter 9Other",
    "16ALetter aOther 8ALetter 18Other 6ALetter 1Other 2aALetter 1Other 9ALetter 45Other 6ALetter",
    "2Other 1ALetter 1Other 2cALetter 1Other 2ALetter 3Other 1ALetter 2Other 17ALetter aOther",
    "17ALetter 9Other 1fALetter 41Other 13ALetter 1Other 2ALetter aOther 16ALetter aOther",
    "1aALetter 46Other 38ALetter 6Other 2ALetter 40Other 1ALetter 3Extend 1Other 2Extend 5Other",
    "4Extend 4ALetter 1Other 3ALetter 1Other 1dALetter 2Other 3Extend 4Other 1Extend 20Other",
    "1dALetter 3Other 1dALetter 23Other 8ALetter 1Other 1cALetter 2Extend 19Other 36ALetter",
    "aOther 16ALetter aOther 13ALetter dOther 12ALetter 6eOther 49ALetter 37Other 33ALetter",
    "dOther 33ALetter dOther 24ALetter 4Extend 8Other aNumeric 6Other aNumeric 1cALetter 3Other",
    "5Extend 1Other 17ALetter faOther 2aALetter 1Other 2Extend 3Other 2ALetter 10Other 3ALetter",
    "37Other 4Extend 1dALetter aOther 1ALetter 8Other 16ALetter bExtend 1fOther 12ALetter 4Extend",
    "2aOther 15ALetter 1bOther 17ALetter 9Other 3Extend 35ALetter fExtend 1fOther aNumeric",
    "1Extend 2ALetter 2Extend 1ALetter 9Other 4Extend 2dALetter bExtend 2Other 1Format 4Other",
    "1Extend aOther 1Format 2Other 19ALetter 7Other aNumeric 6Other 3Extend 24ALetter eExtend",
    "1Other aNumeric 4Other 1ALetter 2Extend 1ALetter 8Other 23ALetter 1Extend 2Other 1ALetter",
    "9Other 3Extend 30ALetter eExtend 4ALetter 4Other 4Extend 1Other 2Extend aNumeric 1ALetter",
    "1Other 1ALetter 23Other 12ALetter 1Other 19ALetter cExtend 6Other 1Extend 2ALetter 1Extend",
    "3eOther 7ALetter 1Other 1ALetter 1Other 4ALetter 1Other fALetter 1Other aALetter 7Other",
    "2fALetter cExtend 5Other aNumeric 6Other 4Extend 1Other 8ALetter 2Other 2ALetter 2Other",
    "16ALetter 1Other 7ALetter 1Other 2ALetter 1Other 5ALetter 1Other 2Extend 1ALetter 7Extend",
    "2Other 2Extend 2Other 3Extend 2Other 1ALetter 6Other 1Extend 5Other 5ALetter 2Extend 2Other",
    "7Extend 3Other 5Extend bOther aALetter 1Other 1ALetter 2Other 1ALetter 1Other 26ALetter",
    "1Other 1ALetter 9Extend 1Other 1Extend 2Other 1Extend 1Other 4Extend 1Other 5Extend 1ALetter",
    "1Extend 1ALetter dOther 2Extend 1dOther 35ALetter 12Extend 4ALetter 5Other aNumeric 4Other",
    "1Extend 3ALetter 1eOther 30ALetter 14Extend 2ALetter 1Other 1ALetter 8Other aNumeric a6Other",
    "2fALetter 7Extend 2Other 9Extend 17Other 4ALetter 2Extend 22Other 30ALetter 11Extend 3Other",
    "1ALetter bOther aNumeric 26Other 2bALetter dExtend 1ALetter 7Other aNumeric 6Other 14Numeric",
    "39Other fExtend 4Other aNumeric c6Other 2cALetter fExtend 65Other 40ALetter aNumeric 15Other",
    "8ALetter 2Other 1ALetter 2Other 8ALetter 1Other 2ALetter 1Other 18ALetter 6Extend 1Other",
    "2Extend 2Other 4Extend 1ALetter 1Extend 1ALetter 2Extend cOther aNumeric 46Other 8ALetter",
    "2Other 27ALetter 7Extend 2Other 7Extend 1ALetter 1Other 1ALetter 1Extend 1bOther 1ALetter",
    "aExtend 28ALetter 7Extend 1ALetter 4Extend 8Other 1Extend 8Other 1ALetter bExtend 2eALetter",
    "10Extend 3Other 1ALetter 12Other 49ALetter c7Other 21ALetter fOther aNumeric 6Other 9ALetter",
    "1Other 25ALetter 8Extend 1Other 8Extend 1ALetter fOther aNumeric 18Other 1eALetter 2Other",
    "16Extend 1Other eExtend 49Other 7ALetter 1Other 2ALetter 1Other 26ALetter 6Extend 3Other",
    "1Extend 1Other 2Extend 1Other 7Extend 1ALetter 1Extend 8Other aNumeric 6Other 6ALetter",
    "1Other 2ALetter 1Other 20ALetter 5Extend 1Other 2Extend 1Other 5Extend 1ALetter 7Other",
    "aNumeric 136Other 13ALetter 4Extend 9Other 2Extend 1ALetter 1Extend dALetter 1Other",
    "22ALetter 7Extend 3Other 5Extend dOther aNumeric 1Extend 55Other 1ALetter 4fOther 39aALetter",
    "66Other 6fALetter 11Other c4ALetter a4cOther 61ALetter fOther 430ALetter 10Format 1Extend",
    "6ALetter fExtend aOther f9bALetter 5Other 247ALetter 1ab9Other 1eALetter 12Extend aNumeric",
    "6c6Other 239ALetter 7Other 1fALetter 1Other aNumeric 6Other 4fALetter 1Other aNumeric 6Other",
    "1eALetter 2Other 5Extend bOther 30ALetter 7Extend 9Other 4ALetter cOther aNumeric 9Other",
    "15ALetter 5Other 13ALetter 1b0Other 2dALetter 3Other aNumeric c6Other 40ALetter 80Other",
    "4bALetter 4Other 1Extend 1ALetter 37Extend 7Other 4Extend dALetter 40Other 2ALetter 1Other",
    "1ALetter 1Extend bOther 2Extend 3ffeOther 4Katakana 1Other 7Katakana 1Other 2Katakana 1Other",
    "1Katakana 11fOther 3Katakana 32Other 1Katakana eOther 4Katakana a98Other 6bALetter 5Other",
    "dALetter 3Other 9ALetter 7Other aALetter 3Other 2Extend 1Other 4Format 104cOther aNumeric",
    "206Other 2eExtend 2Other 17Extend 21eOther 5Extend 3Other 6Extend 8Format 8Extend 2Other",
    "7Extend 1eOther 4Extend 94Other 3Extend 1bbOther 55ALetter 1Other 47ALetter 1Other 2ALetter",
    "2Other 1ALetter 2Other 2ALetter 2Other 4ALetter 1Other cALetter 1Other 1ALetter 1Other",
    "7ALetter 1Other 41ALetter 1Other 4ALetter 2Other 8ALetter 1Other 7ALetter 1Other 1cALetter",
    "1Other 4ALetter 1Other 5ALetter 1Other 1ALetter 3Other 7ALetter 1Other 154ALetter 2Other",
    "19ALetter 1Other 19ALetter 1Other 1fALetter 1Other 19ALetter 1Other 1fALetter 1Other",
    "19ALetter 1Other 1fALetter 1Other 19ALetter 1Other 1fALetter 1Other 19ALetter 1Other",
    "8ALetter 2Other 32Numeric 200Other 37Extend 4Other 32Extend 8Other 1Extend eOther 1Extend",
    "16Other 5Extend 1Other fExtend 450Other 1fALetter 6Other 6ALetter d5Other 7Extend 1Other",
    "11Extend 2Other 7Extend 1Other 2Extend 1Other 5Extend 5Other 3eALetter 21Other 1Extend",
    "70Other 2dALetter 3Other 7Extend 7ALetter 2Other aNumeric 4Other 1ALetter 141Other 1eALetter",
    "1Extend 11Other 2cALetter 4Extend aNumeric 1d6Other 1cALetter 4Extend aNumeric d6Other",
    "1eALetter 2Extend 1ALetter aNumeric 1e5Other 7ALetter 1Other 4ALetter 1Other 2ALetter 1Other",
    "fALetter 1Other c5ALetter bOther 7Extend 29Other 44ALetter 7Extend 1ALetter 4Other aNumeric",
    "4a6Other 4ALetter 1Other 1bALetter 1Other 2ALetter 1Other 1ALetter 2Other 1ALetter 1Other",
    "aALetter 1Other 4ALetter 1Other 1ALetter 1Other 1ALetter 6Other 1ALetter 4Other 1ALetter",
    "1Other 1ALetter 1Other 1ALetter 1Other 3ALetter 1Other 2ALetter 1Other 1ALetter 2Other",
    "1ALetter 1Other 1ALetter 1Other 1ALetter 1Other 1ALetter 1Other 1ALetter 1Other 2ALetter",
    "1Other 1ALetter 2Other 4ALetter 1Other 7ALetter 1Other 4ALetter 1Other 4ALetter 1Other",
    "1ALetter 1Other aALetter 1Other 11ALetter 5Other 3ALetter 1Other 5ALetter 1Other 11ALetter",
    "274Other 1aALetter 6Other 1aALetter 6Other 1aALetter 5cOther 1aRegional_Indicator 1fbOther",
    "5Extend 7f0Other aNumeric c0407Other 1Format 1eOther 60Extend 80Other f0Extend 2fe10Other"]

/-- The names of each value: its short name and its long name. -/
def wordBreakNames : List (String × List String) := [
  ("ALetter", ["LE", "ALetter"]),
  ("CR", ["CR"]),
  ("Double_Quote", ["DQ", "Double_Quote"]),
  ("Extend", ["Extend"]),
  ("ExtendNumLet", ["EX", "ExtendNumLet"]),
  ("Format", ["FO", "Format"]),
  ("Hebrew_Letter", ["HL", "Hebrew_Letter"]),
  ("Katakana", ["KA", "Katakana"]),
  ("LF", ["LF"]),
  ("MidLetter", ["ML", "MidLetter"]),
  ("MidNum", ["MN", "MidNum"]),
  ("MidNumLet", ["MB", "MidNumLet"]),
  ("Newline", ["NL", "Newline"]),
  ("Numeric", ["NU", "Numeric"]),
  ("Regional_Indicator", ["RI", "Regional_Indicator"]),
  ("Single_Quote", ["SQ", "Single_Quote"]),
  ("WSegSpace", ["WSegSpace"]),
  ("ZWJ", ["ZWJ"])]

end CodeMarkup.Unicode
