import CodeMarkup.Unicode.RunTable

/-!
# Grapheme cluster breaks

The part that a character plays where a text is cut into what a reader takes for
single characters (`CodeMarkup.Unicode.graphemeBreakTable`).
-/

namespace CodeMarkup.Unicode

/-- The value of the property for each character, under its long name. -/
def graphemeBreakTable : RunTable String :=
  RunTable.read id [
    "aControl 1LF 2Control 1CR 12Control 5fOther 21Control dOther 1Control 252Other 70Extend",
    "113Other 7Extend 107Other 2dExtend 1Other 1Extend 1Other 2Extend 1Other 2Extend 1Other",
    "1Extend 38Other 6Prepend aOther bExtend 1Other 1Control 2eOther 15Extend 10Other 1Extend",
    "65Other 7Extend 1Prepend 1Other 6Extend 2Other 2Extend 1Other 4Extend 21Other 1Prepend",
    "1Other 1Extend 1eOther 1bExtend 5bOther bExtend 3aOther 9Extend 9Other 1Extend 18Other",
    "4Extend 1Other 9Extend 1Other 3Extend 1Other 5Extend 2bOther 3Extend 34Other 2Prepend 5Other",
    "9Extend 2aOther 18Extend 1Prepend 20Extend 1SpacingMark 36Other 1Extend 1SpacingMark 1Extend",
    "1Other 3SpacingMark 8Extend 4SpacingMark 1Extend 2SpacingMark 1Other 7Extend aOther 2Extend",
    "1dOther 1Extend 2SpacingMark 38Other 1Extend 1Other 1Extend 2SpacingMark 4Extend 2Other",
    "2SpacingMark 2Other 2SpacingMark 1Extend 9Other 1Extend aOther 2Extend 1aOther 1Extend",
    "2Other 2Extend 1SpacingMark 38Other 1Extend 1Other 3SpacingMark 2Extend 4Other 2Extend",
    "2Other 3Extend 3Other 1Extend 1eOther 2Extend 3Other 1Extend bOther 2Extend 1SpacingMark",
    "38Other 1Extend 1Other 3SpacingMark 5Extend 1Other 2Extend 1SpacingMark 1Other 2SpacingMark",
    "1Extend 14Other 2Extend 16Other 6Extend 1Other 1Extend 2SpacingMark 38Other 1Extend 1Other",
    "2Extend 1SpacingMark 4Extend 2Other 2SpacingMark 2Other 2SpacingMark 1Extend 7Other 3Extend",
    "aOther 2Extend 1eOther 1Extend 3bOther 1Extend 1SpacingMark 1Extend 2SpacingMark 3Other",
    "3SpacingMark 1Other 3SpacingMark 1Extend 9Other 1Extend 28Other 1Extend 3SpacingMark 1Extend",
    "37Other 1Extend 1Other 3Extend 4SpacingMark 1Other 3Extend 1Other 4Extend 7Other 2Extend",
    "bOther 2Extend 1dOther 1Extend 2SpacingMark 38Other 1Extend 1Other 1SpacingMark 2Extend",
    "1SpacingMark 1Extend 2SpacingMark 1Other 3Extend 1Other 4Extend 7Other 2Extend bOther",
    "2Extend fOther 1SpacingMark cOther 2Extend 2SpacingMark 37Other 2Extend 1Other 1Extend",
    "2SpacingMark 4Extend 1Other 3SpacingMark 1Other 3SpacingMark 1Extend 1Prepend 8Other 1Extend",
    "aOther 2Extend 1dOther 1Extend 2SpacingMark 46Other 1Extend 4Other 1Extend 2SpacingMark",
    "3Extend 1Other 1Extend 1Other 7SpacingMark 1Extend 12Other 2SpacingMark 3dOther 1Extend",
    "1Other 1SpacingMark 7Extend cOther 8Extend 62Other 1Extend 1Other 1SpacingMark 9Extend",
    "bOther 7Extend 49Other 2Extend 1bOther 1Extend 1Other 1Extend 1Other 1Extend 4Other",
    "2SpacingMark 31Other eExtend 1SpacingMark 5Extend 1Other 2Extend 5Other bExtend 1Other",
    "24Extend 9Other 1Extend 66Other 4Extend 1SpacingMark 6Extend 1Other 2Extend 2SpacingMark",
    "2Extend 17Other 2SpacingMark 2Extend 4Other 3Extend 10Other 4Extend dOther 1Extend 1Other",
    "1SpacingMark 2Extend 6Other 1Extend fOther 1Extend 62Other 60L 48V 58T 15dOther 3Extend",
    "3b2Other 4Extend 1cOther 3Extend 1dOther 2Extend 1eOther 2Extend 40Other 2Extend",
    "1SpacingMark 7Extend 8SpacingMark 1Extend 2SpacingMark bExtend 9Other 1Extend 2dOther",
    "3Extend 1Control 1Extend 75Other 2Extend 22Other 1Extend 76Other 3Extend 4SpacingMark",
    "2Extend 3SpacingMark 4Other 2SpacingMark 1Extend 6SpacingMark 3Extend dbOther 2Extend",
    "2SpacingMark 1Extend 39Other 1SpacingMark 1Extend 1SpacingMark 7Extend 1Other 1Extend 1Other",
    "1Extend 2Other 8Extend 6SpacingMark aExtend 2Other 1Extend 30Other 1fExtend 31Other 4Extend",
    "1SpacingMark 2fOther aExtend 4SpacingMark 3Extend 26Other 9Extend cOther 2Extend",
    "1SpacingMark 1eOther 1SpacingMark 4Extend 2SpacingMark 6Extend 38Other 1Extend 1SpacingMark",
    "2Extend 3SpacingMark 1Extend 1SpacingMark 5Extend 30Other 8SpacingMark 8Extend 2SpacingMark",
    "2Extend 98Other 3Extend 1Other dExtend 1SpacingMark 7Extend 4Other 1Extend 6Other 1Extend",
    "2Other 1SpacingMark 2Extend c6Other 40Extend 20bOther 1Control 1Extend 1ZWJ 2Control 18Other",
    "7Control 31Other 10Control 60Other 21Extend bfeOther 3Extend 8dOther 1Extend 60Other",
    "20Extend 22aOther 6Extend 69Other 2Extend 75d4Other 4Extend 1Other aExtend 20Other 2Extend",
    "50Other 2Extend 110Other 1Extend 3Other 1Extend 4Other 1Extend 17Other 2SpacingMark 2Extend",
    "1SpacingMark 4Other 1Extend 53Other 2SpacingMark 32Other 10SpacingMark 2Extend 1aOther",
    "12Extend dOther 1Extend 26Other 8Extend 19Other bExtend 1SpacingMark 1Extend cOther 1dL",
    "3Other 3Extend 1SpacingMark 2fOther 1Extend 2SpacingMark 4Extend 2SpacingMark 2Extend",
    "2SpacingMark 1Extend 24Other 1Extend 43Other 6Extend 2SpacingMark 2Extend 2SpacingMark",
    "2Extend cOther 1Extend 8Other 1Extend 1SpacingMark 2eOther 1Extend 33Other 1Extend 1Other",
    "3Extend 2Other 2Extend 5Other 2Extend 1Other 1Extend 29Other 1SpacingMark 2Extend",
    "2SpacingMark 5Other 1SpacingMark 1Extend ecOther 2SpacingMark 1Extend 2SpacingMark 1Extend",
    "2SpacingMark 1Other 1SpacingMark 1Extend 12Other 1LV 1bLVT 1LV 1bLVT 1LV 1bLVT 1LV 1bLVT 1LV",
    "1bLVT 1LV 1bLVT 1LV 1bLVT 1LV 1bLVT 1LV 1bLVT 1LV 1bLVT 1LV 1bLVT 1LV 1bLVT 1LV 1bLVT 1LV",
    "1bLVT 1LV 1bLVT 1LV 1bLVT 1LV 1bLVT 1LV 1bLVT 1LV 1bLVT 1LV 1bLVT 1LV 1bLVT 1LV 1bLVT 1LV",
    "1bLVT 1LV 1bLVT 1LV 1bLVT 1LV 1bLVT 1LV 1bLVT 1LV 1bLVT 1LV 1bLVT 1LV 1bLVT 1LV 1bLVT 1LV",
    "1bLVT 1LV 1bLVT 1LV 1bLVT 1LV 1bLVT 1LV 1bLVT 1LV 1bLVT 1LV 1bLVT 1LV 1bLVT 1LV 1bLVT 1LV",
    "1bLVT 1LV 1bLVT 1LV 1bLVT 1LV 1bLVT 1LV 1bLVT 1LV 1bLVT 1LV 1bLVT 1LV 1bLVT 1LV 1bLVT 1LV",
    "1bLVT 1LV 1bLVT 1LV 1bLVT 1LV 1bLVT 1LV 1bLVT 1LV 1bLVT 1LV 1bLVT 1LV 1bLVT 1LV 1bLVT 1LV",
    "1bLVT 1LV 1bLVT 1LV 1bLVT 1LV 1bLVT 1LV 1bLVT 1LV 1bLVT 1LV 1bLVT 1LV 1bLVT 1LV 1bLVT 1LV",
    "1bLVT 1LV 1bLVT 1LV 1bLVT 1LV 1bLVT 1LV 1bLVT 1LV 1bLVT 1LV 1bLVT 1LV 1bLVT 1LV 1bLVT 1LV",
    "1bLVT 1LV 1bLVT 1LV 1bLVT 1LV 1bLVT 1LV 1bLVT 1LV 1bLVT 1LV 1bLVT 1LV 1bLVT 1LV 1bLVT 1LV",
    "1bLVT 1LV 1bLVT 1LV 1bLVT 1LV 1bLVT 1LV 1bLVT 1LV 1bLVT 1LV 1bLVT 1LV 1bLVT 1LV 1bLVT 1LV",
    "1bLVT 1LV 1bLVT 1LV 1bLVT 1LV 1bLVT 1LV 1bLVT 1LV 1bLVT 1LV 1bLVT 1LV 1bLVT 1LV 1bLVT 1LV",
    "1bLVT 1LV 1bLVT 1LV 1bLVT 1LV 1bLVT 1LV 1bLVT 1LV 1bLVT 1LV 1bLVT 1LV 1bLVT 1LV 1bLVT 1LV",
    "1bLVT 1LV 1bLVT 1LV 1bLVT 1LV 1bLVT 1LV 1bLVT 1LV 1bLVT 1LV 1bLVT 1LV 1bLVT 1LV 1bLVT 1LV",
    "1bLVT 1LV 1bLVT 1LV 1bLVT 1LV 1bLVT 1LV 1bLVT 1LV 1bLVT 1LV 1bLVT 1LV 1bLVT 1LV 1bLVT 1LV",
    "1bLVT 1LV 1bLVT 1LV 1bLVT 1LV 1bLVT 1LV 1bLVT 1LV 1bLVT 1LV 1bLVT 1LV 1bLVT 1LV 1bLVT 1LV",
    "1bLVT 1LV 1bLVT 1LV 1bLVT 1LV 1bLVT 1LV 1bLVT 1LV 1bLVT 1LV 1bLVT 1LV 1bLVT 1LV 1bLVT 1LV",
    "1bLVT 1LV 1bLVT 1LV 1bLVT 1LV 1bLVT 1LV 1bLVT 1LV 1bLVT 1LV 1bLVT 1LV 1bLVT 1LV 1bLVT 1LV",
    "1bLVT 1LV 1bLVT 1LV 1bLVT 1LV 1bLVT 1LV 1bLVT 1LV 1bLVT 1LV 1bLVT 1LV 1bLVT 1LV 1bLVT 1LV",
    "1bLVT 1LV 1bLVT 1LV 1bLVT 1LV 1bLVT 1LV 1bLVT 1LV 1bLVT 1LV 1bLVT 1LV 1bLVT 1LV 1bLVT 1LV",
    "1bLVT 1LV 1bLVT 1LV 1bLVT 1LV 1bLVT 1LV 1bLVT 1LV 1bLVT 1LV 1bLVT 1LV 1bLVT 1LV 1bLVT 1LV",
    "1bLVT 1LV 1bLVT 1LV 1bLVT 1LV 1bLVT 1LV 1bLVT 1LV 1bLVT 1LV 1bLVT 1LV 1bLVT 1LV 1bLVT 1LV",
    "1bLVT 1LV 1bLVT 1LV 1bLVT 1LV 1bLVT 1LV 1bLVT 1LV 1bLVT 1LV 1bLVT 1LV 1bLVT 1LV 1bLVT 1LV",
    "1bLVT 1LV 1bLVT 1LV 1bLVT 1LV 1bLVT 1LV 1bLVT 1LV 1bLVT 1LV 1bLVT 1LV 1bLVT 1LV 1bLVT 1LV",
    "1bLVT 1LV 1bLVT 1LV 1bLVT 1LV 1bLVT 1LV 1bLVT 1LV 1bLVT 1LV 1bLVT 1LV 1bLVT 1LV 1bLVT 1LV",
    "1bLVT 1LV 1bLVT 1LV 1bLVT 1LV 1bLVT 1LV 1bLVT 1LV 1bLVT 1LV 1bLVT 1LV 1bLVT 1LV 1bLVT 1LV",
    "1bLVT 1LV 1bLVT 1LV 1bLVT 1LV 1bLVT 1LV 1bLVT 1LV 1bLVT 1LV 1bLVT 1LV 1bLVT 1LV 1bLVT 1LV",
    "1bLVT 1LV 1bLVT 1LV 1bLVT 1LV 1bLVT 1LV 1bLVT 1LV 1bLVT 1LV 1bLVT 1LV 1bLVT 1LV 1bLVT 1LV",
    "1bLVT 1LV 1bLVT 1LV 1bLVT 1LV 1bLVT 1LV 1bLVT 1LV 1bLVT 1LV 1bLVT 1LV 1bLVT 1LV 1bLVT 1LV",
    "1bLVT 1LV 1bLVT 1LV 1bLVT 1LV 1bLVT 1LV 1bLVT 1LV 1bLVT 1LV 1bLVT 1LV 1bLVT 1LV 1bLVT 1LV",
    "1bLVT 1LV 1bLVT 1LV 1bLVT 1LV 1bLVT 1LV 1bLVT 1LV 1bLVT 1LV 1bLVT 1LV 1bLVT 1LV 1bLVT 1LV",
    "1bLVT 1LV 1bLVT 1LV 1bLVT 1LV 1bLVT 1LV 1bLVT 1LV 1bLVT 1LV 1bLVT 1LV 1bLVT 1LV 1bLVT 1LV",
    "1bLVT 1LV 1bLVT 1LV 1bLVT 1LV 1bLVT 1LV 1bLVT 1LV 1bLVT 1LV 1bLVT 1LV 1bLVT 1LV 1bLVT 1LV",
    "1bLVT 1LV 1bLVT 1LV 1bLVT 1LV 1bLVT 1LV 1bLVT 1LV 1bLVT 1LV 1bLVT 1LV 1bLVT 1LV 1bLVT 1LV",
    "1bLVT 1LV 1bLVT 1LV 1bLVT 1LV 1bLVT 1LV 1bLVT 1LV 1bLVT 1LV 1bLVT 1LV 1bLVT 1LV 1bLVT 1LV",
    "1bLVT 1LV 1bLVT 1LV 1bLVT 1LV 1bLVT 1LV 1bLVT 1LV 1bLVT 1LV 1bLVT 1LV 1bLVT 1LV 1bLVT 1LV",
    "1bLVT 1LV 1bLVT 1LV 1bLVT 1LV 1bLVT 1LV 1bLVT 1LV 1bLVT 1LV 1bLVT 1LV 1bLVT 1LV 1bLVT 1LV",
    "1bLVT 1LV 1bLVT 1LV 1bLVT 1LV 1bLVT 1LV 1bLVT 1LV 1bLVT 1LV 1bLVT 1LV 1bLVT 1LV 1bLVT 1LV",
    "1bLVT 1LV 1bLVT 1LV 1bLVT 1LV 1bLVT 1LV 1bLVT 1LV 1bLVT 1LV 1bLVT 1LV 1bLVT 1LV 1bLVT 1LV",
    "1bLVT 1LV 1bLVT 1LV 1bLVT 1LV 1bLVT 1LV 1bLVT 1LV 1bLVT 1LV 1bLVT 1LV 1bLVT 1LV 1bLVT 1LV",
    "1bLVT 1LV 1bLVT 1LV 1bLVT 1LV 1bLVT 1LV 1bLVT 1LV 1bLVT 1LV 1bLVT 1LV 1bLVT 1LV 1bLVT 1LV",
    "1bLVT 1LV 1bLVT 1LV 1bLVT 1LV 1bLVT 1LV 1bLVT 1LV 1bLVT 1LV 1bLVT 1LV 1bLVT 1LV 1bLVT 1LV",
    "1bLVT 1LV 1bLVT 1LV 1bLVT 1LV 1bLVT 1LV 1bLVT 1LV 1bLVT 1LV 1bLVT 1LV 1bLVT 1LV 1bLVT 1LV",
    "1bLVT 1LV 1bLVT 1LV 1bLVT 1LV 1bLVT 1LV 1bLVT 1LV 1bLVT 1LV 1bLVT 1LV 1bLVT 1LV 1bLVT 1LV",
    "1bLVT 1LV 1bLVT 1LV 1bLVT 1LV 1bLVT 1LV 1bLVT 1LV 1bLVT 1LV 1bLVT 1LV 1bLVT cOther 17V",
    "4Other 31T 2322Other 1Extend 2e1Other 10Extend 10Other 10Extend cfOther 1Control 9eOther",
    "2Extend 50Other cControl 201Other 1Extend e2Other 1Extend 95Other 5Extend 686Other 3Extend",
    "1Other 2Extend 5Other 4Extend 28Other 3Extend 4Other 1Extend a5Other 2Extend 23dOther",
    "4Extend 41Other 5Extend 13dOther 2Extend 4fOther 4Extend 46Other bExtend 31Other 4Extend",
    "7aOther 1SpacingMark 1Extend 1SpacingMark 35Other fExtend 29Other 1Extend 2Other 2Extend",
    "aOther 3Extend 1SpacingMark 2dOther 3SpacingMark 4Extend 2SpacingMark 2Extend 2Other",
    "1Prepend 4Other 1Extend aOther 1Prepend 32Other 3Extend 24Other 5Extend 1SpacingMark 8Extend",
    "10Other 2SpacingMark 2cOther 1Extend cOther 2Extend 1SpacingMark 30Other 3SpacingMark",
    "9Extend 1SpacingMark 1Extend 1Other 2Prepend 5Other 4Extend 1Other 1SpacingMark 1Extend",
    "5cOther 3SpacingMark 3Extend 2SpacingMark 4Extend 6Other 1Extend 2Other 1Extend 9dOther",
    "1Extend 3SpacingMark 8Extend 15Other 2Extend 2SpacingMark 37Other 2Extend 1Other 1Extend",
    "1SpacingMark 1Extend 4SpacingMark 2Other 2SpacingMark 2Other 2SpacingMark 1Extend 9Other",
    "1Extend aOther 2SpacingMark 2Other 7Extend 3Other 5Extend 43Other 1Extend 2SpacingMark",
    "6Extend 1Other 1Extend 2Other 1Extend 1Other 3Extend 1SpacingMark 1Other 2SpacingMark",
    "3Extend 1Prepend 1Extend eOther 2Extend 52Other 3SpacingMark 8Extend 2SpacingMark 3Extend",
    "1SpacingMark 1Extend 17Other 1Extend 51Other 1Extend 2SpacingMark 6Extend 1SpacingMark",
    "1Extend 2SpacingMark 1Extend 1SpacingMark 2Extend 1SpacingMark 2Extend ebOther 1Extend",
    "2SpacingMark 4Extend 2Other 4SpacingMark 2Extend 1SpacingMark 2Extend 1bOther 2Extend",
    "52Other 3SpacingMark 8Extend 2SpacingMark 1Extend 1SpacingMark 2Extend 6aOther 1Extend",
    "1SpacingMark 1Extend 2SpacingMark 8Extend 65Other 3Extend 2Other 4Extend 1SpacingMark",
    "5Extend 100Other 3SpacingMark 9Extend 1SpacingMark 2Extend f5Other 1Extend 5SpacingMark",
    "1Other 2SpacingMark 2Other 4Extend 1Prepend 1SpacingMark 1Prepend 1SpacingMark 1Extend",
    "8dOther 3SpacingMark 4Extend 2Other 2Extend 4SpacingMark 1Extend 3Other 1SpacingMark 1cOther",
    "aExtend 28Other 6Extend 1SpacingMark 1Prepend 4Extend 8Other 1Extend 9Other 6Extend",
    "2SpacingMark 3Extend 28Other 6Prepend dExtend 1SpacingMark 2Extend 195Other 1SpacingMark",
    "7Extend 1Other 6Extend 1SpacingMark 1Extend 52Other 16Extend 1Other 1SpacingMark 7Extend",
    "1SpacingMark 2Extend 1SpacingMark 2Extend 7aOther 6Extend 3Other 1Extend 1Other 2Extend",
    "1Other 7Extend 1Prepend 1Extend 42Other 5SpacingMark 1Other 2Extend 1Other 2SpacingMark",
    "1Extend 1SpacingMark 1Extend 15bOther 2Extend 2SpacingMark 9Other 2Extend 1Prepend",
    "1SpacingMark 30Other 2SpacingMark 5Extend 3Other 2SpacingMark 3Extend 17Other 1Extend",
    "14d5Other 10Control 1Extend 6Other fExtend 2cc8Other cExtend 3SpacingMark 3Extend 9c0Other",
    "5Extend 3bOther 7Extend 22cOther 1V 3Other 4V 1e4Other 1Extend 1Other 37SpacingMark 7Other",
    "4Extend 51Other 1Extend bOther 2Extend 4cabOther 2Extend 1Other 4Control 125cOther 2eExtend",
    "2Other 17Extend 21eOther 5Extend 3Other 6Extend 8Control 8Extend 2Other 7Extend 1eOther",
    "4Extend 94Other 3Extend 7bbOther 37Extend 4Other 32Extend 8Other 1Extend eOther 1Extend",
    "16Other 5Extend 1Other fExtend 550Other 7Extend 1Other 11Extend 2Other 7Extend 1Other",
    "2Extend 1Other 5Extend 64Other 1Extend a0Other 7Extend 177Other 1Extend 3dOther 4Extend",
    "1fcOther 4Extend feOther 2Extend 2e0Other 7Extend 6dOther 7Extend 89bOther",
    "1aRegional_Indicator 1fbOther 5Extend c0c00Other 20Control 60Extend 80Control f0Extend",
    "e10Control 2f000Other"]

/-- The names of each value: its short name and its long name. -/
def graphemeBreakNames : List (String × List String) := [
  ("CR", ["CR"]),
  ("Control", ["CN", "Control"]),
  ("Extend", ["EX", "Extend"]),
  ("L", ["L"]),
  ("LF", ["LF"]),
  ("LV", ["LV"]),
  ("LVT", ["LVT"]),
  ("Prepend", ["PP", "Prepend"]),
  ("Regional_Indicator", ["RI", "Regional_Indicator"]),
  ("SpacingMark", ["SM", "SpacingMark"]),
  ("T", ["T"]),
  ("V", ["V"]),
  ("ZWJ", ["ZWJ"])]

end CodeMarkup.Unicode
