import CodeMarkup.Unicode.RunTable

/-!
# Sentence breaks

The part that a character plays where a text is cut into sentences
(`CodeMarkup.Unicode.sentenceBreakTable`).
-/

namespace CodeMarkup.Unicode

/-- The value of the property for each character, under its long name. -/
def sentenceBreakTable : RunTable String :=
  RunTable.read id [
    "9Other 1Sp 1LF 2Sp 1CR 12Other 1Sp 1STerm 1Close 4Other 3Close 2Other 2SContinue 1ATerm",
    "1Other aNumeric 1SContinue 4Other 1STerm 1Other 1aUpper 1Close 1Other 1Close 3Other 1aLower",
    "1Close 1Other 1Close 7Other 1Sep 1aOther 1Sp 9Other 1Lower 1Close 1Other 1Format 7Other",
    "1Lower 4Other 1Lower 1Close 4Other 17Upper 1Other 7Upper 18Lower 1Other 8Lower 1Upper 1Lower",
    "1Upper 1Lower 1Upper 1Lower 1Upper 1Lower 1Upper 1Lower 1Upper 1Lower 1Upper 1Lower 1Upper",
    "1Lower 1Upper 1Lower 1Upper 1Lower 1Upper 1Lower 1Upper 1Lower 1Upper 1Lower 1Upper 1Lower",
    "1Upper 1Lower 1Upper 1Lower 1Upper 1Lower 1Upper 1Lower 1Upper 1Lower 1Upper 1Lower 1Upper",
    "1Lower 1Upper 1Lower 1Upper 1Lower 1Upper 1Lower 1Upper 1Lower 1Upper 1Lower 1Upper 1Lower",
    "1Upper 2Lower 1Upper 1Lower 1Upper 1Lower 1Upper 1Lower 1Upper 1Lower 1Upper 1Lower 1Upper",
    "1Lower 1Upper 1Lower 1Upper 2Lower 1Upper 1Lower 1Upper 1Lower 1Upper 1Lower 1Upper 1Lower",
    "1Upper 1Lower 1Upper 1Lower 1Upper 1Lower 1Upper 1Lower 1Upper 1Lower 1Upper 1Lower 1Upper",
    "1Lower 1Upper 1Lower 1Upper 1Lower 1Upper 1Lower 1Upper 1Lower 1Upper 1Lower 1Upper 1Lower",
    "1Upper 1Lower 1Upper 1Lower 1Upper 1Lower 1Upper 1Lower 1Upper 1Lower 1Upper 1Lower 2Upper",
    "1Lower 1Upper 1Lower 1Upper 3Lower 2Upper 1Lower 1Upper 1Lower 2Upper 1Lower 3Upper 2Lower",
    "4Upper 1Lower 2Upper 1Lower 3Upper 3Lower 2Upper 1Lower 2Upper 1Lower 1Upper 1Lower 1Upper",
    "1Lower 2Upper 1Lower 1Upper 2Lower 1Upper 1Lower 2Upper 1Lower 3Upper 1Lower 1Upper 1Lower",
    "2Upper 2Lower 1OLetter 1Upper 3Lower 4OLetter 2Upper 1Lower 2Upper 1Lower 2Upper 1Lower",
    "1Upper 1Lower 1Upper 1Lower 1Upper 1Lower 1Upper 1Lower 1Upper 1Lower 1Upper 1Lower 1Upper",
    "1Lower 1Upper 2Lower 1Upper 1Lower 1Upper 1Lower 1Upper 1Lower 1Upper 1Lower 1Upper 1Lower",
    "1Upper 1Lower 1Upper 1Lower 1Upper 1Lower 1Upper 2Lower 2Upper 1Lower 1Upper 1Lower 3Upper",
    "1Lower 1Upper 1Lower 1Upper 1Lower 1Upper 1Lower 1Upper 1Lower 1Upper 1Lower 1Upper 1Lower",
    "1Upper 1Lower 1Upper 1Lower 1Upper 1Lower 1Upper 1Lower 1Upper 1Lower 1Upper 1Lower 1Upper",
    "1Lower 1Upper 1Lower 1Upper 1Lower 1Upper 1Lower 1Upper 1Lower 1Upper 1Lower 1Upper 1Lower",
    "1Upper 1Lower 1Upper 1Lower 1Upper 1Lower 1Upper 1Lower 1Upper 1Lower 1Upper 1Lower 1Upper",
    "1Lower 1Upper 1Lower 1Upper 1Lower 1Upper 7Lower 2Upper 1Lower 2Upper 2Lower 1Upper 1Lower",
    "4Upper 1Lower 1Upper 1Lower 1Upper 1Lower 1Upper 1Lower 1Upper 45Lower 1OLetter 24Lower",
    "7OLetter 2Lower 4Other cOLetter eOther 5Lower 7Other 1OLetter 1Other 1OLetter 11Other",
    "70Extend 1Upper 1Lower 1Upper 1Lower 1OLetter 1Other 1Upper 1Lower 2Other 4Lower 1Other",
    "1Upper 6Other 1Upper 1Other 3Upper 1Other 1Upper 1Other 2Upper 1Lower 11Upper 1Other 9Upper",
    "23Lower 1Upper 2Lower 3Upper 3Lower 1Upper 1Lower 1Upper 1Lower 1Upper 1Lower 1Upper 1Lower",
    "1Upper 1Lower 1Upper 1Lower 1Upper 1Lower 1Upper 1Lower 1Upper 1Lower 1Upper 1Lower 1Upper",
    "1Lower 1Upper 5Lower 1Upper 1Lower 1Other 1Upper 1Lower 2Upper 2Lower 33Upper 30Lower 1Upper",
    "1Lower 1Upper 1Lower 1Upper 1Lower 1Upper 1Lower 1Upper 1Lower 1Upper 1Lower 1Upper 1Lower",
    "1Upper 1Lower 1Upper 1Lower 1Upper 1Lower 1Upper 1Lower 1Upper 1Lower 1Upper 1Lower 1Upper",
    "1Lower 1Upper 1Lower 1Upper 1Lower 1Upper 1Lower 1Other 7Extend 1Upper 1Lower 1Upper 1Lower",
    "1Upper 1Lower 1Upper 1Lower 1Upper 1Lower 1Upper 1Lower 1Upper 1Lower 1Upper 1Lower 1Upper",
    "1Lower 1Upper 1Lower 1Upper 1Lower 1Upper 1Lower 1Upper 1Lower 1Upper 1Lower 1Upper 1Lower",
    "1Upper 1Lower 1Upper 1Lower 1Upper 1Lower 1Upper 1Lower 1Upper 1Lower 1Upper 1Lower 1Upper",
    "1Lower 1Upper 1Lower 1Upper 1Lower 1Upper 1Lower 1Upper 1Lower 1Upper 1Lower 2Upper 1Lower",
    "1Upper 1Lower 1Upper 1Lower 1Upper 1Lower 1Upper 1Lower 1Upper 1Lower 1Upper 2Lower 1Upper",
    "1Lower 1Upper 1Lower 1Upper 1Lower 1Upper 1Lower 1Upper 1Lower 1Upper 1Lower 1Upper 1Lower",
    "1Upper 1Lower 1Upper 1Lower 1Upper 1Lower 1Upper 1Lower 1Upper 1Lower 1Upper 1Lower 1Upper",
    "1Lower 1Upper 1Lower 1Upper 1Lower 1Upper 1Lower 1Upper 1Lower 1Upper 1Lower 1Upper 1Lower",
    "1Upper 1Lower 1Upper 1Lower 1Upper 1Lower 1Upper 1Lower 1Upper 1Lower 1Upper 1Lower 1Upper",
    "1Lower 1Upper 1Lower 1Upper 1Lower 1Upper 1Lower 1Upper 1Lower 1Upper 1Lower 1Upper 1Lower",
    "1Upper 1Lower 1Upper 1Lower 1Upper 1Lower 1Upper 1Lower 1Upper 1Lower 1Upper 1Lower 1Upper",
    "1Lower 1Upper 1Lower 1Upper 1Lower 1Upper 1Lower 1Upper 1Lower 1Upper 1Lower 1Upper 1Lower",
    "1Upper 1Lower 1Upper 1Lower 1Other 26Upper 2Other 1OLetter 3Other 1SContinue 2Other 29Lower",
    "1STerm 7Other 2dExtend 1Other 1Extend 1Other 2Extend 1Other 2Extend 1Other 1Extend 8Other",
    "1bOLetter 4Other 5OLetter cOther 6Format 6Other 2SContinue 2Other bExtend 1Other 1Format",
    "3STerm 2bOLetter 15Extend aNumeric 1Other 2Numeric 1Other 2OLetter 1Extend 63OLetter 1STerm",
    "1OLetter 7Extend 1Format 1Other 6Extend 2OLetter 2Extend 1Other 4Extend 2OLetter aNumeric",
    "3OLetter 2Other 1OLetter 3STerm cOther 1Format 1OLetter 1Extend 1eOLetter 1bExtend 2Other",
    "59OLetter bExtend 1OLetter eOther aNumeric 21OLetter 9Extend 2OLetter 2Other 1SContinue",
    "1STerm 1OLetter 2Other 1Extend 2Other 16OLetter 4Extend 1OLetter 9Extend 1OLetter 3Extend",
    "1OLetter 5Extend 9Other 1STerm 1Other 1STerm 3Other 2STerm 1Other 19OLetter 3Extend 4Other",
    "bOLetter 5Other 18OLetter 1Other 6OLetter 1Other 2Format 5Other 9Extend 2aOLetter 18Extend",
    "1Format 21Extend 36OLetter 3Extend 1OLetter 12Extend 1OLetter 7Extend aOLetter 2Extend",
    "2STerm aNumeric 1Other 10OLetter 3Extend 1Other 8OLetter 2Other 2OLetter 2Other 16OLetter",
    "1Other 7OLetter 1Other 1OLetter 3Other 4OLetter 2Other 1Extend 1OLetter 7Extend 2Other",
    "2Extend 2Other 3Extend 1OLetter 8Other 1Extend 4Other 2OLetter 1Other 3OLetter 2Extend",
    "2Other aNumeric 2OLetter aOther 1OLetter 1Other 1Extend 2Other 3Extend 1Other 6OLetter",
    "4Other 2OLetter 2Other 16OLetter 1Other 7OLetter 1Other 2OLetter 1Other 2OLetter 1Other",
    "2OLetter 2Other 1Extend 1Other 5Extend 4Other 2Extend 2Other 3Extend 3Other 1Extend 7Other",
    "4OLetter 1Other 1OLetter 7Other aNumeric 2Extend 3OLetter 1Extend bOther 3Extend 1Other",
    "9OLetter 1Other 3OLetter 1Other 16OLetter 1Other 7OLetter 1Other 2OLetter 1Other 5OLetter",
    "2Other 1Extend 1OLetter 8Extend 1Other 3Extend 1Other 3Extend 2Other 1OLetter fOther",
    "2OLetter 2Extend 2Other aNumeric 9Other 1OLetter 6Extend 1Other 3Extend 1Other 8OLetter",
    "2Other 2OLetter 2Other 16OLetter 1Other 7OLetter 1Other 2OLetter 1Other 5OLetter 2Other",
    "1Extend 1OLetter 7Extend 2Other 2Extend 2Other 3Extend 7Other 3Extend 4Other 2OLetter 1Other",
    "3OLetter 2Extend 2Other aNumeric 1Other 1OLetter 10Other 1Extend 1OLetter 1Other 6OLetter",
    "3Other 3OLetter 1Other 4OLetter 3Other 2OLetter 1Other 1OLetter 1Other 2OLetter 3Other",
    "2OLetter 3Other 3OLetter 3Other cOLetter 4Other 5Extend 3Other 3Extend 1Other 4Extend 2Other",
    "1OLetter 6Other 1Extend eOther aNumeric 10Other 5Extend 8OLetter 1Other 3OLetter 1Other",
    "17OLetter 1Other 10OLetter 2Other 1Extend 1OLetter 7Extend 1Other 3Extend 1Other 4Extend",
    "7Other 2Extend 1Other 3OLetter 2Other 1OLetter 2Other 2OLetter 2Extend 2Other aNumeric",
    "10Other 1OLetter 3Extend 1Other 8OLetter 1Other 3OLetter 1Other 17OLetter 1Other aOLetter",
    "1Other 5OLetter 2Other 1Extend 1OLetter 7Extend 1Other 3Extend 1Other 4Extend 7Other 2Extend",
    "6Other 2OLetter 1Other 2OLetter 2Extend 2Other aNumeric 1Other 2OLetter 1Extend cOther",
    "4Extend 9OLetter 1Other 3OLetter 1Other 29OLetter 2Extend 1OLetter 7Extend 1Other 3Extend",
    "1Other 4Extend 1OLetter 5Other 3OLetter 1Extend 7Other 3OLetter 2Extend 2Other aNumeric",
    "aOther 6OLetter 1Other 3Extend 1Other 12OLetter 3Other 18OLetter 1Other 9OLetter 1Other",
    "1OLetter 2Other 7OLetter 3Other 1Extend 4Other 6Extend 1Other 1Extend 1Other 8Extend 6Other",
    "aNumeric 2Other 2Extend dOther 30OLetter 1Extend 2OLetter 7Extend 5Other 7OLetter 8Extend",
    "1Other aNumeric 27Other 2OLetter 1Other 1OLetter 1Other 5OLetter 1Other 18OLetter 1Other",
    "1OLetter 1Other aOLetter 1Extend 2OLetter 9Extend 1OLetter 2Other 5OLetter 1Other 1OLetter",
    "1Other 7Extend 1Other aNumeric 2Other 4OLetter 20Other 1OLetter 17Other 2Extend 6Other",
    "aNumeric bOther 1Extend 1Other 1Extend 1Other 1Extend 4Close 2Extend 8OLetter 1Other",
    "24OLetter 4Other 14Extend 1Other 2Extend 5OLetter bExtend 1Other 24Extend 9Other 1Extend",
    "39Other 2bOLetter 14Extend 1OLetter aNumeric 2STerm 4Other 6OLetter 4Extend 4OLetter 3Extend",
    "1OLetter 3Extend 2OLetter 7Extend 3OLetter 4Extend dOLetter cExtend 1OLetter 1Extend",
    "aNumeric 4Extend 2Other 26Upper 1Other 1Upper 5Other 1Upper 2Other 2bOLetter 1Other 1Lower",
    "14cOLetter 1Other 4OLetter 2Other 7OLetter 1Other 1OLetter 1Other 4OLetter 2Other 29OLetter",
    "1Other 4OLetter 2Other 21OLetter 1Other 4OLetter 2Other 7OLetter 1Other 1OLetter 1Other",
    "4OLetter 2Other fOLetter 1Other 39OLetter 1Other 4OLetter 2Other 43OLetter 2Other 3Extend",
    "2Other 1STerm 4Other 2STerm 17Other 10OLetter 10Other 56Upper 2Other 6Lower 3Other",
    "26cOLetter 1Other 1STerm 11OLetter 1Sp 1aOLetter 2Close 3Other 4bOLetter 3Other bOLetter",
    "7Other 12OLetter 4Extend 9Other 13OLetter 3Extend 2STerm 9Other 12OLetter 2Extend cOther",
    "dOLetter 1Other 3OLetter 1Other 2Extend cOther 34OLetter 20Extend 3Other 1OLetter 4Other",
    "1OLetter 1Extend 2Other aNumeric 18Other 1SContinue 1STerm 4Other 1SContinue 1STerm 1Other",
    "3Extend 1Format 1Extend aNumeric 6Other 59OLetter 7Other 5OLetter 2Extend 22OLetter 1Extend",
    "1OLetter 5Other 46OLetter aOther 1fOLetter 1Other cExtend 4Other cExtend 8Other 2STerm",
    "aNumeric 1eOLetter 2Other 5OLetter bOther 2cOLetter 4Other 1aOLetter 6Other aNumeric 26Other",
    "17OLetter 5Extend 4Other 35OLetter aExtend 1Other 1dExtend 2Other 1Extend aNumeric 6Other",
    "aNumeric dOther 1OLetter 4STerm 4Other 1fExtend 31Other 5Extend 2fOLetter 11Extend 8OLetter",
    "1Other 2STerm aNumeric 2STerm 2Other 2STerm bOther 9Extend 9Other 3STerm 3Extend 1eOLetter",
    "dExtend 2OLetter aNumeric 2cOLetter eExtend cOther 24OLetter 14Extend 3Other 2STerm 3Other",
    "aNumeric 3Other 3OLetter aNumeric 24OLetter 2STerm 9Lower 1Upper 1Lower 5Other 2bOLetter",
    "2Other 3OLetter 10Other 3Extend 1Other 15Extend 4OLetter 1Extend 6OLetter 1Extend 2OLetter",
    "3Extend 1OLetter 5Other c0Lower 40Extend 1Upper 1Lower 1Upper 1Lower 1Upper 1Lower 1Upper",
    "1Lower 1Upper 1Lower 1Upper 1Lower 1Upper 1Lower 1Upper 1Lower 1Upper 1Lower 1Upper 1Lower",
    "1Upper 1Lower 1Upper 1Lower 1Upper 1Lower 1Upper 1Lower 1Upper 1Lower 1Upper 1Lower 1Upper",
    "1Lower 1Upper 1Lower 1Upper 1Lower 1Upper 1Lower 1Upper 1Lower 1Upper 1Lower 1Upper 1Lower",
    "1Upper 1Lower 1Upper 1Lower 1Upper 1Lower 1Upper 1Lower 1Upper 1Lower 1Upper 1Lower 1Upper",
    "1Lower 1Upper 1Lower 1Upper 1Lower 1Upper 1Lower 1Upper 1Lower 1Upper 1Lower 1Upper 1Lower",
    "1Upper 1Lower 1Upper 1Lower 1Upper 1Lower 1Upper 1Lower 1Upper 1Lower 1Upper 1Lower 1Upper",
    "1Lower 1Upper 1Lower 1Upper 1Lower 1Upper 1Lower 1Upper 1Lower 1Upper 1Lower 1Upper 1Lower",
    "1Upper 1Lower 1Upper 1Lower 1Upper 1Lower 1Upper 1Lower 1Upper 1Lower 1Upper 1Lower 1Upper",
    "1Lower 1Upper 1Lower 1Upper 1Lower 1Upper 1Lower 1Upper 1Lower 1Upper 1Lower 1Upper 1Lower",
    "1Upper 1Lower 1Upper 1Lower 1Upper 1Lower 1Upper 1Lower 1Upper 1Lower 1Upper 1Lower 1Upper",
    "1Lower 1Upper 1Lower 1Upper 1Lower 1Upper 1Lower 1Upper 1Lower 1Upper 1Lower 1Upper 9Lower",
    "1Upper 1Lower 1Upper 1Lower 1Upper 1Lower 1Upper 1Lower 1Upper 1Lower 1Upper 1Lower 1Upper",
    "1Lower 1Upper 1Lower 1Upper 1Lower 1Upper 1Lower 1Upper 1Lower 1Upper 1Lower 1Upper 1Lower",
    "1Upper 1Lower 1Upper 1Lower 1Upper 1Lower 1Upper 1Lower 1Upper 1Lower 1Upper 1Lower 1Upper",
    "1Lower 1Upper 1Lower 1Upper 1Lower 1Upper 1Lower 1Upper 1Lower 1Upper 1Lower 1Upper 1Lower",
    "1Upper 1Lower 1Upper 1Lower 1Upper 1Lower 1Upper 1Lower 1Upper 1Lower 1Upper 1Lower 1Upper",
    "1Lower 1Upper 1Lower 1Upper 1Lower 1Upper 1Lower 1Upper 1Lower 1Upper 1Lower 1Upper 1Lower",
    "1Upper 1Lower 1Upper 1Lower 1Upper 1Lower 1Upper 1Lower 1Upper 1Lower 1Upper 1Lower 1Upper",
    "1Lower 1Upper 1Lower 1Upper 1Lower 1Upper 9Lower 8Upper 6Lower 2Other 6Upper 2Other 8Lower",
    "8Upper 8Lower 8Upper 6Lower 2Other 6Upper 2Other 8Lower 1Other 1Upper 1Other 1Upper 1Other",
    "1Upper 1Other 1Upper 8Lower 8Upper eLower 2Other 8Lower 8Upper 8Lower 8Upper 8Lower 8Upper",
    "5Lower 1Other 2Lower 5Upper 1Other 1Lower 3Other 3Lower 1Other 2Lower 5Upper 3Other 4Lower",
    "2Other 2Lower 4Upper 4Other 8Lower 5Upper 5Other 3Lower 1Other 2Lower 5Upper 3Other bSp",
    "1Format 2Extend 2Format 3Other 2SContinue 3Other 8Close 4Other 1ATerm 3Other 2Sep 5Format",
    "1Sp 9Other 2Close 1Other 2STerm 7Other 2Close 3STerm 15Other 1Sp 5Format 1Other aFormat",
    "1Other 1Lower bOther 2Close 1Lower dOther 2Close 1Other dLower 33Other 21Extend 11Other",
    "1Upper 4Other 1Upper 2Other 1Lower 3Upper 2Lower 3Upper 1Lower 1Other 1Upper 3Other 5Upper",
    "6Other 1Upper 1Other 1Upper 1Other 1Upper 1Other 4Upper 1Other 1Lower 4Upper 1Lower 4OLetter",
    "1Lower 2Other 2Lower 2Upper 5Other 1Upper 4Lower 4Other 1Lower 11Other 10Upper 10Lower",
    "3OLetter 1Upper 1Lower 4OLetter 17fOther 4Close 1dOther 2Close 18bOther 1aUpper 1aLower",
    "271Other 6Close 7Other eClose 4fOther 2Close 1fOther aClose 193Other 16Close 3fOther 4Close",
    "20Other 2Close 202Other 30Upper 30Lower 1Upper 1Lower 3Upper 2Lower 1Upper 1Lower 1Upper",
    "1Lower 1Upper 1Lower 4Upper 1Lower 1Upper 2Lower 1Upper 8Lower 3Upper 1Lower 1Upper 1Lower",
    "1Upper 1Lower 1Upper 1Lower 1Upper 1Lower 1Upper 1Lower 1Upper 1Lower 1Upper 1Lower 1Upper",
    "1Lower 1Upper 1Lower 1Upper 1Lower 1Upper 1Lower 1Upper 1Lower 1Upper 1Lower 1Upper 1Lower",
    "1Upper 1Lower 1Upper 1Lower 1Upper 1Lower 1Upper 1Lower 1Upper 1Lower 1Upper 1Lower 1Upper",
    "1Lower 1Upper 1Lower 1Upper 1Lower 1Upper 1Lower 1Upper 1Lower 1Upper 1Lower 1Upper 1Lower",
    "1Upper 1Lower 1Upper 1Lower 1Upper 1Lower 1Upper 1Lower 1Upper 1Lower 1Upper 1Lower 1Upper",
    "1Lower 1Upper 1Lower 1Upper 1Lower 1Upper 1Lower 1Upper 1Lower 1Upper 1Lower 1Upper 1Lower",
    "1Upper 1Lower 1Upper 1Lower 1Upper 1Lower 1Upper 1Lower 1Upper 1Lower 1Upper 1Lower 1Upper",
    "1Lower 1Upper 1Lower 1Upper 2Lower 6Other 1Upper 1Lower 1Upper 1Lower 3Extend 1Upper 1Lower",
    "cOther 26Lower 1Other 1Lower 5Other 1Lower 2Other 38OLetter 7Other 1OLetter fOther 1Extend",
    "17OLetter 9Other 7OLetter 1Other 7OLetter 1Other 7OLetter 1Other 7OLetter 1Other 7OLetter",
    "1Other 7OLetter 1Other 7OLetter 1Other 7OLetter 1Other 20Extend eClose eOther 2Close 2Other",
    "aClose 4Other 1STerm 1OLetter cOther 1STerm 5Other 1Close 10Other 2STerm 8Close 1a3Other 1Sp",
    "1SContinue 1STerm 2Other 3OLetter aClose 2Other 8Close 1Other 3Close 1Other 9OLetter 6Extend",
    "1Other 5OLetter 2Other 5OLetter 4Other 56OLetter 2Other 2Extend 2Other 3OLetter 1Other",
    "5aOLetter 1Other 4OLetter 5Other 2bOLetter 1Other 5eOLetter 11Other 20OLetter 30Other",
    "10OLetter 200Other 19c0OLetter 40Other 568dOLetter 43Other 2eOLetter 1Other 1STerm",
    "10dOLetter 1Other 2STerm 10OLetter aNumeric 2OLetter 14Other 1Upper 1Lower 1Upper 1Lower",
    "1Upper 1Lower 1Upper 1Lower 1Upper 1Lower 1Upper 1Lower 1Upper 1Lower 1Upper 1Lower 1Upper",
    "1Lower 1Upper 1Lower 1Upper 1Lower 1Upper 1Lower 1Upper 1Lower 1Upper 1Lower 1Upper 1Lower",
    "1Upper 1Lower 1Upper 1Lower 1Upper 1Lower 1Upper 1Lower 1Upper 1Lower 1Upper 1Lower 1Upper",
    "1Lower 1Upper 1Lower 1OLetter 4Extend 1Other aExtend 1Other 1OLetter 1Upper 1Lower 1Upper",
    "1Lower 1Upper 1Lower 1Upper 1Lower 1Upper 1Lower 1Upper 1Lower 1Upper 1Lower 1Upper 1Lower",
    "1Upper 1Lower 1Upper 1Lower 1Upper 1Lower 1Upper 1Lower 1Upper 1Lower 1Upper 3Lower 2Extend",
    "50OLetter 2Extend 1Other 1STerm 3Other 1STerm 1fOther 9OLetter 2Other 1Upper 1Lower 1Upper",
    "1Lower 1Upper 1Lower 1Upper 1Lower 1Upper 1Lower 1Upper 1Lower 1Upper 3Lower 1Upper 1Lower",
    "1Upper 1Lower 1Upper 1Lower 1Upper 1Lower 1Upper 1Lower 1Upper 1Lower 1Upper 1Lower 1Upper",
    "1Lower 1Upper 1Lower 1Upper 1Lower 1Upper 1Lower 1Upper 1Lower 1Upper 1Lower 1Upper 1Lower",
    "1Upper 1Lower 1Upper 1Lower 1Upper 1Lower 1Upper 1Lower 1Upper 1Lower 1Upper 1Lower 1Upper",
    "1Lower 1Upper 1Lower 1Upper 1Lower 1Upper 1Lower 1Upper 1Lower 1Upper 1Lower 1Upper 1Lower",
    "1Upper 1Lower 1Upper 1Lower 1Upper 1Lower 1Upper aLower 1Upper 1Lower 1Upper 1Lower 2Upper",
    "1Lower 1Upper 1Lower 1Upper 1Lower 1Upper 1Lower 1Upper 1Lower 1OLetter 2Other 1Upper 1Lower",
    "1Upper 1Lower 1OLetter 1Upper 1Lower 1Upper 3Lower 1Upper 1Lower 1Upper 1Lower 1Upper 1Lower",
    "1Upper 1Lower 1Upper 1Lower 1Upper 1Lower 1Upper 1Lower 1Upper 1Lower 1Upper 1Lower 1Upper",
    "1Lower 5Upper 1Lower 5Upper 1Lower 1Upper 1Lower 1Upper 1Lower 1Upper 1Lower 1Upper 1Lower",
    "1Upper 1Lower 1Upper 1Lower 1Upper 1Lower 4Upper 1Lower 1Upper 1Lower 2Upper 1Lower 2Other",
    "1Upper 1Lower 1Other 1Lower 1Other 1Lower 1Upper 1Lower 1Upper 1Lower 1Upper 1Lower 1Upper",
    "15Other 3Lower 1Upper 1Lower 1OLetter 3Lower 7OLetter 1Extend 3OLetter 1Extend 4OLetter",
    "1Extend 17OLetter 5Extend 4Other 1Extend 13Other 34OLetter 2Other 2STerm 8Other 2Extend",
    "32OLetter 12Extend 8Other 2STerm aNumeric 6Other 12Extend 6OLetter 3Other 1OLetter 1Other",
    "2OLetter 1Extend aNumeric 1cOLetter 8Extend 1Other 1STerm 17OLetter dExtend cOther 1dOLetter",
    "3Other 4Extend 2fOLetter eExtend 7Other 2STerm 5Other 1OLetter aNumeric 6Other 5OLetter",
    "1Extend aOLetter aNumeric 5OLetter 1Other 29OLetter eExtend 9Other 3OLetter 1Extend 8OLetter",
    "2Extend 2Other aNumeric 3Other 3STerm 17OLetter 3Other 1OLetter 3Extend 32OLetter 1Extend",
    "1OLetter 3Extend 2OLetter 2Extend 5OLetter 2Extend 1OLetter 1Extend 1OLetter 18Other",
    "3OLetter 2Other bOLetter 5Extend 2STerm 3OLetter 2Extend aOther 6OLetter 2Other 6OLetter",
    "2Other 6OLetter 9Other 7OLetter 1Other 7OLetter 1Other 2bLower 1Other eLower 6Other 50Lower",
    "23OLetter 8Extend 1STerm 2Extend 2Other aNumeric 6Other 2ba4OLetter cOther 17OLetter 4Other",
    "31OLetter 2104Other 16eOLetter 2Other 6aOLetter 26Other 7Lower cOther 5Lower 5Other 1OLetter",
    "1Extend aOLetter 1Other dOLetter 1Other 5OLetter 1Other 1OLetter 1Other 2OLetter 1Other",
    "2OLetter 1Other 6cOLetter 21Other 16bOLetter 2Close 10Other 40OLetter 2Other 36OLetter",
    "28Other cOLetter 4Other 10Extend 2SContinue 1Other 1SContinue 3Other 2Close 7Other 10Extend",
    "1Other 2SContinue 2Other 10Close 2Other 2Close 7Other 2SContinue 1ATerm 2Other 1SContinue",
    "2STerm 1SContinue 6Close 4Other 1SContinue cOther 5OLetter 1Other 87OLetter 2Other 1Format",
    "1Other 1STerm 6Other 2Close 2Other 2SContinue 1ATerm 1Other aNumeric 1SContinue 4Other",
    "1STerm 1Other 1aUpper 1Close 1Other 1Close 3Other 1aLower 1Close 1Other 1Close 1Other 2Close",
    "1STerm 2Close 1SContinue 1Other 38OLetter 2Extend 1fOLetter 3Other 6OLetter 2Other 6OLetter",
    "2Other 6OLetter 2Other 3OLetter 1cOther 3Format 4Other cOLetter 1Other 1aOLetter 1Other",
    "13OLetter 1Other 2OLetter 1Other fOLetter 2Other eOLetter 22Other 7bOLetter 45Other",
    "35OLetter 88Other 1Extend 82Other 1dOLetter 3Other 31OLetter fOther 1Extend 1fOther",
    "20OLetter dOther 1eOLetter 5Other 26OLetter 5Extend 5Other 1eOLetter 2Other 24OLetter 4Other",
    "8OLetter 1Other 5OLetter 2aOther 28Upper 28Lower 4eOLetter 2Other aNumeric 6Other 24Upper",
    "4Other 24Lower 4Other 28OLetter 8Other 34OLetter cOther bUpper 1Other fUpper 1Other 7Upper",
    "1Other 2Upper 1Other bLower 1Other fLower 1Other 7Lower 1Other 2Lower 3Other 34OLetter",
    "cOther 137OLetter 9Other 16OLetter aOther 8OLetter 18Other 1Lower 2OLetter 3Lower 1Other",
    "2aLower 1Other 9Lower 45Other 6OLetter 2Other 1OLetter 1Other 2cOLetter 1Other 2OLetter",
    "3Other 1OLetter 2Other 17OLetter aOther 17OLetter 9Other 1fOLetter 41Other 13OLetter 1Other",
    "2OLetter aOther 16OLetter aOther 1aOLetter 46Other 38OLetter 6Other 2OLetter 40Other",
    "1OLetter 3Extend 1Other 2Extend 5Other 4Extend 4OLetter 1Other 3OLetter 1Other 1dOLetter",
    "2Other 3Extend 4Other 1Extend 16Other 2STerm 8Other 1dOLetter 3Other 1dOLetter 23Other",
    "8OLetter 1Other 1cOLetter 2Extend 19Other 36OLetter aOther 16OLetter aOther 13OLetter dOther",
    "12OLetter 6eOther 49OLetter 37Other 33Upper dOther 33Lower dOther 24OLetter 4Extend 8Other",
    "aNumeric 6Other aNumeric 6OLetter 16Upper 3Other 5Extend 1Other 1OLetter 16Lower faOther",
    "2aOLetter 1Other 2Extend 3Other 2OLetter 10Other 3OLetter 37Other 4Extend 1dOLetter aOther",
    "1OLetter 8Other 16OLetter bExtend 4Other 5STerm 16Other 12OLetter 4Extend 4STerm 26Other",
    "15OLetter 1bOther 17OLetter 9Other 3Extend 35OLetter fExtend 2STerm 1dOther aNumeric 1Extend",
    "2OLetter 2Extend 1OLetter 9Other 4Extend 2dOLetter bExtend 2Other 1Format 4STerm 1Extend",
    "aOther 1Format 2Other 19OLetter 7Other aNumeric 6Other 3Extend 24OLetter eExtend 1Other",
    "aNumeric 1Other 3STerm 1OLetter 2Extend 1OLetter 8Other 23OLetter 1Extend 2Other 1OLetter",
    "9Other 3Extend 30OLetter eExtend 4OLetter 2STerm 2Other 4Extend 1STerm 2Extend aNumeric",
    "1OLetter 1Other 1OLetter 1Other 2STerm 20Other 12OLetter 1Other 19OLetter cExtend 2STerm",
    "1Other 2STerm 1Other 1Extend 2OLetter 1Extend 3eOther 7OLetter 1Other 1OLetter 1Other",
    "4OLetter 1Other fOLetter 1Other aOLetter 1STerm 6Other 2fOLetter cExtend 5Other aNumeric",
    "6Other 4Extend 1Other 8OLetter 2Other 2OLetter 2Other 16OLetter 1Other 7OLetter 1Other",
    "2OLetter 1Other 5OLetter 1Other 2Extend 1OLetter 7Extend 2Other 2Extend 2Other 3Extend",
    "2Other 1OLetter 6Other 1Extend 5Other 5OLetter 2Extend 2Other 7Extend 3Other 5Extend bOther",
    "aOLetter 1Other 1OLetter 2Other 1OLetter 1Other 26OLetter 1Other 1OLetter 9Extend 1Other",
    "1Extend 2Other 1Extend 1Other 4Extend 1Other 5Extend 1OLetter 1Extend 1OLetter 2STerm bOther",
    "2Extend 1dOther 35OLetter 12Extend 4OLetter 2STerm 3Other aNumeric 4Other 1Extend 3OLetter",
    "1eOther 30OLetter 14Extend 2OLetter 1Other 1OLetter 8Other aNumeric a6Other 2fOLetter",
    "7Extend 2Other 9Extend 1Other 2STerm 5Other fSTerm 4OLetter 2Extend 22Other 30OLetter",
    "11Extend 2STerm 1Other 1OLetter bOther aNumeric 26Other 2bOLetter dExtend 1OLetter 7Other",
    "aNumeric 6Other 14Numeric 1cOther 1bOLetter 2Other fExtend 4Other aNumeric 2Other 3STerm",
    "1Other 7OLetter b9Other 2cOLetter fExtend 65Other 20Upper 20Lower aNumeric 15Other 8OLetter",
    "2Other 1OLetter 2Other 8OLetter 1Other 2OLetter 1Other 18OLetter 6Extend 1Other 2Extend",
    "2Other 4Extend 1OLetter 1Extend 1OLetter 2Extend 1STerm 1Other 1STerm 9Other aNumeric",
    "46Other 8OLetter 2Other 27OLetter 7Extend 2Other 7Extend 1OLetter 1Other 1OLetter 1Extend",
    "1bOther 1OLetter aExtend 28OLetter 7Extend 1OLetter 4Extend 3Other 2STerm 3Other 1Extend",
    "8Other 1OLetter bExtend 2eOLetter 10Extend 1Other 2STerm 1OLetter 12Other 49OLetter c7Other",
    "21OLetter fOther aNumeric 6Other 9OLetter 1Other 25OLetter 8Extend 1Other 8Extend 1OLetter",
    "2STerm dOther aNumeric 18Other 1eOLetter 2Other 16Extend 1Other eExtend 49Other 7OLetter",
    "1Other 2OLetter 1Other 26OLetter 6Extend 3Other 1Extend 1Other 2Extend 1Other 7Extend",
    "1OLetter 1Extend 8Other aNumeric 6Other 6OLetter 1Other 2OLetter 1Other 20OLetter 5Extend",
    "1Other 2Extend 1Other 5Extend 1OLetter 7Other aNumeric 136Other 13OLetter 4Extend 2STerm",
    "7Other 2Extend 1OLetter 1Extend dOLetter 1Other 22OLetter 7Extend 3Other 5Extend 2STerm",
    "bOther aNumeric 1Extend 55Other 1OLetter 4fOther 39aOLetter 66Other 6fOLetter 11Other",
    "c4OLetter a4cOther 61OLetter fOther 430OLetter 10Format 1Extend 6OLetter fExtend aOther",
    "f9bOLetter 5Other 247OLetter 1ab9Other 1eOLetter 12Extend aNumeric 6c6Other 239OLetter",
    "7Other 1fOLetter 1Other aNumeric 4Other 2STerm 4fOLetter 1Other aNumeric 6Other 1eOLetter",
    "2Other 5Extend 1STerm aOther 30OLetter 7Extend 2STerm 7Other 4OLetter 1STerm bOther aNumeric",
    "9Other 15OLetter 5Other 13OLetter 1b0Other 2dOLetter 1Other 2STerm aNumeric c6Other 20Upper",
    "20Lower 18Other 1STerm 67Other 4bOLetter 4Other 1Extend 1OLetter 37Extend 7Other 4Extend",
    "dOLetter 40Other 2OLetter 1Other 1OLetter 1Extend bOther 2Extend eOther 17f8OLetter 8Other",
    "4d6OLetter 29Other aOLetter 22e7Other 4OLetter 1Other 7OLetter 1Other 2OLetter 1Other",
    "123OLetter fOther 1OLetter 1dOther 3OLetter 2Other 1OLetter eOther 4OLetter 8Other",
    "18cOLetter 904Other 6bOLetter 5Other dOLetter 3Other 9OLetter 7Other aOLetter 3Other 2Extend",
    "1STerm 4Format 104cOther aNumeric 206Other 2eExtend 2Other 17Extend 21eOther 5Extend 3Other",
    "6Extend 8Format 8Extend 2Other 7Extend 1eOther 4Extend 94Other 3Extend 1bbOther 1aUpper",
    "1aLower 1aUpper 7Lower 1Other 12Lower 1aUpper 1aLower 1Upper 1Other 2Upper 2Other 1Upper",
    "2Other 2Upper 2Other 4Upper 1Other 8Upper 4Lower 1Other 1Lower 1Other 7Lower 1Other bLower",
    "1aUpper 1aLower 2Upper 1Other 4Upper 2Other 8Upper 1Other 7Upper 1Other 1aLower 2Upper",
    "1Other 4Upper 1Other 5Upper 1Other 1Upper 3Other 7Upper 1Other 1aLower 1aUpper 1aLower",
    "1aUpper 1aLower 1aUpper 1aLower 1aUpper 1aLower 1aUpper 1aLower 1aUpper 1cLower 2Other",
    "19Upper 1Other 19Lower 1Other 6Lower 19Upper 1Other 19Lower 1Other 6Lower 19Upper 1Other",
    "19Lower 1Other 6Lower 19Upper 1Other 19Lower 1Other 6Lower 19Upper 1Other 19Lower 1Other",
    "6Lower 1Upper 1Lower 2Other 32Numeric 200Other 37Extend 4Other 32Extend 8Other 1Extend",
    "eOther 1Extend 3Other 1STerm 12Other 5Extend 1Other fExtend 450Other aLower 1OLetter 14Lower",
    "6Other 6Lower d5Other 7Extend 1Other 11Extend 2Other 7Extend 1Other 2Extend 1Other 5Extend",
    "5Other 3eLower 21Other 1Extend 70Other 2dOLetter 3Other 7Extend 7OLetter 2Other aNumeric",
    "4Other 1OLetter 141Other 1eOLetter 1Extend 11Other 2cOLetter 4Extend aNumeric 1d6Other",
    "1cOLetter 4Extend aNumeric d6Other 1eOLetter 2Extend 1OLetter aNumeric 1e5Other 7OLetter",
    "1Other 4OLetter 1Other 2OLetter 1Other fOLetter 1Other c5OLetter bOther 7Extend 29Other",
    "22Upper 22Lower 7Extend 1OLetter 4Other aNumeric 4a6Other 4OLetter 1Other 1bOLetter 1Other",
    "2OLetter 1Other 1OLetter 2Other 1OLetter 1Other aOLetter 1Other 4OLetter 1Other 1OLetter",
    "1Other 1OLetter 6Other 1OLetter 4Other 1OLetter 1Other 1OLetter 1Other 1OLetter 1Other",
    "3OLetter 1Other 2OLetter 1Other 1OLetter 2Other 1OLetter 1Other 1OLetter 1Other 1OLetter",
    "1Other 1OLetter 1Other 1OLetter 1Other 2OLetter 1Other 1OLetter 2Other 4OLetter 1Other",
    "7OLetter 1Other 4OLetter 1Other 4OLetter 1Other 1OLetter 1Other aOLetter 1Other 11OLetter",
    "5Other 3OLetter 1Other 5OLetter 1Other 11OLetter 274Other 1aUpper 6Other 1aUpper 6Other",
    "1aUpper 4ecOther 3Close 577Other aNumeric 406Other a6e0OLetter 20Other 103aOLetter 6Other",
    "deOLetter 2Other 1682OLetter eOther 1d31OLetter fOther 26eOLetter 9a2Other 21eOLetter",
    "5e2Other 134bOLetter 5Other 1060OLetter adc51Other 1Format 1eOther 60Extend 80Other f0Extend",
    "2fe10Other"]

/-- The names of each value: its short name and its long name. -/
def sentenceBreakNames : List (String × List String) := [
  ("ATerm", ["AT", "ATerm"]),
  ("CR", ["CR"]),
  ("Close", ["CL", "Close"]),
  ("Extend", ["EX", "Extend"]),
  ("Format", ["FO", "Format"]),
  ("LF", ["LF"]),
  ("Lower", ["LO", "Lower"]),
  ("Numeric", ["NU", "Numeric"]),
  ("OLetter", ["LE", "OLetter"]),
  ("SContinue", ["SC", "SContinue"]),
  ("STerm", ["ST", "STerm"]),
  ("Sep", ["SE", "Sep"]),
  ("Sp", ["SP", "Sp"]),
  ("Upper", ["UP", "Upper"])]

end CodeMarkup.Unicode
