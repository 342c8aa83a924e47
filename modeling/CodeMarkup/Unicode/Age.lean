import CodeMarkup.Unicode.RunTable

/-!
# The age of characters

The version of the standard in which a character was first assigned
(`CodeMarkup.Unicode.ageTable`), up to version 16.
-/

namespace CodeMarkup.Unicode

/-- The version that assigned each character; the empty text for those without one. -/
def ageTable : RunTable String :=
  RunTable.read (fun tag => String.ofList (tag.toList.drop 1)) [
    "1f6V1.1 4V3.0 1eV1.1 8V3.0 1V3.2 1V4.0 12V3.0 3V4.0 bV4.1 eV5.0 59V1.1 5V3.0 2V4.0 2fV1.1",
    "1V3.0 aV1.1 5V3.0 11V4.0 46V1.1 9V3.0 1V3.2 8V4.0 5V4.1 3V4.0 2V1.1 1V3.0 dV3.2 4V5.1 2V1.1",
    "2V5.1 2U 1V1.1 3V5.0 1V1.1 1V7.0 4U 7V1.1 1U 1V1.1 1U 14V1.1 1U 2cV1.1 1V5.1 7V1.1 1V3.0",
    "2V3.2 1V1.1 1V3.0 1V1.1 1V3.0 1V1.1 1V3.0 1V1.1 1V3.0 12V1.1 2V3.1 1V3.2 5V4.0 4V4.1 1V3.0",
    "cV1.1 1V3.0 42V1.1 1V3.0 cV1.1 1V3.0 29V1.1 1V5.1 2V3.0 2V3.2 4V3.0 35V1.1 2V3.2 2V1.1 2V3.2",
    "2V1.1 2V3.2 1V5.0 1cV1.1 2V3.0 8V1.1 2V4.1 2V1.1 6V5.0 10V3.2 4V5.0 10V5.1 2V5.2 2V6.0 8V7.0",
    "1U 26V1.1 2U 7V1.1 1V11.0 27V1.1 1V11.0 1V1.1 1V3.0 2U 2V7.0 1V6.1 1U 11V2.0 1V4.1 dV2.0",
    "aV1.1 1V5.0 9V1.1 1V2.0 3V4.1 8U 1bV1.1 4U 1V11.0 5V1.1 bU 4V4.0 1V6.1 1V7.0 5V5.1 1V4.1",
    "1V1.1 9V4.0 5V5.1 1V1.1 1V6.3 1V14.0 1V4.1 1V1.1 1V6.0 1aV1.1 5V5.1 13V1.1 3V3.0 3V4.0 6V4.1",
    "1V6.0 eV1.1 2V3.2 48V1.1 2V3.0 5V1.1 1V3.0 fV1.1 1V3.0 1eV1.1 2V4.0 aV1.1 5V3.0 1V4.0 eV3.0",
    "1U 1eV3.0 3V4.0 1bV3.0 2U 3V4.0 1eV4.1 12V5.1 31V3.0 1V3.2 eU 3bV5.0 2U 3V11.0 2eV5.2 2U",
    "fV5.2 1U 1cV6.0 2U 1V6.0 1U bV10.0 5U 1fV14.0 1U 2V14.0 5U 1V16.0 8V14.0 1V6.1 1V7.0 bV6.1",
    "6V7.0 2V8.0 1V14.0 8V9.0 aV13.0 bV14.0 1V11.0 fV9.0 1V8.0 1bV6.1 1V7.0 1V5.2 3V1.1 1V4.0",
    "35V1.1 2V6.0 12V1.1 1V5.2 1V6.0 5V1.1 1V5.2 2V6.0 19V1.1 2V5.1 5V6.0 1V7.0 2V5.2 2V5.0 1V4.1",
    "2V5.0 1V7.0 3V1.1 1U 8V1.1 2U 2V1.1 2U 16V1.1 1U 7V1.1 1U 1V1.1 3U 4V1.1 2U 1V1.1 1V4.0",
    "7V1.1 2U 2V1.1 2U 3V1.1 1V4.1 8U 1V1.1 4U 2V1.1 1U 5V1.1 2U 15V1.1 1V5.2 2V10.0 1V11.0 2U",
    "1V4.0 1V1.1 1V4.0 1U 6V1.1 4U 2V1.1 2U 16V1.1 1U 7V1.1 1U 2V1.1 1U 2V1.1 1U 2V1.1 2U 1V1.1",
    "1U 5V1.1 4U 2V1.1 2U 3V1.1 3U 1V5.1 7U 4V1.1 1U 1V1.1 7U fV1.1 1V5.1 1V11.0 aU 3V1.1 1U",
    "7V1.1 1V4.0 1V1.1 1U 3V1.1 1U 16V1.1 1U 7V1.1 1U 2V1.1 1U 5V1.1 2U aV1.1 1U 3V1.1 1U 3V1.1",
    "2U 1V1.1 fU 1V1.1 3V4.0 2U aV1.1 1V6.1 1V4.0 7U 1V8.0 6V10.0 1U 3V1.1 1U 8V1.1 2U 2V1.1 2U",
    "16V1.1 1U 7V1.1 1U 2V1.1 1U 1V4.0 4V1.1 2U 8V1.1 1V5.1 2U 2V1.1 2U 3V1.1 7U 1V13.0 2V1.1 4U",
    "2V1.1 1U 3V1.1 2V5.1 2U bV1.1 1V4.0 6V6.0 aU 2V1.1 1U 6V1.1 3U 3V1.1 1U 4V1.1 3U 2V1.1 1U",
    "1V1.1 1U 2V1.1 3U 2V1.1 3U 3V1.1 3U 8V1.1 1V4.1 3V1.1 4U 5V1.1 3U 3V1.1 1U 4V1.1 2U 1V5.1 6U",
    "1V1.1 eU 1V4.1 cV1.1 8V4.0 5U 1V7.0 3V1.1 1V11.0 8V1.1 1U 3V1.1 1U 17V1.1 1U aV1.1 1V7.0",
    "5V1.1 2U 1V14.0 1V5.1 7V1.1 1U 3V1.1 1U 4V1.1 7U 2V1.1 1U 2V5.1 1V8.0 2U 1V14.0 2U 2V1.1",
    "2V5.1 2U aV1.1 7U 1V12.0 8V5.1 1V9.0 1V7.0 2V1.1 1V11.0 8V1.1 1U 3V1.1 1U 17V1.1 1U aV1.1 1U",
    "5V1.1 2U 2V4.0 7V1.1 1U 3V1.1 1U 4V1.1 7U 2V1.1 6U 1V14.0 1V1.1 1U 2V1.1 2V5.0 2U aV1.1 1U",
    "2V5.0 1V15.0 cU 1V10.0 1V7.0 2V1.1 1V13.0 8V1.1 1U 3V1.1 1U 17V1.1 1V6.0 10V1.1 1V6.0 2V10.0",
    "1V5.1 6V1.1 1V5.1 1U 3V1.1 1U 4V1.1 1V6.0 1V9.0 4U 3V9.0 1V1.1 7V9.0 1V8.0 2V1.1 2V5.1 2U",
    "aV1.1 6V5.1 3V9.0 7V5.1 1U 1V13.0 2V3.0 1U 12V3.0 3U 18V3.0 1U 9V3.0 1U 1V3.0 2U 7V3.0 3U",
    "1V3.0 4U 6V3.0 1U 1V3.0 1U 8V3.0 6U aV7.0 2U 3V3.0 cU 3aV1.1 4U 1dV1.1 25U 2V1.1 1U 1V1.1 1U",
    "1V12.0 2V1.1 1V12.0 1V1.1 1U 1V12.0 1V1.1 6V12.0 4V1.1 1V12.0 7V1.1 1V12.0 3V1.1 1U 1V1.1 1U",
    "1V1.1 2V12.0 2V1.1 1V12.0 dV1.1 1V12.0 3V1.1 2U 5V1.1 1U 1V1.1 1U 6V1.1 1V15.0 1U aV1.1 2U",
    "2V1.1 2V6.1 20U 48V2.0 1U 21V2.0 1V3.0 2V5.1 4U 1bV2.0 4V6.0 6V2.0 1V3.0 1V2.0 1U 15V2.0",
    "3V3.0 7V2.0 1V3.0 1V2.0 3V3.0 1U fV3.0 1U 1V5.1 1V3.0 2V4.1 3V5.1 4V5.2 2V6.0 25U 22V3.0",
    "1V5.1 5V3.0 1V5.1 2V3.0 1V5.1 7V3.0 3V5.1 4V3.0 6V5.1 1aV3.0 40V5.1 4V5.2 2V5.1 26V1.1 1U",
    "1V6.1 5U 1V6.1 2U 27V1.1 2V3.2 2V4.1 1V1.1 1V4.1 3V6.1 5aV1.1 5V5.2 44V1.1 5V5.2 52V1.1",
    "6V5.2 7V3.0 1V4.1 3fV3.0 1V4.1 1V3.0 1U 4V3.0 2U 7V3.0 1U 1V3.0 1U 4V3.0 2U 27V3.0 1V4.1",
    "1V3.0 1U 4V3.0 2U 1fV3.0 1V4.1 1V3.0 1U 4V3.0 2U 7V3.0 1U 1V3.0 1U 4V3.0 2U 7V3.0 1V4.1",
    "7V3.0 1U 17V3.0 1V4.1 1fV3.0 1V4.1 1V3.0 1U 4V3.0 2U 7V3.0 1V4.1 27V3.0 1V4.1 13V3.0 2U",
    "2V6.0 2V4.1 1cV3.0 3U 1aV4.1 6U 55V3.0 1V8.0 2U 6V8.0 2U 1V5.2 276V3.0 9V5.2 1dV3.0 3U",
    "51V3.0 8V7.0 7U dV3.2 1V14.0 7V3.2 1V14.0 9U 1V14.0 17V3.2 9U 14V3.2 cU dV3.2 1U 3V3.2 1U",
    "2V3.2 cU 5dV3.0 1V4.0 2U aV3.0 6U aV4.0 6U fV3.0 1V14.0 aV3.0 6U 58V3.0 1V11.0 7U 2aV3.0",
    "1V5.1 5U 46V5.2 aU 1dV4.0 2V7.0 1U cV4.0 4U cV4.0 4U 1V4.0 3U 2aV4.0 2U 5V4.0 bU 2aV4.1",
    "2V5.2 4U 1aV4.1 6U aV4.1 1V5.2 3U 2V4.1 20V4.0 1cV4.1 2U 2V4.1 3fV5.2 1U 1dV5.2 2U bV5.2 6U",
    "aV5.2 6U eV5.2 2U fV7.0 2V13.0 eV14.0 31U 4cV5.0 1V14.0 1U 2V16.0 2dV5.0 2V14.0 1V16.0",
    "2bV5.1 3V6.1 cV5.1 6V6.1 34V6.0 8U 4V6.0 38V5.1 3U fV5.1 3U 33V5.1 9V9.0 2V16.0 5U 2bV11.0",
    "2U 3V11.0 8V6.1 8U 23V5.2 4V6.1 1V10.0 2V7.0 1V12.0 5U 6cV4.0 58V4.1 7V5.0 1cV5.1 fV7.0",
    "4V10.0 1V14.0 1V9.0 1V6.0 1V5.2 2V5.0 9bV1.1 1V2.0 4V5.1 5aV1.1 6V5.1 16V1.1 2U 6V1.1 2U",
    "26V1.1 2U 6V1.1 2U 8V1.1 1U 1V1.1 1U 1V1.1 1U 1V1.1 1U 1fV1.1 2U 35V1.1 1U fV1.1 1U eV1.1 2U",
    "6V1.1 1U 13V1.1 2U 3V1.1 1U 9V1.1 1U 2fV1.1 1V3.0 17V1.1 1V3.2 6V3.0 5V3.2 2V4.0 2V4.1 1V3.2",
    "7V4.1 5V3.2 1V5.1 1U 4V6.3 7V1.1 1V3.2 2U 1bV1.1 1U 5V4.1 8V6.0 3U bV1.1 1V2.0 1V2.1 3V3.0",
    "2V3.2 4V4.1 3V5.2 1V6.0 1V6.2 3V7.0 1V8.0 1V10.0 1V14.0 fU 12V1.1 2V3.0 7V3.2 1V4.1 4V5.0",
    "1V5.1 fU 39V1.1 2V3.0 1V4.0 1V4.1 fV3.2 1V4.1 2V5.0 1V5.1 3V5.2 30V1.1 1V3.0 1V5.0 4V5.1",
    "1V5.2 2V8.0 4U 5bV1.1 9V3.0 cV3.2 f2V1.1 eV3.2 1V1.1 1V3.0 79V1.1 1V3.0 1V3.2 1eV3.0 34V3.2",
    "2V4.0 bV4.1 cV5.0 1V5.2 bV6.0 7V7.0 4V9.0 1V10.0 25V1.1 2V3.0 3V16.0 16U bV1.1 15U 8bV1.1",
    "14V3.2 1V4.0 96V1.1 aV3.2 50V1.1 8V3.0 8V3.2 14V1.1 2V4.0 2V3.2 1V4.1 1V3.0 56V1.1 2V3.0",
    "cV3.2 2V4.1 aV3.2 8V4.0 bV4.1 1V5.1 2V5.2 2V4.0 10V4.1 1V5.0 aV5.1 3V5.2 4V5.1 aV5.2 1V6.0",
    "13V5.2 1V6.0 1V5.2 4V6.0 18V5.2 1V7.0 4V1.1 1V6.0 4V1.1 2V6.0 1cV1.1 1V6.0 23V1.1 1V6.0",
    "1V1.1 1V6.0 4V1.1 3V6.0 1V1.1 1V5.2 7V1.1 2V6.0 7V1.1 eV3.2 1fV1.1 3V6.0 18V1.1 1V6.0 eV1.1",
    "1V6.0 7V4.1 4V5.0 1V6.1 1V5.1 1V6.1 2V6.0 1cV3.2 4V5.1 10V3.2 100V3.0 200V3.2 eV4.0 6V4.1",
    "7V5.0 5V5.1 4V5.0 29V5.1 3V7.0 5V5.1 5V5.2 1aV7.0 2U 20V7.0 1U 1V13.0 22V7.0 3V11.0 cV7.0",
    "1V12.0 8V7.0 1V10.0 19V11.0 4V8.0 fV11.0 1V12.0 2fV4.1 1V14.0 2fV4.1 1V14.0 dV5.0 3V5.1",
    "1V5.2 3V5.1 4V5.0 6V5.1 2V5.2 6bV4.1 7V5.2 2V6.1 5U 2dV4.1 1U 1V6.1 5U 1V6.1 2U 36V4.1 2V6.1",
    "7U 1V4.1 1V6.0 eU 1V6.0 17V4.1 9U 7V4.1 1U 7V4.1 1U 7V4.1 1U 7V4.1 1U 7V4.1 1U 7V4.1 1U",
    "7V4.1 1U 7V4.1 1U 20V5.1 18V4.1 4V5.1 2V4.1 13V5.1 1V5.2 aV6.1 7V7.0 2V9.0 5V10.0 5V11.0",
    "1V12.0 3V13.0 bV14.0 22U 1aV3.0 1U 59V3.0 cU d6V3.0 1aU cV3.0 4V15.1 38V1.1 3V3.0 3V3.2",
    "1V3.0 1V1.1 1U 54V1.1 2V3.2 2U 6V1.1 2V3.2 5eV1.1 1V3.2 5U 28V1.1 1V5.1 1V10.0 1V11.0 1U",
    "5eV1.1 1U 10V1.1 18V3.0 3V6.0 5V13.0 10V4.1 14V5.1 2V16.0 9U 1V15.1 10V3.2 1dV1.1 2V4.0 1U",
    "24V1.1 cV5.2 1V4.0 fV3.2 1cV1.1 2V4.0 1V4.1 32V1.1 fV3.2 cV1.1 4V4.0 2fV1.1 1V12.1 77V1.1",
    "4V4.0 63V1.1 2V4.0 1fV1.1 1V4.0 19b6V3.0 aV13.0 40V4.0 51a6V1.1 16V4.1 8V5.1 8V5.2 1V6.1",
    "9V8.0 15V10.0 5V11.0 dV13.0 3V14.0 48dV3.0 3U 12V3.0 2V3.2 10V3.0 1V3.2 cV3.0 1V3.2 3V3.0",
    "1V3.2 1V3.0 9U 30V5.2 12cV5.1 14U 20V5.1 2V6.0 12V5.1 8V6.1 1cV5.1 6V7.0 1V8.0 1V6.1 58V5.2",
    "8U 17V4.1 4V5.0 5V5.1 2V5.0 6bV5.1 2V6.0 1V8.0 2V6.0 2V6.1 cV7.0 aV6.0 1V6.1 3V7.0 1V9.0",
    "1V11.0 2V7.0 6V8.0 2V11.0 6V12.0 2V14.0 5V12.0 4V13.0 3V16.0 2U 2V14.0 1U 1V14.0 1U 5V14.0",
    "3V16.0 15U 3V14.0 2V13.0 1V7.0 2V6.1 1V6.0 5V5.1 2cV4.1 1V13.0 3U aV5.2 6U 38V5.0 8U 45V5.1",
    "1V9.0 8U cV5.1 6U 1cV5.2 2V8.0 2V11.0 54V5.1 bU 1V5.1 1dV5.2 3U 4eV5.2 1U bV5.2 4U 2V5.2",
    "1fV7.0 1U 37V5.1 9U eV5.1 2U aV5.1 2U 4V5.1 1cV5.2 4V7.0 43V5.2 18U 5V5.2 17V6.1 aU 6V6.0 2U",
    "6V6.0 2U 6V6.0 9U 7V6.0 1U 7V6.0 1U 30V7.0 4V8.0 2V7.0 2V12.0 4V13.0 4U 50V8.0 2eV5.2 2U",
    "aV5.2 6U 2ba4V2.0 cU 17V5.2 4U 31V5.2 4U 800V2.0 1a2eV1.1 2V6.1 3bV3.2 3V5.2 2U 6aV4.1 26U",
    "7V1.1 cU 5V1.1 5U 1V3.0 19V1.1 1U 5V1.1 1U 1V1.1 1U 2V1.1 1U 2V1.1 1U 6cV1.1 10V6.0 1V14.0",
    "10U 16dV1.1 10V14.0 40V1.1 2U 36V1.1 7U 1V14.0 20V3.1 cV1.1 1V3.2 1V4.0 2V14.0 10V3.2 aV4.1",
    "6U 4V1.1 3V5.1 7V7.0 2V8.0 15V1.1 2V3.2 2V4.0 aV1.1 1U 13V1.1 1U 4V1.1 4U 3V1.1 1V3.2 1V1.1",
    "1U 87V1.1 2U 1V1.1 1U 5eV1.1 2V3.2 5eV1.1 3U 6V1.1 2U 6V1.1 2U 6V1.1 2U 3V1.1 3U 7V1.1 1U",
    "7V1.1 aU 3V3.0 1V2.1 3V1.1 cV4.0 1U 1aV4.0 1U 13V4.0 1U 2V4.0 1U fV4.0 2U eV4.0 22U 7bV4.0",
    "5U 3V4.0 4U 2dV4.0 3U 9V4.0 4bV4.1 2V7.0 2V9.0 1U cV5.1 1V13.0 3U 1V7.0 2fU 2eV5.1 82U",
    "1dV5.1 3U 31V5.1 fU 1cV7.0 4U 1fV3.1 1V7.0 4V3.1 9U 3V10.0 1bV3.1 5U 2bV7.0 5U 1eV4.0 1U",
    "1V4.0 24V4.1 4U eV4.1 2aU 26V3.1 2V4.0 26V3.1 50V4.0 2U aV4.0 6U 24V9.0 4U 24V9.0 4U 28V7.0",
    "8U 34V7.0 bU 1V7.0 bV14.0 1U fV14.0 1U 7V14.0 1U 2V14.0 1U bV14.0 1U fV14.0 1U 7V14.0 1U",
    "2V14.0 3U 34V16.0 cU 137V7.0 9U 16V7.0 aU 8V7.0 18U 6V14.0 1U 2aV14.0 1U 9V14.0 45U 6V4.0 2U",
    "1V4.0 1U 2cV4.0 1U 2V4.0 3U 1V4.0 2U 1V4.0 16V5.2 1U 9V5.2 3fV7.0 8U 9V7.0 30U 13V8.0 1U",
    "2V8.0 5U 5V8.0 1aV5.0 2V5.2 3U 1V5.0 1aV5.1 5U 1V5.1 40U 38V6.1 4U 2V8.0 2V6.1 10V8.0 2U",
    "2eV8.0 4V4.1 1U 2V4.1 5U 8V4.1 1U 3V4.1 1U 1bV4.1 2V11.0 2U 3V4.1 4U 9V4.1 1V11.0 7U 9V4.1",
    "7U 20V5.2 20V7.0 20U 27V7.0 4U cV7.0 9U 36V5.2 3U 1dV5.2 2U 1bV5.2 5U 8V5.2 12V7.0 7U 4V7.0",
    "cU 7V7.0 50U 49V5.2 37U 33V8.0 dU 33V8.0 7U 6V8.0 28V11.0 8U aV11.0 6U 26V16.0 3U 1dV16.0 8U",
    "2V16.0 d0U 1fV5.2 1U 2aV13.0 1U 3V13.0 2U 2V13.0 10U 3V16.0 37U 1V16.0 3V15.0 28V11.0 8U",
    "2aV11.0 16U 1aV14.0 26U 1cV13.0 14U 17V12.0 9U 4eV6.0 4U 1eV6.0 6V14.0 9U 1V7.0 42V5.2",
    "1V14.0 aU 1V11.0 2U 19V6.1 7U aV6.1 6U 35V6.1 1U eV6.1 3V11.0 1V13.0 8U 27V7.0 9U 49V6.1",
    "4V8.0 1V7.0 2V13.0 aV6.1 1V7.0 5V8.0 1U 14V7.0 bU 12V7.0 1U 2bV7.0 1V9.0 3V15.0 3eU 7V8.0 1U",
    "1V8.0 1U 4V8.0 1U fV8.0 1U bV8.0 6U 3bV7.0 5U aV7.0 6U 1V8.0 3V7.0 1U 8V7.0 2U 2V7.0 2U",
    "16V7.0 1U 7V7.0 1U 2V7.0 1U 5V7.0 1U 1V11.0 9V7.0 2U 2V7.0 2U 3V7.0 2U 1V8.0 6U 1V7.0 5U",
    "7V7.0 2U 7V7.0 3U 5V7.0 bU aV16.0 1U 1V16.0 2U 1V16.0 1U 26V16.0 1U aV16.0 1U 1V16.0 2U",
    "1V16.0 1U 4V16.0 1U aV16.0 1U 2V16.0 8U 2V16.0 1dU 5aV9.0 1V13.0 1V9.0 1U 1V9.0 1V11.0",
    "1V12.0 2V13.0 1eU 48V7.0 8U aV7.0 a6U 36V7.0 2U 12V7.0 14V8.0 22U 45V7.0 bU aV7.0 6U dV9.0",
    "13U 38V6.1 1V12.0 1V14.0 6U aV6.1 6U 14V16.0 1cU 1aV8.0 1V11.0 2U fV8.0 4U 10V8.0 7V14.0 b9U",
    "3cV11.0 64U 53V7.0 cU 1V7.0 7V13.0 2U 1V13.0 2U 8V13.0 1U 2V13.0 1U 1eV13.0 1U 2V13.0 2U",
    "cV13.0 9U aV13.0 46U 8V12.0 2U 2eV12.0 2U bV12.0 1bU 48V10.0 8U 34V10.0 2V12.0 17V10.0",
    "1V11.0 5V10.0 dU 10V14.0 39V7.0 7U aV15.0 b6U 22V16.0 eU aV16.0 6U 9V9.0 1U 2dV9.0 1U eV9.0",
    "aU 1dV9.0 3U 20V9.0 2U 16V9.0 1U eV9.0 49U 7V10.0 1U 2V10.0 1U 2cV10.0 3U 1V10.0 1U 2V10.0",
    "1U 9V10.0 8U aV10.0 6U 6V11.0 1U 2V11.0 1U 25V11.0 1U 2V11.0 1U 6V11.0 7U aV11.0 136U",
    "19V11.0 7U 11V15.0 1U 29V15.0 3U 1cV15.0 1V16.0 55U 1V13.0 fU 32V12.0 dU 1V12.0 36fV5.0",
    "2aV7.0 1V8.0 66U 63V5.0 cV7.0 1U 4V5.0 1V7.0 bU c4V8.0 a4cU 63V14.0 dU 42fV5.2 1V15.0 9V12.0",
    "1dV15.0 aU f9bV16.0 5U 247V8.0 1ab9U 3aV16.0 6c6U 239V6.0 7U 1fV7.0 1U aV7.0 4U 2V7.0",
    "4fV14.0 1U aV14.0 6U 1eV7.0 2U 6V7.0 aU 46V7.0 aU aV7.0 1U 7V7.0 1U 15V7.0 5U 13V7.0 1b0U",
    "3aV16.0 c6U 5bV11.0 65U 45V6.1 6V12.0 4U 1V12.0 2fV6.1 9V12.0 7U 11V6.1 40U 1V9.0 1V10.0",
    "2V12.0 1V13.0 bU 2V13.0 eU 17edV9.0 5V11.0 6V12.0 8U 2f3V9.0 1e3V13.0 29U 1V16.0 9V13.0",
    "22e7U 4V14.0 1U 7V14.0 1U 2V14.0 1U 2V6.0 11dV10.0 4V14.0 fU 1V15.0 1dU 3V12.0 2U 1V15.0 eU",
    "4V12.0 8U 18cV10.0 904U 6bV7.0 5U dV7.0 3U 9V7.0 7U aV7.0 2U 8V7.0 f5cU faV16.0 6U 1b4V16.0",
    "4cU 2eV14.0 2U 17V14.0 9U 74V14.0 3cU f6V3.1 aU 27V3.1 2U 1V5.1 b4V3.1 bV8.0 2V14.0 15U",
    "46V4.1 7aU 14V15.0 cU 14V11.0 cU 57V4.0 9U 12V5.0 7V11.0 87U 55V3.1 1U 47V3.1 1U 2V3.1 2U",
    "1V3.1 2U 2V3.1 2U 4V3.1 1U cV3.1 1U 1V3.1 1U 4V3.1 1V4.0 2V3.1 1U 41V3.1 1U 4V3.1 2U 8V3.1",
    "1U 7V3.1 1U 1cV3.1 1U 4V3.1 1U 5V3.1 1U 1V3.1 3U 7V3.1 1U 152V3.1 2V4.1 2U 122V3.1 2V5.0 2U",
    "32V3.1 28cV8.0 fU 5V8.0 1U fV8.0 450U 1fV14.0 6U 6V15.0 d5U 7V9.0 1U 11V9.0 2U 7V9.0 1U",
    "2V9.0 1U 5V9.0 5U 3eV15.0 21U 1V15.0 70U 2dV12.0 3U eV12.0 2U aV12.0 4U 2V12.0 140U 1fV14.0",
    "11U 3aV12.0 5U 1V12.0 1d0U 2aV15.0 d6U 2bV16.0 4U 1V16.0 1e0U 7V14.0 1U 4V14.0 1U 2V14.0 1U",
    "fV14.0 1U c5V7.0 2U 10V7.0 29U 4bV9.0 1V12.0 4U aV9.0 4U 2V9.0 311U 44V11.0 4cU 3dV12.0 c2U",
    "4V6.1 1U 1bV6.1 1U 2V6.1 1U 1V6.1 2U 1V6.1 1U aV6.1 1U 4V6.1 1U 1V6.1 1U 1V6.1 6U 1V6.1 4U",
    "1V6.1 1U 1V6.1 1U 1V6.1 1U 3V6.1 1U 2V6.1 1U 1V6.1 2U 1V6.1 1U 1V6.1 1U 1V6.1 1U 1V6.1 1U",
    "1V6.1 1U 2V6.1 1U 1V6.1 2U 4V6.1 1U 7V6.1 1U 4V6.1 1U 4V6.1 1U 1V6.1 1U aV6.1 1U 11V6.1 5U",
    "3V6.1 1U 5V6.1 1U 11V6.1 34U 2V6.1 10eU 2cV5.1 4U 64V5.1 cU fV6.0 2U eV6.0 1V7.0 1U fV6.0 1U",
    "fV6.0 16V7.0 aU bV5.2 2V7.0 3V13.0 1fV5.2 1V11.0 1V6.0 1V5.2 bV6.0 1V5.2 1V6.0 1V5.2 2V6.0",
    "1V5.2 3V6.0 1V5.2 3V6.0 5V5.2 8V6.0 1V5.2 7V6.0 1V5.2 aV6.0 2V6.1 1V12.0 3V13.0 9V6.0 1V5.2",
    "1V6.0 2V5.2 2V6.0 1V5.2 aV6.0 4V5.2 2V6.0 1V5.2 aV6.0 12V9.0 1V13.0 38U 1aV6.0 1V5.2 2V6.0",
    "dU 22V5.2 9V6.0 1V9.0 4U 9V5.2 7U 2V6.0 eU 6V10.0 9aU 21V6.0 cV7.0 3V8.0 6V6.0 1V7.0 46V6.0",
    "1V7.0 2V8.0 14V6.0 cV7.0 25V6.0 1V7.0 5V6.0 4V7.0 5V8.0 cV7.0 11V6.0 7V7.0 8V8.0 3fV6.0",
    "1V7.0 1V6.0 1V7.0 b6V6.0 1V7.0 4V6.0 2V7.0 1V8.0 3eV6.0 2V7.0 4V6.1 7V7.0 5V8.0 18V6.0",
    "12V7.0 1V9.0 29V7.0 1V9.0 56V7.0 5V6.0 1V6.1 10V6.0 1V6.1 3V6.0 1V6.1 1V6.0 1V6.1 1V6.0",
    "1V6.1 1V6.0 1V6.1 3V6.0 1V6.1 6V6.0 2V6.1 4V6.0 1V6.1 1V6.0 2V6.1 4V6.0 1V6.1 cV6.0 2V7.0",
    "2V8.0 bV6.0 30V7.0 46V6.0 aV7.0 1V8.0 2V9.0 2V10.0 1V12.0 2V13.0 4U 1V15.0 3V14.0 dV7.0 3U",
    "4V7.0 3V9.0 2V10.0 1V11.0 1V12.0 2V13.0 3U 74V6.0 3V15.0 4U 5V15.0 55V7.0 4V11.0 1V15.0 6U",
    "cV12.0 4U 1V14.0 fU cV7.0 4U 38V7.0 8U aV7.0 6U 28V7.0 8U 1eV7.0 2U 2V13.0 aV16.0 4U 2V16.0",
    "3eU cV10.0 1V13.0 3V12.0 9V8.0 6V9.0 1V10.0 8V9.0 8V10.0 1V9.0 2V10.0 cV9.0 1V12.0 cV9.0",
    "1V10.0 3V11.0 fV9.0 dV10.0 5V11.0 1V12.0 1V13.0 4V11.0 2V13.0 1V14.0 1V11.0 1V12.0 4V11.0",
    "5V8.0 dV9.0 6V10.0 bV11.0 2V13.0 6V12.0 3V13.0 2V12.0 aV11.0 6V12.0 1V8.0 2V11.0 8V12.0",
    "1V13.0 1V14.0 3V12.0 17V10.0 19V11.0 54V12.0 cU eV11.0 2U 4V12.0 1V13.0 3V15.0 3V12.0 2V14.0",
    "3U 3V12.0 4V13.0 2V15.0 1V16.0 5U 1V16.0 6V12.0 13V13.0 4V14.0 3V15.0 7V13.0 4V14.0 3V15.0",
    "1V16.0 1V15.0 3V13.0 3V14.0 1V16.0 7U 2V15.0 7V13.0 3V14.0 2V15.0 1V16.0 2U 1V16.0 8V14.0",
    "1V15.0 1V16.0 6U 7V14.0 2V15.0 7U 93V13.0 1U 37V13.0 25V16.0 aV13.0 404U 2V2.0 a6d7V3.1",
    "7V13.0 2V14.0 20U 1035V5.2 4V14.0 1V15.0 6U deV6.0 2U 1682V8.0 eU 1d31V10.0 fU 26eV15.1 9a2U",
    "21eV3.1 5e0U 2V2.0 134bV13.0 5U 1060V15.0 dc4eU 2V2.0 fffeU 2V2.0 fffeU 2V2.0 fffeU 2V2.0",
    "fffeU 2V2.0 fffeU 2V2.0 fffeU 2V2.0 fffeU 2V2.0 fffeU 2V2.0 fffeU 2V2.0 fffeU 2V2.0 1U 1V3.1",
    "1eU 60V3.1 80U f0V4.0 fe0eU 20002V2.0"]

/-- The versions that assigned characters, in ascending order. -/
def ageVersions : List String := [
  "1.1", "2.0", "2.1", "3.0", "3.1", "3.2", "4.0", "4.1", "5.0", "5.1",
  "5.2", "6.0", "6.1", "6.2", "6.3", "7.0", "8.0", "9.0", "10.0", "11.0",
  "12.0", "12.1", "13.0", "14.0", "15.0", "15.1", "16.0"]

/-- The names of the value `version` of the age property. -/
def ageNames (version : String) : List String :=
  [version, "V" ++ version.map fun c => if c = '.' then '_' else c]

end CodeMarkup.Unicode
