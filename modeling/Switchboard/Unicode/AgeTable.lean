/-!
# The table of ages

The runs of code points that were given a meaning in one version of the standard, from
the first code point on. Each is written as its length in hexadecimal and its version;
some have no meaning yet.
-/

namespace Switchboard

namespace Unicode

/-- The runs of code points that are of one age. -/
def ageTable : List String :=
  ["1f6V1.1 4V3.0 1eV1.1 8V3.0 1V3.2 1V4.0 12V3.0 3V4.0 bV4.1 eV5.0 59V1.1 5V3.0 2V4.0 2fV1.1",
   "1V3.0 aV1.1 5V3.0 11V4.0 46V1.1 9V3.0 1V3.2 8V4.0 5V4.1 3V4.0 2V1.1 1V3.0 dV3.2 4V5.1 2V1.1",
   "2V5.1 2Never 1V1.1 3V5.0 1V1.1 1V7.0 4Never 7V1.1 1Never 1V1.1 1Never 14V1.1 1Never 2cV1.1",
   "1V5.1 7V1.1 1V3.0 2V3.2 1V1.1 1V3.0 1V1.1 1V3.0 1V1.1 1V3.0 1V1.1 1V3.0 12V1.1 2V3.1 1V3.2",
   "5V4.0 4V4.1 1V3.0 cV1.1 1V3.0 42V1.1 1V3.0 cV1.1 1V3.0 29V1.1 1V5.1 2V3.0 2V3.2 4V3.0",
   "35V1.1 2V3.2 2V1.1 2V3.2 2V1.1 2V3.2 1V5.0 1cV1.1 2V3.0 8V1.1 2V4.1 2V1.1 6V5.0 10V3.2",
   "4V5.0 10V5.1 2V5.2 2V6.0 8V7.0 1Never 26V1.1 2Never 7V1.1 1V11.0 27V1.1 1V11.0 1V1.1 1V3.0",
   "2Never 2V7.0 1V6.1 1Never 11V2.0 1V4.1 dV2.0 aV1.1 1V5.0 9V1.1 1V2.0 3V4.1 8Never 1bV1.1",
   "4Never 1V11.0 5V1.1 bNever 4V4.0 1V6.1 1V7.0 5V5.1 1V4.1 1V1.1 9V4.0 5V5.1 1V1.1 1V6.3",
   "1V14.0 1V4.1 1V1.1 1V6.0 1aV1.1 5V5.1 13V1.1 3V3.0 3V4.0 6V4.1 1V6.0 eV1.1 2V3.2 48V1.1",
   "2V3.0 5V1.1 1V3.0 fV1.1 1V3.0 1eV1.1 2V4.0 aV1.1 5V3.0 1V4.0 eV3.0 1Never 1eV3.0 3V4.0",
   "1bV3.0 2Never 3V4.0 1eV4.1 12V5.1 31V3.0 1V3.2 eNever 3bV5.0 2Never 3V11.0 2eV5.2 2Never",
   "fV5.2 1Never 1cV6.0 2Never 1V6.0 1Never bV10.0 5Never 1fV14.0 1Never 2V14.0 5Never 1V16.0",
   "8V14.0 1V6.1 1V7.0 bV6.1 6V7.0 2V8.0 1V14.0 8V9.0 aV13.0 bV14.0 1V11.0 fV9.0 1V8.0 1bV6.1",
   "1V7.0 1V5.2 3V1.1 1V4.0 35V1.1 2V6.0 12V1.1 1V5.2 1V6.0 5V1.1 1V5.2 2V6.0 19V1.1 2V5.1",
   "5V6.0 1V7.0 2V5.2 2V5.0 1V4.1 2V5.0 1V7.0 3V1.1 1Never 8V1.1 2Never 2V1.1 2Never 16V1.1",
   "1Never 7V1.1 1Never 1V1.1 3Never 4V1.1 2Never 1V1.1 1V4.0 7V1.1 2Never 2V1.1 2Never 3V1.1",
   "1V4.1 8Never 1V1.1 4Never 2V1.1 1Never 5V1.1 2Never 15V1.1 1V5.2 2V10.0 1V11.0 2Never 1V4.0",
   "1V1.1 1V4.0 1Never 6V1.1 4Never 2V1.1 2Never 16V1.1 1Never 7V1.1 1Never 2V1.1 1Never 2V1.1",
   "1Never 2V1.1 2Never 1V1.1 1Never 5V1.1 4Never 2V1.1 2Never 3V1.1 3Never 1V5.1 7Never 4V1.1",
   "1Never 1V1.1 7Never fV1.1 1V5.1 1V11.0 aNever 3V1.1 1Never 7V1.1 1V4.0 1V1.1 1Never 3V1.1",
   "1Never 16V1.1 1Never 7V1.1 1Never 2V1.1 1Never 5V1.1 2Never aV1.1 1Never 3V1.1 1Never 3V1.1",
   "2Never 1V1.1 fNever 1V1.1 3V4.0 2Never aV1.1 1V6.1 1V4.0 7Never 1V8.0 6V10.0 1Never 3V1.1",
   "1Never 8V1.1 2Never 2V1.1 2Never 16V1.1 1Never 7V1.1 1Never 2V1.1 1Never 1V4.0 4V1.1 2Never",
   "8V1.1 1V5.1 2Never 2V1.1 2Never 3V1.1 7Never 1V13.0 2V1.1 4Never 2V1.1 1Never 3V1.1 2V5.1",
   "2Never bV1.1 1V4.0 6V6.0 aNever 2V1.1 1Never 6V1.1 3Never 3V1.1 1Never 4V1.1 3Never 2V1.1",
   "1Never 1V1.1 1Never 2V1.1 3Never 2V1.1 3Never 3V1.1 3Never 8V1.1 1V4.1 3V1.1 4Never 5V1.1",
   "3Never 3V1.1 1Never 4V1.1 2Never 1V5.1 6Never 1V1.1 eNever 1V4.1 cV1.1 8V4.0 5Never 1V7.0",
   "3V1.1 1V11.0 8V1.1 1Never 3V1.1 1Never 17V1.1 1Never aV1.1 1V7.0 5V1.1 2Never 1V14.0 1V5.1",
   "7V1.1 1Never 3V1.1 1Never 4V1.1 7Never 2V1.1 1Never 2V5.1 1V8.0 2Never 1V14.0 2Never 2V1.1",
   "2V5.1 2Never aV1.1 7Never 1V12.0 8V5.1 1V9.0 1V7.0 2V1.1 1V11.0 8V1.1 1Never 3V1.1 1Never",
   "17V1.1 1Never aV1.1 1Never 5V1.1 2Never 2V4.0 7V1.1 1Never 3V1.1 1Never 4V1.1 7Never 2V1.1",
   "6Never 1V14.0 1V1.1 1Never 2V1.1 2V5.0 2Never aV1.1 1Never 2V5.0 1V15.0 cNever 1V10.0 1V7.0",
   "2V1.1 1V13.0 8V1.1 1Never 3V1.1 1Never 17V1.1 1V6.0 10V1.1 1V6.0 2V10.0 1V5.1 6V1.1 1V5.1",
   "1Never 3V1.1 1Never 4V1.1 1V6.0 1V9.0 4Never 3V9.0 1V1.1 7V9.0 1V8.0 2V1.1 2V5.1 2Never",
   "aV1.1 6V5.1 3V9.0 7V5.1 1Never 1V13.0 2V3.0 1Never 12V3.0 3Never 18V3.0 1Never 9V3.0 1Never",
   "1V3.0 2Never 7V3.0 3Never 1V3.0 4Never 6V3.0 1Never 1V3.0 1Never 8V3.0 6Never aV7.0 2Never",
   "3V3.0 cNever 3aV1.1 4Never 1dV1.1 25Never 2V1.1 1Never 1V1.1 1Never 1V12.0 2V1.1 1V12.0",
   "1V1.1 1Never 1V12.0 1V1.1 6V12.0 4V1.1 1V12.0 7V1.1 1V12.0 3V1.1 1Never 1V1.1 1Never 1V1.1",
   "2V12.0 2V1.1 1V12.0 dV1.1 1V12.0 3V1.1 2Never 5V1.1 1Never 1V1.1 1Never 6V1.1 1V15.0 1Never",
   "aV1.1 2Never 2V1.1 2V6.1 20Never 48V2.0 1Never 21V2.0 1V3.0 2V5.1 4Never 1bV2.0 4V6.0 6V2.0",
   "1V3.0 1V2.0 1Never 15V2.0 3V3.0 7V2.0 1V3.0 1V2.0 3V3.0 1Never fV3.0 1Never 1V5.1 1V3.0",
   "2V4.1 3V5.1 4V5.2 2V6.0 25Never 22V3.0 1V5.1 5V3.0 1V5.1 2V3.0 1V5.1 7V3.0 3V5.1 4V3.0",
   "6V5.1 1aV3.0 40V5.1 4V5.2 2V5.1 26V1.1 1Never 1V6.1 5Never 1V6.1 2Never 27V1.1 2V3.2 2V4.1",
   "1V1.1 1V4.1 3V6.1 5aV1.1 5V5.2 44V1.1 5V5.2 52V1.1 6V5.2 7V3.0 1V4.1 3fV3.0 1V4.1 1V3.0",
   "1Never 4V3.0 2Never 7V3.0 1Never 1V3.0 1Never 4V3.0 2Never 27V3.0 1V4.1 1V3.0 1Never 4V3.0",
   "2Never 1fV3.0 1V4.1 1V3.0 1Never 4V3.0 2Never 7V3.0 1Never 1V3.0 1Never 4V3.0 2Never 7V3.0",
   "1V4.1 7V3.0 1Never 17V3.0 1V4.1 1fV3.0 1V4.1 1V3.0 1Never 4V3.0 2Never 7V3.0 1V4.1 27V3.0",
   "1V4.1 13V3.0 2Never 2V6.0 2V4.1 1cV3.0 3Never 1aV4.1 6Never 55V3.0 1V8.0 2Never 6V8.0",
   "2Never 1V5.2 276V3.0 9V5.2 1dV3.0 3Never 51V3.0 8V7.0 7Never dV3.2 1V14.0 7V3.2 1V14.0",
   "9Never 1V14.0 17V3.2 9Never 14V3.2 cNever dV3.2 1Never 3V3.2 1Never 2V3.2 cNever 5dV3.0",
   "1V4.0 2Never aV3.0 6Never aV4.0 6Never fV3.0 1V14.0 aV3.0 6Never 58V3.0 1V11.0 7Never",
   "2aV3.0 1V5.1 5Never 46V5.2 aNever 1dV4.0 2V7.0 1Never cV4.0 4Never cV4.0 4Never 1V4.0",
   "3Never 2aV4.0 2Never 5V4.0 bNever 2aV4.1 2V5.2 4Never 1aV4.1 6Never aV4.1 1V5.2 3Never",
   "2V4.1 20V4.0 1cV4.1 2Never 2V4.1 3fV5.2 1Never 1dV5.2 2Never bV5.2 6Never aV5.2 6Never",
   "eV5.2 2Never fV7.0 2V13.0 eV14.0 31Never 4cV5.0 1V14.0 1Never 2V16.0 2dV5.0 2V14.0 1V16.0",
   "2bV5.1 3V6.1 cV5.1 6V6.1 34V6.0 8Never 4V6.0 38V5.1 3Never fV5.1 3Never 33V5.1 9V9.0 2V16.0",
   "5Never 2bV11.0 2Never 3V11.0 8V6.1 8Never 23V5.2 4V6.1 1V10.0 2V7.0 1V12.0 5Never 6cV4.0",
   "58V4.1 7V5.0 1cV5.1 fV7.0 4V10.0 1V14.0 1V9.0 1V6.0 1V5.2 2V5.0 9bV1.1 1V2.0 4V5.1 5aV1.1",
   "6V5.1 16V1.1 2Never 6V1.1 2Never 26V1.1 2Never 6V1.1 2Never 8V1.1 1Never 1V1.1 1Never 1V1.1",
   "1Never 1V1.1 1Never 1fV1.1 2Never 35V1.1 1Never fV1.1 1Never eV1.1 2Never 6V1.1 1Never",
   "13V1.1 2Never 3V1.1 1Never 9V1.1 1Never 2fV1.1 1V3.0 17V1.1 1V3.2 6V3.0 5V3.2 2V4.0 2V4.1",
   "1V3.2 7V4.1 5V3.2 1V5.1 1Never 4V6.3 7V1.1 1V3.2 2Never 1bV1.1 1Never 5V4.1 8V6.0 3Never",
   "bV1.1 1V2.0 1V2.1 3V3.0 2V3.2 4V4.1 3V5.2 1V6.0 1V6.2 3V7.0 1V8.0 1V10.0 1V14.0 fNever",
   "12V1.1 2V3.0 7V3.2 1V4.1 4V5.0 1V5.1 fNever 39V1.1 2V3.0 1V4.0 1V4.1 fV3.2 1V4.1 2V5.0",
   "1V5.1 3V5.2 30V1.1 1V3.0 1V5.0 4V5.1 1V5.2 2V8.0 4Never 5bV1.1 9V3.0 cV3.2 f2V1.1 eV3.2",
   "1V1.1 1V3.0 79V1.1 1V3.0 1V3.2 1eV3.0 34V3.2 2V4.0 bV4.1 cV5.0 1V5.2 bV6.0 7V7.0 4V9.0",
   "1V10.0 25V1.1 2V3.0 3V16.0 16Never bV1.1 15Never 8bV1.1 14V3.2 1V4.0 96V1.1 aV3.2 50V1.1",
   "8V3.0 8V3.2 14V1.1 2V4.0 2V3.2 1V4.1 1V3.0 56V1.1 2V3.0 cV3.2 2V4.1 aV3.2 8V4.0 bV4.1 1V5.1",
   "2V5.2 2V4.0 10V4.1 1V5.0 aV5.1 3V5.2 4V5.1 aV5.2 1V6.0 13V5.2 1V6.0 1V5.2 4V6.0 18V5.2",
   "1V7.0 4V1.1 1V6.0 4V1.1 2V6.0 1cV1.1 1V6.0 23V1.1 1V6.0 1V1.1 1V6.0 4V1.1 3V6.0 1V1.1 1V5.2",
   "7V1.1 2V6.0 7V1.1 eV3.2 1fV1.1 3V6.0 18V1.1 1V6.0 eV1.1 1V6.0 7V4.1 4V5.0 1V6.1 1V5.1 1V6.1",
   "2V6.0 1cV3.2 4V5.1 10V3.2 100V3.0 200V3.2 eV4.0 6V4.1 7V5.0 5V5.1 4V5.0 29V5.1 3V7.0 5V5.1",
   "5V5.2 1aV7.0 2Never 20V7.0 1Never 1V13.0 22V7.0 3V11.0 cV7.0 1V12.0 8V7.0 1V10.0 19V11.0",
   "4V8.0 fV11.0 1V12.0 2fV4.1 1V14.0 2fV4.1 1V14.0 dV5.0 3V5.1 1V5.2 3V5.1 4V5.0 6V5.1 2V5.2",
   "6bV4.1 7V5.2 2V6.1 5Never 2dV4.1 1Never 1V6.1 5Never 1V6.1 2Never 36V4.1 2V6.1 7Never 1V4.1",
   "1V6.0 eNever 1V6.0 17V4.1 9Never 7V4.1 1Never 7V4.1 1Never 7V4.1 1Never 7V4.1 1Never 7V4.1",
   "1Never 7V4.1 1Never 7V4.1 1Never 7V4.1 1Never 20V5.1 18V4.1 4V5.1 2V4.1 13V5.1 1V5.2 aV6.1",
   "7V7.0 2V9.0 5V10.0 5V11.0 1V12.0 3V13.0 bV14.0 22Never 1aV3.0 1Never 59V3.0 cNever d6V3.0",
   "1aNever cV3.0 4V15.1 38V1.1 3V3.0 3V3.2 1V3.0 1V1.1 1Never 54V1.1 2V3.2 2Never 6V1.1 2V3.2",
   "5eV1.1 1V3.2 5Never 28V1.1 1V5.1 1V10.0 1V11.0 1Never 5eV1.1 1Never 10V1.1 18V3.0 3V6.0",
   "5V13.0 10V4.1 14V5.1 2V16.0 9Never 1V15.1 10V3.2 1dV1.1 2V4.0 1Never 24V1.1 cV5.2 1V4.0",
   "fV3.2 1cV1.1 2V4.0 1V4.1 32V1.1 fV3.2 cV1.1 4V4.0 2fV1.1 1V12.1 77V1.1 4V4.0 63V1.1 2V4.0",
   "1fV1.1 1V4.0 19b6V3.0 aV13.0 40V4.0 51a6V1.1 16V4.1 8V5.1 8V5.2 1V6.1 9V8.0 15V10.0 5V11.0",
   "dV13.0 3V14.0 48dV3.0 3Never 12V3.0 2V3.2 10V3.0 1V3.2 cV3.0 1V3.2 3V3.0 1V3.2 1V3.0 9Never",
   "30V5.2 12cV5.1 14Never 20V5.1 2V6.0 12V5.1 8V6.1 1cV5.1 6V7.0 1V8.0 1V6.1 58V5.2 8Never",
   "17V4.1 4V5.0 5V5.1 2V5.0 6bV5.1 2V6.0 1V8.0 2V6.0 2V6.1 cV7.0 aV6.0 1V6.1 3V7.0 1V9.0",
   "1V11.0 2V7.0 6V8.0 2V11.0 6V12.0 2V14.0 5V12.0 4V13.0 3V16.0 2Never 2V14.0 1Never 1V14.0",
   "1Never 5V14.0 3V16.0 15Never 3V14.0 2V13.0 1V7.0 2V6.1 1V6.0 5V5.1 2cV4.1 1V13.0 3Never",
   "aV5.2 6Never 38V5.0 8Never 45V5.1 1V9.0 8Never cV5.1 6Never 1cV5.2 2V8.0 2V11.0 54V5.1",
   "bNever 1V5.1 1dV5.2 3Never 4eV5.2 1Never bV5.2 4Never 2V5.2 1fV7.0 1Never 37V5.1 9Never",
   "eV5.1 2Never aV5.1 2Never 4V5.1 1cV5.2 4V7.0 43V5.2 18Never 5V5.2 17V6.1 aNever 6V6.0",
   "2Never 6V6.0 2Never 6V6.0 9Never 7V6.0 1Never 7V6.0 1Never 30V7.0 4V8.0 2V7.0 2V12.0 4V13.0",
   "4Never 50V8.0 2eV5.2 2Never aV5.2 6Never 2ba4V2.0 cNever 17V5.2 4Never 31V5.2 804Never",
   "1a2eV1.1 2V6.1 3bV3.2 3V5.2 2Never 6aV4.1 26Never 7V1.1 cNever 5V1.1 5Never 1V3.0 19V1.1",
   "1Never 5V1.1 1Never 1V1.1 1Never 2V1.1 1Never 2V1.1 1Never 6cV1.1 10V6.0 1V14.0 10Never",
   "16dV1.1 10V14.0 40V1.1 2Never 36V1.1 7Never 1V14.0 20V3.1 cV1.1 1V3.2 1V4.0 2V14.0 10V3.2",
   "aV4.1 6Never 4V1.1 3V5.1 7V7.0 2V8.0 15V1.1 2V3.2 2V4.0 aV1.1 1Never 13V1.1 1Never 4V1.1",
   "4Never 3V1.1 1V3.2 1V1.1 1Never 87V1.1 2Never 1V1.1 1Never 5eV1.1 2V3.2 5eV1.1 3Never 6V1.1",
   "2Never 6V1.1 2Never 6V1.1 2Never 3V1.1 3Never 7V1.1 1Never 7V1.1 aNever 3V3.0 1V2.1 3V1.1",
   "cV4.0 1Never 1aV4.0 1Never 13V4.0 1Never 2V4.0 1Never fV4.0 2Never eV4.0 22Never 7bV4.0",
   "5Never 3V4.0 4Never 2dV4.0 3Never 9V4.0 4bV4.1 2V7.0 2V9.0 1Never cV5.1 1V13.0 3Never 1V7.0",
   "2fNever 2eV5.1 82Never 1dV5.1 3Never 31V5.1 fNever 1cV7.0 4Never 1fV3.1 1V7.0 4V3.1 9Never",
   "3V10.0 1bV3.1 5Never 2bV7.0 5Never 1eV4.0 1Never 1V4.0 24V4.1 4Never eV4.1 2aNever 26V3.1",
   "2V4.0 26V3.1 50V4.0 2Never aV4.0 6Never 24V9.0 4Never 24V9.0 4Never 28V7.0 8Never 34V7.0",
   "bNever 1V7.0 bV14.0 1Never fV14.0 1Never 7V14.0 1Never 2V14.0 1Never bV14.0 1Never fV14.0",
   "1Never 7V14.0 1Never 2V14.0 3Never 34V16.0 cNever 137V7.0 9Never 16V7.0 aNever 8V7.0",
   "18Never 6V14.0 1Never 2aV14.0 1Never 9V14.0 45Never 6V4.0 2Never 1V4.0 1Never 2cV4.0 1Never",
   "2V4.0 3Never 1V4.0 2Never 1V4.0 16V5.2 1Never 9V5.2 3fV7.0 8Never 9V7.0 30Never 13V8.0",
   "1Never 2V8.0 5Never 5V8.0 1aV5.0 2V5.2 3Never 1V5.0 1aV5.1 5Never 1V5.1 40Never 38V6.1",
   "4Never 2V8.0 2V6.1 10V8.0 2Never 2eV8.0 4V4.1 1Never 2V4.1 5Never 8V4.1 1Never 3V4.1 1Never",
   "1bV4.1 2V11.0 2Never 3V4.1 4Never 9V4.1 1V11.0 7Never 9V4.1 7Never 20V5.2 20V7.0 20Never",
   "27V7.0 4Never cV7.0 9Never 36V5.2 3Never 1dV5.2 2Never 1bV5.2 5Never 8V5.2 12V7.0 7Never",
   "4V7.0 cNever 7V7.0 50Never 49V5.2 37Never 33V8.0 dNever 33V8.0 7Never 6V8.0 28V11.0 8Never",
   "aV11.0 6Never 26V16.0 3Never 1dV16.0 8Never 2V16.0 d0Never 1fV5.2 1Never 2aV13.0 1Never",
   "3V13.0 2Never 2V13.0 10Never 3V16.0 37Never 1V16.0 3V15.0 28V11.0 8Never 2aV11.0 16Never",
   "1aV14.0 26Never 1cV13.0 14Never 17V12.0 9Never 4eV6.0 4Never 1eV6.0 6V14.0 9Never 1V7.0",
   "42V5.2 1V14.0 aNever 1V11.0 2Never 19V6.1 7Never aV6.1 6Never 35V6.1 1Never eV6.1 3V11.0",
   "1V13.0 8Never 27V7.0 9Never 49V6.1 4V8.0 1V7.0 2V13.0 aV6.1 1V7.0 5V8.0 1Never 14V7.0",
   "bNever 12V7.0 1Never 2bV7.0 1V9.0 3V15.0 3eNever 7V8.0 1Never 1V8.0 1Never 4V8.0 1Never",
   "fV8.0 1Never bV8.0 6Never 3bV7.0 5Never aV7.0 6Never 1V8.0 3V7.0 1Never 8V7.0 2Never 2V7.0",
   "2Never 16V7.0 1Never 7V7.0 1Never 2V7.0 1Never 5V7.0 1Never 1V11.0 9V7.0 2Never 2V7.0",
   "2Never 3V7.0 2Never 1V8.0 6Never 1V7.0 5Never 7V7.0 2Never 7V7.0 3Never 5V7.0 bNever aV16.0",
   "1Never 1V16.0 2Never 1V16.0 1Never 26V16.0 1Never aV16.0 1Never 1V16.0 2Never 1V16.0 1Never",
   "4V16.0 1Never aV16.0 1Never 2V16.0 8Never 2V16.0 1dNever 5aV9.0 1V13.0 1V9.0 1Never 1V9.0",
   "1V11.0 1V12.0 2V13.0 1eNever 48V7.0 8Never aV7.0 a6Never 36V7.0 2Never 12V7.0 14V8.0",
   "22Never 45V7.0 bNever aV7.0 6Never dV9.0 13Never 38V6.1 1V12.0 1V14.0 6Never aV6.1 6Never",
   "14V16.0 1cNever 1aV8.0 1V11.0 2Never fV8.0 4Never 10V8.0 7V14.0 b9Never 3cV11.0 64Never",
   "53V7.0 cNever 1V7.0 7V13.0 2Never 1V13.0 2Never 8V13.0 1Never 2V13.0 1Never 1eV13.0 1Never",
   "2V13.0 2Never cV13.0 9Never aV13.0 46Never 8V12.0 2Never 2eV12.0 2Never bV12.0 1bNever",
   "48V10.0 8Never 34V10.0 2V12.0 17V10.0 1V11.0 5V10.0 dNever 10V14.0 39V7.0 7Never aV15.0",
   "b6Never 22V16.0 eNever aV16.0 6Never 9V9.0 1Never 2dV9.0 1Never eV9.0 aNever 1dV9.0 3Never",
   "20V9.0 2Never 16V9.0 1Never eV9.0 49Never 7V10.0 1Never 2V10.0 1Never 2cV10.0 3Never 1V10.0",
   "1Never 2V10.0 1Never 9V10.0 8Never aV10.0 6Never 6V11.0 1Never 2V11.0 1Never 25V11.0 1Never",
   "2V11.0 1Never 6V11.0 7Never aV11.0 136Never 19V11.0 7Never 11V15.0 1Never 29V15.0 3Never",
   "1cV15.0 1V16.0 55Never 1V13.0 fNever 32V12.0 dNever 1V12.0 36fV5.0 2aV7.0 1V8.0 66Never",
   "63V5.0 cV7.0 1Never 4V5.0 1V7.0 bNever c4V8.0 a4cNever 63V14.0 dNever 42fV5.2 1V15.0 9V12.0",
   "1dV15.0 aNever f9bV16.0 5Never 247V8.0 1ab9Never 3aV16.0 6c6Never 239V6.0 7Never 1fV7.0",
   "1Never aV7.0 4Never 2V7.0 4fV14.0 1Never aV14.0 6Never 1eV7.0 2Never 6V7.0 aNever 46V7.0",
   "aNever aV7.0 1Never 7V7.0 1Never 15V7.0 5Never 13V7.0 1b0Never 3aV16.0 c6Never 5bV11.0",
   "65Never 45V6.1 6V12.0 4Never 1V12.0 2fV6.1 9V12.0 7Never 11V6.1 40Never 1V9.0 1V10.0 2V12.0",
   "1V13.0 bNever 2V13.0 eNever 17edV9.0 5V11.0 6V12.0 8Never 2f3V9.0 1e3V13.0 29Never 1V16.0",
   "9V13.0 22e7Never 4V14.0 1Never 7V14.0 1Never 2V14.0 1Never 2V6.0 11dV10.0 4V14.0 fNever",
   "1V15.0 1dNever 3V12.0 2Never 1V15.0 eNever 4V12.0 8Never 18cV10.0 904Never 6bV7.0 5Never",
   "dV7.0 3Never 9V7.0 7Never aV7.0 2Never 8V7.0 f5cNever faV16.0 6Never 1b4V16.0 4cNever",
   "2eV14.0 2Never 17V14.0 9Never 74V14.0 3cNever f6V3.1 aNever 27V3.1 2Never 1V5.1 b4V3.1",
   "bV8.0 2V14.0 15Never 46V4.1 7aNever 14V15.0 cNever 14V11.0 cNever 57V4.0 9Never 12V5.0",
   "7V11.0 87Never 55V3.1 1Never 47V3.1 1Never 2V3.1 2Never 1V3.1 2Never 2V3.1 2Never 4V3.1",
   "1Never cV3.1 1Never 1V3.1 1Never 4V3.1 1V4.0 2V3.1 1Never 41V3.1 1Never 4V3.1 2Never 8V3.1",
   "1Never 7V3.1 1Never 1cV3.1 1Never 4V3.1 1Never 5V3.1 1Never 1V3.1 3Never 7V3.1 1Never",
   "152V3.1 2V4.1 2Never 122V3.1 2V5.0 2Never 32V3.1 28cV8.0 fNever 5V8.0 1Never fV8.0 450Never",
   "1fV14.0 6Never 6V15.0 d5Never 7V9.0 1Never 11V9.0 2Never 7V9.0 1Never 2V9.0 1Never 5V9.0",
   "5Never 3eV15.0 21Never 1V15.0 70Never 2dV12.0 3Never eV12.0 2Never aV12.0 4Never 2V12.0",
   "140Never 1fV14.0 11Never 3aV12.0 5Never 1V12.0 1d0Never 2aV15.0 d6Never 2bV16.0 4Never",
   "1V16.0 1e0Never 7V14.0 1Never 4V14.0 1Never 2V14.0 1Never fV14.0 1Never c5V7.0 2Never",
   "10V7.0 29Never 4bV9.0 1V12.0 4Never aV9.0 4Never 2V9.0 311Never 44V11.0 4cNever 3dV12.0",
   "c2Never 4V6.1 1Never 1bV6.1 1Never 2V6.1 1Never 1V6.1 2Never 1V6.1 1Never aV6.1 1Never",
   "4V6.1 1Never 1V6.1 1Never 1V6.1 6Never 1V6.1 4Never 1V6.1 1Never 1V6.1 1Never 1V6.1 1Never",
   "3V6.1 1Never 2V6.1 1Never 1V6.1 2Never 1V6.1 1Never 1V6.1 1Never 1V6.1 1Never 1V6.1 1Never",
   "1V6.1 1Never 2V6.1 1Never 1V6.1 2Never 4V6.1 1Never 7V6.1 1Never 4V6.1 1Never 4V6.1 1Never",
   "1V6.1 1Never aV6.1 1Never 11V6.1 5Never 3V6.1 1Never 5V6.1 1Never 11V6.1 34Never 2V6.1",
   "10eNever 2cV5.1 4Never 64V5.1 cNever fV6.0 2Never eV6.0 1V7.0 1Never fV6.0 1Never fV6.0",
   "16V7.0 aNever bV5.2 2V7.0 3V13.0 1fV5.2 1V11.0 1V6.0 1V5.2 bV6.0 1V5.2 1V6.0 1V5.2 2V6.0",
   "1V5.2 3V6.0 1V5.2 3V6.0 5V5.2 8V6.0 1V5.2 7V6.0 1V5.2 aV6.0 2V6.1 1V12.0 3V13.0 9V6.0 1V5.2",
   "1V6.0 2V5.2 2V6.0 1V5.2 aV6.0 4V5.2 2V6.0 1V5.2 aV6.0 12V9.0 1V13.0 38Never 1aV6.0 1V5.2",
   "2V6.0 dNever 22V5.2 9V6.0 1V9.0 4Never 9V5.2 7Never 2V6.0 eNever 6V10.0 9aNever 21V6.0",
   "cV7.0 3V8.0 6V6.0 1V7.0 46V6.0 1V7.0 2V8.0 14V6.0 cV7.0 25V6.0 1V7.0 5V6.0 4V7.0 5V8.0",
   "cV7.0 11V6.0 7V7.0 8V8.0 3fV6.0 1V7.0 1V6.0 1V7.0 b6V6.0 1V7.0 4V6.0 2V7.0 1V8.0 3eV6.0",
   "2V7.0 4V6.1 7V7.0 5V8.0 18V6.0 12V7.0 1V9.0 29V7.0 1V9.0 56V7.0 5V6.0 1V6.1 10V6.0 1V6.1",
   "3V6.0 1V6.1 1V6.0 1V6.1 1V6.0 1V6.1 1V6.0 1V6.1 3V6.0 1V6.1 6V6.0 2V6.1 4V6.0 1V6.1 1V6.0",
   "2V6.1 4V6.0 1V6.1 cV6.0 2V7.0 2V8.0 bV6.0 30V7.0 46V6.0 aV7.0 1V8.0 2V9.0 2V10.0 1V12.0",
   "2V13.0 4Never 1V15.0 3V14.0 dV7.0 3Never 4V7.0 3V9.0 2V10.0 1V11.0 1V12.0 2V13.0 3Never",
   "74V6.0 3V15.0 4Never 5V15.0 55V7.0 4V11.0 1V15.0 6Never cV12.0 4Never 1V14.0 fNever cV7.0",
   "4Never 38V7.0 8Never aV7.0 6Never 28V7.0 8Never 1eV7.0 2Never 2V13.0 aV16.0 4Never 2V16.0",
   "3eNever cV10.0 1V13.0 3V12.0 9V8.0 6V9.0 1V10.0 8V9.0 8V10.0 1V9.0 2V10.0 cV9.0 1V12.0",
   "cV9.0 1V10.0 3V11.0 fV9.0 dV10.0 5V11.0 1V12.0 1V13.0 4V11.0 2V13.0 1V14.0 1V11.0 1V12.0",
   "4V11.0 5V8.0 dV9.0 6V10.0 bV11.0 2V13.0 6V12.0 3V13.0 2V12.0 aV11.0 6V12.0 1V8.0 2V11.0",
   "8V12.0 1V13.0 1V14.0 3V12.0 17V10.0 19V11.0 54V12.0 cNever eV11.0 2Never 4V12.0 1V13.0",
   "3V15.0 3V12.0 2V14.0 3Never 3V12.0 4V13.0 2V15.0 1V16.0 5Never 1V16.0 6V12.0 13V13.0 4V14.0",
   "3V15.0 7V13.0 4V14.0 3V15.0 1V16.0 1V15.0 3V13.0 3V14.0 1V16.0 7Never 2V15.0 7V13.0 3V14.0",
   "2V15.0 1V16.0 2Never 1V16.0 8V14.0 1V15.0 1V16.0 6Never 7V14.0 2V15.0 7Never 93V13.0 1Never",
   "37V13.0 25V16.0 aV13.0 404Never 2V2.0 a6d7V3.1 7V13.0 2V14.0 20Never 1035V5.2 4V14.0 1V15.0",
   "6Never deV6.0 2Never 1682V8.0 eNever 1d31V10.0 fNever 26eV15.1 9a2Never 21eV3.1 5e0Never",
   "2V2.0 134bV13.0 5Never 1060V15.0 dc4eNever 2V2.0 fffeNever 2V2.0 fffeNever 2V2.0 fffeNever",
   "2V2.0 fffeNever 2V2.0 fffeNever 2V2.0 fffeNever 2V2.0 fffeNever 2V2.0 fffeNever 2V2.0",
   "fffeNever 2V2.0 fffeNever 2V2.0 1Never 1V3.1 1eNever 60V3.1 80Never f0V4.0 fe0eNever",
   "20002V2.0"]

end Unicode

end Switchboard
