import CodeMarkup.Unicode.RunTable

/-!
# Scripts

The script of a character is the writing system it belongs to, under its
four-letter code (`CodeMarkup.Unicode.script`). A character that several scripts
share belongs to "common" or to "inherited"; the scripts that in fact use it are
its *script extensions* (`CodeMarkup.Unicode.scriptExtensions`). Both are as
version 16 of the standard assigns them.
-/

namespace CodeMarkup.Unicode

/-- A writing system, under its four-letter code. -/
structure Script where
  /-- The code: a capital letter and three small ones. -/
  code : String
  deriving DecidableEq, Repr

/-- The script of the characters that no script has. -/
def Script.unknown : Script := ⟨"Zzzz"⟩

/-- The runs of equal script. -/
def scriptTable : RunTable Script :=
  RunTable.read (fun code => ⟨code⟩) [
    "41Zyyy 1aLatn 6Zyyy 1aLatn 2fZyyy 1Latn fZyyy 1Latn 5Zyyy 17Latn 1Zyyy 1fLatn 1Zyyy 1c1Latn",
    "27Zyyy 5Latn 5Zyyy 2Bopo 14Zyyy 70Zinh 4Grek 1Zyyy 3Grek 2Zzzz 4Grek 1Zyyy 1Grek 4Zzzz 1Grek",
    "1Zyyy 1Grek 1Zyyy 3Grek 1Zzzz 1Grek 1Zzzz 14Grek 1Zzzz 3fGrek eCopt 10Grek 85Cyrl 2Zinh",
    "a9Cyrl 1Zzzz 26Armn 2Zzzz 32Armn 2Zzzz 3Armn 1Zzzz 37Hebr 8Zzzz 1bHebr 4Zzzz 6Hebr bZzzz",
    "5Arab 1Zyyy 6Arab 1Zyyy eArab 1Zyyy 3Arab 1Zyyy 20Arab 1Zyyy aArab bZinh 1aArab 1Zinh 6cArab",
    "1Zyyy 22Arab eSyrc 1Zzzz 3cSyrc 2Zzzz 3Syrc 30Arab 32Thaa eZzzz 3bNkoo 2Zzzz 3Nkoo 2eSamr",
    "2Zzzz fSamr 1Zzzz 1cMand 2Zzzz 1Mand 1Zzzz bSyrc 5Zzzz 1fArab 1Zzzz 2Arab 5Zzzz 4bArab 1Zyyy",
    "1dArab 51Deva 4Zinh fDeva 2Zyyy 1aDeva 4Beng 1Zzzz 8Beng 2Zzzz 2Beng 2Zzzz 16Beng 1Zzzz",
    "7Beng 1Zzzz 1Beng 3Zzzz 4Beng 2Zzzz 9Beng 2Zzzz 2Beng 2Zzzz 4Beng 8Zzzz 1Beng 4Zzzz 2Beng",
    "1Zzzz 5Beng 2Zzzz 19Beng 2Zzzz 3Guru 1Zzzz 6Guru 4Zzzz 2Guru 2Zzzz 16Guru 1Zzzz 7Guru 1Zzzz",
    "2Guru 1Zzzz 2Guru 1Zzzz 2Guru 2Zzzz 1Guru 1Zzzz 5Guru 4Zzzz 2Guru 2Zzzz 3Guru 3Zzzz 1Guru",
    "7Zzzz 4Guru 1Zzzz 1Guru 7Zzzz 11Guru aZzzz 3Gujr 1Zzzz 9Gujr 1Zzzz 3Gujr 1Zzzz 16Gujr 1Zzzz",
    "7Gujr 1Zzzz 2Gujr 1Zzzz 5Gujr 2Zzzz aGujr 1Zzzz 3Gujr 1Zzzz 3Gujr 2Zzzz 1Gujr fZzzz 4Gujr",
    "2Zzzz cGujr 7Zzzz 7Gujr 1Zzzz 3Orya 1Zzzz 8Orya 2Zzzz 2Orya 2Zzzz 16Orya 1Zzzz 7Orya 1Zzzz",
    "2Orya 1Zzzz 5Orya 2Zzzz 9Orya 2Zzzz 2Orya 2Zzzz 3Orya 7Zzzz 3Orya 4Zzzz 2Orya 1Zzzz 5Orya",
    "2Zzzz 12Orya aZzzz 2Taml 1Zzzz 6Taml 3Zzzz 3Taml 1Zzzz 4Taml 3Zzzz 2Taml 1Zzzz 1Taml 1Zzzz",
    "2Taml 3Zzzz 2Taml 3Zzzz 3Taml 3Zzzz cTaml 4Zzzz 5Taml 3Zzzz 3Taml 1Zzzz 4Taml 2Zzzz 1Taml",
    "6Zzzz 1Taml eZzzz 15Taml 5Zzzz dTelu 1Zzzz 3Telu 1Zzzz 17Telu 1Zzzz 10Telu 2Zzzz 9Telu 1Zzzz",
    "3Telu 1Zzzz 4Telu 7Zzzz 2Telu 1Zzzz 3Telu 2Zzzz 1Telu 2Zzzz 4Telu 2Zzzz aTelu 7Zzzz 9Telu",
    "dKnda 1Zzzz 3Knda 1Zzzz 17Knda 1Zzzz aKnda 1Zzzz 5Knda 2Zzzz 9Knda 1Zzzz 3Knda 1Zzzz 4Knda",
    "7Zzzz 2Knda 6Zzzz 2Knda 1Zzzz 4Knda 2Zzzz aKnda 1Zzzz 3Knda cZzzz dMlym 1Zzzz 3Mlym 1Zzzz",
    "33Mlym 1Zzzz 3Mlym 1Zzzz 6Mlym 4Zzzz 10Mlym 2Zzzz 1aMlym 1Zzzz 3Sinh 1Zzzz 12Sinh 3Zzzz",
    "18Sinh 1Zzzz 9Sinh 1Zzzz 1Sinh 2Zzzz 7Sinh 3Zzzz 1Sinh 4Zzzz 6Sinh 1Zzzz 1Sinh 1Zzzz 8Sinh",
    "6Zzzz aSinh 2Zzzz 3Sinh cZzzz 3aThai 4Zzzz 1Zyyy 1cThai 25Zzzz 2Laoo 1Zzzz 1Laoo 1Zzzz 5Laoo",
    "1Zzzz 18Laoo 1Zzzz 1Laoo 1Zzzz 17Laoo 2Zzzz 5Laoo 1Zzzz 1Laoo 1Zzzz 7Laoo 1Zzzz aLaoo 2Zzzz",
    "4Laoo 20Zzzz 48Tibt 1Zzzz 24Tibt 4Zzzz 27Tibt 1Zzzz 24Tibt 1Zzzz fTibt 1Zzzz 7Tibt 4Zyyy",
    "2Tibt 25Zzzz a0Mymr 26Geor 1Zzzz 1Geor 5Zzzz 1Geor 2Zzzz 2bGeor 1Zyyy 4Geor 100Hang 49Ethi",
    "1Zzzz 4Ethi 2Zzzz 7Ethi 1Zzzz 1Ethi 1Zzzz 4Ethi 2Zzzz 29Ethi 1Zzzz 4Ethi 2Zzzz 21Ethi 1Zzzz",
    "4Ethi 2Zzzz 7Ethi 1Zzzz 1Ethi 1Zzzz 4Ethi 2Zzzz fEthi 1Zzzz 39Ethi 1Zzzz 4Ethi 2Zzzz 43Ethi",
    "2Zzzz 20Ethi 3Zzzz 1aEthi 6Zzzz 56Cher 2Zzzz 6Cher 2Zzzz 280Cans 1dOgam 3Zzzz 4bRunr 3Zyyy",
    "bRunr 7Zzzz 16Tglg 9Zzzz 1Tglg 15Hano 2Zyyy 9Zzzz 14Buhd cZzzz dTagb 1Zzzz 3Tagb 1Zzzz 2Tagb",
    "cZzzz 5eKhmr 2Zzzz aKhmr 6Zzzz aKhmr 6Zzzz 2Mong 2Zyyy 1Mong 1Zyyy 14Mong 6Zzzz 59Mong 7Zzzz",
    "2bMong 5Zzzz 46Cans aZzzz 1fLimb 1Zzzz cLimb 4Zzzz cLimb 4Zzzz 1Limb 3Zzzz cLimb 1eTale",
    "2Zzzz 5Tale bZzzz 2cTalu 4Zzzz 1aTalu 6Zzzz bTalu 3Zzzz 2Talu 20Khmr 1cBugi 2Zzzz 2Bugi",
    "3fLana 1Zzzz 1dLana 2Zzzz bLana 6Zzzz aLana 6Zzzz eLana 2Zzzz 1fZinh 31Zzzz 4dBali 1Zzzz",
    "32Bali 40Sund 34Batk 8Zzzz 4Batk 38Lepc 3Zzzz fLepc 3Zzzz 3Lepc 30Olck bCyrl 5Zzzz 2bGeor",
    "2Zzzz 3Geor 8Sund 8Zzzz 3Zinh 1Zyyy dZinh 1Zyyy 7Zinh 4Zyyy 1Zinh 6Zyyy 1Zinh 3Zyyy 2Zinh",
    "1Zyyy 5Zzzz 26Latn 5Grek 1Cyrl 31Latn 5Grek 4Latn 5Grek dLatn 1Cyrl 46Latn 1Grek 40Zinh",
    "100Latn 16Grek 2Zzzz 6Grek 2Zzzz 26Grek 2Zzzz 6Grek 2Zzzz 8Grek 1Zzzz 1Grek 1Zzzz 1Grek",
    "1Zzzz 1Grek 1Zzzz 1fGrek 2Zzzz 35Grek 1Zzzz fGrek 1Zzzz eGrek 2Zzzz 6Grek 1Zzzz 13Grek 2Zzzz",
    "3Grek 1Zzzz 9Grek 1Zzzz cZyyy 2Zinh 57Zyyy 1Zzzz bZyyy 1Latn 2Zzzz bZyyy 1Latn fZyyy 1Zzzz",
    "dLatn 3Zzzz 21Zyyy fZzzz 21Zinh fZzzz 26Zyyy 1Grek 3Zyyy 2Latn 6Zyyy 1Latn 1bZyyy 1Latn",
    "11Zyyy 29Latn 3Zyyy 4Zzzz 29aZyyy 16Zzzz bZyyy 15Zzzz 3a0Zyyy 100Brai 274Zyyy 2Zzzz 20Zyyy",
    "1Zzzz 69Zyyy 60Glag 20Latn 74Copt 5Zzzz 7Copt 26Geor 1Zzzz 1Geor 5Zzzz 1Geor 2Zzzz 38Tfng",
    "7Zzzz 2Tfng eZzzz 1Tfng 17Ethi 9Zzzz 7Ethi 1Zzzz 7Ethi 1Zzzz 7Ethi 1Zzzz 7Ethi 1Zzzz 7Ethi",
    "1Zzzz 7Ethi 1Zzzz 7Ethi 1Zzzz 7Ethi 1Zzzz 20Cyrl 5eZyyy 22Zzzz 1aHani 1Zzzz 59Hani cZzzz",
    "d6Hani 1aZzzz 15Zyyy 1Hani 1Zyyy 1Hani 19Zyyy 9Hani 4Zinh 2Hang 8Zyyy 4Hani 4Zyyy 1Zzzz",
    "56Hira 2Zzzz 2Zinh 2Zyyy 3Hira 1Zyyy 5aKana 2Zyyy 3Kana 5Zzzz 2bBopo 1Zzzz 5eHang 1Zzzz",
    "10Zyyy 20Bopo 26Zyyy 9Zzzz 1Zyyy 10Kana 1fHang 1Zzzz 40Zyyy 1fHang 51Zyyy 2fKana 1Zyyy",
    "58Kana a8Zyyy 19c0Hani 40Zyyy 5200Hani 48dYiii 3Zzzz 37Yiii 9Zzzz 30Lisu 12cVaii 14Zzzz",
    "60Cyrl 58Bamu 8Zzzz 22Zyyy 66Latn 3Zyyy 43Latn 2Zzzz 2Latn 1Zzzz 1Latn 1Zzzz 8Latn 15Zzzz",
    "eLatn 2dSylo 3Zzzz aZyyy 6Zzzz 38Phag 8Zzzz 46Saur 8Zzzz cSaur 6Zzzz 20Deva 2eKali 1Zyyy",
    "1Kali 24Rjng bZzzz 1Rjng 1dHang 3Zzzz 4eJava 1Zzzz 1Zyyy aJava 4Zzzz 2Java 1fMymr 1Zzzz",
    "37Cham 9Zzzz eCham 2Zzzz aCham 2Zzzz 4Cham 20Mymr 43Tavt 18Zzzz 5Tavt 17Mtei aZzzz 6Ethi",
    "2Zzzz 6Ethi 2Zzzz 6Ethi 9Zzzz 7Ethi 1Zzzz 7Ethi 1Zzzz 2bLatn 1Zyyy 9Latn 1Grek 4Latn 2Zyyy",
    "4Zzzz 50Cher 2eMtei 2Zzzz aMtei 6Zzzz 2ba4Hang cZzzz 17Hang 4Zzzz 31Hang 2104Zzzz 16eHani",
    "2Zzzz 6aHani 26Zzzz 7Latn cZzzz 5Armn 5Zzzz 1aHebr 1Zzzz 5Hebr 1Zzzz 1Hebr 1Zzzz 2Hebr 1Zzzz",
    "2Hebr 1Zzzz aHebr 73Arab 10Zzzz 16bArab 2Zyyy 50Arab 2Zzzz 36Arab 7Zzzz 1Arab 20Zzzz 10Arab",
    "10Zinh aZyyy 6Zzzz eZinh 2Cyrl 23Zyyy 1Zzzz 13Zyyy 1Zzzz 4Zyyy 4Zzzz 5Arab 1Zzzz 87Arab",
    "2Zzzz 1Zyyy 1Zzzz 20Zyyy 1aLatn 6Zyyy 1aLatn bZyyy aKana 1Zyyy 2dKana 2Zyyy 1fHang 3Zzzz",
    "6Hang 2Zzzz 6Hang 2Zzzz 6Hang 2Zzzz 3Hang 3Zzzz 7Zyyy 1Zzzz 7Zyyy aZzzz 5Zyyy 2Zzzz cLinb",
    "1Zzzz 1aLinb 1Zzzz 13Linb 1Zzzz 2Linb 1Zzzz fLinb 2Zzzz eLinb 22Zzzz 7bLinb 5Zzzz 3Zyyy",
    "4Zzzz 2dZyyy 3Zzzz 9Zyyy 4fGrek 1Zzzz dZyyy 3Zzzz 1Grek 2fZzzz 2dZyyy 1Zinh 82Zzzz 1dLyci",
    "3Zzzz 31Cari fZzzz 1Zinh 1bZyyy 4Zzzz 24Ital 9Zzzz 3Ital 1bGoth 5Zzzz 2bPerm 5Zzzz 1eUgar",
    "1Zzzz 1Ugar 24Xpeo 4Zzzz eXpeo 2aZzzz 50Dsrt 30Shaw 1eOsma 2Zzzz aOsma 6Zzzz 24Osge 4Zzzz",
    "24Osge 4Zzzz 28Elba 8Zzzz 34Aghb bZzzz 1Aghb bVith 1Zzzz fVith 1Zzzz 7Vith 1Zzzz 2Vith 1Zzzz",
    "bVith 1Zzzz fVith 1Zzzz 7Vith 1Zzzz 2Vith 3Zzzz 34Todr cZzzz 137Lina 9Zzzz 16Lina aZzzz",
    "8Lina 18Zzzz 6Latn 1Zzzz 2aLatn 1Zzzz 9Latn 45Zzzz 6Cprt 2Zzzz 1Cprt 1Zzzz 2cCprt 1Zzzz",
    "2Cprt 3Zzzz 1Cprt 2Zzzz 1Cprt 16Armi 1Zzzz 9Armi 20Palm 1fNbat 8Zzzz 9Nbat 30Zzzz 13Hatr",
    "1Zzzz 2Hatr 5Zzzz 5Hatr 1cPhnx 3Zzzz 1Phnx 1aLydi 5Zzzz 1Lydi 40Zzzz 20Mero 18Merc 4Zzzz",
    "14Merc 2Zzzz 2eMerc 4Khar 1Zzzz 2Khar 5Zzzz 8Khar 1Zzzz 3Khar 1Zzzz 1dKhar 2Zzzz 3Khar 4Zzzz",
    "aKhar 7Zzzz 9Khar 7Zzzz 20Sarb 20Narb 20Zzzz 27Mani 4Zzzz cMani 9Zzzz 36Avst 3Zzzz 7Avst",
    "16Prti 2Zzzz 8Prti 13Phli 5Zzzz 8Phli 12Phlp 7Zzzz 4Phlp cZzzz 7Phlp 50Zzzz 49Orkh 37Zzzz",
    "33Hung dZzzz 33Hung 7Zzzz 6Hung 28Rohg 8Zzzz aRohg 6Zzzz 26Gara 3Zzzz 1dGara 8Zzzz 2Gara",
    "d0Zzzz 1fArab 1Zzzz 2aYezi 1Zzzz 3Yezi 2Zzzz 2Yezi 10Zzzz 3Arab 37Zzzz 4Arab 28Sogo 8Zzzz",
    "2aSogd 16Zzzz 1aOugr 26Zzzz 1cChrs 14Zzzz 17Elym 9Zzzz 4eBrah 4Zzzz 24Brah 9Zzzz 1Brah",
    "43Kthi aZzzz 1Kthi 2Zzzz 19Sora 7Zzzz aSora 6Zzzz 35Cakm 1Zzzz 12Cakm 8Zzzz 27Mahj 9Zzzz",
    "60Shrd 1Zzzz 14Sinh bZzzz 12Khoj 1Zzzz 2fKhoj 3eZzzz 7Mult 1Zzzz 1Mult 1Zzzz 4Mult 1Zzzz",
    "fMult 1Zzzz bMult 6Zzzz 3bSind 5Zzzz aSind 6Zzzz 4Gran 1Zzzz 8Gran 2Zzzz 2Gran 2Zzzz 16Gran",
    "1Zzzz 7Gran 1Zzzz 2Gran 1Zzzz 5Gran 1Zzzz 1Zinh 9Gran 2Zzzz 2Gran 2Zzzz 3Gran 2Zzzz 1Gran",
    "6Zzzz 1Gran 5Zzzz 7Gran 2Zzzz 7Gran 3Zzzz 5Gran bZzzz aTutg 1Zzzz 1Tutg 2Zzzz 1Tutg 1Zzzz",
    "26Tutg 1Zzzz aTutg 1Zzzz 1Tutg 2Zzzz 1Tutg 1Zzzz 4Tutg 1Zzzz aTutg 1Zzzz 2Tutg 8Zzzz 2Tutg",
    "1dZzzz 5cNewa 1Zzzz 5Newa 1eZzzz 48Tirh 8Zzzz aTirh a6Zzzz 36Sidd 2Zzzz 26Sidd 22Zzzz 45Modi",
    "bZzzz aModi 6Zzzz dMong 13Zzzz 3aTakr 6Zzzz aTakr 6Zzzz 14Mymr 1cZzzz 1bAhom 2Zzzz fAhom",
    "4Zzzz 17Ahom b9Zzzz 3cDogr 64Zzzz 53Wara cZzzz 1Wara 7Diak 2Zzzz 1Diak 2Zzzz 8Diak 1Zzzz",
    "2Diak 1Zzzz 1eDiak 1Zzzz 2Diak 2Zzzz cDiak 9Zzzz aDiak 46Zzzz 8Nand 2Zzzz 2eNand 2Zzzz bNand",
    "1bZzzz 48Zanb 8Zzzz 53Soyo dZzzz 10Cans 39Pauc 7Zzzz aDeva b6Zzzz 22Sunu eZzzz aSunu 6Zzzz",
    "9Bhks 1Zzzz 2dBhks 1Zzzz eBhks aZzzz 1dBhks 3Zzzz 20Marc 2Zzzz 16Marc 1Zzzz eMarc 49Zzzz",
    "7Gonm 1Zzzz 2Gonm 1Zzzz 2cGonm 3Zzzz 1Gonm 1Zzzz 2Gonm 1Zzzz 9Gonm 8Zzzz aGonm 6Zzzz 6Gong",
    "1Zzzz 2Gong 1Zzzz 25Gong 1Zzzz 2Gong 1Zzzz 6Gong 7Zzzz aGong 136Zzzz 19Maka 7Zzzz 11Kawi",
    "1Zzzz 29Kawi 3Zzzz 1dKawi 55Zzzz 1Lisu fZzzz 32Taml dZzzz 1Taml 39aXsux 66Zzzz 6fXsux 1Zzzz",
    "5Xsux bZzzz c4Xsux a4cZzzz 63Cpmn dZzzz 456Egyp aZzzz f9bEgyp 5Zzzz 247Hluw 1ab9Zzzz 3aGukh",
    "6c6Zzzz 239Bamu 7Zzzz 1fMroo 1Zzzz aMroo 4Zzzz 2Mroo 4fTnsa 1Zzzz aTnsa 6Zzzz 1eBass 2Zzzz",
    "6Bass aZzzz 46Hmng aZzzz aHmng 1Zzzz 7Hmng 1Zzzz 15Hmng 5Zzzz 13Hmng 1b0Zzzz 3aKrai c6Zzzz",
    "5bMedf 65Zzzz 4bPlrd 4Zzzz 39Plrd 7Zzzz 11Plrd 40Zzzz 1Tang 1Nshu 2Hani 1Kits bZzzz 2Hani",
    "eZzzz 17f8Tang 8Zzzz 300Tang 1d6Kits 29Zzzz 1Kits 9Tang 22e7Zzzz 4Kana 1Zzzz 7Kana 1Zzzz",
    "2Kana 1Zzzz 1Kana 11fHira 3Kana fZzzz 1Hira 1dZzzz 3Hira 2Zzzz 1Kana eZzzz 4Kana 8Zzzz",
    "18cNshu 904Zzzz 6bDupl 5Zzzz dDupl 3Zzzz 9Dupl 7Zzzz aDupl 2Zzzz 4Dupl 4Zyyy f5cZzzz faZyyy",
    "6Zzzz 1b4Zyyy 4cZzzz 2eZinh 2Zzzz 17Zinh 9Zzzz 74Zyyy 3cZzzz f6Zyyy aZzzz 27Zyyy 2Zzzz",
    "3eZyyy 3Zinh 11Zyyy 8Zinh 2Zyyy 7Zinh 1eZyyy 4Zinh 3dZyyy 15Zzzz 46Grek 7aZzzz 14Zyyy cZzzz",
    "14Zyyy cZzzz 57Zyyy 9Zzzz 19Zyyy 87Zzzz 55Zyyy 1Zzzz 47Zyyy 1Zzzz 2Zyyy 2Zzzz 1Zyyy 2Zzzz",
    "2Zyyy 2Zzzz 4Zyyy 1Zzzz cZyyy 1Zzzz 1Zyyy 1Zzzz 7Zyyy 1Zzzz 41Zyyy 1Zzzz 4Zyyy 2Zzzz 8Zyyy",
    "1Zzzz 7Zyyy 1Zzzz 1cZyyy 1Zzzz 4Zyyy 1Zzzz 5Zyyy 1Zzzz 1Zyyy 3Zzzz 7Zyyy 1Zzzz 154Zyyy 2Zzzz",
    "124Zyyy 2Zzzz 32Zyyy 28cSgnw fZzzz 5Sgnw 1Zzzz fSgnw 450Zzzz 1fLatn 6Zzzz 6Latn d5Zzzz 7Glag",
    "1Zzzz 11Glag 2Zzzz 7Glag 1Zzzz 2Glag 1Zzzz 5Glag 5Zzzz 3eCyrl 21Zzzz 1Cyrl 70Zzzz 2dHmnp",
    "3Zzzz eHmnp 2Zzzz aHmnp 4Zzzz 2Hmnp 140Zzzz 1fToto 11Zzzz 3aWcho 5Zzzz 1Wcho 1d0Zzzz 2aNagm",
    "d6Zzzz 2bOnao 4Zzzz 1Onao 1e0Zzzz 7Ethi 1Zzzz 4Ethi 1Zzzz 2Ethi 1Zzzz fEthi 1Zzzz c5Mend",
    "2Zzzz 10Mend 29Zzzz 4cAdlm 4Zzzz aAdlm 4Zzzz 2Adlm 311Zzzz 44Zyyy 4cZzzz 3dZyyy c2Zzzz 4Arab",
    "1Zzzz 1bArab 1Zzzz 2Arab 1Zzzz 1Arab 2Zzzz 1Arab 1Zzzz aArab 1Zzzz 4Arab 1Zzzz 1Arab 1Zzzz",
    "1Arab 6Zzzz 1Arab 4Zzzz 1Arab 1Zzzz 1Arab 1Zzzz 1Arab 1Zzzz 3Arab 1Zzzz 2Arab 1Zzzz 1Arab",
    "2Zzzz 1Arab 1Zzzz 1Arab 1Zzzz 1Arab 1Zzzz 1Arab 1Zzzz 1Arab 1Zzzz 2Arab 1Zzzz 1Arab 2Zzzz",
    "4Arab 1Zzzz 7Arab 1Zzzz 4Arab 1Zzzz 4Arab 1Zzzz 1Arab 1Zzzz aArab 1Zzzz 11Arab 5Zzzz 3Arab",
    "1Zzzz 5Arab 1Zzzz 11Arab 34Zzzz 2Arab 10eZzzz 2cZyyy 4Zzzz 64Zyyy cZzzz fZyyy 2Zzzz fZyyy",
    "1Zzzz fZyyy 1Zzzz 25Zyyy aZzzz aeZyyy 38Zzzz 1aZyyy 1Hira 2Zyyy dZzzz 2cZyyy 4Zzzz 9Zyyy",
    "7Zzzz 2Zyyy eZzzz 6Zyyy 9aZzzz 3d8Zyyy 4Zzzz 11Zyyy 3Zzzz dZyyy 3Zzzz 77Zyyy 4Zzzz 5fZyyy",
    "6Zzzz cZyyy 4Zzzz 1Zyyy fZzzz cZyyy 4Zzzz 38Zyyy 8Zzzz aZyyy 6Zzzz 28Zyyy 8Zzzz 1eZyyy 2Zzzz",
    "cZyyy 4Zzzz 2Zyyy 3eZzzz 154Zyyy cZzzz eZyyy 2Zzzz dZyyy 3Zzzz aZyyy 5Zzzz 38Zyyy 7Zzzz",
    "fZyyy 2Zzzz bZyyy 6Zzzz 9Zyyy 7Zzzz 93Zyyy 1Zzzz 66Zyyy 406Zzzz a6e0Hani 20Zzzz 103aHani",
    "6Zzzz deHani 2Zzzz 1682Hani eZzzz 1d31Hani fZzzz 26eHani 9a2Zzzz 21eHani 5e2Zzzz 134bHani",
    "5Zzzz 1060Hani adc51Zzzz 1Zyyy 1eZzzz 60Zyyy 80Zzzz f0Zinh 2fe10Zzzz"]

/-- The script of code point `x`. -/
def script (x : Nat) : Script := (scriptTable.get? x).getD .unknown

/-- The codes written one after the other in `codes`. -/
def readScripts : List Char → List Script
  | a :: b :: c :: d :: rest => ⟨String.ofList [a, b, c, d]⟩ :: readScripts rest
  | _ => []

/-- The runs of equal script extensions. A run without a code is one whose
characters are used by their own script alone. -/
def extensionTable : RunTable (List Script) :=
  RunTable.read (fun codes => readScripts codes.toList) [
    "b7X 1AvstCariCoptDuplElbaGeorGlagGongGothGrekHaniLatnLydiMahjPermShaw 204X",
    "1BengCyrlDevaLatnLisuThaiToto aX 1BopoLatn 1X 3BopoLatn 1X 1LatnLisu 9X 1LatnThai 1X",
    "1BopoLatn 26X 1CherCoptCyrlGrekLatnPermSunuTale 1CherCyrlGrekLatnOsgeSunuTaleTodr",
    "1CherCyrlLatnTfng 1GlagLatnSunuSyrcThai 1AghbCherCoptCyrlGothGrekLatnOsgeSyrcTfngTodr",
    "1CoptElbaGlagGothKanaLatn 1CyrlGrekLatnPermTfng 1CoptDuplHebrLatnPermSyrcTaleTfngTodr",
    "1ArmnCyrlDuplGothGrekHebrLatnPermSyrcTaleTfng 1LatnTfng 1DuplLatnSyrc 1CherCyrlLatnOsge",
    "1CherLatnTale 1LatnSunu 1EthiLatn 1X 1LatnSunu 1CyrlLatnTodr 1X 1GrekLatnPermTodr fX",
    "1CherDuplKanaLatnSyrcTfng 1CherDuplLatnSyrc 1LatnSyrc 7X 1LatnSunuSyrc 1LatnSyrc 1X",
    "1CherLatnSyrc 1AghbCherGothLatnSunuSyrcThai 10X 1Grek 2X 1Grek 12X 1LatnOsge 5X",
    "1AghbLatnTodr 4X dLatn 4X 2CoptGrek 10dX 1CyrlPerm 1CyrlGlag 2CyrlLatn 1CyrlGlag 101X",
    "1ArmnGeorGlag 82X 1ArabGaraNkooRohgSyrcThaaYezi eX 1ArabGaraNkooRohgSyrcThaaYezi",
    "1ArabSyrcThaa 2X 1AdlmArabGaraNkooRohgSyrcThaaYezi 20X 1AdlmArabMandManiOugrPhlpRohgSogdSyrc",
    "aX bArabSyrc aX aArabThaaYezi 6X 1ArabSyrc 63X 1ArabRohg 27cX",
    "1BengDevaGranGujrGuruKndaLatnMlymNandNewaOryaShrdTamlTeluTirh",
    "1BengDevaGranGujrGuruKndaLatnMlymNewaOryaTamlTeluTirh 11X",
    "1BengDevaDogrGongGonmGranGujrGuruKndaMahjMlymNandOnaoOryaSindSinhSyloTakrTamlTeluTirh",
    "1BengDevaDogrGongGonmGranGujrGukhGuruKndaLimbMahjMlymNandOnaoOryaSindSinhSyloTakrTamlTeluTirh",
    "aDevaDogrKthiMahj 76X aBengCakmSylo 76X aGuruMult 76X aGujrKhoj f6X eGranTaml f2X",
    "aKndaNandTutg 350X aCakmMymrTale b1X 1GeorGlagLatn 5efX 3Runr 47X 2BuhdHanoTagbTglg cbX",
    "2MongPhag 1X 1MongPhag 4caX 1BengDevaGranKnda 1Deva 1BengDevaGranKnda 1DevaGranKnda 1Deva",
    "1BengDevaNewaTeluTirh 1BengDevaTelu 1DevaNewaShrd 1BengDevaNewaTelu 1DevaShrd",
    "1DevaKndaMlymOryaTamlTelu 1Deva 2DevaShrd 2Deva 1DevaShrd 1BengDeva 1DevaNewaTirh 6Deva",
    "1DevaNandNewa 1BengDevaShrd 1DevaNewa 1Deva 1BengDevaNewaShrd 4Deva",
    "1BengDevaGranKndaMlymNandOryaSinhTeluTirhTutg 1DevaGran 1DevaGranKndaTutg 2BengDeva 1Beng",
    "2DevaGran 1Nand c5X 2Grek 36X 1CyrlLatnSyrc 1X 1Syrc 234X 1LatnMongPhag 1fX 1AdlmArab aX",
    "1CariGeorGlagHungLyciOrkh 2X 1CariGrekHungMero 92X 1DevaGranLatn d26X 1CoptLatn 18X",
    "1AvstOrkh 1AvstCariGeorHungKthiLydiSamr aX 1Dupl 4X 1AdlmArabHung 1X 1CyrlGlag 1acX",
    "10HaniTang 1X 1BopoHangHaniHiraKanaMongYiii 1BopoHangHaniHiraKanaMongPhagYiii",
    "1BopoHangHaniHiraKana 2X 1Hani 1X 2BopoHangHaniHiraKanaMongTibtYiii",
    "2BopoHangHaniHiraKanaLisuMongTibtYiii 6BopoHangHaniHiraKanaYiii 1X 1BopoHangHaniHiraKana",
    "8BopoHangHaniHiraKanaYiii 4BopoHangHaniHiraKana aX 4BopoHani 2X 1BopoHangHaniHiraKana",
    "5HiraKana 1X 1BopoHangHaniHiraKana 4X 2HaniHiraKana 2Hani 59X 4HiraKana 3X 1HiraKana 5aX",
    "1BopoHangHaniHiraKanaYiii 1HiraKana 93X 10Hani 20X 26Hani 9X 1HaniTang 30X 28Hani 38X 31Hani",
    "fX cHani 33X 1Hani 58X 19Hani aX 5Hani 60X 1fHani 7270X 1CyrlGlag 90X 8HaniLatn 128X",
    "3DevaDogrGujrGuruKhojKndaKthiMahjMlymModiNandShrdSindTakrTirhTutg",
    "3DevaDogrGujrGuruKhojKndaKthiMahjModiNandShrdSindTakrTirhTutg",
    "2DevaDogrGujrGuruKhojKthiMahjModiSindTakrTirh",
    "1DevaDogrGujrGuruKhojKthiMahjModiShrdSindTakrTirh",
    "1DevaDogrGujrGuruKhojKthiMahjModiSindTakrTirh b7X 1BengDevaTutg 1X 1DevaTaml 3aX",
    "1KaliLatnMymr a0X 1BugiJava 536eX 2ArabNkoo b2X 1ArabThaa aX 1ArabThaa 47X",
    "2BopoHangHaniHiraKana 11aX 5BopoHangHaniHiraKanaYiii aX 1HiraKana 2dX 2HiraKana 160X",
    "2CpmnCprtLinb 1CprtLinb 4X 2dCprtLinaLinb 3X 9CprtLinb 1a0X 1cArabCopt 7f6X 1ManiOugr 80eX",
    "1GranTaml 1X 1GranTaml 37X 2GranTaml c93X 2GranTaml 1X 1GranTaml 9cccX 4Dupl 16bcX 12Hani",
    "1edeX 2Hani f0daeX"]

/-- The scripts that use code point `x`: its own alone, unless the standard lists others. -/
def scriptExtensions (x : Nat) : List Script :=
  match extensionTable.get? x with
  | some (s :: ss) => s :: ss
  | _ => [script x]

/-- The names of each script: its code, its long name and its former codes. -/
def scriptNames : List (Script × List String) := [
  (⟨"Adlm"⟩, ["Adlm", "Adlam"]),
  (⟨"Aghb"⟩, ["Aghb", "Caucasian_Albanian"]),
  (⟨"Ahom"⟩, ["Ahom", "Ahom"]),
  (⟨"Arab"⟩, ["Arab", "Arabic"]),
  (⟨"Armi"⟩, ["Armi", "Imperial_Aramaic"]),
  (⟨"Armn"⟩, ["Armn", "Armenian"]),
  (⟨"Avst"⟩, ["Avst", "Avestan"]),
  (⟨"Bali"⟩, ["Bali", "Balinese"]),
  (⟨"Bamu"⟩, ["Bamu", "Bamum"]),
  (⟨"Bass"⟩, ["Bass", "Bassa_Vah"]),
  (⟨"Batk"⟩, ["Batk", "Batak"]),
  (⟨"Beng"⟩, ["Beng", "Bengali"]),
  (⟨"Bhks"⟩, ["Bhks", "Bhaiksuki"]),
  (⟨"Bopo"⟩, ["Bopo", "Bopomofo"]),
  (⟨"Brah"⟩, ["Brah", "Brahmi"]),
  (⟨"Brai"⟩, ["Brai", "Braille"]),
  (⟨"Bugi"⟩, ["Bugi", "Buginese"]),
  (⟨"Buhd"⟩, ["Buhd", "Buhid"]),
  (⟨"Cakm"⟩, ["Cakm", "Chakma"]),
  (⟨"Cans"⟩, ["Cans", "Canadian_Aboriginal"]),
  (⟨"Cari"⟩, ["Cari", "Carian"]),
  (⟨"Cham"⟩, ["Cham", "Cham"]),
  (⟨"Cher"⟩, ["Cher", "Cherokee"]),
  (⟨"Chrs"⟩, ["Chrs", "Chorasmian"]),
  (⟨"Copt"⟩, ["Copt", "Coptic", "Qaac"]),
  (⟨"Cpmn"⟩, ["Cpmn", "Cypro_Minoan"]),
  (⟨"Cprt"⟩, ["Cprt", "Cypriot"]),
  (⟨"Cyrl"⟩, ["Cyrl", "Cyrillic"]),
  (⟨"Deva"⟩, ["Deva", "Devanagari"]),
  (⟨"Diak"⟩, ["Diak", "Dives_Akuru"]),
  (⟨"Dogr"⟩, ["Dogr", "Dogra"]),
  (⟨"Dsrt"⟩, ["Dsrt", "Deseret"]),
  (⟨"Dupl"⟩, ["Dupl", "Duployan"]),
  (⟨"Egyp"⟩, ["Egyp", "Egyptian_Hieroglyphs"]),
  (⟨"Elba"⟩, ["Elba", "Elbasan"]),
  (⟨"Elym"⟩, ["Elym", "Elymaic"]),
  (⟨"Ethi"⟩, ["Ethi", "Ethiopic"]),
  (⟨"Gara"⟩, ["Gara", "Garay"]),
  (⟨"Geor"⟩, ["Geor", "Georgian"]),
  (⟨"Glag"⟩, ["Glag", "Glagolitic"]),
  (⟨"Gong"⟩, ["Gong", "Gunjala_Gondi"]),
  (⟨"Gonm"⟩, ["Gonm", "Masaram_Gondi"]),
  (⟨"Goth"⟩, ["Goth", "Gothic"]),
  (⟨"Gran"⟩, ["Gran", "Grantha"]),
  (⟨"Grek"⟩, ["Grek", "Greek"]),
  (⟨"Gujr"⟩, ["Gujr", "Gujarati"]),
  (⟨"Gukh"⟩, ["Gukh", "Gurung_Khema"]),
  (⟨"Guru"⟩, ["Guru", "Gurmukhi"]),
  (⟨"Hang"⟩, ["Hang", "Hangul"]),
  (⟨"Hani"⟩, ["Hani", "Han"]),
  (⟨"Hano"⟩, ["Hano", "Hanunoo"]),
  (⟨"Hatr"⟩, ["Hatr", "Hatran"]),
  (⟨"Hebr"⟩, ["Hebr", "Hebrew"]),
  (⟨"Hira"⟩, ["Hira", "Hiragana"]),
  (⟨"Hluw"⟩, ["Hluw", "Anatolian_Hieroglyphs"]),
  (⟨"Hmng"⟩, ["Hmng", "Pahawh_Hmong"]),
  (⟨"Hmnp"⟩, ["Hmnp", "Nyiakeng_Puachue_Hmong"]),
  (⟨"Hung"⟩, ["Hung", "Old_Hungarian"]),
  (⟨"Ital"⟩, ["Ital", "Old_Italic"]),
  (⟨"Java"⟩, ["Java", "Javanese"]),
  (⟨"Kali"⟩, ["Kali", "Kayah_Li"]),
  (⟨"Kana"⟩, ["Kana", "Katakana"]),
  (⟨"Kawi"⟩, ["Kawi", "Kawi"]),
  (⟨"Khar"⟩, ["Khar", "Kharoshthi"]),
  (⟨"Khmr"⟩, ["Khmr", "Khmer"]),
  (⟨"Khoj"⟩, ["Khoj", "Khojki"]),
  (⟨"Kits"⟩, ["Kits", "Khitan_Small_Script"]),
  (⟨"Knda"⟩, ["Knda", "Kannada"]),
  (⟨"Krai"⟩, ["Krai", "Kirat_Rai"]),
  (⟨"Kthi"⟩, ["Kthi", "Kaithi"]),
  (⟨"Lana"⟩, ["Lana", "Tai_Tham"]),
  (⟨"Laoo"⟩, ["Laoo", "Lao"]),
  (⟨"Latn"⟩, ["Latn", "Latin"]),
  (⟨"Lepc"⟩, ["Lepc", "Lepcha"]),
  (⟨"Limb"⟩, ["Limb", "Limbu"]),
  (⟨"Lina"⟩, ["Lina", "Linear_A"]),
  (⟨"Linb"⟩, ["Linb", "Linear_B"]),
  (⟨"Lisu"⟩, ["Lisu", "Lisu"]),
  (⟨"Lyci"⟩, ["Lyci", "Lycian"]),
  (⟨"Lydi"⟩, ["Lydi", "Lydian"]),
  (⟨"Mahj"⟩, ["Mahj", "Mahajani"]),
  (⟨"Maka"⟩, ["Maka", "Makasar"]),
  (⟨"Mand"⟩, ["Mand", "Mandaic"]),
  (⟨"Mani"⟩, ["Mani", "Manichaean"]),
  (⟨"Marc"⟩, ["Marc", "Marchen"]),
  (⟨"Medf"⟩, ["Medf", "Medefaidrin"]),
  (⟨"Mend"⟩, ["Mend", "Mende_Kikakui"]),
  (⟨"Merc"⟩, ["Merc", "Meroitic_Cursive"]),
  (⟨"Mero"⟩, ["Mero", "Meroitic_Hieroglyphs"]),
  (⟨"Mlym"⟩, ["Mlym", "Malayalam"]),
  (⟨"Modi"⟩, ["Modi", "Modi"]),
  (⟨"Mong"⟩, ["Mong", "Mongolian"]),
  (⟨"Mroo"⟩, ["Mroo", "Mro"]),
  (⟨"Mtei"⟩, ["Mtei", "Meetei_Mayek"]),
  (⟨"Mult"⟩, ["Mult", "Multani"]),
  (⟨"Mymr"⟩, ["Mymr", "Myanmar"]),
  (⟨"Nagm"⟩, ["Nagm", "Nag_Mundari"]),
  (⟨"Nand"⟩, ["Nand", "Nandinagari"]),
  (⟨"Narb"⟩, ["Narb", "Old_North_Arabian"]),
  (⟨"Nbat"⟩, ["Nbat", "Nabataean"]),
  (⟨"Newa"⟩, ["Newa", "Newa"]),
  (⟨"Nkoo"⟩, ["Nkoo", "Nko"]),
  (⟨"Nshu"⟩, ["Nshu", "Nushu"]),
  (⟨"Ogam"⟩, ["Ogam", "Ogham"]),
  (⟨"Olck"⟩, ["Olck", "Ol_Chiki"]),
  (⟨"Onao"⟩, ["Onao", "Ol_Onal"]),
  (⟨"Orkh"⟩, ["Orkh", "Old_Turkic"]),
  (⟨"Orya"⟩, ["Orya", "Oriya"]),
  (⟨"Osge"⟩, ["Osge", "Osage"]),
  (⟨"Osma"⟩, ["Osma", "Osmanya"]),
  (⟨"Ougr"⟩, ["Ougr", "Old_Uyghur"]),
  (⟨"Palm"⟩, ["Palm", "Palmyrene"]),
  (⟨"Pauc"⟩, ["Pauc", "Pau_Cin_Hau"]),
  (⟨"Perm"⟩, ["Perm", "Old_Permic"]),
  (⟨"Phag"⟩, ["Phag", "Phags_Pa"]),
  (⟨"Phli"⟩, ["Phli", "Inscriptional_Pahlavi"]),
  (⟨"Phlp"⟩, ["Phlp", "Psalter_Pahlavi"]),
  (⟨"Phnx"⟩, ["Phnx", "Phoenician"]),
  (⟨"Plrd"⟩, ["Plrd", "Miao"]),
  (⟨"Prti"⟩, ["Prti", "Inscriptional_Parthian"]),
  (⟨"Rjng"⟩, ["Rjng", "Rejang"]),
  (⟨"Rohg"⟩, ["Rohg", "Hanifi_Rohingya"]),
  (⟨"Runr"⟩, ["Runr", "Runic"]),
  (⟨"Samr"⟩, ["Samr", "Samaritan"]),
  (⟨"Sarb"⟩, ["Sarb", "Old_South_Arabian"]),
  (⟨"Saur"⟩, ["Saur", "Saurashtra"]),
  (⟨"Sgnw"⟩, ["Sgnw", "SignWriting"]),
  (⟨"Shaw"⟩, ["Shaw", "Shavian"]),
  (⟨"Shrd"⟩, ["Shrd", "Sharada"]),
  (⟨"Sidd"⟩, ["Sidd", "Siddham"]),
  (⟨"Sind"⟩, ["Sind", "Khudawadi"]),
  (⟨"Sinh"⟩, ["Sinh", "Sinhala"]),
  (⟨"Sogd"⟩, ["Sogd", "Sogdian"]),
  (⟨"Sogo"⟩, ["Sogo", "Old_Sogdian"]),
  (⟨"Sora"⟩, ["Sora", "Sora_Sompeng"]),
  (⟨"Soyo"⟩, ["Soyo", "Soyombo"]),
  (⟨"Sund"⟩, ["Sund", "Sundanese"]),
  (⟨"Sunu"⟩, ["Sunu", "Sunuwar"]),
  (⟨"Sylo"⟩, ["Sylo", "Syloti_Nagri"]),
  (⟨"Syrc"⟩, ["Syrc", "Syriac"]),
  (⟨"Tagb"⟩, ["Tagb", "Tagbanwa"]),
  (⟨"Takr"⟩, ["Takr", "Takri"]),
  (⟨"Tale"⟩, ["Tale", "Tai_Le"]),
  (⟨"Talu"⟩, ["Talu", "New_Tai_Lue"]),
  (⟨"Taml"⟩, ["Taml", "Tamil"]),
  (⟨"Tang"⟩, ["Tang", "Tangut"]),
  (⟨"Tavt"⟩, ["Tavt", "Tai_Viet"]),
  (⟨"Telu"⟩, ["Telu", "Telugu"]),
  (⟨"Tfng"⟩, ["Tfng", "Tifinagh"]),
  (⟨"Tglg"⟩, ["Tglg", "Tagalog"]),
  (⟨"Thaa"⟩, ["Thaa", "Thaana"]),
  (⟨"Thai"⟩, ["Thai", "Thai"]),
  (⟨"Tibt"⟩, ["Tibt", "Tibetan"]),
  (⟨"Tirh"⟩, ["Tirh", "Tirhuta"]),
  (⟨"Tnsa"⟩, ["Tnsa", "Tangsa"]),
  (⟨"Todr"⟩, ["Todr", "Todhri"]),
  (⟨"Toto"⟩, ["Toto", "Toto"]),
  (⟨"Tutg"⟩, ["Tutg", "Tulu_Tigalari"]),
  (⟨"Ugar"⟩, ["Ugar", "Ugaritic"]),
  (⟨"Vaii"⟩, ["Vaii", "Vai"]),
  (⟨"Vith"⟩, ["Vith", "Vithkuqi"]),
  (⟨"Wara"⟩, ["Wara", "Warang_Citi"]),
  (⟨"Wcho"⟩, ["Wcho", "Wancho"]),
  (⟨"Xpeo"⟩, ["Xpeo", "Old_Persian"]),
  (⟨"Xsux"⟩, ["Xsux", "Cuneiform"]),
  (⟨"Yezi"⟩, ["Yezi", "Yezidi"]),
  (⟨"Yiii"⟩, ["Yiii", "Yi"]),
  (⟨"Zanb"⟩, ["Zanb", "Zanabazar_Square"]),
  (⟨"Zinh"⟩, ["Zinh", "Inherited", "Qaai"]),
  (⟨"Zyyy"⟩, ["Zyyy", "Common"])]

end CodeMarkup.Unicode
