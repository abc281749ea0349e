/-!
# The scripts as a table

Where the script of characters changes: the first code point of every run in hexadecimal,
followed by the four letters of its script. The names of the scripts stand before, each with
the letters that stand for it.
-/

namespace EditionGuard.Text.Unicode

/-- The names of the scripts in small letters without underscores, each followed by its
letters; an entry ends in a comma. -/
def scriptNames : List String := [
  "adlam Adlm,adlm Adlm,ahom Ahom,ahom Ahom,anatolianhieroglyphs Hluw,hluw Hluw,",
  "arabic Arab,arab Arab,armenian Armn,armn Armn,avestan Avst,avst Avst,",
  "balinese Bali,bali Bali,bamum Bamu,bamu Bamu,bassavah Bass,bass Bass,",
  "batak Batk,batk Batk,bengali Beng,beng Beng,beriaerfe Berf,berf Berf,",
  "bhaiksuki Bhks,bhks Bhks,bopomofo Bopo,bopo Bopo,brahmi Brah,brah Brah,",
  "braille Brai,brai Brai,buginese Bugi,bugi Bugi,buhid Buhd,buhd Buhd,",
  "canadianaboriginal Cans,cans Cans,carian Cari,cari Cari,",
  "caucasianalbanian Aghb,aghb Aghb,chakma Cakm,cakm Cakm,cham Cham,cham Cham,",
  "cherokee Cher,cher Cher,chorasmian Chrs,chrs Chrs,common Zyyy,zyyy Zyyy,",
  "coptic Copt,copt Copt,qaac Copt,cuneiform Xsux,xsux Xsux,cypriot Cprt,cprt Cprt,",
  "cyprominoan Cpmn,cpmn Cpmn,cyrillic Cyrl,cyrl Cyrl,deseret Dsrt,dsrt Dsrt,",
  "devanagari Deva,deva Deva,divesakuru Diak,diak Diak,dogra Dogr,dogr Dogr,",
  "duployan Dupl,dupl Dupl,egyptianhieroglyphs Egyp,egyp Egyp,elbasan Elba,elba Elba,",
  "elymaic Elym,elym Elym,ethiopic Ethi,ethi Ethi,garay Gara,gara Gara,",
  "georgian Geor,geor Geor,glagolitic Glag,glag Glag,gothic Goth,goth Goth,",
  "grantha Gran,gran Gran,greek Grek,grek Grek,gujarati Gujr,gujr Gujr,",
  "gunjalagondi Gong,gong Gong,gurmukhi Guru,guru Guru,gurungkhema Gukh,gukh Gukh,",
  "han Hani,hani Hani,hangul Hang,hang Hang,hanifirohingya Rohg,rohg Rohg,",
  "hanunoo Hano,hano Hano,hatran Hatr,hatr Hatr,hebrew Hebr,hebr Hebr,",
  "hiragana Hira,hira Hira,imperialaramaic Armi,armi Armi,",
  "inherited Zinh,zinh Zinh,qaai Zinh,inscriptionalpahlavi Phli,phli Phli,",
  "inscriptionalparthian Prti,prti Prti,javanese Java,java Java,kaithi Kthi,kthi Kthi,",
  "kannada Knda,knda Knda,katakana Kana,kana Kana,kawi Kawi,kawi Kawi,",
  "kayahli Kali,kali Kali,kharoshthi Khar,khar Khar,khitansmallscript Kits,kits Kits,",
  "khmer Khmr,khmr Khmr,khojki Khoj,khoj Khoj,khudawadi Sind,sind Sind,",
  "kiratrai Krai,krai Krai,lao Laoo,laoo Laoo,latin Latn,latn Latn,lepcha Lepc,lepc Lepc,",
  "limbu Limb,limb Limb,lineara Lina,lina Lina,linearb Linb,linb Linb,lisu Lisu,lisu Lisu,",
  "lycian Lyci,lyci Lyci,lydian Lydi,lydi Lydi,mahajani Mahj,mahj Mahj,",
  "makasar Maka,maka Maka,malayalam Mlym,mlym Mlym,mandaic Mand,mand Mand,",
  "manichaean Mani,mani Mani,marchen Marc,marc Marc,masaramgondi Gonm,gonm Gonm,",
  "medefaidrin Medf,medf Medf,meeteimayek Mtei,mtei Mtei,mendekikakui Mend,mend Mend,",
  "meroiticcursive Merc,merc Merc,meroitichieroglyphs Mero,mero Mero,miao Plrd,plrd Plrd,",
  "modi Modi,modi Modi,mongolian Mong,mong Mong,mro Mroo,mroo Mroo,multani Mult,mult Mult,",
  "myanmar Mymr,mymr Mymr,nabataean Nbat,nbat Nbat,nagmundari Nagm,nagm Nagm,",
  "nandinagari Nand,nand Nand,newtailue Talu,talu Talu,newa Newa,newa Newa,",
  "nko Nkoo,nkoo Nkoo,nushu Nshu,nshu Nshu,nyiakengpuachuehmong Hmnp,hmnp Hmnp,",
  "ogham Ogam,ogam Ogam,olchiki Olck,olck Olck,olonal Onao,onao Onao,",
  "oldhungarian Hung,hung Hung,olditalic Ital,ital Ital,oldnortharabian Narb,narb Narb,",
  "oldpermic Perm,perm Perm,oldpersian Xpeo,xpeo Xpeo,oldsogdian Sogo,sogo Sogo,",
  "oldsoutharabian Sarb,sarb Sarb,oldturkic Orkh,orkh Orkh,olduyghur Ougr,ougr Ougr,",
  "oriya Orya,orya Orya,osage Osge,osge Osge,osmanya Osma,osma Osma,",
  "pahawhhmong Hmng,hmng Hmng,palmyrene Palm,palm Palm,paucinhau Pauc,pauc Pauc,",
  "phagspa Phag,phag Phag,phoenician Phnx,phnx Phnx,psalterpahlavi Phlp,phlp Phlp,",
  "rejang Rjng,rjng Rjng,runic Runr,runr Runr,samaritan Samr,samr Samr,",
  "saurashtra Saur,saur Saur,sharada Shrd,shrd Shrd,shavian Shaw,shaw Shaw,",
  "siddham Sidd,sidd Sidd,sidetic Sidt,sidt Sidt,signwriting Sgnw,sgnw Sgnw,",
  "sinhala Sinh,sinh Sinh,sogdian Sogd,sogd Sogd,sorasompeng Sora,sora Sora,",
  "soyombo Soyo,soyo Soyo,sundanese Sund,sund Sund,sunuwar Sunu,sunu Sunu,",
  "sylotinagri Sylo,sylo Sylo,syriac Syrc,syrc Syrc,tagalog Tglg,tglg Tglg,",
  "tagbanwa Tagb,tagb Tagb,taile Tale,tale Tale,taitham Lana,lana Lana,",
  "taiviet Tavt,tavt Tavt,taiyo Tayo,tayo Tayo,takri Takr,takr Takr,tamil Taml,taml Taml,",
  "tangsa Tnsa,tnsa Tnsa,tangut Tang,tang Tang,telugu Telu,telu Telu,thaana Thaa,thaa Thaa,",
  "thai Thai,thai Thai,tibetan Tibt,tibt Tibt,tifinagh Tfng,tfng Tfng,",
  "tirhuta Tirh,tirh Tirh,todhri Todr,todr Todr,tolongsiki Tols,tols Tols,",
  "toto Toto,toto Toto,tulutigalari Tutg,tutg Tutg,ugaritic Ugar,ugar Ugar,",
  "vai Vaii,vaii Vaii,vithkuqi Vith,vith Vith,wancho Wcho,wcho Wcho,",
  "warangciti Wara,wara Wara,yezidi Yezi,yezi Yezi,yi Yiii,yiii Yiii,",
  "zanabazarsquare Zanb,zanb Zanb,"]

def scriptTable : List String := [
  "0Zyyy41Latn5bZyyy61Latn7bZyyyaaLatnabZyyybaLatnbbZyyyc0Latnd7Zyyyd8Latnf7Zyyyf8Latn",
  "2b9Zyyy2e0Latn2e5Zyyy2eaBopo2ecZyyy300Zinh370Grek374Zyyy375Grek378Zzzz37aGrek37eZyyy",
  "37fGrek380Zzzz384Grek385Zyyy386Grek387Zyyy388Grek38bZzzz38cGrek38dZzzz38eGrek3a2Zzzz",
  "3a3Grek3e2Copt3f0Grek400Cyrl485Zinh487Cyrl530Zzzz531Armn557Zzzz559Armn58bZzzz58dArmn",
  "590Zzzz591Hebr5c8Zzzz5d0Hebr5ebZzzz5efHebr5f5Zzzz600Arab605Zyyy606Arab60cZyyy60dArab",
  "61bZyyy61cArab61fZyyy620Arab640Zyyy641Arab64bZinh656Arab670Zinh671Arab6ddZyyy6deArab",
  "700Syrc70eZzzz70fSyrc74bZzzz74dSyrc750Arab780Thaa7b2Zzzz7c0Nkoo7fbZzzz7fdNkoo800Samr",
  "82eZzzz830Samr83fZzzz840Mand85cZzzz85eMand85fZzzz860Syrc86bZzzz870Arab892Zzzz897Arab",
  "8e2Zyyy8e3Arab900Deva951Zinh955Deva964Zyyy966Deva980Beng984Zzzz985Beng98dZzzz98fBeng",
  "991Zzzz993Beng9a9Zzzz9aaBeng9b1Zzzz9b2Beng9b3Zzzz9b6Beng9baZzzz9bcBeng9c5Zzzz9c7Beng",
  "9c9Zzzz9cbBeng9cfZzzz9d7Beng9d8Zzzz9dcBeng9deZzzz9dfBeng9e4Zzzz9e6Beng9ffZzzza01Guru",
  "a04Zzzza05Gurua0bZzzza0fGurua11Zzzza13Gurua29Zzzza2aGurua31Zzzza32Gurua34Zzzza35Guru",
  "a37Zzzza38Gurua3aZzzza3cGurua3dZzzza3eGurua43Zzzza47Gurua49Zzzza4bGurua4eZzzza51Guru",
  "a52Zzzza59Gurua5dZzzza5eGurua5fZzzza66Gurua77Zzzza81Gujra84Zzzza85Gujra8eZzzza8fGujr",
  "a92Zzzza93Gujraa9ZzzzaaaGujrab1Zzzzab2Gujrab4Zzzzab5GujrabaZzzzabcGujrac6Zzzzac7Gujr",
  "acaZzzzacbGujraceZzzzad0Gujrad1Zzzzae0Gujrae4Zzzzae6Gujraf2Zzzzaf9Gujrb00Zzzzb01Orya",
  "b04Zzzzb05Oryab0dZzzzb0fOryab11Zzzzb13Oryab29Zzzzb2aOryab31Zzzzb32Oryab34Zzzzb35Orya",
  "b3aZzzzb3cOryab45Zzzzb47Oryab49Zzzzb4bOryab4eZzzzb55Oryab58Zzzzb5cOryab5eZzzzb5fOrya",
  "b64Zzzzb66Oryab78Zzzzb82Tamlb84Zzzzb85Tamlb8bZzzzb8eTamlb91Zzzzb92Tamlb96Zzzzb99Taml",
  "b9bZzzzb9cTamlb9dZzzzb9eTamlba0Zzzzba3Tamlba5Zzzzba8TamlbabZzzzbaeTamlbbaZzzzbbeTaml",
  "bc3Zzzzbc6Tamlbc9ZzzzbcaTamlbceZzzzbd0Tamlbd1Zzzzbd7Tamlbd8Zzzzbe6TamlbfbZzzzc00Telu",
  "c0dZzzzc0eTeluc11Zzzzc12Teluc29Zzzzc2aTeluc3aZzzzc3cTeluc45Zzzzc46Teluc49Zzzzc4aTelu",
  "c4eZzzzc55Teluc57Zzzzc58Teluc5bZzzzc5cTeluc5eZzzzc60Teluc64Zzzzc66Teluc70Zzzzc77Telu",
  "c80Kndac8dZzzzc8eKndac91Zzzzc92Kndaca9ZzzzcaaKndacb4Zzzzcb5KndacbaZzzzcbcKndacc5Zzzz",
  "cc6Kndacc9ZzzzccaKndacceZzzzcd5Kndacd7ZzzzcdcKndacdfZzzzce0Kndace4Zzzzce6Kndacf0Zzzz",
  "cf1Kndacf4Zzzzd00Mlymd0dZzzzd0eMlymd11Zzzzd12Mlymd45Zzzzd46Mlymd49Zzzzd4aMlymd50Zzzz",
  "d54Mlymd64Zzzzd66Mlymd80Zzzzd81Sinhd84Zzzzd85Sinhd97Zzzzd9aSinhdb2Zzzzdb3SinhdbcZzzz",
  "dbdSinhdbeZzzzdc0Sinhdc7ZzzzdcaSinhdcbZzzzdcfSinhdd5Zzzzdd6Sinhdd7Zzzzdd8Sinhde0Zzzz",
  "de6Sinhdf0Zzzzdf2Sinhdf5Zzzze01Thaie3bZzzze3fZyyye40Thaie5cZzzze81Laooe83Zzzze84Laoo",
  "e85Zzzze86Laooe8bZzzze8cLaooea4Zzzzea5Laooea6Zzzzea7LaooebeZzzzec0Laooec5Zzzzec6Laoo",
  "ec7Zzzzec8LaooecfZzzzed0LaooedaZzzzedcLaooee0Zzzzf00Tibtf48Zzzzf49Tibtf6dZzzzf71Tibt",
  "f98Zzzzf99TibtfbdZzzzfbeTibtfcdZzzzfceTibtfd5Zyyyfd9TibtfdbZzzz1000Mymr10a0Geor10c6Zzzz",
  "10c7Geor10c8Zzzz10cdGeor10ceZzzz10d0Geor10fbZyyy10fcGeor1100Hang1200Ethi1249Zzzz124aEthi",
  "124eZzzz1250Ethi1257Zzzz1258Ethi1259Zzzz125aEthi125eZzzz1260Ethi1289Zzzz128aEthi128eZzzz",
  "1290Ethi12b1Zzzz12b2Ethi12b6Zzzz12b8Ethi12bfZzzz12c0Ethi12c1Zzzz12c2Ethi12c6Zzzz12c8Ethi",
  "12d7Zzzz12d8Ethi1311Zzzz1312Ethi1316Zzzz1318Ethi135bZzzz135dEthi137dZzzz1380Ethi139aZzzz",
  "13a0Cher13f6Zzzz13f8Cher13feZzzz1400Cans1680Ogam169dZzzz16a0Runr16ebZyyy16eeRunr16f9Zzzz",
  "1700Tglg1716Zzzz171fTglg1720Hano1735Zyyy1737Zzzz1740Buhd1754Zzzz1760Tagb176dZzzz176eTagb",
  "1771Zzzz1772Tagb1774Zzzz1780Khmr17deZzzz17e0Khmr17eaZzzz17f0Khmr17faZzzz1800Mong1802Zyyy",
  "1804Mong1805Zyyy1806Mong181aZzzz1820Mong1879Zzzz1880Mong18abZzzz18b0Cans18f6Zzzz1900Limb",
  "191fZzzz1920Limb192cZzzz1930Limb193cZzzz1940Limb1941Zzzz1944Limb1950Tale196eZzzz1970Tale",
  "1975Zzzz1980Talu19acZzzz19b0Talu19caZzzz19d0Talu19dbZzzz19deTalu19e0Khmr1a00Bugi1a1cZzzz",
  "1a1eBugi1a20Lana1a5fZzzz1a60Lana1a7dZzzz1a7fLana1a8aZzzz1a90Lana1a9aZzzz1aa0Lana1aaeZzzz",
  "1ab0Zinh1adeZzzz1ae0Zinh1aecZzzz1b00Bali1b4dZzzz1b4eBali1b80Sund1bc0Batk1bf4Zzzz1bfcBatk",
  "1c00Lepc1c38Zzzz1c3bLepc1c4aZzzz1c4dLepc1c50Olck1c80Cyrl1c8bZzzz1c90Geor1cbbZzzz1cbdGeor",
  "1cc0Sund1cc8Zzzz1cd0Zinh1cd3Zyyy1cd4Zinh1ce1Zyyy1ce2Zinh1ce9Zyyy1cedZinh1ceeZyyy1cf4Zinh",
  "1cf5Zyyy1cf8Zinh1cfaZyyy1cfbZzzz1d00Latn1d26Grek1d2bCyrl1d2cLatn1d5dGrek1d62Latn1d66Grek",
  "1d6bLatn1d78Cyrl1d79Latn1dbfGrek1dc0Zinh1e00Latn1f00Grek1f16Zzzz1f18Grek1f1eZzzz1f20Grek",
  "1f46Zzzz1f48Grek1f4eZzzz1f50Grek1f58Zzzz1f59Grek1f5aZzzz1f5bGrek1f5cZzzz1f5dGrek1f5eZzzz",
  "1f5fGrek1f7eZzzz1f80Grek1fb5Zzzz1fb6Grek1fc5Zzzz1fc6Grek1fd4Zzzz1fd6Grek1fdcZzzz1fddGrek",
  "1ff0Zzzz1ff2Grek1ff5Zzzz1ff6Grek1fffZzzz2000Zyyy200cZinh200eZyyy2065Zzzz2066Zyyy2071Latn",
  "2072Zzzz2074Zyyy207fLatn2080Zyyy208fZzzz2090Latn209dZzzz20a0Zyyy20c2Zzzz20d0Zinh20f1Zzzz",
  "2100Zyyy2126Grek2127Zyyy212aLatn212cZyyy2132Latn2133Zyyy214eLatn214fZyyy2160Latn2189Zyyy",
  "218cZzzz2190Zyyy242aZzzz2440Zyyy244bZzzz2460Zyyy2800Brai2900Zyyy2b74Zzzz2b76Zyyy2c00Glag",
  "2c60Latn2c80Copt2cf4Zzzz2cf9Copt2d00Geor2d26Zzzz2d27Geor2d28Zzzz2d2dGeor2d2eZzzz2d30Tfng",
  "2d68Zzzz2d6fTfng2d71Zzzz2d7fTfng2d80Ethi2d97Zzzz2da0Ethi2da7Zzzz2da8Ethi2dafZzzz2db0Ethi",
  "2db7Zzzz2db8Ethi2dbfZzzz2dc0Ethi2dc7Zzzz2dc8Ethi2dcfZzzz2dd0Ethi2dd7Zzzz2dd8Ethi2ddfZzzz",
  "2de0Cyrl2e00Zyyy2e5eZzzz2e80Hani2e9aZzzz2e9bHani2ef4Zzzz2f00Hani2fd6Zzzz2ff0Zyyy3005Hani",
  "3006Zyyy3007Hani3008Zyyy3021Hani302aZinh302eHang3030Zyyy3038Hani303cZyyy3040Zzzz3041Hira",
  "3097Zzzz3099Zinh309bZyyy309dHira30a0Zyyy30a1Kana30fbZyyy30fdKana3100Zzzz3105Bopo3130Zzzz",
  "3131Hang318fZzzz3190Zyyy31a0Bopo31c0Zyyy31e6Zzzz31efZyyy31f0Kana3200Hang321fZzzz3220Zyyy",
  "3260Hang327fZyyy32d0Kana32ffZyyy3300Kana3358Zyyy3400Hani4dc0Zyyy4e00Hania000Yiiia48dZzzz",
  "a490Yiiia4c7Zzzza4d0Lisua500Vaiia62cZzzza640Cyrla6a0Bamua6f8Zzzza700Zyyya722Latna788Zyyy",
  "a78bLatna7ddZzzza7f1Latna800Syloa82dZzzza830Zyyya83aZzzza840Phaga878Zzzza880Saura8c6Zzzz",
  "a8ceSaura8daZzzza8e0Devaa900Kalia92eZyyya92fKalia930Rjnga954Zzzza95fRjnga960Hanga97dZzzz",
  "a980Javaa9ceZzzza9cfZyyya9d0Javaa9daZzzza9deJavaa9e0Mymra9ffZzzzaa00Chamaa37Zzzzaa40Cham",
  "aa4eZzzzaa50Chamaa5aZzzzaa5cChamaa60Mymraa80Tavtaac3ZzzzaadbTavtaae0Mteiaaf7Zzzzab01Ethi",
  "ab07Zzzzab09Ethiab0fZzzzab11Ethiab17Zzzzab20Ethiab27Zzzzab28Ethiab2fZzzzab30Latnab5bZyyy",
  "ab5cLatnab65Grekab66Latnab6aZyyyab6cZzzzab70Cherabc0MteiabeeZzzzabf0MteiabfaZzzzac00Hang",
  "d7a4Zzzzd7b0Hangd7c7Zzzzd7cbHangd7fcZzzzf900Hanifa6eZzzzfa70HanifadaZzzzfb00Latnfb07Zzzz",
  "fb13Armnfb18Zzzzfb1dHebrfb37Zzzzfb38Hebrfb3dZzzzfb3eHebrfb3fZzzzfb40Hebrfb42Zzzzfb43Hebr",
  "fb45Zzzzfb46Hebrfb50Arabfd3eZyyyfd40Arabfdd0Zzzzfdf0Arabfe00Zinhfe10Zyyyfe1aZzzzfe20Zinh",
  "fe2eCyrlfe30Zyyyfe53Zzzzfe54Zyyyfe67Zzzzfe68Zyyyfe6cZzzzfe70Arabfe75Zzzzfe76ArabfefdZzzz",
  "feffZyyyff00Zzzzff01Zyyyff21Latnff3bZyyyff41Latnff5bZyyyff66Kanaff70Zyyyff71Kanaff9eZyyy",
  "ffa0HangffbfZzzzffc2Hangffc8ZzzzffcaHangffd0Zzzzffd2Hangffd8ZzzzffdaHangffddZzzzffe0Zyyy",
  "ffe7Zzzzffe8ZyyyffefZzzzfff9ZyyyfffeZzzz10000Linb1000cZzzz1000dLinb10027Zzzz10028Linb",
  "1003bZzzz1003cLinb1003eZzzz1003fLinb1004eZzzz10050Linb1005eZzzz10080Linb100fbZzzz",
  "10100Zyyy10103Zzzz10107Zyyy10134Zzzz10137Zyyy10140Grek1018fZzzz10190Zyyy1019dZzzz",
  "101a0Grek101a1Zzzz101d0Zyyy101fdZinh101feZzzz10280Lyci1029dZzzz102a0Cari102d1Zzzz",
  "102e0Zinh102e1Zyyy102fcZzzz10300Ital10324Zzzz1032dItal10330Goth1034bZzzz10350Perm",
  "1037bZzzz10380Ugar1039eZzzz1039fUgar103a0Xpeo103c4Zzzz103c8Xpeo103d6Zzzz10400Dsrt",
  "10450Shaw10480Osma1049eZzzz104a0Osma104aaZzzz104b0Osge104d4Zzzz104d8Osge104fcZzzz",
  "10500Elba10528Zzzz10530Aghb10564Zzzz1056fAghb10570Vith1057bZzzz1057cVith1058bZzzz",
  "1058cVith10593Zzzz10594Vith10596Zzzz10597Vith105a2Zzzz105a3Vith105b2Zzzz105b3Vith",
  "105baZzzz105bbVith105bdZzzz105c0Todr105f4Zzzz10600Lina10737Zzzz10740Lina10756Zzzz",
  "10760Lina10768Zzzz10780Latn10786Zzzz10787Latn107b1Zzzz107b2Latn107bbZzzz10800Cprt",
  "10806Zzzz10808Cprt10809Zzzz1080aCprt10836Zzzz10837Cprt10839Zzzz1083cCprt1083dZzzz",
  "1083fCprt10840Armi10856Zzzz10857Armi10860Palm10880Nbat1089fZzzz108a7Nbat108b0Zzzz",
  "108e0Hatr108f3Zzzz108f4Hatr108f6Zzzz108fbHatr10900Phnx1091cZzzz1091fPhnx10920Lydi",
  "1093aZzzz1093fLydi10940Sidt1095aZzzz10980Mero109a0Merc109b8Zzzz109bcMerc109d0Zzzz",
  "109d2Merc10a00Khar10a04Zzzz10a05Khar10a07Zzzz10a0cKhar10a14Zzzz10a15Khar10a18Zzzz",
  "10a19Khar10a36Zzzz10a38Khar10a3bZzzz10a3fKhar10a49Zzzz10a50Khar10a59Zzzz10a60Sarb",
  "10a80Narb10aa0Zzzz10ac0Mani10ae7Zzzz10aebMani10af7Zzzz10b00Avst10b36Zzzz10b39Avst",
  "10b40Prti10b56Zzzz10b58Prti10b60Phli10b73Zzzz10b78Phli10b80Phlp10b92Zzzz10b99Phlp",
  "10b9dZzzz10ba9Phlp10bb0Zzzz10c00Orkh10c49Zzzz10c80Hung10cb3Zzzz10cc0Hung10cf3Zzzz",
  "10cfaHung10d00Rohg10d28Zzzz10d30Rohg10d3aZzzz10d40Gara10d66Zzzz10d69Gara10d86Zzzz",
  "10d8eGara10d90Zzzz10e60Arab10e7fZzzz10e80Yezi10eaaZzzz10eabYezi10eaeZzzz10eb0Yezi",
  "10eb2Zzzz10ec2Arab10ec8Zzzz10ed0Arab10ed9Zzzz10efaArab10f00Sogo10f28Zzzz10f30Sogd",
  "10f5aZzzz10f70Ougr10f8aZzzz10fb0Chrs10fccZzzz10fe0Elym10ff7Zzzz11000Brah1104eZzzz",
  "11052Brah11076Zzzz1107fBrah11080Kthi110c3Zzzz110cdKthi110ceZzzz110d0Sora110e9Zzzz",
  "110f0Sora110faZzzz11100Cakm11135Zzzz11136Cakm11148Zzzz11150Mahj11177Zzzz11180Shrd",
  "111e0Zzzz111e1Sinh111f5Zzzz11200Khoj11212Zzzz11213Khoj11242Zzzz11280Mult11287Zzzz",
  "11288Mult11289Zzzz1128aMult1128eZzzz1128fMult1129eZzzz1129fMult112aaZzzz112b0Sind",
  "112ebZzzz112f0Sind112faZzzz11300Gran11304Zzzz11305Gran1130dZzzz1130fGran11311Zzzz",
  "11313Gran11329Zzzz1132aGran11331Zzzz11332Gran11334Zzzz11335Gran1133aZzzz1133bZinh",
  "1133cGran11345Zzzz11347Gran11349Zzzz1134bGran1134eZzzz11350Gran11351Zzzz11357Gran",
  "11358Zzzz1135dGran11364Zzzz11366Gran1136dZzzz11370Gran11375Zzzz11380Tutg1138aZzzz",
  "1138bTutg1138cZzzz1138eTutg1138fZzzz11390Tutg113b6Zzzz113b7Tutg113c1Zzzz113c2Tutg",
  "113c3Zzzz113c5Tutg113c6Zzzz113c7Tutg113cbZzzz113ccTutg113d6Zzzz113d7Tutg113d9Zzzz",
  "113e1Tutg113e3Zzzz11400Newa1145cZzzz1145dNewa11462Zzzz11480Tirh114c8Zzzz114d0Tirh",
  "114daZzzz11580Sidd115b6Zzzz115b8Sidd115deZzzz11600Modi11645Zzzz11650Modi1165aZzzz",
  "11660Mong1166dZzzz11680Takr116baZzzz116c0Takr116caZzzz116d0Mymr116e4Zzzz11700Ahom",
  "1171bZzzz1171dAhom1172cZzzz11730Ahom11747Zzzz11800Dogr1183cZzzz118a0Wara118f3Zzzz",
  "118ffWara11900Diak11907Zzzz11909Diak1190aZzzz1190cDiak11914Zzzz11915Diak11917Zzzz",
  "11918Diak11936Zzzz11937Diak11939Zzzz1193bDiak11947Zzzz11950Diak1195aZzzz119a0Nand",
  "119a8Zzzz119aaNand119d8Zzzz119daNand119e5Zzzz11a00Zanb11a48Zzzz11a50Soyo11aa3Zzzz",
  "11ab0Cans11ac0Pauc11af9Zzzz11b00Deva11b0aZzzz11b60Shrd11b68Zzzz11bc0Sunu11be2Zzzz",
  "11bf0Sunu11bfaZzzz11c00Bhks11c09Zzzz11c0aBhks11c37Zzzz11c38Bhks11c46Zzzz11c50Bhks",
  "11c6dZzzz11c70Marc11c90Zzzz11c92Marc11ca8Zzzz11ca9Marc11cb7Zzzz11d00Gonm11d07Zzzz",
  "11d08Gonm11d0aZzzz11d0bGonm11d37Zzzz11d3aGonm11d3bZzzz11d3cGonm11d3eZzzz11d3fGonm",
  "11d48Zzzz11d50Gonm11d5aZzzz11d60Gong11d66Zzzz11d67Gong11d69Zzzz11d6aGong11d8fZzzz",
  "11d90Gong11d92Zzzz11d93Gong11d99Zzzz11da0Gong11daaZzzz11db0Tols11ddcZzzz11de0Tols",
  "11deaZzzz11ee0Maka11ef9Zzzz11f00Kawi11f11Zzzz11f12Kawi11f3bZzzz11f3eKawi11f5bZzzz",
  "11fb0Lisu11fb1Zzzz11fc0Taml11ff2Zzzz11fffTaml12000Xsux1239aZzzz12400Xsux1246fZzzz",
  "12470Xsux12475Zzzz12480Xsux12544Zzzz12f90Cpmn12ff3Zzzz13000Egyp13456Zzzz13460Egyp",
  "143fbZzzz14400Hluw14647Zzzz16100Gukh1613aZzzz16800Bamu16a39Zzzz16a40Mroo16a5fZzzz",
  "16a60Mroo16a6aZzzz16a6eMroo16a70Tnsa16abfZzzz16ac0Tnsa16acaZzzz16ad0Bass16aeeZzzz",
  "16af0Bass16af6Zzzz16b00Hmng16b46Zzzz16b50Hmng16b5aZzzz16b5bHmng16b62Zzzz16b63Hmng",
  "16b78Zzzz16b7dHmng16b90Zzzz16d40Krai16d7aZzzz16e40Medf16e9bZzzz16ea0Berf16eb9Zzzz",
  "16ebbBerf16ed4Zzzz16f00Plrd16f4bZzzz16f4fPlrd16f88Zzzz16f8fPlrd16fa0Zzzz16fe0Tang",
  "16fe1Nshu16fe2Hani16fe4Kits16fe5Zzzz16ff0Hani16ff7Zzzz17000Tang18b00Kits18cd6Zzzz",
  "18cffKits18d00Tang18d1fZzzz18d80Tang18df3Zzzz1aff0Kana1aff4Zzzz1aff5Kana1affcZzzz",
  "1affdKana1afffZzzz1b000Kana1b001Hira1b120Kana1b123Zzzz1b132Hira1b133Zzzz1b150Hira",
  "1b153Zzzz1b155Kana1b156Zzzz1b164Kana1b168Zzzz1b170Nshu1b2fcZzzz1bc00Dupl1bc6bZzzz",
  "1bc70Dupl1bc7dZzzz1bc80Dupl1bc89Zzzz1bc90Dupl1bc9aZzzz1bc9cDupl1bca0Zyyy1bca4Zzzz",
  "1cc00Zyyy1ccfdZzzz1cd00Zyyy1ceb4Zzzz1cebaZyyy1ced1Zzzz1cee0Zyyy1cef1Zzzz1cf00Zinh",
  "1cf2eZzzz1cf30Zinh1cf47Zzzz1cf50Zyyy1cfc4Zzzz1d000Zyyy1d0f6Zzzz1d100Zyyy1d127Zzzz",
  "1d129Zyyy1d167Zinh1d16aZyyy1d17bZinh1d183Zyyy1d185Zinh1d18cZyyy1d1aaZinh1d1aeZyyy",
  "1d1ebZzzz1d200Grek1d246Zzzz1d2c0Zyyy1d2d4Zzzz1d2e0Zyyy1d2f4Zzzz1d300Zyyy1d357Zzzz",
  "1d360Zyyy1d379Zzzz1d400Zyyy1d455Zzzz1d456Zyyy1d49dZzzz1d49eZyyy1d4a0Zzzz1d4a2Zyyy",
  "1d4a3Zzzz1d4a5Zyyy1d4a7Zzzz1d4a9Zyyy1d4adZzzz1d4aeZyyy1d4baZzzz1d4bbZyyy1d4bcZzzz",
  "1d4bdZyyy1d4c4Zzzz1d4c5Zyyy1d506Zzzz1d507Zyyy1d50bZzzz1d50dZyyy1d515Zzzz1d516Zyyy",
  "1d51dZzzz1d51eZyyy1d53aZzzz1d53bZyyy1d53fZzzz1d540Zyyy1d545Zzzz1d546Zyyy1d547Zzzz",
  "1d54aZyyy1d551Zzzz1d552Zyyy1d6a6Zzzz1d6a8Zyyy1d7ccZzzz1d7ceZyyy1d800Sgnw1da8cZzzz",
  "1da9bSgnw1daa0Zzzz1daa1Sgnw1dab0Zzzz1df00Latn1df1fZzzz1df25Latn1df2bZzzz1e000Glag",
  "1e007Zzzz1e008Glag1e019Zzzz1e01bGlag1e022Zzzz1e023Glag1e025Zzzz1e026Glag1e02bZzzz",
  "1e030Cyrl1e06eZzzz1e08fCyrl1e090Zzzz1e100Hmnp1e12dZzzz1e130Hmnp1e13eZzzz1e140Hmnp",
  "1e14aZzzz1e14eHmnp1e150Zzzz1e290Toto1e2afZzzz1e2c0Wcho1e2faZzzz1e2ffWcho1e300Zzzz",
  "1e4d0Nagm1e4faZzzz1e5d0Onao1e5fbZzzz1e5ffOnao1e600Zzzz1e6c0Tayo1e6dfZzzz1e6e0Tayo",
  "1e6f6Zzzz1e6feTayo1e700Zzzz1e7e0Ethi1e7e7Zzzz1e7e8Ethi1e7ecZzzz1e7edEthi1e7efZzzz",
  "1e7f0Ethi1e7ffZzzz1e800Mend1e8c5Zzzz1e8c7Mend1e8d7Zzzz1e900Adlm1e94cZzzz1e950Adlm",
  "1e95aZzzz1e95eAdlm1e960Zzzz1ec71Zyyy1ecb5Zzzz1ed01Zyyy1ed3eZzzz1ee00Arab1ee04Zzzz",
  "1ee05Arab1ee20Zzzz1ee21Arab1ee23Zzzz1ee24Arab1ee25Zzzz1ee27Arab1ee28Zzzz1ee29Arab",
  "1ee33Zzzz1ee34Arab1ee38Zzzz1ee39Arab1ee3aZzzz1ee3bArab1ee3cZzzz1ee42Arab1ee43Zzzz",
  "1ee47Arab1ee48Zzzz1ee49Arab1ee4aZzzz1ee4bArab1ee4cZzzz1ee4dArab1ee50Zzzz1ee51Arab",
  "1ee53Zzzz1ee54Arab1ee55Zzzz1ee57Arab1ee58Zzzz1ee59Arab1ee5aZzzz1ee5bArab1ee5cZzzz",
  "1ee5dArab1ee5eZzzz1ee5fArab1ee60Zzzz1ee61Arab1ee63Zzzz1ee64Arab1ee65Zzzz1ee67Arab",
  "1ee6bZzzz1ee6cArab1ee73Zzzz1ee74Arab1ee78Zzzz1ee79Arab1ee7dZzzz1ee7eArab1ee7fZzzz",
  "1ee80Arab1ee8aZzzz1ee8bArab1ee9cZzzz1eea1Arab1eea4Zzzz1eea5Arab1eeaaZzzz1eeabArab",
  "1eebcZzzz1eef0Arab1eef2Zzzz1f000Zyyy1f02cZzzz1f030Zyyy1f094Zzzz1f0a0Zyyy1f0afZzzz",
  "1f0b1Zyyy1f0c0Zzzz1f0c1Zyyy1f0d0Zzzz1f0d1Zyyy1f0f6Zzzz1f100Zyyy1f1aeZzzz1f1e6Zyyy",
  "1f200Hira1f201Zyyy1f203Zzzz1f210Zyyy1f23cZzzz1f240Zyyy1f249Zzzz1f250Zyyy1f252Zzzz",
  "1f260Zyyy1f266Zzzz1f300Zyyy1f6d9Zzzz1f6dcZyyy1f6edZzzz1f6f0Zyyy1f6fdZzzz1f700Zyyy",
  "1f7daZzzz1f7e0Zyyy1f7ecZzzz1f7f0Zyyy1f7f1Zzzz1f800Zyyy1f80cZzzz1f810Zyyy1f848Zzzz",
  "1f850Zyyy1f85aZzzz1f860Zyyy1f888Zzzz1f890Zyyy1f8aeZzzz1f8b0Zyyy1f8bcZzzz1f8c0Zyyy",
  "1f8c2Zzzz1f8d0Zyyy1f8d9Zzzz1f900Zyyy1fa58Zzzz1fa60Zyyy1fa6eZzzz1fa70Zyyy1fa7dZzzz",
  "1fa80Zyyy1fa8bZzzz1fa8eZyyy1fac7Zzzz1fac8Zyyy1fac9Zzzz1facdZyyy1faddZzzz1fadfZyyy",
  "1faebZzzz1faefZyyy1faf9Zzzz1fb00Zyyy1fb93Zzzz1fb94Zyyy1fbfbZzzz20000Hani2a6e0Zzzz",
  "2a700Hani2b81eZzzz2b820Hani2ceaeZzzz2ceb0Hani2ebe1Zzzz2ebf0Hani2ee5eZzzz2f800Hani",
  "2fa1eZzzz30000Hani3134bZzzz31350Hani3347aZzzze0001Zyyye0002Zzzze0020Zyyye0080Zzzz",
  "e0100Zinhe01f0Zzzz"]

end EditionGuard.Text.Unicode
