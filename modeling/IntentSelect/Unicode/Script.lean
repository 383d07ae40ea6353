/-!
# Scripts

The characters of each script and of each set of script extensions in version 16 of the standard,
packed.
-/
namespace IntentSelect.Unicode

/-- The characters whose script is the named one. -/
def scripts : List (String × String) := [
  ("Adlam", "DaIgCrkpkh"),
  ("Ahom", "CFYg6iuk2"),
  ("Anatolian_Hieroglyphs", "CRAgSm"),
  ("Arabic", "BQgkhlhthih/hpr5hDrhBhCwBvHw+hhlCqh8BcSwDywLqiCviB1ngBgvDwkhEmDbj+CjiB3jBXYgjh6hhhgig
     hphjhghgmgkghghghihhhgighghghghghhhgijhmhjhjhghphwlihkhwB0h"),
  ("Armenian", "BJxBliBxiiBdMjk"),
  ("Avestan", "CCYgB1jm"),
  ("Balinese", "GYgCshBx"),
  ("Bamum", "BJVgC3BQIoR4"),
  ("Bassa_Vah", "CaWw9il"),
  ("Batak", "GegBzoj"),
  ("Bengali", "CMgjhnihi1hmhgjjioihijogkhhki4"),
  ("Bhaiksuki", "CHAgohBshtq8"),
  ("Bopomofo", "XqhLQ5BqDw/"),
  ("Brahmi", "CEAgCtkBjpg"),
  ("Braille", "KAgH/"),
  ("Buginese", "GQg7ih"),
  ("Buhid", "Fagz"),
  ("Canadian_Aboriginal", "FAgT/RwClCAN6v"),
  ("Carian", "CAVgBw"),
  ("Caucasian_Albanian", "CBJwBzrg"),
  ("Chakma", "CEIgB0hx"),
  ("Cham", "BKQgB2ptipij"),
  ("Cherokee", "EdgC1ilBFbyCv"),
  ("Chorasmian", "CDdw7"),
  ("Common", "gCg6l6Buhuhk3g/gOhBmlkizD0gpgmghgT9gmgugjgBggE8gQkgEhhBG5gM1jJigBPviCnhGrhhgBGtgtgnjh
     lhiigYlriC2hqjqhuxBgB/Blhiilh6hwBpikU52q1c/IgTzi/hDoQgC9My0hgh4vnkjC7hjgC6hEzvBgBlpgBwB//CwBv
     gC4FnGOgB/WIgBhDmiFlpH0gFggMrguhUOyhGwp2BihyhjEzgh/6l6qqgBthCgmhmqkIiikBsjoCwsBzBsHk6BONkjDa8
     H5mNzE8DzB8H1qBmiB9jwohn9kB8G1zszsC2p4EnC0hCmhhigihijhrhghmhCghjinhmh7hjhkhgjmhKziJjiBxFDxCjC
     sB8WiBrkDjsuiuhuhBkqFtB45hhtBrkonhulE6e3kwjsjD2kC+mrkgvrkB3opmBno9irkhB+KzstisjplB3nuiqmonEyh
     DlYBAng+C/"),
  ("Coptic", "fitKEwDzlm"),
  ("Cuneiform", "CIAgc5DmDuhkrGj"),
  ("Cypriot", "CCAglighBrhhjgig"),
  ("Cypro_Minoan", "CLcwDi"),
  ("Cyrillic", "BAgEkiFoFawqFggCsgEDn/eCgC/VcuhBYQgB9Bhg"),
  ("Deseret", "CBAgCv"),
  ("Devanagari", "CIgCwkui5BHbg/cQgp"),
  ("Dives_Akuru", "CGIgmiginhhh9hhirpp"),
  ("Dogra", "CGAgB7"),
  ("Duployan", "DPAgDqlsjonpij"),
  ("Egyptian_Hieroglyphs", "CMAgBC1qDc6"),
  ("Elbasan", "CBIgBn"),
  ("Elymaic", "CDfg2"),
  ("Ethiopic", "EQgCohjimhghjiBohjiBghjimhghjiuhB4hjiCii/j5GPm2pmhmhmhmhmhmhmhmfJilililpmhmCPFxmhjh
     hhu"),
  ("Garay", "CDKgBlj8oh"),
  ("Georgian", "EFgBlhglgiBqhjCcwBqiiECgBlhglg"),
  ("Glagolitic", "LAgC/DMdgmhwimhhhk"),
  ("Gothic", "CAZw6"),
  ("Grantha", "CEYgjhnihi1hmhhhkioihiiigmglmimjk"),
  ("Greek", "bwjhiijhgkghghihghzhB+uvGJmkBykkkC0gKg1iliBlilinhghghgh+iB0huhtilhyiihoJngBCR+gVO6Cuxg
     BUC/Cl"),
  ("Gujarati", "CUhihohih1hmhhhkiphihiigvjirnm"),
  ("Gunjala_Gondi", "CHLglhhhBkhhhlnp"),
  ("Gurmukhi", "CQhihlkhi1hmhhhhhhighkkhiijgnjhgnw"),
  ("Gurung_Khema", "CYIgB5"),
  ("Han", "LUg5hC4sG1Bvghg5oujekGN/CgUP/WIgLtiDpdIohshBEAuBJW/BgEB5mG9iFUhuHJwvTtCNiQ9BPiEaqlEC/"),
  ("Hangul", "EIgH/HRuhIhC9Dx+Ch+dXh8UjKdjs2kBwJdk+jlililii"),
  ("Hanifi_Rohingya", "CDIgBnop"),
  ("Hanunoo", "FZg0"),
  ("Hatran", "CCHgyhhlk"),
  ("Hebrew", "BMxB2o6klBdJo5hkhghhhhhp"),
  ("Hiragana", "MChC1miCfbhI+yg9iQFtg"),
  ("Imperial_Aramaic", "CCCg1ho"),
  ("Inherited", "YgDvI1hOkq6gXgjEK7+QhihshmkgmgjhGmB/QshGiBgDZ5jDrhBTLlvwtevgHigEC6gBOekBti2Rgixnim
     +jYLayHv"),
  ("Inscriptional_Pahlavi", "CCbgyln"),
  ("Inscriptional_Parthian", "CCag1in"),
  ("Javanese", "BKMgCtipkh"),
  ("Kaithi", "CEEgCiqg"),
  ("Kannada", "DEgshih2hphkiohihjnhmhhjiphi"),
  ("Katakana", "MFhC5iiHwvGwBuhC3BTAuphBsBMCyjhmhhhgI/iByguj"),
  ("Kawi", "CHYgwhBoj8"),
  ("Kayah_Li", "BKIgBthg"),
  ("Kharoshthi", "CCQgjhhlnhih8iikpno"),
  ("Khitan_Small_Script", "CbfkgGY7O1Bpg"),
  ("Khmer", "FcgC9ipmpPm/"),
  ("Khojki", "CEQgxhBu"),
  ("Khudawadi", "CEVwB6lp"),
  ("Kirat_Rai", "CbKgB5"),
  ("Lao", "DUhhhghkh3hgh2ikhghmhpij"),
  ("Latin", "Ch5m5Bvgvgl2h+hOgBnkGQ7BlmBwljlshClChH/LxgtgwsEthmg7gxBoCW3/eViDljCiihhghn1tZwBqhohjTc
     2mBA65m5CBllhBphoBVal+ml"),
  ("Lepcha", "HAgB3juji"),
  ("Limbu", "GIg+hrkrkgjr"),
  ("Linear_A", "CBQgJ2p1qn"),
  ("Linear_B", "CAAgrh5hyhhhuitBiD6"),
  ("Lisu", "BJGwBveVwg"),
  ("Lycian", "CAUg8"),
  ("Lydian", "CCJg5lg"),
  ("Mahajani", "CEKwBm"),
  ("Makasar", "CHXg4"),
  ("Malayalam", "DIgshihByhihlkvi5"),
  ("Mandaic", "CCg7ig"),
  ("Manichaean", "CCWgBmkr"),
  ("Marchen", "CHDw/i1ht"),
  ("Masaram_Gondi", "CHIgmhhhBrjghhhoop"),
  ("Medefaidrin", "CbSgC6"),
  ("Meetei_Mayek", "BKXg2GpBtip"),
  ("Mende_Kikakui", "DaAgGkiv"),
  ("Meroitic_Cursive", "CCNg3kziBt"),
  ("Meroitic_Hieroglyphs", "CCMg/"),
  ("Miao", "CbYgCqkB4nw"),
  ("Modi", "CFQgCkrp"),
  ("Mongolian", "GAghighzmC4nBqBfN1s"),
  ("Mro", "CaSg+hpkh"),
  ("Multani", "CEUgmhghjhuhq"),
  ("Myanmar", "EAgE/BGKg+Dh/bCwz"),
  ("Nabataean", "CCEg+oo"),
  ("Nag_Mundari", "DZGwBp"),
  ("Nandinagari", "CGNgniBtiq"),
  ("New_Tai_Lue", "GMgBrk5mqjh"),
  ("Newa", "CFAgC7hk"),
  ("Nko", "BegB6ii"),
  ("Nushu", "CbfhgQMuMr"),
  ("Nyiakeng_Puachue_Hmong", "DYIgBsjtipkh"),
  ("Ogham", "FUg8"),
  ("Ol_Chiki", "HCwBv"),
  ("Ol_Onal", "DZOwBqkg"),
  ("Old_Hungarian", "CDEgBytBynl"),
  ("Old_Italic", "CAYgBjpi"),
  ("Old_North_Arabian", "CCUg/"),
  ("Old_Permic", "CAawBq"),
  ("Old_Persian", "CAdgBjkt"),
  ("Old_Sogdian", "CDYgBn"),
  ("Old_South_Arabian", "CCTg/"),
  ("Old_Turkic", "CDAgCo"),
  ("Old_Uyghur", "CDbw5"),
  ("Oriya", "CYhihnihi1hmhhhkioihiinikhhkix"),
  ("Osage", "CBFwBjkBj"),
  ("Osmanya", "CBEg9ip"),
  ("Pahawh_Hmong", "CaYgClqphmh0ly"),
  ("Palmyrene", "CCDg/"),
  ("Pau_Cin_Hau", "CGWgB4"),
  ("Phags_Pa", "BKCgB3"),
  ("Phoenician", "CCIg7jg"),
  ("Psalter_Pahlavi", "CCcgxnjsm"),
  ("Rejang", "BKJwBjrg"),
  ("Runic", "FVgCqjq"),
  ("Samaritan", "CAgBtiu"),
  ("Saurashtra", "BKEgClor"),
  ("Sharada", "CEMgC/"),
  ("Shavian", "CBCwBv"),
  ("Siddham", "CFMgB1iBl"),
  ("SignWriting", "DWAgUrvkhu"),
  ("Sinhala", "DMhihxj3hohgimjgklhghnmpiiCAfsz"),
  ("Sogdian", "CDZwBp"),
  ("Sora_Sompeng", "CEGw4np"),
  ("Soyombo", "CGSwCy"),
  ("Sundanese", "GcgB/Ign"),
  ("Sunuwar", "CGegBhup"),
  ("Syloti_Nagri", "BKAgBs"),
  ("Syriac", "BYgthB7iiIwq"),
  ("Tagalog", "FYg1pg"),
  ("Tagbanwa", "Fbgshihh"),
  ("Tai_Le", "GKw9ik"),
  ("Tai_Tham", "GRgB+h8iqmpmt"),
  ("Tai_Viet", "BKUgCi4k"),
  ("Takri", "CFUgB5mp"),
  ("Tamil", "Ccihhljihjjhhghhjhjijrkkjihjigmgu0CEelBxtg"),
  ("Tangsa", "CaTwCuhp"),
  ("Tangut", "Cbfgg/Ff3oX/Qgo"),
  ("Telugu", "DAgshih2hviohihjnhhiigijipno"),
  ("Thaana", "BcgBx"),
  ("Thai", "DQhB5l7"),
  ("Tibetan", "DYgCnhBjkBmhBjhuhmkh"),
  ("Tifinagh", "LJwB3nhug"),
  ("Tirhuta", "CFEgCnop"),
  ("Todhri", "CBOgBz"),
  ("Toto", "DYUw+"),
  ("Tulu_Tigalari", "CEcgphgighBlhphgighjhphhoh"),
  ("Ugaritic", "CAcg9hg"),
  ("Vai", "BJIgJr"),
  ("Vithkuqi", "CBLwqhuhmhhhqhuhmhh"),
  ("Wancho", "DYWgB5lg"),
  ("Warang_Citi", "CGFgCysg"),
  ("Yezidi", "CDUgBphiih"),
  ("Yi", "BIAgBEsjB2"),
  ("Zanabazar_Square", "CGQgCn")]

/-- The characters used with the named script. -/
def scriptExtensions : List (String × String) := [
  ("Adlam", "BQ/gBggGQugDPxgDOV+Crkpkh"),
  ("Ahom", "CFYg6iuk2"),
  ("Anatolian_Hieroglyphs", "CRAgSm"),
  ("Arabic", "BQgkhG2hBhCwBvHw+hhlCqh8FavgDPxgBTIuDywN8iB1ngBgvDwkhEmfj7Cbk+CjiB3jBXYgjh6hhhgighphj
     hghgmgkghghghihhhgighghghghghhhgijhmhjhjhghphwlihkhwB0h"),
  ("Armenian", "YogRoBliBxiiBdMjk"),
  ("Avestan", "F3gLL4hBXGuB1jm"),
  ("Balinese", "GYgCshBx"),
  ("Bamum", "BJVgC3BQIoR4"),
  ("Bassa_Vah", "CaWw9il"),
  ("Batak", "GegBzoj"),
  ("Bengali", "V8gBU0hxh6jhnihi1hmhgjjioihijogkhhki4EWxghgihhgogogigkgiiBCf5g"),
  ("Bhaiksuki", "CHAgohBshtq8"),
  ("Bopomofo", "WnghitgwhLI1ikphsqjigmgGjgpBqDw/BTElhI6k"),
  ("Brahmi", "CEAgCtkBjpg"),
  ("Braille", "KAgH/"),
  ("Buginese", "GQg7ihBDdvg"),
  ("Buhid", "FZ1hpz"),
  ("Canadian_Aboriginal", "FAgT/RwClCAN6v"),
  ("Carian", "F3gHdigigDOzgBVDuBw"),
  ("Caucasian_Albanian", "YkgBsgBsgCAOxBzrg"),
  ("Chakma", "CPmpBSwpCAF2B0hx"),
  ("Cham", "BKQgB2ptipij"),
  ("Cherokee", "Ygihgmh2hrhEDuC1ilBFbyCv"),
  ("Chorasmian", "CDdw7"),
  ("Common", "gCg6l6Buhrhhhk3g/gOhihphgjghohghllkizD+gmghgT9gG3gQkgBK8gM1jEBnriBgh+hphhhmhqjqhuxBgB
     /Blhiilh6hwBpikU52q1c/IgTzi/hDoQg2h3iphjhgh5Nigjgtgtg1gQx3/gBxusjFhplC//gGOgB/WIo5DmiewguhUVk
     p20irhyhjEzgh/6l6lD/mhmqkMysBzBsBSQjH5mNzE8DzB8H1qBmiB9jwohn9kB8G1zszsC27mEnC0hCmhhigihijhrhg
     hmhCghjinhmh7hjhkhgjmhKziJjiBxFDxCjCsB8WiBrkDjsuiuhuhBkqFtB45hhtBrko3lE6e3kwjsjD2kC+mrkgvrkB3
     opmBno9irkhB+KzstisjplB3nuiqmonEyhDlYBAng+C/"),
  ("Coptic", "F3gSogjhhgDshDstKEwDzlmI3gBVGo7"),
  ("Cuneiform", "CIAgc5DmDuhkrGj"),
  ("Cypriot", "CAIgikBsjoBWglighBrhhjgig"),
  ("Cypro_Minoan", "CAIghLUuDi"),
  ("Cyrillic", "V8gCjihghghgiglgHuJvFawqFggCsgD/gDfn/Cjgdf8C/VcuhBYQgB9Bhg"),
  ("Deseret", "CBAgCv"),
  ("Devanagari", "V8gBSjCyiBqEawBmhhf2gBBZ/pFm/cQgp"),
  ("Dives_Akuru", "CGIgmiginhhh9hhirpp"),
  ("Dogra", "CLkrBHWgpbemB7"),
  ("Duployan", "F3gSvhhg4hKY3gDDOjDqlsjonpin"),
  ("Egyptian_Hieroglyphs", "CMAgBC1qDc6"),
  ("Elbasan", "F3gStgCAP6Bn"),
  ("Elymaic", "CDfg2"),
  ("Ethiopic", "YugDXxCohjimhghjiBohjiBghjimhghjiuhB4hjiCii/j5GPm2pmhmhmhmhmhmhmhmfJilililpmhmCPFxm
     hjhhhu"),
  ("Garay", "BQsgugjgCBZgBlj8oh"),
  ("Georgian", "F3gBGxgCY2BlhglgiBvCcwBqiic6gDFlBlhglgIjg"),
  ("Glagolitic", "F3gSrghgL+gigIhgCbxgDa+gCdlC/PjgeBrgCOMwmhwimhhhk"),
  ("Gothic", "F3gSshigBogBff+6"),
  ("Grantha", "CKxhxhUgtEG8ghh+ijhf2gBcQvjhnihi1hmhhhkhpihiiigmglmimjkDC7hhg"),
  ("Greek", "F3gSohighghgqgBugigBqnijhgkghghihghzhB+uvGJmkBykkkC0iJ+1iliBlilinhghghgh+iB0huhtilhyii
     hoC+gGogBCR+gVO6CuxgBUC/Cl"),
  ("Gujarati", "CKxhxhI7ihohih1hmhhhkiphihiigvjirnmBHJwp"),
  ("Gunjala_Gondi", "F3gCFshCEf6lhhhBkhhhlnp"),
  ("Gurmukhi", "CKxhxhE7ihlkhi1hmhhhhhhighkkhiijgnjhgnwBHN5p"),
  ("Gurung_Khema", "CLlgCVc6B5"),
  ("Han", "F3gLOo5hC4sG16vhihshshsigmoF7gE0vBgBlpgBwBnB4BwvrBzgC44qkDg+hGN/CgUP/BYgnUP4LtiDpbrhI6kc
     D8hshYbuxHW+hDNuBJW/BgEB5mG9iFUhuHJwvTtCNiQ9BPiEaqlEC/"),
  ("Hangul", "EIgH/HQhikphsuimgGjgB1C9Dx+Ch+dXh8UjKdjs2kBwJSphI6kB6+jlililii"),
  ("Hanifi_Rohingya", "BQsgugjgBggEzgCBRrBnop"),
  ("Hanunoo", "FZg2"),
  ("Hatran", "CCHgyhhlk"),
  ("Hebrew", "YnhUoB2o6klBdJo5hkhghhhhhp"),
  ("Hiragana", "MAhikphswlhgkhjC1inC6hBTKohI6kqgBthBMDhI+yg9iQFtg"),
  ("Imperial_Aramaic", "CCCg1ho"),
  ("Inherited", "YvgighrhhjmigivhhhxhkhjBPwhEK7+XzB1hghkQshGi/BXIwvwtevgBTIiBti2Rgixnim+jYLayHv"),
  ("Inscriptional_Pahlavi", "CCbgyln"),
  ("Inscriptional_Parthian", "CCag1in"),
  ("Javanese", "BKMgCthqkh"),
  ("Kaithi", "CLmpJGhgeP+paCmCiqg"),
  ("Kannada", "CKxhxhY6shih2hphkiohihjnhmhhjiphiDe8ghgng3ghgBCZ7l"),
  ("Katakana", "Ylg9gLG9ikphswlhgkhC7jjC/HwvGwBuhC3BSXthI6B+BMCwjhmhhhgI/iByguj"),
  ("Kawi", "CHYgwhBoj8"),
  ("Kayah_Li", "BKIgBv"),
  ("Kharoshthi", "CCQgjhhlnhih8iikpno"),
  ("Khitan_Small_Script", "CbfkgGY7O1Bpg"),
  ("Khmer", "FcgC9ipmpPm/"),
  ("Khojki", "CXmpBHKgpaOmxhBu"),
  ("Khudawadi", "CLkhBHWqpaT2B6lp"),
  ("Kirat_Rai", "CbKgB5"),
  ("Lao", "DUhhhghkh3hgh2ikhghmhpij"),
  ("Latin", "Ch5m5Bvgsgigl2h+hOgjgqghihgpghgmk7uhhhgsgiinhhhBmglgksI1hBGqhBdogDAkBlmBwljlshClB5gnH/
     JvgChgtgwsCzgB5hmg7gxBoCW3/M3geHon6DljCiihhghn1tJugQhBqhohjTc2mBA65m5CBllhBphoBVal+ml"),
  ("Lepcha", "HAgB3juji"),
  ("Limbu", "CLlgDc6+hrkrkgjr"),
  ("Linear_A", "CAInBsBGsJ2p1qn"),
  ("Linear_B", "CAAgrh5hyhhhuitBiD6likBsjo"),
  ("Lisu", "V8gwgLJ8hdGkBveVwg"),
  ("Lycian", "IC6gBYRl8"),
  ("Lydian", "F3gLL5gBWXu5lg"),
  ("Mahajani", "F3gCFsrBHWgpaI2Bm"),
  ("Makasar", "CHXg4"),
  ("Malayalam", "CKxhxhc6shihByhihlkvi5Da6g3gBCZ9i"),
  ("Mandaic", "BSggP/7ig"),
  ("Manichaean", "BSggCBD/Bmkr"),
  ("Marchen", "CHDw/i1ht"),
  ("Masaram_Gondi", "CLkhCEc6mhhhBrjghhhoop"),
  ("Medefaidrin", "CbSgC6"),
  ("Meetei_Mayek", "BKXg2GpBtip"),
  ("Mende_Kikakui", "DaAgGkiv"),
  ("Meroitic_Cursive", "CCNg3kziBt"),
  ("Meroitic_Hieroglyphs", "IC9gBaJi/"),
  ("Miao", "CbYgCqkB4nw"),
  ("Modi", "BKBwpbOmCkrp"),
  ("Mongolian", "GAg5mC4nBqBckgDexhljBZS0s"),
  ("Mro", "CaSg+hpkh"),
  ("Multani", "CTmpCCAwmhghjhuhq"),
  ("Myanmar", "EAgE/BGEugFx+Dh/bCwz"),
  ("Nabataean", "CCEg+oo"),
  ("Nag_Mundari", "DZGwBp"),
  ("Nandinagari", "CLkhcgpDf5gogngBCZ1lcLqniBtiq"),
  ("New_Tai_Lue", "GMgBrk5mqjh"),
  ("Newa", "CFAgC7hk"),
  ("Nko", "BQsgugjgNgB6iiBdJ+h"),
  ("Nushu", "CbfhgQMuMr"),
  ("Nyiakeng_Puachue_Hmong", "DYIgBsjtipkh"),
  ("Ogham", "FUg8"),
  ("Ol_Chiki", "HCwBv"),
  ("Ol_Onal", "CLkhDXDqBqkg"),
  ("Old_Hungarian", "IC6gigDOzgvgBXR+BytBynl"),
  ("Old_Italic", "CAYgBjpi"),
  ("Old_North_Arabian", "CCUg/"),
  ("Old_Permic", "F3gSogliqgLvgBfWsBq"),
  ("Old_Persian", "CAdgBjkt"),
  ("Old_Sogdian", "CDYgBn"),
  ("Old_South_Arabian", "CCTg/"),
  ("Old_Turkic", "IC6gDO1gBXOvCo"),
  ("Old_Uyghur", "BSggCBFxgBD95"),
  ("Oriya", "CKxhxhM7ihnihi1hmhhhkioihiinikhhkixELig3g"),
  ("Osage", "YhgigmgCsgCAK3BjkBj"),
  ("Osmanya", "CBEg9ip"),
  ("Pahawh_Hmong", "CaYgClqphmh0ly"),
  ("Palmyrene", "CCDg/"),
  ("Pau_Cin_Hau", "CGWgB4"),
  ("Phags_Pa", "GAihhgCBpgDeygeB9B3"),
  ("Phoenician", "CCIg7jg"),
  ("Psalter_Pahlavi", "BSggCBJ/xnjsm"),
  ("Rejang", "BKJwBjrg"),
  ("Runic", "FVgC4"),
  ("Samaritan", "CAgBtiuJPyg"),
  ("Saurashtra", "BKEgClor"),
  ("Sharada", "CKxgEclghgihigBCavligaKnC/"),
  ("Shavian", "F3gCAc4Bv"),
  ("Siddham", "CFMgB1iBl"),
  ("SignWriting", "DWAgUrvkhu"),
  ("Sinhala", "CLkhBA7ihxj3hohgimjgklhghnmpiiDX9gBdHuz"),
  ("Sogdian", "BSggCCHvBp"),
  ("Sora_Sompeng", "CEGw4np"),
  ("Soyombo", "CGSwCy"),
  ("Sundanese", "GcgB/Ign"),
  ("Sunuwar", "Yghhgpgig8gjgCGEuBhup"),
  ("Syloti_Nagri", "CLkhEgpBHQwBs"),
  ("Syriac", "Yjhihhg1giinhhgW7guhigBggqq6gEvthB7iiIwqFMtghg"),
  ("Tagalog", "FYg1pg1h"),
  ("Tagbanwa", "FZ1hBpshihh"),
  ("Tai_Le", "YghlhjgDJzpCIm9ik"),
  ("Tai_Tham", "GRgB+h8iqmpmt"),
  ("Tai_Viet", "BKUgCi4k"),
  ("Takri", "CLkhBHWqpbSmB5mp"),
  ("Tamil", "CKxhxhQ8hhljihjjhhghhjhjijrkkjihjigmgu0EG/gBDA4gaQtghgB3hDEjBxtg"),
  ("Tangsa", "CaTwCuhp"),
  ("Tangut", "LfwvPvgCPPwg/Ff3oX/Qgo"),
  ("Telugu", "CKxhxhU6shih2hviohihjnhhiigijipnoEC6g3g"),
  ("Thaana", "BQsguhigCgpI2BxBdSggqg"),
  ("Thai", "V8g6gBrgBtgCWvB5l7"),
  ("Tibetan", "DYgCnhBjkBmhBjhuhmkhIBtj"),
  ("Tifinagh", "YighgighgKRmB3nhug"),
  ("Tirhuta", "CKxhxhEcsgBCZ9pbCmCnop"),
  ("Todhri", "YhgigigpghgCqgCAThBz"),
  ("Toto", "V8gDXez+"),
  ("Tulu_Tigalari", "DHmpEAighgBCZ7lF7gaUuphgighBlhphgighjhphhoh"),
  ("Ugaritic", "CAcg9hg"),
  ("Vai", "BJIgJr"),
  ("Vithkuqi", "CBLwqhuhmhhhqhuhmhh"),
  ("Wancho", "DYWgB5lg"),
  ("Warang_Citi", "CGFgCysg"),
  ("Yezidi", "BQsgugjgCgpCCA2Bphiih"),
  ("Yi", "MAhhlpinG/gbYkBEsjB2WU6k"),
  ("Zanabazar_Square", "CGQgCn")]

end IntentSelect.Unicode
