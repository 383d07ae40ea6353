/-!
# Segmentation classes

The classes by which text is cut into user-perceived characters, words and sentences in version 16
of the standard, packed.
-/
namespace IntentSelect.Unicode

/-- The classes of user-perceived characters. -/
def graphemeClusterBreaks : List (String × String) := [
  ("CR", "tg"),
  ("Control", "gphhhxC/BgtgBLugEPxgBf8gih4mBxvBXUvgHwrNB0vBCDgjFGvnYLUl/DgD/HwDQv"),
  ("Extend", "YgDvIzmInBshghhhhhgCoqBw0wgDlmilihhjBjg+6C7qB6opg4jhohihkBriB7oBq3h/B3ghgknkgjmqh9gB6
     ghgijogpgqh6gihB5gkhkhiijg+hjgrhB5gkkhhkg0h2lhgB6ghhhjogniqh+gB7ghgsgpgBogjgB3ghilihjnhrh9gB6
     gihhgjihjnhrh8hB5hhgijogpgqh9gCogkgiihgogCxgimsnDigiormCph7ghghgB3thkhhlqhBjpgDmjhlhhih5hkiwj
     tgihmgvgV/idyj8i9h+hCghhmogiqpgBtihgD1hBigD2ikhpgmiG7higB6ghmhghginmpigBw+BxjBwpkiBmoshBgjilB
     4ghhjghkB4nihE4ihshmkgmgjhGmB/QsgGjBgCf+iEtgDg/RqlDphdO0jhpBghCwhIwgjgkg5hlgE3h6xtgBmn5qhgBsi
     BwgijihigBkgCjlihihsgogBvgBzghiihlhhgBqhogHugigkgTZwgXhvwvLuhS9gHigE1kBUmihhljBoikgFlhR9jChkJ
     9hCvjCmqBxjD7gB2uBpgihqiBxjihngB9iBkkhnB+gshB0ohgojigC/iijmgigE9gjn1hB5hhghgsgpgumjkCjgilhgig
     hikihguhC1niihg3gCxgilhgighhhhHrgijmhhh7hC1nighhDqghginDlghgijhkIjohhH1gqjkgEwjihkgBgpBolijog
     pliiBushhM2mhlhgCy1imhhhhD6ljghhhmhgCohjghgK7hrhB0kli3gFHlgmuLGorjiCOgkB7mBA4gB/jCxgrhTFrhETh
     Bti2Q+kjlonim+jE0iBd7B2kBxogug2khuBKwmhwimhhhkDkgFgmL3gB9jP8jH+hXgmDtmCVwkYDBgC/EgHv"),
  ("L", "EIgC/BGAg8"),
  ("LF", "qg"),
  ("LV", "BLAgg7g7g7g7g7g7g7g7g7g7g7g7g7g7g7g7g7g7g7g7g7g7g7g7g7g7g7g7g7g7g7g7g7g7g7g7g7g7g7g7g7g7g
     7g7g7g7g7g7g7g7g7g7g7g7g7g7g7g7g7g7g7g7g7g7g7g7g7g7g7g7g7g7g7g7g7g7g7g7g7g7g7g7g7g7g7g7g7g7g7
     g7g7g7g7g7g7g7g7g7g7g7g7g7g7g7g7g7g7g7g7g7g7g7g7g7g7g7g7g7g7g7g7g7g7g7g7g7g7g7g7g7g7g7g7g7g7g
     7g7g7g7g7g7g7g7g7g7g7g7g7g7g7g7g7g7g7g7g7g7g7g7g7g7g7g7g7g7g7g7g7g7g7g7g7g7g7g7g7g7g7g7g7g7g7
     g7g7g7g7g7g7g7g7g7g7g7g7g7g7g7g7g7g7g7g7g7g7g7g7g7g7g7g7g7g7g7g7g7g7g7g7g7g7g7g7g7g7g7g7g7g7g
     7g7g7g7g7g7g7g7g7g7g7g7g7g7g7g7g7g7g7g7g7g7g7g7g7g7g7g7g7g7g7g7g7g7g7g7g7g7g7g7g7g7g7g7g7g7g7
     g7g7g7g7g7g7g7g7g7g7g7g7g7g7g7g7g7g7g7g7g7g7g7g7g7g7g7g7g7g7g7g7g7g7g7g7g7g7g7g7g7g7g7g7g7g7g
     7g7g7g7g7g7g7g7g7g7g7g7g7g7g7g7g7g7g7g7g7g7g7g7g7g7g7g7g7g7g7g7g7g7g7g7g7g7g7g7g7g7g7g7g7g7g7
     g7g7g7g7g7g7g7g7g7g7g7g7g7g7g7g7g7g7g7g7g7g7g7g7g7g7g7g7g7g7g"),
  ("LVT", "BLAh6h6h6h6h6h6h6h6h6h6h6h6h6h6h6h6h6h6h6h6h6h6h6h6h6h6h6h6h6h6h6h6h6h6h6h6h6h6h6h6h6h6h
     6h6h6h6h6h6h6h6h6h6h6h6h6h6h6h6h6h6h6h6h6h6h6h6h6h6h6h6h6h6h6h6h6h6h6h6h6h6h6h6h6h6h6h6h6h6h6
     h6h6h6h6h6h6h6h6h6h6h6h6h6h6h6h6h6h6h6h6h6h6h6h6h6h6h6h6h6h6h6h6h6h6h6h6h6h6h6h6h6h6h6h6h6h6h
     6h6h6h6h6h6h6h6h6h6h6h6h6h6h6h6h6h6h6h6h6h6h6h6h6h6h6h6h6h6h6h6h6h6h6h6h6h6h6h6h6h6h6h6h6h6h6
     h6h6h6h6h6h6h6h6h6h6h6h6h6h6h6h6h6h6h6h6h6h6h6h6h6h6h6h6h6h6h6h6h6h6h6h6h6h6h6h6h6h6h6h6h6h6h
     6h6h6h6h6h6h6h6h6h6h6h6h6h6h6h6h6h6h6h6h6h6h6h6h6h6h6h6h6h6h6h6h6h6h6h6h6h6h6h6h6h6h6h6h6h6h6
     h6h6h6h6h6h6h6h6h6h6h6h6h6h6h6h6h6h6h6h6h6h6h6h6h6h6h6h6h6h6h6h6h6h6h6h6h6h6h6h6h6h6h6h6h6h6h
     6h6h6h6h6h6h6h6h6h6h6h6h6h6h6h6h6h6h6h6h6h6h6h6h6h6h6h6h6h6h6h6h6h6h6h6h6h6h6h6h6h6h6h6h6h6h6
     h6h6h6h6h6h6h6h6h6h6h6h6h6h6h6h6h6h6h6h6h6h6h6h6h6h6h6h6h6h6h6"),
  ("Prepend", "BQglG3gBxgMghCwgBDrgCAbugvgH0hQtgBLtghgH4gCplV8gN7g"),
  ("Regional_Indicator", "DcPm5"),
  ("SpacingMark", "CIjgB3giiojhhByhB7hmhihB2gB6iCigB6ioghhB1hB8gmhihDyghhjihiB0iB9jB9hB6gighhBuguhB
     7hlihiB1hCshmmzhB/gD/gEqhB/gFxgph5hBsgBZxgnnhhK6jiikhhlHghB6ghg1lExgB5jCgg+gkhB/giihgB1nohFrg
     1gBCZrhigC4hByvEugBwgBwhkhihDvhih4gE9gihlgHthhhhhhgZAzghgD/gBtikhDzg4hB7gBwipgugC9ijhFsi/hB7g
     hjihih1hC1hvghhDniohjgDrhmghhhgigHuhmjigDxiohhgDtghhDugngIlipgH4khhnghgEuiojkgC0g9hB+gM3gugDq
     gngigG1kkhhgK+hsgBwhohQPqiDRkB2"),
  ("T", "ENoC3BROrBw"),
  ("V", "ELgCnBRQo2BFM8gjj"),
  ("ZWJ", "IAtg")]

/-- The classes of words. -/
def wordBreaks : List (String × String) := [
  ("ALetter", "Ch5m5Bvgqgkgl2h+hO/mBhDwkhhijhgmghihghzhCyhEqoFlhBlijhghBohgDogBsBqBjhhDihgvhnhqiigv
     hh99C4rg4Bgphkgl1kgpgjg34nql3hlxBpB6B1jgygnpvvknihi1hmhgjjjgwgthhiuhqgolkhi1hmhhhhhh/jhgziwoh
     ih1hmhhhkjgygvh3grnihi1hmhhhkjg+hhivgxghljihjjhhghhjhjijr2gB0nhih2hvjg6iigih+gknhih2hphkjg/hh
     hvhxohihBoigwglioi4llxj3hohgimJ5gB/nhBj7kIzBlhglgiBqhKshjimhghjiBohjiBghjimhghjiuhB4hjiCiBlvw
     C1iljTriwh5lCqjqnxtyuxushiFvC4nkiBhhglClq+Hh2HuBuxnB29thqBr6BjBpiqBjiqlBqiiBpjhlhhjglF/CgI1il
     iBlilinhghghgh+iB0hmhgjihmjjilkslihmD0gtgwsDlgkgiphgjkmghghghjhqijlkkgxBoZtBzBY2HkmjjhsBlhglg
     iB3ngw2pmhmhmhmhmhmhmhmCwgO1gB1hGoBqhC9x/bSgBEsCjBtiIsjvqh0Buw+iCv4Glihhghn1vhihjh29BzuBxB+lj
     ghhr7q258nBu8gBwBo3ihnE0qnislililpmhmhB5mDy9Kdjs2kBwIYkmskB4DhBhLqyB/iB1BorD0khEmBk5m5Cl+jlil
     iliiBjrh5hyhhhuitBiD6ClB0Ir8jBwBv/t9lBlq9iBjknhkBqE9yBjkBjkBnoBzsqhuhmhhhqhuhmhhjBzsJ2p1qn4lh
     BphoCllighBrhhjgi2q2p+Chyhhq1q5CmB3mhCggvjhih8Bq8j8Bjnh77B1q1qytxDuCoB3BytBytBjBm7p2H6BpmhwiB
     78qgo1BqxBu072sB0B5higtBsBg46Bj9gigoBijgsBvuj1ghgBjxh4zhB/mhghjhuhpnBuBmnihi1hmhhhkjgygsk+phg
     ighBlhg5ghgBsB0yj0i+Bv0hhgF4BuBpjBkBv0gB7BqtgKnBrD0B//niginhhh3vghgC+niBmwghg8gqBnng1grBtzgyC
     oGnBg/ohBkxgBx9DwmhhhBl1g5lhhh/ugKnyvghshBhD8gCvc5DmDuxGjCSsDgvBBvxl5Dc6lSmGV59BXiR4n+xCux9yB
     vwj/0lyNwBsGzB/EgCqlgCisCghhgTA8DqlsjonpFbmC0hCmhhigihijhrhghmhCghjinhmh7hjhkhgjmhKzi4h4h+h4h
     +h4h+h4h+h4hnBZ0+mlIlB9EyBsqmwgKh9yBrPk7Hk9igPvmhjhhhuhGkB7CjngBF0jh6hhhgighphjhghgmgkghghghi
     hhhgighghghghghhhgijhmhjhjhghphwlihkhwT05m5m5"),
  ("CR", "tg"),
  ("Double_Quote", "Big"),
  ("Extend", "YgDvIzmInBshghhhhhgCoqBw0wgDlmilihhjBjg+6C7qB6opg4jhohihkBriB7oBq3hBgB2ihxhmqh9iB4ghm
     ihiipgqh6giiB4ghkkhiijg+hjgriB4ghnhihi0h2lhiB4ghmihiiniqh+gB7kjihjpgBokB3ghmhihjnhrh9iB4ghmhi
     hjnhrhvgsjB3hhmhihjpgqh9iCmgklhghnyhB9gimsnDigiormCph7ghghgkhBxzhhlqhBjpgDkz3jkihiimjjtrhgqjV
     /idyj8i9h+hCg/pgBtihgD1hBigD2rkrG7kB5ph8igBw+BxkBvwBmosi+sB4tBwzE4ih0kgmgiiGmB/QsgGjBgCf+iEtg
     Dg/RqlDphdO0jhpBghCwhIwgjgkg3kkgCzhByx6xtgBmn5sBsjBvtBkgCjtsgohBtiByghiihlhhgBpklhHsnhhTZwgXh
     vwvLuhS9gHigE1kBUmihhljBoikgFlhR9jChkJ9hCvjCmqBxjD6iB1uBpgihqjBtqngB9iBktwhBsgsiBwtojhhC8rmgi
     gE9r1jB3hhmihiipgqhimjkCjohgighjhkhguhCyx3gCxzHrmio7hCywDqsDluIguH1lhhijhghhEtmimjg8pBomhjogp
     qBuvM1nhnCy1htD6ljghhhmhgCikhhhkK7jphhgBwmjk3gFHlgmuLGoxCOgkB7mBA4ghB2njCxgrhTFrhEThBti2Q+kjl
     onim+jE0iBd7B2kBxogug2khuBKwmhwimhhhkDkgFgmL3gB9jP8jH+hXgmDtmCVwkYDBgC/EgHv"),
  ("ExtendNumLet", "C/gHevgvhzgBXO+h4iHvg"),
  ("Format", "FtgBLugEPxgBf/h6kBxkhpBXUvgH5iNB0vBCDgjFGvnYLUmg"),
  ("Hebrew_Letter", "BOw6kjBdJqghphshkhghhhhhp"),
  ("Katakana", "MBxkDlhjC6hjHwvGwBuhC3BTAuB3BMCyjhmhhhgI/iByguj"),
  ("LF", "qg"),
  ("MidLetter", "B6gD8gWvgO3gE0gGRygBXPrgChgGkg"),
  ("MidNum", "BsgugaigQqgEihC+gMrgGCrgBXQrgjgF3gug"),
  ("MidNumLet", "BugHfphqgBXRtgF0gmg"),
  ("Newline", "rhD4gHdih"),
  ("Numeric", "BwpBOmlC6phgDxgypGmpGmhCwgEjpD2pD2pD2pD2pD2pD2pD2pD2pD2pDgpD2pCmpI2pCmpBampBmpJspEgp
     FmpmpF2pC2pEmpmpBCOmpVmpBmpGmp2pC2pM2pUY2pBMmpCEmpmpY8pCtgvgBipB8pEwpI2pK2pD2pL2pDmpmzCspNmpD
     mpU2pC2pH2pCmpNmpQO2pCJmpC2pEmpQ2pXb2pCW0BxCKgpNmpP2pH3pa1pEU2p"),
  ("Regional_Indicator", "DcPm5"),
  ("Single_Quote", "Bng"),
  ("WSegSpace", "BggFS/gCL/mhiC0gDdgg"),
  ("ZWJ", "IAtg")]

/-- The classes of sentences. -/
def sentenceBreaks : List (String × String) := [
  ("ATerm", "BugHf1gBXRtgF7g"),
  ("CR", "tg"),
  ("Close", "BigkiBxghg9ghgBtgvgDT+jBa9hCL7n5hqhB2huhT5j9hBBwlntCvh/pMz1B/jBghBAituhip4gynNrpinhiBT
     I+hG3h8vihwlFphBxghg9ghghhhhBdYyi"),
  ("Extend", "YgDvIzmInBshghhhhhgCoqBw0wgDlmilihhjBjg+6C7qB6opg4jhohihkBriB7oBq3hBgB2ihxhmqh9iB4ghm
     ihiipgqh6giiB4ghkkhiijg+hjgriB4ghnhihi0h2lhiB4ghmihiiniqh+gB7kjihjpgBokB3ghmhihjnhrh9iB4ghmhi
     hjnhrhvgsjB3hhmhihjpgqh9iCmgklhghnyhB9gimsnDigiormCph7ghghgkhBxzhhlqhBjpgDkz3jkihiimjjtrhgqjV
     /idyj8i9h+hCg/pgBtihgD1hBigD2rkrG7kB5ph8igBw+BxkBvwBmosi+sB4tBwzE4ih0kgmgiiGmB/QshGiBgCf+iEtg
     Dg/RqlDphdO0jhpBghCwhIwgjgkg3kkgCzhByx6xtgBmn5sBsjBvtBkgCjtsgohBtiByghiihlhhgBpklhHsnhhTZwgXh
     vwvLuhS9gHigE1kBUmihhljBoikgFlhR9jChkJ9hCvjCmqBxjD6iB1uBpgihqjBtqngB9iBktwhBsgsiBwtojhhC8rmgi
     gE9r1jB3hhmihiipgqhimjkCjohgighjhkhguhCyx3gCxzHrmio7hCywDqsDluIguH1lhhijhghhEtmimjg8pBomhjogp
     qBuvM1nhnCy1htD6ljghhhmhgCikhhhkK7jphhgBwmjk3gFHlgmuLGoxCOgkB7mBA4ghB2njCxgrhTFrhEThBti2Q+kjl
     onim+jE0iBd7B2kBxogug2khuBKwmhwimhhhkDkgFgmL3gB9jP8jH+hXgmDtmYFW1C/EgHv"),
  ("Format", "FtgBLugHygEH+gBf8gih6kBxkhpBXUvgH5iNB0vBCDgjFGvnYLUmg"),
  ("LF", "qg"),
  ("Lower", "Dh5BvgqgkgBk3hnhghghghghghghghghghghghghghghghghghghghghghghghghghghghhhghghghghghghgh
     hhghghghghghghghghghghghghghghghghghghghghghghgighghiighgigjhkgigjiigighghgighhhgigjghgihiimg
     igighghghghghghghghhhghghghghghghghghhighgjghghghghghghghghghghghghghghghghghghghghghghghghgh
     ghghghghmigihhgkghghghghCkhBjnh+kEsghgjgijyg7BihhjihghghghghghghghghghghghkhgigihBzBvhghghghg
     hghghghghghghghghghghghghgpghghghghghghghghghghghghghghghghghghghghghghghghghghgighghghghghgh
     hhghghghghghghghghghghghghghghghghghghghghghghghghghghghghghghghghghghghghghghghghghghghghghg
     hghgBwBoCbzgX7lCEiohgD1F/Chghghghghghghghghghghghghghghghghghghghghghghghghghghghghghghghghgh
     ghghghghghghghghghghghghghghghghghghghghghghghghghghghghghghghghghghghghghghghghghohghghghghg
     hghghghghghghghghghghghghghghghghghghghghghghghghghghghghghghghghghghghghghghghghghghghoolqno
     nolqnonotinononokhhmgjihhojihonqihhD5gtgwsDtgjhjg7gkgkgihojkgBhvkgar5BamBvhgjhhghghgkghhhnjgh
     ghghghghghghghghghghghghghghghghghghghghghghghghghghghghghghghghghghghghghghghghghghghghghghg
     hghhnghgkgsBlhglgeIzghghghghghghghghghghghghghghghghghghghghghghgzghghghghghghghghghghghghghi
     Elghghghghghghihghghghghghghghghghghghghghghghghghghghghghghghghghghghghghghphghgighghghghgkg
     hgighihghghghghghghghghghglglghghghghghghghgkghgigjghghghghghg2ihghiZ1BqhtmCvTagmskBBp5BGtBnE
     oBjE7qhuhmhhOjgiihBphoBIlByD91CZ6/VMg/ZM656mhx656jhghmhq65656565656565656784hl64hl64hl64hl64h
     lhgBZ0phzmlIlB9CF0Bh"),
  ("Numeric", "BwpBOmlC6phhDwgypGmpGmhCwgEjpD2pD2pD2pD2pD2pD2pD2pD2pD2pDgpD2pCmpI2pCmpBampBmpJspEgp
     FmpmpF2pC2pEmpmpBCOmpVmpBmpGmp2pC2pM2pUY2pBMmpCEmpmpY8pCtgvgBipB8pEwpI2pK2pD2pL2pDmpmzCspNmpD
     mpU2pC2pH2pCmpNmpQO2pCJmpC2pEmpQ2pXb2pCW0BxCKgpNmpP2pH3pa1pEU2p"),
  ("OLetter", "N7gkjGwgBkmmr6ghgElgPkgD26kkBsBqBjhhDihgvhnhqiigwgh99C4rg4Bgphkgl1kgpgjg34nql3hlxBpB
     6B1jgygnpvvknihi1hmhgjjjgwgthhiuhqgolkhi1hmhhhhhh/jhgziwohih1hmhhhkjgygvh3grnihi1hmhhhkjg+hhi
     vgxghljihjjhhghhjhjijr2gB0nhih2hvjg6iigih+gknhih2hphkjg/hhhvhxohihBoigwglioi4llxj3hohgimB6Bvh
     hsmB6hhghkh3hghphhpgikhg1jBggB/nhBj7kDzBq0gwlkjjgjhnikssgChBqiKrhjimhghjiBohjiBghjimhghjiuhB4
     hjiCiBlvDxTriwh5lCqjqnxtyuxushivBzBjgkgCjC4nkiBhhglClq+Bx9ikrBrk5B22pB0CygC9BuxnB29thqBr6BjBp
     iqBjyBqiiBpjhlhhjgBB6jCniijCdnB3ngw2pmhmhmhmhmhmhmhmCwgO1i5onkikkC1mihC5hjlBqhC9x/BwvQgGN/CgV
     UsCjBtiIsjvqhCigwgBgCvBnoDogmgDngjmhihjh29BzuBxB+ljghhr7q258nBu8gwkhpqkhBo3ihn02jgjBxhgjhikig
     hg4iiqnislililpmhmExBi9Kdjs2kBwIIkLtiDpCjghphshkhghhhhhDrBhLqyB/iB1BorD0khEmDpB3i+jlililiiBjr
     h5hyhhhuitBiD6ClB0Ir8jBwBv/t9lBlq9iBjknhkD6CtDiBnoBzC8BzsJ2p1qn5hD9lighBrhhjgi2q2p+Chyhhq1q5C
     mB3mhCggvjhih8Bq8j8Bjnh77B1q1qytxDuCoF3BjBml/gIwBpmhwiB78qgo1BqxBu072sB0B5higtBsBg46Bj9gigoBi
     jgsBvuj1ghgBjxh4zhB/mhghjhuhpnBuBmnihi1hmhhhkjgygsk+phgighBlhg5ghgBsB0yj0i+Bv0hhgF4BuBpjBkBv0
     gB7BqtgCn6BlmF5BrGzniginhhh3vghgC+niBmwghg8gqBnng1grBtzgyCoGnBg/ohBkxgBx9DwmhhhBl1g5lhhh/ugKn
     yvghshBhD8gCvc5DmDuxGjCSsDgvBBvxl5Dc6lSmGV59BXiR4n+xCux9yBvwj/0lyNwBsMzCqlgCisCghhg8Ff3oBG1Bp
     pIXnjhmhhhJivg9iigujoMrCIkDqlsjonpITwgP1BsqmwgKh9yBrPk7Hk9igPvmhjhhhuhGkEmgBF0jh6hhhgighphjhg
     hgmgkghghghihhhgighghghghghhhgijhmhjhjhghphwlihkhwEKkBJW/BgEB5mG9iFUhuHJwvTtCNiQ9BPiEaqlEC/"),
  ("SContinue", "BshshaigO+gFuhPqgEApglgCAqhDfsgBTQuhhh8h9hihigqgFohshCog"),
  ("STerm", "Bhg9gBKpgEziF0gBriH2gB9ghgjhJlhBXkhY2gkhYlgGmhE9hBtglgJ6hLijFihqhih9iF7hChhd8hpiDFviJy
     gtg2hNtgdH8gIuhHjgjgL+hC2hC/gE4hEziEwhH5gURmgihB/hFpg9gChgCX0hBH9kBsjF9hD1jD/iEhhmgwhC4hhhDsg
     JqhD1hL1hluDphH5iQlghgH7hC3hNkhV0hCqhSZphElgChhrgRphJogTQmgHPog"),
  ("Sep", "ElgHdih"),
  ("Sp", "pghhzgD/gFO/gCL/qBkgBvgDdgg"),
  ("Upper", "Ch5Dl2hmBhghghghghghghghghghghghghghghghghghghghghghghghghghghghgighghghghghghghgighgh
     ghghghghghghghghghghghghghghghghghghghghghhhghgjhhghhhiijhhhijhhhhghghhhgighhhihghhjgnhhhhhhg
     hghghghghghghgighghghghghghghghgihhghihghghghghghghghghghghghghghghghghghghghghghghghghghghgh
     ghgnhhhighjhghghghgJhghgjgogmghihghhhwhoBjgiijghghghghghghghghghghghglgighhiByBwghghghghghghg
     hghghghghghghghghghgpghghghghghghghghghghghghghghghghghghghghghghghghghghghhhghghghghghgighgh
     ghghghghghghghghghghghghghghghghghghghghghghghghghghghghghghghghghghghghghghghghghghghghghgiB
     lCapBlhglgWyC1CEzgL2ghghghghghghghghghghghghghghghghghghghghghghghghghghghghghghghghghghghghg
     hghghghghghghghghghghghghghghghghghghghghghghghghghghghghghghghghghghghghghgpghghghghghghghgh
     ghghghghghghghghghghghghghghghghghghghghghghghghghghghghghghghghghghghghghghghghgpnolqnonolrg
     hghghgon4nononokrkrjskrkIlgkgjiiiigjkmghghghjijqhlg6vzgZy5BZwBvBwghiighghghjhgigoihghghghghgh
     ghghghghghghghghghghghghghghghghghghghghghghghghghghghghghghghghghghghghghghghghghghghgoghgkg
     eKtghghghghghghghghghghghghghghghghghghghghghghgzghghghghghghghghghghghghghgEnghghghghghghgjg
     hghghghghghghghghghghghghghghghghghghghghghghghghghghghghghgqghghhhghghghgkghgighgjghghghghgh
     ghghghghghkhkhghghghghghghghjhghhjglghghghg4gVZr5BGlBnEoBjE8qhuhmhhBXqByE91CZ6/VMg/ZNg565656g
     hhigihijhn656hhjinhm7hhjhkhgjm756565656565+4Bh4Bh4Bh4Bh4BhgEJ1BhCAu5m5m5")]

end IntentSelect.Unicode
