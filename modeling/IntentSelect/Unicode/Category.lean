/-!
# General categories

The characters of each general category in version 16 of the standard, packed.  `categories` is a
partition of all characters.
-/
namespace IntentSelect.Unicode

/-- The general categories by their two-letter names. -/
def categories : List (String × String) := [
  ("Cc", "g/C/Bg"),
  ("Cf", "FtgBKyl2gGggBxgMghCwgDZrgBf8k6kBxkhpBXUvgH5iEGhgvgIbivBCDgjFGvnYLUmg+C/"),
  ("Cn", "b4hmjnghg0gMtgBmhByhjgB3n7jmqIugB8hDltB7hBxhvg8hhgrk/gikHtgohih2gnghikhphihknhjiglh5hjgmj
     ih2gngigigihhgljihjihmkghmxpjgpgjg2gngiglhqgjgjhhukhsmngjgohih2gngiglhphihjmjjiglhypigmijgkii
     ghgiiiijisjlijgkhhlht1ktgjg3gwhpgjgkmigjhhhkhqm2gjg3gqglhpgjgkmiligkhqgjrtgjgBzgjgmjwh6gjgyi4
     gpghhnihjmghgolqhjrB6j9Bkighglg4ghg3hlghgngqhk/CogBkjBngBkgvgtBkGmghkhhL5gkhnghgkhBpgkhBhgkhn
     ghgkhvgB5gkhCjhBgi6lC2hmhU9iC5m2o4o0rtgjgirC+hqlql6lC5mBrkCmp/gsjsjhiBqhlqBsj6lriB+hChg9hrlql
     uh/BwCtgFmnB8iviB+kBrhrnBrkQ2hmhBmhmhoghghghg/hB1gvguhmgzhjgpgDlgsh7gtiBhuBhuEsjU61r0BY0hBggK
     9kBtghkhhB4mit4ongngngngngngngngD+Bh6gC5rG25CwgC2hDnkBrgC+gC2oBwgcTtiB3oK8zF4nGuhighgo0B7iqlB
     4nCmnslD0q+iCugrjBhgB3ouhqhDn38pmhmhmongngB8jD+hqlKdkr3jBxjITuhDqBlnrlk6glghgigigD9vN9hB2mh/B
     qlBzgzgkjlgEnhhgF+imhmhmhjingnplhsg6gzgigvhuBhD7kjjBtiC4gtihBuBuEh9iBxu8jBko+kBrk+gBljuBpE+hq
     lBkjBkjBonB0qsgvgngigrgvgngiiB0rJ3o2po3mgBqgpCkmhhgBsgiihh3gConpBvzgikBhi7khB/B4j0hBygikogjg9
     hjjqmpmCg/BnjsoB2i9h7k6mkrnCvCpB2BzsBzmBunqlBmi9niGv/gBqgjhivjB2BsnBq16Bl8z3oCujBkoCkphh5mqlB
     1gynBnoDgg0qygBvB9nghgkgvgrlB7kqlkgohih2gngiglgqhihjhhlhknhnilqqghhhgBmgqghhhgkgqgini8C8gl9Co
     nqFlB2hBmBhClqqltyB6lql077hvj3F4B8DjCzrohhhogig+gihsoqClohBuhr6ConCzsCpmqF1BitqlpgBtgup9iBgh2
     guCongigBsihgigpnqlmgigBlgigmmqJ15mxgBpi9C0huBysc7DlDvglqGkCSrDjsBC2pDc7kSnGV4B6BWlR5m/gqjCxg
     ql+hmpCmpqgng1kzNvB6GlC7DkCrjB5mxB/lqitFf4nBG2BoqIXmkgngigJjuh8jhhtknMsCIjDrktipmqhoDa7H6lN0C
     rBuh3oD0B7H2pBnhGi0CmD50r0rC3o5EmC1gCngihhhihkgsghgngChgkhogng8gkglghingK0hJkhV+ulgvBCv/lmG0n
     gxhngiglkB+BghDvBtiuhqjiJ//wB6khOvBqG1BrjhO/ngkgigvgGlhwBoCsjqjiYwCkCrB9Ghkg7gighhhgqgkghghlh
     jhghghgjgighhhghghghghgighhkgngkgkghgqgxkjglgxBziItBsjDkrvhvgvgBlpFuB39sBsjpmitmE5e4jxitiD3jC
     /lsjhusjB4nqlBon+hsjiB9K0ruhtiqkB4mvhrlpmEzgDmBAlBJXg/EB6lG+hFUitHJxuTuCNhQ+BPhEarkEDgVXCwh9D
     gD/HwBfQvBff+hBff+h"),
  ("Co", "BYAgGH/cBYgBff9iBff9"),
  ("Ll", "Dh5B6gBp3hnhghghghghghghghghghghghghghghghghghghghghghghghghghghghhhghghghghghghghhhghghg
     hghghghghghghghghghghghghghghghghghghghgighghiighgigjhkgigjiigighghgighhhgigjghgihiimgigighgh
     ghghghghghghhhghghghghghghghghhighgjghghghghghghghghghghghghghghghghghghghghghghghghghghghghg
     hmigihhgkghghghghCkh6Ghghgjgjiyg7BihhjihghghghghghghghghghghghkhgigihBzBvhghghghghghghghghghg
     hghghghghghghgpghghghghghghghghghghghghghghghghghghghghghghghghghghgighghghghghghhhghghghghgh
     ghghghghghghghghghghghghghghghghghghghghghghghghghghghghghghghghghghghghghghghghghghgBwBoCanB
     qiiX4lCEiohgD1BrB/shBhDmghghghghghghghghghghghghghghghghghghghghghghghghghghghghghghghghghghg
     hghghghghghghghghghghghghghghghghghghghghghghghghghghghghghghghghghghghghghghghohghghghghghgh
     ghghghghghghghghghghghghghghghghghghghghghghghghghghghghghghghghghghghghghghghghghghoolqnonol
     qnonotinononokhhmgjihhojihonqihhIygjhjg7gkgkgihojkgB1gCVrBvhgjhhghghgkghhhllghghghghghghghghg
     hghghghghghghghghghghghghghghghghghghghghghghghghghghghghghghghghghghghghghghghghhnghgkgsBlhg
     lgeIzghghghghghghghghghghghghghghghghghghghghghghgzghghghghghghghghghghghghghgEnghghghghghghi
     hghghghghghghghghghghghghghghghghghghghghghghghghghghghghghghghnhghgighghghghgkghgighihghghgh
     ghghghghghghglglghghghghghghghgkghgigjghghghghghg6gjgZ1BqlonCvTagmskBBp5BGtBnEoBjE7qhuhmhhBYj
     ByD91CZ6/VMg/ZM656mhx656jhghmhq65656565656565656784hl64hl64hl64hl64hlhgBZ0phzmlCP3Bh"),
  ("Lm", "VwxkruknghgElglgO+gHmgFkhIthkg/gpgjgFggFngBG0gD/gR1gBW6gDrgTjgOwlFuB+tgBiBkVxgtgwsCe/hHxg
     F/gO1gBrklgDhhC9ibY2gBHilIugDyg8hD5oCwg3gDpijhO1g2gEpgDsg1hDnjpgVAmgBthBfglhBphoBMzgBggXOwjP8
     iBohRmsCghhgQAsjhmhhMBxB9GpmdtgBC/g"),
  ("Lo", "FqgvgIggkjGwgZ76kjBt/hpBjhhDihg4hqiigwgh99C4rg4Bg11Bq4nql3hlxBoB7B1jgygnpwuknihi1hmhgjjjg
     wgthhiuhqgolkhi1hmhhhhhh/jhgziwohih1hmhhhkjgygvh3grnihi1hmhhhkjg+hhivgxghljihjjhhghhjhjijr2gB
     0nhih2hvjg6iigih+gknhih2hphkjg/hhhvhxohihBoigwglioi4llxj3hohgimB6BvhhslB7hhghkh3hghphhpgik3jB
     ggB/nhBj7kDzBq0gwlkjjgjhnikssgDxKohjimhghjiBohjiBghjimhghjiuhB4hjiCiBlvDxTriwh5lCqmnnxtyuxush
     ivBzBogCjBihB0nkiBhhglClq+Bx9ikrBrk5B22pB0FwBuxnB29thqBr6BjBpiq9DxjhlhhjgBB6jCf3B342pmhmhmhmh
     mhmhmhmRngB1gkC1oghC5kglBqhC9x/BwvQgGN/CgUQ0hBD2CjBnoIrkvqhCigBxClFpgDngjmhihjh29BzuBxB+ljghh
     r7q258nBuBtkioqkhBo3ihn0vhljgjBxhgjhikighg4hjqngulililpmhmExBi9Kdjs2kBwIIkLtiDpCjghphshkhghhh
     hhDrBhLqyB/iB1BorD0khEmDpphBsi+jlililiiBjrh5hyhhhuitBiD6Ml8jBwBv/tzhnmBlq9iBjknEgCtDiBnoBzC8B
     zsJ2p1qnE4lighBrhhjgi2q2p+Chyhhq1q5CmB3mhCggvjhih8Bq8j8Bjnh77B1q1qytxDuCoF3BjBmjhgJwBpmhwiB78
     qgo1BqxBu072sB0B5higtBsBg46Bj9gigoBijgsBvuj1ghgBjxh4zhB/mhghjhuhpnBuBmnihi1hmhhhkjgygsk+phgig
     hBlhg5ghgBsB0yj0i+Bv0hhgF4BuBpjBkBv0gB7BqtgCn6BlmF5BrGzniginhhh3vghgC+niBmwghg8gqBnng1grBtzgy
     CoGnBg/ohBkxgBx9DwmhhhBl1g5lhhh/ugKnyvghshBhD8gCvc5HmGjCSsDgvBBvxl5Dc6lSmGV59BXiR4n+xCux9yBvB
     z0lyNzBnM1CqlgFvFf3oBG1BppIX3Jivg9iigujoMrCIkDqlsjonpITwgP1BsBhgKh9yBrPk6Hl9igPvmhjhhhuhGkBJ7
     jh6hhhgighphjhghgmgkghghghihhhgighghghghghhhgijhmhjhjhghphwlihkhwEKkBJW/BgEB5mG9iFUhuHJwvTtCN
     iQ9BPiEaqlEC/"),
  ("Lt", "OlgigigBmgHM1nononsgvgBvg"),
  ("Lu", "Ch5Dl2hmBhghghghghghghghghghghghghghghghghghghghghghghghghghghghgighghghghghghghgighghghg
     hghghghghghghghghghghghghghghghghghghghhhghgjhhghhhiijhhhijhhhhghghhhgighhhihghhjgngigigighgh
     ghghghghghgighghghghghghghghgigighihghghghghghghghghghghghghghghghghghghghghghghghghghghghghg
     nhhhighjhghghghgJhghgjgogmghihghhhwhoBjgiijghghghghghghghghghghghglgighhiByBwghghghghghghghgh
     ghghghghghghghghgpghghghghghghghghghghghghghghghghghghghghghghghghghghghhhghghghghghgighghghg
     hghghghghghghghghghghghghghghghghghghghghghghghghghghghghghghghghghghghghghghghghghghghgiBlCa
     pBlhglgWyC1CEzgmBqiiKgghghghghghghghghghghghghghghghghghghghghghghghghghghghghghghghghghghghg
     hghghghghghghghghghghghghghghghghghghghghghghghghghghghghghghghghghghghghghghgpghghghghghghgh
     ghghghghghghghghghghghghghghghghghghghghghghghghghghghghghghghghghghghghghghghghghgpnolqnonol
     rghghghgonCojsjsjskrjImgkgjiiiigjkmghghghjijqhlgB9gCT8BvBwghiighghghjhgigoihghghghghghghghghg
     hghghghghghghghghghghghghghghghghghghghghghghghghghghghghghghghghghghghghghghghgoghgkgeKtghgh
     ghghghghghghghghghghghghghghghghghghghghgzghghghghghghghghghghghghghgEnghghghghghghgjghghghgh
     ghghghghghghghghghghghghghghghghghghghghghghghghghghgqghghhhghghghgkghgighgjghghghghghghghghg
     hghkhkhghghghghghghghjhghhjglghghghg4gVZr5BGlBnEoBjE8qhuhmhhBXqByE91CZ6/VMg/ZNg565656ghhigihi
     jhn656hhjinhm7hhjhkhgjm756565656565+4Bh4Bh4Bh4Bh4BhgEJ1Bh"),
  ("Mc", "CIjgB3giiojhhByhB6imhihqgBrgB6iCigB6ioghhB1hB6ghgmhihqgDmhhhjihiqgBpiB9jB9hB6ghkihhhph8gu
     hB6ilihiqgBqhCrimnyhKqhB/gFrhkgmgih5hqiim1hiligqiBT4g+gEhgnnhhK6jiikhhlHghB6ghgpghholExgBwglg
     hkhhB9g+gkhigB8giihgjhBwnohFrg1gEZ2hdfzhigC4hByvEuhBvgBwhkhiiDuhih4gBtghgDtgihlgHthhhhhhgZAzg
     hgD/gBtikhDzg4hB7gBwiphtgC9ijhhgFqi/hB6hhjihiipgqhC0ingighjhhhgDliohjgDqimghjigHtimjigDxiohhg
     DtghhmgDnghhkgIlipgH3lhhkgighgEuiojkgC0g9hB+gM3gugDqgngigG1kkhhgK+hsgBwhohhgQPoiDRkB2DohYLzhm
     l"),
  ("Me", "BEohFR0gBQ+jhiBBMri"),
  ("Mn", "YgDvIzkIpBshghhhhhgCoqBw0wgDlmilihhjBjg+6C7qB6opg4jhohihkBriB7oBq3h/B3ghgknkgjmqh9gB6gkjo
     g0h6gihB5gkhkhiijg+hjgrhB5gkkhhkg0h2lhgB6gighjognhrh+gB9gsgBygjgB3ghilihjnhrh9gB6gigmglh0h8hB
     5hkjog0h9gCognihgC6gimsnDigiormCph7ghghgB3thkhhlqhBjpgDmjhlhhih5hkiwjtgihmgvgV/idyi9h+h+hCghh
     mogiqpgBtihgD1hBigD2ikhpgmiG7higB6ghmhghginmpigBwthvBxjBwghkhglgBooshBgjihhiB4ghhjghiB6nihE4i
     hshmkgmgjhGmB/WwskgjrCf+iEtgDg/RqjDrhdO0gkpBghCwhIwgjgkg5hlgE3h6xtgBmn5qBuiBwgijihBngCjlihihs
     gogBvgBzghiihlhhgBqhogHugigkgTZwgXhvwvetgHigE1kBUmihhljBoikgFlhR9jChkJ9hCvjCmqBxjD7gB2uBpgihq
     iBxjihngB9iBkkhnB+gshB0oqjigC/iighhmgigE9gjn1hB5hjgBlmjkCmltghghguhC1niihg3gC0lhgkhhhHujmhhh7
     hC1nighhDqghgilhgDlghgijhkIjohhIghhgkgEwjihkgBgpBolijogpliiBushhM2mhlhgCy1imhhhhD6ljghhhmhgCo
     hjghgK7hrhB0klghg3gFHlgmuLGorjiCOgkB7mBA4gB/jCxgTF4hEThBti2Rgixnim+jE0iBd7B2kBxogug2khuBKwmhw
     imhhhkDkgFgmL3gB9jP8jH+hXgmDtmYFd1Hv"),
  ("Nd", "BwpBRmpEmpGmpM8pD2pD2pD2pD2pD2pD2pD2pD2pD2pDgpD2pCmpI2pCmpBampBmpJspEgpFmpmpF2pC2pEmpmpBC
     OmpVmpBmpGmp2pC2pM2pUY2pBMmpCEmpmpY8pEgpB8pEwpI2pK2pD2pL2pDmpmzCspNmpDmpU2pC2pH2pCmpNmpQO2pCJ
     mpC2pEmpQ2pXb2pCW0BxCKgpNmpP2pH3pa1pEU2p"),
  ("Nl", "FXuiCTvBiijDT+g5ouidVrpWSwB0OsgogEmkIBqDu"),
  ("No", "FyhlgiiCJ1lL4lD4iElmG5mxoNxpBB1zBDzpPggBU1gjlmpGmvBpgW2B7Cu1T29BLpgBE0jEqp+nhuBgpBnudLwlW
     GxBsChjxhK16BkjBJ0n5mBnoCrk2lFghiviBtCgoB0h+iCrkDon4nBpmKqlLg+E+pBqjDwmEmzL7zBKlhNuobnyaz0Scm
     mY+2ZBpzszDs4FKuodhB6hihjCsBshueis"),
  ("Pc", "C/gHe/hzgBXO+h4iHvg"),
  ("Pd", "BtgBK8gBzgDShgBAlgCAplDQhgig/hkg8gN+gzgDvgBTMwhBlgqgFpgDTggJ+g"),
  ("Pe", "BpgBzg/gDV9ghgBa+gCNpgB3gvgT6ghg+gBB+ghghghghghghgCwgBgghghghghgM0ghghghghghghghghghghgCg
     ghgBhgBBlghghghgBsghghghgNsghghghghgjghghghgihBTI+gG5g9ghghghghghghghgjgxghghgFqgBzg/gigig"),
  ("Pf", "F7gHa9gjg8gDOoghgkgigvgjg"),
  ("Pi", "FrgHbsgihig5gDOoghgkgigvgjg"),
  ("Po", "Bhihiighghhqhjh7gCkglguhngV+gogOylBpgB2gigigBsh0hhhtghiCqjDmgBrtHpiB2u/gIlhqgEsgD4gD5gMmg
     sgLvgC6gqhFouhgDwgCqkkhDvlFrgTkoYlgD8iCnhE9ihiBllhjJ5hG4hEgmhlFghqm8iD8jB7kB+hCgnrgaihonooiji
     ijqhghpDE6jhhDwgEvhkiigiohhhgihqkhpijhghsiiNsiB5gF9gdAihItiDjgqgDzlL8jC2hBoihgBxhBvgDhswhD8jD
     +hwhH5gURkmig2g0hijjihjnimghhE1ihiighghhqhjh7gBkgihM6iU8gBwgM+gXngGng/gIwoBmgDwmCimC5jd4kBsjF
     9mDthhjD+jBwhCvjkgtghiC4lDrgJqhhhDykqhhgDogH62Dpi8sCsgEiiH8gIoiE7gC8nCzihkC9pG3gC/kBqhUlhCqsF
     vgBDwkCb8hOT7hElgChkogRoiJnjKngTF8gHPnkCbzga+h"),
  ("Ps", "BogByg/gDV+ghgBa+gCL+gjgBmgB3gvgT6ghg+gBB+ghghghghghghgCwgBgghghghghgM0ghghghghghghghghgh
     ghgCgghgBhgBBlghghghg5gyghghghgNsghghghghgjghghghgigBTJhgG3g9ghghghghghghghgjgxghghgFqgByg/gj
     gig"),
  ("Sc", "BkgD9jBHpgD7gPyhPyhngH1gIngSlgCM7gCGkBgBBb3gVOjgDsgE6gG7hjhHf2jBQY+gCNwg"),
  ("Sk", "C+ghgCngmgkgjgQpjstlmhghwD1guhBIigFZ0ghirititithEE8hdTj2phDnhewguhUCmwb7ghgFigBdA3k"),
  ("Sm", "BrgwiB9ghgBtgkgBlg/gX+gQviGR7gtgBnitiErgBnkmgCkklhkgigigng/highg/IrBghC6g+4BolO1gpgB2nDvg
     Kwki+qvIgEi2B+k/iIhBw0ilBTe8gZ4ghiFkgwiB9ghgEjgmjDNhhBSJxg5g/g5g/g5g/g5g/g5gFZsh"),
  ("So", "FmgigkghgexgIqhD/hGugqgzhH3gQjgL1gEilhgEkgGvgBpgMnivghiil0ghghgElnhlhhljGlhXwpWzgWygE9BhL
     hppoBMjhhjhhqghhmlhghghgkgrhughhhgB6hpkijhhhhhmh+ihhgh+IsnkzimiCwh95BnmCn2qCxCt2F2hohB1oDuhH3
     BsBrCgH/QgBv1hmBmi/hDoHllLlhBu5hC4sG16vkgthsg1hmhKwhkpBgBlpgw+r9ogv/qBmvJ/GOgB/VUwB2bhjqhhgR9
     iUWmvD/gBtiPkgjgkhthJ5oB5wiihsjgBvBsBT6hSvgDD2gCE1nkwSaqjlgUK2gDbjHvwNzE8DzB8H1qBmiB7li2hn9kB
     81ChjgF6C2BFpP/B3jBynhthhBWogCa8gEhgWxBrkDjsuiuhuhBk3FgB48tBrkonhulE6H6lW3kwjsjD2kC+mrkgvrkB3
     opmBno9irkhB+KzstisjplB3nuiqmonEyhC7"),
  ("Zl", "IBog"),
  ("Zp", "IBpg"),
  ("Zs", "BggD/gFO/gCL/qBkgBvgDdgg")]

end IntentSelect.Unicode
