import IntentSelect.Unicode.CharSet

/-!
# Classes of characters

Four classes of characters, for showing text and for telling names.  They are those of version 17 of
the standard; the properties that a pattern may name are those of version 16 (`Unicode.Property`).
-/
namespace IntentSelect.Text

open Unicode

/-- Letters, and the marks that count as letters. -/
def alphabeticSet : CharSet := CharSet.unpack
  "Ch5m5Bvgqgkgl2h+hOpkruknghgC2g9xhhijhgmghihghzhCyhEqoFlhBligmBoBnthghhhhhgo6kj9qlB3hmuDlhnknkiqi
   igwBvtDk4Bgphkgl3iyz4nql3hmngoBpqrjmmCrhvhikutyhnihi1hmhgjjjnihihhgogkhhkshqgkihlkhi1hmhhhhhhkk
   khihkgnjhgxlrihohih1hmhhhkjohihhjgvj1jkihnihi1hmhhhkjnihihphkhhktgwhhljihjjhhghhjhjijrkkjihijgm
   gBoshih2hvjnhihiohhihhij8jhnhih2hphkjnhihiohlihjtisshihBoinhihihgljnk2lhihxj3hohgimolhghnyhtB5l
   mmgBzhhghkh3hghyhiikhgmgujBggB/nhBjkykvhBjCjB2hgikwB/qjiBlhglgiBqhKshjimhghjiBohjiBghjimhghjiuh
   B4hjiCiBlvwC1iljTriwh5lCqjqnzr0szsshihhsBziyugkgCjC4nBqlClq+hrko39ikrBrk5B27kB+izByg3hriBxBzhuh
   nBzBpijqBrhquB22iqBjiqlBqiiBpjhlhhjglF/zBhrI1iliBlilinhghghgh+iB0hmhgjihmjjilkslihmD0gtgwsDlgkg
   iphgjkmghghghjhqijlkkgxBoZtBzBY2HkmjjhsBlhglgiB3ngw2pmhmhmhmhmhmhmhmh/BvgO1i5onkikkC1mihC5hjlBq
   hC9x/BwvQgGN/CgVUsCjBtiIsjvqh0BulnjDwBnoiDmiCx00hBg4BzsCjhgBsljghiqBglBit8jByhrvgwvqkhB2pty2jCk
   hghg4iivijrlililpmhmhBqhtmD61Kdjs2kBwIIkLtiDpBmmsklrhshkhghhhhhDrBhLqyB/iB1BorD0khEmBk5m5rC4jli
   liliiBjrh5hyhhhuitBiD6ClB0Ir8jBwBv/t9lBql9iBjknhkBqE9yBjkBjkBnoBzsqhuhmhhhqhuhmhhjBzsJ2p1qn4lhB
   phoCllighBrhhjgi2q2p+Chyhhq1q5m5BmB3mhCgjhhlnhih8Bq8j8Bjnh77B1q1qytxDuCoB3BytBytBnBi7jgl2H6Bphh
   jhwlByij8qgo1BqxBu072pClBrkqB4pgt43ByxjoBijgpB/hjphqghgBjxhBhigmjB+mhghjhuhpnB43jhnihi1hmhhhkjn
   ihihjgmglm8phgighBlhphgighjhhjghgBsChhihj0i+ChihhgF4B1im5lBiB+hgjgB7B1igCn6it1mF5B4DnB//niginhh
   h9hhihijC9niBtilhghh7ByipxCnlgyCoDnnC4Bg/ohBshmhgBx9i1htCpmhhhBrjghhhihgih4lhhhBkhhhjhg3BrIk2pw
   hBojiDvgCvc5DmDuxGjCSsDgvBBvxl5Dc6lSmGV5BuBWxR4n+xCux9yBvwj/0lyNwBsGzB/Bg4i4BsCqkB4nwCghhgsmpHG
   1Bp/DhDyIP9jhmhhhJivg9iigujoMrCIkDqlsjonpkgFbhC0hCmhhigihijhrhghmhCghjinhmh7hjhkhgjmhKzi4h4h+h4
   h+h4h+h4h+h4hnBZ0+mlG1mhwimhhhklB9BhgDwBsqmwgKh9yBrPk7Hk9igGv+h1ohHgmhjhhhuhGkB7CjjgjgBF0jh6hhh
   gighphjhghgmgkghghghihhhgighghghghghhhgijhmhjhjhghphwlihkhwT05m5m5DT2BJW/BgEI9iFUtiHJwvTtCNiQ9B
   PiEaqlIJp"

/-- Numbers of any kind. -/
def numericSet : CharSet := CharSet.unpack
  "BwpD4hlgiiBNhpEmpGmpM8pD2pklDspD2pD2pilDusDzpomDnpDomnyDtpDgpD2pCmzIspCmpWvzbxiHvpmp2pJspEgqFlpm
   pF2pC2pEmpmpBA2gjlmpGmByikW2B7Cu1T29BLpgYpg5ouiK3jEqp+nhuBgpBnucbgpF8pKglE6pBmpGmp2pC2pM2pUY2pP
   tBssB4xhK16Bkj9gogEmkGqpdun5mBnoCrk2lFghiviBtCgoB0h+iCrkDon4nBpmKqlBwpmpI2+E+pBqjDwmEm9EgpB8pEw
   pnzH7pK2pD2pL2pDmpmzCsrNkyC9pU2pC28HjpCmpB2pLmpDm0BBrDuPGhpCJmpC2pEmphmQupIm2K9iXH5pBOmzszDs4BC
   1BxCKgpNmpP2pH3pWsoEgpY3B6hihjCsBshueisCXjp"

/-- Marks that extend the character before them.  The two half-width sound marks, which take up room
of their own, are not counted. -/
def extendingSet : CharSet := CharSet.unpack
  "YgDvIzmInBshghhhhhgCoqBw0wgDlmilihhjBjg+6C7qB6opg4jhohihkBriB7oBq3h/B3ghgknkgjmqh9gB6ghgijogpgqh
   6gihB5gkhkhiijg+hjgrhB5gkkhhkg0h2lhgB6ghhhjogniqh+gB7ghgsgpgBogjgB3ghilihjnhrh9gB6gihhgjihjnhrh
   8hB5hhgijogpgqh9gCogkgiihgogCxgimsnDigiormCph7ghghgB3thkhhlqhBjpgDmjhlhhih5hkiwjtgihmgvgV/idyj8
   i9h+hCghhmogiqpgBtihgD1hBigD2ikhpgmiG7higB6ghmhghginmpigBwBtir0jBwpkiBmoshBgjilB4ghhjghkB4nihE4
   ihshmkgmgjhGmB/QsgGjBgCf+iEtgDg/RqlDphdO0jhpBghCwhIwgjgkg5hlgE3h6xtgBmn5qhgBsiBwgijihigBkgCjlih
   ihsgogBvgBzghiihlhhgBqhogHugigkgTZwgXhvwvetgHigE1kBUmihhljBoikgFlhR9jChkJ9hCtlCmqBxjD7gB2uBpgih
   qiBxjihngB9iBkkhnB+gshB0ohgojigC/iijmgigE9gjn1hB5hhghgsgpgumjkCjgilhgighikihguhC1niihg3gCxgilhg
   ighhhhHrgijmhhh7hC1nighhDqghginDlghgijhkIjohhH1gqjkgEwjihkgBgpBolijogpliiBushhGmghihgGpmhlhgCy1
   imhhhhD6ljghhhmhgCohjghgK7hrhB0kli3gFHlgmuLGorjiCOgkB7mBA4gB/jCxgrhTFrhEThBti2Q+kjlonim+jE0iBd7
   B2kBxogug2khuBKwmhwimhhhkDkgFgmL3gB9jP8jH+hHzgignhlgO6mDtmYFW1C/EgHv"

/-- Characters that are not shown as themselves: controls, formats, unassigned and private code
points, fillers and all else that is ignored by default, and all separators except the space. -/
def hiddenSet : CharSet := CharSet.unpack
  "g/C/BhsgVhgBohmjnghg0gMtgBmhByhjgB3n7jmw2gGggBwhB7hDltB7hBxhvg8hhgrkBgmCrgFhgohih2gnghikhphihknh
   jiglh5hjgmjih2gngigigihhgljihjihmkghmxpjgpgjg2gngiglhqgjgjhhukhsmngjgohih2gngiglhphihjmjjiglhyp
   igmijgkiighgiiiijisjlijgkhhlht1ktgjg3gwhpgjgkmigjgihkhqm2gjg3gqglhpgjgkmikjgkhqgjrtgjgBzgjgmjwh
   6gjgyi4gpghhnihjmghgolqhjrB6j9Bkighglg4ghg3hlghgngqhk/CogBkjBngBkgvgtBkGmghkhhEvhHogkhnghgkhBpg
   khBhgkhnghgkhvgB5gkhCjhBgi6lC2hmhUgg8iC5m2o4o0rtgjgirB0hBohqlqlrkqlC5mBrkCmp/gsjsjhiBqhlqBsj6lr
   iB+hChg9hrlqluhBuhszCtgFmnB8iviB+kBrhrnBrkQ2hmhBmhmhoghghghg/hB1gvguhmgzhjgpw4nBvwih7gtiBitBhuE
   sjU61r0BY0hL+kBtghkhhB4mit4ongngngngngngngngD+Bh6gC5rG25wgB/gC2hDnkBrgBzgBqgC2oBwgcTtiB3oK8zF4n
   G9zB8iqlB4nCmnslD0q+iCugrjBhgB3ouhqhDn38pmhmhmongngB8jD+hqlKdkr3jBxjCAgGH/LuhDqBlnrlk6glghgigig
   Uq/wvqlBzgzgkjlgEnjE/g+imhmhmhjingnsihsg6gzgigvhuBhD7kjjBtiC4gtihBuBuEh9iBxu8jBko+kBrk+gBljuBpE
   +hqlBkjBkjBonB0qsgvgngigrgvgngiiB0rJ3o2po3mgBqgpCkmhhgBsgiihh3gConpBvzgikBhi7k7BlB4j0hBygikogjg
   9hjjqmpmCg/BnjsoB2i9h7k6mkrnCvCpB2BzsBzmBunqlBmi9niGv/gBqgjhivmnpBgBunBq16Bl8z3oCujBkoB+gls5mql
   B1gynBnoDgg0qygBvB9nghgkgvgrlB7kqlkgohih2gngiglgqhihjhhlhknhnilqqghhhgBmgqghhhgkgqgini8C8gl9Con
   qFlB2hBmBhClqqltyB6lql077hvj3F4B8DjCzrohhhogig+gihsoqClohBuhr6ConCzsCpmqC1oC3BitqlpgBtgup9iBgh2
   guCongigBsihgigpnqlmgigBlgigmmqlBsjqH15mxgBpi9C0huBysc7DlDvglqGkCSrDjsBBwv2pDc7kSnGV4B6BWlR5m/g
   qjCxgql+hmpCmpqgng1kzNvB6GlC7k5h5BrCrjB5mxB/lqnoHG2BoBgDgDzIP8kgngigJjuh8jhhtknMsCIjDrktipmqhkD
   a/H9iN0l3uxuBuh3oD0B7H2pBnhCqnDw0CmD50r0rC3o5EmC1gCngihhhihkgsghgngChgkhogng8gkglghingK0hJkhV+u
   lgvBCv/lmG0ngxhngiglkB+BghDvBtiuhqjiJ//wB6khOvBqG1BrjhF//g2niG/ngkgigvgGlhwBoCsjqjiYwCkCrB9Ghkg
   7gighhhgqgkghghlhjhghghgjgighhhghghghghgighhkgngkgkghgqgxkjglgxBziItBsjDkrvhvgvgBlpFuB39sBsjpmi
   tmE5e5ixitiG6lsjhusjB4nqlBon+hsjitpBmK4nuhtiriB5ghjwhsjqmEzgDnBAkBJXg/EI+hFUuhHJxuTuCNhQ+BPhEar
   kIJqbScl"

end IntentSelect.Text
