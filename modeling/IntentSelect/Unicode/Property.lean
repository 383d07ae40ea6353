/-!
# Binary properties

The characters that have each binary property in version 16 of the standard, packed.
-/
namespace IntentSelect.Unicode

/-- The characters with the named property. -/
def binaryProperties : List (String × String) := [
  ("ASCII_Hex_Digit", "Bwpnl6l"),
  ("Alphabetic", "Ch5m5Bvgqgkgl2h+hOpkruknghgC2g9xhhijhgmghihghzhCyhEqoFlhBligmBoBnthghhhhhgo6kj9ql
     B3hmuDlhnknkiqiigwBvtDk4Bgphkgl3iyz4nql3hlogoBpqrjmmCrhvhikutyhnihi1hmhgjjjnihihhgogkhhkshqgk
     ihlkhi1hmhhhhhhkkkhihkgnjhgxlrihohih1hmhhhkjohihhjgvj1jkihnihi1hmhhhkjnihihphkhhktgwhhljihjjh
     hghhjhjijrkkjihijgmgBoshih2hvjnhihiohhiigij8jhnhih2hphkjnhihiohmhhjtisshihBoinhihihgljnk2lhih
     xj3hohgimolhghnyhtB5lmmgBzhhghkh3hghyhiikhgmgujBggB/nhBjkykvhBjCjB2hgikwB/qjiBlhglgiBqhKshjim
     hghjiBohjiBghjimhghjiuhB4hjiCiBlvwC1iljTriwh5lCqjqnzr0szsshihhsBziyugkgCjC4nBqlClq+hrko39ikrB
     rk5B27kB+izByg3hriBxBzhuhnBzBpijqBrhquB22iqBjiqlBqiiBpjhlhhjglF/zBhrI1iliBlilinhghghgh+iB0hmh
     gjihmjjilkslihmD0gtgwsDlgkgiphgjkmghghghjhqijlkkgxBoZtBzBY2HkmjjhsBlhglgiB3ngw2pmhmhmhmhmhmhm
     hmh/BvgO1i5onkikkC1mihC5hjlBqhC9x/BwvQgGN/CgVUsCjBtiIsjvqh0BulnjDwBnoiDmiCiihhghn1zhBg4BzsCjh
     gBsljghiqBglBit8jByhrvgwvqkhB2pty2jCkhghg4iivijrlililpmhmhBqhtmD61Kdjs2kBwIIkLtiDpBmmsklrhshk
     hghhhhhDrBhLqyB/iB1BorD0khEmBk5m5rC4jlililiiBjrh5hyhhhuitBiD6ClB0Ir8jBwBv/t9lBql9iBjknhkBqE9y
     BjkBjkBnoBzsqhuhmhhhqhuhmhhjBzsJ2p1qn4lhBphoCllighBrhhjgi2q2p+Chyhhq1q5CmB3mhCgjhhlnhih8Bq8j8
     Bjnh77B1q1qytxDuCoB3BytBytBnBi7jgl2H6BphhjhwiB3gj8qgo1BqxBu072pClBrkqB4pgt43ByxjoBijgpB/hjphq
     ghgBjxhBhigmjB+mhghjhuhpnB43jhnihi1hmhhhkjnihihjgmglm8phgighBlhphgighjhhjghgBsChhihj0i+Chihhg
     F4B1im5lBiB+hgjgB7B1igCn6it1mF5B4DnB//niginhhh9hhihijC9niBtilhghh7ByipxCnlgyCoGnBg/ohBshmhgBx
     9i1htCpmhhhBrjghhhihgih4lhhhBkhhhjhgKn2pwhBojiDvgCvc5DmDuxGjCSsDgvBBvxl5Dc6lSmGV5BuBWxR4n+xCu
     x9yBvwj/0lyNwBsGzB/EgCqkB4nwCghhgshuFf3oBG1BppIXnjhmhhhJivg9iigujoMrCIkDqlsjonpkgFbhC0hCmhhig
     ihijhrhghmhCghjinhmh7hjhkhgjmhKzi4h4h+h4h+h4h+h4h+h4hnBZ0+mlG1mhwimhhhklB9BhgDwBsqmwgKh9yBrPk
     7Hk9igPvmhjhhhuhGkB7CjjgjgBF0jh6hhhgighphjhghgmgkghghghihhhgighghghghghhhgijhmhjhjhghphwlihkh
     wT05m5m5DT2BJW/BgEB5mG9iFUhuHJwvTtCNiQ9BPiEaqlEC/"),
  ("Bidi_Control", "BQ8gGPxh6kB3j"),
  ("Bidi_Mirrored", "Bohyghg8ghg9ghgBtgvgDT+jBa9hCM8hqhB2huhFxgGgjjljgjhjjhjhghgkolghxljphhghnh/ijl
     gphiylhpkihk3ivoj0hnhBB9tCqgijhhhiljlijtMz1ilhtognljgkkhhikkghiihqlihsyhjighgighjlhmi4hrhkjhh
     ihkBqinhBnlghgjklikgjkhgIggQjjjhhhuhipBrnNrpinBTR9llhFihyghg8ghg9ghghhhhBVb3gB5gB5gB5gB5g"),
  ("Case_Ignorable", "BngmgrgBjghgCngkghgkgihP3F/khkgphhgH7mGvglgBxBshghhhhhgBsgrlqqhgBjgq0wgDlnhph
     jBhghg+6C7qB6qkgig43BriBsgnhloBpB5B3ghgknkgjmqhtgvgB6gkjog0h6gihB5gkhkhiijg+hjgrhB5gkkhhkg0h2
     lhgB6gighjognhrh+gB9gsgBygjgB3ghilihjnhrh9gB6gigmglh0h8hB5hkjog0h9gCognihgC6gimroDigiopghmCph
     7ghghgB3thkhhlqhBjpgDmjhlhhih5hkiwjtgihmgvgC+gTgidyi9h+h+hCghhmogiqjglgBtkBzgChhBigD2ikhpgmiG
     7higB6ghmhghginmpigBngo+BxjBwghkhglgBooshBgjihhiB4ghhjghiB6nihCglCyihshmkgmgjhByB+tgBiDkN9ghi
     rititithskohqgigikBxkhphgtgwsBzBgCcrhDxiD9gvgDg/BvgO1gBkjjklgC9lC9ibY2gBHilIugDijhphg8jCwhuBh
     Cug3iDnijhogjgkg5hlgE3h6xtgBmn5qBuiBwgijihxg1hCilihihsgogBjgrgBzghiihlhhg7guhlhhgDkkpiD5gigkg
     TZwgEzwR9vjgsvBigigFpgngmgrgBjghgBvgBthCjg1iQhgHigE1kBAllhBphoSmihhljBoikgFlhR9jBmg6khgJ7hCvj
     CmqBxjD7gB2uBpgihqiBxjihigkgqgByiBkkhnB+gshB0oqjigC/iighhmgigE9gjn1hB5hjgBlmjkCmltghghguhC1ni
     ihg3gC0lhgkhhhHujmhhh7hC1nighhDqghgilhgDlghgijhkIjohhIghhgkgEwjihkgBgpBolijogpliiBushhM2mhlhg
     Cy1imhhhhD6ljghhhmhgCohjghgK7hrhB0klghg3gFG1wmuLGorjiCOgkB7mpjP8iBohPigB/wCghhhQArjhmhhDE+hhj
     ES8Bti2Rgipvim+jE0iBd7B2kBxogug2khuBKwmhwimhhhklB9BhgFgtLwgB9jP7kH+hXgmDtnCVvkYDAhg+C/EgHv"),
  ("Cased", "Ch5m5Bvgqgkgl2h+hGihjkGvhBjnh+kDggBqjihijhgmghihghzhCyhEqoFlhBlpBoCY3BlhglgiBqhjVgC1il
     CEiqlBqiiCgF/CgI1iliBlilinhghghgh+iB0hmhgjihmjjilkslihmD0gtgwsDlgkgiphgjkmghghghjhlkgijlkkgx/
     jhZxBzBY2HkmjjhsBlhglgeIyBty9EkDljjhB9ihhghn1khiZ1BqhtmCvTagmskBAp5m5BFlCvDgBjkBjD0qhuhmhhhqh
     uhmhhOjgiihBphoBGlBytByC91q1CY6B/VLgB/ZMgC0hCmhhigihijhrhghmhCghjinhmh7hjhkhgjmhKzi4h4h+h4h+h
     4h+h4h+h4hnBZ0phzmlIlB9CEyCjBfs5m5m5"),
  ("Changes_When_Casefolded", "Ch5C6gq2hnBgghghghghghghghghghghghghghghghghghghghghghghghghghghghgi
     ghghghghghghghghhhghghghghghghghghghghghghghghghghghghghghghghhhghghghhhghhhiijhhhijhhhhghghh
     hgighhhihghhjgnhhhhhhghghghghghghghgighghghghghghghghgihhghihghghghghghghghghghghghghghghghgh
     ghghghghghghghghghghghghgnhhhighjhghghghgH2gBqghgjgogmghihghhhwho2gsijhhghghghghghghghghghghg
     hghhihhghhiByBwghghghghghghghghghghghghghghghghgpghghghghghghghghghghghghghghghghghghghghghgh
     ghghghghghhhghghghghghgighghghghghghghghghghghghghghghghghghghghghghghghghghghghghghghghghghg
     hghghghghghghghghghghghghgiBlBwgCY4BlhglgZqlCEipmBqiiKgghghghghghghghghghghghghghghghghghghgh
     ghghghghghghghghghghghghghghghghghghghghghghghghghghghghghghghghghghghghghghghghghghghghghghg
     hghghghghghghghghglhighghghghghghghghghghghghghghghghghghghghghghghghghghghghghghghghghghghgh
     ghghghghghghghghghghghghgpnolqnonolrghghghgonwBviiilliilrjskliilJpgjhmgBtvzgZy5BZwBvBwghiighg
     hghjhgigoihghghghghghghghghghghghghghghghghghghghghghghghghghghghghghghghghghghghghghghghghgh
     ghghghghghghghgoghgkgeKtghghghghghghghghghghghghghghghghghghghghghghgzghghghghghghghghghghghg
     hghgEnghghghghghghgjghghghghghghghghghghghghghghghghghghghghghghghghghghghghghghgqghghhhghghg
     hgkghgighgjghghghghghghghghghghkhkhghghghghghghghjhghhjglghghghg4gb6CvTagmskBAp5BGlBnEoBjE8qh
     uhmhhBXqByE91CZ6/VMg/eVgBh"),
  ("Changes_When_Casemapped", "Ch5m5B6gq2h+hB/hCzh7itihhgkC8hxm6hhhghhjhhjhkighhigngighhjllgqhFmgBq
     jihjihgmghihghzhBujBghkhEkoFlhBlqBmCY4BlhglgiBqiiVgC1ilCEiqlBqiiF5gjgwgDxE7ighD1iliBlilinhghg
     hgh+iB0hmhgjihmjjilkslihmJpgjhmg7gx/jhZxBzBY2DwhhhhnDlnjjhsBlhglgeIyBty7EmtiB9pujiikh4h9ihkm4
     ha8g8CvTagmskBAp5m5BFlCvDgBjkBjD0qhuhmhhhqhuhmhhBWjBytByC91q1CY6B/VLgB/eUgCj"),
  ("Changes_When_Lowercased", "Ch5Dl2hmBhghghghghghghghghghghghghghghghghghghghghghghghghghghghgigh
     ghghghghghghgighghghghghghghghghghghghghghghghghghghghghghghhhghgjhhghhhiijhhhijhhhhghghhhgig
     hhhihghhjgnhhhhhhghghghghghghghgighghghghghghghghgihhghihghghghghghghghghghghghghghghghghghgh
     ghghghghghghghghghghgnhhhighjhghghghgJhghgjgogmghihghhhwhoBjgoghghghghghghghghghghghglgighhiB
     yBwghghghghghghghghghghghghghghghghgpghghghghghghghghghghghghghghghghghghghghghghghghghghghhh
     ghghghghghgighghghghghghghghghghghghghghghghghghghghghghghghghghghghghghghghghghghghghghghghg
     hghghghghghghgiBlCapBlhglgWyC1CEzgmBqiiKgghghghghghghghghghghghghghghghghghghghghghghghghghgh
     ghghghghghghghghghghghghghghghghghghghghghghghghghghghghghghghghghghghghghghghghghghghghghghg
     hghgpghghghghghghghghghghghghghghghghghghghghghghghghghghghghghghghghghghghghghghghghghghghgh
     ghghghghgpnolqnonolrghghghgon4nononokrkrjskrkJpgjhmgBtvzgZy5BZwBvBwghiighghghjhgigoihghghghgh
     ghghghghghghghghghghghghghghghghghghghghghghghghghghghghghghghghghghghghghghghghghghghghgoghg
     kgeKtghghghghghghghghghghghghghghghghghghghghghghgzghghghghghghghghghghghghghgEnghghghghghghg
     jghghghghghghghghghghghghghghghghghghghghghghghghghghghghghghgqghghhhghghghgkghgighgjghghghgh
     ghghghghghghkhkhghghghghghghghjhghhjglghghghg4gVZr5BGlBnEoBjE8qhuhmhhBXqByE91CZ6/VMg/eVgBh"),
  ("Changes_When_Titlecased", "Dh5B6gBp3hnhghghghghghghghghghghghghghghghghghghghghghghghghghghghgi
     ghghghghghghghhhghghghghghghghghghghghghghghghghghghghghghghgighghiighgigjglgigjiigighghgigkg
     igjghgigjghgkghhhhhghghghghghghghghhhghghghghghghghghihghgjghghghghghghghghghghghghghghghghgh
     ghghgjghghghghghghghghgogihhgkghghghghlhhhghhjhhjhkighhigngighhjllgqhFmgBrghgjgjiyg7Bihhjihgh
     ghghghghghghghghghghkhgigigB0Bvhghghghghghghghghghghghghghghghghgpghghghghghghghghghghghghghg
     hghghghghghghghghghghghghgighghghghghghhhghghghghghghghghghghghghghghghghghghghghghghghghghgh
     ghghghghghghghghghghghghghghghghghghghghghgBxBmDTwlCEiohgHugjgwgDyghghghghghghghghghghghghghg
     hghghghghghghghghghghghghghghghghghghghghghghghghghghghghghghghghghghghghghghghghghghghghghgh
     ghghghghghghghghghghghghghghmlghghghghghghghghghghghghghghghghghghghghghghghghghghghghghghghg
     hghghghghghghghghghghghghghghghoolqnonolqnonotinononokhhmgjihhojihonqihhK2gBhvkgar5BamBvhgjhh
     ghghgmgigqghghghghghghghghghghghghghghghghghghghghghghghghghghghghghghghghghghghghghghghghghg
     hghghghghghghghgoghgkgsBlhglgeIzghghghghghghghghghghghghghghghghghghghghghghgzghghghghghghghg
     hghghghghghgEnghghghghghghgjghghghghghghghghghghghghghghghghghghghghghghghghghghghghghghgqghg
     ighghghghgkgkghhighghghghghghghghghgrghghghghghghghgkghgigjglghghg6ga8g8CvTagmskBBp5BGtBnEoBj
     E7qhuhmhhBYjByD91CZ6/VMg/eViBh"),
  ("Changes_When_Uppercased", "Dh5B6gBp3hnhghghghghghghghghghghghghghghghghghghghghghghghghghghghgi
     ghghghghghghghhhghghghghghghghghghghghghghghghghghghghghghghgighghiighgigjglgigjiigighghgigkg
     igjghgigjghglhhhhhhghghghghghghghhhghghghghghghghghhhhhgjghghghghghghghghghghghghghghghghghgh
     ghgjghghghghghghghghgogihhgkghghghghlhhhghhjhhjhkighhigngighhjllgqhFmgBrghgjgjiyg7Bihhjihghgh
     ghghghghghghghghghkhgigigB0Bvhghghghghghghghghghghghghghghghghgpghghghghghghghghghghghghghghg
     hghghghghghghghghghghghgighghghghghghhhghghghghghghghghghghghghghghghghghghghghghghghghghghgh
     ghghghghghghghghghghghghghghghghghghghghgBxBmCaoBqiiX4lCEiohgHugjgwgDyghghghghghghghghghghghg
     hghghghghghghghghghghghghghghghghghghghghghghghghghghghghghghghghghghghghghghghghghghghghghgh
     ghghghghghghghghghghghghghghghghmlghghghghghghghghghghghghghghghghghghghghghghghghghghghghghg
     hghghghghghghghghghghghghghghghghghoolqnonolqnonotiB0hhkghgjihhkgjjihonqihhkgKxgBhvkgar5BamBv
     hgjhhghghgmgigqghghghghghghghghghghghghghghghghghghghghghghghghghghghghghghghghghghghghghghgh
     ghghghghghghghghghghgoghgkgsBlhglgeIzghghghghghghghghghghghghghghghghghghghghghghgzghghghghgh
     ghghghghghghghghgEnghghghghghghgjghghghghghghghghghghghghghghghghghghghghghghghghghghghghghgh
     gqghgighghghghgkgkghhighghghghghghghghghgrghghghghghghghgkghgigjglghghg6ga8g8CvTagmskBBp5BGtB
     nEoBjE7qhuhmhhBYjByD91CZ6/VMg/eViBh"),
  ("Dash", "BtgBK8gBzgDShgBAlgCAplB9gBngvgMmgDAkgig/hkg8gN+gzgDvgBTMwhBlgqgFpgDTggJ+g"),
  ("Default_Ignorable_Code_Point", "FtgVhgWsgCaihBSzhC1kBf7k6kBxvEH0gBTE7vHvgFggCvoBPFnjFGvnYLUl
     Df/"),
  ("Deprecated", "KpgBJpgCIjghgCBphCGllV5hbXG2g"),
  ("Diacritic", "C+ghgCngmgkgihP3E+hnllxhkgphH9kGxgB3BshghhhhhgEjnkhEmhkhjiCj6C7qB6qBihD+nBppw7B9gw
     gjj8gCqgwgDugwgDugwgBviB8gwgngD3gDugwgDugwgDthwgD8gDvgslhgDrgtkCrh7ghghgkhCiihhB+gDwghhBohkk5
     mhgqhWhid0h+gE0qpgK7iJkg0nigBwuiqDogvgBmoB2hB6grhCihCglCy4kgmgiiByB+BwBjlrBlqN9ghirititithDHw
     iJ9gP6lDpjC/gdLygshhg8hCyhuBhDmiDthsgBlgE3g7xB5jBkgC/gsgBkgE1iChjBzgDkkpiEghTZwgYhvIughgBvgBt
     hCjgX8gBE/lhBphoT9ikgFlhR7lBmg6kMviCmqBxjGggBpgCohD4hB+gCsgpiDohFyhCwhwg4mjkC5ihhthC/gjgD7hH7
     hD+gD2hDzgIthIihkgE8gCzgygCxgNlgIighhCxgNph3gFHsuLG5gCOgkB7mR0hRiwCwhPf+jhmhhHYhBti2Rgijlonim
     +jDUiB9GimL3gB9jX+hXgmDtihi"),
  ("Emoji", "BjgmglpDvgkgHctgsgG4g2gC6lvhLvhsgFmg5qkiGngHnhqgpgB6jhkpgigihigkgighhigjgjhoilghglrrhi
     ghhhgygihylhghhjhlgihkhrhlhiglhhghh0hllhjigkgigilhgighghgmgjgmgqhvgigkghgkihgrhBwipgugugL0hOv
     izhBzgkgBG6gsgS5ghgDPLqgGqgFghshugipCr5hh3g0gio1hFuBhiDvihhiiCyiihImhB+rlh3nhinsgijigkhthigoh
     pglisioiighgkgmgjgmC1BwCllniikpjghhjgipHjrkgI7BuhphF4DwsjplB3nuiqmo"),
  ("Emoji_Component", "BjgmglpHezgG1gBXJrgBce25P7kBNwjYBTsC/"),
  ("Emoji_Modifier", "Dcf7k"),
  ("Emoji_Modifier_Base", "JQ9gG7gwjDTD3gB8iigiiD1hiq1yjgkihinghg4gGphkg1gkhFuijkCzgwipgrgR/gigonmg
     ppiiB4gB9hhhhgxihsHliBqo"),
  ("Emoji_Presentation", "IY6hGtjjgigQph1hByrBrgzgtgohxhlhoglg1gnhhgkgigngkh8gBjghgkihgB9i4guga7hBz
     gkgDRFugGqgF+gipCr5hg4g0gikhi1hFuBgsohClh1sBqkkswjgjCmhghF6iB+tjh3yg6htgC2C0BwClmgjiiikjrhnoH
     jrkgI7BuhphF4DwsjplB3nuiqmo"),
  ("Extended_Pictographic", "FpgkgHctgsgG4g2gC6lvhLvhsgC/gCmg5qkiGngHnhqgpgB6jhlhrhDxqD1iqhghgmgjgm
     gqhvgigkghgkihgrkBtipgugugL0hOvizhBzgkgBG6gsgS5ghgDPLmH/ti/gB8lshugipyB47uqg0giohjpNxlJ9oIpBw
     D/D0rC1BqsjB4nqlBon+CxsBuhphN4Igf9"),
  ("Extender", "F3gQ4hbugN5gT2gEpgC5gXwgD/gCKjgB4gTjgMugCkgEcpgBrkDnhC9ibY2gBP2geig2gEpgDsg1hVD7gCA
     whBOrg7gkgBGngJlgD0hPyiBGvgUFphBE8hhgcK4hBFxga0i"),
  ("Grapheme_Base", "BgC+BhshSxDwnilkmhghzhG/nFlhBliBxiiBughgigigp6klxprghBt1vhDkogmhigk/igh99C4rgu
     Bqpmj3kgpgjgnuh4lghql+xBpB5B2hghjojhinpi8hhhnihi1hmhgjjjghhmhihhgthhik3lghlkhi1hmhhhhhhki4jhg
     npiihgsghohih1hmhhhkjjoghhjgvhkrngohhnihi1hmhhhkjgigmhihvhhikxrghljihjjhhghhjhjijrlghhjihijg1
     0mihnhih2hvjgjjziigihkpnphqhih2hphkjhighh4hhhkphiuqhihBoighhlihihhkihpk5ihhxj3hohgimphmmnpiis
     BvhhrnosBlhhghkh3hghphhpgikhgppijBg3i6hghghthBjyglgikBxnhlhsBlBskgmgihi4ijjvkshhilhuhBnhglgiL
     4hjimhghjiBohjiBghjimhghjiuhB4hjiCil8j5mC1iliU8jC4nxtyjhpxushivBzignnhhrojpmpmqlpmC4nkiBhhglC
     lq+kjiikhhlngjBpikrBrk5mqjB4ihjB3hgpghholtpmpmtC2Bvqjjnh8pri/khmB3hgiihgtBvohlujB9lBqiqrgtgnj
     hlhiiglF/CgI1iliBlilinhghghgh+iB0huhtilhyiihohql3nBwwhi6hsjBgB/ErkU52q1BYzi/hK3jhlBshglgiB3nh
     v2pmhmhmhmhmhmhmhmBhC9Bi5hC4sG16B5mvhC1kDklBqhC9hC1pBvhcTsjB2pK70Bukgq/iCviloGtihhghn1vhihjh4
     ikkpmB3oCjqr4shBlo4rgs9mBvhhkhihhshqkmh4hBomhihrihnhgipi/hByhgjhikighg4winrlililpmhmhB7kD0hhh
     jjpmKdjs2kBwIIkLtiDpBmmsklgh3hkhghhhhhD8wN8iB1ngBgvwp2BihyhjkkhEmkE8i+jlililiijmhmthirh5hyhhh
     uitBiD6likBsjC3hsjgBvBsEj8jBww6kBjp9lBlq9hBkktBqE9ipmBjkBjkBnoBzrrhuhmhhhqhuhmhhjBzsJ2p1qn4lh
     BphoCllighBrhhjgi2hCnooBwyhhlBgj6lgCgB3kziBuvjhih8qononB/BgBkmrpB1j8i6l5njsmCwCoB3BytBynBpspm
     Blo3ohGw+hBpjgihwiB7Bno1ro2xkjBm702pghB1vmk9hhigsBwkhihhju4nppBjlgpxoBihirBzpghnkhhvhzrxh7jhk
     lhhB/mhghjhuhqmBuhitpohhnihi1hmhhhkjghghjihihjgsm8phgighBlhghhvghhjghihhBnB3ohjgh0hghi+Bvhhmg
     hhhgigijopFmBuhhmjigi6BkByohhgijrpmszBqhghhohmpmz86jghhkgp2F5BupgigDkCysniginhhh3hkhhmjhippCm
     niBpojhj7gqBnmhknpgmhjBttgiotConpF2BhupmohBlughlq8j/5gngigCrmhhhBl1gppmlhhhBkkhhghgnpJ2yijpuh
     Bjohj2C2gvBxtc6DmDuhkrGjCSsDitBBvxl5Dc6lSmGV59sijpBWmR4n+hpkCwhpm9ngqBvnuqphmh0lyNwB5GmC6DlCq
     lB3rsCgj8Ff3oBG1BppIXnjhmhhhJivg9iigujoMrCIkDqlsjonpigigDbgH5mNzE8DzB8H1qBmiB7li2hn9kB81ChjgD
     6zszsC2p4EnC0hCmhhigihijhrhghmhCghjinhmh7hjhkhgjmhKziJjiRxB3jBynhthmBD0+mlIlB9EyBsqmipkhKg9yB
     rkplgOw7kpG29iqkgPgmhjhhhuhGkioBwCjngkpkhYxCjCsB8Gijh6hhhgighphjhghgmgkghghghihhhgighghghghgh
     hhgijhmhjhjhghphwlihkhwB0hIuBrkDjsuiuhuhBkqFtB48tBrkonhulE6e3kwjsjD2kC+mrkgvrkB3opmBno9irkhB+
     KzstisjplB3nuiqmonEyhDlBAmBJW/BgEB5mG9iFUhuHJwvTtCNiQ9BPiEaqlEC/"),
  ("Grapheme_Extend", "YgDvIzmInBshghhhhhgCoqBw0wgDlmilihhjBjg+6C7qB6opg4jhohihkBriB7oBq3h/B3ghgknk
     gjmqh9gB6ghgijogpgqh6gihB5gkhkhiijg+hjgrhB5gkkhhkg0h2lhgB6ghhhjogniqh+gB7ghgsgpgBogjgB3ghilih
     jnhrh9gB6gihhgjihjnhrh8hB5hhgijogpgqh9gCogkgiihgogCxgimsnDigiormCph7ghghgB3thkhhlqhBjpgDmjhlh
     hih5hkiwjtgihmgvgV/idyj8i9h+hCghhmogiqpgBtihgD1hBigD2ikhpgmiG7higB6ghmhghginmpigBw+BxjBwpkiBm
     oshBgjilB4ghhjghkB4nihE4ihshmkgmgjhGmB/QsgGjBgCf+iEtgDg/RqlDphdO0jhpBghCwhIwgjgkg5hlgE3h6xtgB
     mn5qhgBsiBwgijihigBkgCjlihihsgogBvgBzghiihlhhgBqhogHugigkgTZwgXhvwvLuhS9gHigE1kBUmihhljBoikgF
     lhR9jChkJ9hCvjCmqBxjD7gB2uBpgihqiBxjihngB9iBkkhnB+gshB0ohgojigC/iijmgigE9gjn1hB5hhghgsgpgumjk
     CjgilhgighikihguhC1niihg3gCxgilhgighhhhHrgijmhhh7hC1nighhDqghginDlghgijhkIjohhH1gqjkgEwjihkgB
     gpBolijogpliiBushhM2mhlhgCy1imhhhhD6ljghhhmhgCohjghgK7hrhB0kli3gFHlgmuLGorjiCOgkB7mBA4gB/jCxg
     rhTFrhEThBti2Q+kjlonim+jE0iBd7B2kBxogug2khuBKwmhwimhhhkDkgFgmL3gB9jP8jH+hXgmDtmYFW1C/EgHv"),
  ("Grapheme_Link", "CKtgD/gD/gD/gD/gD/gD/gD/gDthwgD8gDvgD/gGpgF0hBW5h+gE9gUtgHjgDlhCmhEMrgeUmgBlgE
     3gEugDsgJ1gH2gXSxgBQmgBpgugB5gD5hErgD0gF0gDigEgiDxgD/gH8gD/gD2gD0gItgIjhFhgCzgygCxgNlgIkhCxgN
     phQPsg"),
  ("Hex_Digit", "Bwpnl6lBfVppnl6l"),
  ("Hyphen", "BtgD/gBG8gET7gCAphDQlgXjgBTLngFpgC3g"),
  ("IDS_Binary_Operator", "LfwhipPxg"),
  ("IDS_Trinary_Operator", "Lfyh"),
  ("IDS_Unary_Operator", "Lf+h"),
  ("ID_Compat_Math_Continue", "FyhlgHd2gjqhuLzgkg2gDNFig5g/g5g/g5g/g5g/g5g"),
  ("ID_Compat_Math_Start", "IQigkg2gDNFig5g/g5g/g5g/g5g/g5g"),
  ("ID_Continue", "Bwpn5kgh5Bvgqghgigl2h+hOpkruknghgxD0hhijhgmkhghzhCyhEqhkiFlhBligmBooBshghhhhhgo6
     kj9qlCpkDlhniphyigwB6iDkuB1kgigiBty7kql3hloCqhEgiphyhnihi1hmhgjjioihijogkhhkirqghgiihlkhi1hmh
     hhhhhighkkhiijgnjhgnvrihohih1hmhhhkiphihiigvjippmhihnihi1hmhhhkioihiinikhhkiphgwhhljihjjhhghh
     jhjijrkkjihjigmgupwshih2hviohihjnhhiigijipwjhnhih2hphkiohihjnhmhhjiphisshihByhihkljnkipqlhihx
     j3hohgimjgklhghnmpihtB5luhpBnhhghkh3hgh2ikhghmhpijBgg3hmprghghgkphBjkzhxhBjpgB5CpmCtiBlhglgiB
     qhKshjimhghjiBohjiBghjimhghjiuhB4hjiCiiipouvwC1iljTriwh5lCqjqn1p1rzsshihhsCzjgkhipBhihqmC4nBq
     lClq+hrkrqBnikrBrk5mqBl7kB+h8iqmptgothvBxCsjpxosDzsB3opjBwiqlBqiiwihBmlQ1iliBlilinhghghgh+iB0
     hmhgjihmjjilkslihmvhBxhzg8gtgwsBzskgjrxgkgiphgilmghghghvijlkkgxBoCT3HkmosBlhglgiB3ngv3pmhmhmh
     mhmhmhmhmh/Qli5uhkikkC1imhC+lBqhC9x/BwvQgGN/CgVUsCjBtiIsj70BvkphDyBloiDmiCiihhghn1B1kgzBzsClq
     pm3jghBwiBjs8jCguqm+hB2ptipm2jCo4iivikqlililpmhmhBqhtmD6hhipmKdjs2kBwIIkLtiDpBmmsklrhshkhghhh
     hhDrBhLqyB/iB1Borkvwvjh4iBgkhEmzpn5kgh5qC5jlililiiBjrh5hyhhhuitBiD6ClB0EogEi8jBwvg//t9lBql9iB
     jknhkBqE9ipmBjkBjkBnoBzsqhuhmhhhqhuhmhhjBzsJ2p1qn4lhBphoCllighBrhhjgi2q2p+Chyhhq1q5CmB3mhCgjh
     hlnhih8iikgBg8j8Bjnh95B1q1qytxDuCoB3BytBytBnopmBljkh2H6BphhjhwiB3BgqgoBg/1Bq072pCm/vpB7ngt4np
     mB0hpkjoBjigpCkkjhshgBjxhBkmjB+mhghjhuhpnB6lpmjhnihi1hmhhhkhpihiiigmglmimjkrphgighBlhphgighjh
     nth9Cqlpkj+ClhgopFmB1io3lBiCgjgrpBmB4npmz86iukpmmF5B6DlCp1niginhhh9hhiospCmniBtinhh7B+ogoCpjg
     yCoGnBgvpmohBshovp49i1htCpmhhhBrjghhhoopmlhhhBkhhhlnpJ22pwhBojktqC1gCvc5DmDuxGjCSsDgvBBvw1qDc
     6lSmGV5B5BWmR4n+hpmCuhpm9ikrB2pjspp0lyNwBsjpGmB/EgCqkB4nwCghhhrhuFf3oBG1BppIXnjhmhhhJivg9iigu
     joMrCIkDqlsjonpjhECxpQmBti2Q+kjlonim+jE0iN7C0hCmhhigihijhrhghmhCghjinhmh7hjhkhgjmhKzi4h4h+h4h
     +h4h+h4h+h4hniBxQgB2kBxogug2khuBCw+mlG1mhwimhhhklB9BhgDwBsjtipkgKh+xB5O2BpG2BqPlmhjhhhuhGkrmB
     pCrkpBFmjh6hhhgighphjhghgmgkghghghihhhgighghghghghhhgijhmhjhjhghphwlihkhwDJ0pBAmBJW/BgEB5mG9i
     FUhuHJwvTtCNiQ9BPiEaqlEC/VXKwHv"),
  ("ID_Start", "Ch5m5Bvgqgkgl2h+hOpkruknghgEhkhhijhgmghihghzhCyhEqoFlhBligmBoCn6kjBtBqBjhhDihgvhnhq
     iigwgh99C4rg4Bgphkgl1kgpgjg34nql3hlxBpB6B1jgygnpvvknihi1hmhgjjjgwgthhiuhqgolkhi1hmhhhhhh/jhgz
     iwohih1hmhhhkjgygvh3grnihi1hmhhhkjg+hhivgxghljihjjhhghhjhjijr2gB0nhih2hvjg6iigih+gknhih2hphkj
     g/hhhvhxohihBoigwglioi4llxj3hohgimB6BvhhsmB6hhghkh3hghphhpgikhg1jBggB/nhBj7kDzBq0gwlkjjgjhnik
     ssgxBlhglgiBqhKshjimhghjiBohjiBghjimhghjiuhB4hjiCiBlvwC1iljTriwh5lCqjqnxtyuxushivBzBjgkgCjC4n
     BohglClq+Bx9ikrBrk5B22pB0CygC9BuxnB29thqBr6BjBpiqBjiqlBqiiBpjhlhhjglF/CgI1iliBlilinhghghgh+iB
     0hmhgjihmjjilkslihmD0gtgwsDlgkgiphgilmghghghvijlkkgxBoCT3HkmjjhsBlhglgiB3ngw2pmhmhmhmhmhmhmhm
     Rmi5onkikkC1kkhC5hjlBqhC9x/BwvQgGN/CgVUsCjBtiIsjvqh0Buw+iCvBnoiDmiCiihhghn1vhihjh29BzuBxB+ljg
     hhr7q258nBu8gwkhpqkhBo3ihn02jgjBxhgjhikighg4iiqnislililpmhmhBqhtmDy9Kdjs2kBwIIkLtiDpBmmsklghp
     hshkhghhhhhDrBhLqyB/iB1BorD0khEmBk5m5rC4jlililiiBjrh5hyhhhuitBiD6ClB0Ir8jBwBv/t9lBlq9iBjknhkB
     qE9yBjkBjkBnoBzsqhuhmhhhqhuhmhhjBzsJ2p1qn4lhBphoCllighBrhhjgi2q2p+Chyhhq1q5CmB3mhCggvjhih8Bq8
     j8Bjnh77B1q1qytxDuCoB3BytBytBjBm7p2H6BpmhwiB78qgo1BqxBu072sB0B5higtBsBg46Bj9gigoBijgsBvuj1ghg
     Bjxh4zhB/mhghjhuhpnBuBmnihi1hmhhhkjgygsk+phgighBlhg5ghgBsB0yj0i+Bv0hhgF4BuBpjBkBv0gB7BqtgCn6B
     lmF5BrD0B//niginhhh3vghgC+niBmwghg8gqBnng1grBtzgyCoGnBg/ohBkxgBx9DwmhhhBl1g5lhhh/ugKnyvghshBh
     D8gCvc5DmDuxGjCSsDgvBBvxl5Dc6lSmGV59BXiR4n+xCux9yBvwj/0lyNwBsGzB/EgCqlgCisCghhg8Ff3oBG1BppIXn
     jhmhhhJivg9iigujoMrCIkDqlsjonpFbmC0hCmhhigihijhrhghmhCghjinhmh7hjhkhgjmhKzi4h4h+h4h+h4h+h4h+h
     4hnBZ0+mlIlB9EyBsqmwgKh9yBrPk7Hk9igPvmhjhhhuhGkB7CjngBF0jh6hhhgighphjhghgmgkghghghihhhgighghg
     hghghhhgijhmhjhjhghphwlihkhwEKkBJW/BgEB5mG9iFUhuHJwvTtCNiQ9BPiEaqlEC/"),
  ("Ideographic", "MAmh5ouielGN/CgUP/WIgLtiDpdIqg7Ff3oBG1BppJDnMrTIkBJW/BgEB5mG9iFUhuHJwvTtCNiQ9BPi
     EaqlEC/"),
  ("Join_Control", "IAsh"),
  ("Logical_Order_Exception", "DSgkD7kCXwiigBEH6highh"),
  ("Lowercase", "Dh5BvgqgkgBk3hnhghghghghghghghghghghghghghghghghghghghghghghghghghghghhhghghghghgh
     ghghhhghghghghghghghghghghghghghghghghghghghghghghgighghiighgigjhkgigjiigighghgighhhgigjghgih
     iimgigighghghghghghghghhhghghghghghghghghhighgjghghghghghghghghghghghghghghghghghghghghghghgh
     ghghghghghghmigihhgkghghghghCkhBjnh+kDggBrghgjgijyg7BihhjihghghghghghghghghghghghkhgigihBzBvh
     ghghghghghghghghghghghghghghghghgpghghghghghghghghghghghghghghghghghghghghghghghghghghgighghg
     hghghghhhghghghghghghghghghghghghghghghghghghghghghghghghghghghghghghghghghghghghghghghghghgh
     ghghghghghgBwBoCanBqhjX4lCEiohgD1F/Chghghghghghghghghghghghghghghghghghghghghghghghghghghghgh
     ghghghghghghghghghghghghghghghghghghghghghghghghghghghghghghghghghghghghghghghghghghghghghgho
     hghghghghghghghghghghghghghghghghghghghghghghghghghghghghghghghghghghghghghghghghghghghghghgh
     ghghoolqnonolqnonotinononokhhmgjihhojihonqihhD5gtgwsDtgjhjg7gkgkgihojkgBhvkgar5BamBvhgjhhghgh
     gkghhhnjghghghghghghghghghghghghghghghghghghghghghghghghghghghghghghghghghghghghghghghghghghg
     hghghghghghghhnghgkgsBlhglgeIzghghghghghghghghghghghghghghghghghghghghghghgzghghghghghghghghg
     hghghghghiElghghghghghghihghghghghghghghghghghghghghghghghghghghghghghghghghghghghghghphghgig
     hghghghgkghgighihghghghghghghghghghglglghghghghghghghgkghgigjghghghghghg2ihghiZ1BqhtmCvTagmsk
     BBp5BGtBnEoBjE7qhuhmhhOjgiihBphoBIlByD91CZ6/VMg/ZM656mhx656jhghmhq65656565656565656784hl64hl6
     4hl64hl64hlhgBZ0phzmlIlB9CF0Bh"),
  ("Math", "Brgwi/g9ghgBtgkgBlg/gW4iig6hiiQviGQtg7irgjgtguj1krkChskgjhkkygkgiphgilmgjhihhihljthgCk3
     hlhhkhk/hgmhuIroj0hC6g+6hg4grmN9hspklkhihjkughgilrnlhB5ghg9jpiKwB/IgP/Bw0ilBTe8gZ3lhgFigwi9gh
     g9ghgEjgmjDNhhBRTwC0hCmhhigihijhrhghmhCghjinhmh7hjhkhgjmhKziJjiBxFQgjh6hhhgighphjhghgmgkghghg
     hihhhgighghghghghhhgijhmhjhjhghphwlihkhwB0h"),
  ("Modifier_Combining_Mark", "BS0higEjgmgjhPhhhijg/g"),
  ("Noncharacter_Code_Point", "BfOw/QuhBff+hBff+hBff+hBff+hBff+hBff+hBff+hBff+hBff+hBff+hBff+hBff+h
     Bff+hBff+hBff+hBff+h"),
  ("Other_Alphabetic", "alg9sSgthghhhhhgCoqBwshmwgDlmkjihkgBjg+vDmqDlhjohihjDqgB8rjmmzB2hiuhhliqh9i
     B6mihihqgqh9iB6kkhihkg+hjgriB6nhihh1h2ikiB6mihihphqh+gB7kjihiqgBokB5mhihiohrh9iB6mhihiohrhvgs
     jB6mhihiqgqh9iCrlhghnyhB9gimygDjgilhhwgFjypqhBjDurhgij3jkihiimjjtrhgqjBT0h+h+h+hCiyF8hBigD2rk
     oG+kB5pizCqhriBxkBwuB8i+oihB5qByyM8BhBWhBzCH2/eD0nBihLigog3kC4hByvhgB5gBmk8rBtjBwrBlgCjtsgohB
     tiByghiihlgBsklgHtnTZzgCC3kBUmihhljY0jChgKhhCvgIjiB1tBthriBtopgB9iBkryhB5iBwsuhC8oigmgigE9p3j
     B6mihihqgqhC0ohgighjhhDnshiDqxHtmim9hCyuhgDqqDntIhsH3lhhihjghgEumilkg8pBqkhjyqButM3nhmCz1htD6
     ljghhhihgjgCikhhhjK8jphhgBwmjiQO9wDRgghB2njC9hTFsgIbhmhwimhhhkDkgCF3gBfo5m5m5"),
  ("Other_Default_Ignorable_Code_Point", "avgDQvhBSzhCFvgEH+gBTR7gCvoaAAngh9DgD/HwDQv"),
  ("Other_Grapheme_Extend", "CN+g4gLmg4gDmg4gHoghgkhhhphDng4gD3gvgCJ1g+gBAgglghglhDlgCnhBA4gEBhheJj
     gDsgVO9hERggD0gIogugpgDggpgighilgHggsgHxgImgT5gsgBQjgUFuhYLzhmlYLVtC/"),
  ("Other_ID_Continue", "F3gWvgDfhoBTogBRxhEHtgBTTpg"),
  ("Other_ID_Start", "GElhCExg1gDbsh"),
  ("Other_Lowercase", "FqgvgP1onh+kDggB0gDMhgDBvB+tgBiBkVxgtgwsGzvaw5BcyheQ+hGygEhijhbijpgXA2giihBp
     hoBWD1B9"),
  ("Other_Math", "C+gbxiig6hihHBgg7irgBgj4huhChskgjhkkygkgiphgjkmgjhihhihljjlkCrkijhhhhhghkihkhkxih
     hghmhgmhJijFohhg4gxgN9hsolklhihjkughgil4hB5ghg9jphK2h/pMz1B/jBghBVDjghgkgGzghgBVGhC0hCmhhigih
     ijhrhghmhCghjinhmh7hjhkhgjmhKzi4h4h+h4h+h4h+h4h+h4hniBxFQgjh6hhhgighphjhghgmgkghghghihhhgighg
     hghghghhhgijhmhjhjhghphwlihkhw"),
  ("Other_Uppercase", "ILgvam5DTDg5m5m5"),
  ("Pattern_Syntax", "Bhuqm6jhg6jBimhghhhghhkgkgjg3g/gHY43ouiyhpJxWvFgT1+BDrQgD/Mhik4vgBTIthIlh"),
  ("Pattern_White_Space", "pkygDkgHcoh4h"),
  ("Prepended_Concatenation_Mark", "BQglG3gBxgMghCwgCBe6gvg"),
  ("Quotation_Mark", "BigkgEjgvgHa8n5hDQngOpjtiBTRhjF9gkgC6h"),
  ("Radical", "LUg5hC4sG1"),
  ("Regional_Indicator", "DcPm5"),
  ("Sentence_Terminal", "BhgsgwgBKpgEziF0gBriH2gB9ghgjhJlhBXkhY2gkhYlgGmhE9hBtglgJ6hLijFihqhih9iF7h
     Chhdkg3hpiDFviJygtg2hNtgdH8gIuhHjgjgL+hC2hC/gE4hEziEwhH5gURmgihB7gjhFpgsgwgChgCX0hBH9kBsjF9hD
     1jD/iEhhmgwhC4hhhDsgJqhD1hL1hluDphH5iQlghgH7hC3hNkhV0hCqhSZphElgChhrgRphJogTQmgHPog"),
  ("Soft_Dotted", "DphGkgI5g+gB0g0gKggDighgGIpgBzgtgjgEkgE9gNlgG2hCZygDJdlhByhByhByhByhByhByhByhByh
     ByhByhByhByhCEmgJxh6g"),
  ("Terminal_Punctuation", "BhgqghgrhjgZ+gogQhgB5gCogughiF0gBrqhgHrhB2lhn/gIlhBH0hFsgklJ3hY1nYlgD8i
     CnhE9ijgBnjihJ6hLijFihqhhi9iF7kB+hdkg3hpiDFviJygtgkgqghhjhNshdH7hItiHjkL+hC2hC/gE3iEziD/gwhH5
     gURmgihB5ihjFpgqghgrhjgChgigBB6gBwgBEmgGngJ2hE4lCklC5jd4kBsjF9mDwjD/iEhhmgwhC4kDsgJqhD1ishLmj
     juDphH5iQlghgH7hC3hkhM+iBtgUlhCqhBJrkRP5hElgChiqgRphJnhTQmgHPnj"),
  ("Unified_Ideograph", "NAgGN/CgUP/WQuhhghhqghghhiiCBO2BJW/BgEB5mG9iFUhuHJwvTtENiEaqlEC/"),
  ("Uppercase", "Ch5Dl2hmBhghghghghghghghghghghghghghghghghghghghghghghghghghghghgighghghghghghghgi
     ghghghghghghghghghghghghghghghghghghghghghghghhhghgjhhghhhiijhhhijhhhhghghhhgighhhihghhjgngig
     igighghghghghghghgighghghghghghghghgigighihghghghghghghghghghghghghghghghghghghghghghghghghgh
     ghghghgnhhhighjhghghghgJhghgjgogmghihghhhwhoBjgiijghghghghghghghghghghghglgighhiByBwghghghghg
     hghghghghghghghghghghghgpghghghghghghghghghghghghghghghghghghghghghghghghghghghhhghghghghghgi
     ghghghghghghghghghghghghghghghghghghghghghghghghghghghghghghghghghghghghghghghghghghghghghghg
     hgiBlCapBlhglgWyC1CEzgmBqiiKgghghghghghghghghghghghghghghghghghghghghghghghghghghghghghghghgh
     ghghghghghghghghghghghghghghghghghghghghghghghghghghghghghghghghghghghghghghghghghghgpghghghg
     hghghghghghghghghghghghghghghghghghghghghghghghghghghghghghghghghghghghghghghghghghghghghgpno
     lqnonolrghghghgonCojsjsjskrjImgkgjiiiigjkmghghghjijqhlg6vzgZy5BZwBvBwghiighghghjhgigoihghghgh
     ghghghghghghghghghghghghghghghghghghghghghghghghghghghghghghghghghghghghghghghghghghghghghgog
     hgkgeKtghghghghghghghghghghghghghghghghghghghghghghgzghghghghghghghghghghghghghgEnghghghghghg
     hgjghghghghghghghghghghghghghghghghghghghghghghghghghghghghghghgqghghhhghghghgkghgighgjghghgh
     ghghghghghghghkhkhghghghghghghghjhghhjglghghghg4gVZr5BGlBnEoBjE8qhuhmhhBXqByE91CZ6/VMg/ZNg565
     656ghhigihijhn656hhjinhm7hhjhkhgjm756565656565+4Bh4Bh4Bh4Bh4BhgEJ1BhCAu5m5m5"),
  ("Variation_Selector", "GArihgBZPwvaAXwHv"),
  ("White_Space", "pkygDkg6gFO/gCL/q9hlgBvgDdgg"),
  ("XID_Continue", "Bwpn5kgh5Bvgqghgigl2h+hOpkruknghgxD0hhjihgmkhghzhCyhEqhkiFlhBligmBooBshghhhhhgo
     6kj9qlCpkDlhniphyigwB6iDkuB1kgigiBty7kql3hloCqhEgiphyhnihi1hmhgjjioihijogkhhkirqghgiihlkhi1hm
     hhhhhhighkkhiijgnjhgnvrihohih1hmhhhkiphihiigvjippmhihnihi1hmhhhkioihiinikhhkiphgwhhljihjjhhgh
     hjhjijrkkjihjigmgupwshih2hviohihjnhhiigijipwjhnhih2hphkiohihjnhmhhjiphisshihByhihkljnkipqlhih
     xj3hohgimjgklhghnmpihtB5luhpBnhhghkh3hgh2ikhghmhpijBgg3hmprghghgkphBjkzhxhBjpgB5CpmCtiBlhglgi
     BqhKshjimhghjiBohjiBghjimhghjiuhB4hjiCiiipouvwC1iljTriwh5lCqjqn1p1rzsshihhsCzjgkhipBhihqmC4nB
     qlClq+hrkrqBnikrBrk5mqBl7kB+h8iqmptgothvBxCsjpxosDzsB3opjBwiqlBqiiwihBmlQ1iliBlilinhghghgh+iB
     0hmhgjihmjjilkslihmvhBxhzg8gtgwsBzskgjrxgkgiphgilmghghghvijlkkgxBoCT3HkmosBlhglgiB3ngv3pmhmhm
     hmhmhmhmhmh/Qli5uhkikkC1ihiihC+lBqhC9x/BwvQgGN/CgVUsCjBtiIsj70BvkphDyBloiDmiCiihhghn1B1kgzBzs
     Clqpm3jghBwiBjs8jCguqm+hB2ptipm2jCo4iivikqlililpmhmhBqhtmD6hhipmKdjs2kBwIIkLtiDpBmmsklrhshkhg
     hhhhhDrBhEqmG5yB/iB1Bopmvwvjh4iBhghgjghghghghD9zpn5kgh5qC5jlililiiBjrh5hyhhhuitBiD6ClB0EogEi8
     jBwvg//t9lBql9iBjknhkBqE9ipmBjkBjkBnoBzsqhuhmhhhqhuhmhhjBzsJ2p1qn4lhBphoCllighBrhhjgi2q2p+Chy
     hhq1q5CmB3mhCgjhhlnhih8iikgBg8j8Bjnh95B1q1qytxDuCoB3BytBytBnopmBljkh2H6BphhjhwiB3BgqgoBg/1Bq0
     72pCm/vpB7ngt4npmB0hpkjoBjigpCkkjhshgBjxhBkmjB+mhghjhuhpnB6lpmjhnihi1hmhhhkhpihiiigmglmimjkrp
     hgighBlhphgighjhnth9Cqlpkj+ClhgopFmB1io3lBiCgjgrpBmB4npmz86iukpmmF5B6DlCp1niginhhh9hhiospCmni
     Btinhh7B+ogoCpjgyCoGnBgvpmohBshovp49i1htCpmhhhBrjghhhoopmlhhhBkhhhlnpJ22pwhBojktqC1gCvc5DmDux
     GjCSsDgvBBvw1qDc6lSmGV5B5BWmR4n+hpmCuhpm9ikrB2pjspp0lyNwBsjpGmB/EgCqkB4nwCghhhrhuFf3oBG1BppIX
     njhmhhhJivg9iigujoMrCIkDqlsjonpjhECxpQmBti2Q+kjlonim+jE0iN7C0hCmhhigihijhrhghmhCghjinhmh7hjhk
     hgjmhKzi4h4h+h4h+h4h+h4h+h4hniBxQgB2kBxogug2khuBCw+mlG1mhwimhhhklB9BhgDwBsjtipkgKh+xB5O2BpG2B
     qPlmhjhhhuhGkrmBpCrkpBFmjh6hhhgighphjhghgmgkghghghihhhgighghghghghhhgijhmhjhjhghphwlihkhwDJ0p
     BAmBJW/BgEB5mG9iFUhuHJwvTtCNiQ9BPiEaqlEC/VXKwHv"),
  ("XID_Start", "Ch5m5Bvgqgkgl2h+hOpkruknghgEhkhhjihgmghihghzhCyhEqoFlhBligmBoCn6kjBtBqBjhhDihgvhnh
     qiigwgh99C4rg4Bgphkgl1kgpgjg34nql3hlxBpB6B1jgygnpvvknihi1hmhgjjjgwgthhiuhqgolkhi1hmhhhhhh/jhg
     ziwohih1hmhhhkjgygvh3grnihi1hmhhhkjg+hhivgxghljihjjhhghhjhjijr2gB0nhih2hvjg6iigih+gknhih2hphk
     jg/hhhvhxohihBoigwglioi4llxj3hohgimB6BvhgtmB6hhghkh3hghphgqgikhg1jBggB/nhBj7kDzBq0gwlkjjgjhni
     kssgxBlhglgiBqhKshjimhghjiBohjiBghjimhghjiuhB4hjiCiBlvwC1iljTriwh5lCqjqnxtyuxushivBzBjgkgCjC4
     nBohglClq+Bx9ikrBrk5B22pB0CygC9BuxnB29thqBr6BjBpiqBjiqlBqiiBpjhlhhjglF/CgI1iliBlilinhghghgh+i
     B0hmhgjihmjjilkslihmD0gtgwsDlgkgiphgilmghghghvijlkkgxBoCT3HkmjjhsBlhglgiB3ngw2pmhmhmhmhmhmhmh
     mRmi5onkikkC1mihC5hjlBqhC9x/BwvQgGN/CgVUsCjBtiIsjvqh0Buw+iCvBnoiDmiCiihhghn1vhihjh29BzuBxB+lj
     ghhr7q258nBu8gwkhpqkhBo3ihn02jgjBxhgjhikighg4iiqnislililpmhmhBqhtmDy9Kdjs2kBwIIkLtiDpBmmsklgh
     phshkhghhhhhDrBhEqmG5yB/iB1BopD3ghgjghghghghD9Bk5m5rB3i+jlililiiBjrh5hyhhhuitBiD6ClB0Ir8jBwBv
     /t9lBlq9iBjknhkBqE9yBjkBjkBnoBzsqhuhmhhhqhuhmhhjBzsJ2p1qn4lhBphoCllighBrhhjgi2q2p+Chyhhq1q5Cm
     B3mhCggvjhih8Bq8j8Bjnh77B1q1qytxDuCoB3BytBytBjBm7p2H6BpmhwiB78qgo1BqxBu072sB0B5higtBsBg46Bj9g
     igoBijgsBvuj1ghgBjxh4zhB/mhghjhuhpnBuBmnihi1hmhhhkjgygsk+phgighBlhg5ghgBsB0yj0i+Bv0hhgF4BuBpj
     BkBv0gB7BqtgCn6BlmF5BrD0B//niginhhh3vghgC+niBmwghg8gqBnng1grBtzgyCoGnBg/ohBkxgBx9DwmhhhBl1g5l
     hhh/ugKnyvghshBhD8gCvc5DmDuxGjCSsDgvBBvxl5Dc6lSmGV59BXiR4n+xCux9yBvwj/0lyNwBsGzB/EgCqlgCisCgh
     hg8Ff3oBG1BppIXnjhmhhhJivg9iigujoMrCIkDqlsjonpFbmC0hCmhhigihijhrhghmhCghjinhmh7hjhkhgjmhKzi4h
     4h+h4h+h4h+h4h+h4hnBZ0+mlIlB9EyBsqmwgKh9yBrPk7Hk9igPvmhjhhhuhGkB7CjngBF0jh6hhhgighphjhghgmgkg
     hghghihhhgighghghghghhhgijhmhjhjhghphwlihkhwEKkBJW/BgEB5mG9iFUhuHJwvTtCNiQ9BPiEaqlEC/")]

end IntentSelect.Unicode
