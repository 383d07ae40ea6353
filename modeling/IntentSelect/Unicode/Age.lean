/-!
# Ages

The characters that each version of the standard added, up to version 16, packed and in the order of
the versions.
-/
namespace IntentSelect.Unicode

/-- The characters added by each version, oldest first. -/
def ages : List (String × String) := [
  ("V1_1", "gP1k9B4C4nBuhp2Cl6hyhkgjglmhghzhBrhmjghghghghxtrhChhrhBopB0ihihj7inihB3BlimhBmhgBmphos6
     lk3gugjgh5lyttiCnikhuh9ipQnihB0ixikj4wihnihi1hmhgjjighmihiipgkhhki0ngilkhi1hmhhhhhhighkkhiirj
     hgnusihmhghih1hmhhhkiphihiigvglpxihnihi1hmhhijinjhiiohkhhikqxhhljihjjhhghhjhjijnhikkjihjpgvru
     ihnhih2hphkkmhihjnhphkpyhhnhih2hphkkmhihjnhnghhkpyhhnhih2hvkliihjpgohkpExB5k8Blhhgihhgigmjhmh
     ihghgihhshiikhghlipihOiBlqBmkgkC5lCjlCxDAmE6lC5m1iliBlilinhghghgh+iB0huhtilhyiihohBuh2Bjmj6xq
     Blx+B46BvtC61HxughD4ElBk7q1Eq1E1qCvwzmC1Exjhji7hBihghjjghmimu+j3htCChB3nghCzkliC9mBnkC9hvDg8j
     Bj87jBxvrkBuhD2kDii+GQhUNlQC6GRtGymskm4hkhghhhhhDrBhLswB/iB1BorBkjs0kphyhjkihghEmighC9iC9jlil
     iliijmhmui"),
  ("V2_0", "BMxwhs0gCJ7CnhBgn6klhgh0jmhgDXhgQvgBCa0KdjCKC6hBff+hBff+hBff+hBff+hBff+hBff+hBff+hBff+h
     Bff+hBff+hBff+hBff+hBff+EAAh"),
  ("V2_1", "IFsgBXavg"),
  ("V3_0", "P2j+nixD1kBxgqkC3ozgD0gjghghghg+gsgCigsgBqhijC8hE8gGoiDihlgvgBqkhth9j6B1BwBOxhhxj3hohgi
     mjgklhghnyiL1gBrg3inghihuigBwBhhkhhhmjjm5NmmhB+hghjimhghjiBmhghji+hghjimhghjimhmh2h+hghjimhBm
     hym7BjC0sT1p8jCwEvC8jp2uhpmC3oBpBclg4lC/iByhC1hCogDnoItgD5gh9EqhOpnBhgC2hMuH/BMg5hC4sG16rB8ij
     gLh3SoGN1USqBEsjxivhrhihgVS2gBG7i"),
  ("V3_1", "f0hBeO6/BIw+hjs6F1BliBlBSdyH1qBmjFzRiC0hCmhhigihijhrhghjhhhCghjinhmh7hjhkhgjmhKxkJhkBxK
     AgBJW2UJpQ9WBPjg+C/"),
  ("V3_2", "RggJugzsDoh8gEzhB5hihihBxvK+hKhgCKlhBQnshmr2pzsshihhCGzgmkkgnktgB+hBymCyuForHytD8g+BzI8
     zE3pC4n2hC6ripG+tC67kvIgP/BJ7iC3hohC+gHwvCxuCxucPihwgsgjgVLqB6cxgjvB1hBsgHrh"),
  ("V4_0", "RhgyiD3hB/wCwnliE3kQkjpoCgiE1hvgBti9iN0gF4gCjghgEogC0itgCjgB7gEhnGhhCY/gypIm8jrkrkgjBpi
     kDr/YgDrXnhHmgUzhJugI0hD0nuhBC+tBYvhBxgBrhCujFnjDjh/gGOgB/BLf9gCphN3rh5hyhhhuitBiD6likBsjoSg9
     hgEmhBmCvipa2lighBrhhjgigBSWgC2LqgYLB+Hv"),
  ("V4_1", "R3qI2kE/jH2hFqgBiiCjgygB6lHx9QvgCwgPngBvgfphJnhhgIqgB/gB/gBng/g/g/gvgBng3h/5BPmBpm5mpkh
     Bg7ihasC3UxhhmBxk9jB1gCwgvgUkqR8gDlhyqlvIumanlHsBuhBuBhDquBsqB1pgw2pmhmhmhmhmhmhmhmBh3khdivFu
     gbJn1Bak2HpBrUSkDpZ2pZmCqQ1BjktBRqjhhlnhih6kikoooBRdnClBC+h"),
  ("V5_0", "SitJriKxgBqlwjFmgQlB6MghhhbihthDQtCrkBsSnmBzhXsjC9hB1gS3rWqgI0japmljJ8snjeU/jlhI+B3YEo5
     lgFXgbuExDitjBLXsxBC4h"),
  ("V5_1", "bwjihC3gF3gEsvHikrkBgkJuxPxhG+gBjgGug9hDsgDsg6hoh0nF9gmg9hsljmPrhDhgjiCtglgignikl6B/khC
     AqgW1BqjrCmB3jujByKr7F1jC6lLkgErgC+gB1jBI0g1pjjIog/jZrkkBojkI4ihiklLi/4jiyX8gFizbO4nBJ8Jr0/ix
     o7EjkiDqDukEgCkprBmCzrgFgB2ptipijUekibprB0BtEi8jBwBSv5lgBRfpgHW2BrkDj"),
  ("V5_2", "BJkhW6BtiuGhgCtgmgBjhEggBO5jGhjF8kCkkCylQggT2oRwClF0hBugClB+h8iqmpmtRiBiIqgV4iE3iB2gS+g
     V1h9ikphyhgk3C3gf9kI2gthDrmJ/gBAyrbL0nBIkBvNgC3J4pFm7Dk8jCthqkhEg7kCi4kHgBtipKd22kBwITviDOy1h
     oF6hKk/EgB1j8i6lnEgCoQ3+QhChHZ+BBuBPGxql+igrghgigjgjkogng5ghhigqjigDvgvBhuoBNF3EB0"),
  ("V6_0", "BJmhH4gB+gPg7igG7hzgmh7kP6lNxgwgzgR9jCphcihCDhBzojP8gU4n8gZvqW6gzghj9gkh8gBjghgkiphB0i4
     guguhBNggugBB4idFlhJrhhhupCwgYmlililpmhmUEjvFB+Ctk9VcwR4ROnhQE+uitiuhuCwghqhghhhihilnhmhpmohg
     ihhpkhhpCr5hhBvo1hFuBgvlhCljzsBkhk1wvB+hghF1hjjB9y3EzkhvhihghghghihlijhgijhrkqBwClB6DzBPesG9"),
  ("V6_1", "BMvgD0gU7ghqB36PxgfthPnglgBviCVrislIgnBrjCW0ghgBJkhBzglgB4hGqpcMwgBVnnBjgHyh2gCthXm2TZ3
     hDawB3mhBYw4npmB0htB8ConpBFmB3opWB2CkrBuwwfTgjh6hhhgighphjhghgmgkghghghihhhgighghghghghhhgijh
     mhjhjhghphwlihkhwB0hT4he0jF8gwgjghghghgjgmhkghhkg"),
  ("V6_2", "IF6g"),
  ("V6_3", "BQ8gGSpj"),
  ("V7_0", "b/gNonC9hD2gU7grlCsgD4gngT/gBzgCsgD/gHkpCIhnRkhMxuR5hHtuWliZ2mYlgBCsiq5i/iBhjrhnTqmeC1l
     H2rriihClgPo+D9jFwBvkhUWhma9hzgJ/7BjgBwBqMlBnoBzrgEwJ2p1qnH4B+ooOw/BgBmkrEpxnjsmBGvgGwBmC2gsg
     mzrxhBqDyB6lpnihnihi1hmhhhkioihiipglmimjkIrCnopFmB1ixB2CkrpSmCysgOgB4CD2BpGqrlgROr+hpkhDg9ilq
     Clqphmh0lyUDwDqlsjonpinKa8GkivBfogBg11hQ0rpgCmg2rBlgljlrxmCnghgF2gkhB/hkm9xhBohC1CmhtBvCmpwsj
     jEsC0BrrkB3opmBno9"),
  ("V8_0", "CFzhBugQ1gLggIkgBU1gilDGggGrhCTgjce9oBWogHwgBilKkhTijsCvUTuhCVwyhhlkF8hiviBtUgBytBynlBG
     pjukFgmhghjhuhqC2gCvgT5zJi5jukvDC5gHmGjHV8SmBCc3qBQ3UrvkhuGD9iCuhCvkBknH/gCrkHzhErgR/oDnkB7gB
     PS/FUh"),
  ("V9_0", "CF2n2uc9gGugkihm3iDYnoLygBP/jCSkheLpgI2gWGnhZhBjkBjDKigOhC5hghgQisBMzohBshtq8j/i1htUZpg
     /FfszXyVItmhwimhhhkCG1CqlpkhCB7xEugZ+gBpgJshBhiRilhnogirhrkuBms"),
  ("V10_0", "CDgqMxhH8lQggB6hDd6gH+jWlgZ/gBeygTykXkgbVn0YaiiFWwCnoBzi2hkS9mhhhBrjghhhoopUUngQBgI8Cx
     MrPbklBDthBihQnrzgonhh5gysBmlB42BVGpHJw"),
  ("V11_0", "BLggBngDmgQtiGzgJqgD3gMtgD/gCfzgBA3BqiiDX6i24kuSrkXggbV7kBd/gohKkhYJ0hygV3BnopOmBnoBpL
     zgD2iP0gJigV7gHlB7ThgWilhhhBkhhhlnpJ24TanC6GKykSXuzD+mGH4CjBD6gBOpgG7jL0i8kijjghj4qtpnhBk4D
     gt"),
  ("V12_0", "DD3gQugigighlkgngnhigtgDR/gDWugB1gSvgeLqlikc/hZD42BDogS4gXnniBtiqE/hBJ6BxtgFBwoOYslkgB
     voC6hGAulKK4ixjLc4BsjtipkhLwB5lgBSrgd1B8BBugBLogBkgHlrJhiBvgBxgpgBpljhqljniiBwCz8jkilitl"),
  ("V12_1", "MX/g"),
  ("V13_0", "CF+pUtgNugD8gDJ9hEG2gV4ibokGf2pURwsBeqjBqhB1gZ7jVRwgDHjBphiihH+7L7gEmhUqglhBE+miginhhh
     9hhirppBS2gUBzgrhGYhPiBqoZAkiC9iB9gBJohBjhNzhC6gDlgkhBqhmi9gFogujvynmpitmBpEyhB2BlpBKW9mWJiEa
     q"),
  ("V14_0", "BQ9gSy+hhmn1gyqbpgBggD/gCRvgngpgHvgVxtD9gBwhT7gWlgCbugBvgPzqcM/iBeghuhhghk4iUetgL9vD/g
     BuhBbwqhuhmhhhqhuhmhhOjlhBphoBd15HmlCsgBP2gEmmbpvFGwDiOT9CuhpRJmjhmhhJgjHO9Bti2pDzRlhDI1+bx+B
     JxmhjhhhuDW+iIwgMogCygFuhBsjqjoiximnomBKfnhEC1j"),
  ("V15_0", "DHzgO6gCABuiZ/iCF+pf2whBoj7FG1gp8fG8gBigILqzDCxlIlB9BhgBCgBpEPigE3ikkC5gU7ivhBkirihguh
     qhsguhBPCggXA2EC/"),
  ("V15_1", "Lf8jPvgFOQgTt"),
  ("V16_0", "CE3gEV2hBvgIphBc8iDN6hdPlisiXPjBzBasBlj8ohJyiB3gBEjphgighBlhphgighjhphhohXtzBG8Bhupbgg
     FIlDc6HIlB5DAmB5HclgPYgH5mNzFY8BqkgEVypkhOnglgBugng1gigpgHhBk")]

end IntentSelect.Unicode
