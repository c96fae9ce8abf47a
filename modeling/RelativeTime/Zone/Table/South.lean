import RelativeTime.Zone.Rules

/-! Clock changes of zones in the southern continents and the Pacific, each as its second of UTC
and the offset from then on. Daylight saving rules in force are followed to the end of the year
2099. -/
namespace RelativeTime.Zone.Table

def saoPaulo : Rules where
  initial := -11188
  changes := [
    ⟨-1767214412, -10800⟩, ⟨-1206957600, -7200⟩, ⟨-1191362400, -10800⟩, ⟨-1175374800, -7200⟩,
    ⟨-1159826400, -10800⟩, ⟨-633819600, -7200⟩, ⟨-622069200, -10800⟩, ⟨-602283600, -7200⟩,
    ⟨-591832800, -10800⟩, ⟨-570747600, -7200⟩, ⟨-560210400, -10800⟩, ⟨-539125200, -7200⟩,
    ⟨-531352800, -10800⟩, ⟨-195426000, -7200⟩, ⟨-184197600, -10800⟩, ⟨-155163600, -7200⟩,
    ⟨-150069600, -10800⟩, ⟨-128898000, -7200⟩, ⟨-121125600, -10800⟩, ⟨-99954000, -7200⟩,
    ⟨-89589600, -10800⟩, ⟨-68418000, -7200⟩, ⟨-57967200, -10800⟩, ⟨499748400, -7200⟩,
    ⟨511236000, -10800⟩, ⟨530593200, -7200⟩, ⟨540266400, -10800⟩, ⟨562129200, -7200⟩,
    ⟨571197600, -10800⟩, ⟨592974000, -7200⟩, ⟨602042400, -10800⟩, ⟨624423600, -7200⟩,
    ⟨634701600, -10800⟩, ⟨656478000, -7200⟩, ⟨666756000, -10800⟩, ⟨687927600, -7200⟩,
    ⟨697600800, -10800⟩, ⟨719982000, -7200⟩, ⟨728445600, -10800⟩, ⟨750826800, -7200⟩,
    ⟨761709600, -10800⟩, ⟨782276400, -7200⟩, ⟨793159200, -10800⟩, ⟨813726000, -7200⟩,
    ⟨824004000, -10800⟩, ⟨844570800, -7200⟩, ⟨856058400, -10800⟩, ⟨876106800, -7200⟩,
    ⟨888717600, -10800⟩, ⟨908074800, -7200⟩, ⟨919562400, -10800⟩, ⟨938919600, -7200⟩,
    ⟨951616800, -10800⟩, ⟨970974000, -7200⟩, ⟨982461600, -10800⟩, ⟨1003028400, -7200⟩,
    ⟨1013911200, -10800⟩, ⟨1036292400, -7200⟩, ⟨1045360800, -10800⟩, ⟨1066532400, -7200⟩,
    ⟨1076810400, -10800⟩, ⟨1099364400, -7200⟩, ⟨1108864800, -10800⟩, ⟨1129431600, -7200⟩,
    ⟨1140314400, -10800⟩, ⟨1162695600, -7200⟩, ⟨1172368800, -10800⟩, ⟨1192330800, -7200⟩,
    ⟨1203213600, -10800⟩, ⟨1224385200, -7200⟩, ⟨1234663200, -10800⟩, ⟨1255834800, -7200⟩,
    ⟨1266717600, -10800⟩, ⟨1287284400, -7200⟩, ⟨1298167200, -10800⟩, ⟨1318734000, -7200⟩,
    ⟨1330221600, -10800⟩, ⟨1350788400, -7200⟩, ⟨1361066400, -10800⟩, ⟨1382238000, -7200⟩,
    ⟨1392516000, -10800⟩, ⟨1413687600, -7200⟩, ⟨1424570400, -10800⟩, ⟨1445137200, -7200⟩,
    ⟨1456020000, -10800⟩, ⟨1476586800, -7200⟩, ⟨1487469600, -10800⟩, ⟨1508036400, -7200⟩,
    ⟨1518919200, -10800⟩, ⟨1541300400, -7200⟩, ⟨1550368800, -10800⟩]

def monrovia : Rules where
  initial := -2588
  changes := [
    ⟨-1604359012, -2670⟩, ⟨63593070, 0⟩]

set_option maxRecDepth 4000 in
def lordHowe : Rules where
  initial := 38180
  changes := [
    ⟨-2364114980, 36000⟩, ⟨352216800, 37800⟩, ⟨372785400, 41400⟩, ⟨384273000, 37800⟩,
    ⟨404839800, 41400⟩, ⟨415722600, 37800⟩, ⟨436289400, 41400⟩, ⟨447172200, 37800⟩,
    ⟨467739000, 41400⟩, ⟨478621800, 37800⟩, ⟨499188600, 39600⟩, ⟨511282800, 37800⟩,
    ⟨530033400, 39600⟩, ⟨542732400, 37800⟩, ⟨562087800, 39600⟩, ⟨574786800, 37800⟩,
    ⟨594142200, 39600⟩, ⟨606236400, 37800⟩, ⟨625591800, 39600⟩, ⟨636476400, 37800⟩,
    ⟨657041400, 39600⟩, ⟨667926000, 37800⟩, ⟨688491000, 39600⟩, ⟨699375600, 37800⟩,
    ⟨719940600, 39600⟩, ⟨731430000, 37800⟩, ⟨751995000, 39600⟩, ⟨762879600, 37800⟩,
    ⟨783444600, 39600⟩, ⟨794329200, 37800⟩, ⟨814894200, 39600⟩, ⟨828198000, 37800⟩,
    ⟨846343800, 39600⟩, ⟨859647600, 37800⟩, ⟨877793400, 39600⟩, ⟨891097200, 37800⟩,
    ⟨909243000, 39600⟩, ⟨922546800, 37800⟩, ⟨941297400, 39600⟩, ⟨953996400, 37800⟩,
    ⟨967303800, 39600⟩, ⟨985446000, 37800⟩, ⟨1004196600, 39600⟩, ⟨1017500400, 37800⟩,
    ⟨1035646200, 39600⟩, ⟨1048950000, 37800⟩, ⟨1067095800, 39600⟩, ⟨1080399600, 37800⟩,
    ⟨1099150200, 39600⟩, ⟨1111849200, 37800⟩, ⟨1130599800, 39600⟩, ⟨1143903600, 37800⟩,
    ⟨1162049400, 39600⟩, ⟨1174748400, 37800⟩, ⟨1193499000, 39600⟩, ⟨1207407600, 37800⟩,
    ⟨1223134200, 39600⟩, ⟨1238857200, 37800⟩, ⟨1254583800, 39600⟩, ⟨1270306800, 37800⟩,
    ⟨1286033400, 39600⟩, ⟨1301756400, 37800⟩, ⟨1317483000, 39600⟩, ⟨1333206000, 37800⟩,
    ⟨1349537400, 39600⟩, ⟨1365260400, 37800⟩, ⟨1380987000, 39600⟩, ⟨1396710000, 37800⟩,
    ⟨1412436600, 39600⟩, ⟨1428159600, 37800⟩, ⟨1443886200, 39600⟩, ⟨1459609200, 37800⟩,
    ⟨1475335800, 39600⟩, ⟨1491058800, 37800⟩, ⟨1506785400, 39600⟩, ⟨1522508400, 37800⟩,
    ⟨1538839800, 39600⟩, ⟨1554562800, 37800⟩, ⟨1570289400, 39600⟩, ⟨1586012400, 37800⟩,
    ⟨1601739000, 39600⟩, ⟨1617462000, 37800⟩, ⟨1633188600, 39600⟩, ⟨1648911600, 37800⟩,
    ⟨1664638200, 39600⟩, ⟨1680361200, 37800⟩, ⟨1696087800, 39600⟩, ⟨1712415600, 37800⟩,
    ⟨1728142200, 39600⟩, ⟨1743865200, 37800⟩, ⟨1759591800, 39600⟩, ⟨1775314800, 37800⟩,
    ⟨1791041400, 39600⟩, ⟨1806764400, 37800⟩, ⟨1822491000, 39600⟩, ⟨1838214000, 37800⟩,
    ⟨1853940600, 39600⟩, ⟨1869663600, 37800⟩, ⟨1885995000, 39600⟩, ⟨1901718000, 37800⟩,
    ⟨1917444600, 39600⟩, ⟨1933167600, 37800⟩, ⟨1948894200, 39600⟩, ⟨1964617200, 37800⟩,
    ⟨1980343800, 39600⟩, ⟨1996066800, 37800⟩, ⟨2011793400, 39600⟩, ⟨2027516400, 37800⟩,
    ⟨2043243000, 39600⟩, ⟨2058966000, 37800⟩, ⟨2075297400, 39600⟩, ⟨2091020400, 37800⟩,
    ⟨2106747000, 39600⟩, ⟨2122470000, 37800⟩, ⟨2138196600, 39600⟩, ⟨2153919600, 37800⟩,
    ⟨2169646200, 39600⟩, ⟨2185369200, 37800⟩, ⟨2201095800, 39600⟩, ⟨2216818800, 37800⟩,
    ⟨2233150200, 39600⟩, ⟨2248873200, 37800⟩, ⟨2264599800, 39600⟩, ⟨2280322800, 37800⟩,
    ⟨2296049400, 39600⟩, ⟨2311772400, 37800⟩, ⟨2327499000, 39600⟩, ⟨2343222000, 37800⟩,
    ⟨2358948600, 39600⟩, ⟨2374671600, 37800⟩, ⟨2390398200, 39600⟩, ⟨2406121200, 37800⟩,
    ⟨2422452600, 39600⟩, ⟨2438175600, 37800⟩, ⟨2453902200, 39600⟩, ⟨2469625200, 37800⟩,
    ⟨2485351800, 39600⟩, ⟨2501074800, 37800⟩, ⟨2516801400, 39600⟩, ⟨2532524400, 37800⟩,
    ⟨2548251000, 39600⟩, ⟨2563974000, 37800⟩, ⟨2579700600, 39600⟩, ⟨2596028400, 37800⟩,
    ⟨2611755000, 39600⟩, ⟨2627478000, 37800⟩, ⟨2643204600, 39600⟩, ⟨2658927600, 37800⟩,
    ⟨2674654200, 39600⟩, ⟨2690377200, 37800⟩, ⟨2706103800, 39600⟩, ⟨2721826800, 37800⟩,
    ⟨2737553400, 39600⟩, ⟨2753276400, 37800⟩, ⟨2769607800, 39600⟩, ⟨2785330800, 37800⟩,
    ⟨2801057400, 39600⟩, ⟨2816780400, 37800⟩, ⟨2832507000, 39600⟩, ⟨2848230000, 37800⟩,
    ⟨2863956600, 39600⟩, ⟨2879679600, 37800⟩, ⟨2895406200, 39600⟩, ⟨2911129200, 37800⟩,
    ⟨2926855800, 39600⟩, ⟨2942578800, 37800⟩, ⟨2958910200, 39600⟩, ⟨2974633200, 37800⟩,
    ⟨2990359800, 39600⟩, ⟨3006082800, 37800⟩, ⟨3021809400, 39600⟩, ⟨3037532400, 37800⟩,
    ⟨3053259000, 39600⟩, ⟨3068982000, 37800⟩, ⟨3084708600, 39600⟩, ⟨3100431600, 37800⟩,
    ⟨3116763000, 39600⟩, ⟨3132486000, 37800⟩, ⟨3148212600, 39600⟩, ⟨3163935600, 37800⟩,
    ⟨3179662200, 39600⟩, ⟨3195385200, 37800⟩, ⟨3211111800, 39600⟩, ⟨3226834800, 37800⟩,
    ⟨3242561400, 39600⟩, ⟨3258284400, 37800⟩, ⟨3274011000, 39600⟩, ⟨3289734000, 37800⟩,
    ⟨3306065400, 39600⟩, ⟨3321788400, 37800⟩, ⟨3337515000, 39600⟩, ⟨3353238000, 37800⟩,
    ⟨3368964600, 39600⟩, ⟨3384687600, 37800⟩, ⟨3400414200, 39600⟩, ⟨3416137200, 37800⟩,
    ⟨3431863800, 39600⟩, ⟨3447586800, 37800⟩, ⟨3463313400, 39600⟩, ⟨3479641200, 37800⟩,
    ⟨3495367800, 39600⟩, ⟨3511090800, 37800⟩, ⟨3526817400, 39600⟩, ⟨3542540400, 37800⟩,
    ⟨3558267000, 39600⟩, ⟨3573990000, 37800⟩, ⟨3589716600, 39600⟩, ⟨3605439600, 37800⟩,
    ⟨3621166200, 39600⟩, ⟨3636889200, 37800⟩, ⟨3653220600, 39600⟩, ⟨3668943600, 37800⟩,
    ⟨3684670200, 39600⟩, ⟨3700393200, 37800⟩, ⟨3716119800, 39600⟩, ⟨3731842800, 37800⟩,
    ⟨3747569400, 39600⟩, ⟨3763292400, 37800⟩, ⟨3779019000, 39600⟩, ⟨3794742000, 37800⟩,
    ⟨3810468600, 39600⟩, ⟨3826191600, 37800⟩, ⟨3842523000, 39600⟩, ⟨3858246000, 37800⟩,
    ⟨3873972600, 39600⟩, ⟨3889695600, 37800⟩, ⟨3905422200, 39600⟩, ⟨3921145200, 37800⟩,
    ⟨3936871800, 39600⟩, ⟨3952594800, 37800⟩, ⟨3968321400, 39600⟩, ⟨3984044400, 37800⟩,
    ⟨4000375800, 39600⟩, ⟨4016098800, 37800⟩, ⟨4031825400, 39600⟩, ⟨4047548400, 37800⟩,
    ⟨4063275000, 39600⟩, ⟨4078998000, 37800⟩, ⟨4094724600, 39600⟩]

def apia : Rules where
  initial := 45184
  changes := [
    ⟨-2445424384, -41216⟩, ⟨-1861878784, -41400⟩, ⟨-631110600, -39600⟩, ⟨1285498800, -36000⟩,
    ⟨1301752800, -39600⟩, ⟨1316872800, -36000⟩, ⟨1325239200, 50400⟩, ⟨1333202400, 46800⟩,
    ⟨1348927200, 50400⟩, ⟨1365256800, 46800⟩, ⟨1380376800, 50400⟩, ⟨1396706400, 46800⟩,
    ⟨1411826400, 50400⟩, ⟨1428156000, 46800⟩, ⟨1443276000, 50400⟩, ⟨1459605600, 46800⟩,
    ⟨1474725600, 50400⟩, ⟨1491055200, 46800⟩, ⟨1506175200, 50400⟩, ⟨1522504800, 46800⟩,
    ⟨1538229600, 50400⟩, ⟨1554559200, 46800⟩, ⟨1569679200, 50400⟩, ⟨1586008800, 46800⟩,
    ⟨1601128800, 50400⟩, ⟨1617458400, 46800⟩]

def kiritimati : Rules where
  initial := -37760
  changes := [
    ⟨-2177415040, -38400⟩, ⟨307622400, -36000⟩, ⟨788868000, 50400⟩]

set_option maxRecDepth 4000 in
def troll : Rules where
  initial := 0
  changes := [
    ⟨1111885200, 7200⟩, ⟨1130634000, 0⟩, ⟨1143334800, 7200⟩, ⟨1162083600, 0⟩, ⟨1174784400, 7200⟩,
    ⟨1193533200, 0⟩, ⟨1206838800, 7200⟩, ⟨1224982800, 0⟩, ⟨1238288400, 7200⟩, ⟨1256432400, 0⟩,
    ⟨1269738000, 7200⟩, ⟨1288486800, 0⟩, ⟨1301187600, 7200⟩, ⟨1319936400, 0⟩, ⟨1332637200, 7200⟩,
    ⟨1351386000, 0⟩, ⟨1364691600, 7200⟩, ⟨1382835600, 0⟩, ⟨1396141200, 7200⟩, ⟨1414285200, 0⟩,
    ⟨1427590800, 7200⟩, ⟨1445734800, 0⟩, ⟨1459040400, 7200⟩, ⟨1477789200, 0⟩, ⟨1490490000, 7200⟩,
    ⟨1509238800, 0⟩, ⟨1521939600, 7200⟩, ⟨1540688400, 0⟩, ⟨1553994000, 7200⟩, ⟨1572138000, 0⟩,
    ⟨1585443600, 7200⟩, ⟨1603587600, 0⟩, ⟨1616893200, 7200⟩, ⟨1635642000, 0⟩, ⟨1648342800, 7200⟩,
    ⟨1667091600, 0⟩, ⟨1679792400, 7200⟩, ⟨1698541200, 0⟩, ⟨1711846800, 7200⟩, ⟨1729990800, 0⟩,
    ⟨1743296400, 7200⟩, ⟨1761440400, 0⟩, ⟨1774746000, 7200⟩, ⟨1792890000, 0⟩, ⟨1806195600, 7200⟩,
    ⟨1824944400, 0⟩, ⟨1837645200, 7200⟩, ⟨1856394000, 0⟩, ⟨1869094800, 7200⟩, ⟨1887843600, 0⟩,
    ⟨1901149200, 7200⟩, ⟨1919293200, 0⟩, ⟨1932598800, 7200⟩, ⟨1950742800, 0⟩, ⟨1964048400, 7200⟩,
    ⟨1982797200, 0⟩, ⟨1995498000, 7200⟩, ⟨2014246800, 0⟩, ⟨2026947600, 7200⟩, ⟨2045696400, 0⟩,
    ⟨2058397200, 7200⟩, ⟨2077146000, 0⟩, ⟨2090451600, 7200⟩, ⟨2108595600, 0⟩, ⟨2121901200, 7200⟩,
    ⟨2140045200, 0⟩, ⟨2153350800, 7200⟩, ⟨2172099600, 0⟩, ⟨2184800400, 7200⟩, ⟨2203549200, 0⟩,
    ⟨2216250000, 7200⟩, ⟨2234998800, 0⟩, ⟨2248304400, 7200⟩, ⟨2266448400, 0⟩, ⟨2279754000, 7200⟩,
    ⟨2297898000, 0⟩, ⟨2311203600, 7200⟩, ⟨2329347600, 0⟩, ⟨2342653200, 7200⟩, ⟨2361402000, 0⟩,
    ⟨2374102800, 7200⟩, ⟨2392851600, 0⟩, ⟨2405552400, 7200⟩, ⟨2424301200, 0⟩, ⟨2437606800, 7200⟩,
    ⟨2455750800, 0⟩, ⟨2469056400, 7200⟩, ⟨2487200400, 0⟩, ⟨2500506000, 7200⟩, ⟨2519254800, 0⟩,
    ⟨2531955600, 7200⟩, ⟨2550704400, 0⟩, ⟨2563405200, 7200⟩, ⟨2582154000, 0⟩, ⟨2595459600, 7200⟩,
    ⟨2613603600, 0⟩, ⟨2626909200, 7200⟩, ⟨2645053200, 0⟩, ⟨2658358800, 7200⟩, ⟨2676502800, 0⟩,
    ⟨2689808400, 7200⟩, ⟨2708557200, 0⟩, ⟨2721258000, 7200⟩, ⟨2740006800, 0⟩, ⟨2752707600, 7200⟩,
    ⟨2771456400, 0⟩, ⟨2784762000, 7200⟩, ⟨2802906000, 0⟩, ⟨2816211600, 7200⟩, ⟨2834355600, 0⟩,
    ⟨2847661200, 7200⟩, ⟨2866410000, 0⟩, ⟨2879110800, 7200⟩, ⟨2897859600, 0⟩, ⟨2910560400, 7200⟩,
    ⟨2929309200, 0⟩, ⟨2942010000, 7200⟩, ⟨2960758800, 0⟩, ⟨2974064400, 7200⟩, ⟨2992208400, 0⟩,
    ⟨3005514000, 7200⟩, ⟨3023658000, 0⟩, ⟨3036963600, 7200⟩, ⟨3055712400, 0⟩, ⟨3068413200, 7200⟩,
    ⟨3087162000, 0⟩, ⟨3099862800, 7200⟩, ⟨3118611600, 0⟩, ⟨3131917200, 7200⟩, ⟨3150061200, 0⟩,
    ⟨3163366800, 7200⟩, ⟨3181510800, 0⟩, ⟨3194816400, 7200⟩, ⟨3212960400, 0⟩, ⟨3226266000, 7200⟩,
    ⟨3245014800, 0⟩, ⟨3257715600, 7200⟩, ⟨3276464400, 0⟩, ⟨3289165200, 7200⟩, ⟨3307914000, 0⟩,
    ⟨3321219600, 7200⟩, ⟨3339363600, 0⟩, ⟨3352669200, 7200⟩, ⟨3370813200, 0⟩, ⟨3384118800, 7200⟩,
    ⟨3402867600, 0⟩, ⟨3415568400, 7200⟩, ⟨3434317200, 0⟩, ⟨3447018000, 7200⟩, ⟨3465766800, 0⟩,
    ⟨3479072400, 7200⟩, ⟨3497216400, 0⟩, ⟨3510522000, 7200⟩, ⟨3528666000, 0⟩, ⟨3541971600, 7200⟩,
    ⟨3560115600, 0⟩, ⟨3573421200, 7200⟩, ⟨3592170000, 0⟩, ⟨3604870800, 7200⟩, ⟨3623619600, 0⟩,
    ⟨3636320400, 7200⟩, ⟨3655069200, 0⟩, ⟨3668374800, 7200⟩, ⟨3686518800, 0⟩, ⟨3699824400, 7200⟩,
    ⟨3717968400, 0⟩, ⟨3731274000, 7200⟩, ⟨3750022800, 0⟩, ⟨3762723600, 7200⟩, ⟨3781472400, 0⟩,
    ⟨3794173200, 7200⟩, ⟨3812922000, 0⟩, ⟨3825622800, 7200⟩, ⟨3844371600, 0⟩, ⟨3857677200, 7200⟩,
    ⟨3875821200, 0⟩, ⟨3889126800, 7200⟩, ⟨3907270800, 0⟩, ⟨3920576400, 7200⟩, ⟨3939325200, 0⟩,
    ⟨3952026000, 7200⟩, ⟨3970774800, 0⟩, ⟨3983475600, 7200⟩, ⟨4002224400, 0⟩, ⟨4015530000, 7200⟩,
    ⟨4033674000, 0⟩, ⟨4046979600, 7200⟩, ⟨4065123600, 0⟩, ⟨4078429200, 7200⟩, ⟨4096573200, 0⟩]

end RelativeTime.Zone.Table
