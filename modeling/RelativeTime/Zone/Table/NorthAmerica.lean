import RelativeTime.Zone.Rules

/-! Clock changes of zones in North America and the Caribbean, each as its second of UTC and the
offset from then on. Daylight saving rules in force are followed to the end of the year 2099. -/
namespace RelativeTime.Zone.Table

set_option maxRecDepth 4000 in
def chicago : Rules where
  initial := -21036
  changes := [
    ⟨-2717647200, -21600⟩, ⟨-1633276800, -18000⟩, ⟨-1615136400, -21600⟩, ⟨-1601827200, -18000⟩,
    ⟨-1583686800, -21600⟩, ⟨-1563724800, -18000⟩, ⟨-1551632400, -21600⟩, ⟨-1538928000, -18000⟩,
    ⟨-1520182800, -21600⟩, ⟨-1504454400, -18000⟩, ⟨-1491757200, -21600⟩, ⟨-1473004800, -18000⟩,
    ⟨-1459702800, -21600⟩, ⟨-1441555200, -18000⟩, ⟨-1428253200, -21600⟩, ⟨-1410105600, -18000⟩,
    ⟨-1396803600, -21600⟩, ⟨-1378656000, -18000⟩, ⟨-1365354000, -21600⟩, ⟨-1347206400, -18000⟩,
    ⟨-1333904400, -21600⟩, ⟨-1315152000, -18000⟩, ⟨-1301850000, -21600⟩, ⟨-1283702400, -18000⟩,
    ⟨-1270400400, -21600⟩, ⟨-1252252800, -18000⟩, ⟨-1238950800, -21600⟩, ⟨-1220803200, -18000⟩,
    ⟨-1207501200, -21600⟩, ⟨-1189353600, -18000⟩, ⟨-1176051600, -21600⟩, ⟨-1157299200, -18000⟩,
    ⟨-1144602000, -21600⟩, ⟨-1125849600, -18000⟩, ⟨-1112547600, -21600⟩, ⟨-1094400000, -18000⟩,
    ⟨-1081098000, -21600⟩, ⟨-1067788800, -18000⟩, ⟨-1045414800, -21600⟩, ⟨-1031500800, -18000⟩,
    ⟨-1018198800, -21600⟩, ⟨-1000051200, -18000⟩, ⟨-986749200, -21600⟩, ⟨-967996800, -18000⟩,
    ⟨-955299600, -21600⟩, ⟨-936547200, -18000⟩, ⟨-923245200, -21600⟩, ⟨-905097600, -18000⟩,
    ⟨-891795600, -21600⟩, ⟨-880214400, -18000⟩, ⟨-765392400, -21600⟩, ⟨-747244800, -18000⟩,
    ⟨-733942800, -21600⟩, ⟨-715795200, -18000⟩, ⟨-702493200, -21600⟩, ⟨-684345600, -18000⟩,
    ⟨-671043600, -21600⟩, ⟨-652896000, -18000⟩, ⟨-639594000, -21600⟩, ⟨-620841600, -18000⟩,
    ⟨-608144400, -21600⟩, ⟨-589392000, -18000⟩, ⟨-576090000, -21600⟩, ⟨-557942400, -18000⟩,
    ⟨-544640400, -21600⟩, ⟨-526492800, -18000⟩, ⟨-513190800, -21600⟩, ⟨-495043200, -18000⟩,
    ⟨-481741200, -21600⟩, ⟨-463593600, -18000⟩, ⟨-447267600, -21600⟩, ⟨-431539200, -18000⟩,
    ⟨-415818000, -21600⟩, ⟨-400089600, -18000⟩, ⟨-384368400, -21600⟩, ⟨-368640000, -18000⟩,
    ⟨-352918800, -21600⟩, ⟨-337190400, -18000⟩, ⟨-321469200, -21600⟩, ⟨-305740800, -18000⟩,
    ⟨-289414800, -21600⟩, ⟨-273686400, -18000⟩, ⟨-257965200, -21600⟩, ⟨-242236800, -18000⟩,
    ⟨-226515600, -21600⟩, ⟨-210787200, -18000⟩, ⟨-195066000, -21600⟩, ⟨-179337600, -18000⟩,
    ⟨-163616400, -21600⟩, ⟨-147888000, -18000⟩, ⟨-131562000, -21600⟩, ⟨-116438400, -18000⟩,
    ⟨-100112400, -21600⟩, ⟨-84384000, -18000⟩, ⟨-68662800, -21600⟩, ⟨-52934400, -18000⟩,
    ⟨-37213200, -21600⟩, ⟨-21484800, -18000⟩, ⟨-5763600, -21600⟩, ⟨9964800, -18000⟩,
    ⟨25686000, -21600⟩, ⟨41414400, -18000⟩, ⟨57740400, -21600⟩, ⟨73468800, -18000⟩,
    ⟨89190000, -21600⟩, ⟨104918400, -18000⟩, ⟨120639600, -21600⟩, ⟨126691200, -18000⟩,
    ⟨152089200, -21600⟩, ⟨162374400, -18000⟩, ⟨183538800, -21600⟩, ⟨199267200, -18000⟩,
    ⟨215593200, -21600⟩, ⟨230716800, -18000⟩, ⟨247042800, -21600⟩, ⟨262771200, -18000⟩,
    ⟨278492400, -21600⟩, ⟨294220800, -18000⟩, ⟨309942000, -21600⟩, ⟨325670400, -18000⟩,
    ⟨341391600, -21600⟩, ⟨357120000, -18000⟩, ⟨372841200, -21600⟩, ⟨388569600, -18000⟩,
    ⟨404895600, -21600⟩, ⟨420019200, -18000⟩, ⟨436345200, -21600⟩, ⟨452073600, -18000⟩,
    ⟨467794800, -21600⟩, ⟨483523200, -18000⟩, ⟨499244400, -21600⟩, ⟨514972800, -18000⟩,
    ⟨530694000, -21600⟩, ⟨544608000, -18000⟩, ⟨562143600, -21600⟩, ⟨576057600, -18000⟩,
    ⟨594198000, -21600⟩, ⟨607507200, -18000⟩, ⟨625647600, -21600⟩, ⟨638956800, -18000⟩,
    ⟨657097200, -21600⟩, ⟨671011200, -18000⟩, ⟨688546800, -21600⟩, ⟨702460800, -18000⟩,
    ⟨719996400, -21600⟩, ⟨733910400, -18000⟩, ⟨752050800, -21600⟩, ⟨765360000, -18000⟩,
    ⟨783500400, -21600⟩, ⟨796809600, -18000⟩, ⟨814950000, -21600⟩, ⟨828864000, -18000⟩,
    ⟨846399600, -21600⟩, ⟨860313600, -18000⟩, ⟨877849200, -21600⟩, ⟨891763200, -18000⟩,
    ⟨909298800, -21600⟩, ⟨923212800, -18000⟩, ⟨941353200, -21600⟩, ⟨954662400, -18000⟩,
    ⟨972802800, -21600⟩, ⟨986112000, -18000⟩, ⟨1004252400, -21600⟩, ⟨1018166400, -18000⟩,
    ⟨1035702000, -21600⟩, ⟨1049616000, -18000⟩, ⟨1067151600, -21600⟩, ⟨1081065600, -18000⟩,
    ⟨1099206000, -21600⟩, ⟨1112515200, -18000⟩, ⟨1130655600, -21600⟩, ⟨1143964800, -18000⟩,
    ⟨1162105200, -21600⟩, ⟨1173600000, -18000⟩, ⟨1194159600, -21600⟩, ⟨1205049600, -18000⟩,
    ⟨1225609200, -21600⟩, ⟨1236499200, -18000⟩, ⟨1257058800, -21600⟩, ⟨1268553600, -18000⟩,
    ⟨1289113200, -21600⟩, ⟨1300003200, -18000⟩, ⟨1320562800, -21600⟩, ⟨1331452800, -18000⟩,
    ⟨1352012400, -21600⟩, ⟨1362902400, -18000⟩, ⟨1383462000, -21600⟩, ⟨1394352000, -18000⟩,
    ⟨1414911600, -21600⟩, ⟨1425801600, -18000⟩, ⟨1446361200, -21600⟩, ⟨1457856000, -18000⟩,
    ⟨1478415600, -21600⟩, ⟨1489305600, -18000⟩, ⟨1509865200, -21600⟩, ⟨1520755200, -18000⟩,
    ⟨1541314800, -21600⟩, ⟨1552204800, -18000⟩, ⟨1572764400, -21600⟩, ⟨1583654400, -18000⟩,
    ⟨1604214000, -21600⟩, ⟨1615708800, -18000⟩, ⟨1636268400, -21600⟩, ⟨1647158400, -18000⟩,
    ⟨1667718000, -21600⟩, ⟨1678608000, -18000⟩, ⟨1699167600, -21600⟩, ⟨1710057600, -18000⟩,
    ⟨1730617200, -21600⟩, ⟨1741507200, -18000⟩, ⟨1762066800, -21600⟩, ⟨1772956800, -18000⟩,
    ⟨1793516400, -21600⟩, ⟨1805011200, -18000⟩, ⟨1825570800, -21600⟩, ⟨1836460800, -18000⟩,
    ⟨1857020400, -21600⟩, ⟨1867910400, -18000⟩, ⟨1888470000, -21600⟩, ⟨1899360000, -18000⟩,
    ⟨1919919600, -21600⟩, ⟨1930809600, -18000⟩, ⟨1951369200, -21600⟩, ⟨1962864000, -18000⟩,
    ⟨1983423600, -21600⟩, ⟨1994313600, -18000⟩, ⟨2014873200, -21600⟩, ⟨2025763200, -18000⟩,
    ⟨2046322800, -21600⟩, ⟨2057212800, -18000⟩, ⟨2077772400, -21600⟩, ⟨2088662400, -18000⟩,
    ⟨2109222000, -21600⟩, ⟨2120112000, -18000⟩, ⟨2140671600, -21600⟩, ⟨2152166400, -18000⟩,
    ⟨2172726000, -21600⟩, ⟨2183616000, -18000⟩, ⟨2204175600, -21600⟩, ⟨2215065600, -18000⟩,
    ⟨2235625200, -21600⟩, ⟨2246515200, -18000⟩, ⟨2267074800, -21600⟩, ⟨2277964800, -18000⟩,
    ⟨2298524400, -21600⟩, ⟨2309414400, -18000⟩, ⟨2329974000, -21600⟩, ⟨2341468800, -18000⟩,
    ⟨2362028400, -21600⟩, ⟨2372918400, -18000⟩, ⟨2393478000, -21600⟩, ⟨2404368000, -18000⟩,
    ⟨2424927600, -21600⟩, ⟨2435817600, -18000⟩, ⟨2456377200, -21600⟩, ⟨2467267200, -18000⟩,
    ⟨2487826800, -21600⟩, ⟨2499321600, -18000⟩, ⟨2519881200, -21600⟩, ⟨2530771200, -18000⟩,
    ⟨2551330800, -21600⟩, ⟨2562220800, -18000⟩, ⟨2582780400, -21600⟩, ⟨2593670400, -18000⟩,
    ⟨2614230000, -21600⟩, ⟨2625120000, -18000⟩, ⟨2645679600, -21600⟩, ⟨2656569600, -18000⟩,
    ⟨2677129200, -21600⟩, ⟨2688624000, -18000⟩, ⟨2709183600, -21600⟩, ⟨2720073600, -18000⟩,
    ⟨2740633200, -21600⟩, ⟨2751523200, -18000⟩, ⟨2772082800, -21600⟩, ⟨2782972800, -18000⟩,
    ⟨2803532400, -21600⟩, ⟨2814422400, -18000⟩, ⟨2834982000, -21600⟩, ⟨2846476800, -18000⟩,
    ⟨2867036400, -21600⟩, ⟨2877926400, -18000⟩, ⟨2898486000, -21600⟩, ⟨2909376000, -18000⟩,
    ⟨2929935600, -21600⟩, ⟨2940825600, -18000⟩, ⟨2961385200, -21600⟩, ⟨2972275200, -18000⟩,
    ⟨2992834800, -21600⟩, ⟨3003724800, -18000⟩, ⟨3024284400, -21600⟩, ⟨3035779200, -18000⟩,
    ⟨3056338800, -21600⟩, ⟨3067228800, -18000⟩, ⟨3087788400, -21600⟩, ⟨3098678400, -18000⟩,
    ⟨3119238000, -21600⟩, ⟨3130128000, -18000⟩, ⟨3150687600, -21600⟩, ⟨3161577600, -18000⟩,
    ⟨3182137200, -21600⟩, ⟨3193027200, -18000⟩, ⟨3213586800, -21600⟩, ⟨3225081600, -18000⟩,
    ⟨3245641200, -21600⟩, ⟨3256531200, -18000⟩, ⟨3277090800, -21600⟩, ⟨3287980800, -18000⟩,
    ⟨3308540400, -21600⟩, ⟨3319430400, -18000⟩, ⟨3339990000, -21600⟩, ⟨3350880000, -18000⟩,
    ⟨3371439600, -21600⟩, ⟨3382934400, -18000⟩, ⟨3403494000, -21600⟩, ⟨3414384000, -18000⟩,
    ⟨3434943600, -21600⟩, ⟨3445833600, -18000⟩, ⟨3466393200, -21600⟩, ⟨3477283200, -18000⟩,
    ⟨3497842800, -21600⟩, ⟨3508732800, -18000⟩, ⟨3529292400, -21600⟩, ⟨3540182400, -18000⟩,
    ⟨3560742000, -21600⟩, ⟨3572236800, -18000⟩, ⟨3592796400, -21600⟩, ⟨3603686400, -18000⟩,
    ⟨3624246000, -21600⟩, ⟨3635136000, -18000⟩, ⟨3655695600, -21600⟩, ⟨3666585600, -18000⟩,
    ⟨3687145200, -21600⟩, ⟨3698035200, -18000⟩, ⟨3718594800, -21600⟩, ⟨3730089600, -18000⟩,
    ⟨3750649200, -21600⟩, ⟨3761539200, -18000⟩, ⟨3782098800, -21600⟩, ⟨3792988800, -18000⟩,
    ⟨3813548400, -21600⟩, ⟨3824438400, -18000⟩, ⟨3844998000, -21600⟩, ⟨3855888000, -18000⟩,
    ⟨3876447600, -21600⟩, ⟨3887337600, -18000⟩, ⟨3907897200, -21600⟩, ⟨3919392000, -18000⟩,
    ⟨3939951600, -21600⟩, ⟨3950841600, -18000⟩, ⟨3971401200, -21600⟩, ⟨3982291200, -18000⟩,
    ⟨4002850800, -21600⟩, ⟨4013740800, -18000⟩, ⟨4034300400, -21600⟩, ⟨4045190400, -18000⟩,
    ⟨4065750000, -21600⟩, ⟨4076640000, -18000⟩, ⟨4097199600, -21600⟩]

set_option maxRecDepth 4000 in
def newYork : Rules where
  initial := -17762
  changes := [
    ⟨-2717650800, -18000⟩, ⟨-1633280400, -14400⟩, ⟨-1615140000, -18000⟩, ⟨-1601830800, -14400⟩,
    ⟨-1583690400, -18000⟩, ⟨-1570381200, -14400⟩, ⟨-1551636000, -18000⟩, ⟨-1536512400, -14400⟩,
    ⟨-1523210400, -18000⟩, ⟨-1504458000, -14400⟩, ⟨-1491760800, -18000⟩, ⟨-1473008400, -14400⟩,
    ⟨-1459706400, -18000⟩, ⟨-1441558800, -14400⟩, ⟨-1428256800, -18000⟩, ⟨-1410109200, -14400⟩,
    ⟨-1396807200, -18000⟩, ⟨-1378659600, -14400⟩, ⟨-1365357600, -18000⟩, ⟨-1347210000, -14400⟩,
    ⟨-1333908000, -18000⟩, ⟨-1315155600, -14400⟩, ⟨-1301853600, -18000⟩, ⟨-1283706000, -14400⟩,
    ⟨-1270404000, -18000⟩, ⟨-1252256400, -14400⟩, ⟨-1238954400, -18000⟩, ⟨-1220806800, -14400⟩,
    ⟨-1207504800, -18000⟩, ⟨-1189357200, -14400⟩, ⟨-1176055200, -18000⟩, ⟨-1157302800, -14400⟩,
    ⟨-1144605600, -18000⟩, ⟨-1125853200, -14400⟩, ⟨-1112551200, -18000⟩, ⟨-1094403600, -14400⟩,
    ⟨-1081101600, -18000⟩, ⟨-1062954000, -14400⟩, ⟨-1049652000, -18000⟩, ⟨-1031504400, -14400⟩,
    ⟨-1018202400, -18000⟩, ⟨-1000054800, -14400⟩, ⟨-986752800, -18000⟩, ⟨-968000400, -14400⟩,
    ⟨-955303200, -18000⟩, ⟨-936550800, -14400⟩, ⟨-923248800, -18000⟩, ⟨-905101200, -14400⟩,
    ⟨-891799200, -18000⟩, ⟨-880218000, -14400⟩, ⟨-765396000, -18000⟩, ⟨-747248400, -14400⟩,
    ⟨-733946400, -18000⟩, ⟨-715798800, -14400⟩, ⟨-702496800, -18000⟩, ⟨-684349200, -14400⟩,
    ⟨-671047200, -18000⟩, ⟨-652899600, -14400⟩, ⟨-639597600, -18000⟩, ⟨-620845200, -14400⟩,
    ⟨-608148000, -18000⟩, ⟨-589395600, -14400⟩, ⟨-576093600, -18000⟩, ⟨-557946000, -14400⟩,
    ⟨-544644000, -18000⟩, ⟨-526496400, -14400⟩, ⟨-513194400, -18000⟩, ⟨-495046800, -14400⟩,
    ⟨-481744800, -18000⟩, ⟨-463597200, -14400⟩, ⟨-447271200, -18000⟩, ⟨-431542800, -14400⟩,
    ⟨-415821600, -18000⟩, ⟨-400093200, -14400⟩, ⟨-384372000, -18000⟩, ⟨-368643600, -14400⟩,
    ⟨-352922400, -18000⟩, ⟨-337194000, -14400⟩, ⟨-321472800, -18000⟩, ⟨-305744400, -14400⟩,
    ⟨-289418400, -18000⟩, ⟨-273690000, -14400⟩, ⟨-257968800, -18000⟩, ⟨-242240400, -14400⟩,
    ⟨-226519200, -18000⟩, ⟨-210790800, -14400⟩, ⟨-195069600, -18000⟩, ⟨-179341200, -14400⟩,
    ⟨-163620000, -18000⟩, ⟨-147891600, -14400⟩, ⟨-131565600, -18000⟩, ⟨-116442000, -14400⟩,
    ⟨-100116000, -18000⟩, ⟨-84387600, -14400⟩, ⟨-68666400, -18000⟩, ⟨-52938000, -14400⟩,
    ⟨-37216800, -18000⟩, ⟨-21488400, -14400⟩, ⟨-5767200, -18000⟩, ⟨9961200, -14400⟩,
    ⟨25682400, -18000⟩, ⟨41410800, -14400⟩, ⟨57736800, -18000⟩, ⟨73465200, -14400⟩,
    ⟨89186400, -18000⟩, ⟨104914800, -14400⟩, ⟨120636000, -18000⟩, ⟨126687600, -14400⟩,
    ⟨152085600, -18000⟩, ⟨162370800, -14400⟩, ⟨183535200, -18000⟩, ⟨199263600, -14400⟩,
    ⟨215589600, -18000⟩, ⟨230713200, -14400⟩, ⟨247039200, -18000⟩, ⟨262767600, -14400⟩,
    ⟨278488800, -18000⟩, ⟨294217200, -14400⟩, ⟨309938400, -18000⟩, ⟨325666800, -14400⟩,
    ⟨341388000, -18000⟩, ⟨357116400, -14400⟩, ⟨372837600, -18000⟩, ⟨388566000, -14400⟩,
    ⟨404892000, -18000⟩, ⟨420015600, -14400⟩, ⟨436341600, -18000⟩, ⟨452070000, -14400⟩,
    ⟨467791200, -18000⟩, ⟨483519600, -14400⟩, ⟨499240800, -18000⟩, ⟨514969200, -14400⟩,
    ⟨530690400, -18000⟩, ⟨544604400, -14400⟩, ⟨562140000, -18000⟩, ⟨576054000, -14400⟩,
    ⟨594194400, -18000⟩, ⟨607503600, -14400⟩, ⟨625644000, -18000⟩, ⟨638953200, -14400⟩,
    ⟨657093600, -18000⟩, ⟨671007600, -14400⟩, ⟨688543200, -18000⟩, ⟨702457200, -14400⟩,
    ⟨719992800, -18000⟩, ⟨733906800, -14400⟩, ⟨752047200, -18000⟩, ⟨765356400, -14400⟩,
    ⟨783496800, -18000⟩, ⟨796806000, -14400⟩, ⟨814946400, -18000⟩, ⟨828860400, -14400⟩,
    ⟨846396000, -18000⟩, ⟨860310000, -14400⟩, ⟨877845600, -18000⟩, ⟨891759600, -14400⟩,
    ⟨909295200, -18000⟩, ⟨923209200, -14400⟩, ⟨941349600, -18000⟩, ⟨954658800, -14400⟩,
    ⟨972799200, -18000⟩, ⟨986108400, -14400⟩, ⟨1004248800, -18000⟩, ⟨1018162800, -14400⟩,
    ⟨1035698400, -18000⟩, ⟨1049612400, -14400⟩, ⟨1067148000, -18000⟩, ⟨1081062000, -14400⟩,
    ⟨1099202400, -18000⟩, ⟨1112511600, -14400⟩, ⟨1130652000, -18000⟩, ⟨1143961200, -14400⟩,
    ⟨1162101600, -18000⟩, ⟨1173596400, -14400⟩, ⟨1194156000, -18000⟩, ⟨1205046000, -14400⟩,
    ⟨1225605600, -18000⟩, ⟨1236495600, -14400⟩, ⟨1257055200, -18000⟩, ⟨1268550000, -14400⟩,
    ⟨1289109600, -18000⟩, ⟨1299999600, -14400⟩, ⟨1320559200, -18000⟩, ⟨1331449200, -14400⟩,
    ⟨1352008800, -18000⟩, ⟨1362898800, -14400⟩, ⟨1383458400, -18000⟩, ⟨1394348400, -14400⟩,
    ⟨1414908000, -18000⟩, ⟨1425798000, -14400⟩, ⟨1446357600, -18000⟩, ⟨1457852400, -14400⟩,
    ⟨1478412000, -18000⟩, ⟨1489302000, -14400⟩, ⟨1509861600, -18000⟩, ⟨1520751600, -14400⟩,
    ⟨1541311200, -18000⟩, ⟨1552201200, -14400⟩, ⟨1572760800, -18000⟩, ⟨1583650800, -14400⟩,
    ⟨1604210400, -18000⟩, ⟨1615705200, -14400⟩, ⟨1636264800, -18000⟩, ⟨1647154800, -14400⟩,
    ⟨1667714400, -18000⟩, ⟨1678604400, -14400⟩, ⟨1699164000, -18000⟩, ⟨1710054000, -14400⟩,
    ⟨1730613600, -18000⟩, ⟨1741503600, -14400⟩, ⟨1762063200, -18000⟩, ⟨1772953200, -14400⟩,
    ⟨1793512800, -18000⟩, ⟨1805007600, -14400⟩, ⟨1825567200, -18000⟩, ⟨1836457200, -14400⟩,
    ⟨1857016800, -18000⟩, ⟨1867906800, -14400⟩, ⟨1888466400, -18000⟩, ⟨1899356400, -14400⟩,
    ⟨1919916000, -18000⟩, ⟨1930806000, -14400⟩, ⟨1951365600, -18000⟩, ⟨1962860400, -14400⟩,
    ⟨1983420000, -18000⟩, ⟨1994310000, -14400⟩, ⟨2014869600, -18000⟩, ⟨2025759600, -14400⟩,
    ⟨2046319200, -18000⟩, ⟨2057209200, -14400⟩, ⟨2077768800, -18000⟩, ⟨2088658800, -14400⟩,
    ⟨2109218400, -18000⟩, ⟨2120108400, -14400⟩, ⟨2140668000, -18000⟩, ⟨2152162800, -14400⟩,
    ⟨2172722400, -18000⟩, ⟨2183612400, -14400⟩, ⟨2204172000, -18000⟩, ⟨2215062000, -14400⟩,
    ⟨2235621600, -18000⟩, ⟨2246511600, -14400⟩, ⟨2267071200, -18000⟩, ⟨2277961200, -14400⟩,
    ⟨2298520800, -18000⟩, ⟨2309410800, -14400⟩, ⟨2329970400, -18000⟩, ⟨2341465200, -14400⟩,
    ⟨2362024800, -18000⟩, ⟨2372914800, -14400⟩, ⟨2393474400, -18000⟩, ⟨2404364400, -14400⟩,
    ⟨2424924000, -18000⟩, ⟨2435814000, -14400⟩, ⟨2456373600, -18000⟩, ⟨2467263600, -14400⟩,
    ⟨2487823200, -18000⟩, ⟨2499318000, -14400⟩, ⟨2519877600, -18000⟩, ⟨2530767600, -14400⟩,
    ⟨2551327200, -18000⟩, ⟨2562217200, -14400⟩, ⟨2582776800, -18000⟩, ⟨2593666800, -14400⟩,
    ⟨2614226400, -18000⟩, ⟨2625116400, -14400⟩, ⟨2645676000, -18000⟩, ⟨2656566000, -14400⟩,
    ⟨2677125600, -18000⟩, ⟨2688620400, -14400⟩, ⟨2709180000, -18000⟩, ⟨2720070000, -14400⟩,
    ⟨2740629600, -18000⟩, ⟨2751519600, -14400⟩, ⟨2772079200, -18000⟩, ⟨2782969200, -14400⟩,
    ⟨2803528800, -18000⟩, ⟨2814418800, -14400⟩, ⟨2834978400, -18000⟩, ⟨2846473200, -14400⟩,
    ⟨2867032800, -18000⟩, ⟨2877922800, -14400⟩, ⟨2898482400, -18000⟩, ⟨2909372400, -14400⟩,
    ⟨2929932000, -18000⟩, ⟨2940822000, -14400⟩, ⟨2961381600, -18000⟩, ⟨2972271600, -14400⟩,
    ⟨2992831200, -18000⟩, ⟨3003721200, -14400⟩, ⟨3024280800, -18000⟩, ⟨3035775600, -14400⟩,
    ⟨3056335200, -18000⟩, ⟨3067225200, -14400⟩, ⟨3087784800, -18000⟩, ⟨3098674800, -14400⟩,
    ⟨3119234400, -18000⟩, ⟨3130124400, -14400⟩, ⟨3150684000, -18000⟩, ⟨3161574000, -14400⟩,
    ⟨3182133600, -18000⟩, ⟨3193023600, -14400⟩, ⟨3213583200, -18000⟩, ⟨3225078000, -14400⟩,
    ⟨3245637600, -18000⟩, ⟨3256527600, -14400⟩, ⟨3277087200, -18000⟩, ⟨3287977200, -14400⟩,
    ⟨3308536800, -18000⟩, ⟨3319426800, -14400⟩, ⟨3339986400, -18000⟩, ⟨3350876400, -14400⟩,
    ⟨3371436000, -18000⟩, ⟨3382930800, -14400⟩, ⟨3403490400, -18000⟩, ⟨3414380400, -14400⟩,
    ⟨3434940000, -18000⟩, ⟨3445830000, -14400⟩, ⟨3466389600, -18000⟩, ⟨3477279600, -14400⟩,
    ⟨3497839200, -18000⟩, ⟨3508729200, -14400⟩, ⟨3529288800, -18000⟩, ⟨3540178800, -14400⟩,
    ⟨3560738400, -18000⟩, ⟨3572233200, -14400⟩, ⟨3592792800, -18000⟩, ⟨3603682800, -14400⟩,
    ⟨3624242400, -18000⟩, ⟨3635132400, -14400⟩, ⟨3655692000, -18000⟩, ⟨3666582000, -14400⟩,
    ⟨3687141600, -18000⟩, ⟨3698031600, -14400⟩, ⟨3718591200, -18000⟩, ⟨3730086000, -14400⟩,
    ⟨3750645600, -18000⟩, ⟨3761535600, -14400⟩, ⟨3782095200, -18000⟩, ⟨3792985200, -14400⟩,
    ⟨3813544800, -18000⟩, ⟨3824434800, -14400⟩, ⟨3844994400, -18000⟩, ⟨3855884400, -14400⟩,
    ⟨3876444000, -18000⟩, ⟨3887334000, -14400⟩, ⟨3907893600, -18000⟩, ⟨3919388400, -14400⟩,
    ⟨3939948000, -18000⟩, ⟨3950838000, -14400⟩, ⟨3971397600, -18000⟩, ⟨3982287600, -14400⟩,
    ⟨4002847200, -18000⟩, ⟨4013737200, -14400⟩, ⟨4034296800, -18000⟩, ⟨4045186800, -14400⟩,
    ⟨4065746400, -18000⟩, ⟨4076636400, -14400⟩, ⟨4097196000, -18000⟩]

set_option maxRecDepth 4000 in
def toronto : Rules where
  initial := -19052
  changes := [
    ⟨-2366736148, -18000⟩, ⟨-1632070800, -14400⟩, ⟨-1615140000, -18000⟩, ⟨-1601753400, -14400⟩,
    ⟨-1583697600, -18000⟩, ⟨-1567357200, -14400⟩, ⟨-1554667200, -18000⟩, ⟨-1534698000, -14400⟩,
    ⟨-1524074400, -18000⟩, ⟨-1503248400, -14400⟩, ⟨-1492365600, -18000⟩, ⟨-1471798800, -14400⟩,
    ⟨-1460916000, -18000⟩, ⟨-1440954000, -14400⟩, ⟨-1428861600, -18000⟩, ⟨-1409504400, -14400⟩,
    ⟨-1397412000, -18000⟩, ⟨-1378054800, -14400⟩, ⟨-1365962400, -18000⟩, ⟨-1346605200, -14400⟩,
    ⟨-1333908000, -18000⟩, ⟨-1315155600, -14400⟩, ⟨-1301853600, -18000⟩, ⟨-1283706000, -14400⟩,
    ⟨-1270404000, -18000⟩, ⟨-1252256400, -14400⟩, ⟨-1238954400, -18000⟩, ⟨-1220806800, -14400⟩,
    ⟨-1207504800, -18000⟩, ⟨-1188752400, -14400⟩, ⟨-1176055200, -18000⟩, ⟨-1157302800, -14400⟩,
    ⟨-1144000800, -18000⟩, ⟨-1125853200, -14400⟩, ⟨-1112551200, -18000⟩, ⟨-1094403600, -14400⟩,
    ⟨-1081101600, -18000⟩, ⟨-1062954000, -14400⟩, ⟨-1049652000, -18000⟩, ⟨-1031504400, -14400⟩,
    ⟨-1018202400, -18000⟩, ⟨-1000054800, -14400⟩, ⟨-986752800, -18000⟩, ⟨-968000400, -14400⟩,
    ⟨-955303200, -18000⟩, ⟨-936550800, -14400⟩, ⟨-765396000, -18000⟩, ⟨-747248400, -14400⟩,
    ⟨-733946400, -18000⟩, ⟨-715798800, -14400⟩, ⟨-702496800, -18000⟩, ⟨-684349200, -14400⟩,
    ⟨-671047200, -18000⟩, ⟨-652899600, -14400⟩, ⟨-634154400, -18000⟩, ⟨-620845200, -14400⟩,
    ⟨-602704800, -18000⟩, ⟨-589395600, -14400⟩, ⟨-576093600, -18000⟩, ⟨-557946000, -14400⟩,
    ⟨-544644000, -18000⟩, ⟨-526496400, -14400⟩, ⟨-513194400, -18000⟩, ⟨-495046800, -14400⟩,
    ⟨-481744800, -18000⟩, ⟨-463597200, -14400⟩, ⟨-450295200, -18000⟩, ⟨-431542800, -14400⟩,
    ⟨-418240800, -18000⟩, ⟨-400093200, -14400⟩, ⟨-384372000, -18000⟩, ⟨-368643600, -14400⟩,
    ⟨-352922400, -18000⟩, ⟨-337194000, -14400⟩, ⟨-321472800, -18000⟩, ⟨-305744400, -14400⟩,
    ⟨-289418400, -18000⟩, ⟨-273690000, -14400⟩, ⟨-257968800, -18000⟩, ⟨-242240400, -14400⟩,
    ⟨-226519200, -18000⟩, ⟨-210790800, -14400⟩, ⟨-195069600, -18000⟩, ⟨-179341200, -14400⟩,
    ⟨-163620000, -18000⟩, ⟨-147891600, -14400⟩, ⟨-131565600, -18000⟩, ⟨-116442000, -14400⟩,
    ⟨-100116000, -18000⟩, ⟨-84387600, -14400⟩, ⟨-68666400, -18000⟩, ⟨-52938000, -14400⟩,
    ⟨-37216800, -18000⟩, ⟨-21488400, -14400⟩, ⟨-5767200, -18000⟩, ⟨9961200, -14400⟩,
    ⟨25682400, -18000⟩, ⟨41410800, -14400⟩, ⟨57736800, -18000⟩, ⟨73465200, -14400⟩,
    ⟨89186400, -18000⟩, ⟨104914800, -14400⟩, ⟨120636000, -18000⟩, ⟨136364400, -14400⟩,
    ⟨152085600, -18000⟩, ⟨167814000, -14400⟩, ⟨183535200, -18000⟩, ⟨199263600, -14400⟩,
    ⟨215589600, -18000⟩, ⟨230713200, -14400⟩, ⟨247039200, -18000⟩, ⟨262767600, -14400⟩,
    ⟨278488800, -18000⟩, ⟨294217200, -14400⟩, ⟨309938400, -18000⟩, ⟨325666800, -14400⟩,
    ⟨341388000, -18000⟩, ⟨357116400, -14400⟩, ⟨372837600, -18000⟩, ⟨388566000, -14400⟩,
    ⟨404892000, -18000⟩, ⟨420015600, -14400⟩, ⟨436341600, -18000⟩, ⟨452070000, -14400⟩,
    ⟨467791200, -18000⟩, ⟨483519600, -14400⟩, ⟨499240800, -18000⟩, ⟨514969200, -14400⟩,
    ⟨530690400, -18000⟩, ⟨544604400, -14400⟩, ⟨562140000, -18000⟩, ⟨576054000, -14400⟩,
    ⟨594194400, -18000⟩, ⟨607503600, -14400⟩, ⟨625644000, -18000⟩, ⟨638953200, -14400⟩,
    ⟨657093600, -18000⟩, ⟨671007600, -14400⟩, ⟨688543200, -18000⟩, ⟨702457200, -14400⟩,
    ⟨719992800, -18000⟩, ⟨733906800, -14400⟩, ⟨752047200, -18000⟩, ⟨765356400, -14400⟩,
    ⟨783496800, -18000⟩, ⟨796806000, -14400⟩, ⟨814946400, -18000⟩, ⟨828860400, -14400⟩,
    ⟨846396000, -18000⟩, ⟨860310000, -14400⟩, ⟨877845600, -18000⟩, ⟨891759600, -14400⟩,
    ⟨909295200, -18000⟩, ⟨923209200, -14400⟩, ⟨941349600, -18000⟩, ⟨954658800, -14400⟩,
    ⟨972799200, -18000⟩, ⟨986108400, -14400⟩, ⟨1004248800, -18000⟩, ⟨1018162800, -14400⟩,
    ⟨1035698400, -18000⟩, ⟨1049612400, -14400⟩, ⟨1067148000, -18000⟩, ⟨1081062000, -14400⟩,
    ⟨1099202400, -18000⟩, ⟨1112511600, -14400⟩, ⟨1130652000, -18000⟩, ⟨1143961200, -14400⟩,
    ⟨1162101600, -18000⟩, ⟨1173596400, -14400⟩, ⟨1194156000, -18000⟩, ⟨1205046000, -14400⟩,
    ⟨1225605600, -18000⟩, ⟨1236495600, -14400⟩, ⟨1257055200, -18000⟩, ⟨1268550000, -14400⟩,
    ⟨1289109600, -18000⟩, ⟨1299999600, -14400⟩, ⟨1320559200, -18000⟩, ⟨1331449200, -14400⟩,
    ⟨1352008800, -18000⟩, ⟨1362898800, -14400⟩, ⟨1383458400, -18000⟩, ⟨1394348400, -14400⟩,
    ⟨1414908000, -18000⟩, ⟨1425798000, -14400⟩, ⟨1446357600, -18000⟩, ⟨1457852400, -14400⟩,
    ⟨1478412000, -18000⟩, ⟨1489302000, -14400⟩, ⟨1509861600, -18000⟩, ⟨1520751600, -14400⟩,
    ⟨1541311200, -18000⟩, ⟨1552201200, -14400⟩, ⟨1572760800, -18000⟩, ⟨1583650800, -14400⟩,
    ⟨1604210400, -18000⟩, ⟨1615705200, -14400⟩, ⟨1636264800, -18000⟩, ⟨1647154800, -14400⟩,
    ⟨1667714400, -18000⟩, ⟨1678604400, -14400⟩, ⟨1699164000, -18000⟩, ⟨1710054000, -14400⟩,
    ⟨1730613600, -18000⟩, ⟨1741503600, -14400⟩, ⟨1762063200, -18000⟩, ⟨1772953200, -14400⟩,
    ⟨1793512800, -18000⟩, ⟨1805007600, -14400⟩, ⟨1825567200, -18000⟩, ⟨1836457200, -14400⟩,
    ⟨1857016800, -18000⟩, ⟨1867906800, -14400⟩, ⟨1888466400, -18000⟩, ⟨1899356400, -14400⟩,
    ⟨1919916000, -18000⟩, ⟨1930806000, -14400⟩, ⟨1951365600, -18000⟩, ⟨1962860400, -14400⟩,
    ⟨1983420000, -18000⟩, ⟨1994310000, -14400⟩, ⟨2014869600, -18000⟩, ⟨2025759600, -14400⟩,
    ⟨2046319200, -18000⟩, ⟨2057209200, -14400⟩, ⟨2077768800, -18000⟩, ⟨2088658800, -14400⟩,
    ⟨2109218400, -18000⟩, ⟨2120108400, -14400⟩, ⟨2140668000, -18000⟩, ⟨2152162800, -14400⟩,
    ⟨2172722400, -18000⟩, ⟨2183612400, -14400⟩, ⟨2204172000, -18000⟩, ⟨2215062000, -14400⟩,
    ⟨2235621600, -18000⟩, ⟨2246511600, -14400⟩, ⟨2267071200, -18000⟩, ⟨2277961200, -14400⟩,
    ⟨2298520800, -18000⟩, ⟨2309410800, -14400⟩, ⟨2329970400, -18000⟩, ⟨2341465200, -14400⟩,
    ⟨2362024800, -18000⟩, ⟨2372914800, -14400⟩, ⟨2393474400, -18000⟩, ⟨2404364400, -14400⟩,
    ⟨2424924000, -18000⟩, ⟨2435814000, -14400⟩, ⟨2456373600, -18000⟩, ⟨2467263600, -14400⟩,
    ⟨2487823200, -18000⟩, ⟨2499318000, -14400⟩, ⟨2519877600, -18000⟩, ⟨2530767600, -14400⟩,
    ⟨2551327200, -18000⟩, ⟨2562217200, -14400⟩, ⟨2582776800, -18000⟩, ⟨2593666800, -14400⟩,
    ⟨2614226400, -18000⟩, ⟨2625116400, -14400⟩, ⟨2645676000, -18000⟩, ⟨2656566000, -14400⟩,
    ⟨2677125600, -18000⟩, ⟨2688620400, -14400⟩, ⟨2709180000, -18000⟩, ⟨2720070000, -14400⟩,
    ⟨2740629600, -18000⟩, ⟨2751519600, -14400⟩, ⟨2772079200, -18000⟩, ⟨2782969200, -14400⟩,
    ⟨2803528800, -18000⟩, ⟨2814418800, -14400⟩, ⟨2834978400, -18000⟩, ⟨2846473200, -14400⟩,
    ⟨2867032800, -18000⟩, ⟨2877922800, -14400⟩, ⟨2898482400, -18000⟩, ⟨2909372400, -14400⟩,
    ⟨2929932000, -18000⟩, ⟨2940822000, -14400⟩, ⟨2961381600, -18000⟩, ⟨2972271600, -14400⟩,
    ⟨2992831200, -18000⟩, ⟨3003721200, -14400⟩, ⟨3024280800, -18000⟩, ⟨3035775600, -14400⟩,
    ⟨3056335200, -18000⟩, ⟨3067225200, -14400⟩, ⟨3087784800, -18000⟩, ⟨3098674800, -14400⟩,
    ⟨3119234400, -18000⟩, ⟨3130124400, -14400⟩, ⟨3150684000, -18000⟩, ⟨3161574000, -14400⟩,
    ⟨3182133600, -18000⟩, ⟨3193023600, -14400⟩, ⟨3213583200, -18000⟩, ⟨3225078000, -14400⟩,
    ⟨3245637600, -18000⟩, ⟨3256527600, -14400⟩, ⟨3277087200, -18000⟩, ⟨3287977200, -14400⟩,
    ⟨3308536800, -18000⟩, ⟨3319426800, -14400⟩, ⟨3339986400, -18000⟩, ⟨3350876400, -14400⟩,
    ⟨3371436000, -18000⟩, ⟨3382930800, -14400⟩, ⟨3403490400, -18000⟩, ⟨3414380400, -14400⟩,
    ⟨3434940000, -18000⟩, ⟨3445830000, -14400⟩, ⟨3466389600, -18000⟩, ⟨3477279600, -14400⟩,
    ⟨3497839200, -18000⟩, ⟨3508729200, -14400⟩, ⟨3529288800, -18000⟩, ⟨3540178800, -14400⟩,
    ⟨3560738400, -18000⟩, ⟨3572233200, -14400⟩, ⟨3592792800, -18000⟩, ⟨3603682800, -14400⟩,
    ⟨3624242400, -18000⟩, ⟨3635132400, -14400⟩, ⟨3655692000, -18000⟩, ⟨3666582000, -14400⟩,
    ⟨3687141600, -18000⟩, ⟨3698031600, -14400⟩, ⟨3718591200, -18000⟩, ⟨3730086000, -14400⟩,
    ⟨3750645600, -18000⟩, ⟨3761535600, -14400⟩, ⟨3782095200, -18000⟩, ⟨3792985200, -14400⟩,
    ⟨3813544800, -18000⟩, ⟨3824434800, -14400⟩, ⟨3844994400, -18000⟩, ⟨3855884400, -14400⟩,
    ⟨3876444000, -18000⟩, ⟨3887334000, -14400⟩, ⟨3907893600, -18000⟩, ⟨3919388400, -14400⟩,
    ⟨3939948000, -18000⟩, ⟨3950838000, -14400⟩, ⟨3971397600, -18000⟩, ⟨3982287600, -14400⟩,
    ⟨4002847200, -18000⟩, ⟨4013737200, -14400⟩, ⟨4034296800, -18000⟩, ⟨4045186800, -14400⟩,
    ⟨4065746400, -18000⟩, ⟨4076636400, -14400⟩, ⟨4097196000, -18000⟩]

set_option maxRecDepth 4000 in
def losAngeles : Rules where
  initial := -28378
  changes := [
    ⟨-2717640000, -28800⟩, ⟨-1633269600, -25200⟩, ⟨-1615129200, -28800⟩, ⟨-1601820000, -25200⟩,
    ⟨-1583679600, -28800⟩, ⟨-880207200, -25200⟩, ⟨-765385200, -28800⟩, ⟨-687967140, -25200⟩,
    ⟨-662655600, -28800⟩, ⟨-620838000, -25200⟩, ⟨-608137200, -28800⟩, ⟨-589388400, -25200⟩,
    ⟨-576082800, -28800⟩, ⟨-557938800, -25200⟩, ⟨-544633200, -28800⟩, ⟨-526489200, -25200⟩,
    ⟨-513183600, -28800⟩, ⟨-495039600, -25200⟩, ⟨-481734000, -28800⟩, ⟨-463590000, -25200⟩,
    ⟨-450284400, -28800⟩, ⟨-431535600, -25200⟩, ⟨-418230000, -28800⟩, ⟨-400086000, -25200⟩,
    ⟨-386780400, -28800⟩, ⟨-368636400, -25200⟩, ⟨-355330800, -28800⟩, ⟨-337186800, -25200⟩,
    ⟨-323881200, -28800⟩, ⟨-305737200, -25200⟩, ⟨-292431600, -28800⟩, ⟨-273682800, -25200⟩,
    ⟨-260982000, -28800⟩, ⟨-242233200, -25200⟩, ⟨-226508400, -28800⟩, ⟨-210783600, -25200⟩,
    ⟨-195058800, -28800⟩, ⟨-179334000, -25200⟩, ⟨-163609200, -28800⟩, ⟨-147884400, -25200⟩,
    ⟨-131554800, -28800⟩, ⟨-116434800, -25200⟩, ⟨-100105200, -28800⟩, ⟨-84376800, -25200⟩,
    ⟨-68655600, -28800⟩, ⟨-52927200, -25200⟩, ⟨-37206000, -28800⟩, ⟨-21477600, -25200⟩,
    ⟨-5756400, -28800⟩, ⟨9972000, -25200⟩, ⟨25693200, -28800⟩, ⟨41421600, -25200⟩,
    ⟨57747600, -28800⟩, ⟨73476000, -25200⟩, ⟨89197200, -28800⟩, ⟨104925600, -25200⟩,
    ⟨120646800, -28800⟩, ⟨126698400, -25200⟩, ⟨152096400, -28800⟩, ⟨162381600, -25200⟩,
    ⟨183546000, -28800⟩, ⟨199274400, -25200⟩, ⟨215600400, -28800⟩, ⟨230724000, -25200⟩,
    ⟨247050000, -28800⟩, ⟨262778400, -25200⟩, ⟨278499600, -28800⟩, ⟨294228000, -25200⟩,
    ⟨309949200, -28800⟩, ⟨325677600, -25200⟩, ⟨341398800, -28800⟩, ⟨357127200, -25200⟩,
    ⟨372848400, -28800⟩, ⟨388576800, -25200⟩, ⟨404902800, -28800⟩, ⟨420026400, -25200⟩,
    ⟨436352400, -28800⟩, ⟨452080800, -25200⟩, ⟨467802000, -28800⟩, ⟨483530400, -25200⟩,
    ⟨499251600, -28800⟩, ⟨514980000, -25200⟩, ⟨530701200, -28800⟩, ⟨544615200, -25200⟩,
    ⟨562150800, -28800⟩, ⟨576064800, -25200⟩, ⟨594205200, -28800⟩, ⟨607514400, -25200⟩,
    ⟨625654800, -28800⟩, ⟨638964000, -25200⟩, ⟨657104400, -28800⟩, ⟨671018400, -25200⟩,
    ⟨688554000, -28800⟩, ⟨702468000, -25200⟩, ⟨720003600, -28800⟩, ⟨733917600, -25200⟩,
    ⟨752058000, -28800⟩, ⟨765367200, -25200⟩, ⟨783507600, -28800⟩, ⟨796816800, -25200⟩,
    ⟨814957200, -28800⟩, ⟨828871200, -25200⟩, ⟨846406800, -28800⟩, ⟨860320800, -25200⟩,
    ⟨877856400, -28800⟩, ⟨891770400, -25200⟩, ⟨909306000, -28800⟩, ⟨923220000, -25200⟩,
    ⟨941360400, -28800⟩, ⟨954669600, -25200⟩, ⟨972810000, -28800⟩, ⟨986119200, -25200⟩,
    ⟨1004259600, -28800⟩, ⟨1018173600, -25200⟩, ⟨1035709200, -28800⟩, ⟨1049623200, -25200⟩,
    ⟨1067158800, -28800⟩, ⟨1081072800, -25200⟩, ⟨1099213200, -28800⟩, ⟨1112522400, -25200⟩,
    ⟨1130662800, -28800⟩, ⟨1143972000, -25200⟩, ⟨1162112400, -28800⟩, ⟨1173607200, -25200⟩,
    ⟨1194166800, -28800⟩, ⟨1205056800, -25200⟩, ⟨1225616400, -28800⟩, ⟨1236506400, -25200⟩,
    ⟨1257066000, -28800⟩, ⟨1268560800, -25200⟩, ⟨1289120400, -28800⟩, ⟨1300010400, -25200⟩,
    ⟨1320570000, -28800⟩, ⟨1331460000, -25200⟩, ⟨1352019600, -28800⟩, ⟨1362909600, -25200⟩,
    ⟨1383469200, -28800⟩, ⟨1394359200, -25200⟩, ⟨1414918800, -28800⟩, ⟨1425808800, -25200⟩,
    ⟨1446368400, -28800⟩, ⟨1457863200, -25200⟩, ⟨1478422800, -28800⟩, ⟨1489312800, -25200⟩,
    ⟨1509872400, -28800⟩, ⟨1520762400, -25200⟩, ⟨1541322000, -28800⟩, ⟨1552212000, -25200⟩,
    ⟨1572771600, -28800⟩, ⟨1583661600, -25200⟩, ⟨1604221200, -28800⟩, ⟨1615716000, -25200⟩,
    ⟨1636275600, -28800⟩, ⟨1647165600, -25200⟩, ⟨1667725200, -28800⟩, ⟨1678615200, -25200⟩,
    ⟨1699174800, -28800⟩, ⟨1710064800, -25200⟩, ⟨1730624400, -28800⟩, ⟨1741514400, -25200⟩,
    ⟨1762074000, -28800⟩, ⟨1772964000, -25200⟩, ⟨1793523600, -28800⟩, ⟨1805018400, -25200⟩,
    ⟨1825578000, -28800⟩, ⟨1836468000, -25200⟩, ⟨1857027600, -28800⟩, ⟨1867917600, -25200⟩,
    ⟨1888477200, -28800⟩, ⟨1899367200, -25200⟩, ⟨1919926800, -28800⟩, ⟨1930816800, -25200⟩,
    ⟨1951376400, -28800⟩, ⟨1962871200, -25200⟩, ⟨1983430800, -28800⟩, ⟨1994320800, -25200⟩,
    ⟨2014880400, -28800⟩, ⟨2025770400, -25200⟩, ⟨2046330000, -28800⟩, ⟨2057220000, -25200⟩,
    ⟨2077779600, -28800⟩, ⟨2088669600, -25200⟩, ⟨2109229200, -28800⟩, ⟨2120119200, -25200⟩,
    ⟨2140678800, -28800⟩, ⟨2152173600, -25200⟩, ⟨2172733200, -28800⟩, ⟨2183623200, -25200⟩,
    ⟨2204182800, -28800⟩, ⟨2215072800, -25200⟩, ⟨2235632400, -28800⟩, ⟨2246522400, -25200⟩,
    ⟨2267082000, -28800⟩, ⟨2277972000, -25200⟩, ⟨2298531600, -28800⟩, ⟨2309421600, -25200⟩,
    ⟨2329981200, -28800⟩, ⟨2341476000, -25200⟩, ⟨2362035600, -28800⟩, ⟨2372925600, -25200⟩,
    ⟨2393485200, -28800⟩, ⟨2404375200, -25200⟩, ⟨2424934800, -28800⟩, ⟨2435824800, -25200⟩,
    ⟨2456384400, -28800⟩, ⟨2467274400, -25200⟩, ⟨2487834000, -28800⟩, ⟨2499328800, -25200⟩,
    ⟨2519888400, -28800⟩, ⟨2530778400, -25200⟩, ⟨2551338000, -28800⟩, ⟨2562228000, -25200⟩,
    ⟨2582787600, -28800⟩, ⟨2593677600, -25200⟩, ⟨2614237200, -28800⟩, ⟨2625127200, -25200⟩,
    ⟨2645686800, -28800⟩, ⟨2656576800, -25200⟩, ⟨2677136400, -28800⟩, ⟨2688631200, -25200⟩,
    ⟨2709190800, -28800⟩, ⟨2720080800, -25200⟩, ⟨2740640400, -28800⟩, ⟨2751530400, -25200⟩,
    ⟨2772090000, -28800⟩, ⟨2782980000, -25200⟩, ⟨2803539600, -28800⟩, ⟨2814429600, -25200⟩,
    ⟨2834989200, -28800⟩, ⟨2846484000, -25200⟩, ⟨2867043600, -28800⟩, ⟨2877933600, -25200⟩,
    ⟨2898493200, -28800⟩, ⟨2909383200, -25200⟩, ⟨2929942800, -28800⟩, ⟨2940832800, -25200⟩,
    ⟨2961392400, -28800⟩, ⟨2972282400, -25200⟩, ⟨2992842000, -28800⟩, ⟨3003732000, -25200⟩,
    ⟨3024291600, -28800⟩, ⟨3035786400, -25200⟩, ⟨3056346000, -28800⟩, ⟨3067236000, -25200⟩,
    ⟨3087795600, -28800⟩, ⟨3098685600, -25200⟩, ⟨3119245200, -28800⟩, ⟨3130135200, -25200⟩,
    ⟨3150694800, -28800⟩, ⟨3161584800, -25200⟩, ⟨3182144400, -28800⟩, ⟨3193034400, -25200⟩,
    ⟨3213594000, -28800⟩, ⟨3225088800, -25200⟩, ⟨3245648400, -28800⟩, ⟨3256538400, -25200⟩,
    ⟨3277098000, -28800⟩, ⟨3287988000, -25200⟩, ⟨3308547600, -28800⟩, ⟨3319437600, -25200⟩,
    ⟨3339997200, -28800⟩, ⟨3350887200, -25200⟩, ⟨3371446800, -28800⟩, ⟨3382941600, -25200⟩,
    ⟨3403501200, -28800⟩, ⟨3414391200, -25200⟩, ⟨3434950800, -28800⟩, ⟨3445840800, -25200⟩,
    ⟨3466400400, -28800⟩, ⟨3477290400, -25200⟩, ⟨3497850000, -28800⟩, ⟨3508740000, -25200⟩,
    ⟨3529299600, -28800⟩, ⟨3540189600, -25200⟩, ⟨3560749200, -28800⟩, ⟨3572244000, -25200⟩,
    ⟨3592803600, -28800⟩, ⟨3603693600, -25200⟩, ⟨3624253200, -28800⟩, ⟨3635143200, -25200⟩,
    ⟨3655702800, -28800⟩, ⟨3666592800, -25200⟩, ⟨3687152400, -28800⟩, ⟨3698042400, -25200⟩,
    ⟨3718602000, -28800⟩, ⟨3730096800, -25200⟩, ⟨3750656400, -28800⟩, ⟨3761546400, -25200⟩,
    ⟨3782106000, -28800⟩, ⟨3792996000, -25200⟩, ⟨3813555600, -28800⟩, ⟨3824445600, -25200⟩,
    ⟨3845005200, -28800⟩, ⟨3855895200, -25200⟩, ⟨3876454800, -28800⟩, ⟨3887344800, -25200⟩,
    ⟨3907904400, -28800⟩, ⟨3919399200, -25200⟩, ⟨3939958800, -28800⟩, ⟨3950848800, -25200⟩,
    ⟨3971408400, -28800⟩, ⟨3982298400, -25200⟩, ⟨4002858000, -28800⟩, ⟨4013748000, -25200⟩,
    ⟨4034307600, -28800⟩, ⟨4045197600, -25200⟩, ⟨4065757200, -28800⟩, ⟨4076647200, -25200⟩,
    ⟨4097206800, -28800⟩]

set_option maxRecDepth 4000 in
def stJohns : Rules where
  initial := -12652
  changes := [
    ⟨-1664130548, -9052⟩, ⟨-1650137348, -12652⟩, ⟨-1632076148, -9052⟩, ⟨-1615145348, -12652⟩,
    ⟨-1598650148, -9052⟩, ⟨-1590100148, -12652⟩, ⟨-1567286948, -9052⟩, ⟨-1551565748, -12652⟩,
    ⟨-1535837348, -9052⟩, ⟨-1520116148, -12652⟩, ⟨-1503782948, -9052⟩, ⟨-1488666548, -12652⟩,
    ⟨-1472333348, -9052⟩, ⟨-1457216948, -12652⟩, ⟨-1440883748, -9052⟩, ⟨-1425767348, -12652⟩,
    ⟨-1409434148, -9052⟩, ⟨-1394317748, -12652⟩, ⟨-1377984548, -9052⟩, ⟨-1362263348, -12652⟩,
    ⟨-1346534948, -9052⟩, ⟨-1330813748, -12652⟩, ⟨-1314480548, -9052⟩, ⟨-1299364148, -12652⟩,
    ⟨-1283030948, -9052⟩, ⟨-1267914548, -12652⟩, ⟨-1251581348, -9052⟩, ⟨-1236464948, -12652⟩,
    ⟨-1220131748, -9052⟩, ⟨-1205015348, -12652⟩, ⟨-1188682148, -9052⟩, ⟨-1172960948, -12652⟩,
    ⟨-1156627748, -9052⟩, ⟨-1141511348, -12652⟩, ⟨-1125178148, -9052⟩, ⟨-1110061748, -12652⟩,
    ⟨-1096921748, -12600⟩, ⟨-1093728600, -9000⟩, ⟨-1078612200, -12600⟩, ⟨-1061670600, -9000⟩,
    ⟨-1048973400, -12600⟩, ⟨-1030221000, -9000⟩, ⟨-1017523800, -12600⟩, ⟨-998771400, -9000⟩,
    ⟨-986074200, -12600⟩, ⟨-966717000, -9000⟩, ⟨-954624600, -12600⟩, ⟨-935267400, -9000⟩,
    ⟨-922570200, -12600⟩, ⟨-903817800, -9000⟩, ⟨-891120600, -12600⟩, ⟨-872368200, -9000⟩,
    ⟨-765401400, -12600⟩, ⟨-746044200, -9000⟩, ⟨-733347000, -12600⟩, ⟨-714594600, -9000⟩,
    ⟨-701897400, -12600⟩, ⟨-683145000, -9000⟩, ⟨-670447800, -12600⟩, ⟨-651695400, -9000⟩,
    ⟨-638998200, -12600⟩, ⟨-619641000, -9000⟩, ⟨-606943800, -12600⟩, ⟨-589401000, -9000⟩,
    ⟨-576099000, -12600⟩, ⟨-557951400, -9000⟩, ⟨-544649400, -12600⟩, ⟨-526501800, -9000⟩,
    ⟨-513199800, -12600⟩, ⟨-495052200, -9000⟩, ⟨-481750200, -12600⟩, ⟨-463602600, -9000⟩,
    ⟨-450300600, -12600⟩, ⟨-431548200, -9000⟩, ⟨-418246200, -12600⟩, ⟨-400098600, -9000⟩,
    ⟨-386796600, -12600⟩, ⟨-368649000, -9000⟩, ⟨-355347000, -12600⟩, ⟨-337199400, -9000⟩,
    ⟨-323897400, -12600⟩, ⟨-305749800, -9000⟩, ⟨-289423800, -12600⟩, ⟨-273695400, -9000⟩,
    ⟨-257974200, -12600⟩, ⟨-242245800, -9000⟩, ⟨-226524600, -12600⟩, ⟨-210796200, -9000⟩,
    ⟨-195075000, -12600⟩, ⟨-179346600, -9000⟩, ⟨-163625400, -12600⟩, ⟨-147897000, -9000⟩,
    ⟨-131571000, -12600⟩, ⟨-116447400, -9000⟩, ⟨-100121400, -12600⟩, ⟨-84393000, -9000⟩,
    ⟨-68671800, -12600⟩, ⟨-52943400, -9000⟩, ⟨-37222200, -12600⟩, ⟨-21493800, -9000⟩,
    ⟨-5772600, -12600⟩, ⟨9955800, -9000⟩, ⟨25677000, -12600⟩, ⟨41405400, -9000⟩,
    ⟨57731400, -12600⟩, ⟨73459800, -9000⟩, ⟨89181000, -12600⟩, ⟨104909400, -9000⟩,
    ⟨120630600, -12600⟩, ⟨136359000, -9000⟩, ⟨152080200, -12600⟩, ⟨167808600, -9000⟩,
    ⟨183529800, -12600⟩, ⟨199258200, -9000⟩, ⟨215584200, -12600⟩, ⟨230707800, -9000⟩,
    ⟨247033800, -12600⟩, ⟨262762200, -9000⟩, ⟨278483400, -12600⟩, ⟨294211800, -9000⟩,
    ⟨309933000, -12600⟩, ⟨325661400, -9000⟩, ⟨341382600, -12600⟩, ⟨357111000, -9000⟩,
    ⟨372832200, -12600⟩, ⟨388560600, -9000⟩, ⟨404886600, -12600⟩, ⟨420010200, -9000⟩,
    ⟨436336200, -12600⟩, ⟨452064600, -9000⟩, ⟨467785800, -12600⟩, ⟨483514200, -9000⟩,
    ⟨499235400, -12600⟩, ⟨514963800, -9000⟩, ⟨530685000, -12600⟩, ⟨544591860, -9000⟩,
    ⟨562127460, -12600⟩, ⟨576041460, -5400⟩, ⟨594178260, -12600⟩, ⟨607491060, -9000⟩,
    ⟨625631460, -12600⟩, ⟨638940660, -9000⟩, ⟨657081060, -12600⟩, ⟨670995060, -9000⟩,
    ⟨688530660, -12600⟩, ⟨702444660, -9000⟩, ⟨719980260, -12600⟩, ⟨733894260, -9000⟩,
    ⟨752034660, -12600⟩, ⟨765343860, -9000⟩, ⟨783484260, -12600⟩, ⟨796793460, -9000⟩,
    ⟨814933860, -12600⟩, ⟨828847860, -9000⟩, ⟨846383460, -12600⟩, ⟨860297460, -9000⟩,
    ⟨877833060, -12600⟩, ⟨891747060, -9000⟩, ⟨909282660, -12600⟩, ⟨923196660, -9000⟩,
    ⟨941337060, -12600⟩, ⟨954646260, -9000⟩, ⟨972786660, -12600⟩, ⟨986095860, -9000⟩,
    ⟨1004236260, -12600⟩, ⟨1018150260, -9000⟩, ⟨1035685860, -12600⟩, ⟨1049599860, -9000⟩,
    ⟨1067135460, -12600⟩, ⟨1081049460, -9000⟩, ⟨1099189860, -12600⟩, ⟨1112499060, -9000⟩,
    ⟨1130639460, -12600⟩, ⟨1143948660, -9000⟩, ⟨1162089060, -12600⟩, ⟨1173583860, -9000⟩,
    ⟨1194143460, -12600⟩, ⟨1205033460, -9000⟩, ⟨1225593060, -12600⟩, ⟨1236483060, -9000⟩,
    ⟨1257042660, -12600⟩, ⟨1268537460, -9000⟩, ⟨1289097060, -12600⟩, ⟨1299987060, -9000⟩,
    ⟨1320553800, -12600⟩, ⟨1331443800, -9000⟩, ⟨1352003400, -12600⟩, ⟨1362893400, -9000⟩,
    ⟨1383453000, -12600⟩, ⟨1394343000, -9000⟩, ⟨1414902600, -12600⟩, ⟨1425792600, -9000⟩,
    ⟨1446352200, -12600⟩, ⟨1457847000, -9000⟩, ⟨1478406600, -12600⟩, ⟨1489296600, -9000⟩,
    ⟨1509856200, -12600⟩, ⟨1520746200, -9000⟩, ⟨1541305800, -12600⟩, ⟨1552195800, -9000⟩,
    ⟨1572755400, -12600⟩, ⟨1583645400, -9000⟩, ⟨1604205000, -12600⟩, ⟨1615699800, -9000⟩,
    ⟨1636259400, -12600⟩, ⟨1647149400, -9000⟩, ⟨1667709000, -12600⟩, ⟨1678599000, -9000⟩,
    ⟨1699158600, -12600⟩, ⟨1710048600, -9000⟩, ⟨1730608200, -12600⟩, ⟨1741498200, -9000⟩,
    ⟨1762057800, -12600⟩, ⟨1772947800, -9000⟩, ⟨1793507400, -12600⟩, ⟨1805002200, -9000⟩,
    ⟨1825561800, -12600⟩, ⟨1836451800, -9000⟩, ⟨1857011400, -12600⟩, ⟨1867901400, -9000⟩,
    ⟨1888461000, -12600⟩, ⟨1899351000, -9000⟩, ⟨1919910600, -12600⟩, ⟨1930800600, -9000⟩,
    ⟨1951360200, -12600⟩, ⟨1962855000, -9000⟩, ⟨1983414600, -12600⟩, ⟨1994304600, -9000⟩,
    ⟨2014864200, -12600⟩, ⟨2025754200, -9000⟩, ⟨2046313800, -12600⟩, ⟨2057203800, -9000⟩,
    ⟨2077763400, -12600⟩, ⟨2088653400, -9000⟩, ⟨2109213000, -12600⟩, ⟨2120103000, -9000⟩,
    ⟨2140662600, -12600⟩, ⟨2152157400, -9000⟩, ⟨2172717000, -12600⟩, ⟨2183607000, -9000⟩,
    ⟨2204166600, -12600⟩, ⟨2215056600, -9000⟩, ⟨2235616200, -12600⟩, ⟨2246506200, -9000⟩,
    ⟨2267065800, -12600⟩, ⟨2277955800, -9000⟩, ⟨2298515400, -12600⟩, ⟨2309405400, -9000⟩,
    ⟨2329965000, -12600⟩, ⟨2341459800, -9000⟩, ⟨2362019400, -12600⟩, ⟨2372909400, -9000⟩,
    ⟨2393469000, -12600⟩, ⟨2404359000, -9000⟩, ⟨2424918600, -12600⟩, ⟨2435808600, -9000⟩,
    ⟨2456368200, -12600⟩, ⟨2467258200, -9000⟩, ⟨2487817800, -12600⟩, ⟨2499312600, -9000⟩,
    ⟨2519872200, -12600⟩, ⟨2530762200, -9000⟩, ⟨2551321800, -12600⟩, ⟨2562211800, -9000⟩,
    ⟨2582771400, -12600⟩, ⟨2593661400, -9000⟩, ⟨2614221000, -12600⟩, ⟨2625111000, -9000⟩,
    ⟨2645670600, -12600⟩, ⟨2656560600, -9000⟩, ⟨2677120200, -12600⟩, ⟨2688615000, -9000⟩,
    ⟨2709174600, -12600⟩, ⟨2720064600, -9000⟩, ⟨2740624200, -12600⟩, ⟨2751514200, -9000⟩,
    ⟨2772073800, -12600⟩, ⟨2782963800, -9000⟩, ⟨2803523400, -12600⟩, ⟨2814413400, -9000⟩,
    ⟨2834973000, -12600⟩, ⟨2846467800, -9000⟩, ⟨2867027400, -12600⟩, ⟨2877917400, -9000⟩,
    ⟨2898477000, -12600⟩, ⟨2909367000, -9000⟩, ⟨2929926600, -12600⟩, ⟨2940816600, -9000⟩,
    ⟨2961376200, -12600⟩, ⟨2972266200, -9000⟩, ⟨2992825800, -12600⟩, ⟨3003715800, -9000⟩,
    ⟨3024275400, -12600⟩, ⟨3035770200, -9000⟩, ⟨3056329800, -12600⟩, ⟨3067219800, -9000⟩,
    ⟨3087779400, -12600⟩, ⟨3098669400, -9000⟩, ⟨3119229000, -12600⟩, ⟨3130119000, -9000⟩,
    ⟨3150678600, -12600⟩, ⟨3161568600, -9000⟩, ⟨3182128200, -12600⟩, ⟨3193018200, -9000⟩,
    ⟨3213577800, -12600⟩, ⟨3225072600, -9000⟩, ⟨3245632200, -12600⟩, ⟨3256522200, -9000⟩,
    ⟨3277081800, -12600⟩, ⟨3287971800, -9000⟩, ⟨3308531400, -12600⟩, ⟨3319421400, -9000⟩,
    ⟨3339981000, -12600⟩, ⟨3350871000, -9000⟩, ⟨3371430600, -12600⟩, ⟨3382925400, -9000⟩,
    ⟨3403485000, -12600⟩, ⟨3414375000, -9000⟩, ⟨3434934600, -12600⟩, ⟨3445824600, -9000⟩,
    ⟨3466384200, -12600⟩, ⟨3477274200, -9000⟩, ⟨3497833800, -12600⟩, ⟨3508723800, -9000⟩,
    ⟨3529283400, -12600⟩, ⟨3540173400, -9000⟩, ⟨3560733000, -12600⟩, ⟨3572227800, -9000⟩,
    ⟨3592787400, -12600⟩, ⟨3603677400, -9000⟩, ⟨3624237000, -12600⟩, ⟨3635127000, -9000⟩,
    ⟨3655686600, -12600⟩, ⟨3666576600, -9000⟩, ⟨3687136200, -12600⟩, ⟨3698026200, -9000⟩,
    ⟨3718585800, -12600⟩, ⟨3730080600, -9000⟩, ⟨3750640200, -12600⟩, ⟨3761530200, -9000⟩,
    ⟨3782089800, -12600⟩, ⟨3792979800, -9000⟩, ⟨3813539400, -12600⟩, ⟨3824429400, -9000⟩,
    ⟨3844989000, -12600⟩, ⟨3855879000, -9000⟩, ⟨3876438600, -12600⟩, ⟨3887328600, -9000⟩,
    ⟨3907888200, -12600⟩, ⟨3919383000, -9000⟩, ⟨3939942600, -12600⟩, ⟨3950832600, -9000⟩,
    ⟨3971392200, -12600⟩, ⟨3982282200, -9000⟩, ⟨4002841800, -12600⟩, ⟨4013731800, -9000⟩,
    ⟨4034291400, -12600⟩, ⟨4045181400, -9000⟩, ⟨4065741000, -12600⟩, ⟨4076631000, -9000⟩,
    ⟨4097190600, -12600⟩]

set_option maxRecDepth 4000 in
def havana : Rules where
  initial := -19768
  changes := [
    ⟨-2524501832, -19776⟩, ⟨-1402813824, -18000⟩, ⟨-1311534000, -14400⟩, ⟨-1300996800, -18000⟩,
    ⟨-933534000, -14400⟩, ⟨-925675200, -18000⟩, ⟨-902084400, -14400⟩, ⟨-893620800, -18000⟩,
    ⟨-870030000, -14400⟩, ⟨-862171200, -18000⟩, ⟨-775681200, -14400⟩, ⟨-767822400, -18000⟩,
    ⟨-744231600, -14400⟩, ⟨-736372800, -18000⟩, ⟨-144702000, -14400⟩, ⟨-134251200, -18000⟩,
    ⟨-113425200, -14400⟩, ⟨-102542400, -18000⟩, ⟨-86295600, -14400⟩, ⟨-72907200, -18000⟩,
    ⟨-54154800, -14400⟩, ⟨-41457600, -18000⟩, ⟨-21495600, -14400⟩, ⟨-5774400, -18000⟩,
    ⟨9954000, -14400⟩, ⟨25675200, -18000⟩, ⟨41403600, -14400⟩, ⟨57729600, -18000⟩,
    ⟨73458000, -14400⟩, ⟨87364800, -18000⟩, ⟨104907600, -14400⟩, ⟨118900800, -18000⟩,
    ⟨136357200, -14400⟩, ⟨150436800, -18000⟩, ⟨167806800, -14400⟩, ⟨183528000, -18000⟩,
    ⟨199256400, -14400⟩, ⟨215582400, -18000⟩, ⟨230706000, -14400⟩, ⟨247032000, -18000⟩,
    ⟨263365200, -14400⟩, ⟨276667200, -18000⟩, ⟨290581200, -14400⟩, ⟨308721600, -18000⟩,
    ⟨322030800, -14400⟩, ⟨340171200, -18000⟩, ⟨358318800, -14400⟩, ⟨371620800, -18000⟩,
    ⟨389768400, -14400⟩, ⟨403070400, -18000⟩, ⟨421218000, -14400⟩, ⟨434520000, -18000⟩,
    ⟨452667600, -14400⟩, ⟨466574400, -18000⟩, ⟨484117200, -14400⟩, ⟨498024000, -18000⟩,
    ⟨511333200, -14400⟩, ⟨529473600, -18000⟩, ⟨542782800, -14400⟩, ⟨560923200, -18000⟩,
    ⟨574837200, -14400⟩, ⟨592372800, -18000⟩, ⟨606286800, -14400⟩, ⟨623822400, -18000⟩,
    ⟨638946000, -14400⟩, ⟨655876800, -18000⟩, ⟨671000400, -14400⟩, ⟨687330000, -18000⟩,
    ⟨702450000, -14400⟩, ⟨718779600, -18000⟩, ⟨733899600, -14400⟩, ⟨750229200, -18000⟩,
    ⟨765349200, -14400⟩, ⟨781678800, -18000⟩, ⟨796798800, -14400⟩, ⟨813128400, -18000⟩,
    ⟨828853200, -14400⟩, ⟨844578000, -18000⟩, ⟨860302800, -14400⟩, ⟨876632400, -18000⟩,
    ⟨891147600, -14400⟩, ⟨909291600, -18000⟩, ⟨922597200, -14400⟩, ⟨941346000, -18000⟩,
    ⟨954651600, -14400⟩, ⟨972795600, -18000⟩, ⟨986101200, -14400⟩, ⟨1004245200, -18000⟩,
    ⟨1018155600, -14400⟩, ⟨1035694800, -18000⟩, ⟨1049605200, -14400⟩, ⟨1067144400, -18000⟩,
    ⟨1080450000, -14400⟩, ⟨1162098000, -18000⟩, ⟨1173589200, -14400⟩, ⟨1193547600, -18000⟩,
    ⟨1205643600, -14400⟩, ⟨1224997200, -18000⟩, ⟨1236488400, -14400⟩, ⟨1256446800, -18000⟩,
    ⟨1268542800, -14400⟩, ⟨1288501200, -18000⟩, ⟨1300597200, -14400⟩, ⟨1321160400, -18000⟩,
    ⟨1333256400, -14400⟩, ⟨1352005200, -18000⟩, ⟨1362891600, -14400⟩, ⟨1383454800, -18000⟩,
    ⟨1394341200, -14400⟩, ⟨1414904400, -18000⟩, ⟨1425790800, -14400⟩, ⟨1446354000, -18000⟩,
    ⟨1457845200, -14400⟩, ⟨1478408400, -18000⟩, ⟨1489294800, -14400⟩, ⟨1509858000, -18000⟩,
    ⟨1520744400, -14400⟩, ⟨1541307600, -18000⟩, ⟨1552194000, -14400⟩, ⟨1572757200, -18000⟩,
    ⟨1583643600, -14400⟩, ⟨1604206800, -18000⟩, ⟨1615698000, -14400⟩, ⟨1636261200, -18000⟩,
    ⟨1647147600, -14400⟩, ⟨1667710800, -18000⟩, ⟨1678597200, -14400⟩, ⟨1699160400, -18000⟩,
    ⟨1710046800, -14400⟩, ⟨1730610000, -18000⟩, ⟨1741496400, -14400⟩, ⟨1762059600, -18000⟩,
    ⟨1772946000, -14400⟩, ⟨1793509200, -18000⟩, ⟨1805000400, -14400⟩, ⟨1825563600, -18000⟩,
    ⟨1836450000, -14400⟩, ⟨1857013200, -18000⟩, ⟨1867899600, -14400⟩, ⟨1888462800, -18000⟩,
    ⟨1899349200, -14400⟩, ⟨1919912400, -18000⟩, ⟨1930798800, -14400⟩, ⟨1951362000, -18000⟩,
    ⟨1962853200, -14400⟩, ⟨1983416400, -18000⟩, ⟨1994302800, -14400⟩, ⟨2014866000, -18000⟩,
    ⟨2025752400, -14400⟩, ⟨2046315600, -18000⟩, ⟨2057202000, -14400⟩, ⟨2077765200, -18000⟩,
    ⟨2088651600, -14400⟩, ⟨2109214800, -18000⟩, ⟨2120101200, -14400⟩, ⟨2140664400, -18000⟩,
    ⟨2152155600, -14400⟩, ⟨2172718800, -18000⟩, ⟨2183605200, -14400⟩, ⟨2204168400, -18000⟩,
    ⟨2215054800, -14400⟩, ⟨2235618000, -18000⟩, ⟨2246504400, -14400⟩, ⟨2267067600, -18000⟩,
    ⟨2277954000, -14400⟩, ⟨2298517200, -18000⟩, ⟨2309403600, -14400⟩, ⟨2329966800, -18000⟩,
    ⟨2341458000, -14400⟩, ⟨2362021200, -18000⟩, ⟨2372907600, -14400⟩, ⟨2393470800, -18000⟩,
    ⟨2404357200, -14400⟩, ⟨2424920400, -18000⟩, ⟨2435806800, -14400⟩, ⟨2456370000, -18000⟩,
    ⟨2467256400, -14400⟩, ⟨2487819600, -18000⟩, ⟨2499310800, -14400⟩, ⟨2519874000, -18000⟩,
    ⟨2530760400, -14400⟩, ⟨2551323600, -18000⟩, ⟨2562210000, -14400⟩, ⟨2582773200, -18000⟩,
    ⟨2593659600, -14400⟩, ⟨2614222800, -18000⟩, ⟨2625109200, -14400⟩, ⟨2645672400, -18000⟩,
    ⟨2656558800, -14400⟩, ⟨2677122000, -18000⟩, ⟨2688613200, -14400⟩, ⟨2709176400, -18000⟩,
    ⟨2720062800, -14400⟩, ⟨2740626000, -18000⟩, ⟨2751512400, -14400⟩, ⟨2772075600, -18000⟩,
    ⟨2782962000, -14400⟩, ⟨2803525200, -18000⟩, ⟨2814411600, -14400⟩, ⟨2834974800, -18000⟩,
    ⟨2846466000, -14400⟩, ⟨2867029200, -18000⟩, ⟨2877915600, -14400⟩, ⟨2898478800, -18000⟩,
    ⟨2909365200, -14400⟩, ⟨2929928400, -18000⟩, ⟨2940814800, -14400⟩, ⟨2961378000, -18000⟩,
    ⟨2972264400, -14400⟩, ⟨2992827600, -18000⟩, ⟨3003714000, -14400⟩, ⟨3024277200, -18000⟩,
    ⟨3035768400, -14400⟩, ⟨3056331600, -18000⟩, ⟨3067218000, -14400⟩, ⟨3087781200, -18000⟩,
    ⟨3098667600, -14400⟩, ⟨3119230800, -18000⟩, ⟨3130117200, -14400⟩, ⟨3150680400, -18000⟩,
    ⟨3161566800, -14400⟩, ⟨3182130000, -18000⟩, ⟨3193016400, -14400⟩, ⟨3213579600, -18000⟩,
    ⟨3225070800, -14400⟩, ⟨3245634000, -18000⟩, ⟨3256520400, -14400⟩, ⟨3277083600, -18000⟩,
    ⟨3287970000, -14400⟩, ⟨3308533200, -18000⟩, ⟨3319419600, -14400⟩, ⟨3339982800, -18000⟩,
    ⟨3350869200, -14400⟩, ⟨3371432400, -18000⟩, ⟨3382923600, -14400⟩, ⟨3403486800, -18000⟩,
    ⟨3414373200, -14400⟩, ⟨3434936400, -18000⟩, ⟨3445822800, -14400⟩, ⟨3466386000, -18000⟩,
    ⟨3477272400, -14400⟩, ⟨3497835600, -18000⟩, ⟨3508722000, -14400⟩, ⟨3529285200, -18000⟩,
    ⟨3540171600, -14400⟩, ⟨3560734800, -18000⟩, ⟨3572226000, -14400⟩, ⟨3592789200, -18000⟩,
    ⟨3603675600, -14400⟩, ⟨3624238800, -18000⟩, ⟨3635125200, -14400⟩, ⟨3655688400, -18000⟩,
    ⟨3666574800, -14400⟩, ⟨3687138000, -18000⟩, ⟨3698024400, -14400⟩, ⟨3718587600, -18000⟩,
    ⟨3730078800, -14400⟩, ⟨3750642000, -18000⟩, ⟨3761528400, -14400⟩, ⟨3782091600, -18000⟩,
    ⟨3792978000, -14400⟩, ⟨3813541200, -18000⟩, ⟨3824427600, -14400⟩, ⟨3844990800, -18000⟩,
    ⟨3855877200, -14400⟩, ⟨3876440400, -18000⟩, ⟨3887326800, -14400⟩, ⟨3907890000, -18000⟩,
    ⟨3919381200, -14400⟩, ⟨3939944400, -18000⟩, ⟨3950830800, -14400⟩, ⟨3971394000, -18000⟩,
    ⟨3982280400, -14400⟩, ⟨4002843600, -18000⟩, ⟨4013730000, -14400⟩, ⟨4034293200, -18000⟩,
    ⟨4045179600, -14400⟩, ⟨4065742800, -18000⟩, ⟨4076629200, -14400⟩, ⟨4097192400, -18000⟩]

end RelativeTime.Zone.Table
