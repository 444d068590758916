import Descramble.Url.Name.Composition

namespace Descramble.Url.Name

/-- Ranges of which every second code point is a capital, from the first one to the last: the small
letter follows. -/
def capitalRanges : List (Nat × Nat) :=
  [(256, 302), (308, 310), (313, 317), (321, 327), (330, 374), (377, 381), (386, 388), (416, 420),
   (435, 437), (461, 475), (478, 494), (504, 542), (546, 562), (582, 590), (880, 882), (984, 1006),
   (1120, 1152), (1162, 1214), (1217, 1229), (1232, 1326), (7680, 7828), (7840, 7934),
   (11367, 11371), (11392, 11490), (11499, 11501), (42560, 42604), (42624, 42650), (42786, 42798),
   (42802, 42862), (42873, 42875), (42878, 42886), (42896, 42898), (42902, 42920), (42932, 42946),
   (42951, 42953), (42956, 42970)]

/-- Ranges that stand for another range, which is given by its first code point. -/
def shiftedRanges : List (Nat × Nat × Nat) :=
  [(192, 214, 224), (216, 222, 248), (904, 906, 941), (913, 929, 945), (931, 939, 963),
   (1021, 1023, 891), (1024, 1039, 1104), (1040, 1071, 1072), (1329, 1366, 1377),
   (4256, 4293, 11520), (5112, 5117, 5104), (7312, 7354, 4304), (7357, 7359, 4349),
   (7475, 7482, 103), (7517, 7519, 946), (7588, 7590, 616), (7598, 7601, 626), (7612, 7614, 656),
   (7944, 7951, 7936), (7960, 7965, 7952), (7976, 7983, 7968), (7992, 7999, 7984),
   (8008, 8013, 8000), (8040, 8047, 8032), (8308, 8313, 52), (8320, 8329, 48), (8342, 8345, 107),
   (8473, 8475, 112), (8501, 8504, 1488), (9312, 9320, 49), (9398, 9423, 97), (9424, 9449, 97),
   (11264, 11311, 11312), (12599, 12601, 4355), (12602, 12607, 4528), (12609, 12611, 4358),
   (12613, 12622, 4361), (12623, 12643, 4449), (12664, 12668, 4395), (12676, 12678, 4439),
   (12899, 12901, 4357), (12905, 12909, 4366), (13028, 13033, 12490), (13038, 13042, 12510),
   (13045, 13050, 12520), (13051, 13054, 12527), (43888, 43967, 5024), (64292, 64294, 1499),
   (65089, 65092, 12300), (65281, 65312, 33), (65313, 65338, 97), (65339, 65374, 91),
   (65413, 65418, 12490), (65423, 65427, 12510), (65430, 65435, 12520), (65447, 65449, 4355),
   (65450, 65455, 4528), (65457, 65459, 4358), (65461, 65470, 4361), (65474, 65479, 4449),
   (65482, 65487, 4455), (65490, 65495, 4461), (65498, 65500, 4467), (65513, 65516, 8592),
   (66560, 66599, 66600), (66736, 66771, 66776), (66928, 66938, 66967), (66940, 66954, 66979),
   (66956, 66962, 66995), (67510, 67512, 448), (68736, 68786, 68800), (68944, 68965, 68976),
   (71840, 71871, 71872), (93760, 93791, 93792), (93856, 93880, 93883), (117974, 117999, 97),
   (118000, 118009, 48), (119808, 119833, 97), (119834, 119859, 97), (119860, 119885, 97),
   (119886, 119892, 97), (119894, 119911, 105), (119912, 119937, 97), (119938, 119963, 97),
   (119977, 119980, 110), (119982, 119989, 115), (119990, 119993, 97), (119997, 120003, 104),
   (120005, 120015, 112), (120016, 120041, 97), (120042, 120067, 97), (120071, 120074, 100),
   (120077, 120084, 106), (120086, 120092, 115), (120094, 120119, 97), (120123, 120126, 100),
   (120128, 120132, 105), (120138, 120144, 115), (120146, 120171, 97), (120172, 120197, 97),
   (120198, 120223, 97), (120224, 120249, 97), (120250, 120275, 97), (120276, 120301, 97),
   (120302, 120327, 97), (120328, 120353, 97), (120354, 120379, 97), (120380, 120405, 97),
   (120406, 120431, 97), (120432, 120457, 97), (120458, 120483, 97), (120488, 120504, 945),
   (120506, 120512, 963), (120514, 120530, 945), (120532, 120538, 963), (120546, 120562, 945),
   (120564, 120570, 963), (120572, 120588, 945), (120590, 120596, 963), (120604, 120620, 945),
   (120622, 120628, 963), (120630, 120646, 945), (120648, 120654, 963), (120662, 120678, 945),
   (120680, 120686, 963), (120688, 120704, 945), (120706, 120712, 963), (120720, 120736, 945),
   (120738, 120744, 963), (120746, 120762, 945), (120764, 120770, 963), (120782, 120791, 48),
   (120792, 120801, 48), (120802, 120811, 48), (120812, 120821, 48), (120822, 120831, 48),
   (122928, 122936, 1072), (122937, 122939, 1082), (122940, 122950, 1086), (122961, 122969, 1072),
   (122975, 122980, 1091), (125184, 125217, 125218), (126474, 126477, 1603), (126506, 126509, 1603),
   (126603, 126605, 1604), (126635, 126637, 1604), (127280, 127305, 97), (130032, 130041, 48)]

/-- Code points that stand for one other, from the first one on. -/
def variants : List (Nat × List Nat) :=
  [(160, [32]), (170, [97]), (178, [50, 51]), (181, [956]), (185, [49, 111]), (376, [255]),
   (383, [115]), (385, [595]), (390, [596, 392]), (393, [598, 599, 396]),
   (398, [477, 601, 603, 402]), (403, [608, 611]), (406, [617, 616, 409]), (412, [623, 626]),
   (415, [629]), (422, [640, 424]), (425, [643]), (428, [429]), (430, [648, 432]),
   (433, [650, 651]), (439, [658, 441]), (444, [445]), (500, [501]), (502, [405, 447]),
   (544, [414]), (570, [11365, 572]), (573, [410, 11366]), (577, [578]), (579, [384, 649, 652]),
   (688, [104, 614, 106, 114, 633, 635, 641, 119, 121]), (736, [611, 108, 115, 120, 661]),
   (832, [768, 769]), (835, [787]), (837, [953]), (884, [697]), (886, [887]), (894, [59, 1011]),
   (902, [940, 183]), (908, [972]), (910, [973, 974]),
   (975, [983, 946, 952, 965, 973, 971, 966, 960]), (1008, [954, 961, 963]), (1012, [952, 949]),
   (1015, [1016]), (1017, [963, 1019]), (1216, [1231]), (3852, [3851]), (4295, [11559]),
   (4301, [11565]), (4348, [4316]),
   (7296, [1074, 1076, 1086, 1089, 1090, 1090, 1098, 1123, 42571, 7306]), (7468, [97, 230, 98]),
   (7472, [100, 101, 477]),
   (7484, [111, 547, 112, 114, 116, 117, 119, 97, 592, 593, 7426, 98, 100, 101, 601, 603, 604,
    103]), (7503, [107, 109, 331, 111, 596, 7446, 7447, 112, 116, 117, 7453, 623, 118, 7461]),
   (7520, [966, 967, 105, 114, 117, 118, 946, 947, 961, 966, 967]), (7544, [1085]),
   (7579, [594, 99, 597, 240, 604, 102, 607, 609, 613]),
   (7591, [7547, 669, 621, 7557, 671, 625, 624]),
   (7602, [632, 642, 643, 427, 649, 650, 7452, 651, 652, 122]), (7615, [952]), (7835, [7777]),
   (7838, [223]), (8025, [8017]), (8027, [8019]), (8029, [8021]), (8031, [8023]), (8049, [940]),
   (8051, [941]), (8053, [942]), (8055, [943]), (8057, [972]), (8059, [973]), (8061, [974]),
   (8120, [8112, 8113, 8048, 940]), (8126, [953]), (8136, [8050, 941, 8052, 942]), (8147, [912]),
   (8152, [8144, 8145, 8054, 943]), (8163, [944]), (8168, [8160, 8161, 8058, 973, 8165]),
   (8175, [96]), (8184, [8056, 972, 8060, 974]),
   (8192, [32, 32, 32, 32, 32, 32, 32, 32, 32, 32, 32]), (8209, [8208]), (8239, [32]), (8287, [32]),
   (8304, [48, 105]), (8314, [43, 8722, 61, 40, 41, 110]), (8330, [43, 8722, 61, 40, 41]),
   (8336, [97, 101, 111, 120, 601, 104]), (8346, [112, 115, 116]), (8450, [99]), (8455, [603]),
   (8458, [103, 104, 104, 104, 104, 295, 105, 105, 108, 108]), (8469, [110]), (8476, [114, 114]),
   (8484, [122]), (8486, [969]), (8488, [122]), (8490, [107, 229, 98, 99]),
   (8495, [101, 101, 102, 8526, 109, 111]), (8505, [105]), (8508, [960, 947, 947, 960, 8721]),
   (8517, [100, 100, 101, 105, 106]), (8544, [105]), (8548, [118]), (8553, [120]),
   (8556, [108, 99, 100, 109, 105]), (8564, [118]), (8569, [120]), (8572, [108, 99, 100, 109]),
   (8579, [8580]), (9001, [12296, 12297]), (9450, [48]), (11360, [11361]),
   (11362, [619, 7549, 637]), (11373, [593, 625, 592, 594]), (11378, [11379]), (11381, [11382]),
   (11388, [106, 118, 575, 576]), (11506, [11507]), (11631, [11617]), (12288, [32]), (12290, [46]),
   (12342, [12306]), (12593, [4352, 4353, 4522, 4354, 4524, 4525]), (12608, [4378]),
   (12612, [4385]),
   (12645, [4372, 4373, 4551, 4552, 4556, 4558, 4563, 4567, 4569, 4380, 4573, 4575, 4381, 4382,
    4384, 4386, 4387, 4391, 4393]), (12669, [4402, 4406, 4416, 4423, 4428, 4593, 4594]),
   (12679, [4484, 4485, 4488, 4497, 4498, 4500, 4510, 4513]),
   (12690, [19968, 20108, 19977, 22235, 19978, 20013, 19979, 30002, 20057, 19993, 19969, 22825,
    22320, 20154]), (12868, [21839, 24188, 25991, 31631]), (12896, [4352, 4354, 4355]),
   (12902, [4361, 4363, 4364]),
   (12910, [44032, 45208, 45796, 46972, 47560, 48148, 49324, 50500, 51088, 52264, 52852, 53440,
    54028, 54616]), (12926, [50864]),
   (12928, [19968, 20108, 19977, 22235, 20116, 20845, 19971, 20843, 20061, 21313, 26376, 28779,
    27700, 26408, 37329, 22303, 26085, 26666, 26377, 31038, 21517, 29305, 36001, 31069, 21172,
    31192, 30007, 22899, 36969, 20778, 21360, 27880, 38917, 20241, 20889, 27491, 19978, 20013,
    19979, 24038, 21491, 21307, 23447, 23398, 30435, 20225, 36039, 21332, 22812]),
   (13008, [12450, 12452, 12454, 12456, 12458, 12459, 12461, 12463, 12465, 12467, 12469, 12471,
    12473, 12475, 12477, 12479, 12481, 12484, 12486, 12488]), (13034, [12498, 12501, 12504, 12507]),
   (13043, [12516, 12518]), (42652, [1098, 1100]), (42864, [42863]), (42877, [7545]),
   (42891, [42892]), (42893, [613]), (42922, [614, 604, 609, 620, 618]),
   (42928, [670, 647, 669, 43859]), (42948, [42900, 642, 7566]), (42955, [612]), (42972, [411]),
   (42993, [115, 99, 102, 113, 42998]), (43000, [295, 339]), (43868, [42791, 43831, 619, 43858]),
   (43881, [653]), (64288, [1506, 1488, 1491, 1492]), (64295, [1512, 1514, 43]),
   (64336, [1649, 1649, 1659, 1659, 1659, 1659, 1662, 1662, 1662, 1662, 1664, 1664, 1664, 1664,
    1658, 1658, 1658, 1658, 1663, 1663, 1663, 1663, 1657, 1657, 1657, 1657, 1700, 1700, 1700,
    1700, 1702, 1702, 1702, 1702, 1668, 1668, 1668, 1668, 1667, 1667, 1667, 1667, 1670, 1670,
    1670, 1670, 1671, 1671, 1671, 1671, 1677, 1677, 1676, 1676, 1678, 1678, 1672, 1672, 1688,
    1688]),
   (64396, [1681, 1681, 1705, 1705, 1705, 1705, 1711, 1711, 1711, 1711, 1715, 1715, 1715, 1715,
    1713, 1713, 1713, 1713, 1722, 1722, 1723, 1723, 1723, 1723, 1728, 1728, 1729, 1729, 1729,
    1729, 1726, 1726, 1726, 1726, 1746, 1746, 1747, 1747]),
   (64467, [1709, 1709, 1709, 1709, 1735, 1735, 1734, 1734, 1736, 1736]),
   (64478, [1739, 1739, 1733, 1733, 1737, 1737, 1744, 1744, 1744, 1744, 1609, 1609]),
   (64508, [1740, 1740, 1740, 1740]), (65040, [44, 12289]), (65043, [58, 59, 33, 63, 12310, 12311]),
   (65073, [8212, 8211, 95, 95, 40, 41, 123, 125, 12308, 12309, 12304, 12305, 12298, 12299, 12296,
    12297]), (65095, [91, 93]), (65101, [95, 95, 95, 44, 12289]),
   (65108, [59, 58, 63, 33, 8212, 40, 41, 123, 125, 12308, 12309, 35, 38, 42, 43, 45, 60, 62, 61]),
   (65128, [92, 36, 37, 64]),
   (65152, [1569, 1570, 1570, 1571, 1571, 1572, 1572, 1573, 1573, 1574, 1574, 1574, 1574, 1575,
    1575, 1576, 1576, 1576, 1576, 1577, 1577, 1578, 1578, 1578, 1578, 1579, 1579, 1579, 1579,
    1580, 1580, 1580, 1580, 1581, 1581, 1581, 1581, 1582, 1582, 1582, 1582, 1583, 1583, 1584,
    1584, 1585, 1585, 1586, 1586, 1587, 1587, 1587, 1587, 1588, 1588, 1588, 1588, 1589, 1589,
    1589]),
   (65212, [1589, 1590, 1590, 1590, 1590, 1591, 1591, 1591, 1591, 1592, 1592, 1592, 1592, 1593,
    1593, 1593, 1593, 1594, 1594, 1594, 1594, 1601, 1601, 1601, 1601, 1602, 1602, 1602, 1602,
    1603, 1603, 1603, 1603, 1604, 1604, 1604, 1604, 1605, 1605, 1605, 1605, 1606, 1606, 1606,
    1606, 1607, 1607, 1607, 1607, 1608, 1608, 1609, 1609, 1610, 1610, 1610, 1610]),
   (65375, [10629, 10630, 46, 12300, 12301, 12289, 12539, 12530, 12449, 12451, 12453, 12455,
    12457, 12515, 12517, 12519, 12483, 12540, 12450, 12452, 12454, 12456, 12458, 12459, 12461,
    12463, 12465, 12467, 12469, 12471, 12473, 12475, 12477, 12479, 12481, 12484, 12486, 12488]),
   (65419, [12498, 12501, 12504, 12507]), (65428, [12516, 12518]),
   (65436, [12527, 12531, 12441, 12442]), (65441, [4352, 4353, 4522, 4354, 4524, 4525]),
   (65456, [4378]), (65460, [4385]), (65504, [162, 163, 172]), (65508, [166, 165, 8361]),
   (65512, [9474]), (65517, [9632, 9675]), (66964, [67003, 67004]),
   (67457, [720, 721, 230, 665, 595]),
   (67463, [675, 43878, 677, 676, 598, 599, 7569, 600, 606, 681, 612, 610, 608, 667, 295, 668,
    615, 644, 682, 683, 620, 122628, 42894, 622, 122629, 654, 122630, 248, 630, 631, 113, 634,
    122632, 637, 638, 640, 680, 678, 43879, 679, 648, 11377]), (67506, [655, 673, 674, 664]),
   (67513, [122634, 122654]), (119964, [97]), (119966, [99, 100]), (119970, [103]),
   (119973, [106, 107]), (119995, [102]), (120068, [97, 98]), (120120, [97, 98]), (120134, [111]),
   (120484, [305, 567]), (120505, [952]), (120513, [8711]), (120531, [963]),
   (120539, [8706, 949, 952, 954, 966, 961, 960]), (120563, [952]), (120571, [8711]),
   (120589, [963]), (120597, [8706, 949, 952, 954, 966, 961, 960]), (120621, [952]),
   (120629, [8711]), (120647, [963]), (120655, [8706, 949, 952, 954, 966, 961, 960]),
   (120679, [952]), (120687, [8711]), (120705, [963]),
   (120713, [8706, 949, 952, 954, 966, 961, 960]), (120737, [952]), (120745, [8711]),
   (120763, [963]), (120771, [8706, 949, 952, 954, 966, 961, 960, 989, 989]),
   (122951, [1099, 1101, 1102, 42633, 1241, 1110, 1112, 1257, 1199, 1231]),
   (122970, [1082, 1083, 1086, 1087, 1089]),
   (122981, [1098, 1099, 1169, 1110, 1109, 1119, 1195, 42577, 1201]),
   (126464, [1575, 1576, 1580, 1583]), (126469, [1608, 1586, 1581, 1591, 1610]),
   (126478, [1587, 1593, 1601, 1589, 1602, 1585, 1588, 1578, 1579, 1582, 1584, 1590, 1592, 1594,
    1646, 1722, 1697, 1647]), (126497, [1576, 1580]), (126500, [1607]), (126503, [1581]),
   (126505, [1610]), (126510, [1587, 1593, 1601, 1589, 1602]), (126516, [1588, 1578, 1579, 1582]),
   (126521, [1590]), (126523, [1594]), (126530, [1580]), (126535, [1581]), (126537, [1610]),
   (126539, [1604]), (126541, [1606, 1587, 1593]), (126545, [1589, 1602]), (126548, [1588]),
   (126551, [1582]), (126553, [1590]), (126555, [1594]), (126557, [1722]), (126559, [1647]),
   (126561, [1576, 1580]), (126564, [1607]), (126567, [1581, 1591, 1610, 1603]),
   (126572, [1605, 1606, 1587, 1593, 1601, 1589, 1602]), (126580, [1588, 1578, 1579, 1582]),
   (126585, [1590, 1592, 1594, 1646]), (126590, [1697]),
   (126592, [1575, 1576, 1580, 1583, 1607, 1608, 1586, 1581, 1591, 1610]),
   (126606, [1587, 1593, 1601, 1589, 1602, 1585, 1588, 1578, 1579, 1582, 1584, 1590, 1592, 1594]),
   (126625, [1576, 1580, 1583]), (126629, [1608, 1586, 1581, 1591, 1610]),
   (126638, [1587, 1593, 1601, 1589, 1602, 1585, 1588, 1578, 1579, 1582, 1584, 1590, 1592, 1594]),
   (127275, [99, 114]), (127490, [12469]),
   (127504, [25163, 23383, 21452, 12487, 20108, 22810, 35299, 22825, 20132, 26144, 28961, 26009,
    21069, 24460, 20877, 26032, 21021, 32066, 29983, 36009, 22768, 21561, 28436, 25237, 25429,
    19968, 19977, 36938, 24038, 20013, 21491, 25351, 36208, 25171, 31105, 31354, 21512, 28288,
    26377, 26376, 30003, 21106, 21942, 37197]), (127568, [24471, 21487])]

def ideographs : List (Nat × List Nat) :=
  [(11935, [27597]), (12019, [40863]),
   (12032, [19968, 20008, 20022, 20031, 20057, 20101, 20108, 20128, 20154, 20799, 20837, 20843,
    20866, 20886, 20907, 20960, 20981, 20992, 21147, 21241, 21269, 21274, 21304, 21313, 21340,
    21353, 21378, 21430, 21448, 21475, 22231, 22303, 22763, 22786, 22794, 22805, 22823, 22899,
    23376, 23424, 23544, 23567, 23586, 23608, 23662, 23665, 24027, 24037, 24049, 24062, 24178,
    24186, 24191, 24308, 24318, 24331, 24339, 24400, 24417, 24435]),
   (12092, [24515, 25096, 25142, 25163, 25903, 25908, 25991, 26007, 26020, 26041, 26080, 26085,
    26352, 26376, 26408, 27424, 27490, 27513, 27571, 27595, 27604, 27611, 27663, 27668, 27700,
    28779, 29226, 29238, 29243, 29247, 29255, 29273, 29275, 29356, 29572, 29577, 29916, 29926,
    29976, 29983, 29992, 30000, 30091, 30098, 30326, 30333, 30382, 30399, 30446, 30683, 30690,
    30707, 31034, 31160, 31166, 31348, 31435, 31481, 31859, 31992]),
   (12152, [32566, 32593, 32650, 32701, 32769, 32780, 32786, 32819, 32895, 32905, 33251, 33258,
    33267, 33276, 33292, 33307, 33311, 33390, 33394, 33400, 34381, 34411, 34880, 34892, 34915,
    35198, 35211, 35282, 35328, 35895, 35910, 35925, 35960, 35997, 36196, 36208, 36275, 36523,
    36554, 36763, 36784, 36789, 37009, 37193, 37318, 37324, 37329, 38263, 38272, 38428, 38582,
    38585, 38632, 38737, 38750, 38754, 38761, 38859, 38893, 38899]),
   (12212, [38913, 39080, 39131, 39135, 39318, 39321, 39340, 39592, 39640, 39647, 39717, 39727,
    39730, 39740, 39770, 40165, 40565, 40575, 40613, 40635, 40643, 40653, 40657, 40697, 40701,
    40718, 40723, 40736, 40763, 40778, 40786, 40845, 40860, 40864]), (12344, [21313, 21316, 21317]),
   (63744, [35912, 26356, 36554, 36040, 28369, 20018, 21477, 40860, 40860, 22865, 37329, 21895,
    22856, 25078, 30313, 32645, 34367, 34746, 35064, 37007, 27138, 27931, 28889, 29662, 33853,
    37226, 39409, 20098, 21365, 27396, 29211, 34349, 40478, 23888, 28651, 34253, 35172, 25289,
    33240, 34847, 24266, 26391, 28010, 29436, 37070, 20358, 20919, 21214, 25796, 27347, 29200,
    30439, 32769, 34310, 34396, 36335, 38706, 39791, 40442, 30860]),
   (63804, [31103, 32160, 33737, 37636, 40575, 35542, 22751, 24324, 31840, 32894, 29282, 30922,
    36034, 38647, 22744, 23650, 27155, 28122, 28431, 32047, 32311, 38475, 21202, 32907, 20956,
    20940, 31260, 32190, 33777, 38517, 35712, 25295, 27138, 35582, 20025, 23527, 24594, 29575,
    30064, 21271, 30971, 20415, 24489, 19981, 27852, 25976, 32034, 21443, 22622, 30465, 33865,
    35498, 27578, 36784, 27784, 25342, 33509, 25504, 30053, 20142]),
   (63864, [20841, 20937, 26753, 31975, 33391, 35538, 37327, 21237, 21570, 22899, 24300, 26053,
    28670, 31018, 38317, 39530, 40599, 40654, 21147, 26310, 27511, 36706, 24180, 24976, 25088,
    25754, 28451, 29001, 29833, 31178, 32244, 32879, 36646, 34030, 36899, 37706, 21015, 21155,
    21693, 28872, 35010, 35498, 24265, 24565, 25467, 27566, 31806, 29557, 20196, 22265, 23527,
    23994, 24604, 29618, 29801, 32666, 32838, 37428, 38646, 38728]),
   (63924, [38936, 20363, 31150, 37300, 38584, 24801, 20102, 20698, 23534, 23615, 26009, 27138,
    29134, 30274, 34044, 36988, 40845, 26248, 38446, 21129, 26491, 26611, 27969, 28316, 29705,
    30041, 30827, 32016, 39006, 20845, 25134, 38520, 20523, 23833, 28138, 36650, 24459, 24900,
    26647, 29575, 38534, 21033, 21519, 23653, 26131, 26446, 26792, 27877, 29702, 30178, 32633,
    35023, 35041, 37324, 38626, 21311, 28346, 21533, 29136, 29848]),
   (63984, [34298, 38563, 40023, 40607, 26519, 28107, 33256, 31435, 31520, 31890, 29376, 28825,
    35672, 20160, 33590, 21050, 20999, 24230, 25299, 31958, 23429, 27934, 26292, 36667, 34892,
    38477, 35211, 24275, 20800, 21952]), (64016, [22618]), (64018, [26228]),
   (64021, [20958, 29482, 30410, 31036, 31070, 31077, 31119, 38742, 31934, 32701]),
   (64032, [34322]), (64034, [35576]), (64037, [36920, 37117]),
   (64042, [39151, 39164, 39208, 40372, 37086, 38583, 20398, 20711, 20813, 21193, 21220, 21329,
    21917, 22022, 22120, 22592, 22696, 23652, 23662, 24724, 24936, 24974, 25074, 25935, 26082,
    26257, 26757, 28023, 28186, 28450, 29038, 29227, 29730, 30865, 31038, 31049, 31048, 31056,
    31062, 31069, 31117, 31118, 31296, 31361, 31680, 32244, 32265, 32321, 32626, 32773, 33261,
    33401, 33401, 33879, 35088, 35222, 35585, 35641, 36051, 36104]),
   (64102, [36790, 36920, 38627, 38911, 38971, 24693, 148206, 33304]),
   (64112, [20006, 20917, 20840, 20352, 20805, 20864, 21191, 21242, 21917, 21845, 21913, 21986,
    22618, 22707, 22852, 22868, 23138, 23336, 24274, 24281, 24425, 24493, 24792, 24910, 24840,
    24974, 24928, 25074, 25140, 25540, 25628, 25682, 25942, 26228, 26391, 26395, 26454, 27513,
    27578, 27969, 28379, 28363, 28450, 28702, 29038, 30631, 29237, 29359, 29482, 29809, 29958,
    30011, 30237, 30239, 30410, 30427, 30452, 30538, 30528, 30924]),
   (64172, [31409, 31680, 31867, 32091, 32244, 32574, 32773, 33618, 33775, 34681, 35137, 35206,
    35222, 35519, 35576, 35531, 35585, 35582, 35565, 35641, 35722, 36104, 36664, 36978, 37273,
    37494, 38524, 38627, 38742, 38875, 38911, 38923, 38971, 39698, 40860, 141386, 141380, 144341,
    15261, 16408, 16441, 152137, 154832, 163539, 40771, 40846]),
   (194560, [20029, 20024, 20033, 131362, 20320, 20398, 20411, 20482, 20602, 20633, 20711, 20687,
    13470, 132666, 20813, 20820, 20836, 20855, 132380, 13497, 20839, 20877, 132427, 20887, 20900,
    20172, 20908, 20917, 168415, 20981, 20995, 13535, 21051, 21062, 21106, 21111, 13589, 21191,
    21193, 21220, 21242, 21253, 21254, 21271, 21321, 21329, 21338, 21363, 21373, 21375, 21375,
    21375, 133676, 28784, 21450, 21471, 133987, 21483, 21489, 21510]),
   (194620, [21662, 21560, 21576, 21608, 21666, 21750, 21776, 21843, 21859, 21892, 21892, 21913,
    21931, 21939, 21954, 22294, 22022, 22295, 22097, 22132, 20999, 22766, 22478, 22516, 22541,
    22411, 22578, 22577, 22700, 136420, 22770, 22775, 22790, 22810, 22818, 22882, 136872, 136938,
    23020, 23067, 23079, 23000, 23142, 14062, 14076, 23304, 23358, 23358, 137672, 23491, 23512,
    23527, 23539, 138008, 23551, 23558, 24403, 23586, 14209, 23648]),
   (194680, [23662, 23744, 23693, 138724, 23875, 138726, 23918, 23915, 23932, 24033, 24034, 14383,
    24061, 24104, 24125, 24169, 14434, 139651, 14460, 24240, 24243, 24246, 24266, 172946, 24318,
    140081, 140081, 33281, 24354, 24354, 14535, 144056, 156122, 24418, 24427, 14563, 24474, 24525,
    24535, 24569, 24705, 14650, 14620, 24724, 141012, 24775, 24904, 24908, 24910, 24908, 24954,
    24974, 25010, 24996, 25007, 25054, 25074, 25078, 25104, 25115]),
   (194740, [25181, 25265, 25300, 25424, 142092, 25405, 25340, 25448, 25475, 25572, 142321, 25634,
    25541, 25513, 14894, 25705, 25726, 25757, 25719, 14956, 25935, 25964, 143370, 26083, 26360,
    26185, 15129, 26257, 15112, 15076, 20882, 20885, 26368, 26268, 32941, 17369, 26391, 26395,
    26401, 26462, 26451, 144323, 15177, 26618, 26501, 26706, 26757, 144493, 26766, 26655, 26900,
    15261, 26946, 27043, 27114, 27304, 145059, 27355, 15384, 27425]),
   (194800, [145575, 27476, 15438, 27506, 27551, 27578, 27579, 146061, 138507, 146170, 27726,
    146620, 27839, 27853, 27751, 27926, 27966, 28023, 27969, 28009, 28024, 28037, 146718, 27956,
    28207, 28270, 15667, 28363, 28359, 147153, 28153, 28526, 147294, 147342, 28614, 28729, 28702,
    28699, 15766, 28746, 28797, 28791, 28845, 132389, 28997, 148067, 29084, 148395, 29224, 29237,
    29264, 149000, 29312, 29333, 149301, 149524, 29562, 29579, 16044, 29605]),
   (194860, [16056, 16056, 29767, 29788, 29809, 29829, 29898, 16155, 29988, 150582, 30014, 150674,
    30064, 139679, 30224, 151457, 151480, 151620, 16380, 16392, 30452, 151795, 151794, 151833,
    151859, 30494, 30495, 30495, 30538, 16441, 30603, 16454, 16534, 152605, 30798, 30860, 30924,
    16611, 153126, 31062, 153242, 153285, 31119, 31211, 16687, 31296, 31306, 31311, 153980,
    154279, 154279, 31470, 16898, 154539, 31686, 31689, 16935, 154752, 31954, 17056]),
   (194920, [31976, 31971, 32000, 155526, 32099, 17153, 32199, 32258, 32325, 17204, 156200,
    156231, 17241, 156377, 32634, 156478, 32661, 32762, 32773, 156890, 156963, 32864, 157096,
    32880, 144223, 17365, 32946, 33027, 17419, 33086, 23221, 157607, 157621, 144275, 144284,
    33281, 33284, 36766, 17515, 33425, 33419, 33437, 21171, 33457, 33459, 33469, 33510, 158524,
    33509, 33565, 33635, 33709, 33571, 33725, 33767, 33879, 33619, 33738, 33740, 33756]),
   (194980, [158774, 159083, 158933, 17707, 34033, 34035, 34070, 160714, 34148, 159532, 17757,
    17761, 159665, 159954, 17771, 34384, 34396, 34407, 34409, 34473, 34440, 34574, 34530, 34681,
    34600, 34667, 34694, 17879, 34785, 34817, 17913, 34912, 34915, 161383, 35031, 35038, 17973,
    35066, 13499, 161966, 162150, 18110, 18119, 35488, 35565, 35722, 35925, 162984, 36011, 36033,
    36123, 36215, 163631, 133124, 36299, 36284, 36336, 133342, 36564, 36664]),
   (195040, [165330, 165357, 37012, 37105, 37137, 165678, 37147, 37432, 37591, 37592, 37500,
    37881, 37909, 166906, 38283, 18837, 38327, 167287, 18918, 38595, 23986, 38691, 168261, 168474,
    19054, 19062, 38880, 168970, 19122, 169110, 38923, 38923, 38953, 169398, 39138, 19251, 39209,
    39335, 39362, 39422, 19406, 170800, 39698, 40000, 40189, 19662, 19693, 40295, 172238, 19704,
    172293, 172558, 172689, 40635, 19798, 40697, 40702, 40709, 40719, 40726]),
   (195100, [40763, 173568])]

/-- Code points that stand for several others, from the first one on. -/
def phrases : List (Nat × List (List Nat)) :=
  [(168, [[32, 776]]), (175, [[32, 772]]), (180, [[32, 769]]), (184, [[32, 807]]),
   (188, [[49, 8260, 52], [49, 8260, 50], [51, 8260, 52]]), (304, [[105, 775]]),
   (306, [[105, 106], [105, 106]]), (319, [[108, 183], [108, 183]]), (329, [[700, 110]]),
   (452, [[100, 382], [100, 382], [100, 382], [108, 106], [108, 106], [108, 106], [110, 106],
    [110, 106], [110, 106]]), (497, [[100, 122], [100, 122], [100, 122]]),
   (728, [[32, 774], [32, 775], [32, 778], [32, 808], [32, 771], [32, 779]]), (836, [[776, 769]]),
   (890, [[32, 953]]), (900, [[32, 769], [32, 776, 769]]), (1415, [[1381, 1410]]),
   (1653, [[1575, 1652], [1608, 1652], [1735, 1652], [1610, 1652]]),
   (2392, [[2325, 2364], [2326, 2364], [2327, 2364], [2332, 2364], [2337, 2364], [2338, 2364],
    [2347, 2364], [2351, 2364]]), (2524, [[2465, 2492], [2466, 2492]]), (2527, [[2479, 2492]]),
   (2611, [[2610, 2620]]), (2614, [[2616, 2620]]),
   (2649, [[2582, 2620], [2583, 2620], [2588, 2620]]), (2654, [[2603, 2620]]),
   (2908, [[2849, 2876], [2850, 2876]]), (3635, [[3661, 3634]]), (3763, [[3789, 3762]]),
   (3804, [[3755, 3737], [3755, 3745]]), (3907, [[3906, 4023]]), (3917, [[3916, 4023]]),
   (3922, [[3921, 4023]]), (3927, [[3926, 4023]]), (3932, [[3931, 4023]]), (3945, [[3904, 4021]]),
   (3955, [[3953, 3954]]),
   (3957, [[3953, 3956], [4018, 3968], [4018, 3953, 3968], [4019, 3968], [4019, 3953, 3968]]),
   (3969, [[3953, 3968]]), (3987, [[3986, 4023]]), (3997, [[3996, 4023]]), (4002, [[4001, 4023]]),
   (4007, [[4006, 4023]]), (4012, [[4011, 4023]]), (4025, [[3984, 4021]]), (7834, [[97, 702]]),
   (8064, [[7936, 953], [7937, 953], [7938, 953], [7939, 953], [7940, 953], [7941, 953], [7942,
    953], [7943, 953], [7936, 953], [7937, 953], [7938, 953], [7939, 953], [7940, 953], [7941,
    953], [7942, 953], [7943, 953], [7968, 953], [7969, 953], [7970, 953], [7971, 953], [7972,
    953], [7973, 953], [7974, 953], [7975, 953], [7968, 953], [7969, 953], [7970, 953], [7971,
    953], [7972, 953], [7973, 953], [7974, 953], [7975, 953], [8032, 953], [8033, 953], [8034,
    953], [8035, 953], [8036, 953], [8037, 953], [8038, 953], [8039, 953], [8032, 953], [8033,
    953], [8034, 953], [8035, 953], [8036, 953], [8037, 953], [8038, 953], [8039, 953]]),
   (8114, [[8048, 953], [945, 953], [940, 953]]), (8119, [[8118, 953]]),
   (8124, [[945, 953], [32, 787]]),
   (8127, [[32, 787], [32, 834], [32, 776, 834], [8052, 953], [951, 953], [942, 953]]),
   (8135, [[8134, 953]]), (8140, [[951, 953], [32, 787, 768], [32, 787, 769], [32, 787, 834]]),
   (8157, [[32, 788, 768], [32, 788, 769], [32, 788, 834]]),
   (8173, [[32, 776, 768], [32, 776, 769]]), (8178, [[8060, 953], [969, 953], [974, 953]]),
   (8183, [[8182, 953]]), (8188, [[969, 953], [32, 769], [32, 788]]), (8215, [[32, 819]]),
   (8243, [[8242, 8242], [8242, 8242, 8242]]), (8246, [[8245, 8245], [8245, 8245, 8245]]),
   (8252, [[33, 33]]), (8254, [[32, 773]]), (8263, [[63, 63], [63, 33], [33, 63]]),
   (8279, [[8242, 8242, 8242, 8242]]), (8360, [[114, 115]]), (8448, [[97, 47, 99], [97, 47, 115]]),
   (8451, [[176, 99]]), (8453, [[99, 47, 111], [99, 47, 117]]), (8457, [[176, 102]]),
   (8470, [[110, 111]]), (8480, [[115, 109], [116, 101, 108], [116, 109]]),
   (8507, [[102, 97, 120]]),
   (8528, [[49, 8260, 55], [49, 8260, 57], [49, 8260, 49, 48], [49, 8260, 51], [50, 8260, 51],
    [49, 8260, 53], [50, 8260, 53], [51, 8260, 53], [52, 8260, 53], [49, 8260, 54], [53, 8260,
    54], [49, 8260, 56], [51, 8260, 56], [53, 8260, 56], [55, 8260, 56], [49, 8260]]),
   (8545, [[105, 105], [105, 105, 105], [105, 118]]),
   (8549, [[118, 105], [118, 105, 105], [118, 105, 105, 105], [105, 120]]),
   (8554, [[120, 105], [120, 105, 105]]), (8561, [[105, 105], [105, 105, 105], [105, 118]]),
   (8565, [[118, 105], [118, 105, 105], [118, 105, 105, 105], [105, 120]]),
   (8570, [[120, 105], [120, 105, 105]]), (8585, [[48, 8260, 51]]),
   (8748, [[8747, 8747], [8747, 8747, 8747]]), (8751, [[8750, 8750], [8750, 8750, 8750]]),
   (9321, [[49, 48], [49, 49], [49, 50], [49, 51], [49, 52], [49, 53], [49, 54], [49, 55], [49,
    56], [49, 57], [50, 48], [40, 49, 41], [40, 50, 41], [40, 51, 41], [40, 52, 41], [40, 53, 41],
    [40, 54, 41], [40, 55, 41], [40, 56, 41], [40, 57, 41], [40, 49, 48, 41], [40, 49, 49, 41],
    [40, 49, 50, 41], [40, 49, 51, 41], [40, 49, 52, 41], [40, 49, 53, 41], [40, 49, 54, 41], [40,
    49, 55, 41], [40, 49, 56, 41], [40, 49, 57, 41], [40, 50, 48, 41]]),
   (9372, [[40, 97, 41], [40, 98, 41], [40, 99, 41], [40, 100, 41], [40, 101, 41], [40, 102, 41],
    [40, 103, 41], [40, 104, 41], [40, 105, 41], [40, 106, 41], [40, 107, 41], [40, 108, 41], [40,
    109, 41], [40, 110, 41], [40, 111, 41], [40, 112, 41], [40, 113, 41], [40, 114, 41], [40, 115,
    41], [40, 116, 41], [40, 117, 41], [40, 118, 41], [40, 119, 41], [40, 120, 41], [40, 121, 41],
    [40, 122, 41]]), (10764, [[8747, 8747, 8747, 8747]]),
   (10868, [[58, 58, 61], [61, 61], [61, 61, 61]]), (10972, [[10973, 824]]),
   (12443, [[32, 12441], [32, 12442]]), (12447, [[12424, 12426]]), (12543, [[12467, 12488]]),
   (12800, [[40, 4352, 41], [40, 4354, 41], [40, 4355, 41], [40, 4357, 41], [40, 4358, 41], [40,
    4359, 41], [40, 4361, 41], [40, 4363, 41], [40, 4364, 41], [40, 4366, 41], [40, 4367, 41],
    [40, 4368, 41], [40, 4369, 41], [40, 4370, 41], [40, 44032, 41], [40, 45208, 41], [40, 45796,
    41], [40, 46972, 41], [40, 47560, 41], [40, 48148, 41], [40, 49324, 41], [40, 50500, 41], [40,
    51088, 41], [40, 52264, 41], [40, 52852, 41], [40, 53440, 41], [40, 54028, 41], [40, 54616,
    41], [40, 51452, 41], [40, 50724, 51204, 41], [40, 50724, 54980, 41]]),
   (12832, [[40, 19968, 41], [40, 20108, 41], [40, 19977, 41], [40, 22235, 41], [40, 20116, 41],
    [40, 20845, 41], [40, 19971, 41], [40, 20843, 41], [40, 20061, 41], [40, 21313, 41], [40,
    26376, 41], [40, 28779, 41], [40, 27700, 41], [40, 26408, 41], [40, 37329, 41], [40, 22303,
    41], [40, 26085, 41], [40, 26666, 41], [40, 26377, 41], [40, 31038, 41], [40, 21517, 41], [40,
    29305, 41], [40, 36001, 41], [40, 31069, 41], [40, 21172, 41], [40, 20195, 41], [40, 21628,
    41], [40, 23398, 41], [40, 30435, 41], [40, 20225, 41], [40, 36039, 41], [40, 21332, 41], [40,
    31085, 41], [40, 20241, 41], [40, 33258, 41], [40, 33267, 41]]),
   (12880, [[112, 116, 101], [50, 49], [50, 50], [50, 51], [50, 52], [50, 53], [50, 54], [50, 55],
    [50, 56], [50, 57], [51, 48], [51, 49], [51, 50], [51, 51], [51, 52], [51, 53]]),
   (12924, [[52280, 44256], [51452, 51032]]),
   (12977, [[51, 54], [51, 55], [51, 56], [51, 57], [52, 48], [52, 49], [52, 50], [52, 51], [52,
    52], [52, 53], [52, 54], [52, 55], [52, 56], [52, 57], [53, 48], [49, 26376], [50, 26376],
    [51, 26376], [52, 26376], [53, 26376], [54, 26376], [55, 26376], [56, 26376], [57, 26376],
    [49, 48, 26376], [49, 49, 26376], [49, 50, 26376], [104, 103], [101, 114, 103], [101, 118],
    [108, 116, 100]]),
   (13055, [[20196, 21644], [12450, 12497, 12540, 12488], [12450, 12523, 12501, 12449], [12450,
    12531, 12506, 12450], [12450, 12540, 12523], [12452, 12491, 12531, 12464], [12452, 12531,
    12481], [12454, 12457, 12531], [12456, 12473, 12463, 12540, 12489], [12456, 12540, 12459,
    12540], [12458, 12531, 12473], [12458, 12540, 12512], [12459, 12452, 12522], [12459, 12521,
    12483, 12488], [12459, 12525, 12522, 12540], [12460, 12525, 12531], [12460, 12531, 12510],
    [12462, 12460], [12462, 12491, 12540], [12461, 12517, 12522, 12540], [12462, 12523, 12480,
    12540], [12461, 12525], [12461, 12525, 12464, 12521, 12512], [12461, 12525, 12513, 12540,
    12488, 12523], [12461, 12525, 12527, 12483, 12488], [12464, 12521, 12512], [12464, 12521,
    12512, 12488, 12531], [12463, 12523, 12476, 12452, 12525], [12463, 12525, 12540, 12493],
    [12465, 12540, 12473], [12467, 12523, 12490], [12467, 12540, 12509], [12469, 12452, 12463,
    12523], [12469, 12531, 12481, 12540, 12512], [12471, 12522, 12531, 12464], [12475, 12531,
    12481], [12475, 12531, 12488], [12480, 12540, 12473], [12487, 12471], [12489, 12523], [12488,
    12531], [12490, 12494], [12494, 12483, 12488], [12495, 12452, 12484], [12497, 12540, 12475,
    12531, 12488], [12497, 12540, 12484], [12496, 12540, 12524, 12523], [12500, 12450, 12473,
    12488, 12523], [12500, 12463, 12523], [12500, 12467], [12499, 12523], [12501, 12449, 12521,
    12483, 12489], [12501, 12451, 12540, 12488], [12502, 12483, 12471, 12455, 12523], [12501,
    12521, 12531], [12504, 12463, 12479, 12540, 12523], [12506, 12477], [12506, 12491, 12498],
    [12504, 12523, 12484], [12506, 12531, 12473]]),
   (13115, [[12506, 12540, 12472], [12505, 12540, 12479], [12509, 12452, 12531, 12488], [12508,
    12523, 12488], [12507, 12531], [12509, 12531, 12489], [12507, 12540, 12523], [12507, 12540,
    12531], [12510, 12452, 12463, 12525], [12510, 12452, 12523], [12510, 12483, 12495], [12510,
    12523, 12463], [12510, 12531, 12471, 12519, 12531], [12511, 12463, 12525, 12531], [12511,
    12522], [12511, 12522, 12496, 12540, 12523], [12513, 12460], [12513, 12460, 12488, 12531],
    [12513, 12540, 12488, 12523], [12516, 12540, 12489], [12516, 12540, 12523], [12518, 12450,
    12531], [12522, 12483, 12488, 12523], [12522, 12521], [12523, 12500, 12540], [12523, 12540,
    12502, 12523], [12524, 12512], [12524, 12531, 12488, 12466, 12531], [12527, 12483, 12488],
    [48, 28857], [49, 28857], [50, 28857], [51, 28857], [52, 28857], [53, 28857], [54, 28857],
    [55, 28857], [56, 28857], [57, 28857], [49, 48, 28857], [49, 49, 28857], [49, 50, 28857], [49,
    51, 28857], [49, 52, 28857], [49, 53, 28857], [49, 54, 28857], [49, 55, 28857], [49, 56,
    28857], [49, 57, 28857], [50, 48, 28857], [50, 49, 28857], [50, 50, 28857], [50, 51, 28857],
    [50, 52, 28857], [104, 112, 97], [100, 97], [97, 117], [98, 97, 114], [111, 118], [112, 99]]),
   (13175, [[100, 109], [100, 109, 50], [100, 109, 51], [105, 117], [24179, 25104], [26157,
    21644], [22823, 27491], [26126, 27835], [26666, 24335, 20250, 31038], [112, 97], [110, 97],
    [956, 97], [109, 97], [107, 97], [107, 98], [109, 98], [103, 98], [99, 97, 108], [107, 99, 97,
    108], [112, 102], [110, 102], [956, 102], [956, 103], [109, 103], [107, 103], [104, 122],
    [107, 104, 122], [109, 104, 122], [103, 104, 122], [116, 104, 122], [956, 108], [109, 108],
    [100, 108], [107, 108], [102, 109], [110, 109], [956, 109], [109, 109], [99, 109], [107, 109],
    [109, 109, 50], [99, 109, 50], [109, 50], [107, 109, 50], [109, 109, 51], [99, 109, 51], [109,
    51], [107, 109, 51], [109, 8725, 115], [109, 8725, 115, 50], [112, 97], [107, 112, 97], [109,
    112, 97], [103, 112, 97], [114, 97, 100], [114, 97, 100, 8725, 115], [114, 97, 100, 8725, 115,
    50], [112, 115], [110, 115], [956, 115]]),
   (13235, [[109, 115], [112, 118], [110, 118], [956, 118], [109, 118], [107, 118], [109, 118],
    [112, 119], [110, 119], [956, 119], [109, 119], [107, 119], [109, 119], [107, 969], [109,
    969]]), (13251, [[98, 113], [99, 99], [99, 100], [99, 8725, 107, 103]]),
   (13256, [[100, 98], [103, 121], [104, 97], [104, 112], [105, 110], [107, 107], [107, 109],
    [107, 116], [108, 109], [108, 110], [108, 111, 103], [108, 120], [109, 98], [109, 105, 108],
    [109, 111, 108], [112, 104]]),
   (13273, [[112, 112, 109], [112, 114], [115, 114], [115, 118], [119, 98], [118, 8725, 109], [97,
    8725, 109], [49, 26085], [50, 26085], [51, 26085], [52, 26085], [53, 26085], [54, 26085], [55,
    26085], [56, 26085], [57, 26085], [49, 48, 26085], [49, 49, 26085], [49, 50, 26085], [49, 51,
    26085], [49, 52, 26085], [49, 53, 26085], [49, 54, 26085], [49, 55, 26085], [49, 56, 26085],
    [49, 57, 26085], [50, 48, 26085], [50, 49, 26085], [50, 50, 26085], [50, 51, 26085], [50, 52,
    26085], [50, 53, 26085], [50, 54, 26085], [50, 55, 26085], [50, 56, 26085], [50, 57, 26085],
    [51, 48, 26085], [51, 49, 26085], [103, 97, 108]]),
   (64256, [[102, 102], [102, 105], [102, 108], [102, 102, 105], [102, 102, 108], [115, 116],
    [115, 116]]), (64275, [[1396, 1398], [1396, 1381], [1396, 1387], [1406, 1398], [1396, 1389]]),
   (64285, [[1497, 1460]]), (64287, [[1522, 1463]]),
   (64298, [[1513, 1473], [1513, 1474], [1513, 1468, 1473], [1513, 1468, 1474], [1488, 1463],
    [1488, 1464], [1488, 1468], [1489, 1468], [1490, 1468], [1491, 1468], [1492, 1468], [1493,
    1468], [1494, 1468]]),
   (64312, [[1496, 1468], [1497, 1468], [1498, 1468], [1499, 1468], [1500, 1468]]),
   (64318, [[1502, 1468]]), (64320, [[1504, 1468], [1505, 1468]]),
   (64323, [[1507, 1468], [1508, 1468]]),
   (64326, [[1510, 1468], [1511, 1468], [1512, 1468], [1513, 1468], [1514, 1468], [1493, 1465],
    [1489, 1471], [1499, 1471], [1508, 1471], [1488, 1500]]), (64477, [[1735, 1652]]),
   (64490, [[1574, 1575], [1574, 1575], [1574, 1749], [1574, 1749], [1574, 1608], [1574, 1608],
    [1574, 1735], [1574, 1735], [1574, 1734], [1574, 1734], [1574, 1736], [1574, 1736], [1574,
    1744], [1574, 1744], [1574, 1744], [1574, 1609], [1574, 1609], [1574, 1609]]),
   (64512, [[1574, 1580], [1574, 1581], [1574, 1605], [1574, 1609], [1574, 1610], [1576, 1580],
    [1576, 1581], [1576, 1582], [1576, 1605], [1576, 1609], [1576, 1610], [1578, 1580], [1578,
    1581], [1578, 1582], [1578, 1605], [1578, 1609], [1578, 1610], [1579, 1580], [1579, 1605],
    [1579, 1609], [1579, 1610], [1580, 1581], [1580, 1605], [1581, 1580], [1581, 1605], [1582,
    1580], [1582, 1581], [1582, 1605], [1587, 1580], [1587, 1581], [1587, 1582], [1587, 1605],
    [1589, 1581], [1589, 1605], [1590, 1580], [1590, 1581], [1590, 1582], [1590, 1605], [1591,
    1581], [1591, 1605], [1592, 1605], [1593, 1580], [1593, 1605], [1594, 1580], [1594, 1605],
    [1601, 1580], [1601, 1581], [1601, 1582], [1601, 1605], [1601, 1609], [1601, 1610], [1602,
    1581], [1602, 1605], [1602, 1609], [1602, 1610], [1603, 1575], [1603, 1580], [1603, 1581],
    [1603, 1582], [1603, 1604]]),
   (64572, [[1603, 1605], [1603, 1609], [1603, 1610], [1604, 1580], [1604, 1581], [1604, 1582],
    [1604, 1605], [1604, 1609], [1604, 1610], [1605, 1580], [1605, 1581], [1605, 1582], [1605,
    1605], [1605, 1609], [1605, 1610], [1606, 1580], [1606, 1581], [1606, 1582], [1606, 1605],
    [1606, 1609], [1606, 1610], [1607, 1580], [1607, 1605], [1607, 1609], [1607, 1610], [1610,
    1580], [1610, 1581], [1610, 1582], [1610, 1605], [1610, 1609], [1610, 1610], [1584, 1648],
    [1585, 1648], [1609, 1648], [32, 1612, 1617], [32, 1613, 1617], [32, 1614, 1617], [32, 1615,
    1617], [32, 1616, 1617], [32, 1617, 1648], [1574, 1585], [1574, 1586], [1574, 1605], [1574,
    1606], [1574, 1609], [1574, 1610], [1576, 1585], [1576, 1586], [1576, 1605], [1576, 1606],
    [1576, 1609], [1576, 1610], [1578, 1585], [1578, 1586], [1578, 1605], [1578, 1606], [1578,
    1609], [1578, 1610], [1579, 1585], [1579, 1586]]),
   (64632, [[1579, 1605], [1579, 1606], [1579, 1609], [1579, 1610], [1601, 1609], [1601, 1610],
    [1602, 1609], [1602, 1610], [1603, 1575], [1603, 1604], [1603, 1605], [1603, 1609], [1603,
    1610], [1604, 1605], [1604, 1609], [1604, 1610], [1605, 1575], [1605, 1605], [1606, 1585],
    [1606, 1586], [1606, 1605], [1606, 1606], [1606, 1609], [1606, 1610], [1609, 1648], [1610,
    1585], [1610, 1586], [1610, 1605], [1610, 1606], [1610, 1609], [1610, 1610], [1574, 1580],
    [1574, 1581], [1574, 1582], [1574, 1605], [1574, 1607], [1576, 1580], [1576, 1581], [1576,
    1582], [1576, 1605], [1576, 1607], [1578, 1580], [1578, 1581], [1578, 1582], [1578, 1605],
    [1578, 1607], [1579, 1605], [1580, 1581], [1580, 1605], [1581, 1580], [1581, 1605], [1582,
    1580], [1582, 1605], [1587, 1580], [1587, 1581], [1587, 1582], [1587, 1605], [1589, 1581],
    [1589, 1582], [1589, 1605]]),
   (64692, [[1590, 1580], [1590, 1581], [1590, 1582], [1590, 1605], [1591, 1581], [1592, 1605],
    [1593, 1580], [1593, 1605], [1594, 1580], [1594, 1605], [1601, 1580], [1601, 1581], [1601,
    1582], [1601, 1605], [1602, 1581], [1602, 1605], [1603, 1580], [1603, 1581], [1603, 1582],
    [1603, 1604], [1603, 1605], [1604, 1580], [1604, 1581], [1604, 1582], [1604, 1605], [1604,
    1607], [1605, 1580], [1605, 1581], [1605, 1582], [1605, 1605], [1606, 1580], [1606, 1581],
    [1606, 1582], [1606, 1605], [1606, 1607], [1607, 1580], [1607, 1605], [1607, 1648], [1610,
    1580], [1610, 1581], [1610, 1582], [1610, 1605], [1610, 1607], [1574, 1605], [1574, 1607],
    [1576, 1605], [1576, 1607], [1578, 1605], [1578, 1607], [1579, 1605], [1579, 1607], [1587,
    1605], [1587, 1607], [1588, 1605], [1588, 1607], [1603, 1604], [1603, 1605], [1604, 1605],
    [1606, 1605], [1606, 1607]]),
   (64752, [[1610, 1605], [1610, 1607], [1600, 1614, 1617], [1600, 1615, 1617], [1600, 1616,
    1617], [1591, 1609], [1591, 1610], [1593, 1609], [1593, 1610], [1594, 1609], [1594, 1610],
    [1587, 1609], [1587, 1610], [1588, 1609], [1588, 1610], [1581, 1609], [1581, 1610], [1580,
    1609], [1580, 1610], [1582, 1609], [1582, 1610], [1589, 1609], [1589, 1610], [1590, 1609],
    [1590, 1610], [1588, 1580], [1588, 1581], [1588, 1582], [1588, 1605], [1588, 1585], [1587,
    1585], [1589, 1585], [1590, 1585], [1591, 1609], [1591, 1610], [1593, 1609], [1593, 1610],
    [1594, 1609], [1594, 1610], [1587, 1609], [1587, 1610], [1588, 1609], [1588, 1610], [1581,
    1609], [1581, 1610], [1580, 1609], [1580, 1610], [1582, 1609], [1582, 1610], [1589, 1609],
    [1589, 1610], [1590, 1609], [1590, 1610], [1588, 1580], [1588, 1581], [1588, 1582], [1588,
    1605], [1588, 1585], [1587, 1585], [1589, 1585]]),
   (64812, [[1590, 1585], [1588, 1580], [1588, 1581], [1588, 1582], [1588, 1605], [1587, 1607],
    [1588, 1607], [1591, 1605], [1587, 1580], [1587, 1581], [1587, 1582], [1588, 1580], [1588,
    1581], [1588, 1582], [1591, 1605], [1592, 1605], [1575, 1611], [1575, 1611]]),
   (64848, [[1578, 1580, 1605], [1578, 1581, 1580], [1578, 1581, 1580], [1578, 1581, 1605], [1578,
    1582, 1605], [1578, 1605, 1580], [1578, 1605, 1581], [1578, 1605, 1582], [1580, 1605, 1581],
    [1580, 1605, 1581], [1581, 1605, 1610], [1581, 1605, 1609], [1587, 1581, 1580], [1587, 1580,
    1581], [1587, 1580, 1609], [1587, 1605, 1581], [1587, 1605, 1581], [1587, 1605, 1580], [1587,
    1605, 1605], [1587, 1605, 1605], [1589, 1581, 1581], [1589, 1581, 1581], [1589, 1605, 1605],
    [1588, 1581, 1605], [1588, 1581, 1605], [1588, 1580, 1610], [1588, 1605, 1582], [1588, 1605,
    1582], [1588, 1605, 1605], [1588, 1605, 1605], [1590, 1581, 1609], [1590, 1582, 1605], [1590,
    1582, 1605], [1591, 1605, 1581], [1591, 1605, 1581], [1591, 1605, 1605], [1591, 1605, 1610],
    [1593, 1580, 1605], [1593, 1605, 1605], [1593, 1605, 1605], [1593, 1605, 1609], [1594, 1605,
    1605], [1594, 1605, 1610], [1594, 1605, 1609], [1601, 1582, 1605], [1601, 1582, 1605], [1602,
    1605, 1581], [1602, 1605, 1605], [1604, 1581, 1605], [1604, 1581, 1610], [1604, 1581, 1609],
    [1604, 1580, 1580], [1604, 1580, 1580], [1604, 1582, 1605], [1604, 1582, 1605], [1604, 1605,
    1581], [1604, 1605, 1581], [1605, 1581, 1580], [1605, 1581, 1605], [1605, 1581, 1610]]),
   (64908, [[1605, 1580, 1581], [1605, 1580, 1605], [1605, 1582, 1580], [1605, 1582, 1605]]),
   (64914, [[1605, 1580, 1582], [1607, 1605, 1580], [1607, 1605, 1605], [1606, 1581, 1605], [1606,
    1581, 1609], [1606, 1580, 1605], [1606, 1580, 1605], [1606, 1580, 1609], [1606, 1605, 1610],
    [1606, 1605, 1609], [1610, 1605, 1605], [1610, 1605, 1605], [1576, 1582, 1610], [1578, 1580,
    1610], [1578, 1580, 1609], [1578, 1582, 1610], [1578, 1582, 1609], [1578, 1605, 1610], [1578,
    1605, 1609], [1580, 1605, 1610], [1580, 1581, 1609], [1580, 1605, 1609], [1587, 1582, 1609],
    [1589, 1581, 1610], [1588, 1581, 1610], [1590, 1581, 1610], [1604, 1580, 1610], [1604, 1605,
    1610], [1610, 1581, 1610], [1610, 1580, 1610], [1610, 1605, 1610], [1605, 1605, 1610], [1602,
    1605, 1610], [1606, 1581, 1610], [1602, 1605, 1581], [1604, 1581, 1605], [1593, 1605, 1610],
    [1603, 1605, 1610], [1606, 1580, 1581], [1605, 1582, 1610], [1604, 1580, 1605], [1603, 1605,
    1605], [1604, 1580, 1605], [1606, 1580, 1581], [1580, 1581, 1610], [1581, 1580, 1610], [1605,
    1580, 1610], [1601, 1605, 1610], [1576, 1581, 1610], [1603, 1605, 1605], [1593, 1580, 1605],
    [1589, 1605, 1605], [1587, 1582, 1610], [1606, 1580, 1610]]),
   (65008, [[1589, 1604, 1746], [1602, 1604, 1746], [1575, 1604, 1604, 1607], [1575, 1603, 1576,
    1585], [1605, 1581, 1605, 1583], [1589, 1604, 1593, 1605], [1585, 1587, 1608, 1604], [1593,
    1604, 1610, 1607], [1608, 1587, 1604, 1605], [1589, 1604, 1609], [1589, 1604, 1609, 32, 1575,
    1604, 1604, 1607, 32, 1593, 1604, 1610, 1607, 32, 1608, 1587, 1604, 1605], [1580, 1604, 32,
    1580, 1604, 1575, 1604, 1607], [1585, 1740, 1575, 1604]]),
   (65097, [[32, 773], [32, 773], [32, 773], [32, 773]]),
   (65136, [[32, 1611], [1600, 1611], [32, 1612]]), (65140, [[32, 1613]]),
   (65142, [[32, 1614], [1600, 1614], [32, 1615], [1600, 1615], [32, 1616], [1600, 1616], [32,
    1617], [1600, 1617], [32, 1618], [1600, 1618]]),
   (65269, [[1604, 1570], [1604, 1570], [1604, 1571], [1604, 1571], [1604, 1573], [1604, 1573],
    [1604, 1575], [1604, 1575]]), (65507, [[32, 772]]),
   (119134, [[119127, 119141], [119128, 119141], [119128, 119141, 119150], [119128, 119141,
    119151], [119128, 119141, 119152], [119128, 119141, 119153], [119128, 119141, 119154]]),
   (119227, [[119225, 119141], [119226, 119141], [119225, 119141, 119150], [119226, 119141,
    119150], [119225, 119141, 119151], [119226, 119141, 119151]]),
   (127233, [[48, 44], [49, 44], [50, 44], [51, 44], [52, 44], [53, 44], [54, 44], [55, 44], [56,
    44], [57, 44]]),
   (127248, [[40, 97, 41], [40, 98, 41], [40, 99, 41], [40, 100, 41], [40, 101, 41], [40, 102,
    41], [40, 103, 41], [40, 104, 41], [40, 105, 41], [40, 106, 41], [40, 107, 41], [40, 108, 41],
    [40, 109, 41], [40, 110, 41], [40, 111, 41], [40, 112, 41], [40, 113, 41], [40, 114, 41], [40,
    115, 41], [40, 116, 41], [40, 117, 41], [40, 118, 41], [40, 119, 41], [40, 120, 41], [40, 121,
    41], [40, 122, 41], [12308, 115, 12309]]), (127277, [[99, 100], [119, 122]]),
   (127306, [[104, 118], [109, 118], [115, 100], [115, 115], [112, 112, 118], [119, 99]]),
   (127338, [[109, 99], [109, 100], [109, 114]]), (127376, [[100, 106]]),
   (127488, [[12411, 12363], [12467, 12467]]),
   (127552, [[12308, 26412, 12309], [12308, 19977, 12309], [12308, 20108, 12309], [12308, 23433,
    12309], [12308, 28857, 12309], [12308, 25171, 12309], [12308, 30423, 12309], [12308, 21213,
    12309], [12308, 25943, 12309]])]

def ignoredRanges : List (Nat × Nat) :=
  [(173, 173), (847, 847), (4447, 4448), (6068, 6069), (6155, 6159), (8203, 8203), (8288, 8292),
   (8298, 8303), (12644, 12644), (65024, 65039), (65279, 65279), (65440, 65440), (113824, 113827),
   (119155, 119162), (917760, 917999)]

def inRuns? (table : List (Nat × List α)) (n : Nat) : Option α :=
  table.findSome? fun r => if r.1 ≤ n then r.2[n - r.1]? else none

def folded (c : Char) : Text :=
  let n := c.toNat
  if n < 128 then [c.toLower]
  else if Text.inRanges ignoredRanges c then []
  else if capitalRanges.any (fun r => r.1 ≤ n && n ≤ r.2 && (n - r.1) % 2 == 0) then
    [Char.ofNat (n + 1)]
  else
    match shiftedRanges.find? fun r => r.1 ≤ n && n ≤ r.2.1 with
    | some (first, _, image) => [Char.ofNat (image + (n - first))]
    | none =>
      match inRuns? phrases n with
      | some images => images.map Char.ofNat
      | none => [((inRuns? (variants ++ ideographs) n).map Char.ofNat).getD c]

/-- Names are compared in this form: small letters, no variants, and composites put together. -/
def fold (s : Text) : Text := compose (decompose (s.flatMap folded))

end Descramble.Url.Name
