import Descramble.Text.Basic

namespace Descramble.Url.Name

/-- The combining classes of the characters of names, where they are not 0: marks of one class
compete for one place, and their order counts. -/
def classRanges : List (Nat × Nat × Nat) :=
  [(768, 788, 230), (789, 789, 232), (790, 793, 220), (794, 794, 232), (795, 795, 216),
   (796, 800, 220), (801, 802, 202), (803, 806, 220), (807, 808, 202), (809, 819, 220),
   (820, 824, 1), (825, 828, 220), (829, 838, 230), (839, 841, 220), (842, 844, 230),
   (845, 846, 220), (848, 850, 230), (851, 854, 220), (855, 855, 230), (856, 856, 232),
   (857, 858, 220), (859, 859, 230), (860, 860, 233), (861, 862, 234), (863, 863, 233),
   (864, 865, 234), (866, 866, 233), (867, 879, 230), (1155, 1159, 230), (1425, 1425, 220),
   (1426, 1429, 230), (1430, 1430, 220), (1431, 1433, 230), (1434, 1434, 222), (1435, 1435, 220),
   (1436, 1441, 230), (1442, 1447, 220), (1448, 1449, 230), (1450, 1450, 220), (1451, 1452, 230),
   (1453, 1453, 222), (1454, 1454, 228), (1455, 1455, 230), (1456, 1456, 10), (1457, 1457, 11),
   (1458, 1458, 12), (1459, 1459, 13), (1460, 1460, 14), (1461, 1461, 15), (1462, 1462, 16),
   (1463, 1463, 17), (1464, 1464, 18), (1465, 1466, 19), (1467, 1467, 20), (1468, 1468, 21),
   (1469, 1469, 22), (1471, 1471, 23), (1473, 1473, 24), (1474, 1474, 25), (1476, 1476, 230),
   (1477, 1477, 220), (1479, 1479, 18), (1552, 1559, 230), (1560, 1560, 30), (1561, 1561, 31),
   (1562, 1562, 32), (1611, 1611, 27), (1612, 1612, 28), (1613, 1613, 29), (1614, 1614, 30),
   (1615, 1615, 31), (1616, 1616, 32), (1617, 1617, 33), (1618, 1618, 34), (1619, 1620, 230),
   (1621, 1622, 220), (1623, 1627, 230), (1628, 1628, 220), (1629, 1630, 230), (1631, 1631, 220),
   (1648, 1648, 35), (1750, 1756, 230), (1759, 1762, 230), (1763, 1763, 220), (1764, 1764, 230),
   (1767, 1768, 230), (1770, 1770, 220), (1771, 1772, 230), (1773, 1773, 220), (1809, 1809, 36),
   (1840, 1840, 230), (1841, 1841, 220), (1842, 1843, 230), (1844, 1844, 220), (1845, 1846, 230),
   (1847, 1849, 220), (1850, 1850, 230), (1851, 1852, 220), (1853, 1853, 230), (1854, 1854, 220),
   (1855, 1857, 230), (1858, 1858, 220), (1859, 1859, 230), (1860, 1860, 220), (1861, 1861, 230),
   (1862, 1862, 220), (1863, 1863, 230), (1864, 1864, 220), (1865, 1866, 230), (2027, 2033, 230),
   (2034, 2034, 220), (2035, 2035, 230), (2045, 2045, 220), (2070, 2073, 230), (2075, 2083, 230),
   (2085, 2087, 230), (2089, 2093, 230), (2137, 2139, 220), (2199, 2200, 230), (2201, 2203, 220),
   (2204, 2207, 230), (2250, 2254, 230), (2255, 2259, 220), (2260, 2273, 230), (2275, 2275, 220),
   (2276, 2277, 230), (2278, 2278, 220), (2279, 2280, 230), (2281, 2281, 220), (2282, 2284, 230),
   (2285, 2287, 220), (2288, 2288, 27), (2289, 2289, 28), (2290, 2290, 29), (2291, 2293, 230),
   (2294, 2294, 220), (2295, 2296, 230), (2297, 2298, 220), (2299, 2303, 230), (2364, 2364, 7),
   (2381, 2381, 9), (2385, 2385, 230), (2386, 2386, 220), (2387, 2388, 230), (2492, 2492, 7),
   (2509, 2509, 9), (2558, 2558, 230), (2620, 2620, 7), (2637, 2637, 9), (2748, 2748, 7),
   (2765, 2765, 9), (2876, 2876, 7), (2893, 2893, 9), (3021, 3021, 9), (3132, 3132, 7),
   (3149, 3149, 9), (3157, 3157, 84), (3158, 3158, 91), (3260, 3260, 7), (3277, 3277, 9),
   (3387, 3388, 9), (3405, 3405, 9), (3530, 3530, 9), (3640, 3641, 103), (3642, 3642, 9),
   (3656, 3659, 107), (3768, 3769, 118), (3770, 3770, 9), (3784, 3787, 122), (3864, 3865, 220),
   (3893, 3893, 220), (3895, 3895, 220), (3897, 3897, 216), (3953, 3953, 129), (3954, 3954, 130),
   (3956, 3956, 132), (3962, 3965, 130), (3968, 3968, 130), (3970, 3971, 230), (3972, 3972, 9),
   (3974, 3975, 230), (4038, 4038, 220), (4151, 4151, 7), (4153, 4154, 9), (4237, 4237, 220),
   (4957, 4959, 230), (5908, 5909, 9), (5940, 5940, 9), (6098, 6098, 9), (6109, 6109, 230),
   (6313, 6313, 228), (6457, 6457, 222), (6458, 6458, 230), (6459, 6459, 220), (6679, 6679, 230),
   (6680, 6680, 220), (6752, 6752, 9), (6773, 6780, 230), (6783, 6783, 220), (6832, 6836, 230),
   (6837, 6842, 220), (6843, 6844, 230), (6845, 6845, 220), (6847, 6848, 220), (6849, 6850, 230),
   (6851, 6852, 220), (6853, 6857, 230), (6858, 6858, 220), (6859, 6876, 230), (6877, 6877, 220),
   (6880, 6885, 230), (6886, 6886, 220), (6887, 6890, 230), (6891, 6891, 234), (6964, 6964, 7),
   (6980, 6980, 9), (7019, 7019, 230), (7020, 7020, 220), (7021, 7027, 230), (7082, 7083, 9),
   (7142, 7142, 7), (7154, 7155, 9), (7223, 7223, 7), (7376, 7378, 230), (7380, 7380, 1),
   (7381, 7385, 220), (7386, 7387, 230), (7388, 7391, 220), (7392, 7392, 230), (7394, 7400, 1),
   (7405, 7405, 220), (7412, 7412, 230), (7416, 7417, 230), (7616, 7617, 230), (7618, 7618, 220),
   (7619, 7625, 230), (7626, 7626, 220), (7627, 7628, 230), (7629, 7629, 234), (7630, 7630, 214),
   (7631, 7631, 220), (7632, 7632, 202), (7633, 7669, 230), (7670, 7670, 232), (7671, 7672, 228),
   (7673, 7673, 220), (7674, 7674, 218), (7675, 7675, 230), (7676, 7676, 233), (7677, 7677, 220),
   (7678, 7678, 230), (7679, 7679, 220), (8400, 8401, 230), (8402, 8403, 1), (8404, 8407, 230),
   (8408, 8410, 1), (8411, 8412, 230), (8417, 8417, 230), (8421, 8422, 1), (8423, 8423, 230),
   (8424, 8424, 220), (8425, 8425, 230), (8426, 8427, 1), (8428, 8431, 220), (8432, 8432, 230),
   (11503, 11505, 230), (11647, 11647, 9), (11744, 11775, 230), (12330, 12330, 218),
   (12331, 12331, 228), (12332, 12332, 232), (12333, 12333, 222), (12334, 12335, 224),
   (12441, 12442, 8), (42607, 42607, 230), (42612, 42621, 230), (42654, 42655, 230),
   (42736, 42737, 230), (43014, 43014, 9), (43052, 43052, 9), (43204, 43204, 9),
   (43232, 43249, 230), (43307, 43309, 220), (43347, 43347, 9), (43443, 43443, 7),
   (43456, 43456, 9), (43696, 43696, 230), (43698, 43699, 230), (43700, 43700, 220),
   (43703, 43704, 230), (43710, 43711, 230), (43713, 43713, 230), (43766, 43766, 9),
   (44013, 44013, 9), (64286, 64286, 26), (65056, 65062, 230), (65063, 65069, 220),
   (65070, 65071, 230), (66045, 66045, 220), (66272, 66272, 220), (66422, 66426, 230),
   (68109, 68109, 220), (68111, 68111, 230), (68152, 68152, 230), (68153, 68153, 1),
   (68154, 68154, 220), (68159, 68159, 9), (68325, 68325, 230), (68326, 68326, 220),
   (68900, 68903, 230), (68969, 68973, 230), (69291, 69292, 230), (69370, 69371, 220),
   (69373, 69375, 220), (69446, 69447, 220), (69448, 69450, 230), (69451, 69451, 220),
   (69452, 69452, 230), (69453, 69456, 220), (69506, 69506, 230), (69507, 69507, 220),
   (69508, 69508, 230), (69509, 69509, 220), (69702, 69702, 9), (69744, 69744, 9),
   (69759, 69759, 9), (69817, 69817, 9), (69818, 69818, 7), (69888, 69890, 230),
   (69939, 69940, 9), (70003, 70003, 7), (70080, 70080, 9), (70090, 70090, 7), (70197, 70197, 9),
   (70198, 70198, 7), (70377, 70377, 7), (70378, 70378, 9), (70459, 70460, 7), (70477, 70477, 9),
   (70502, 70516, 230), (70606, 70608, 9), (70722, 70722, 9), (70726, 70726, 7),
   (70750, 70750, 230), (70850, 70850, 9), (70851, 70851, 7), (71103, 71103, 9),
   (71104, 71104, 7), (71231, 71231, 9), (71350, 71350, 9), (71351, 71351, 7), (71467, 71467, 9),
   (71737, 71737, 9), (71738, 71738, 7), (71997, 71998, 9), (72003, 72003, 7), (72160, 72160, 9),
   (72244, 72244, 9), (72263, 72263, 9), (72345, 72345, 9), (72767, 72767, 9), (73026, 73026, 7),
   (73028, 73029, 9), (73111, 73111, 9), (73537, 73538, 9), (90415, 90415, 9), (92912, 92916, 1),
   (92976, 92982, 230), (94192, 94193, 6), (113822, 113822, 1), (119141, 119142, 216),
   (119143, 119145, 1), (119149, 119149, 226), (119150, 119154, 216), (119163, 119170, 220),
   (119173, 119177, 230), (119178, 119179, 220), (119210, 119213, 230), (119362, 119364, 230),
   (122880, 123023, 230), (123184, 123190, 230), (123566, 123566, 230), (123628, 123631, 230),
   (124140, 124141, 232), (124142, 124142, 220), (124143, 124143, 230), (124398, 124398, 230),
   (124399, 124399, 220), (124643, 124643, 230), (124646, 124646, 230), (124654, 124655, 230),
   (124661, 124661, 230), (125136, 125142, 220), (125252, 125257, 230), (125258, 125258, 7)]

def combiningClass (c : Char) : Nat :=
  match classRanges.find? fun r => r.1 ≤ c.toNat && c.toNat ≤ r.2.1 with
  | some r => r.2.2
  | none => 0

/-- Characters of names that are a base and a mark in one. If the base is one of them as well, it is
listed behind its composite. -/
def composites : List (Nat × Nat × Nat) :=
  [(481, 551, 772), (912, 970, 769), (944, 971, 769), (93546, 93545, 93543),
   (93545, 93539, 93543), (93544, 93543, 93543), (90408, 90401, 90400), (90407, 90402, 90399),
   (90406, 90401, 90399), (90405, 90398, 90400), (90404, 90409, 90399), (90403, 90398, 90399),
   (90402, 90398, 90409), (90401, 90398, 90398), (71992, 71989, 71984), (71099, 71097, 71087),
   (71098, 71096, 71087), (70846, 70841, 70845), (70844, 70841, 70832), (70843, 70841, 70842),
   (70600, 70594, 70601), (70599, 70594, 70584), (70597, 70594, 70594), (70545, 70544, 70601),
   (70542, 70539, 70594), (70533, 70532, 70587), (70531, 70530, 70601), (70476, 70471, 70487),
   (70475, 70471, 70462), (69935, 69938, 69927), (69934, 69937, 69927), (69803, 69797, 69818),
   (69788, 69787, 69818), (69786, 69785, 69818), (67044, 67034, 775), (67017, 67026, 775),
   (12542, 12541, 12441), (12538, 12530, 12441), (12537, 12529, 12441), (12536, 12528, 12441),
   (12535, 12527, 12441), (12532, 12454, 12441), (12509, 12507, 12442), (12508, 12507, 12441),
   (12506, 12504, 12442), (12505, 12504, 12441), (12503, 12501, 12442), (12502, 12501, 12441),
   (12500, 12498, 12442), (12499, 12498, 12441), (12497, 12495, 12442), (12496, 12495, 12441),
   (12489, 12488, 12441), (12487, 12486, 12441), (12485, 12484, 12441), (12482, 12481, 12441),
   (12480, 12479, 12441), (12478, 12477, 12441), (12476, 12475, 12441), (12474, 12473, 12441),
   (12472, 12471, 12441), (12470, 12469, 12441), (12468, 12467, 12441), (12466, 12465, 12441),
   (12464, 12463, 12441), (12462, 12461, 12441), (12460, 12459, 12441), (12446, 12445, 12441),
   (12436, 12358, 12441), (12413, 12411, 12442), (12412, 12411, 12441), (12410, 12408, 12442),
   (12409, 12408, 12441), (12407, 12405, 12442), (12406, 12405, 12441), (12404, 12402, 12442),
   (12403, 12402, 12441), (12401, 12399, 12442), (12400, 12399, 12441), (12393, 12392, 12441),
   (12391, 12390, 12441), (12389, 12388, 12441), (12386, 12385, 12441), (12384, 12383, 12441),
   (12382, 12381, 12441), (12380, 12379, 12441), (12378, 12377, 12441), (12376, 12375, 12441),
   (12374, 12373, 12441), (12372, 12371, 12441), (12370, 12369, 12441), (12368, 12367, 12441),
   (12366, 12365, 12441), (12364, 12363, 12441), (8941, 8885, 824), (8940, 8884, 824),
   (8939, 8883, 824), (8938, 8882, 824), (8931, 8850, 824), (8930, 8849, 824), (8929, 8829, 824),
   (8928, 8828, 824), (8879, 8875, 824), (8878, 8873, 824), (8877, 8872, 824), (8876, 8866, 824),
   (8841, 8839, 824), (8840, 8838, 824), (8837, 8835, 824), (8836, 8834, 824), (8833, 8827, 824),
   (8832, 8826, 824), (8825, 8823, 824), (8824, 8822, 824), (8821, 8819, 824), (8820, 8818, 824),
   (8817, 8805, 824), (8816, 8804, 824), (8815, 62, 824), (8814, 60, 824), (8813, 8781, 824),
   (8802, 8801, 824), (8800, 61, 824), (8777, 8776, 824), (8775, 8773, 824), (8772, 8771, 824),
   (8769, 8764, 824), (8742, 8741, 824), (8740, 8739, 824), (8716, 8715, 824), (8713, 8712, 824),
   (8708, 8707, 824), (8655, 8658, 824), (8654, 8660, 824), (8653, 8656, 824), (8622, 8596, 824),
   (8603, 8594, 824), (8602, 8592, 824), (8182, 969, 834), (8167, 971, 834), (8166, 965, 834),
   (8165, 961, 788), (8164, 961, 787), (8162, 971, 768), (8161, 965, 772), (8160, 965, 774),
   (8151, 970, 834), (8150, 953, 834), (8146, 970, 768), (8145, 953, 772), (8144, 953, 774),
   (8134, 951, 834), (8118, 945, 834), (8113, 945, 772), (8112, 945, 774), (8060, 969, 768),
   (8058, 965, 768), (8056, 959, 768), (8054, 953, 768), (8052, 951, 768), (8050, 949, 768),
   (8048, 945, 768), (8039, 8033, 834), (8038, 8032, 834), (8037, 8033, 769), (8036, 8032, 769),
   (8035, 8033, 768), (8034, 8032, 768), (8033, 969, 788), (8032, 969, 787), (8023, 8017, 834),
   (8022, 8016, 834), (8021, 8017, 769), (8020, 8016, 769), (8019, 8017, 768), (8018, 8016, 768),
   (8017, 965, 788), (8016, 965, 787), (8005, 8001, 769), (8004, 8000, 769), (8003, 8001, 768),
   (8002, 8000, 768), (8001, 959, 788), (8000, 959, 787), (7991, 7985, 834), (7990, 7984, 834),
   (7989, 7985, 769), (7988, 7984, 769), (7987, 7985, 768), (7986, 7984, 768), (7985, 953, 788),
   (7984, 953, 787), (7975, 7969, 834), (7974, 7968, 834), (7973, 7969, 769), (7972, 7968, 769),
   (7971, 7969, 768), (7970, 7968, 768), (7969, 951, 788), (7968, 951, 787), (7957, 7953, 769),
   (7956, 7952, 769), (7955, 7953, 768), (7954, 7952, 768), (7953, 949, 788), (7952, 949, 787),
   (7943, 7937, 834), (7942, 7936, 834), (7941, 7937, 769), (7940, 7936, 769), (7939, 7937, 768),
   (7938, 7936, 768), (7937, 945, 788), (7936, 945, 787), (7929, 121, 771), (7927, 121, 777),
   (7925, 121, 803), (7923, 121, 768), (7921, 432, 803), (7919, 432, 771), (7917, 432, 777),
   (7915, 432, 768), (7913, 432, 769), (7911, 117, 777), (7909, 117, 803), (7907, 417, 803),
   (7905, 417, 771), (7903, 417, 777), (7901, 417, 768), (7899, 417, 769), (7897, 7885, 770),
   (7895, 244, 771), (7893, 244, 777), (7891, 244, 768), (7889, 244, 769), (7887, 111, 777),
   (7885, 111, 803), (7883, 105, 803), (7881, 105, 777), (7879, 7865, 770), (7877, 234, 771),
   (7875, 234, 777), (7873, 234, 768), (7871, 234, 769), (7869, 101, 771), (7867, 101, 777),
   (7865, 101, 803), (7863, 7841, 774), (7861, 259, 771), (7859, 259, 777), (7857, 259, 768),
   (7855, 259, 769), (7853, 7841, 770), (7851, 226, 771), (7849, 226, 777), (7847, 226, 768),
   (7845, 226, 769), (7843, 97, 777), (7841, 97, 803), (7833, 121, 778), (7832, 119, 778),
   (7831, 116, 776), (7830, 104, 817), (7829, 122, 817), (7827, 122, 803), (7825, 122, 770),
   (7823, 121, 775), (7821, 120, 776), (7819, 120, 775), (7817, 119, 803), (7815, 119, 775),
   (7813, 119, 776), (7811, 119, 769), (7809, 119, 768), (7807, 118, 803), (7805, 118, 771),
   (7803, 363, 776), (7801, 361, 769), (7799, 117, 813), (7797, 117, 816), (7795, 117, 804),
   (7793, 116, 813), (7791, 116, 817), (7789, 116, 803), (7787, 116, 775), (7785, 7779, 775),
   (7783, 353, 775), (7781, 347, 775), (7779, 115, 803), (7777, 115, 775), (7775, 114, 817),
   (7773, 7771, 772), (7771, 114, 803), (7769, 114, 775), (7767, 112, 775), (7765, 112, 769),
   (7763, 333, 769), (7761, 333, 768), (7759, 245, 776), (7757, 245, 769), (7755, 110, 813),
   (7753, 110, 817), (7751, 110, 803), (7749, 110, 775), (7747, 109, 803), (7745, 109, 775),
   (7743, 109, 769), (7741, 108, 813), (7739, 108, 817), (7737, 7735, 772), (7735, 108, 803),
   (7733, 107, 817), (7731, 107, 803), (7729, 107, 769), (7727, 239, 769), (7725, 105, 816),
   (7723, 104, 814), (7721, 104, 807), (7719, 104, 776), (7717, 104, 803), (7715, 104, 775),
   (7713, 103, 772), (7711, 102, 775), (7709, 553, 774), (7707, 101, 816), (7705, 101, 813),
   (7703, 275, 769), (7701, 275, 768), (7699, 100, 813), (7697, 100, 807), (7695, 100, 817),
   (7693, 100, 803), (7691, 100, 775), (7689, 231, 769), (7687, 98, 817), (7685, 98, 803),
   (7683, 98, 775), (7681, 97, 805), (6979, 6978, 6965), (6977, 6975, 6965), (6976, 6974, 6965),
   (6973, 6972, 6965), (6971, 6970, 6965), (6930, 6929, 6965), (6926, 6925, 6965),
   (6924, 6923, 6965), (6922, 6921, 6965), (6920, 6919, 6965), (6918, 6917, 6965),
   (4134, 4133, 4142), (3550, 3545, 3551), (3549, 3548, 3530), (3548, 3545, 3535),
   (3546, 3545, 3530), (3404, 3398, 3415), (3403, 3399, 3390), (3402, 3398, 3390),
   (3275, 3274, 3285), (3274, 3270, 3266), (3272, 3270, 3286), (3271, 3270, 3285),
   (3264, 3263, 3285), (3144, 3142, 3158), (3020, 3014, 3031), (3019, 3015, 3006),
   (3018, 3014, 3006), (2964, 2962, 3031), (2892, 2887, 2903), (2891, 2887, 2878),
   (2888, 2887, 2902), (2508, 2503, 2519), (2507, 2503, 2494), (2356, 2355, 2364),
   (2353, 2352, 2364), (2345, 2344, 2364), (1747, 1746, 1620), (1730, 1729, 1620),
   (1728, 1749, 1620), (1574, 1610, 1620), (1573, 1575, 1621), (1572, 1608, 1620),
   (1571, 1575, 1620), (1570, 1575, 1619), (1273, 1099, 776), (1269, 1095, 776),
   (1267, 1091, 779), (1265, 1091, 776), (1263, 1091, 772), (1261, 1101, 776), (1259, 1257, 776),
   (1255, 1086, 776), (1253, 1080, 776), (1251, 1080, 772), (1247, 1079, 776), (1245, 1078, 776),
   (1243, 1241, 776), (1239, 1077, 774), (1235, 1072, 776), (1233, 1072, 774), (1218, 1078, 774),
   (1143, 1141, 783), (1118, 1091, 774), (1117, 1080, 768), (1116, 1082, 769), (1111, 1110, 776),
   (1107, 1075, 769), (1105, 1077, 776), (1104, 1077, 768), (1081, 1080, 774), (974, 969, 769),
   (973, 965, 769), (972, 959, 769), (971, 965, 776), (970, 953, 776), (943, 953, 769),
   (942, 951, 769), (941, 949, 769), (940, 945, 769), (563, 121, 772), (561, 559, 772),
   (559, 111, 775), (557, 245, 772), (555, 246, 772), (553, 101, 807), (551, 97, 775),
   (543, 104, 780), (539, 116, 806), (537, 115, 806), (535, 117, 785), (533, 117, 783),
   (531, 114, 785), (529, 114, 783), (527, 111, 785), (525, 111, 783), (523, 105, 785),
   (521, 105, 783), (519, 101, 785), (517, 101, 783), (515, 97, 785), (513, 97, 783),
   (511, 248, 769), (509, 230, 769), (507, 229, 769), (505, 110, 768), (501, 103, 769),
   (496, 106, 780), (495, 658, 780), (493, 491, 772), (491, 111, 808), (489, 107, 780),
   (487, 103, 780), (483, 230, 772), (479, 228, 772), (476, 252, 768), (474, 252, 780),
   (472, 252, 769), (470, 252, 772), (468, 117, 780), (466, 111, 780), (464, 105, 780),
   (462, 97, 780), (432, 117, 795), (417, 111, 795), (382, 122, 780), (380, 122, 775),
   (378, 122, 769), (375, 121, 770), (373, 119, 770), (371, 117, 808), (369, 117, 779),
   (367, 117, 778), (365, 117, 774), (363, 117, 772), (361, 117, 771), (357, 116, 780),
   (355, 116, 807), (353, 115, 780), (351, 115, 807), (349, 115, 770), (347, 115, 769),
   (345, 114, 780), (343, 114, 807), (341, 114, 769), (337, 111, 779), (335, 111, 774),
   (333, 111, 772), (328, 110, 780), (326, 110, 807), (324, 110, 769), (318, 108, 780),
   (316, 108, 807), (314, 108, 769), (311, 107, 807), (309, 106, 770), (303, 105, 808),
   (301, 105, 774), (299, 105, 772), (297, 105, 771), (293, 104, 770), (291, 103, 807),
   (289, 103, 775), (287, 103, 774), (285, 103, 770), (283, 101, 780), (281, 101, 808),
   (279, 101, 775), (277, 101, 774), (275, 101, 772), (271, 100, 780), (269, 99, 780),
   (267, 99, 775), (265, 99, 770), (263, 99, 769), (261, 97, 808), (259, 97, 774), (257, 97, 772),
   (255, 121, 776), (253, 121, 769), (252, 117, 776), (251, 117, 770), (250, 117, 769),
   (249, 117, 768), (246, 111, 776), (245, 111, 771), (244, 111, 770), (243, 111, 769),
   (242, 111, 768), (241, 110, 771), (239, 105, 776), (238, 105, 770), (237, 105, 769),
   (236, 105, 768), (235, 101, 776), (234, 101, 770), (233, 101, 769), (232, 101, 768),
   (231, 99, 807), (229, 97, 778), (228, 97, 776), (227, 97, 771), (226, 97, 770), (225, 97, 769),
   (224, 97, 768)]

/-- The parts of the syllables of Hangul: 19 initials, 21 vowels, and 28 finals with none for the
first of them. -/
def firstInitial : Nat := 0x1100
def firstVowel : Nat := 0x1161
def noFinal : Nat := 0x11A7
def firstSyllable : Nat := 0xAC00

def isSyllable (n : Nat) : Bool := firstSyllable ≤ n && n < firstSyllable + 11172

def syllableParts (n : Nat) : List Nat :=
  let i := n - firstSyllable
  [firstInitial + i / 588, firstVowel + i % 588 / 28] ++
    if i % 28 = 0 then [] else [noFinal + i % 28]

def syllable? (a b : Nat) : Option Nat :=
  if firstInitial ≤ a ∧ a < firstInitial + 19 ∧ firstVowel ≤ b ∧ b < firstVowel + 21 then
    some (firstSyllable + 588 * (a - firstInitial) + 28 * (b - firstVowel))
  else if isSyllable a ∧ (a - firstSyllable) % 28 = 0 ∧ noFinal < b ∧ b < noFinal + 28 then
    some (a + (b - noFinal))
  else none

def parts (n : Nat) : List (Nat × Nat × Nat) → List Nat
  | [] => [n]
  | (composite, base, mark) :: table =>
    if n = composite then parts base table ++ [mark] else parts n table

def decomposed (c : Char) : Text :=
  (if isSyllable c.toNat then syllableParts c.toNat else parts c.toNat composites).map Char.ofNat

/-- Puts a character in front of a text, behind the marks of lower classes that begin it. -/
def place (c : Char) : Text → Text
  | [] => [c]
  | d :: s =>
    if 0 < combiningClass d ∧ combiningClass d < combiningClass c then d :: place c s
    else c :: d :: s

/-- Takes composites apart and sorts the marks behind each base by class. -/
def decompose (s : Text) : Text := (s.flatMap decomposed).foldr place []

def composite? (a b : Char) : Option Char :=
  ((syllable? a.toNat b.toNat).or
    ((composites.find? fun r => r.2.1 == a.toNat && r.2.2 == b.toNat).map (·.1))).map Char.ofNat

/-- Puts marks together with the base before them. A mark is out of reach if one of its class or
of a higher one is between; `kept` holds those between, the last one first. -/
def composeFrom (base : Char) (kept : Text) : Text → Text
  | [] => base :: kept.reverse
  | c :: s =>
    let reached := kept.head?.all (combiningClass · < combiningClass c)
    match if reached then composite? base c else none with
    | some d => composeFrom d kept s
    | none =>
      if combiningClass c = 0 then base :: kept.reverse ++ composeFrom c [] s
      else composeFrom base (c :: kept) s

def compose : Text → Text
  | [] => []
  | c :: s => composeFrom c [] s

def isComposed (s : Text) : Bool := compose (decompose s) == s

end Descramble.Url.Name
