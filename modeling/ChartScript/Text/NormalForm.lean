/-!
# Normal forms of names

A name may be spelled with characters that stand for others: letters of another width or
style, ligatures, letters with accents as one character or several. All spellings of a name
have one normal form (compatibility composition), in which a script is turned into a tree.
The tables hold the decompositions of Unicode 14 for the characters of names.
-/

namespace ChartScript.Text.NormalForm

/-- A character that is composed of two. -/
structure Composite where
  /-- The composed character. -/
  whole : Nat
  /-- The first character. -/
  first : Nat
  /-- The second character. -/
  second : Nat

/-- Neighbouring characters that each stand for a single one. -/
structure Run where
  /-- The first of them. -/
  first : Nat
  /-- How many they are. -/
  count : Nat
  /-- What the first one stands for. -/
  image : Nat
  /-- How far the images lie apart. -/
  step : Nat

/-- A character that stands for several. -/
structure Ligature where
  /-- The character. -/
  whole : Nat
  /-- What it stands for. -/
  parts : List Nat

/-- Neighbouring marks of one combining class. -/
structure Marks where
  /-- The first mark. -/
  first : Nat
  /-- The last mark. -/
  last : Nat
  /-- The class. -/
  weight : Nat

/-- The characters that are composed of two. -/
def composites : Array Composite := #[
  ⟨192, 65, 768⟩, ⟨193, 65, 769⟩, ⟨194, 65, 770⟩, ⟨195, 65, 771⟩, ⟨196, 65, 776⟩, ⟨197, 65, 778⟩,
  ⟨199, 67, 807⟩, ⟨200, 69, 768⟩, ⟨201, 69, 769⟩, ⟨202, 69, 770⟩, ⟨203, 69, 776⟩, ⟨204, 73, 768⟩,
  ⟨205, 73, 769⟩, ⟨206, 73, 770⟩, ⟨207, 73, 776⟩, ⟨209, 78, 771⟩, ⟨210, 79, 768⟩, ⟨211, 79, 769⟩,
  ⟨212, 79, 770⟩, ⟨213, 79, 771⟩, ⟨214, 79, 776⟩, ⟨217, 85, 768⟩, ⟨218, 85, 769⟩, ⟨219, 85, 770⟩,
  ⟨220, 85, 776⟩, ⟨221, 89, 769⟩, ⟨224, 97, 768⟩, ⟨225, 97, 769⟩, ⟨226, 97, 770⟩, ⟨227, 97, 771⟩,
  ⟨228, 97, 776⟩, ⟨229, 97, 778⟩, ⟨231, 99, 807⟩, ⟨232, 101, 768⟩, ⟨233, 101, 769⟩,
  ⟨234, 101, 770⟩, ⟨235, 101, 776⟩, ⟨236, 105, 768⟩, ⟨237, 105, 769⟩, ⟨238, 105, 770⟩,
  ⟨239, 105, 776⟩, ⟨241, 110, 771⟩, ⟨242, 111, 768⟩, ⟨243, 111, 769⟩, ⟨244, 111, 770⟩,
  ⟨245, 111, 771⟩, ⟨246, 111, 776⟩, ⟨249, 117, 768⟩, ⟨250, 117, 769⟩, ⟨251, 117, 770⟩,
  ⟨252, 117, 776⟩, ⟨253, 121, 769⟩, ⟨255, 121, 776⟩, ⟨256, 65, 772⟩, ⟨257, 97, 772⟩,
  ⟨258, 65, 774⟩, ⟨259, 97, 774⟩, ⟨260, 65, 808⟩, ⟨261, 97, 808⟩, ⟨262, 67, 769⟩, ⟨263, 99, 769⟩,
  ⟨264, 67, 770⟩, ⟨265, 99, 770⟩, ⟨266, 67, 775⟩, ⟨267, 99, 775⟩, ⟨268, 67, 780⟩, ⟨269, 99, 780⟩,
  ⟨270, 68, 780⟩, ⟨271, 100, 780⟩, ⟨274, 69, 772⟩, ⟨275, 101, 772⟩, ⟨276, 69, 774⟩,
  ⟨277, 101, 774⟩, ⟨278, 69, 775⟩, ⟨279, 101, 775⟩, ⟨280, 69, 808⟩, ⟨281, 101, 808⟩,
  ⟨282, 69, 780⟩, ⟨283, 101, 780⟩, ⟨284, 71, 770⟩, ⟨285, 103, 770⟩, ⟨286, 71, 774⟩,
  ⟨287, 103, 774⟩, ⟨288, 71, 775⟩, ⟨289, 103, 775⟩, ⟨290, 71, 807⟩, ⟨291, 103, 807⟩,
  ⟨292, 72, 770⟩, ⟨293, 104, 770⟩, ⟨296, 73, 771⟩, ⟨297, 105, 771⟩, ⟨298, 73, 772⟩,
  ⟨299, 105, 772⟩, ⟨300, 73, 774⟩, ⟨301, 105, 774⟩, ⟨302, 73, 808⟩, ⟨303, 105, 808⟩,
  ⟨304, 73, 775⟩, ⟨308, 74, 770⟩, ⟨309, 106, 770⟩, ⟨310, 75, 807⟩, ⟨311, 107, 807⟩, ⟨313, 76, 769⟩,
  ⟨314, 108, 769⟩, ⟨315, 76, 807⟩, ⟨316, 108, 807⟩, ⟨317, 76, 780⟩, ⟨318, 108, 780⟩,
  ⟨323, 78, 769⟩, ⟨324, 110, 769⟩, ⟨325, 78, 807⟩, ⟨326, 110, 807⟩, ⟨327, 78, 780⟩,
  ⟨328, 110, 780⟩, ⟨332, 79, 772⟩, ⟨333, 111, 772⟩, ⟨334, 79, 774⟩, ⟨335, 111, 774⟩,
  ⟨336, 79, 779⟩, ⟨337, 111, 779⟩, ⟨340, 82, 769⟩, ⟨341, 114, 769⟩, ⟨342, 82, 807⟩,
  ⟨343, 114, 807⟩, ⟨344, 82, 780⟩, ⟨345, 114, 780⟩, ⟨346, 83, 769⟩, ⟨347, 115, 769⟩,
  ⟨348, 83, 770⟩, ⟨349, 115, 770⟩, ⟨350, 83, 807⟩, ⟨351, 115, 807⟩, ⟨352, 83, 780⟩,
  ⟨353, 115, 780⟩, ⟨354, 84, 807⟩, ⟨355, 116, 807⟩, ⟨356, 84, 780⟩, ⟨357, 116, 780⟩,
  ⟨360, 85, 771⟩, ⟨361, 117, 771⟩, ⟨362, 85, 772⟩, ⟨363, 117, 772⟩, ⟨364, 85, 774⟩,
  ⟨365, 117, 774⟩, ⟨366, 85, 778⟩, ⟨367, 117, 778⟩, ⟨368, 85, 779⟩, ⟨369, 117, 779⟩,
  ⟨370, 85, 808⟩, ⟨371, 117, 808⟩, ⟨372, 87, 770⟩, ⟨373, 119, 770⟩, ⟨374, 89, 770⟩,
  ⟨375, 121, 770⟩, ⟨376, 89, 776⟩, ⟨377, 90, 769⟩, ⟨378, 122, 769⟩, ⟨379, 90, 775⟩,
  ⟨380, 122, 775⟩, ⟨381, 90, 780⟩, ⟨382, 122, 780⟩, ⟨416, 79, 795⟩, ⟨417, 111, 795⟩,
  ⟨431, 85, 795⟩, ⟨432, 117, 795⟩, ⟨461, 65, 780⟩, ⟨462, 97, 780⟩, ⟨463, 73, 780⟩, ⟨464, 105, 780⟩,
  ⟨465, 79, 780⟩, ⟨466, 111, 780⟩, ⟨467, 85, 780⟩, ⟨468, 117, 780⟩, ⟨469, 220, 772⟩,
  ⟨470, 252, 772⟩, ⟨471, 220, 769⟩, ⟨472, 252, 769⟩, ⟨473, 220, 780⟩, ⟨474, 252, 780⟩,
  ⟨475, 220, 768⟩, ⟨476, 252, 768⟩, ⟨478, 196, 772⟩, ⟨479, 228, 772⟩, ⟨480, 550, 772⟩,
  ⟨481, 551, 772⟩, ⟨482, 198, 772⟩, ⟨483, 230, 772⟩, ⟨486, 71, 780⟩, ⟨487, 103, 780⟩,
  ⟨488, 75, 780⟩, ⟨489, 107, 780⟩, ⟨490, 79, 808⟩, ⟨491, 111, 808⟩, ⟨492, 490, 772⟩,
  ⟨493, 491, 772⟩, ⟨494, 439, 780⟩, ⟨495, 658, 780⟩, ⟨496, 106, 780⟩, ⟨500, 71, 769⟩,
  ⟨501, 103, 769⟩, ⟨504, 78, 768⟩, ⟨505, 110, 768⟩, ⟨506, 197, 769⟩, ⟨507, 229, 769⟩,
  ⟨508, 198, 769⟩, ⟨509, 230, 769⟩, ⟨510, 216, 769⟩, ⟨511, 248, 769⟩, ⟨512, 65, 783⟩,
  ⟨513, 97, 783⟩, ⟨514, 65, 785⟩, ⟨515, 97, 785⟩, ⟨516, 69, 783⟩, ⟨517, 101, 783⟩, ⟨518, 69, 785⟩,
  ⟨519, 101, 785⟩, ⟨520, 73, 783⟩, ⟨521, 105, 783⟩, ⟨522, 73, 785⟩, ⟨523, 105, 785⟩,
  ⟨524, 79, 783⟩, ⟨525, 111, 783⟩, ⟨526, 79, 785⟩, ⟨527, 111, 785⟩, ⟨528, 82, 783⟩,
  ⟨529, 114, 783⟩, ⟨530, 82, 785⟩, ⟨531, 114, 785⟩, ⟨532, 85, 783⟩, ⟨533, 117, 783⟩,
  ⟨534, 85, 785⟩, ⟨535, 117, 785⟩, ⟨536, 83, 806⟩, ⟨537, 115, 806⟩, ⟨538, 84, 806⟩,
  ⟨539, 116, 806⟩, ⟨542, 72, 780⟩, ⟨543, 104, 780⟩, ⟨550, 65, 775⟩, ⟨551, 97, 775⟩, ⟨552, 69, 807⟩,
  ⟨553, 101, 807⟩, ⟨554, 214, 772⟩, ⟨555, 246, 772⟩, ⟨556, 213, 772⟩, ⟨557, 245, 772⟩,
  ⟨558, 79, 775⟩, ⟨559, 111, 775⟩, ⟨560, 558, 772⟩, ⟨561, 559, 772⟩, ⟨562, 89, 772⟩,
  ⟨563, 121, 772⟩, ⟨902, 913, 769⟩, ⟨904, 917, 769⟩, ⟨905, 919, 769⟩, ⟨906, 921, 769⟩,
  ⟨908, 927, 769⟩, ⟨910, 933, 769⟩, ⟨911, 937, 769⟩, ⟨912, 970, 769⟩, ⟨938, 921, 776⟩,
  ⟨939, 933, 776⟩, ⟨940, 945, 769⟩, ⟨941, 949, 769⟩, ⟨942, 951, 769⟩, ⟨943, 953, 769⟩,
  ⟨944, 971, 769⟩, ⟨970, 953, 776⟩, ⟨971, 965, 776⟩, ⟨972, 959, 769⟩, ⟨973, 965, 769⟩,
  ⟨974, 969, 769⟩, ⟨979, 978, 769⟩, ⟨980, 978, 776⟩, ⟨1024, 1045, 768⟩, ⟨1025, 1045, 776⟩,
  ⟨1027, 1043, 769⟩, ⟨1031, 1030, 776⟩, ⟨1036, 1050, 769⟩, ⟨1037, 1048, 768⟩, ⟨1038, 1059, 774⟩,
  ⟨1049, 1048, 774⟩, ⟨1081, 1080, 774⟩, ⟨1104, 1077, 768⟩, ⟨1105, 1077, 776⟩, ⟨1107, 1075, 769⟩,
  ⟨1111, 1110, 776⟩, ⟨1116, 1082, 769⟩, ⟨1117, 1080, 768⟩, ⟨1118, 1091, 774⟩, ⟨1142, 1140, 783⟩,
  ⟨1143, 1141, 783⟩, ⟨1217, 1046, 774⟩, ⟨1218, 1078, 774⟩, ⟨1232, 1040, 774⟩, ⟨1233, 1072, 774⟩,
  ⟨1234, 1040, 776⟩, ⟨1235, 1072, 776⟩, ⟨1238, 1045, 774⟩, ⟨1239, 1077, 774⟩, ⟨1242, 1240, 776⟩,
  ⟨1243, 1241, 776⟩, ⟨1244, 1046, 776⟩, ⟨1245, 1078, 776⟩, ⟨1246, 1047, 776⟩, ⟨1247, 1079, 776⟩,
  ⟨1250, 1048, 772⟩, ⟨1251, 1080, 772⟩, ⟨1252, 1048, 776⟩, ⟨1253, 1080, 776⟩, ⟨1254, 1054, 776⟩,
  ⟨1255, 1086, 776⟩, ⟨1258, 1256, 776⟩, ⟨1259, 1257, 776⟩, ⟨1260, 1069, 776⟩, ⟨1261, 1101, 776⟩,
  ⟨1262, 1059, 772⟩, ⟨1263, 1091, 772⟩, ⟨1264, 1059, 776⟩, ⟨1265, 1091, 776⟩, ⟨1266, 1059, 779⟩,
  ⟨1267, 1091, 779⟩, ⟨1268, 1063, 776⟩, ⟨1269, 1095, 776⟩, ⟨1272, 1067, 776⟩, ⟨1273, 1099, 776⟩,
  ⟨1570, 1575, 1619⟩, ⟨1571, 1575, 1620⟩, ⟨1572, 1608, 1620⟩, ⟨1573, 1575, 1621⟩,
  ⟨1574, 1610, 1620⟩, ⟨1728, 1749, 1620⟩, ⟨1730, 1729, 1620⟩, ⟨1747, 1746, 1620⟩,
  ⟨2345, 2344, 2364⟩, ⟨2353, 2352, 2364⟩, ⟨2356, 2355, 2364⟩, ⟨2507, 2503, 2494⟩,
  ⟨2508, 2503, 2519⟩, ⟨2888, 2887, 2902⟩, ⟨2891, 2887, 2878⟩, ⟨2892, 2887, 2903⟩,
  ⟨2964, 2962, 3031⟩, ⟨3018, 3014, 3006⟩, ⟨3019, 3015, 3006⟩, ⟨3020, 3014, 3031⟩,
  ⟨3144, 3142, 3158⟩, ⟨3264, 3263, 3285⟩, ⟨3271, 3270, 3285⟩, ⟨3272, 3270, 3286⟩,
  ⟨3274, 3270, 3266⟩, ⟨3275, 3274, 3285⟩, ⟨3402, 3398, 3390⟩, ⟨3403, 3399, 3390⟩,
  ⟨3404, 3398, 3415⟩, ⟨3546, 3545, 3530⟩, ⟨3548, 3545, 3535⟩, ⟨3549, 3548, 3530⟩,
  ⟨3550, 3545, 3551⟩, ⟨4134, 4133, 4142⟩, ⟨6918, 6917, 6965⟩, ⟨6920, 6919, 6965⟩,
  ⟨6922, 6921, 6965⟩, ⟨6924, 6923, 6965⟩, ⟨6926, 6925, 6965⟩, ⟨6930, 6929, 6965⟩,
  ⟨6971, 6970, 6965⟩, ⟨6973, 6972, 6965⟩, ⟨6976, 6974, 6965⟩, ⟨6977, 6975, 6965⟩,
  ⟨6979, 6978, 6965⟩, ⟨7680, 65, 805⟩, ⟨7681, 97, 805⟩, ⟨7682, 66, 775⟩, ⟨7683, 98, 775⟩,
  ⟨7684, 66, 803⟩, ⟨7685, 98, 803⟩, ⟨7686, 66, 817⟩, ⟨7687, 98, 817⟩, ⟨7688, 199, 769⟩,
  ⟨7689, 231, 769⟩, ⟨7690, 68, 775⟩, ⟨7691, 100, 775⟩, ⟨7692, 68, 803⟩, ⟨7693, 100, 803⟩,
  ⟨7694, 68, 817⟩, ⟨7695, 100, 817⟩, ⟨7696, 68, 807⟩, ⟨7697, 100, 807⟩, ⟨7698, 68, 813⟩,
  ⟨7699, 100, 813⟩, ⟨7700, 274, 768⟩, ⟨7701, 275, 768⟩, ⟨7702, 274, 769⟩, ⟨7703, 275, 769⟩,
  ⟨7704, 69, 813⟩, ⟨7705, 101, 813⟩, ⟨7706, 69, 816⟩, ⟨7707, 101, 816⟩, ⟨7708, 552, 774⟩,
  ⟨7709, 553, 774⟩, ⟨7710, 70, 775⟩, ⟨7711, 102, 775⟩, ⟨7712, 71, 772⟩, ⟨7713, 103, 772⟩,
  ⟨7714, 72, 775⟩, ⟨7715, 104, 775⟩, ⟨7716, 72, 803⟩, ⟨7717, 104, 803⟩, ⟨7718, 72, 776⟩,
  ⟨7719, 104, 776⟩, ⟨7720, 72, 807⟩, ⟨7721, 104, 807⟩, ⟨7722, 72, 814⟩, ⟨7723, 104, 814⟩,
  ⟨7724, 73, 816⟩, ⟨7725, 105, 816⟩, ⟨7726, 207, 769⟩, ⟨7727, 239, 769⟩, ⟨7728, 75, 769⟩,
  ⟨7729, 107, 769⟩, ⟨7730, 75, 803⟩, ⟨7731, 107, 803⟩, ⟨7732, 75, 817⟩, ⟨7733, 107, 817⟩,
  ⟨7734, 76, 803⟩, ⟨7735, 108, 803⟩, ⟨7736, 7734, 772⟩, ⟨7737, 7735, 772⟩, ⟨7738, 76, 817⟩,
  ⟨7739, 108, 817⟩, ⟨7740, 76, 813⟩, ⟨7741, 108, 813⟩, ⟨7742, 77, 769⟩, ⟨7743, 109, 769⟩,
  ⟨7744, 77, 775⟩, ⟨7745, 109, 775⟩, ⟨7746, 77, 803⟩, ⟨7747, 109, 803⟩, ⟨7748, 78, 775⟩,
  ⟨7749, 110, 775⟩, ⟨7750, 78, 803⟩, ⟨7751, 110, 803⟩, ⟨7752, 78, 817⟩, ⟨7753, 110, 817⟩,
  ⟨7754, 78, 813⟩, ⟨7755, 110, 813⟩, ⟨7756, 213, 769⟩, ⟨7757, 245, 769⟩, ⟨7758, 213, 776⟩,
  ⟨7759, 245, 776⟩, ⟨7760, 332, 768⟩, ⟨7761, 333, 768⟩, ⟨7762, 332, 769⟩, ⟨7763, 333, 769⟩,
  ⟨7764, 80, 769⟩, ⟨7765, 112, 769⟩, ⟨7766, 80, 775⟩, ⟨7767, 112, 775⟩, ⟨7768, 82, 775⟩,
  ⟨7769, 114, 775⟩, ⟨7770, 82, 803⟩, ⟨7771, 114, 803⟩, ⟨7772, 7770, 772⟩, ⟨7773, 7771, 772⟩,
  ⟨7774, 82, 817⟩, ⟨7775, 114, 817⟩, ⟨7776, 83, 775⟩, ⟨7777, 115, 775⟩, ⟨7778, 83, 803⟩,
  ⟨7779, 115, 803⟩, ⟨7780, 346, 775⟩, ⟨7781, 347, 775⟩, ⟨7782, 352, 775⟩, ⟨7783, 353, 775⟩,
  ⟨7784, 7778, 775⟩, ⟨7785, 7779, 775⟩, ⟨7786, 84, 775⟩, ⟨7787, 116, 775⟩, ⟨7788, 84, 803⟩,
  ⟨7789, 116, 803⟩, ⟨7790, 84, 817⟩, ⟨7791, 116, 817⟩, ⟨7792, 84, 813⟩, ⟨7793, 116, 813⟩,
  ⟨7794, 85, 804⟩, ⟨7795, 117, 804⟩, ⟨7796, 85, 816⟩, ⟨7797, 117, 816⟩, ⟨7798, 85, 813⟩,
  ⟨7799, 117, 813⟩, ⟨7800, 360, 769⟩, ⟨7801, 361, 769⟩, ⟨7802, 362, 776⟩, ⟨7803, 363, 776⟩,
  ⟨7804, 86, 771⟩, ⟨7805, 118, 771⟩, ⟨7806, 86, 803⟩, ⟨7807, 118, 803⟩, ⟨7808, 87, 768⟩,
  ⟨7809, 119, 768⟩, ⟨7810, 87, 769⟩, ⟨7811, 119, 769⟩, ⟨7812, 87, 776⟩, ⟨7813, 119, 776⟩,
  ⟨7814, 87, 775⟩, ⟨7815, 119, 775⟩, ⟨7816, 87, 803⟩, ⟨7817, 119, 803⟩, ⟨7818, 88, 775⟩,
  ⟨7819, 120, 775⟩, ⟨7820, 88, 776⟩, ⟨7821, 120, 776⟩, ⟨7822, 89, 775⟩, ⟨7823, 121, 775⟩,
  ⟨7824, 90, 770⟩, ⟨7825, 122, 770⟩, ⟨7826, 90, 803⟩, ⟨7827, 122, 803⟩, ⟨7828, 90, 817⟩,
  ⟨7829, 122, 817⟩, ⟨7830, 104, 817⟩, ⟨7831, 116, 776⟩, ⟨7832, 119, 778⟩, ⟨7833, 121, 778⟩,
  ⟨7835, 383, 775⟩, ⟨7840, 65, 803⟩, ⟨7841, 97, 803⟩, ⟨7842, 65, 777⟩, ⟨7843, 97, 777⟩,
  ⟨7844, 194, 769⟩, ⟨7845, 226, 769⟩, ⟨7846, 194, 768⟩, ⟨7847, 226, 768⟩, ⟨7848, 194, 777⟩,
  ⟨7849, 226, 777⟩, ⟨7850, 194, 771⟩, ⟨7851, 226, 771⟩, ⟨7852, 7840, 770⟩, ⟨7853, 7841, 770⟩,
  ⟨7854, 258, 769⟩, ⟨7855, 259, 769⟩, ⟨7856, 258, 768⟩, ⟨7857, 259, 768⟩, ⟨7858, 258, 777⟩,
  ⟨7859, 259, 777⟩, ⟨7860, 258, 771⟩, ⟨7861, 259, 771⟩, ⟨7862, 7840, 774⟩, ⟨7863, 7841, 774⟩,
  ⟨7864, 69, 803⟩, ⟨7865, 101, 803⟩, ⟨7866, 69, 777⟩, ⟨7867, 101, 777⟩, ⟨7868, 69, 771⟩,
  ⟨7869, 101, 771⟩, ⟨7870, 202, 769⟩, ⟨7871, 234, 769⟩, ⟨7872, 202, 768⟩, ⟨7873, 234, 768⟩,
  ⟨7874, 202, 777⟩, ⟨7875, 234, 777⟩, ⟨7876, 202, 771⟩, ⟨7877, 234, 771⟩, ⟨7878, 7864, 770⟩,
  ⟨7879, 7865, 770⟩, ⟨7880, 73, 777⟩, ⟨7881, 105, 777⟩, ⟨7882, 73, 803⟩, ⟨7883, 105, 803⟩,
  ⟨7884, 79, 803⟩, ⟨7885, 111, 803⟩, ⟨7886, 79, 777⟩, ⟨7887, 111, 777⟩, ⟨7888, 212, 769⟩,
  ⟨7889, 244, 769⟩, ⟨7890, 212, 768⟩, ⟨7891, 244, 768⟩, ⟨7892, 212, 777⟩, ⟨7893, 244, 777⟩,
  ⟨7894, 212, 771⟩, ⟨7895, 244, 771⟩, ⟨7896, 7884, 770⟩, ⟨7897, 7885, 770⟩, ⟨7898, 416, 769⟩,
  ⟨7899, 417, 769⟩, ⟨7900, 416, 768⟩, ⟨7901, 417, 768⟩, ⟨7902, 416, 777⟩, ⟨7903, 417, 777⟩,
  ⟨7904, 416, 771⟩, ⟨7905, 417, 771⟩, ⟨7906, 416, 803⟩, ⟨7907, 417, 803⟩, ⟨7908, 85, 803⟩,
  ⟨7909, 117, 803⟩, ⟨7910, 85, 777⟩, ⟨7911, 117, 777⟩, ⟨7912, 431, 769⟩, ⟨7913, 432, 769⟩,
  ⟨7914, 431, 768⟩, ⟨7915, 432, 768⟩, ⟨7916, 431, 777⟩, ⟨7917, 432, 777⟩, ⟨7918, 431, 771⟩,
  ⟨7919, 432, 771⟩, ⟨7920, 431, 803⟩, ⟨7921, 432, 803⟩, ⟨7922, 89, 768⟩, ⟨7923, 121, 768⟩,
  ⟨7924, 89, 803⟩, ⟨7925, 121, 803⟩, ⟨7926, 89, 777⟩, ⟨7927, 121, 777⟩, ⟨7928, 89, 771⟩,
  ⟨7929, 121, 771⟩, ⟨7936, 945, 787⟩, ⟨7937, 945, 788⟩, ⟨7938, 7936, 768⟩, ⟨7939, 7937, 768⟩,
  ⟨7940, 7936, 769⟩, ⟨7941, 7937, 769⟩, ⟨7942, 7936, 834⟩, ⟨7943, 7937, 834⟩, ⟨7944, 913, 787⟩,
  ⟨7945, 913, 788⟩, ⟨7946, 7944, 768⟩, ⟨7947, 7945, 768⟩, ⟨7948, 7944, 769⟩, ⟨7949, 7945, 769⟩,
  ⟨7950, 7944, 834⟩, ⟨7951, 7945, 834⟩, ⟨7952, 949, 787⟩, ⟨7953, 949, 788⟩, ⟨7954, 7952, 768⟩,
  ⟨7955, 7953, 768⟩, ⟨7956, 7952, 769⟩, ⟨7957, 7953, 769⟩, ⟨7960, 917, 787⟩, ⟨7961, 917, 788⟩,
  ⟨7962, 7960, 768⟩, ⟨7963, 7961, 768⟩, ⟨7964, 7960, 769⟩, ⟨7965, 7961, 769⟩, ⟨7968, 951, 787⟩,
  ⟨7969, 951, 788⟩, ⟨7970, 7968, 768⟩, ⟨7971, 7969, 768⟩, ⟨7972, 7968, 769⟩, ⟨7973, 7969, 769⟩,
  ⟨7974, 7968, 834⟩, ⟨7975, 7969, 834⟩, ⟨7976, 919, 787⟩, ⟨7977, 919, 788⟩, ⟨7978, 7976, 768⟩,
  ⟨7979, 7977, 768⟩, ⟨7980, 7976, 769⟩, ⟨7981, 7977, 769⟩, ⟨7982, 7976, 834⟩, ⟨7983, 7977, 834⟩,
  ⟨7984, 953, 787⟩, ⟨7985, 953, 788⟩, ⟨7986, 7984, 768⟩, ⟨7987, 7985, 768⟩, ⟨7988, 7984, 769⟩,
  ⟨7989, 7985, 769⟩, ⟨7990, 7984, 834⟩, ⟨7991, 7985, 834⟩, ⟨7992, 921, 787⟩, ⟨7993, 921, 788⟩,
  ⟨7994, 7992, 768⟩, ⟨7995, 7993, 768⟩, ⟨7996, 7992, 769⟩, ⟨7997, 7993, 769⟩, ⟨7998, 7992, 834⟩,
  ⟨7999, 7993, 834⟩, ⟨8000, 959, 787⟩, ⟨8001, 959, 788⟩, ⟨8002, 8000, 768⟩, ⟨8003, 8001, 768⟩,
  ⟨8004, 8000, 769⟩, ⟨8005, 8001, 769⟩, ⟨8008, 927, 787⟩, ⟨8009, 927, 788⟩, ⟨8010, 8008, 768⟩,
  ⟨8011, 8009, 768⟩, ⟨8012, 8008, 769⟩, ⟨8013, 8009, 769⟩, ⟨8016, 965, 787⟩, ⟨8017, 965, 788⟩,
  ⟨8018, 8016, 768⟩, ⟨8019, 8017, 768⟩, ⟨8020, 8016, 769⟩, ⟨8021, 8017, 769⟩, ⟨8022, 8016, 834⟩,
  ⟨8023, 8017, 834⟩, ⟨8025, 933, 788⟩, ⟨8027, 8025, 768⟩, ⟨8029, 8025, 769⟩, ⟨8031, 8025, 834⟩,
  ⟨8032, 969, 787⟩, ⟨8033, 969, 788⟩, ⟨8034, 8032, 768⟩, ⟨8035, 8033, 768⟩, ⟨8036, 8032, 769⟩,
  ⟨8037, 8033, 769⟩, ⟨8038, 8032, 834⟩, ⟨8039, 8033, 834⟩, ⟨8040, 937, 787⟩, ⟨8041, 937, 788⟩,
  ⟨8042, 8040, 768⟩, ⟨8043, 8041, 768⟩, ⟨8044, 8040, 769⟩, ⟨8045, 8041, 769⟩, ⟨8046, 8040, 834⟩,
  ⟨8047, 8041, 834⟩, ⟨8048, 945, 768⟩, ⟨8050, 949, 768⟩, ⟨8052, 951, 768⟩, ⟨8054, 953, 768⟩,
  ⟨8056, 959, 768⟩, ⟨8058, 965, 768⟩, ⟨8060, 969, 768⟩, ⟨8064, 7936, 837⟩, ⟨8065, 7937, 837⟩,
  ⟨8066, 7938, 837⟩, ⟨8067, 7939, 837⟩, ⟨8068, 7940, 837⟩, ⟨8069, 7941, 837⟩, ⟨8070, 7942, 837⟩,
  ⟨8071, 7943, 837⟩, ⟨8072, 7944, 837⟩, ⟨8073, 7945, 837⟩, ⟨8074, 7946, 837⟩, ⟨8075, 7947, 837⟩,
  ⟨8076, 7948, 837⟩, ⟨8077, 7949, 837⟩, ⟨8078, 7950, 837⟩, ⟨8079, 7951, 837⟩, ⟨8080, 7968, 837⟩,
  ⟨8081, 7969, 837⟩, ⟨8082, 7970, 837⟩, ⟨8083, 7971, 837⟩, ⟨8084, 7972, 837⟩, ⟨8085, 7973, 837⟩,
  ⟨8086, 7974, 837⟩, ⟨8087, 7975, 837⟩, ⟨8088, 7976, 837⟩, ⟨8089, 7977, 837⟩, ⟨8090, 7978, 837⟩,
  ⟨8091, 7979, 837⟩, ⟨8092, 7980, 837⟩, ⟨8093, 7981, 837⟩, ⟨8094, 7982, 837⟩, ⟨8095, 7983, 837⟩,
  ⟨8096, 8032, 837⟩, ⟨8097, 8033, 837⟩, ⟨8098, 8034, 837⟩, ⟨8099, 8035, 837⟩, ⟨8100, 8036, 837⟩,
  ⟨8101, 8037, 837⟩, ⟨8102, 8038, 837⟩, ⟨8103, 8039, 837⟩, ⟨8104, 8040, 837⟩, ⟨8105, 8041, 837⟩,
  ⟨8106, 8042, 837⟩, ⟨8107, 8043, 837⟩, ⟨8108, 8044, 837⟩, ⟨8109, 8045, 837⟩, ⟨8110, 8046, 837⟩,
  ⟨8111, 8047, 837⟩, ⟨8112, 945, 774⟩, ⟨8113, 945, 772⟩, ⟨8114, 8048, 837⟩, ⟨8115, 945, 837⟩,
  ⟨8116, 940, 837⟩, ⟨8118, 945, 834⟩, ⟨8119, 8118, 837⟩, ⟨8120, 913, 774⟩, ⟨8121, 913, 772⟩,
  ⟨8122, 913, 768⟩, ⟨8124, 913, 837⟩, ⟨8130, 8052, 837⟩, ⟨8131, 951, 837⟩, ⟨8132, 942, 837⟩,
  ⟨8134, 951, 834⟩, ⟨8135, 8134, 837⟩, ⟨8136, 917, 768⟩, ⟨8138, 919, 768⟩, ⟨8140, 919, 837⟩,
  ⟨8144, 953, 774⟩, ⟨8145, 953, 772⟩, ⟨8146, 970, 768⟩, ⟨8150, 953, 834⟩, ⟨8151, 970, 834⟩,
  ⟨8152, 921, 774⟩, ⟨8153, 921, 772⟩, ⟨8154, 921, 768⟩, ⟨8160, 965, 774⟩, ⟨8161, 965, 772⟩,
  ⟨8162, 971, 768⟩, ⟨8164, 961, 787⟩, ⟨8165, 961, 788⟩, ⟨8166, 965, 834⟩, ⟨8167, 971, 834⟩,
  ⟨8168, 933, 774⟩, ⟨8169, 933, 772⟩, ⟨8170, 933, 768⟩, ⟨8172, 929, 788⟩, ⟨8178, 8060, 837⟩,
  ⟨8179, 969, 837⟩, ⟨8180, 974, 837⟩, ⟨8182, 969, 834⟩, ⟨8183, 8182, 837⟩, ⟨8184, 927, 768⟩,
  ⟨8186, 937, 768⟩, ⟨8188, 937, 837⟩, ⟨12364, 12363, 12441⟩, ⟨12366, 12365, 12441⟩,
  ⟨12368, 12367, 12441⟩, ⟨12370, 12369, 12441⟩, ⟨12372, 12371, 12441⟩, ⟨12374, 12373, 12441⟩,
  ⟨12376, 12375, 12441⟩, ⟨12378, 12377, 12441⟩, ⟨12380, 12379, 12441⟩, ⟨12382, 12381, 12441⟩,
  ⟨12384, 12383, 12441⟩, ⟨12386, 12385, 12441⟩, ⟨12389, 12388, 12441⟩, ⟨12391, 12390, 12441⟩,
  ⟨12393, 12392, 12441⟩, ⟨12400, 12399, 12441⟩, ⟨12401, 12399, 12442⟩, ⟨12403, 12402, 12441⟩,
  ⟨12404, 12402, 12442⟩, ⟨12406, 12405, 12441⟩, ⟨12407, 12405, 12442⟩, ⟨12409, 12408, 12441⟩,
  ⟨12410, 12408, 12442⟩, ⟨12412, 12411, 12441⟩, ⟨12413, 12411, 12442⟩, ⟨12436, 12358, 12441⟩,
  ⟨12446, 12445, 12441⟩, ⟨12460, 12459, 12441⟩, ⟨12462, 12461, 12441⟩, ⟨12464, 12463, 12441⟩,
  ⟨12466, 12465, 12441⟩, ⟨12468, 12467, 12441⟩, ⟨12470, 12469, 12441⟩, ⟨12472, 12471, 12441⟩,
  ⟨12474, 12473, 12441⟩, ⟨12476, 12475, 12441⟩, ⟨12478, 12477, 12441⟩, ⟨12480, 12479, 12441⟩,
  ⟨12482, 12481, 12441⟩, ⟨12485, 12484, 12441⟩, ⟨12487, 12486, 12441⟩, ⟨12489, 12488, 12441⟩,
  ⟨12496, 12495, 12441⟩, ⟨12497, 12495, 12442⟩, ⟨12499, 12498, 12441⟩, ⟨12500, 12498, 12442⟩,
  ⟨12502, 12501, 12441⟩, ⟨12503, 12501, 12442⟩, ⟨12505, 12504, 12441⟩, ⟨12506, 12504, 12442⟩,
  ⟨12508, 12507, 12441⟩, ⟨12509, 12507, 12442⟩, ⟨12532, 12454, 12441⟩, ⟨12535, 12527, 12441⟩,
  ⟨12536, 12528, 12441⟩, ⟨12537, 12529, 12441⟩, ⟨12538, 12530, 12441⟩, ⟨12542, 12541, 12441⟩,
  ⟨69786, 69785, 69818⟩, ⟨69788, 69787, 69818⟩, ⟨69803, 69797, 69818⟩, ⟨69934, 69937, 69927⟩,
  ⟨69935, 69938, 69927⟩, ⟨70475, 70471, 70462⟩, ⟨70476, 70471, 70487⟩, ⟨70843, 70841, 70842⟩,
  ⟨70844, 70841, 70832⟩, ⟨70846, 70841, 70845⟩, ⟨71098, 71096, 71087⟩, ⟨71099, 71097, 71087⟩,
  ⟨71992, 71989, 71984⟩]

/-- Characters that stand for single ones, but for the ideographs. -/
def runs : Array Run := #[
  ⟨170, 1, 97, 1⟩, ⟨181, 1, 956, 1⟩, ⟨186, 1, 111, 1⟩, ⟨383, 1, 115, 1⟩, ⟨688, 1, 104, 1⟩,
  ⟨689, 1, 614, 1⟩, ⟨690, 1, 106, 1⟩, ⟨691, 1, 114, 1⟩, ⟨692, 1, 633, 1⟩, ⟨693, 1, 635, 1⟩,
  ⟨694, 1, 641, 1⟩, ⟨695, 1, 119, 1⟩, ⟨696, 1, 121, 1⟩, ⟨736, 1, 611, 1⟩, ⟨737, 1, 108, 1⟩,
  ⟨738, 1, 115, 1⟩, ⟨739, 1, 120, 1⟩, ⟨740, 1, 661, 1⟩, ⟨832, 2, 768, 1⟩, ⟨835, 1, 787, 1⟩,
  ⟨884, 1, 697, 1⟩, ⟨903, 1, 183, 1⟩, ⟨976, 1, 946, 1⟩, ⟨977, 1, 952, 1⟩, ⟨978, 1, 933, 1⟩,
  ⟨981, 1, 966, 1⟩, ⟨982, 1, 960, 1⟩, ⟨1008, 1, 954, 1⟩, ⟨1009, 2, 961, 1⟩, ⟨1012, 1, 920, 1⟩,
  ⟨1013, 1, 949, 1⟩, ⟨1017, 1, 931, 1⟩, ⟨4348, 1, 4316, 1⟩, ⟨7468, 1, 65, 1⟩, ⟨7469, 1, 198, 1⟩,
  ⟨7470, 1, 66, 1⟩, ⟨7472, 2, 68, 1⟩, ⟨7474, 1, 398, 1⟩, ⟨7475, 8, 71, 1⟩, ⟨7484, 1, 79, 1⟩,
  ⟨7485, 1, 546, 1⟩, ⟨7486, 1, 80, 1⟩, ⟨7487, 1, 82, 1⟩, ⟨7488, 2, 84, 1⟩, ⟨7490, 1, 87, 1⟩,
  ⟨7491, 1, 97, 1⟩, ⟨7492, 2, 592, 1⟩, ⟨7494, 1, 7426, 1⟩, ⟨7495, 1, 98, 1⟩, ⟨7496, 2, 100, 1⟩,
  ⟨7498, 1, 601, 1⟩, ⟨7499, 2, 603, 1⟩, ⟨7501, 1, 103, 1⟩, ⟨7503, 1, 107, 1⟩, ⟨7504, 1, 109, 1⟩,
  ⟨7505, 1, 331, 1⟩, ⟨7506, 1, 111, 1⟩, ⟨7507, 1, 596, 1⟩, ⟨7508, 2, 7446, 1⟩, ⟨7510, 1, 112, 1⟩,
  ⟨7511, 2, 116, 1⟩, ⟨7513, 1, 7453, 1⟩, ⟨7514, 1, 623, 1⟩, ⟨7515, 1, 118, 1⟩, ⟨7516, 1, 7461, 1⟩,
  ⟨7517, 3, 946, 1⟩, ⟨7520, 2, 966, 1⟩, ⟨7522, 1, 105, 1⟩, ⟨7523, 1, 114, 1⟩, ⟨7524, 2, 117, 1⟩,
  ⟨7526, 2, 946, 1⟩, ⟨7528, 1, 961, 1⟩, ⟨7529, 2, 966, 1⟩, ⟨7544, 1, 1085, 1⟩, ⟨7579, 1, 594, 1⟩,
  ⟨7580, 1, 99, 1⟩, ⟨7581, 1, 597, 1⟩, ⟨7582, 1, 240, 1⟩, ⟨7583, 1, 604, 1⟩, ⟨7584, 1, 102, 1⟩,
  ⟨7585, 1, 607, 1⟩, ⟨7586, 1, 609, 1⟩, ⟨7587, 1, 613, 1⟩, ⟨7588, 3, 616, 1⟩, ⟨7591, 1, 7547, 1⟩,
  ⟨7592, 1, 669, 1⟩, ⟨7593, 1, 621, 1⟩, ⟨7594, 1, 7557, 1⟩, ⟨7595, 1, 671, 1⟩, ⟨7596, 1, 625, 1⟩,
  ⟨7597, 1, 624, 1⟩, ⟨7598, 4, 626, 1⟩, ⟨7602, 1, 632, 1⟩, ⟨7603, 2, 642, 1⟩, ⟨7605, 1, 427, 1⟩,
  ⟨7606, 2, 649, 1⟩, ⟨7608, 1, 7452, 1⟩, ⟨7609, 2, 651, 1⟩, ⟨7611, 1, 122, 1⟩, ⟨7612, 3, 656, 1⟩,
  ⟨7615, 1, 952, 1⟩, ⟨8126, 1, 953, 1⟩, ⟨8305, 1, 105, 1⟩, ⟨8319, 1, 110, 1⟩, ⟨8336, 1, 97, 1⟩,
  ⟨8337, 1, 101, 1⟩, ⟨8338, 1, 111, 1⟩, ⟨8339, 1, 120, 1⟩, ⟨8340, 1, 601, 1⟩, ⟨8341, 1, 104, 1⟩,
  ⟨8342, 4, 107, 1⟩, ⟨8346, 1, 112, 1⟩, ⟨8347, 2, 115, 1⟩, ⟨8450, 1, 67, 1⟩, ⟨8455, 1, 400, 1⟩,
  ⟨8458, 1, 103, 1⟩, ⟨8459, 3, 72, 0⟩, ⟨8462, 1, 104, 1⟩, ⟨8463, 1, 295, 1⟩, ⟨8464, 2, 73, 0⟩,
  ⟨8466, 1, 76, 1⟩, ⟨8467, 1, 108, 1⟩, ⟨8469, 1, 78, 1⟩, ⟨8473, 3, 80, 1⟩, ⟨8476, 2, 82, 0⟩,
  ⟨8484, 1, 90, 1⟩, ⟨8486, 1, 937, 1⟩, ⟨8488, 1, 90, 1⟩, ⟨8490, 1, 75, 1⟩, ⟨8492, 2, 66, 1⟩,
  ⟨8495, 1, 101, 1⟩, ⟨8496, 2, 69, 1⟩, ⟨8499, 1, 77, 1⟩, ⟨8500, 1, 111, 1⟩, ⟨8501, 4, 1488, 1⟩,
  ⟨8505, 1, 105, 1⟩, ⟨8508, 1, 960, 1⟩, ⟨8509, 1, 947, 1⟩, ⟨8510, 1, 915, 1⟩, ⟨8511, 1, 928, 1⟩,
  ⟨8517, 1, 68, 1⟩, ⟨8518, 2, 100, 1⟩, ⟨8520, 2, 105, 1⟩, ⟨8544, 1, 73, 1⟩, ⟨8548, 1, 86, 1⟩,
  ⟨8553, 1, 88, 1⟩, ⟨8556, 1, 76, 1⟩, ⟨8557, 2, 67, 1⟩, ⟨8559, 1, 77, 1⟩, ⟨8560, 1, 105, 1⟩,
  ⟨8564, 1, 118, 1⟩, ⟨8569, 1, 120, 1⟩, ⟨8572, 1, 108, 1⟩, ⟨8573, 2, 99, 1⟩, ⟨8575, 1, 109, 1⟩,
  ⟨11388, 1, 106, 1⟩, ⟨11389, 1, 86, 1⟩, ⟨11631, 1, 11617, 1⟩, ⟨12344, 1, 21313, 1⟩,
  ⟨12345, 2, 21316, 1⟩, ⟨12593, 2, 4352, 1⟩, ⟨12595, 1, 4522, 1⟩, ⟨12596, 1, 4354, 1⟩,
  ⟨12597, 2, 4524, 1⟩, ⟨12599, 3, 4355, 1⟩, ⟨12602, 6, 4528, 1⟩, ⟨12608, 1, 4378, 1⟩,
  ⟨12609, 3, 4358, 1⟩, ⟨12612, 1, 4385, 1⟩, ⟨12613, 10, 4361, 1⟩, ⟨12623, 21, 4449, 1⟩,
  ⟨12644, 1, 4448, 1⟩, ⟨12645, 2, 4372, 1⟩, ⟨12647, 2, 4551, 1⟩, ⟨12649, 1, 4556, 1⟩,
  ⟨12650, 1, 4558, 1⟩, ⟨12651, 1, 4563, 1⟩, ⟨12652, 1, 4567, 1⟩, ⟨12653, 1, 4569, 1⟩,
  ⟨12654, 1, 4380, 1⟩, ⟨12655, 1, 4573, 1⟩, ⟨12656, 1, 4575, 1⟩, ⟨12657, 2, 4381, 1⟩,
  ⟨12659, 1, 4384, 1⟩, ⟨12660, 2, 4386, 1⟩, ⟨12662, 1, 4391, 1⟩, ⟨12663, 1, 4393, 1⟩,
  ⟨12664, 5, 4395, 1⟩, ⟨12669, 1, 4402, 1⟩, ⟨12670, 1, 4406, 1⟩, ⟨12671, 1, 4416, 1⟩,
  ⟨12672, 1, 4423, 1⟩, ⟨12673, 1, 4428, 1⟩, ⟨12674, 2, 4593, 1⟩, ⟨12676, 3, 4439, 1⟩,
  ⟨12679, 2, 4484, 1⟩, ⟨12681, 1, 4488, 1⟩, ⟨12682, 2, 4497, 1⟩, ⟨12684, 1, 4500, 1⟩,
  ⟨12685, 1, 4510, 1⟩, ⟨12686, 1, 4513, 1⟩, ⟨42652, 1, 1098, 1⟩, ⟨42653, 1, 1100, 1⟩,
  ⟨42864, 1, 42863, 1⟩, ⟨42994, 1, 67, 1⟩, ⟨42995, 1, 70, 1⟩, ⟨42996, 1, 81, 1⟩,
  ⟨43000, 1, 294, 1⟩, ⟨43001, 1, 339, 1⟩, ⟨43868, 1, 42791, 1⟩, ⟨43869, 1, 43831, 1⟩,
  ⟨43870, 1, 619, 1⟩, ⟨43871, 1, 43858, 1⟩, ⟨43881, 1, 653, 1⟩, ⟨64288, 1, 1506, 1⟩,
  ⟨64289, 1, 1488, 1⟩, ⟨64290, 2, 1491, 1⟩, ⟨64292, 3, 1499, 1⟩, ⟨64295, 1, 1512, 1⟩,
  ⟨64296, 1, 1514, 1⟩, ⟨64336, 2, 1649, 0⟩, ⟨64338, 4, 1659, 0⟩, ⟨64342, 4, 1662, 0⟩,
  ⟨64346, 4, 1664, 0⟩, ⟨64350, 4, 1658, 0⟩, ⟨64354, 4, 1663, 0⟩, ⟨64358, 4, 1657, 0⟩,
  ⟨64362, 4, 1700, 0⟩, ⟨64366, 4, 1702, 0⟩, ⟨64370, 4, 1668, 0⟩, ⟨64374, 4, 1667, 0⟩,
  ⟨64378, 4, 1670, 0⟩, ⟨64382, 4, 1671, 0⟩, ⟨64386, 2, 1677, 0⟩, ⟨64388, 2, 1676, 0⟩,
  ⟨64390, 2, 1678, 0⟩, ⟨64392, 2, 1672, 0⟩, ⟨64394, 2, 1688, 0⟩, ⟨64396, 2, 1681, 0⟩,
  ⟨64398, 4, 1705, 0⟩, ⟨64402, 4, 1711, 0⟩, ⟨64406, 4, 1715, 0⟩, ⟨64410, 4, 1713, 0⟩,
  ⟨64414, 2, 1722, 0⟩, ⟨64416, 4, 1723, 0⟩, ⟨64422, 4, 1729, 0⟩, ⟨64426, 4, 1726, 0⟩,
  ⟨64430, 2, 1746, 0⟩, ⟨64467, 4, 1709, 0⟩, ⟨64471, 2, 1735, 0⟩, ⟨64473, 2, 1734, 0⟩,
  ⟨64475, 2, 1736, 0⟩, ⟨64478, 2, 1739, 0⟩, ⟨64480, 2, 1733, 0⟩, ⟨64482, 2, 1737, 0⟩,
  ⟨64484, 4, 1744, 0⟩, ⟨64488, 2, 1609, 0⟩, ⟨64508, 4, 1740, 0⟩, ⟨65075, 2, 95, 0⟩,
  ⟨65101, 3, 95, 0⟩, ⟨65152, 1, 1569, 1⟩, ⟨65165, 2, 1575, 0⟩, ⟨65167, 4, 1576, 0⟩,
  ⟨65171, 2, 1577, 0⟩, ⟨65173, 4, 1578, 0⟩, ⟨65177, 4, 1579, 0⟩, ⟨65181, 4, 1580, 0⟩,
  ⟨65185, 4, 1581, 0⟩, ⟨65189, 4, 1582, 0⟩, ⟨65193, 2, 1583, 0⟩, ⟨65195, 2, 1584, 0⟩,
  ⟨65197, 2, 1585, 0⟩, ⟨65199, 2, 1586, 0⟩, ⟨65201, 4, 1587, 0⟩, ⟨65205, 4, 1588, 0⟩,
  ⟨65209, 4, 1589, 0⟩, ⟨65213, 4, 1590, 0⟩, ⟨65217, 4, 1591, 0⟩, ⟨65221, 4, 1592, 0⟩,
  ⟨65225, 4, 1593, 0⟩, ⟨65229, 4, 1594, 0⟩, ⟨65233, 4, 1601, 0⟩, ⟨65237, 4, 1602, 0⟩,
  ⟨65241, 4, 1603, 0⟩, ⟨65245, 4, 1604, 0⟩, ⟨65249, 4, 1605, 0⟩, ⟨65253, 4, 1606, 0⟩,
  ⟨65257, 4, 1607, 0⟩, ⟨65261, 2, 1608, 0⟩, ⟨65263, 2, 1609, 0⟩, ⟨65265, 4, 1610, 0⟩,
  ⟨65296, 10, 48, 1⟩, ⟨65313, 26, 65, 1⟩, ⟨65343, 1, 95, 1⟩, ⟨65345, 26, 97, 1⟩,
  ⟨65382, 1, 12530, 1⟩, ⟨65383, 1, 12449, 1⟩, ⟨65384, 1, 12451, 1⟩, ⟨65385, 1, 12453, 1⟩,
  ⟨65386, 1, 12455, 1⟩, ⟨65387, 1, 12457, 1⟩, ⟨65388, 1, 12515, 1⟩, ⟨65389, 1, 12517, 1⟩,
  ⟨65390, 1, 12519, 1⟩, ⟨65391, 1, 12483, 1⟩, ⟨65392, 1, 12540, 1⟩, ⟨65393, 1, 12450, 1⟩,
  ⟨65394, 1, 12452, 1⟩, ⟨65395, 1, 12454, 1⟩, ⟨65396, 1, 12456, 1⟩, ⟨65397, 2, 12458, 1⟩,
  ⟨65399, 1, 12461, 1⟩, ⟨65400, 1, 12463, 1⟩, ⟨65401, 1, 12465, 1⟩, ⟨65402, 1, 12467, 1⟩,
  ⟨65403, 1, 12469, 1⟩, ⟨65404, 1, 12471, 1⟩, ⟨65405, 1, 12473, 1⟩, ⟨65406, 1, 12475, 1⟩,
  ⟨65407, 1, 12477, 1⟩, ⟨65408, 1, 12479, 1⟩, ⟨65409, 1, 12481, 1⟩, ⟨65410, 1, 12484, 1⟩,
  ⟨65411, 1, 12486, 1⟩, ⟨65412, 1, 12488, 1⟩, ⟨65413, 6, 12490, 1⟩, ⟨65419, 1, 12498, 1⟩,
  ⟨65420, 1, 12501, 1⟩, ⟨65421, 1, 12504, 1⟩, ⟨65422, 1, 12507, 1⟩, ⟨65423, 5, 12510, 1⟩,
  ⟨65428, 1, 12516, 1⟩, ⟨65429, 1, 12518, 1⟩, ⟨65430, 6, 12520, 1⟩, ⟨65436, 1, 12527, 1⟩,
  ⟨65437, 1, 12531, 1⟩, ⟨65438, 2, 12441, 1⟩, ⟨65440, 1, 4448, 1⟩, ⟨65441, 2, 4352, 1⟩,
  ⟨65443, 1, 4522, 1⟩, ⟨65444, 1, 4354, 1⟩, ⟨65445, 2, 4524, 1⟩, ⟨65447, 3, 4355, 1⟩,
  ⟨65450, 6, 4528, 1⟩, ⟨65456, 1, 4378, 1⟩, ⟨65457, 3, 4358, 1⟩, ⟨65460, 1, 4385, 1⟩,
  ⟨65461, 10, 4361, 1⟩, ⟨65474, 6, 4449, 1⟩, ⟨65482, 6, 4455, 1⟩, ⟨65490, 6, 4461, 1⟩,
  ⟨65498, 3, 4467, 1⟩, ⟨67457, 2, 720, 1⟩, ⟨67459, 1, 230, 1⟩, ⟨67460, 1, 665, 1⟩,
  ⟨67461, 1, 595, 1⟩, ⟨67463, 1, 675, 1⟩, ⟨67464, 1, 43878, 1⟩, ⟨67465, 1, 677, 1⟩,
  ⟨67466, 1, 676, 1⟩, ⟨67467, 2, 598, 1⟩, ⟨67469, 1, 7569, 1⟩, ⟨67470, 1, 600, 1⟩,
  ⟨67471, 1, 606, 1⟩, ⟨67472, 1, 681, 1⟩, ⟨67473, 1, 612, 1⟩, ⟨67474, 1, 610, 1⟩,
  ⟨67475, 1, 608, 1⟩, ⟨67476, 1, 667, 1⟩, ⟨67477, 1, 295, 1⟩, ⟨67478, 1, 668, 1⟩,
  ⟨67479, 1, 615, 1⟩, ⟨67480, 1, 644, 1⟩, ⟨67481, 2, 682, 1⟩, ⟨67483, 1, 620, 1⟩,
  ⟨67484, 1, 122628, 1⟩, ⟨67485, 1, 42894, 1⟩, ⟨67486, 1, 622, 1⟩, ⟨67487, 1, 122629, 1⟩,
  ⟨67488, 1, 654, 1⟩, ⟨67489, 1, 122630, 1⟩, ⟨67490, 1, 248, 1⟩, ⟨67491, 2, 630, 1⟩,
  ⟨67493, 1, 113, 1⟩, ⟨67494, 1, 634, 1⟩, ⟨67495, 1, 122632, 1⟩, ⟨67496, 2, 637, 1⟩,
  ⟨67498, 1, 640, 1⟩, ⟨67499, 1, 680, 1⟩, ⟨67500, 1, 678, 1⟩, ⟨67501, 1, 43879, 1⟩,
  ⟨67502, 1, 679, 1⟩, ⟨67503, 1, 648, 1⟩, ⟨67504, 1, 11377, 1⟩, ⟨67506, 1, 655, 1⟩,
  ⟨67507, 2, 673, 1⟩, ⟨67509, 1, 664, 1⟩, ⟨67510, 3, 448, 1⟩, ⟨67513, 1, 122634, 1⟩,
  ⟨67514, 1, 122654, 1⟩, ⟨119808, 26, 65, 1⟩, ⟨119834, 26, 97, 1⟩, ⟨119860, 26, 65, 1⟩,
  ⟨119886, 7, 97, 1⟩, ⟨119894, 18, 105, 1⟩, ⟨119912, 26, 65, 1⟩, ⟨119938, 26, 97, 1⟩,
  ⟨119964, 1, 65, 1⟩, ⟨119966, 2, 67, 1⟩, ⟨119970, 1, 71, 1⟩, ⟨119973, 2, 74, 1⟩,
  ⟨119977, 4, 78, 1⟩, ⟨119982, 8, 83, 1⟩, ⟨119990, 4, 97, 1⟩, ⟨119995, 1, 102, 1⟩,
  ⟨119997, 7, 104, 1⟩, ⟨120005, 11, 112, 1⟩, ⟨120016, 26, 65, 1⟩, ⟨120042, 26, 97, 1⟩,
  ⟨120068, 2, 65, 1⟩, ⟨120071, 4, 68, 1⟩, ⟨120077, 8, 74, 1⟩, ⟨120086, 7, 83, 1⟩,
  ⟨120094, 26, 97, 1⟩, ⟨120120, 2, 65, 1⟩, ⟨120123, 4, 68, 1⟩, ⟨120128, 5, 73, 1⟩,
  ⟨120134, 1, 79, 1⟩, ⟨120138, 7, 83, 1⟩, ⟨120146, 26, 97, 1⟩, ⟨120172, 26, 65, 1⟩,
  ⟨120198, 26, 97, 1⟩, ⟨120224, 26, 65, 1⟩, ⟨120250, 26, 97, 1⟩, ⟨120276, 26, 65, 1⟩,
  ⟨120302, 26, 97, 1⟩, ⟨120328, 26, 65, 1⟩, ⟨120354, 26, 97, 1⟩, ⟨120380, 26, 65, 1⟩,
  ⟨120406, 26, 97, 1⟩, ⟨120432, 26, 65, 1⟩, ⟨120458, 26, 97, 1⟩, ⟨120484, 1, 305, 1⟩,
  ⟨120485, 1, 567, 1⟩, ⟨120488, 17, 913, 1⟩, ⟨120505, 1, 920, 1⟩, ⟨120506, 7, 931, 1⟩,
  ⟨120514, 25, 945, 1⟩, ⟨120540, 1, 949, 1⟩, ⟨120541, 1, 952, 1⟩, ⟨120542, 1, 954, 1⟩,
  ⟨120543, 1, 966, 1⟩, ⟨120544, 1, 961, 1⟩, ⟨120545, 1, 960, 1⟩, ⟨120546, 17, 913, 1⟩,
  ⟨120563, 1, 920, 1⟩, ⟨120564, 7, 931, 1⟩, ⟨120572, 25, 945, 1⟩, ⟨120598, 1, 949, 1⟩,
  ⟨120599, 1, 952, 1⟩, ⟨120600, 1, 954, 1⟩, ⟨120601, 1, 966, 1⟩, ⟨120602, 1, 961, 1⟩,
  ⟨120603, 1, 960, 1⟩, ⟨120604, 17, 913, 1⟩, ⟨120621, 1, 920, 1⟩, ⟨120622, 7, 931, 1⟩,
  ⟨120630, 25, 945, 1⟩, ⟨120656, 1, 949, 1⟩, ⟨120657, 1, 952, 1⟩, ⟨120658, 1, 954, 1⟩,
  ⟨120659, 1, 966, 1⟩, ⟨120660, 1, 961, 1⟩, ⟨120661, 1, 960, 1⟩, ⟨120662, 17, 913, 1⟩,
  ⟨120679, 1, 920, 1⟩, ⟨120680, 7, 931, 1⟩, ⟨120688, 25, 945, 1⟩, ⟨120714, 1, 949, 1⟩,
  ⟨120715, 1, 952, 1⟩, ⟨120716, 1, 954, 1⟩, ⟨120717, 1, 966, 1⟩, ⟨120718, 1, 961, 1⟩,
  ⟨120719, 1, 960, 1⟩, ⟨120720, 17, 913, 1⟩, ⟨120737, 1, 920, 1⟩, ⟨120738, 7, 931, 1⟩,
  ⟨120746, 25, 945, 1⟩, ⟨120772, 1, 949, 1⟩, ⟨120773, 1, 952, 1⟩, ⟨120774, 1, 954, 1⟩,
  ⟨120775, 1, 966, 1⟩, ⟨120776, 1, 961, 1⟩, ⟨120777, 1, 960, 1⟩, ⟨120778, 2, 988, 1⟩,
  ⟨120782, 10, 48, 1⟩, ⟨120792, 10, 48, 1⟩, ⟨120802, 10, 48, 1⟩, ⟨120812, 10, 48, 1⟩,
  ⟨120822, 10, 48, 1⟩, ⟨126464, 2, 1575, 1⟩, ⟨126466, 1, 1580, 1⟩, ⟨126467, 1, 1583, 1⟩,
  ⟨126469, 1, 1608, 1⟩, ⟨126470, 1, 1586, 1⟩, ⟨126471, 1, 1581, 1⟩, ⟨126472, 1, 1591, 1⟩,
  ⟨126473, 1, 1610, 1⟩, ⟨126474, 4, 1603, 1⟩, ⟨126478, 1, 1587, 1⟩, ⟨126479, 1, 1593, 1⟩,
  ⟨126480, 1, 1601, 1⟩, ⟨126481, 1, 1589, 1⟩, ⟨126482, 1, 1602, 1⟩, ⟨126483, 1, 1585, 1⟩,
  ⟨126484, 1, 1588, 1⟩, ⟨126485, 2, 1578, 1⟩, ⟨126487, 1, 1582, 1⟩, ⟨126488, 1, 1584, 1⟩,
  ⟨126489, 1, 1590, 1⟩, ⟨126490, 1, 1592, 1⟩, ⟨126491, 1, 1594, 1⟩, ⟨126492, 1, 1646, 1⟩,
  ⟨126493, 1, 1722, 1⟩, ⟨126494, 1, 1697, 1⟩, ⟨126495, 1, 1647, 1⟩, ⟨126497, 1, 1576, 1⟩,
  ⟨126498, 1, 1580, 1⟩, ⟨126500, 1, 1607, 1⟩, ⟨126503, 1, 1581, 1⟩, ⟨126505, 1, 1610, 1⟩,
  ⟨126506, 4, 1603, 1⟩, ⟨126510, 1, 1587, 1⟩, ⟨126511, 1, 1593, 1⟩, ⟨126512, 1, 1601, 1⟩,
  ⟨126513, 1, 1589, 1⟩, ⟨126514, 1, 1602, 1⟩, ⟨126516, 1, 1588, 1⟩, ⟨126517, 2, 1578, 1⟩,
  ⟨126519, 1, 1582, 1⟩, ⟨126521, 1, 1590, 1⟩, ⟨126523, 1, 1594, 1⟩, ⟨126530, 1, 1580, 1⟩,
  ⟨126535, 1, 1581, 1⟩, ⟨126537, 1, 1610, 1⟩, ⟨126539, 1, 1604, 1⟩, ⟨126541, 1, 1606, 1⟩,
  ⟨126542, 1, 1587, 1⟩, ⟨126543, 1, 1593, 1⟩, ⟨126545, 1, 1589, 1⟩, ⟨126546, 1, 1602, 1⟩,
  ⟨126548, 1, 1588, 1⟩, ⟨126551, 1, 1582, 1⟩, ⟨126553, 1, 1590, 1⟩, ⟨126555, 1, 1594, 1⟩,
  ⟨126557, 1, 1722, 1⟩, ⟨126559, 1, 1647, 1⟩, ⟨126561, 1, 1576, 1⟩, ⟨126562, 1, 1580, 1⟩,
  ⟨126564, 1, 1607, 1⟩, ⟨126567, 1, 1581, 1⟩, ⟨126568, 1, 1591, 1⟩, ⟨126569, 1, 1610, 1⟩,
  ⟨126570, 1, 1603, 1⟩, ⟨126572, 2, 1605, 1⟩, ⟨126574, 1, 1587, 1⟩, ⟨126575, 1, 1593, 1⟩,
  ⟨126576, 1, 1601, 1⟩, ⟨126577, 1, 1589, 1⟩, ⟨126578, 1, 1602, 1⟩, ⟨126580, 1, 1588, 1⟩,
  ⟨126581, 2, 1578, 1⟩, ⟨126583, 1, 1582, 1⟩, ⟨126585, 1, 1590, 1⟩, ⟨126586, 1, 1592, 1⟩,
  ⟨126587, 1, 1594, 1⟩, ⟨126588, 1, 1646, 1⟩, ⟨126590, 1, 1697, 1⟩, ⟨126592, 2, 1575, 1⟩,
  ⟨126594, 1, 1580, 1⟩, ⟨126595, 1, 1583, 1⟩, ⟨126596, 2, 1607, 1⟩, ⟨126598, 1, 1586, 1⟩,
  ⟨126599, 1, 1581, 1⟩, ⟨126600, 1, 1591, 1⟩, ⟨126601, 1, 1610, 1⟩, ⟨126603, 3, 1604, 1⟩,
  ⟨126606, 1, 1587, 1⟩, ⟨126607, 1, 1593, 1⟩, ⟨126608, 1, 1601, 1⟩, ⟨126609, 1, 1589, 1⟩,
  ⟨126610, 1, 1602, 1⟩, ⟨126611, 1, 1585, 1⟩, ⟨126612, 1, 1588, 1⟩, ⟨126613, 2, 1578, 1⟩,
  ⟨126615, 1, 1582, 1⟩, ⟨126616, 1, 1584, 1⟩, ⟨126617, 1, 1590, 1⟩, ⟨126618, 1, 1592, 1⟩,
  ⟨126619, 1, 1594, 1⟩, ⟨126625, 1, 1576, 1⟩, ⟨126626, 1, 1580, 1⟩, ⟨126627, 1, 1583, 1⟩,
  ⟨126629, 1, 1608, 1⟩, ⟨126630, 1, 1586, 1⟩, ⟨126631, 1, 1581, 1⟩, ⟨126632, 1, 1591, 1⟩,
  ⟨126633, 1, 1610, 1⟩, ⟨126635, 3, 1604, 1⟩, ⟨126638, 1, 1587, 1⟩, ⟨126639, 1, 1593, 1⟩,
  ⟨126640, 1, 1601, 1⟩, ⟨126641, 1, 1589, 1⟩, ⟨126642, 1, 1602, 1⟩, ⟨126643, 1, 1585, 1⟩,
  ⟨126644, 1, 1588, 1⟩, ⟨126645, 2, 1578, 1⟩, ⟨126647, 1, 1582, 1⟩, ⟨126648, 1, 1584, 1⟩,
  ⟨126649, 1, 1590, 1⟩, ⟨126650, 1, 1592, 1⟩, ⟨126651, 1, 1594, 1⟩, ⟨130032, 10, 48, 1⟩]

/-- Ideographs that stand for others: where each block of them begins, and the images of the
characters of the block. -/
def ideographs : List (Nat × String) := [
  (63744, String.join [
    "豈更車賈滑串句龜龜契金喇奈懶癩羅蘿螺裸邏樂洛烙珞落酪駱亂卵欄爛蘭鸞嵐濫藍襤拉臘蠟廊朗浪狼郎來",
    "冷勞擄櫓爐盧老蘆虜路露魯鷺碌祿綠菉錄鹿論壟弄籠聾牢磊賂雷壘屢樓淚漏累縷陋勒肋凜凌稜綾菱陵讀拏",
    "樂諾丹寧怒率異北磻便復不泌數索參塞省葉說殺辰沈拾若掠略亮兩凉梁糧良諒量勵呂女廬旅濾礪閭驪麗黎",
    "力曆歷轢年憐戀撚漣煉璉秊練聯輦蓮連鍊列劣咽烈裂說廉念捻殮簾獵令囹寧嶺怜玲瑩羚聆鈴零靈領例禮醴",
    "隸惡了僚寮尿料樂燎療蓼遼龍暈阮劉杻柳流溜琉留硫紐類六戮陸倫崙淪輪律慄栗率隆利吏履易李梨泥理痢",
    "罹裏裡里離匿溺吝燐璘藺隣鱗麟林淋臨立笠粒狀炙識什茶刺切度拓糖宅洞暴輻行降見廓兀嗀﨎﨏塚﨑晴﨓",
    "﨔凞猪益礼神祥福靖精羽﨟蘒﨡諸﨣﨤逸都﨧﨨﨩飯飼館鶴郞隷侮僧免勉勤卑喝嘆器塀墨層屮悔慨憎懲敏",
    "既暑梅海渚漢煮爫琢碑社祉祈祐祖祝禍禎穀突節練縉繁署者臭艹艹著褐視謁謹賓贈辶逸難響頻恵𤋮舘"]),
  (64112, String.join [
    "並况全侀充冀勇勺喝啕喙嗢塚墳奄奔婢嬨廒廙彩徭惘慎愈憎慠懲戴揄搜摒敖晴朗望杖歹殺流滛滋漢瀞煮瞧",
    "爵犯猪瑱甆画瘝瘟益盛直睊着磌窱節类絛練缾者荒華蝹襁覆視調諸請謁諾諭謹變贈輸遲醙鉶陼難靖韛響頋",
    "頻鬒龜𢡊𢡄𣏕㮝䀘䀹𥉉𥳐𧻓齃龎"]),
  (194560, String.join [
    "丽丸乁𠄢你侮侻倂偺備僧像㒞𠘺免兔兤具𠔜㒹內再𠕋冗冤仌冬况𩇟凵刃㓟刻剆割剷㔕勇勉勤勺包匆北卉卑",
    "博即卽卿卿卿𠨬灰及叟𠭣叫叱吆咞吸呈周咢哶唐啓啣善善喙喫喳嗂圖嘆圗噑噴切壮城埴堍型堲報墬𡓤売壷",
    "夆多夢奢𡚨𡛪姬娛娧姘婦㛮㛼嬈嬾嬾𡧈寃寘寧寳𡬘寿将当尢㞁屠屮峀岍𡷤嵃𡷦嵮嵫嵼巡巢㠯巽帨帽幩㡢𢆃",
    "㡼庰庳庶廊𪎒廾𢌱𢌱舁弢弢㣇𣊸𦇚形彫㣣徚忍志忹悁㤺㤜悔𢛔惇慈慌慎慌慺憎憲憤憯懞懲懶成戛扝抱拔捐",
    "𢬌挽拼捨掃揤𢯱搢揅掩㨮摩摾撝摷㩬敏敬𣀊旣書晉㬙暑㬈㫤冒冕最暜肭䏙朗望朡杞杓𣏃㭉柺枅桒梅𣑭梎栟",
    "椔㮝楂榣槪檨𣚣櫛㰘次𣢧歔㱎歲殟殺殻𣪍𡴋𣫺汎𣲼沿泍汧洖派海流浩浸涅𣴞洴港湮㴳滋滇𣻑淹潮𣽞𣾎濆瀹",
    "瀞瀛㶖灊災灷炭𠔥煅𤉣熜𤎫爨爵牐𤘈犀犕𤜵𤠔獺王㺬玥㺸㺸瑇瑜瑱璅瓊㼛甤𤰶甾𤲒異𢆟瘐𤾡𤾸𥁄㿼䀈直𥃳",
    "𥃲𥄙𥄳眞真真睊䀹瞋䁆䂖𥐝硎碌磌䃣𥘦祖𥚚𥛅福秫䄯穀穊穏𥥼𥪧𥪧竮䈂𥮫篆築䈧𥲀糒䊠糨糣紀𥾆絣䌁緇縂",
    "繅䌴𦈨𦉇䍙𦋙罺𦌾羕翺者𦓚𦔣聠𦖨聰𣍟䏕育脃䐋脾媵𦞧𦞵𣎓𣎜舁舄辞䑫芑芋芝劳花芳芽苦𦬼若茝荣莭茣莽",
    "菧著荓菊菌菜𦰶𦵫𦳕䔫蓱蓳蔖𧏊蕤𦼬䕝䕡𦾱𧃒䕫虐虜虧虩蚩蚈蜎蛢蝹蜨蝫螆䗗蟡蠁䗹衠衣𧙧裗裞䘵裺㒻𧢮",
    "𧥦䚾䛇誠諭變豕𧲨貫賁贛起𧼯𠠄跋趼跰𠣞軔輸𨗒𨗭邔郱鄑𨜮鄛鈸鋗鋘鉼鏹鐕𨯺開䦕閷𨵷䧦雃嶲霣𩅅𩈚䩮䩶",
    "韠𩐊䪲𩒖頋頋頩𩖶飢䬳餩馧駂駾䯎𩬰鬒鱀鳽䳎䳭鵧𪃎䳸𪄅𪈎𪊑麻䵖黹黾鼅鼏鼖鼻𪘀"])]

/-- Characters that stand for several and are not composed of them. -/
def ligatures : Array Ligature := #[
  ⟨306, [73, 74]⟩, ⟨307, [105, 106]⟩, ⟨319, [76, 183]⟩, ⟨320, [108, 183]⟩, ⟨329, [700, 110]⟩,
  ⟨452, [68, 90, 780]⟩, ⟨453, [68, 122, 780]⟩, ⟨454, [100, 122, 780]⟩, ⟨455, [76, 74]⟩,
  ⟨456, [76, 106]⟩, ⟨457, [108, 106]⟩, ⟨458, [78, 74]⟩, ⟨459, [78, 106]⟩, ⟨460, [110, 106]⟩,
  ⟨497, [68, 90]⟩, ⟨498, [68, 122]⟩, ⟨499, [100, 122]⟩, ⟨836, [776, 769]⟩, ⟨1415, [1381, 1410]⟩,
  ⟨1653, [1575, 1652]⟩, ⟨1654, [1608, 1652]⟩, ⟨1655, [1735, 1652]⟩, ⟨1656, [1610, 1652]⟩,
  ⟨2392, [2325, 2364]⟩, ⟨2393, [2326, 2364]⟩, ⟨2394, [2327, 2364]⟩, ⟨2395, [2332, 2364]⟩,
  ⟨2396, [2337, 2364]⟩, ⟨2397, [2338, 2364]⟩, ⟨2398, [2347, 2364]⟩, ⟨2399, [2351, 2364]⟩,
  ⟨2524, [2465, 2492]⟩, ⟨2525, [2466, 2492]⟩, ⟨2527, [2479, 2492]⟩, ⟨2611, [2610, 2620]⟩,
  ⟨2614, [2616, 2620]⟩, ⟨2649, [2582, 2620]⟩, ⟨2650, [2583, 2620]⟩, ⟨2651, [2588, 2620]⟩,
  ⟨2654, [2603, 2620]⟩, ⟨2908, [2849, 2876]⟩, ⟨2909, [2850, 2876]⟩, ⟨3635, [3661, 3634]⟩,
  ⟨3763, [3789, 3762]⟩, ⟨3804, [3755, 3737]⟩, ⟨3805, [3755, 3745]⟩, ⟨3907, [3906, 4023]⟩,
  ⟨3917, [3916, 4023]⟩, ⟨3922, [3921, 4023]⟩, ⟨3927, [3926, 4023]⟩, ⟨3932, [3931, 4023]⟩,
  ⟨3945, [3904, 4021]⟩, ⟨3955, [3953, 3954]⟩, ⟨3957, [3953, 3956]⟩, ⟨3958, [4018, 3968]⟩,
  ⟨3959, [4018, 3953, 3968]⟩, ⟨3960, [4019, 3968]⟩, ⟨3961, [4019, 3953, 3968]⟩,
  ⟨3969, [3953, 3968]⟩, ⟨3987, [3986, 4023]⟩, ⟨3997, [3996, 4023]⟩, ⟨4002, [4001, 4023]⟩,
  ⟨4007, [4006, 4023]⟩, ⟨4012, [4011, 4023]⟩, ⟨4025, [3984, 4021]⟩, ⟨7834, [97, 702]⟩,
  ⟨8049, [945, 769]⟩, ⟨8051, [949, 769]⟩, ⟨8053, [951, 769]⟩, ⟨8055, [953, 769]⟩,
  ⟨8057, [959, 769]⟩, ⟨8059, [965, 769]⟩, ⟨8061, [969, 769]⟩, ⟨8123, [913, 769]⟩,
  ⟨8137, [917, 769]⟩, ⟨8139, [919, 769]⟩, ⟨8147, [953, 776, 769]⟩, ⟨8155, [921, 769]⟩,
  ⟨8163, [965, 776, 769]⟩, ⟨8171, [933, 769]⟩, ⟨8185, [927, 769]⟩, ⟨8187, [937, 769]⟩,
  ⟨8491, [65, 778]⟩, ⟨8545, [73, 73]⟩, ⟨8546, [73, 73, 73]⟩, ⟨8547, [73, 86]⟩, ⟨8549, [86, 73]⟩,
  ⟨8550, [86, 73, 73]⟩, ⟨8551, [86, 73, 73, 73]⟩, ⟨8552, [73, 88]⟩, ⟨8554, [88, 73]⟩,
  ⟨8555, [88, 73, 73]⟩, ⟨8561, [105, 105]⟩, ⟨8562, [105, 105, 105]⟩, ⟨8563, [105, 118]⟩,
  ⟨8565, [118, 105]⟩, ⟨8566, [118, 105, 105]⟩, ⟨8567, [118, 105, 105, 105]⟩, ⟨8568, [105, 120]⟩,
  ⟨8570, [120, 105]⟩, ⟨8571, [120, 105, 105]⟩, ⟨12447, [12424, 12426]⟩, ⟨12543, [12467, 12488]⟩,
  ⟨64256, [102, 102]⟩, ⟨64257, [102, 105]⟩, ⟨64258, [102, 108]⟩, ⟨64259, [102, 102, 105]⟩,
  ⟨64260, [102, 102, 108]⟩, ⟨64261, [115, 116]⟩, ⟨64262, [115, 116]⟩, ⟨64275, [1396, 1398]⟩,
  ⟨64276, [1396, 1381]⟩, ⟨64277, [1396, 1387]⟩, ⟨64278, [1406, 1398]⟩, ⟨64279, [1396, 1389]⟩,
  ⟨64285, [1497, 1460]⟩, ⟨64287, [1522, 1463]⟩, ⟨64298, [1513, 1473]⟩, ⟨64299, [1513, 1474]⟩,
  ⟨64300, [1513, 1468, 1473]⟩, ⟨64301, [1513, 1468, 1474]⟩, ⟨64302, [1488, 1463]⟩,
  ⟨64303, [1488, 1464]⟩, ⟨64304, [1488, 1468]⟩, ⟨64305, [1489, 1468]⟩, ⟨64306, [1490, 1468]⟩,
  ⟨64307, [1491, 1468]⟩, ⟨64308, [1492, 1468]⟩, ⟨64309, [1493, 1468]⟩, ⟨64310, [1494, 1468]⟩,
  ⟨64312, [1496, 1468]⟩, ⟨64313, [1497, 1468]⟩, ⟨64314, [1498, 1468]⟩, ⟨64315, [1499, 1468]⟩,
  ⟨64316, [1500, 1468]⟩, ⟨64318, [1502, 1468]⟩, ⟨64320, [1504, 1468]⟩, ⟨64321, [1505, 1468]⟩,
  ⟨64323, [1507, 1468]⟩, ⟨64324, [1508, 1468]⟩, ⟨64326, [1510, 1468]⟩, ⟨64327, [1511, 1468]⟩,
  ⟨64328, [1512, 1468]⟩, ⟨64329, [1513, 1468]⟩, ⟨64330, [1514, 1468]⟩, ⟨64331, [1493, 1465]⟩,
  ⟨64332, [1489, 1471]⟩, ⟨64333, [1499, 1471]⟩, ⟨64334, [1508, 1471]⟩, ⟨64335, [1488, 1500]⟩,
  ⟨64420, [1749, 1620]⟩, ⟨64421, [1749, 1620]⟩, ⟨64432, [1746, 1620]⟩, ⟨64433, [1746, 1620]⟩,
  ⟨64477, [1735, 1652]⟩, ⟨64490, [1610, 1620, 1575]⟩, ⟨64491, [1610, 1620, 1575]⟩,
  ⟨64492, [1610, 1620, 1749]⟩, ⟨64493, [1610, 1620, 1749]⟩, ⟨64494, [1610, 1620, 1608]⟩,
  ⟨64495, [1610, 1620, 1608]⟩, ⟨64496, [1610, 1620, 1735]⟩, ⟨64497, [1610, 1620, 1735]⟩,
  ⟨64498, [1610, 1620, 1734]⟩, ⟨64499, [1610, 1620, 1734]⟩, ⟨64500, [1610, 1620, 1736]⟩,
  ⟨64501, [1610, 1620, 1736]⟩, ⟨64502, [1610, 1620, 1744]⟩, ⟨64503, [1610, 1620, 1744]⟩,
  ⟨64504, [1610, 1620, 1744]⟩, ⟨64505, [1610, 1620, 1609]⟩, ⟨64506, [1610, 1620, 1609]⟩,
  ⟨64507, [1610, 1620, 1609]⟩, ⟨64512, [1610, 1620, 1580]⟩, ⟨64513, [1610, 1620, 1581]⟩,
  ⟨64514, [1610, 1620, 1605]⟩, ⟨64515, [1610, 1620, 1609]⟩, ⟨64516, [1610, 1620, 1610]⟩,
  ⟨64517, [1576, 1580]⟩, ⟨64518, [1576, 1581]⟩, ⟨64519, [1576, 1582]⟩, ⟨64520, [1576, 1605]⟩,
  ⟨64521, [1576, 1609]⟩, ⟨64522, [1576, 1610]⟩, ⟨64523, [1578, 1580]⟩, ⟨64524, [1578, 1581]⟩,
  ⟨64525, [1578, 1582]⟩, ⟨64526, [1578, 1605]⟩, ⟨64527, [1578, 1609]⟩, ⟨64528, [1578, 1610]⟩,
  ⟨64529, [1579, 1580]⟩, ⟨64530, [1579, 1605]⟩, ⟨64531, [1579, 1609]⟩, ⟨64532, [1579, 1610]⟩,
  ⟨64533, [1580, 1581]⟩, ⟨64534, [1580, 1605]⟩, ⟨64535, [1581, 1580]⟩, ⟨64536, [1581, 1605]⟩,
  ⟨64537, [1582, 1580]⟩, ⟨64538, [1582, 1581]⟩, ⟨64539, [1582, 1605]⟩, ⟨64540, [1587, 1580]⟩,
  ⟨64541, [1587, 1581]⟩, ⟨64542, [1587, 1582]⟩, ⟨64543, [1587, 1605]⟩, ⟨64544, [1589, 1581]⟩,
  ⟨64545, [1589, 1605]⟩, ⟨64546, [1590, 1580]⟩, ⟨64547, [1590, 1581]⟩, ⟨64548, [1590, 1582]⟩,
  ⟨64549, [1590, 1605]⟩, ⟨64550, [1591, 1581]⟩, ⟨64551, [1591, 1605]⟩, ⟨64552, [1592, 1605]⟩,
  ⟨64553, [1593, 1580]⟩, ⟨64554, [1593, 1605]⟩, ⟨64555, [1594, 1580]⟩, ⟨64556, [1594, 1605]⟩,
  ⟨64557, [1601, 1580]⟩, ⟨64558, [1601, 1581]⟩, ⟨64559, [1601, 1582]⟩, ⟨64560, [1601, 1605]⟩,
  ⟨64561, [1601, 1609]⟩, ⟨64562, [1601, 1610]⟩, ⟨64563, [1602, 1581]⟩, ⟨64564, [1602, 1605]⟩,
  ⟨64565, [1602, 1609]⟩, ⟨64566, [1602, 1610]⟩, ⟨64567, [1603, 1575]⟩, ⟨64568, [1603, 1580]⟩,
  ⟨64569, [1603, 1581]⟩, ⟨64570, [1603, 1582]⟩, ⟨64571, [1603, 1604]⟩, ⟨64572, [1603, 1605]⟩,
  ⟨64573, [1603, 1609]⟩, ⟨64574, [1603, 1610]⟩, ⟨64575, [1604, 1580]⟩, ⟨64576, [1604, 1581]⟩,
  ⟨64577, [1604, 1582]⟩, ⟨64578, [1604, 1605]⟩, ⟨64579, [1604, 1609]⟩, ⟨64580, [1604, 1610]⟩,
  ⟨64581, [1605, 1580]⟩, ⟨64582, [1605, 1581]⟩, ⟨64583, [1605, 1582]⟩, ⟨64584, [1605, 1605]⟩,
  ⟨64585, [1605, 1609]⟩, ⟨64586, [1605, 1610]⟩, ⟨64587, [1606, 1580]⟩, ⟨64588, [1606, 1581]⟩,
  ⟨64589, [1606, 1582]⟩, ⟨64590, [1606, 1605]⟩, ⟨64591, [1606, 1609]⟩, ⟨64592, [1606, 1610]⟩,
  ⟨64593, [1607, 1580]⟩, ⟨64594, [1607, 1605]⟩, ⟨64595, [1607, 1609]⟩, ⟨64596, [1607, 1610]⟩,
  ⟨64597, [1610, 1580]⟩, ⟨64598, [1610, 1581]⟩, ⟨64599, [1610, 1582]⟩, ⟨64600, [1610, 1605]⟩,
  ⟨64601, [1610, 1609]⟩, ⟨64602, [1610, 1610]⟩, ⟨64603, [1584, 1648]⟩, ⟨64604, [1585, 1648]⟩,
  ⟨64605, [1609, 1648]⟩, ⟨64612, [1610, 1620, 1585]⟩, ⟨64613, [1610, 1620, 1586]⟩,
  ⟨64614, [1610, 1620, 1605]⟩, ⟨64615, [1610, 1620, 1606]⟩, ⟨64616, [1610, 1620, 1609]⟩,
  ⟨64617, [1610, 1620, 1610]⟩, ⟨64618, [1576, 1585]⟩, ⟨64619, [1576, 1586]⟩, ⟨64620, [1576, 1605]⟩,
  ⟨64621, [1576, 1606]⟩, ⟨64622, [1576, 1609]⟩, ⟨64623, [1576, 1610]⟩, ⟨64624, [1578, 1585]⟩,
  ⟨64625, [1578, 1586]⟩, ⟨64626, [1578, 1605]⟩, ⟨64627, [1578, 1606]⟩, ⟨64628, [1578, 1609]⟩,
  ⟨64629, [1578, 1610]⟩, ⟨64630, [1579, 1585]⟩, ⟨64631, [1579, 1586]⟩, ⟨64632, [1579, 1605]⟩,
  ⟨64633, [1579, 1606]⟩, ⟨64634, [1579, 1609]⟩, ⟨64635, [1579, 1610]⟩, ⟨64636, [1601, 1609]⟩,
  ⟨64637, [1601, 1610]⟩, ⟨64638, [1602, 1609]⟩, ⟨64639, [1602, 1610]⟩, ⟨64640, [1603, 1575]⟩,
  ⟨64641, [1603, 1604]⟩, ⟨64642, [1603, 1605]⟩, ⟨64643, [1603, 1609]⟩, ⟨64644, [1603, 1610]⟩,
  ⟨64645, [1604, 1605]⟩, ⟨64646, [1604, 1609]⟩, ⟨64647, [1604, 1610]⟩, ⟨64648, [1605, 1575]⟩,
  ⟨64649, [1605, 1605]⟩, ⟨64650, [1606, 1585]⟩, ⟨64651, [1606, 1586]⟩, ⟨64652, [1606, 1605]⟩,
  ⟨64653, [1606, 1606]⟩, ⟨64654, [1606, 1609]⟩, ⟨64655, [1606, 1610]⟩, ⟨64656, [1609, 1648]⟩,
  ⟨64657, [1610, 1585]⟩, ⟨64658, [1610, 1586]⟩, ⟨64659, [1610, 1605]⟩, ⟨64660, [1610, 1606]⟩,
  ⟨64661, [1610, 1609]⟩, ⟨64662, [1610, 1610]⟩, ⟨64663, [1610, 1620, 1580]⟩,
  ⟨64664, [1610, 1620, 1581]⟩, ⟨64665, [1610, 1620, 1582]⟩, ⟨64666, [1610, 1620, 1605]⟩,
  ⟨64667, [1610, 1620, 1607]⟩, ⟨64668, [1576, 1580]⟩, ⟨64669, [1576, 1581]⟩, ⟨64670, [1576, 1582]⟩,
  ⟨64671, [1576, 1605]⟩, ⟨64672, [1576, 1607]⟩, ⟨64673, [1578, 1580]⟩, ⟨64674, [1578, 1581]⟩,
  ⟨64675, [1578, 1582]⟩, ⟨64676, [1578, 1605]⟩, ⟨64677, [1578, 1607]⟩, ⟨64678, [1579, 1605]⟩,
  ⟨64679, [1580, 1581]⟩, ⟨64680, [1580, 1605]⟩, ⟨64681, [1581, 1580]⟩, ⟨64682, [1581, 1605]⟩,
  ⟨64683, [1582, 1580]⟩, ⟨64684, [1582, 1605]⟩, ⟨64685, [1587, 1580]⟩, ⟨64686, [1587, 1581]⟩,
  ⟨64687, [1587, 1582]⟩, ⟨64688, [1587, 1605]⟩, ⟨64689, [1589, 1581]⟩, ⟨64690, [1589, 1582]⟩,
  ⟨64691, [1589, 1605]⟩, ⟨64692, [1590, 1580]⟩, ⟨64693, [1590, 1581]⟩, ⟨64694, [1590, 1582]⟩,
  ⟨64695, [1590, 1605]⟩, ⟨64696, [1591, 1581]⟩, ⟨64697, [1592, 1605]⟩, ⟨64698, [1593, 1580]⟩,
  ⟨64699, [1593, 1605]⟩, ⟨64700, [1594, 1580]⟩, ⟨64701, [1594, 1605]⟩, ⟨64702, [1601, 1580]⟩,
  ⟨64703, [1601, 1581]⟩, ⟨64704, [1601, 1582]⟩, ⟨64705, [1601, 1605]⟩, ⟨64706, [1602, 1581]⟩,
  ⟨64707, [1602, 1605]⟩, ⟨64708, [1603, 1580]⟩, ⟨64709, [1603, 1581]⟩, ⟨64710, [1603, 1582]⟩,
  ⟨64711, [1603, 1604]⟩, ⟨64712, [1603, 1605]⟩, ⟨64713, [1604, 1580]⟩, ⟨64714, [1604, 1581]⟩,
  ⟨64715, [1604, 1582]⟩, ⟨64716, [1604, 1605]⟩, ⟨64717, [1604, 1607]⟩, ⟨64718, [1605, 1580]⟩,
  ⟨64719, [1605, 1581]⟩, ⟨64720, [1605, 1582]⟩, ⟨64721, [1605, 1605]⟩, ⟨64722, [1606, 1580]⟩,
  ⟨64723, [1606, 1581]⟩, ⟨64724, [1606, 1582]⟩, ⟨64725, [1606, 1605]⟩, ⟨64726, [1606, 1607]⟩,
  ⟨64727, [1607, 1580]⟩, ⟨64728, [1607, 1605]⟩, ⟨64729, [1607, 1648]⟩, ⟨64730, [1610, 1580]⟩,
  ⟨64731, [1610, 1581]⟩, ⟨64732, [1610, 1582]⟩, ⟨64733, [1610, 1605]⟩, ⟨64734, [1610, 1607]⟩,
  ⟨64735, [1610, 1620, 1605]⟩, ⟨64736, [1610, 1620, 1607]⟩, ⟨64737, [1576, 1605]⟩,
  ⟨64738, [1576, 1607]⟩, ⟨64739, [1578, 1605]⟩, ⟨64740, [1578, 1607]⟩, ⟨64741, [1579, 1605]⟩,
  ⟨64742, [1579, 1607]⟩, ⟨64743, [1587, 1605]⟩, ⟨64744, [1587, 1607]⟩, ⟨64745, [1588, 1605]⟩,
  ⟨64746, [1588, 1607]⟩, ⟨64747, [1603, 1604]⟩, ⟨64748, [1603, 1605]⟩, ⟨64749, [1604, 1605]⟩,
  ⟨64750, [1606, 1605]⟩, ⟨64751, [1606, 1607]⟩, ⟨64752, [1610, 1605]⟩, ⟨64753, [1610, 1607]⟩,
  ⟨64754, [1600, 1614, 1617]⟩, ⟨64755, [1600, 1615, 1617]⟩, ⟨64756, [1600, 1616, 1617]⟩,
  ⟨64757, [1591, 1609]⟩, ⟨64758, [1591, 1610]⟩, ⟨64759, [1593, 1609]⟩, ⟨64760, [1593, 1610]⟩,
  ⟨64761, [1594, 1609]⟩, ⟨64762, [1594, 1610]⟩, ⟨64763, [1587, 1609]⟩, ⟨64764, [1587, 1610]⟩,
  ⟨64765, [1588, 1609]⟩, ⟨64766, [1588, 1610]⟩, ⟨64767, [1581, 1609]⟩, ⟨64768, [1581, 1610]⟩,
  ⟨64769, [1580, 1609]⟩, ⟨64770, [1580, 1610]⟩, ⟨64771, [1582, 1609]⟩, ⟨64772, [1582, 1610]⟩,
  ⟨64773, [1589, 1609]⟩, ⟨64774, [1589, 1610]⟩, ⟨64775, [1590, 1609]⟩, ⟨64776, [1590, 1610]⟩,
  ⟨64777, [1588, 1580]⟩, ⟨64778, [1588, 1581]⟩, ⟨64779, [1588, 1582]⟩, ⟨64780, [1588, 1605]⟩,
  ⟨64781, [1588, 1585]⟩, ⟨64782, [1587, 1585]⟩, ⟨64783, [1589, 1585]⟩, ⟨64784, [1590, 1585]⟩,
  ⟨64785, [1591, 1609]⟩, ⟨64786, [1591, 1610]⟩, ⟨64787, [1593, 1609]⟩, ⟨64788, [1593, 1610]⟩,
  ⟨64789, [1594, 1609]⟩, ⟨64790, [1594, 1610]⟩, ⟨64791, [1587, 1609]⟩, ⟨64792, [1587, 1610]⟩,
  ⟨64793, [1588, 1609]⟩, ⟨64794, [1588, 1610]⟩, ⟨64795, [1581, 1609]⟩, ⟨64796, [1581, 1610]⟩,
  ⟨64797, [1580, 1609]⟩, ⟨64798, [1580, 1610]⟩, ⟨64799, [1582, 1609]⟩, ⟨64800, [1582, 1610]⟩,
  ⟨64801, [1589, 1609]⟩, ⟨64802, [1589, 1610]⟩, ⟨64803, [1590, 1609]⟩, ⟨64804, [1590, 1610]⟩,
  ⟨64805, [1588, 1580]⟩, ⟨64806, [1588, 1581]⟩, ⟨64807, [1588, 1582]⟩, ⟨64808, [1588, 1605]⟩,
  ⟨64809, [1588, 1585]⟩, ⟨64810, [1587, 1585]⟩, ⟨64811, [1589, 1585]⟩, ⟨64812, [1590, 1585]⟩,
  ⟨64813, [1588, 1580]⟩, ⟨64814, [1588, 1581]⟩, ⟨64815, [1588, 1582]⟩, ⟨64816, [1588, 1605]⟩,
  ⟨64817, [1587, 1607]⟩, ⟨64818, [1588, 1607]⟩, ⟨64819, [1591, 1605]⟩, ⟨64820, [1587, 1580]⟩,
  ⟨64821, [1587, 1581]⟩, ⟨64822, [1587, 1582]⟩, ⟨64823, [1588, 1580]⟩, ⟨64824, [1588, 1581]⟩,
  ⟨64825, [1588, 1582]⟩, ⟨64826, [1591, 1605]⟩, ⟨64827, [1592, 1605]⟩, ⟨64828, [1575, 1611]⟩,
  ⟨64829, [1575, 1611]⟩, ⟨64848, [1578, 1580, 1605]⟩, ⟨64849, [1578, 1581, 1580]⟩,
  ⟨64850, [1578, 1581, 1580]⟩, ⟨64851, [1578, 1581, 1605]⟩, ⟨64852, [1578, 1582, 1605]⟩,
  ⟨64853, [1578, 1605, 1580]⟩, ⟨64854, [1578, 1605, 1581]⟩, ⟨64855, [1578, 1605, 1582]⟩,
  ⟨64856, [1580, 1605, 1581]⟩, ⟨64857, [1580, 1605, 1581]⟩, ⟨64858, [1581, 1605, 1610]⟩,
  ⟨64859, [1581, 1605, 1609]⟩, ⟨64860, [1587, 1581, 1580]⟩, ⟨64861, [1587, 1580, 1581]⟩,
  ⟨64862, [1587, 1580, 1609]⟩, ⟨64863, [1587, 1605, 1581]⟩, ⟨64864, [1587, 1605, 1581]⟩,
  ⟨64865, [1587, 1605, 1580]⟩, ⟨64866, [1587, 1605, 1605]⟩, ⟨64867, [1587, 1605, 1605]⟩,
  ⟨64868, [1589, 1581, 1581]⟩, ⟨64869, [1589, 1581, 1581]⟩, ⟨64870, [1589, 1605, 1605]⟩,
  ⟨64871, [1588, 1581, 1605]⟩, ⟨64872, [1588, 1581, 1605]⟩, ⟨64873, [1588, 1580, 1610]⟩,
  ⟨64874, [1588, 1605, 1582]⟩, ⟨64875, [1588, 1605, 1582]⟩, ⟨64876, [1588, 1605, 1605]⟩,
  ⟨64877, [1588, 1605, 1605]⟩, ⟨64878, [1590, 1581, 1609]⟩, ⟨64879, [1590, 1582, 1605]⟩,
  ⟨64880, [1590, 1582, 1605]⟩, ⟨64881, [1591, 1605, 1581]⟩, ⟨64882, [1591, 1605, 1581]⟩,
  ⟨64883, [1591, 1605, 1605]⟩, ⟨64884, [1591, 1605, 1610]⟩, ⟨64885, [1593, 1580, 1605]⟩,
  ⟨64886, [1593, 1605, 1605]⟩, ⟨64887, [1593, 1605, 1605]⟩, ⟨64888, [1593, 1605, 1609]⟩,
  ⟨64889, [1594, 1605, 1605]⟩, ⟨64890, [1594, 1605, 1610]⟩, ⟨64891, [1594, 1605, 1609]⟩,
  ⟨64892, [1601, 1582, 1605]⟩, ⟨64893, [1601, 1582, 1605]⟩, ⟨64894, [1602, 1605, 1581]⟩,
  ⟨64895, [1602, 1605, 1605]⟩, ⟨64896, [1604, 1581, 1605]⟩, ⟨64897, [1604, 1581, 1610]⟩,
  ⟨64898, [1604, 1581, 1609]⟩, ⟨64899, [1604, 1580, 1580]⟩, ⟨64900, [1604, 1580, 1580]⟩,
  ⟨64901, [1604, 1582, 1605]⟩, ⟨64902, [1604, 1582, 1605]⟩, ⟨64903, [1604, 1605, 1581]⟩,
  ⟨64904, [1604, 1605, 1581]⟩, ⟨64905, [1605, 1581, 1580]⟩, ⟨64906, [1605, 1581, 1605]⟩,
  ⟨64907, [1605, 1581, 1610]⟩, ⟨64908, [1605, 1580, 1581]⟩, ⟨64909, [1605, 1580, 1605]⟩,
  ⟨64910, [1605, 1582, 1580]⟩, ⟨64911, [1605, 1582, 1605]⟩, ⟨64914, [1605, 1580, 1582]⟩,
  ⟨64915, [1607, 1605, 1580]⟩, ⟨64916, [1607, 1605, 1605]⟩, ⟨64917, [1606, 1581, 1605]⟩,
  ⟨64918, [1606, 1581, 1609]⟩, ⟨64919, [1606, 1580, 1605]⟩, ⟨64920, [1606, 1580, 1605]⟩,
  ⟨64921, [1606, 1580, 1609]⟩, ⟨64922, [1606, 1605, 1610]⟩, ⟨64923, [1606, 1605, 1609]⟩,
  ⟨64924, [1610, 1605, 1605]⟩, ⟨64925, [1610, 1605, 1605]⟩, ⟨64926, [1576, 1582, 1610]⟩,
  ⟨64927, [1578, 1580, 1610]⟩, ⟨64928, [1578, 1580, 1609]⟩, ⟨64929, [1578, 1582, 1610]⟩,
  ⟨64930, [1578, 1582, 1609]⟩, ⟨64931, [1578, 1605, 1610]⟩, ⟨64932, [1578, 1605, 1609]⟩,
  ⟨64933, [1580, 1605, 1610]⟩, ⟨64934, [1580, 1581, 1609]⟩, ⟨64935, [1580, 1605, 1609]⟩,
  ⟨64936, [1587, 1582, 1609]⟩, ⟨64937, [1589, 1581, 1610]⟩, ⟨64938, [1588, 1581, 1610]⟩,
  ⟨64939, [1590, 1581, 1610]⟩, ⟨64940, [1604, 1580, 1610]⟩, ⟨64941, [1604, 1605, 1610]⟩,
  ⟨64942, [1610, 1581, 1610]⟩, ⟨64943, [1610, 1580, 1610]⟩, ⟨64944, [1610, 1605, 1610]⟩,
  ⟨64945, [1605, 1605, 1610]⟩, ⟨64946, [1602, 1605, 1610]⟩, ⟨64947, [1606, 1581, 1610]⟩,
  ⟨64948, [1602, 1605, 1581]⟩, ⟨64949, [1604, 1581, 1605]⟩, ⟨64950, [1593, 1605, 1610]⟩,
  ⟨64951, [1603, 1605, 1610]⟩, ⟨64952, [1606, 1580, 1581]⟩, ⟨64953, [1605, 1582, 1610]⟩,
  ⟨64954, [1604, 1580, 1605]⟩, ⟨64955, [1603, 1605, 1605]⟩, ⟨64956, [1604, 1580, 1605]⟩,
  ⟨64957, [1606, 1580, 1581]⟩, ⟨64958, [1580, 1581, 1610]⟩, ⟨64959, [1581, 1580, 1610]⟩,
  ⟨64960, [1605, 1580, 1610]⟩, ⟨64961, [1601, 1605, 1610]⟩, ⟨64962, [1576, 1581, 1610]⟩,
  ⟨64963, [1603, 1605, 1605]⟩, ⟨64964, [1593, 1580, 1605]⟩, ⟨64965, [1589, 1605, 1605]⟩,
  ⟨64966, [1587, 1582, 1610]⟩, ⟨64967, [1606, 1580, 1610]⟩, ⟨65008, [1589, 1604, 1746]⟩,
  ⟨65009, [1602, 1604, 1746]⟩, ⟨65010, [1575, 1604, 1604, 1607]⟩,
  ⟨65011, [1575, 1603, 1576, 1585]⟩, ⟨65012, [1605, 1581, 1605, 1583]⟩,
  ⟨65013, [1589, 1604, 1593, 1605]⟩, ⟨65014, [1585, 1587, 1608, 1604]⟩,
  ⟨65015, [1593, 1604, 1610, 1607]⟩, ⟨65016, [1608, 1587, 1604, 1605]⟩,
  ⟨65017, [1589, 1604, 1609]⟩, ⟨65137, [1600, 1611]⟩, ⟨65143, [1600, 1614]⟩, ⟨65145, [1600, 1615]⟩,
  ⟨65147, [1600, 1616]⟩, ⟨65149, [1600, 1617]⟩, ⟨65151, [1600, 1618]⟩, ⟨65153, [1575, 1619]⟩,
  ⟨65154, [1575, 1619]⟩, ⟨65155, [1575, 1620]⟩, ⟨65156, [1575, 1620]⟩, ⟨65157, [1608, 1620]⟩,
  ⟨65158, [1608, 1620]⟩, ⟨65159, [1575, 1621]⟩, ⟨65160, [1575, 1621]⟩, ⟨65161, [1610, 1620]⟩,
  ⟨65162, [1610, 1620]⟩, ⟨65163, [1610, 1620]⟩, ⟨65164, [1610, 1620]⟩, ⟨65269, [1604, 1575, 1619]⟩,
  ⟨65270, [1604, 1575, 1619]⟩, ⟨65271, [1604, 1575, 1620]⟩, ⟨65272, [1604, 1575, 1620]⟩,
  ⟨65273, [1604, 1575, 1621]⟩, ⟨65274, [1604, 1575, 1621]⟩, ⟨65275, [1604, 1575]⟩,
  ⟨65276, [1604, 1575]⟩]

/-- The combining classes of marks. -/
def marks : Array Marks := #[
  ⟨768, 788, 230⟩, ⟨789, 789, 232⟩, ⟨790, 793, 220⟩, ⟨794, 794, 232⟩, ⟨795, 795, 216⟩,
  ⟨796, 800, 220⟩, ⟨801, 802, 202⟩, ⟨803, 806, 220⟩, ⟨807, 808, 202⟩, ⟨809, 819, 220⟩,
  ⟨820, 824, 1⟩, ⟨825, 828, 220⟩, ⟨829, 836, 230⟩, ⟨837, 837, 240⟩, ⟨838, 838, 230⟩,
  ⟨839, 841, 220⟩, ⟨842, 844, 230⟩, ⟨845, 846, 220⟩, ⟨848, 850, 230⟩, ⟨851, 854, 220⟩,
  ⟨855, 855, 230⟩, ⟨856, 856, 232⟩, ⟨857, 858, 220⟩, ⟨859, 859, 230⟩, ⟨860, 860, 233⟩,
  ⟨861, 862, 234⟩, ⟨863, 863, 233⟩, ⟨864, 865, 234⟩, ⟨866, 866, 233⟩, ⟨867, 879, 230⟩,
  ⟨1155, 1159, 230⟩, ⟨1425, 1425, 220⟩, ⟨1426, 1429, 230⟩, ⟨1430, 1430, 220⟩, ⟨1431, 1433, 230⟩,
  ⟨1434, 1434, 222⟩, ⟨1435, 1435, 220⟩, ⟨1436, 1441, 230⟩, ⟨1442, 1447, 220⟩, ⟨1448, 1449, 230⟩,
  ⟨1450, 1450, 220⟩, ⟨1451, 1452, 230⟩, ⟨1453, 1453, 222⟩, ⟨1454, 1454, 228⟩, ⟨1455, 1455, 230⟩,
  ⟨1456, 1456, 10⟩, ⟨1457, 1457, 11⟩, ⟨1458, 1458, 12⟩, ⟨1459, 1459, 13⟩, ⟨1460, 1460, 14⟩,
  ⟨1461, 1461, 15⟩, ⟨1462, 1462, 16⟩, ⟨1463, 1463, 17⟩, ⟨1464, 1464, 18⟩, ⟨1465, 1466, 19⟩,
  ⟨1467, 1467, 20⟩, ⟨1468, 1468, 21⟩, ⟨1469, 1469, 22⟩, ⟨1471, 1471, 23⟩, ⟨1473, 1473, 24⟩,
  ⟨1474, 1474, 25⟩, ⟨1476, 1476, 230⟩, ⟨1477, 1477, 220⟩, ⟨1479, 1479, 18⟩, ⟨1552, 1559, 230⟩,
  ⟨1560, 1560, 30⟩, ⟨1561, 1561, 31⟩, ⟨1562, 1562, 32⟩, ⟨1611, 1611, 27⟩, ⟨1612, 1612, 28⟩,
  ⟨1613, 1613, 29⟩, ⟨1614, 1614, 30⟩, ⟨1615, 1615, 31⟩, ⟨1616, 1616, 32⟩, ⟨1617, 1617, 33⟩,
  ⟨1618, 1618, 34⟩, ⟨1619, 1620, 230⟩, ⟨1621, 1622, 220⟩, ⟨1623, 1627, 230⟩, ⟨1628, 1628, 220⟩,
  ⟨1629, 1630, 230⟩, ⟨1631, 1631, 220⟩, ⟨1648, 1648, 35⟩, ⟨1750, 1756, 230⟩, ⟨1759, 1762, 230⟩,
  ⟨1763, 1763, 220⟩, ⟨1764, 1764, 230⟩, ⟨1767, 1768, 230⟩, ⟨1770, 1770, 220⟩, ⟨1771, 1772, 230⟩,
  ⟨1773, 1773, 220⟩, ⟨1809, 1809, 36⟩, ⟨1840, 1840, 230⟩, ⟨1841, 1841, 220⟩, ⟨1842, 1843, 230⟩,
  ⟨1844, 1844, 220⟩, ⟨1845, 1846, 230⟩, ⟨1847, 1849, 220⟩, ⟨1850, 1850, 230⟩, ⟨1851, 1852, 220⟩,
  ⟨1853, 1853, 230⟩, ⟨1854, 1854, 220⟩, ⟨1855, 1857, 230⟩, ⟨1858, 1858, 220⟩, ⟨1859, 1859, 230⟩,
  ⟨1860, 1860, 220⟩, ⟨1861, 1861, 230⟩, ⟨1862, 1862, 220⟩, ⟨1863, 1863, 230⟩, ⟨1864, 1864, 220⟩,
  ⟨1865, 1866, 230⟩, ⟨2027, 2033, 230⟩, ⟨2034, 2034, 220⟩, ⟨2035, 2035, 230⟩, ⟨2045, 2045, 220⟩,
  ⟨2070, 2073, 230⟩, ⟨2075, 2083, 230⟩, ⟨2085, 2087, 230⟩, ⟨2089, 2093, 230⟩, ⟨2137, 2139, 220⟩,
  ⟨2200, 2200, 230⟩, ⟨2201, 2203, 220⟩, ⟨2204, 2207, 230⟩, ⟨2250, 2254, 230⟩, ⟨2255, 2259, 220⟩,
  ⟨2260, 2273, 230⟩, ⟨2275, 2275, 220⟩, ⟨2276, 2277, 230⟩, ⟨2278, 2278, 220⟩, ⟨2279, 2280, 230⟩,
  ⟨2281, 2281, 220⟩, ⟨2282, 2284, 230⟩, ⟨2285, 2287, 220⟩, ⟨2288, 2288, 27⟩, ⟨2289, 2289, 28⟩,
  ⟨2290, 2290, 29⟩, ⟨2291, 2293, 230⟩, ⟨2294, 2294, 220⟩, ⟨2295, 2296, 230⟩, ⟨2297, 2298, 220⟩,
  ⟨2299, 2303, 230⟩, ⟨2364, 2364, 7⟩, ⟨2381, 2381, 9⟩, ⟨2385, 2385, 230⟩, ⟨2386, 2386, 220⟩,
  ⟨2387, 2388, 230⟩, ⟨2492, 2492, 7⟩, ⟨2509, 2509, 9⟩, ⟨2558, 2558, 230⟩, ⟨2620, 2620, 7⟩,
  ⟨2637, 2637, 9⟩, ⟨2748, 2748, 7⟩, ⟨2765, 2765, 9⟩, ⟨2876, 2876, 7⟩, ⟨2893, 2893, 9⟩,
  ⟨3021, 3021, 9⟩, ⟨3132, 3132, 7⟩, ⟨3149, 3149, 9⟩, ⟨3157, 3157, 84⟩, ⟨3158, 3158, 91⟩,
  ⟨3260, 3260, 7⟩, ⟨3277, 3277, 9⟩, ⟨3387, 3388, 9⟩, ⟨3405, 3405, 9⟩, ⟨3530, 3530, 9⟩,
  ⟨3640, 3641, 103⟩, ⟨3642, 3642, 9⟩, ⟨3656, 3659, 107⟩, ⟨3768, 3769, 118⟩, ⟨3770, 3770, 9⟩,
  ⟨3784, 3787, 122⟩, ⟨3864, 3865, 220⟩, ⟨3893, 3893, 220⟩, ⟨3895, 3895, 220⟩, ⟨3897, 3897, 216⟩,
  ⟨3953, 3953, 129⟩, ⟨3954, 3954, 130⟩, ⟨3956, 3956, 132⟩, ⟨3962, 3965, 130⟩, ⟨3968, 3968, 130⟩,
  ⟨3970, 3971, 230⟩, ⟨3972, 3972, 9⟩, ⟨3974, 3975, 230⟩, ⟨4038, 4038, 220⟩, ⟨4151, 4151, 7⟩,
  ⟨4153, 4154, 9⟩, ⟨4237, 4237, 220⟩, ⟨4957, 4959, 230⟩, ⟨5908, 5909, 9⟩, ⟨5940, 5940, 9⟩,
  ⟨6098, 6098, 9⟩, ⟨6109, 6109, 230⟩, ⟨6313, 6313, 228⟩, ⟨6457, 6457, 222⟩, ⟨6458, 6458, 230⟩,
  ⟨6459, 6459, 220⟩, ⟨6679, 6679, 230⟩, ⟨6680, 6680, 220⟩, ⟨6752, 6752, 9⟩, ⟨6773, 6780, 230⟩,
  ⟨6783, 6783, 220⟩, ⟨6832, 6836, 230⟩, ⟨6837, 6842, 220⟩, ⟨6843, 6844, 230⟩, ⟨6845, 6845, 220⟩,
  ⟨6847, 6848, 220⟩, ⟨6849, 6850, 230⟩, ⟨6851, 6852, 220⟩, ⟨6853, 6857, 230⟩, ⟨6858, 6858, 220⟩,
  ⟨6859, 6862, 230⟩, ⟨6964, 6964, 7⟩, ⟨6980, 6980, 9⟩, ⟨7019, 7019, 230⟩, ⟨7020, 7020, 220⟩,
  ⟨7021, 7027, 230⟩, ⟨7082, 7083, 9⟩, ⟨7142, 7142, 7⟩, ⟨7154, 7155, 9⟩, ⟨7223, 7223, 7⟩,
  ⟨7376, 7378, 230⟩, ⟨7380, 7380, 1⟩, ⟨7381, 7385, 220⟩, ⟨7386, 7387, 230⟩, ⟨7388, 7391, 220⟩,
  ⟨7392, 7392, 230⟩, ⟨7394, 7400, 1⟩, ⟨7405, 7405, 220⟩, ⟨7412, 7412, 230⟩, ⟨7416, 7417, 230⟩,
  ⟨7616, 7617, 230⟩, ⟨7618, 7618, 220⟩, ⟨7619, 7625, 230⟩, ⟨7626, 7626, 220⟩, ⟨7627, 7628, 230⟩,
  ⟨7629, 7629, 234⟩, ⟨7630, 7630, 214⟩, ⟨7631, 7631, 220⟩, ⟨7632, 7632, 202⟩, ⟨7633, 7669, 230⟩,
  ⟨7670, 7670, 232⟩, ⟨7671, 7672, 228⟩, ⟨7673, 7673, 220⟩, ⟨7674, 7674, 218⟩, ⟨7675, 7675, 230⟩,
  ⟨7676, 7676, 233⟩, ⟨7677, 7677, 220⟩, ⟨7678, 7678, 230⟩, ⟨7679, 7679, 220⟩, ⟨8400, 8401, 230⟩,
  ⟨8402, 8403, 1⟩, ⟨8404, 8407, 230⟩, ⟨8408, 8410, 1⟩, ⟨8411, 8412, 230⟩, ⟨8417, 8417, 230⟩,
  ⟨8421, 8422, 1⟩, ⟨8423, 8423, 230⟩, ⟨8424, 8424, 220⟩, ⟨8425, 8425, 230⟩, ⟨8426, 8427, 1⟩,
  ⟨8428, 8431, 220⟩, ⟨8432, 8432, 230⟩, ⟨11503, 11505, 230⟩, ⟨11647, 11647, 9⟩,
  ⟨11744, 11775, 230⟩, ⟨12330, 12330, 218⟩, ⟨12331, 12331, 228⟩, ⟨12332, 12332, 232⟩,
  ⟨12333, 12333, 222⟩, ⟨12334, 12335, 224⟩, ⟨12441, 12442, 8⟩, ⟨42607, 42607, 230⟩,
  ⟨42612, 42621, 230⟩, ⟨42654, 42655, 230⟩, ⟨42736, 42737, 230⟩, ⟨43014, 43014, 9⟩,
  ⟨43052, 43052, 9⟩, ⟨43204, 43204, 9⟩, ⟨43232, 43249, 230⟩, ⟨43307, 43309, 220⟩,
  ⟨43347, 43347, 9⟩, ⟨43443, 43443, 7⟩, ⟨43456, 43456, 9⟩, ⟨43696, 43696, 230⟩,
  ⟨43698, 43699, 230⟩, ⟨43700, 43700, 220⟩, ⟨43703, 43704, 230⟩, ⟨43710, 43711, 230⟩,
  ⟨43713, 43713, 230⟩, ⟨43766, 43766, 9⟩, ⟨44013, 44013, 9⟩, ⟨64286, 64286, 26⟩,
  ⟨65056, 65062, 230⟩, ⟨65063, 65069, 220⟩, ⟨65070, 65071, 230⟩, ⟨66045, 66045, 220⟩,
  ⟨66272, 66272, 220⟩, ⟨66422, 66426, 230⟩, ⟨68109, 68109, 220⟩, ⟨68111, 68111, 230⟩,
  ⟨68152, 68152, 230⟩, ⟨68153, 68153, 1⟩, ⟨68154, 68154, 220⟩, ⟨68159, 68159, 9⟩,
  ⟨68325, 68325, 230⟩, ⟨68326, 68326, 220⟩, ⟨68900, 68903, 230⟩, ⟨69291, 69292, 230⟩,
  ⟨69446, 69447, 220⟩, ⟨69448, 69450, 230⟩, ⟨69451, 69451, 220⟩, ⟨69452, 69452, 230⟩,
  ⟨69453, 69456, 220⟩, ⟨69506, 69506, 230⟩, ⟨69507, 69507, 220⟩, ⟨69508, 69508, 230⟩,
  ⟨69509, 69509, 220⟩, ⟨69702, 69702, 9⟩, ⟨69744, 69744, 9⟩, ⟨69759, 69759, 9⟩, ⟨69817, 69817, 9⟩,
  ⟨69818, 69818, 7⟩, ⟨69888, 69890, 230⟩, ⟨69939, 69940, 9⟩, ⟨70003, 70003, 7⟩, ⟨70080, 70080, 9⟩,
  ⟨70090, 70090, 7⟩, ⟨70197, 70197, 9⟩, ⟨70198, 70198, 7⟩, ⟨70377, 70377, 7⟩, ⟨70378, 70378, 9⟩,
  ⟨70459, 70460, 7⟩, ⟨70477, 70477, 9⟩, ⟨70502, 70508, 230⟩, ⟨70512, 70516, 230⟩,
  ⟨70722, 70722, 9⟩, ⟨70726, 70726, 7⟩, ⟨70750, 70750, 230⟩, ⟨70850, 70850, 9⟩, ⟨70851, 70851, 7⟩,
  ⟨71103, 71103, 9⟩, ⟨71104, 71104, 7⟩, ⟨71231, 71231, 9⟩, ⟨71350, 71350, 9⟩, ⟨71351, 71351, 7⟩,
  ⟨71467, 71467, 9⟩, ⟨71737, 71737, 9⟩, ⟨71738, 71738, 7⟩, ⟨71997, 71998, 9⟩, ⟨72003, 72003, 7⟩,
  ⟨72160, 72160, 9⟩, ⟨72244, 72244, 9⟩, ⟨72263, 72263, 9⟩, ⟨72345, 72345, 9⟩, ⟨72767, 72767, 9⟩,
  ⟨73026, 73026, 7⟩, ⟨73028, 73029, 9⟩, ⟨73111, 73111, 9⟩, ⟨92912, 92916, 1⟩, ⟨92976, 92982, 230⟩,
  ⟨94192, 94193, 6⟩, ⟨113822, 113822, 1⟩, ⟨119141, 119142, 216⟩, ⟨119143, 119145, 1⟩,
  ⟨119149, 119149, 226⟩, ⟨119150, 119154, 216⟩, ⟨119163, 119170, 220⟩, ⟨119173, 119177, 230⟩,
  ⟨119178, 119179, 220⟩, ⟨119210, 119213, 230⟩, ⟨119362, 119364, 230⟩, ⟨122880, 122886, 230⟩,
  ⟨122888, 122904, 230⟩, ⟨122907, 122913, 230⟩, ⟨122915, 122916, 230⟩, ⟨122918, 122922, 230⟩,
  ⟨123184, 123190, 230⟩, ⟨123566, 123566, 230⟩, ⟨123628, 123631, 230⟩, ⟨125136, 125142, 220⟩,
  ⟨125252, 125257, 230⟩, ⟨125258, 125258, 7⟩]

section Syllables

/-- The first of the syllables that are composed by rule. -/
def firstSyllable : Nat := 44032

/-- The first of the consonants that begin a syllable. -/
def firstLead : Nat := 4352

/-- The first of the vowels of a syllable. -/
def firstVowel : Nat := 4449

/-- What comes before the first of the consonants that end a syllable. -/
def beforeTails : Nat := 4519

/-- The two characters that a syllable is composed of: its last consonant is taken off first. -/
def splitSyllable? (n : Nat) : Option (Nat × Nat) :=
  if firstSyllable ≤ n && n < firstSyllable + 19 * 21 * 28 then
    let index := n - firstSyllable
    if index % 28 = 0 then some (firstLead + index / (21 * 28), firstVowel + index / 28 % 21)
    else some (n - index % 28, beforeTails + index % 28)
  else none

/-- The syllable that two characters compose. -/
def joinSyllable? (a b : Nat) : Option Nat :=
  if firstLead ≤ a && a < firstLead + 19 && firstVowel ≤ b && b < firstVowel + 21 then
    some (firstSyllable + ((a - firstLead) * 21 + (b - firstVowel)) * 28)
  else if firstSyllable ≤ a && a < firstSyllable + 19 * 21 * 28 && (a - firstSyllable) % 28 = 0 &&
      beforeTails < b && b < beforeTails + 28 then
    some (a + (b - beforeTails))
  else none

end Syllables

/-- The two characters that a character is composed of. -/
def split? (n : Nat) : Option (Nat × Nat) :=
  (splitSyllable? n).or
    ((composites.find? fun c => c.whole = n).map fun c => (c.first, c.second))

/-- The character that two characters compose. -/
def join? (a b : Nat) : Option Nat :=
  (joinSyllable? a b).or
    ((composites.find? fun c => c.first = a && c.second = b).map Composite.whole)

/-- The image of a character in a run. -/
def Run.image? (run : Run) (n : Nat) : Option Nat :=
  if run.first ≤ n && n < run.first + run.count then some (run.image + (n - run.first) * run.step)
  else none

/-- The ideograph that another one stands for. -/
def ideograph? (n : Nat) : Option Nat :=
  ideographs.findSome? fun (first, images) =>
    if n < first then none else images.toList[n - first]?.map Char.toNat

/-- What a character stands for, if it is not composed of two. -/
def image? (n : Nat) : Option (List Nat) :=
  ((runs.findSome? fun run => run.image? n).map fun m => [m]).or
    (((ideograph? n).map fun m => [m]).or
      ((ligatures.find? fun l => l.whole = n).map Ligature.parts))

/-- What a character stands for in the end. A composed character is taken apart from its end, at
most four times. -/
def decompose : Nat → Nat → List Nat
  | 0, n => [n]
  | fuel + 1, n =>
    match split? n with
    | some (first, second) => decompose fuel first ++ [second]
    | none => (image? n).getD [n]

/-- The combining class of a character, which is zero for what is no mark. -/
def weight (n : Nat) : Nat :=
  match marks.find? fun m => m.first ≤ n && n ≤ m.last with
  | some m => m.weight
  | none => 0

/-- A character comes after others, the last one first: a mark goes before marks of higher classes. -/
def insert (n : Nat) : List Nat → List Nat
  | [] => [n]
  | m :: before =>
    if weight n ≠ 0 && weight n < weight m then m :: insert n before else n :: m :: before

/-- Characters with their marks in the order of their classes. -/
def reorder (ns : List Nat) : List Nat := (ns.foldl (fun before n => insert n before) []).reverse

/-- Characters with every mark composed with the character that it belongs to, unless something of
at least its class stands between them. `marked` are the marks of the open character so far, the
last one first. -/
def composeAfter (character : Nat) (marked : List Nat) : List Nat → List Nat
  | [] => character :: marked.reverse
  | n :: rest =>
    let isBlocked : Bool := match marked with | m :: _ => weight n ≤ weight m | [] => false
    match if isBlocked then none else join? character n with
    | some whole => composeAfter whole marked rest
    | none =>
      if weight n = 0 then character :: marked.reverse ++ composeAfter n [] rest
      else composeAfter character (n :: marked) rest

/-- Characters with all marks composed. What stands before the first character that is no mark stays. -/
def compose : List Nat → List Nat
  | [] => []
  | n :: rest => if weight n = 0 then composeAfter n [] rest else n :: compose rest

/-- The normal form of a name. -/
def ofName (name : String) : String :=
  if name.toList.all fun c => c.toNat < 128 then name
  else
    let parts := name.toList.flatMap fun c => decompose 4 c.toNat
    String.ofList ((compose (reorder parts)).map Char.ofNat)

end ChartScript.Text.NormalForm
