import Residency.Number.Digit
import Residency.Text.CellWidth

/-!
Characters of names, by the properties of Unicode 14. A name begins with a letter or a low line and
goes on with letters, digits, marks and low lines; of the characters that print, the others are
symbols and punctuation.
-/
namespace Residency.Text

def symbolChanges : List Nat :=
  [161, 170, 171, 181, 182, 183, 184, 186, 187, 192, 215, 216, 247, 248, 706, 710, 722, 736, 741,
   748, 749, 750, 751, 768, 885, 886, 890, 891, 894, 895, 900, 902, 1014, 1015, 1154, 1155, 1160,
   1162, 1370, 1376, 1417, 1424, 1470, 1471, 1472, 1473, 1475, 1476, 1478, 1479, 1523, 1552, 1563,
   1568, 1642, 1646, 1748, 1749, 1758, 1759, 1769, 1770, 1789, 1791, 1792, 1806, 2038, 2042, 2046,
   2048, 2096, 2111, 2142, 2143, 2184, 2185, 2404, 2406, 2416, 2417, 2546, 2556, 2557, 2558, 2678,
   2679, 2800, 2802, 2928, 2929, 2930, 2936, 3056, 3067, 3191, 3200, 3204, 3205, 3407, 3408, 3416,
   3423, 3440, 3450, 3572, 3573, 3647, 3648, 3663, 3664, 3674, 3676, 3841, 3864, 3866, 3872, 3882,
   3893, 3894, 3895, 3896, 3897, 3898, 3902, 3973, 3974, 4030, 4038, 4039, 4059, 4170, 4176, 4254,
   4256, 4347, 4348, 4960, 4969, 4978, 4989, 5008, 5018, 5120, 5121, 5741, 5743, 5787, 5789, 5867,
   5870, 5941, 5943, 6100, 6103, 6104, 6108, 6128, 6155, 6464, 6470, 6622, 6656, 6686, 6688, 6816,
   6823, 6824, 6830, 6846, 6847, 7002, 7019, 7028, 7039, 7164, 7168, 7227, 7232, 7294, 7296, 7360,
   7368, 7379, 7380, 8125, 8126, 8127, 8130, 8141, 8144, 8157, 8160, 8173, 8176, 8189, 8255, 8257,
   8276, 8277, 8305, 8308, 8319, 8320, 8335, 8352, 8385, 8413, 8417, 8418, 8421, 8448, 8450, 8451,
   8455, 8456, 8458, 8468, 8469, 8470, 8472, 8478, 8484, 8485, 8486, 8487, 8488, 8489, 8490, 8506,
   8508, 8512, 8517, 8522, 8526, 8527, 8544, 8585, 11264, 11493, 11499, 11513, 11520, 11632, 11633,
   11776, 12293, 12296, 12321, 12336, 12337, 12342, 12344, 12349, 12352, 12443, 12445, 12448, 12449,
   12539, 12540, 12688, 12704, 12736, 12772, 12800, 13312, 19904, 19968, 42128, 42183, 42238, 42240,
   42509, 42512, 42608, 42612, 42622, 42623, 42738, 42775, 42784, 42786, 42889, 42891, 43048, 43052,
   43056, 43066, 43124, 43128, 43214, 43216, 43256, 43259, 43260, 43261, 43310, 43312, 43359, 43360,
   43457, 43470, 43486, 43488, 43612, 43616, 43639, 43642, 43742, 43744, 43760, 43762, 43867, 43868,
   43882, 43884, 44011, 44012, 64297, 64298, 64434, 64451, 64606, 64612, 64830, 64848, 64975, 64976,
   65018, 65024, 65040, 65050, 65072, 65075, 65077, 65101, 65104, 65137, 65138, 65139, 65140, 65143,
   65144, 65145, 65146, 65147, 65148, 65149, 65150, 65151, 65281, 65296, 65306, 65313, 65339, 65343,
   65344, 65345, 65371, 65382, 65504, 65534, 65792, 65856, 65909, 66045, 66273, 66300, 66336, 66340,
   66463, 66464, 66512, 66513, 66927, 66928, 67671, 67680, 67703, 67712, 67751, 67760, 67835, 67840,
   67862, 67872, 67903, 67904, 68028, 68030, 68032, 68096, 68160, 68185, 68221, 68224, 68253, 68256,
   68296, 68297, 68331, 68343, 68409, 68416, 68440, 68448, 68472, 68480, 68505, 68528, 68858, 68864,
   69216, 69247, 69293, 69294, 69405, 69415, 69457, 69466, 69510, 69514, 69573, 69580, 69703, 69734,
   69819, 69826, 69952, 69956, 70004, 70006, 70085, 70089, 70093, 70094, 70107, 70108, 70109, 70133,
   70200, 70206, 70313, 70314, 70731, 70736, 70746, 70750, 70854, 70855, 71105, 71128, 71233, 71236,
   71264, 71277, 71353, 71354, 71482, 71488, 71739, 71740, 71914, 71923, 72004, 72007, 72162, 72163,
   72255, 72263, 72346, 72349, 72350, 72355, 72769, 72774, 72794, 72818, 73463, 73465, 73664, 73728,
   74864, 74869, 77809, 77811, 92782, 92784, 92917, 92918, 92983, 92992, 92996, 92998, 93019, 93026,
   93824, 93851, 94178, 94179, 113820, 113821, 113823, 113824, 118608, 119141, 119146, 119149,
   119171, 119173, 119180, 119210, 119214, 119362, 119365, 119673, 120513, 120514, 120539, 120540,
   120571, 120572, 120597, 120598, 120629, 120630, 120655, 120656, 120687, 120688, 120713, 120714,
   120745, 120746, 120771, 120772, 120832, 121344, 121399, 121403, 121453, 121461, 121462, 121476,
   121477, 121484, 123215, 123216, 123647, 123648, 125127, 125136, 125278, 126270, 126704, 129995]

def continuesName (c : Char) : Bool :=
  if c.toNat < 0x80 then c.isAlphanum || c = '_'
  else isPrintable c && !isInRun symbolChanges c.toNat

def beginsName (c : Char) : Bool :=
  continuesName c && !Number.isDigit c && !isInRun combiningChanges c.toNat

end Residency.Text
