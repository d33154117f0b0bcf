import Sitemaps.Unicode.Ranges

/-!
The mapping of domain names: which characters stay, which vanish, and what the others become before
canonical composition. Those that no table holds may not stand in a domain name.
-/

namespace Sitemaps.Unicode

inductive Fate
  | stays
  | vanishes
  | becomes (text : List Char)
  | refused

set_option maxRecDepth 20000 in
def stayingRanges : Ranges := Ranges.ofPairs [
  (0x0, 0x40), (0x5B, 0x7F), (0xA1, 0xA7), (0xA9, 0xA9), (0xAB, 0xAC), (0xAE, 0xAE), (0xB0, 0xB1),
  (0xB6, 0xB7), (0xBB, 0xBB), (0xBF, 0xBF), (0xD7, 0xD7), (0xDF, 0xFF), (0x131, 0x131),
  (0x135, 0x135), (0x137, 0x138), (0x180, 0x180), (0x183, 0x183), (0x185, 0x185), (0x188, 0x188),
  (0x18C, 0x18D), (0x192, 0x192), (0x195, 0x195), (0x199, 0x19B), (0x19E, 0x19E), (0x1A8, 0x1A8),
  (0x1AA, 0x1AB), (0x1AD, 0x1AD), (0x1B0, 0x1B0), (0x1B4, 0x1B4), (0x1B6, 0x1B6), (0x1B9, 0x1BB),
  (0x1BD, 0x1C3), (0x1DD, 0x1DD), (0x1F0, 0x1F0), (0x1F5, 0x1F5), (0x221, 0x221), (0x234, 0x239),
  (0x23C, 0x23C), (0x23F, 0x240), (0x242, 0x242), (0x250, 0x2AF), (0x2B9, 0x2D7), (0x2DE, 0x2DF),
  (0x2E5, 0x344), (0x346, 0x34E), (0x350, 0x36F), (0x371, 0x371), (0x373, 0x375), (0x377, 0x377),
  (0x37B, 0x37E), (0x387, 0x387), (0x390, 0x390), (0x3AC, 0x3CE), (0x3D7, 0x3D7), (0x3F3, 0x3F3),
  (0x3F6, 0x3F6), (0x3F8, 0x3F8), (0x3FB, 0x3FC), (0x430, 0x45F), (0x482, 0x489), (0x4CF, 0x4CF),
  (0x559, 0x586), (0x588, 0x58A), (0x58D, 0x58F), (0x591, 0x5C7), (0x5D0, 0x5EA), (0x5EF, 0x5F4),
  (0x606, 0x61B), (0x61D, 0x674), (0x679, 0x6DC), (0x6DE, 0x70D), (0x710, 0x74A), (0x74D, 0x7B1),
  (0x7C0, 0x7FA), (0x7FD, 0x82D), (0x830, 0x83E), (0x840, 0x85B), (0x85E, 0x85E), (0x860, 0x86A),
  (0x870, 0x88F), (0x897, 0x8E1), (0x8E3, 0x983), (0x985, 0x98C), (0x98F, 0x990), (0x993, 0x9A8),
  (0x9AA, 0x9B0), (0x9B2, 0x9B2), (0x9B6, 0x9B9), (0x9BC, 0x9C4), (0x9C7, 0x9C8), (0x9CB, 0x9CE),
  (0x9D7, 0x9D7), (0x9DC, 0x9DD), (0x9DF, 0x9E3), (0x9E6, 0x9FE), (0xA01, 0xA03), (0xA05, 0xA0A),
  (0xA0F, 0xA10), (0xA13, 0xA28), (0xA2A, 0xA30), (0xA32, 0xA33), (0xA35, 0xA36), (0xA38, 0xA39),
  (0xA3C, 0xA3C), (0xA3E, 0xA42), (0xA47, 0xA48), (0xA4B, 0xA4D), (0xA51, 0xA51), (0xA59, 0xA5C),
  (0xA5E, 0xA5E), (0xA66, 0xA76), (0xA81, 0xA83), (0xA85, 0xA8D), (0xA8F, 0xA91), (0xA93, 0xAA8),
  (0xAAA, 0xAB0), (0xAB2, 0xAB3), (0xAB5, 0xAB9), (0xABC, 0xAC5), (0xAC7, 0xAC9), (0xACB, 0xACD),
  (0xAD0, 0xAD0), (0xAE0, 0xAE3), (0xAE6, 0xAF1), (0xAF9, 0xAFF), (0xB01, 0xB03), (0xB05, 0xB0C),
  (0xB0F, 0xB10), (0xB13, 0xB28), (0xB2A, 0xB30), (0xB32, 0xB33), (0xB35, 0xB39), (0xB3C, 0xB44),
  (0xB47, 0xB48), (0xB4B, 0xB4D), (0xB55, 0xB57), (0xB5C, 0xB5D), (0xB5F, 0xB63), (0xB66, 0xB77),
  (0xB82, 0xB83), (0xB85, 0xB8A), (0xB8E, 0xB90), (0xB92, 0xB95), (0xB99, 0xB9A), (0xB9C, 0xB9C),
  (0xB9E, 0xB9F), (0xBA3, 0xBA4), (0xBA8, 0xBAA), (0xBAE, 0xBB9), (0xBBE, 0xBC2), (0xBC6, 0xBC8),
  (0xBCA, 0xBCD), (0xBD0, 0xBD0), (0xBD7, 0xBD7), (0xBE6, 0xBFA), (0xC00, 0xC0C), (0xC0E, 0xC10),
  (0xC12, 0xC28), (0xC2A, 0xC39), (0xC3C, 0xC44), (0xC46, 0xC48), (0xC4A, 0xC4D), (0xC55, 0xC56),
  (0xC58, 0xC5A), (0xC5C, 0xC5D), (0xC60, 0xC63), (0xC66, 0xC6F), (0xC77, 0xC8C), (0xC8E, 0xC90),
  (0xC92, 0xCA8), (0xCAA, 0xCB3), (0xCB5, 0xCB9), (0xCBC, 0xCC4), (0xCC6, 0xCC8), (0xCCA, 0xCCD),
  (0xCD5, 0xCD6), (0xCDC, 0xCDE), (0xCE0, 0xCE3), (0xCE6, 0xCEF), (0xCF1, 0xCF3), (0xD00, 0xD0C),
  (0xD0E, 0xD10), (0xD12, 0xD44), (0xD46, 0xD48), (0xD4A, 0xD4F), (0xD54, 0xD63), (0xD66, 0xD7F),
  (0xD81, 0xD83), (0xD85, 0xD96), (0xD9A, 0xDB1), (0xDB3, 0xDBB), (0xDBD, 0xDBD), (0xDC0, 0xDC6),
  (0xDCA, 0xDCA), (0xDCF, 0xDD4), (0xDD6, 0xDD6), (0xDD8, 0xDDF), (0xDE6, 0xDEF), (0xDF2, 0xDF4),
  (0xE01, 0xE32), (0xE34, 0xE3A), (0xE3F, 0xE5B), (0xE81, 0xE82), (0xE84, 0xE84), (0xE86, 0xE8A),
  (0xE8C, 0xEA3), (0xEA5, 0xEA5), (0xEA7, 0xEB2), (0xEB4, 0xEBD), (0xEC0, 0xEC4), (0xEC6, 0xEC6),
  (0xEC8, 0xECE), (0xED0, 0xED9), (0xEDE, 0xEDF), (0xF00, 0xF0B), (0xF0D, 0xF47), (0xF49, 0xF6C),
  (0xF71, 0xF76), (0xF78, 0xF78), (0xF7A, 0xF97), (0xF99, 0xFBC), (0xFBE, 0xFCC), (0xFCE, 0xFDA),
  (0x1000, 0x109F), (0x10D0, 0x10FB), (0x10FD, 0x115E), (0x1161, 0x1248), (0x124A, 0x124D),
  (0x1250, 0x1256), (0x1258, 0x1258), (0x125A, 0x125D), (0x1260, 0x1288), (0x128A, 0x128D),
  (0x1290, 0x12B0), (0x12B2, 0x12B5), (0x12B8, 0x12BE), (0x12C0, 0x12C0), (0x12C2, 0x12C5),
  (0x12C8, 0x12D6), (0x12D8, 0x1310), (0x1312, 0x1315), (0x1318, 0x135A), (0x135D, 0x137C),
  (0x1380, 0x1399), (0x13A0, 0x13F5), (0x1400, 0x167F), (0x1681, 0x169C), (0x16A0, 0x16F8),
  (0x1700, 0x1715), (0x171F, 0x1736), (0x1740, 0x1753), (0x1760, 0x176C), (0x176E, 0x1770),
  (0x1772, 0x1773), (0x1780, 0x17B3), (0x17B6, 0x17DD), (0x17E0, 0x17E9), (0x17F0, 0x17F9),
  (0x1800, 0x180A), (0x1810, 0x1819), (0x1820, 0x1878), (0x1880, 0x18AA), (0x18B0, 0x18F5),
  (0x1900, 0x191E), (0x1920, 0x192B), (0x1930, 0x193B), (0x1940, 0x1940), (0x1944, 0x196D),
  (0x1970, 0x1974), (0x1980, 0x19AB), (0x19B0, 0x19C9), (0x19D0, 0x19DA), (0x19DE, 0x1A1B),
  (0x1A1E, 0x1A5E), (0x1A60, 0x1A7C), (0x1A7F, 0x1A89), (0x1A90, 0x1A99), (0x1AA0, 0x1AAD),
  (0x1AB0, 0x1ADD), (0x1AE0, 0x1AEB), (0x1B00, 0x1B4C), (0x1B4E, 0x1BF3), (0x1BFC, 0x1C37),
  (0x1C3B, 0x1C49), (0x1C4D, 0x1C7F), (0x1C8A, 0x1C8A), (0x1CC0, 0x1CC7), (0x1CD0, 0x1CFA),
  (0x1D00, 0x1D2B), (0x1D2F, 0x1D2F), (0x1D3B, 0x1D3B), (0x1D4E, 0x1D4E), (0x1D6B, 0x1D77),
  (0x1D79, 0x1D9A), (0x1DC0, 0x1DFF), (0x1E96, 0x1E99), (0x1E9C, 0x1E9D), (0x1E9F, 0x1E9F),
  (0x1F00, 0x1F07), (0x1F10, 0x1F15), (0x1F20, 0x1F27), (0x1F30, 0x1F37), (0x1F40, 0x1F45),
  (0x1F50, 0x1F57), (0x1F60, 0x1F67), (0x1F70, 0x1F7D), (0x1FB0, 0x1FB1), (0x1FB6, 0x1FB6),
  (0x1FBE, 0x1FBE), (0x1FC6, 0x1FC6), (0x1FD0, 0x1FD3), (0x1FD6, 0x1FD7), (0x1FE0, 0x1FE7),
  (0x1FEF, 0x1FEF), (0x1FF6, 0x1FF6), (0x200C, 0x200D), (0x2010, 0x2010), (0x2012, 0x2016),
  (0x2018, 0x2023), (0x2027, 0x2027), (0x2030, 0x2032), (0x2035, 0x2035), (0x2038, 0x203B),
  (0x203D, 0x203D), (0x203F, 0x2046), (0x204A, 0x2056), (0x2058, 0x205E), (0x20A0, 0x20A7),
  (0x20A9, 0x20C1), (0x20D0, 0x20F0), (0x2104, 0x2104), (0x2108, 0x2108), (0x2114, 0x2114),
  (0x2117, 0x2118), (0x211E, 0x211F), (0x2123, 0x2123), (0x2125, 0x2125), (0x2127, 0x2127),
  (0x2129, 0x2129), (0x212E, 0x212E), (0x213A, 0x213A), (0x2141, 0x2144), (0x214A, 0x214F),
  (0x2180, 0x2182), (0x2184, 0x2188), (0x218A, 0x218B), (0x2190, 0x222B), (0x222E, 0x222E),
  (0x2231, 0x2429), (0x2440, 0x244A), (0x24EB, 0x2A0B), (0x2A0D, 0x2A73), (0x2A77, 0x2B73),
  (0x2B76, 0x2BFF), (0x2C30, 0x2C5F), (0x2C61, 0x2C61), (0x2C65, 0x2C66), (0x2C71, 0x2C71),
  (0x2C73, 0x2C74), (0x2C76, 0x2C7B), (0x2CE4, 0x2CEA), (0x2CEC, 0x2CEC), (0x2CEE, 0x2CF1),
  (0x2CF3, 0x2CF3), (0x2CF9, 0x2D25), (0x2D27, 0x2D27), (0x2D2D, 0x2D2D), (0x2D30, 0x2D67),
  (0x2D70, 0x2D70), (0x2D7F, 0x2D96), (0x2DA0, 0x2DA6), (0x2DA8, 0x2DAE), (0x2DB0, 0x2DB6),
  (0x2DB8, 0x2DBE), (0x2DC0, 0x2DC6), (0x2DC8, 0x2DCE), (0x2DD0, 0x2DD6), (0x2DD8, 0x2DDE),
  (0x2DE0, 0x2E5D), (0x2E80, 0x2E99), (0x2E9B, 0x2E9E), (0x2EA0, 0x2EF2), (0x3001, 0x3001),
  (0x3003, 0x3035), (0x3037, 0x3037), (0x303B, 0x303F), (0x3041, 0x3096), (0x3099, 0x309A),
  (0x309D, 0x309E), (0x30A0, 0x30FE), (0x3105, 0x312F), (0x3190, 0x3191), (0x31A0, 0x31E5),
  (0x31F0, 0x31FF), (0x3248, 0x324F), (0x327F, 0x327F), (0x3400, 0xA48C), (0xA490, 0xA4C6),
  (0xA4D0, 0xA62B), (0xA66E, 0xA67F), (0xA69E, 0xA6F7), (0xA700, 0xA721), (0xA730, 0xA731),
  (0xA771, 0xA778), (0xA77A, 0xA77A), (0xA77C, 0xA77C), (0xA788, 0xA78A), (0xA78C, 0xA78C),
  (0xA78E, 0xA78F), (0xA791, 0xA791), (0xA793, 0xA795), (0xA7AF, 0xA7AF), (0xA7C8, 0xA7C8),
  (0xA7CA, 0xA7CA), (0xA7F6, 0xA7F7), (0xA7FA, 0xA82C), (0xA830, 0xA839), (0xA840, 0xA877),
  (0xA880, 0xA8C5), (0xA8CE, 0xA8D9), (0xA8E0, 0xA953), (0xA95F, 0xA97C), (0xA980, 0xA9CD),
  (0xA9CF, 0xA9D9), (0xA9DE, 0xA9FE), (0xAA00, 0xAA36), (0xAA40, 0xAA4D), (0xAA50, 0xAA59),
  (0xAA5C, 0xAAC2), (0xAADB, 0xAAF6), (0xAB01, 0xAB06), (0xAB09, 0xAB0E), (0xAB11, 0xAB16),
  (0xAB20, 0xAB26), (0xAB28, 0xAB2E), (0xAB30, 0xAB5B), (0xAB60, 0xAB68), (0xAB6A, 0xAB6B),
  (0xABC0, 0xABED), (0xABF0, 0xABF9), (0xAC00, 0xD7A3), (0xD7B0, 0xD7C6), (0xD7CB, 0xD7FB),
  (0xF900, 0xFA6D), (0xFA70, 0xFAD9), (0xFB1D, 0xFB1F), (0xFB2A, 0xFB36), (0xFB38, 0xFB3C),
  (0xFB3E, 0xFB3E), (0xFB40, 0xFB41), (0xFB43, 0xFB44), (0xFB46, 0xFB4E), (0xFBB2, 0xFBD2),
  (0xFD3E, 0xFD4F), (0xFD90, 0xFD91), (0xFDC8, 0xFDCF), (0xFDFD, 0xFDFF), (0xFE20, 0xFE2F),
  (0xFE45, 0xFE46), (0xFE73, 0xFE73), (0x10000, 0x1000B), (0x1000D, 0x10026), (0x10028, 0x1003A),
  (0x1003C, 0x1003D), (0x1003F, 0x1004D), (0x10050, 0x1005D), (0x10080, 0x100FA),
  (0x10100, 0x10102), (0x10107, 0x10133), (0x10137, 0x1018E), (0x10190, 0x1019C),
  (0x101A0, 0x101A0), (0x101D0, 0x101FD), (0x10280, 0x1029C), (0x102A0, 0x102D0),
  (0x102E0, 0x102FB), (0x10300, 0x10323), (0x1032D, 0x1034A), (0x10350, 0x1037A),
  (0x10380, 0x1039D), (0x1039F, 0x103C3), (0x103C8, 0x103D5), (0x10428, 0x1049D),
  (0x104A0, 0x104A9), (0x104D8, 0x104FB), (0x10500, 0x10527), (0x10530, 0x10563),
  (0x1056F, 0x1056F), (0x10597, 0x105A1), (0x105A3, 0x105B1), (0x105B3, 0x105B9),
  (0x105BB, 0x105BC), (0x105C0, 0x105F3), (0x10600, 0x10736), (0x10740, 0x10755),
  (0x10760, 0x10767), (0x10780, 0x10780), (0x10800, 0x10805), (0x10808, 0x10808),
  (0x1080A, 0x10835), (0x10837, 0x10838), (0x1083C, 0x1083C), (0x1083F, 0x10855),
  (0x10857, 0x1089E), (0x108A7, 0x108AF), (0x108E0, 0x108F2), (0x108F4, 0x108F5),
  (0x108FB, 0x1091B), (0x1091F, 0x10939), (0x1093F, 0x10959), (0x10980, 0x109B7),
  (0x109BC, 0x109CF), (0x109D2, 0x10A03), (0x10A05, 0x10A06), (0x10A0C, 0x10A13),
  (0x10A15, 0x10A17), (0x10A19, 0x10A35), (0x10A38, 0x10A3A), (0x10A3F, 0x10A48),
  (0x10A50, 0x10A58), (0x10A60, 0x10A9F), (0x10AC0, 0x10AE6), (0x10AEB, 0x10AF6),
  (0x10B00, 0x10B35), (0x10B39, 0x10B55), (0x10B58, 0x10B72), (0x10B78, 0x10B91),
  (0x10B99, 0x10B9C), (0x10BA9, 0x10BAF), (0x10C00, 0x10C48), (0x10CC0, 0x10CF2),
  (0x10CFA, 0x10D27), (0x10D30, 0x10D39), (0x10D40, 0x10D4F), (0x10D69, 0x10D85),
  (0x10D8E, 0x10D8F), (0x10E60, 0x10E7E), (0x10E80, 0x10EA9), (0x10EAB, 0x10EAD),
  (0x10EB0, 0x10EB1), (0x10EC2, 0x10EC7), (0x10ED0, 0x10ED8), (0x10EFA, 0x10F27),
  (0x10F30, 0x10F59), (0x10F70, 0x10F89), (0x10FB0, 0x10FCB), (0x10FE0, 0x10FF6),
  (0x11000, 0x1104D), (0x11052, 0x11075), (0x1107F, 0x110BC), (0x110BE, 0x110C2),
  (0x110D0, 0x110E8), (0x110F0, 0x110F9), (0x11100, 0x11134), (0x11136, 0x11147),
  (0x11150, 0x11176), (0x11180, 0x111DF), (0x111E1, 0x111F4), (0x11200, 0x11211),
  (0x11213, 0x11241), (0x11280, 0x11286), (0x11288, 0x11288), (0x1128A, 0x1128D),
  (0x1128F, 0x1129D), (0x1129F, 0x112A9), (0x112B0, 0x112EA), (0x112F0, 0x112F9),
  (0x11300, 0x11303), (0x11305, 0x1130C), (0x1130F, 0x11310), (0x11313, 0x11328),
  (0x1132A, 0x11330), (0x11332, 0x11333), (0x11335, 0x11339), (0x1133B, 0x11344),
  (0x11347, 0x11348), (0x1134B, 0x1134D), (0x11350, 0x11350), (0x11357, 0x11357),
  (0x1135D, 0x11363), (0x11366, 0x1136C), (0x11370, 0x11374), (0x11380, 0x11389),
  (0x1138B, 0x1138B), (0x1138E, 0x1138E), (0x11390, 0x113B5), (0x113B7, 0x113C0),
  (0x113C2, 0x113C2), (0x113C5, 0x113C5), (0x113C7, 0x113CA), (0x113CC, 0x113D5),
  (0x113D7, 0x113D8), (0x113E1, 0x113E2), (0x11400, 0x1145B), (0x1145D, 0x11461),
  (0x11480, 0x114C7), (0x114D0, 0x114D9), (0x11580, 0x115B5), (0x115B8, 0x115DD),
  (0x11600, 0x11644), (0x11650, 0x11659), (0x11660, 0x1166C), (0x11680, 0x116B9),
  (0x116C0, 0x116C9), (0x116D0, 0x116E3), (0x11700, 0x1171A), (0x1171D, 0x1172B),
  (0x11730, 0x11746), (0x11800, 0x1183B), (0x118C0, 0x118F2), (0x118FF, 0x11906),
  (0x11909, 0x11909), (0x1190C, 0x11913), (0x11915, 0x11916), (0x11918, 0x11935),
  (0x11937, 0x11938), (0x1193B, 0x11946), (0x11950, 0x11959), (0x119A0, 0x119A7),
  (0x119AA, 0x119D7), (0x119DA, 0x119E4), (0x11A00, 0x11A47), (0x11A50, 0x11AA2),
  (0x11AB0, 0x11AF8), (0x11B00, 0x11B09), (0x11B60, 0x11B67), (0x11BC0, 0x11BE1),
  (0x11BF0, 0x11BF9), (0x11C00, 0x11C08), (0x11C0A, 0x11C36), (0x11C38, 0x11C45),
  (0x11C50, 0x11C6C), (0x11C70, 0x11C8F), (0x11C92, 0x11CA7), (0x11CA9, 0x11CB6),
  (0x11D00, 0x11D06), (0x11D08, 0x11D09), (0x11D0B, 0x11D36), (0x11D3A, 0x11D3A),
  (0x11D3C, 0x11D3D), (0x11D3F, 0x11D47), (0x11D50, 0x11D59), (0x11D60, 0x11D65),
  (0x11D67, 0x11D68), (0x11D6A, 0x11D8E), (0x11D90, 0x11D91), (0x11D93, 0x11D98),
  (0x11DA0, 0x11DA9), (0x11DB0, 0x11DDB), (0x11DE0, 0x11DE9), (0x11EE0, 0x11EF8),
  (0x11F00, 0x11F10), (0x11F12, 0x11F3A), (0x11F3E, 0x11F5A), (0x11FB0, 0x11FB0),
  (0x11FC0, 0x11FF1), (0x11FFF, 0x12399), (0x12400, 0x1246E), (0x12470, 0x12474),
  (0x12480, 0x12543), (0x12F90, 0x12FF2), (0x13000, 0x1342F), (0x13440, 0x13455),
  (0x13460, 0x143FA), (0x14400, 0x14646), (0x16100, 0x16139), (0x16800, 0x16A38),
  (0x16A40, 0x16A5E), (0x16A60, 0x16A69), (0x16A6E, 0x16ABE), (0x16AC0, 0x16AC9),
  (0x16AD0, 0x16AED), (0x16AF0, 0x16AF5), (0x16B00, 0x16B45), (0x16B50, 0x16B59),
  (0x16B5B, 0x16B61), (0x16B63, 0x16B77), (0x16B7D, 0x16B8F), (0x16D40, 0x16D79),
  (0x16E60, 0x16E9A), (0x16EBB, 0x16ED3), (0x16F00, 0x16F4A), (0x16F4F, 0x16F87),
  (0x16F8F, 0x16F9F), (0x16FE0, 0x16FE4), (0x16FF0, 0x16FF6), (0x17000, 0x18CD5),
  (0x18CFF, 0x18D1E), (0x18D80, 0x18DF2), (0x1AFF0, 0x1AFF3), (0x1AFF5, 0x1AFFB),
  (0x1AFFD, 0x1AFFE), (0x1B000, 0x1B122), (0x1B132, 0x1B132), (0x1B150, 0x1B152),
  (0x1B155, 0x1B155), (0x1B164, 0x1B167), (0x1B170, 0x1B2FB), (0x1BC00, 0x1BC6A),
  (0x1BC70, 0x1BC7C), (0x1BC80, 0x1BC88), (0x1BC90, 0x1BC99), (0x1BC9C, 0x1BC9F),
  (0x1CC00, 0x1CCD5), (0x1CCFA, 0x1CCFC), (0x1CD00, 0x1CEB3), (0x1CEBA, 0x1CED0),
  (0x1CEE0, 0x1CEF0), (0x1CF00, 0x1CF2D), (0x1CF30, 0x1CF46), (0x1CF50, 0x1CFC3),
  (0x1D000, 0x1D0F5), (0x1D100, 0x1D126), (0x1D129, 0x1D172), (0x1D17B, 0x1D1EA),
  (0x1D200, 0x1D245), (0x1D2C0, 0x1D2D3), (0x1D2E0, 0x1D2F3), (0x1D300, 0x1D356),
  (0x1D360, 0x1D378), (0x1D800, 0x1DA8B), (0x1DA9B, 0x1DA9F), (0x1DAA1, 0x1DAAF),
  (0x1DF00, 0x1DF1E), (0x1DF25, 0x1DF2A), (0x1E000, 0x1E006), (0x1E008, 0x1E018),
  (0x1E01B, 0x1E021), (0x1E023, 0x1E024), (0x1E026, 0x1E02A), (0x1E08F, 0x1E08F),
  (0x1E100, 0x1E12C), (0x1E130, 0x1E13D), (0x1E140, 0x1E149), (0x1E14E, 0x1E14F),
  (0x1E290, 0x1E2AE), (0x1E2C0, 0x1E2F9), (0x1E2FF, 0x1E2FF), (0x1E4D0, 0x1E4F9),
  (0x1E5D0, 0x1E5FA), (0x1E5FF, 0x1E5FF), (0x1E6C0, 0x1E6DE), (0x1E6E0, 0x1E6F5),
  (0x1E6FE, 0x1E6FF), (0x1E7E0, 0x1E7E6), (0x1E7E8, 0x1E7EB), (0x1E7ED, 0x1E7EE),
  (0x1E7F0, 0x1E7FE), (0x1E800, 0x1E8C4), (0x1E8C7, 0x1E8D6), (0x1E922, 0x1E94B),
  (0x1E950, 0x1E959), (0x1E95E, 0x1E95F), (0x1EC71, 0x1ECB4), (0x1ED01, 0x1ED3D),
  (0x1EEF0, 0x1EEF1), (0x1F000, 0x1F02B), (0x1F030, 0x1F093), (0x1F0A0, 0x1F0AE),
  (0x1F0B1, 0x1F0BF), (0x1F0C1, 0x1F0CF), (0x1F0D1, 0x1F0F5), (0x1F10B, 0x1F10F),
  (0x1F12F, 0x1F12F), (0x1F150, 0x1F169), (0x1F16D, 0x1F18F), (0x1F191, 0x1F1AD),
  (0x1F1E6, 0x1F1FF), (0x1F260, 0x1F265), (0x1F300, 0x1F6D8), (0x1F6DC, 0x1F6EC),
  (0x1F6F0, 0x1F6FC), (0x1F700, 0x1F7D9), (0x1F7E0, 0x1F7EB), (0x1F7F0, 0x1F7F0),
  (0x1F800, 0x1F80B), (0x1F810, 0x1F847), (0x1F850, 0x1F859), (0x1F860, 0x1F887),
  (0x1F890, 0x1F8AD), (0x1F8B0, 0x1F8BB), (0x1F8C0, 0x1F8C1), (0x1F8D0, 0x1F8D8),
  (0x1F900, 0x1FA57), (0x1FA60, 0x1FA6D), (0x1FA70, 0x1FA7C), (0x1FA80, 0x1FA8A),
  (0x1FA8E, 0x1FAC6), (0x1FAC8, 0x1FAC8), (0x1FACD, 0x1FADC), (0x1FADF, 0x1FAEA),
  (0x1FAEF, 0x1FAF8), (0x1FB00, 0x1FB92), (0x1FB94, 0x1FBEF), (0x1FBFA, 0x1FBFA),
  (0x20000, 0x2A6DF), (0x2A700, 0x2B81D), (0x2B820, 0x2CEAD), (0x2CEB0, 0x2EBE0),
  (0x2EBF0, 0x2EE5D), (0x2F800, 0x2FA1D), (0x30000, 0x3134A), (0x31350, 0x33479)]

def vanishingRanges : Ranges := Ranges.ofPairs [
  (0xAD, 0xAD), (0x34F, 0x34F), (0x115F, 0x1160), (0x17B4, 0x17B5), (0x180B, 0x180F),
  (0x200B, 0x200B), (0x2060, 0x2064), (0x206A, 0x206F), (0x3164, 0x3164), (0xFE00, 0xFE0F),
  (0xFEFF, 0xFEFF), (0xFFA0, 0xFFA0), (0x1BCA0, 0x1BCA3), (0x1D173, 0x1D17A), (0xE0100, 0xE01EF)]

/-- Ranges in which every second character, the first among them, becomes its successor. -/
def alternatingRanges : Ranges := Ranges.ofPairs [
  (0x100, 0x12F), (0x139, 0x13E), (0x141, 0x148), (0x14A, 0x177), (0x179, 0x17E), (0x1A0, 0x1A5),
  (0x1CD, 0x1DC), (0x1DE, 0x1EF), (0x1F8, 0x21F), (0x222, 0x233), (0x246, 0x24F), (0x3D8, 0x3EF),
  (0x460, 0x481), (0x48A, 0x4BF), (0x4C1, 0x4CE), (0x4D0, 0x52F), (0x1E00, 0x1E95),
  (0x1EA0, 0x1EFF), (0x2C67, 0x2C6C), (0x2C80, 0x2CE3), (0xA640, 0xA66D), (0xA680, 0xA69B),
  (0xA722, 0xA72F), (0xA732, 0xA76F), (0xA77E, 0xA787), (0xA796, 0xA7A9), (0xA7B4, 0xA7C3),
  (0xA7CC, 0xA7DB)]

set_option maxRecDepth 20000 in
def movedRanges : Table Int := Table.ofMoves [
  (0x41, 0x5A, 0x20), (0xC0, 0xD6, 0x20), (0xD8, 0xDE, 0x20), (0x388, 0x38A, 0x25),
  (0x391, 0x3A1, 0x20), (0x3A3, 0x3AB, 0x20), (0x3FD, 0x3FF, -0x82), (0x400, 0x40F, 0x50),
  (0x410, 0x42F, 0x20), (0x531, 0x556, 0x30), (0x10A0, 0x10C5, 0x1C60), (0x13F8, 0x13FD, -0x8),
  (0x1C90, 0x1CBA, -0xBC0), (0x1CBD, 0x1CBF, -0xBC0), (0x1D33, 0x1D3A, -0x1CCC),
  (0x1D5D, 0x1D5F, -0x19AB), (0x1DA4, 0x1DA6, -0x1B3C), (0x1DAE, 0x1DB1, -0x1B3C),
  (0x1DBC, 0x1DBE, -0x1B2C), (0x1F08, 0x1F0F, -0x8), (0x1F18, 0x1F1D, -0x8), (0x1F28, 0x1F2F, -0x8),
  (0x1F38, 0x1F3F, -0x8), (0x1F48, 0x1F4D, -0x8), (0x1F68, 0x1F6F, -0x8), (0x2074, 0x2079, -0x2040),
  (0x2080, 0x2089, -0x2050), (0x2096, 0x2099, -0x202B), (0x2119, 0x211B, -0x20A9),
  (0x2135, 0x2138, -0x1B65), (0x2460, 0x2468, -0x242F), (0x24B6, 0x24CF, -0x2455),
  (0x24D0, 0x24E9, -0x246F), (0x2C00, 0x2C2F, 0x30), (0x3137, 0x3139, -0x2034),
  (0x313A, 0x313F, -0x1F8A), (0x3141, 0x3143, -0x203B), (0x3145, 0x314E, -0x203C),
  (0x314F, 0x3163, -0x1FEE), (0x3178, 0x317C, -0x204D), (0x3184, 0x3186, -0x202D),
  (0x3263, 0x3265, -0x215E), (0x3269, 0x326D, -0x215B), (0x32E4, 0x32E9, -0x21A),
  (0x32EE, 0x32F2, -0x210), (0x32F5, 0x32FA, -0x20D), (0x32FB, 0x32FE, -0x20C),
  (0xAB70, 0xABBF, -0x97D0), (0xFB24, 0xFB26, -0xF549), (0xFE41, 0xFE44, -0xCE35),
  (0xFF01, 0xFF20, -0xFEE0), (0xFF21, 0xFF3A, -0xFEC0), (0xFF3B, 0xFF5E, -0xFEE0),
  (0xFF85, 0xFF8A, -0xCEBB), (0xFF8F, 0xFF93, -0xCEB1), (0xFF96, 0xFF9B, -0xCEAE),
  (0xFFA7, 0xFFA9, -0xEEA4), (0xFFAA, 0xFFAF, -0xEDFA), (0xFFB1, 0xFFB3, -0xEEAB),
  (0xFFB5, 0xFFBE, -0xEEAC), (0xFFC2, 0xFFC7, -0xEE61), (0xFFCA, 0xFFCF, -0xEE63),
  (0xFFD2, 0xFFD7, -0xEE65), (0xFFDA, 0xFFDC, -0xEE67), (0xFFE9, 0xFFEC, -0xDE59),
  (0x10400, 0x10427, 0x28), (0x104B0, 0x104D3, 0x28), (0x10570, 0x1057A, 0x27),
  (0x1057C, 0x1058A, 0x27), (0x1058C, 0x10592, 0x27), (0x107B6, 0x107B8, -0x105F6),
  (0x10C80, 0x10CB2, 0x40), (0x10D50, 0x10D65, 0x20), (0x118A0, 0x118BF, 0x20),
  (0x16E40, 0x16E5F, 0x20), (0x16EA0, 0x16EB8, 0x1B), (0x1CCD6, 0x1CCEF, -0x1CC75),
  (0x1CCF0, 0x1CCF9, -0x1CCC0), (0x1D400, 0x1D419, -0x1D39F), (0x1D41A, 0x1D433, -0x1D3B9),
  (0x1D434, 0x1D44D, -0x1D3D3), (0x1D44E, 0x1D454, -0x1D3ED), (0x1D456, 0x1D467, -0x1D3ED),
  (0x1D468, 0x1D481, -0x1D407), (0x1D482, 0x1D49B, -0x1D421), (0x1D4A9, 0x1D4AC, -0x1D43B),
  (0x1D4AE, 0x1D4B5, -0x1D43B), (0x1D4B6, 0x1D4B9, -0x1D455), (0x1D4BD, 0x1D4C3, -0x1D455),
  (0x1D4C5, 0x1D4CF, -0x1D455), (0x1D4D0, 0x1D4E9, -0x1D46F), (0x1D4EA, 0x1D503, -0x1D489),
  (0x1D507, 0x1D50A, -0x1D4A3), (0x1D50D, 0x1D514, -0x1D4A3), (0x1D516, 0x1D51C, -0x1D4A3),
  (0x1D51E, 0x1D537, -0x1D4BD), (0x1D53B, 0x1D53E, -0x1D4D7), (0x1D540, 0x1D544, -0x1D4D7),
  (0x1D54A, 0x1D550, -0x1D4D7), (0x1D552, 0x1D56B, -0x1D4F1), (0x1D56C, 0x1D585, -0x1D50B),
  (0x1D586, 0x1D59F, -0x1D525), (0x1D5A0, 0x1D5B9, -0x1D53F), (0x1D5BA, 0x1D5D3, -0x1D559),
  (0x1D5D4, 0x1D5ED, -0x1D573), (0x1D5EE, 0x1D607, -0x1D58D), (0x1D608, 0x1D621, -0x1D5A7),
  (0x1D622, 0x1D63B, -0x1D5C1), (0x1D63C, 0x1D655, -0x1D5DB), (0x1D656, 0x1D66F, -0x1D5F5),
  (0x1D670, 0x1D689, -0x1D60F), (0x1D68A, 0x1D6A3, -0x1D629), (0x1D6A8, 0x1D6B8, -0x1D2F7),
  (0x1D6BA, 0x1D6C0, -0x1D2F7), (0x1D6C2, 0x1D6D2, -0x1D311), (0x1D6D4, 0x1D6DA, -0x1D311),
  (0x1D6E2, 0x1D6F2, -0x1D331), (0x1D6F4, 0x1D6FA, -0x1D331), (0x1D6FC, 0x1D70C, -0x1D34B),
  (0x1D70E, 0x1D714, -0x1D34B), (0x1D71C, 0x1D72C, -0x1D36B), (0x1D72E, 0x1D734, -0x1D36B),
  (0x1D736, 0x1D746, -0x1D385), (0x1D748, 0x1D74E, -0x1D385), (0x1D756, 0x1D766, -0x1D3A5),
  (0x1D768, 0x1D76E, -0x1D3A5), (0x1D770, 0x1D780, -0x1D3BF), (0x1D782, 0x1D788, -0x1D3BF),
  (0x1D790, 0x1D7A0, -0x1D3DF), (0x1D7A2, 0x1D7A8, -0x1D3DF), (0x1D7AA, 0x1D7BA, -0x1D3F9),
  (0x1D7BC, 0x1D7C2, -0x1D3F9), (0x1D7CE, 0x1D7D7, -0x1D79E), (0x1D7D8, 0x1D7E1, -0x1D7A8),
  (0x1D7E2, 0x1D7EB, -0x1D7B2), (0x1D7EC, 0x1D7F5, -0x1D7BC), (0x1D7F6, 0x1D7FF, -0x1D7C6),
  (0x1E030, 0x1E038, -0x1DC00), (0x1E039, 0x1E03B, -0x1DBFF), (0x1E03C, 0x1E046, -0x1DBFE),
  (0x1E051, 0x1E059, -0x1DC21), (0x1E05F, 0x1E064, -0x1DC1C), (0x1E900, 0x1E921, 0x22),
  (0x1EE0A, 0x1EE0D, -0x1E7C7), (0x1EE2A, 0x1EE2D, -0x1E7E7), (0x1EE8B, 0x1EE8D, -0x1E847),
  (0x1EEAB, 0x1EEAD, -0x1E867), (0x1F130, 0x1F149, -0x1F0CF), (0x1FBF0, 0x1FBF9, -0x1FBC0)]

set_option maxRecDepth 20000 in
def spelledTable : Table (Array (List Char)) := Table.ofSpellings [
  (0xA0, [[0x20]]), (0xA8, [[0x20, 0x308]]), (0xAA, [[0x61]]), (0xAF, [[0x20, 0x304]]), (0xB2,
  [[0x32], [0x33], [0x20, 0x301], [0x3BC]]), (0xB8, [[0x20, 0x327], [0x31], [0x6F]]), (0xBC,
  [[0x31, 0x2044, 0x34], [0x31, 0x2044, 0x32], [0x33, 0x2044, 0x34]]), (0x130, [[0x69, 0x307]]),
  (0x132, [[0x69, 0x6A], [0x69, 0x6A], [0x135]]), (0x136, [[0x137]]), (0x13F, [[0x6C, 0xB7],
  [0x6C, 0xB7]]), (0x149, [[0x2BC, 0x6E]]), (0x178, [[0xFF]]), (0x17F, [[0x73]]), (0x181, [[0x253],
  [0x183]]), (0x184, [[0x185]]), (0x186, [[0x254], [0x188]]), (0x189, [[0x256], [0x257], [0x18C]]),
  (0x18E, [[0x1DD], [0x259], [0x25B], [0x192]]), (0x193, [[0x260], [0x263]]), (0x196, [[0x269],
  [0x268], [0x199]]), (0x19C, [[0x26F], [0x272]]), (0x19F, [[0x275]]), (0x1A6, [[0x280], [0x1A8]]),
  (0x1A9, [[0x283]]), (0x1AC, [[0x1AD]]), (0x1AE, [[0x288], [0x1B0]]), (0x1B1, [[0x28A], [0x28B],
  [0x1B4]]), (0x1B5, [[0x1B6]]), (0x1B7, [[0x292], [0x1B9]]), (0x1BC, [[0x1BD]]), (0x1C4,
  [[0x64, 0x17E], [0x64, 0x17E], [0x64, 0x17E], [0x6C, 0x6A], [0x6C, 0x6A], [0x6C, 0x6A],
  [0x6E, 0x6A], [0x6E, 0x6A], [0x6E, 0x6A]]), (0x1F1, [[0x64, 0x7A], [0x64, 0x7A], [0x64, 0x7A],
  [0x1F5]]), (0x1F6, [[0x195], [0x1BF]]), (0x220, [[0x19E]]), (0x23A, [[0x2C65], [0x23C]]), (0x23D,
  [[0x19A], [0x2C66]]), (0x241, [[0x242]]), (0x243, [[0x180], [0x289], [0x28C]]), (0x2B0, [[0x68],
  [0x266], [0x6A], [0x72], [0x279], [0x27B], [0x281], [0x77], [0x79]]), (0x2D8, [[0x20, 0x306],
  [0x20, 0x307], [0x20, 0x30A], [0x20, 0x328], [0x20, 0x303], [0x20, 0x30B]]), (0x2E0, [[0x263],
  [0x6C], [0x73], [0x78], [0x295]]), (0x345, [[0x3B9]]), (0x370, [[0x371]]), (0x372, [[0x373]]),
  (0x376, [[0x377]]), (0x37A, [[0x20, 0x3B9]]), (0x37F, [[0x3F3]]), (0x384, [[0x20, 0x301],
  [0x20, 0x308, 0x301], [0x3AC]]), (0x38C, [[0x3CC]]), (0x38E, [[0x3CD], [0x3CE]]), (0x3CF,
  [[0x3D7], [0x3B2], [0x3B8], [0x3C5], [0x3CD], [0x3CB], [0x3C6], [0x3C0]]), (0x3F0, [[0x3BA],
  [0x3C1], [0x3C3]]), (0x3F4, [[0x3B8], [0x3B5]]), (0x3F7, [[0x3F8]]), (0x3F9, [[0x3C3], [0x3FB]]),
  (0x4C0, [[0x4CF]]), (0x587, [[0x565, 0x582]]), (0x675, [[0x627, 0x674], [0x648, 0x674],
  [0x6C7, 0x674], [0x64A, 0x674]]), (0xE33, [[0xE4D, 0xE32]]), (0xEB3, [[0xECD, 0xEB2]]), (0xEDC,
  [[0xEAB, 0xE99], [0xEAB, 0xEA1]]), (0xF0C, [[0xF0B]]), (0xF77, [[0xFB2, 0xF71, 0xF80]]), (0xF79,
  [[0xFB3, 0xF71, 0xF80]]), (0x10C7, [[0x2D27]]), (0x10CD, [[0x2D2D]]), (0x10FC, [[0x10DC]]),
  (0x1C80, [[0x432], [0x434], [0x43E], [0x441], [0x442], [0x442], [0x44A], [0x463], [0xA64B],
  [0x1C8A]]), (0x1D2C, [[0x61], [0xE6], [0x62]]), (0x1D30, [[0x64], [0x65], [0x1DD]]), (0x1D3C,
  [[0x6F], [0x223], [0x70], [0x72], [0x74], [0x75], [0x77], [0x61], [0x250], [0x251], [0x1D02],
  [0x62], [0x64], [0x65], [0x259], [0x25B], [0x25C], [0x67]]), (0x1D4F, [[0x6B], [0x6D], [0x14B],
  [0x6F], [0x254], [0x1D16], [0x1D17], [0x70], [0x74], [0x75], [0x1D1D], [0x26F], [0x76],
  [0x1D25]]), (0x1D60, [[0x3C6], [0x3C7], [0x69], [0x72], [0x75], [0x76], [0x3B2], [0x3B3], [0x3C1],
  [0x3C6], [0x3C7]]), (0x1D78, [[0x43D]]), (0x1D9B, [[0x252], [0x63], [0x255], [0xF0], [0x25C],
  [0x66], [0x25F], [0x261], [0x265]]), (0x1DA7, [[0x1D7B], [0x29D], [0x26D], [0x1D85], [0x29F],
  [0x271], [0x270]]), (0x1DB2, [[0x278], [0x282], [0x283], [0x1AB], [0x289], [0x28A], [0x1D1C],
  [0x28B], [0x28C], [0x7A]]), (0x1DBF, [[0x3B8]]), (0x1E9A, [[0x61, 0x2BE], [0x1E61]]), (0x1E9E,
  [[0xDF]]), (0x1F59, [[0x1F51]]), (0x1F5B, [[0x1F53]]), (0x1F5D, [[0x1F55]]), (0x1F5F, [[0x1F57]]),
  (0x1F80, [[0x1F00, 0x3B9], [0x1F01, 0x3B9], [0x1F02, 0x3B9], [0x1F03, 0x3B9], [0x1F04, 0x3B9],
  [0x1F05, 0x3B9], [0x1F06, 0x3B9], [0x1F07, 0x3B9], [0x1F00, 0x3B9]]), (0x1F89, [[0x1F01, 0x3B9],
  [0x1F02, 0x3B9], [0x1F03, 0x3B9], [0x1F04, 0x3B9], [0x1F05, 0x3B9], [0x1F06, 0x3B9],
  [0x1F07, 0x3B9], [0x1F20, 0x3B9], [0x1F21, 0x3B9]]), (0x1F92, [[0x1F22, 0x3B9], [0x1F23, 0x3B9],
  [0x1F24, 0x3B9], [0x1F25, 0x3B9], [0x1F26, 0x3B9], [0x1F27, 0x3B9], [0x1F20, 0x3B9],
  [0x1F21, 0x3B9], [0x1F22, 0x3B9]]), (0x1F9B, [[0x1F23, 0x3B9], [0x1F24, 0x3B9], [0x1F25, 0x3B9],
  [0x1F26, 0x3B9], [0x1F27, 0x3B9], [0x1F60, 0x3B9], [0x1F61, 0x3B9], [0x1F62, 0x3B9],
  [0x1F63, 0x3B9]]), (0x1FA4, [[0x1F64, 0x3B9], [0x1F65, 0x3B9], [0x1F66, 0x3B9], [0x1F67, 0x3B9],
  [0x1F60, 0x3B9], [0x1F61, 0x3B9], [0x1F62, 0x3B9], [0x1F63, 0x3B9], [0x1F64, 0x3B9]]), (0x1FAD,
  [[0x1F65, 0x3B9], [0x1F66, 0x3B9], [0x1F67, 0x3B9]]), (0x1FB2, [[0x1F70, 0x3B9], [0x3B1, 0x3B9],
  [0x3AC, 0x3B9]]), (0x1FB7, [[0x1FB6, 0x3B9], [0x1FB0], [0x1FB1], [0x1F70], [0x3AC],
  [0x3B1, 0x3B9], [0x20, 0x313]]), (0x1FBF, [[0x20, 0x313], [0x20, 0x342], [0x20, 0x308, 0x342],
  [0x1F74, 0x3B9], [0x3B7, 0x3B9], [0x3AE, 0x3B9]]), (0x1FC7, [[0x1FC6, 0x3B9], [0x1F72], [0x3AD],
  [0x1F74], [0x3AE], [0x3B7, 0x3B9], [0x20, 0x313, 0x300], [0x20, 0x313, 0x301],
  [0x20, 0x313, 0x342]]), (0x1FD8, [[0x1FD0], [0x1FD1], [0x1F76], [0x3AF]]), (0x1FDD,
  [[0x20, 0x314, 0x300], [0x20, 0x314, 0x301], [0x20, 0x314, 0x342]]), (0x1FE8, [[0x1FE0], [0x1FE1],
  [0x1F7A], [0x3CD], [0x1FE5], [0x20, 0x308, 0x300], [0x20, 0x308, 0x301]]), (0x1FF2,
  [[0x1F7C, 0x3B9], [0x3C9, 0x3B9], [0x3CE, 0x3B9]]), (0x1FF7, [[0x1FF6, 0x3B9], [0x1F78], [0x3CC],
  [0x1F7C], [0x3CE], [0x3C9, 0x3B9], [0x20, 0x301], [0x20, 0x314]]), (0x2000, [[0x20], [0x20],
  [0x20], [0x20], [0x20], [0x20], [0x20], [0x20], [0x20], [0x20], [0x20]]), (0x2011, [[0x2010]]),
  (0x2017, [[0x20, 0x333]]), (0x202F, [[0x20]]), (0x2033, [[0x2032, 0x2032],
  [0x2032, 0x2032, 0x2032]]), (0x2036, [[0x2035, 0x2035], [0x2035, 0x2035, 0x2035]]), (0x203C,
  [[0x21, 0x21]]), (0x203E, [[0x20, 0x305]]), (0x2047, [[0x3F, 0x3F], [0x3F, 0x21], [0x21, 0x3F]]),
  (0x2057, [[0x2032, 0x2032, 0x2032, 0x2032]]), (0x205F, [[0x20]]), (0x2070, [[0x30], [0x69]]),
  (0x207A, [[0x2B], [0x2212], [0x3D], [0x28], [0x29], [0x6E]]), (0x208A, [[0x2B], [0x2212], [0x3D],
  [0x28], [0x29]]), (0x2090, [[0x61], [0x65], [0x6F], [0x78], [0x259], [0x68]]), (0x209A, [[0x70],
  [0x73], [0x74]]), (0x20A8, [[0x72, 0x73]]), (0x2100, [[0x61, 0x2F, 0x63], [0x61, 0x2F, 0x73],
  [0x63], [0xB0, 0x63]]), (0x2105, [[0x63, 0x2F, 0x6F], [0x63, 0x2F, 0x75], [0x25B]]), (0x2109,
  [[0xB0, 0x66], [0x67], [0x68], [0x68], [0x68], [0x68], [0x127], [0x69], [0x69], [0x6C], [0x6C]]),
  (0x2115, [[0x6E], [0x6E, 0x6F]]), (0x211C, [[0x72], [0x72]]), (0x2120, [[0x73, 0x6D],
  [0x74, 0x65, 0x6C], [0x74, 0x6D]]), (0x2124, [[0x7A]]), (0x2126, [[0x3C9]]), (0x2128, [[0x7A]]),
  (0x212A, [[0x6B], [0xE5], [0x62], [0x63]]), (0x212F, [[0x65], [0x65], [0x66], [0x214E], [0x6D],
  [0x6F]]), (0x2139, [[0x69]]), (0x213B, [[0x66, 0x61, 0x78], [0x3C0], [0x3B3], [0x3B3], [0x3C0],
  [0x2211]]), (0x2145, [[0x64], [0x64], [0x65], [0x69], [0x6A]]), (0x2150, [[0x31, 0x2044, 0x37],
  [0x31, 0x2044, 0x39], [0x31, 0x2044, 0x31, 0x30], [0x31, 0x2044, 0x33], [0x32, 0x2044, 0x33],
  [0x31, 0x2044, 0x35], [0x32, 0x2044, 0x35]]), (0x2157, [[0x33, 0x2044, 0x35],
  [0x34, 0x2044, 0x35], [0x31, 0x2044, 0x36], [0x35, 0x2044, 0x36], [0x31, 0x2044, 0x38],
  [0x33, 0x2044, 0x38], [0x35, 0x2044, 0x38], [0x37, 0x2044, 0x38]]), (0x215F, [[0x31, 0x2044],
  [0x69], [0x69, 0x69], [0x69, 0x69, 0x69], [0x69, 0x76], [0x76], [0x76, 0x69], [0x76, 0x69, 0x69],
  [0x76, 0x69, 0x69, 0x69], [0x69, 0x78], [0x78], [0x78, 0x69], [0x78, 0x69, 0x69]]), (0x216C,
  [[0x6C], [0x63], [0x64], [0x6D], [0x69], [0x69, 0x69], [0x69, 0x69, 0x69], [0x69, 0x76], [0x76],
  [0x76, 0x69], [0x76, 0x69, 0x69], [0x76, 0x69, 0x69, 0x69], [0x69, 0x78], [0x78], [0x78, 0x69]]),
  (0x217B, [[0x78, 0x69, 0x69], [0x6C], [0x63], [0x64], [0x6D]]), (0x2183, [[0x2184]]), (0x2189,
  [[0x30, 0x2044, 0x33]]), (0x222C, [[0x222B, 0x222B], [0x222B, 0x222B, 0x222B]]), (0x222F,
  [[0x222E, 0x222E], [0x222E, 0x222E, 0x222E]]), (0x2469, [[0x31, 0x30], [0x31, 0x31], [0x31, 0x32],
  [0x31, 0x33], [0x31, 0x34], [0x31, 0x35], [0x31, 0x36], [0x31, 0x37], [0x31, 0x38], [0x31, 0x39],
  [0x32, 0x30], [0x28, 0x31, 0x29], [0x28, 0x32, 0x29]]), (0x2476, [[0x28, 0x33, 0x29],
  [0x28, 0x34, 0x29], [0x28, 0x35, 0x29], [0x28, 0x36, 0x29], [0x28, 0x37, 0x29],
  [0x28, 0x38, 0x29], [0x28, 0x39, 0x29], [0x28, 0x31, 0x30, 0x29], [0x28, 0x31, 0x31, 0x29]]),
  (0x247F, [[0x28, 0x31, 0x32, 0x29], [0x28, 0x31, 0x33, 0x29], [0x28, 0x31, 0x34, 0x29],
  [0x28, 0x31, 0x35, 0x29], [0x28, 0x31, 0x36, 0x29], [0x28, 0x31, 0x37, 0x29],
  [0x28, 0x31, 0x38, 0x29]]), (0x2486, [[0x28, 0x31, 0x39, 0x29], [0x28, 0x32, 0x30, 0x29]]),
  (0x249C, [[0x28, 0x61, 0x29], [0x28, 0x62, 0x29], [0x28, 0x63, 0x29], [0x28, 0x64, 0x29],
  [0x28, 0x65, 0x29], [0x28, 0x66, 0x29], [0x28, 0x67, 0x29], [0x28, 0x68, 0x29],
  [0x28, 0x69, 0x29]]), (0x24A5, [[0x28, 0x6A, 0x29], [0x28, 0x6B, 0x29], [0x28, 0x6C, 0x29],
  [0x28, 0x6D, 0x29], [0x28, 0x6E, 0x29], [0x28, 0x6F, 0x29], [0x28, 0x70, 0x29],
  [0x28, 0x71, 0x29], [0x28, 0x72, 0x29]]), (0x24AE, [[0x28, 0x73, 0x29], [0x28, 0x74, 0x29],
  [0x28, 0x75, 0x29], [0x28, 0x76, 0x29], [0x28, 0x77, 0x29], [0x28, 0x78, 0x29],
  [0x28, 0x79, 0x29], [0x28, 0x7A, 0x29]]), (0x24EA, [[0x30]]), (0x2A0C,
  [[0x222B, 0x222B, 0x222B, 0x222B]]), (0x2A74, [[0x3A, 0x3A, 0x3D], [0x3D, 0x3D],
  [0x3D, 0x3D, 0x3D]]), (0x2C60, [[0x2C61]]), (0x2C62, [[0x26B], [0x1D7D], [0x27D]]), (0x2C6D,
  [[0x251], [0x271], [0x250], [0x252]]), (0x2C72, [[0x2C73]]), (0x2C75, [[0x2C76]]), (0x2C7C,
  [[0x6A], [0x76], [0x23F], [0x240]]), (0x2CEB, [[0x2CEC]]), (0x2CED, [[0x2CEE]]), (0x2CF2,
  [[0x2CF3]]), (0x2D6F, [[0x2D61]]), (0x2E9F, [[0x6BCD]]), (0x2EF3, [[0x9F9F]]), (0x2F00, [[0x4E00],
  [0x4E28], [0x4E36], [0x4E3F], [0x4E59], [0x4E85], [0x4E8C], [0x4EA0], [0x4EBA], [0x513F],
  [0x5165], [0x516B], [0x5182], [0x5196], [0x51AB], [0x51E0]]), (0x2F10, [[0x51F5], [0x5200],
  [0x529B], [0x52F9], [0x5315], [0x531A], [0x5338], [0x5341], [0x535C], [0x5369], [0x5382],
  [0x53B6], [0x53C8], [0x53E3], [0x56D7], [0x571F]]), (0x2F20, [[0x58EB], [0x5902], [0x590A],
  [0x5915], [0x5927], [0x5973], [0x5B50], [0x5B80], [0x5BF8], [0x5C0F], [0x5C22], [0x5C38],
  [0x5C6E], [0x5C71], [0x5DDB], [0x5DE5]]), (0x2F30, [[0x5DF1], [0x5DFE], [0x5E72], [0x5E7A],
  [0x5E7F], [0x5EF4], [0x5EFE], [0x5F0B], [0x5F13], [0x5F50], [0x5F61], [0x5F73], [0x5FC3],
  [0x6208], [0x6236], [0x624B]]), (0x2F40, [[0x652F], [0x6534], [0x6587], [0x6597], [0x65A4],
  [0x65B9], [0x65E0], [0x65E5], [0x66F0], [0x6708], [0x6728], [0x6B20], [0x6B62], [0x6B79],
  [0x6BB3], [0x6BCB]]), (0x2F50, [[0x6BD4], [0x6BDB], [0x6C0F], [0x6C14], [0x6C34], [0x706B],
  [0x722A], [0x7236], [0x723B], [0x723F], [0x7247], [0x7259], [0x725B], [0x72AC], [0x7384],
  [0x7389]]), (0x2F60, [[0x74DC], [0x74E6], [0x7518], [0x751F], [0x7528], [0x7530], [0x758B],
  [0x7592], [0x7676], [0x767D], [0x76AE], [0x76BF], [0x76EE], [0x77DB], [0x77E2], [0x77F3]]),
  (0x2F70, [[0x793A], [0x79B8], [0x79BE], [0x7A74], [0x7ACB], [0x7AF9], [0x7C73], [0x7CF8],
  [0x7F36], [0x7F51], [0x7F8A], [0x7FBD], [0x8001], [0x800C], [0x8012], [0x8033]]), (0x2F80,
  [[0x807F], [0x8089], [0x81E3], [0x81EA], [0x81F3], [0x81FC], [0x820C], [0x821B], [0x821F],
  [0x826E], [0x8272], [0x8278], [0x864D], [0x866B], [0x8840], [0x884C]]), (0x2F90, [[0x8863],
  [0x897E], [0x898B], [0x89D2], [0x8A00], [0x8C37], [0x8C46], [0x8C55], [0x8C78], [0x8C9D],
  [0x8D64], [0x8D70], [0x8DB3], [0x8EAB], [0x8ECA], [0x8F9B]]), (0x2FA0, [[0x8FB0], [0x8FB5],
  [0x9091], [0x9149], [0x91C6], [0x91CC], [0x91D1], [0x9577], [0x9580], [0x961C], [0x96B6],
  [0x96B9], [0x96E8], [0x9751], [0x975E], [0x9762]]), (0x2FB0, [[0x9769], [0x97CB], [0x97ED],
  [0x97F3], [0x9801], [0x98A8], [0x98DB], [0x98DF], [0x9996], [0x9999], [0x99AC], [0x9AA8],
  [0x9AD8], [0x9ADF], [0x9B25], [0x9B2F]]), (0x2FC0, [[0x9B32], [0x9B3C], [0x9B5A], [0x9CE5],
  [0x9E75], [0x9E7F], [0x9EA5], [0x9EBB], [0x9EC3], [0x9ECD], [0x9ED1], [0x9EF9], [0x9EFD],
  [0x9F0E], [0x9F13], [0x9F20]]), (0x2FD0, [[0x9F3B], [0x9F4A], [0x9F52], [0x9F8D], [0x9F9C],
  [0x9FA0]]), (0x3000, [[0x20]]), (0x3002, [[0x2E]]), (0x3036, [[0x3012]]), (0x3038, [[0x5341],
  [0x5344], [0x5345]]), (0x309B, [[0x20, 0x3099], [0x20, 0x309A]]), (0x309F, [[0x3088, 0x308A]]),
  (0x30FF, [[0x30B3, 0x30C8]]), (0x3131, [[0x1100], [0x1101], [0x11AA], [0x1102], [0x11AC],
  [0x11AD]]), (0x3140, [[0x111A]]), (0x3144, [[0x1121]]), (0x3165, [[0x1114], [0x1115], [0x11C7],
  [0x11C8], [0x11CC], [0x11CE], [0x11D3], [0x11D7], [0x11D9], [0x111C], [0x11DD], [0x11DF],
  [0x111D], [0x111E], [0x1120], [0x1122]]), (0x3175, [[0x1123], [0x1127], [0x1129]]), (0x317D,
  [[0x1132], [0x1136], [0x1140], [0x1147], [0x114C], [0x11F1], [0x11F2]]), (0x3187, [[0x1184],
  [0x1185], [0x1188], [0x1191], [0x1192], [0x1194], [0x119E], [0x11A1]]), (0x3192, [[0x4E00],
  [0x4E8C], [0x4E09], [0x56DB], [0x4E0A], [0x4E2D], [0x4E0B], [0x7532], [0x4E59], [0x4E19],
  [0x4E01], [0x5929], [0x5730], [0x4EBA]]), (0x3200, [[0x28, 0x1100, 0x29], [0x28, 0x1102, 0x29],
  [0x28, 0x1103, 0x29], [0x28, 0x1105, 0x29], [0x28, 0x1106, 0x29], [0x28, 0x1107, 0x29],
  [0x28, 0x1109, 0x29], [0x28, 0x110B, 0x29]]), (0x3208, [[0x28, 0x110C, 0x29],
  [0x28, 0x110E, 0x29], [0x28, 0x110F, 0x29], [0x28, 0x1110, 0x29], [0x28, 0x1111, 0x29],
  [0x28, 0x1112, 0x29], [0x28, 0xAC00, 0x29], [0x28, 0xB098, 0x29]]), (0x3210,
  [[0x28, 0xB2E4, 0x29], [0x28, 0xB77C, 0x29], [0x28, 0xB9C8, 0x29], [0x28, 0xBC14, 0x29],
  [0x28, 0xC0AC, 0x29], [0x28, 0xC544, 0x29], [0x28, 0xC790, 0x29], [0x28, 0xCC28, 0x29]]), (0x3218,
  [[0x28, 0xCE74, 0x29], [0x28, 0xD0C0, 0x29], [0x28, 0xD30C, 0x29], [0x28, 0xD558, 0x29],
  [0x28, 0xC8FC, 0x29], [0x28, 0xC624, 0xC804, 0x29], [0x28, 0xC624, 0xD6C4, 0x29]]), (0x3220,
  [[0x28, 0x4E00, 0x29], [0x28, 0x4E8C, 0x29], [0x28, 0x4E09, 0x29], [0x28, 0x56DB, 0x29],
  [0x28, 0x4E94, 0x29], [0x28, 0x516D, 0x29], [0x28, 0x4E03, 0x29], [0x28, 0x516B, 0x29]]), (0x3228,
  [[0x28, 0x4E5D, 0x29], [0x28, 0x5341, 0x29], [0x28, 0x6708, 0x29], [0x28, 0x706B, 0x29],
  [0x28, 0x6C34, 0x29], [0x28, 0x6728, 0x29], [0x28, 0x91D1, 0x29], [0x28, 0x571F, 0x29]]), (0x3230,
  [[0x28, 0x65E5, 0x29], [0x28, 0x682A, 0x29], [0x28, 0x6709, 0x29], [0x28, 0x793E, 0x29],
  [0x28, 0x540D, 0x29], [0x28, 0x7279, 0x29], [0x28, 0x8CA1, 0x29], [0x28, 0x795D, 0x29]]), (0x3238,
  [[0x28, 0x52B4, 0x29], [0x28, 0x4EE3, 0x29], [0x28, 0x547C, 0x29], [0x28, 0x5B66, 0x29],
  [0x28, 0x76E3, 0x29], [0x28, 0x4F01, 0x29], [0x28, 0x8CC7, 0x29], [0x28, 0x5354, 0x29]]), (0x3240,
  [[0x28, 0x796D, 0x29], [0x28, 0x4F11, 0x29], [0x28, 0x81EA, 0x29], [0x28, 0x81F3, 0x29], [0x554F],
  [0x5E7C], [0x6587], [0x7B8F]]), (0x3250, [[0x70, 0x74, 0x65], [0x32, 0x31], [0x32, 0x32],
  [0x32, 0x33], [0x32, 0x34], [0x32, 0x35], [0x32, 0x36], [0x32, 0x37], [0x32, 0x38], [0x32, 0x39],
  [0x33, 0x30], [0x33, 0x31], [0x33, 0x32]]), (0x325D, [[0x33, 0x33], [0x33, 0x34], [0x33, 0x35],
  [0x1100], [0x1102], [0x1103]]), (0x3266, [[0x1109], [0x110B], [0x110C]]), (0x326E, [[0xAC00],
  [0xB098], [0xB2E4], [0xB77C], [0xB9C8], [0xBC14], [0xC0AC], [0xC544], [0xC790], [0xCC28],
  [0xCE74], [0xD0C0], [0xD30C], [0xD558], [0xCC38, 0xACE0]]), (0x327D, [[0xC8FC, 0xC758],
  [0xC6B0]]), (0x3280, [[0x4E00], [0x4E8C], [0x4E09], [0x56DB], [0x4E94], [0x516D], [0x4E03],
  [0x516B], [0x4E5D], [0x5341], [0x6708], [0x706B], [0x6C34], [0x6728], [0x91D1], [0x571F]]),
  (0x3290, [[0x65E5], [0x682A], [0x6709], [0x793E], [0x540D], [0x7279], [0x8CA1], [0x795D],
  [0x52B4], [0x79D8], [0x7537], [0x5973], [0x9069], [0x512A], [0x5370], [0x6CE8]]), (0x32A0,
  [[0x9805], [0x4F11], [0x5199], [0x6B63], [0x4E0A], [0x4E2D], [0x4E0B], [0x5DE6], [0x53F3],
  [0x533B], [0x5B97], [0x5B66], [0x76E3], [0x4F01], [0x8CC7], [0x5354]]), (0x32B0, [[0x591C],
  [0x33, 0x36], [0x33, 0x37], [0x33, 0x38], [0x33, 0x39], [0x34, 0x30], [0x34, 0x31], [0x34, 0x32],
  [0x34, 0x33], [0x34, 0x34], [0x34, 0x35], [0x34, 0x36], [0x34, 0x37], [0x34, 0x38]]), (0x32BE,
  [[0x34, 0x39], [0x35, 0x30], [0x31, 0x6708], [0x32, 0x6708], [0x33, 0x6708], [0x34, 0x6708],
  [0x35, 0x6708], [0x36, 0x6708], [0x37, 0x6708], [0x38, 0x6708], [0x39, 0x6708]]), (0x32C9,
  [[0x31, 0x30, 0x6708], [0x31, 0x31, 0x6708], [0x31, 0x32, 0x6708], [0x68, 0x67],
  [0x65, 0x72, 0x67], [0x65, 0x76], [0x6C, 0x74, 0x64], [0x30A2], [0x30A4], [0x30A6], [0x30A8]]),
  (0x32D4, [[0x30AA], [0x30AB], [0x30AD], [0x30AF], [0x30B1], [0x30B3], [0x30B5], [0x30B7],
  [0x30B9], [0x30BB], [0x30BD], [0x30BF], [0x30C1], [0x30C4], [0x30C6], [0x30C8]]), (0x32EA,
  [[0x30D2], [0x30D5], [0x30D8], [0x30DB]]), (0x32F3, [[0x30E4], [0x30E6]]), (0x32FF,
  [[0x4EE4, 0x548C], [0x30A2, 0x30D1, 0x30FC, 0x30C8], [0x30A2, 0x30EB, 0x30D5, 0x30A1],
  [0x30A2, 0x30F3, 0x30DA, 0x30A2], [0x30A2, 0x30FC, 0x30EB]]), (0x3304,
  [[0x30A4, 0x30CB, 0x30F3, 0x30B0], [0x30A4, 0x30F3, 0x30C1], [0x30A6, 0x30A9, 0x30F3],
  [0x30A8, 0x30B9, 0x30AF, 0x30FC, 0x30C9], [0x30A8, 0x30FC, 0x30AB, 0x30FC]]), (0x3309,
  [[0x30AA, 0x30F3, 0x30B9], [0x30AA, 0x30FC, 0x30E0], [0x30AB, 0x30A4, 0x30EA],
  [0x30AB, 0x30E9, 0x30C3, 0x30C8], [0x30AB, 0x30ED, 0x30EA, 0x30FC]]), (0x330E,
  [[0x30AC, 0x30ED, 0x30F3], [0x30AC, 0x30F3, 0x30DE], [0x30AE, 0x30AC], [0x30AE, 0x30CB, 0x30FC],
  [0x30AD, 0x30E5, 0x30EA, 0x30FC], [0x30AE, 0x30EB, 0x30C0, 0x30FC]]), (0x3314, [[0x30AD, 0x30ED],
  [0x30AD, 0x30ED, 0x30B0, 0x30E9, 0x30E0], [0x30AD, 0x30ED, 0x30E1, 0x30FC, 0x30C8, 0x30EB],
  [0x30AD, 0x30ED, 0x30EF, 0x30C3, 0x30C8]]), (0x3318, [[0x30B0, 0x30E9, 0x30E0],
  [0x30B0, 0x30E9, 0x30E0, 0x30C8, 0x30F3], [0x30AF, 0x30EB, 0x30BC, 0x30A4, 0x30ED],
  [0x30AF, 0x30ED, 0x30FC, 0x30CD]]), (0x331C, [[0x30B1, 0x30FC, 0x30B9], [0x30B3, 0x30EB, 0x30CA],
  [0x30B3, 0x30FC, 0x30DD], [0x30B5, 0x30A4, 0x30AF, 0x30EB],
  [0x30B5, 0x30F3, 0x30C1, 0x30FC, 0x30E0]]), (0x3321, [[0x30B7, 0x30EA, 0x30F3, 0x30B0],
  [0x30BB, 0x30F3, 0x30C1], [0x30BB, 0x30F3, 0x30C8], [0x30C0, 0x30FC, 0x30B9], [0x30C7, 0x30B7],
  [0x30C9, 0x30EB]]), (0x3327, [[0x30C8, 0x30F3], [0x30CA, 0x30CE], [0x30CE, 0x30C3, 0x30C8],
  [0x30CF, 0x30A4, 0x30C4], [0x30D1, 0x30FC, 0x30BB, 0x30F3, 0x30C8], [0x30D1, 0x30FC, 0x30C4]]),
  (0x332D, [[0x30D0, 0x30FC, 0x30EC, 0x30EB], [0x30D4, 0x30A2, 0x30B9, 0x30C8, 0x30EB],
  [0x30D4, 0x30AF, 0x30EB], [0x30D4, 0x30B3], [0x30D3, 0x30EB]]), (0x3332,
  [[0x30D5, 0x30A1, 0x30E9, 0x30C3, 0x30C9], [0x30D5, 0x30A3, 0x30FC, 0x30C8],
  [0x30D6, 0x30C3, 0x30B7, 0x30A7, 0x30EB], [0x30D5, 0x30E9, 0x30F3]]), (0x3336,
  [[0x30D8, 0x30AF, 0x30BF, 0x30FC, 0x30EB], [0x30DA, 0x30BD], [0x30DA, 0x30CB, 0x30D2],
  [0x30D8, 0x30EB, 0x30C4], [0x30DA, 0x30F3, 0x30B9]]), (0x333B, [[0x30DA, 0x30FC, 0x30B8],
  [0x30D9, 0x30FC, 0x30BF], [0x30DD, 0x30A4, 0x30F3, 0x30C8], [0x30DC, 0x30EB, 0x30C8],
  [0x30DB, 0x30F3], [0x30DD, 0x30F3, 0x30C9]]), (0x3341, [[0x30DB, 0x30FC, 0x30EB],
  [0x30DB, 0x30FC, 0x30F3], [0x30DE, 0x30A4, 0x30AF, 0x30ED], [0x30DE, 0x30A4, 0x30EB],
  [0x30DE, 0x30C3, 0x30CF]]), (0x3346, [[0x30DE, 0x30EB, 0x30AF],
  [0x30DE, 0x30F3, 0x30B7, 0x30E7, 0x30F3], [0x30DF, 0x30AF, 0x30ED, 0x30F3], [0x30DF, 0x30EA],
  [0x30DF, 0x30EA, 0x30D0, 0x30FC, 0x30EB]]), (0x334B, [[0x30E1, 0x30AC],
  [0x30E1, 0x30AC, 0x30C8, 0x30F3], [0x30E1, 0x30FC, 0x30C8, 0x30EB], [0x30E4, 0x30FC, 0x30C9],
  [0x30E4, 0x30FC, 0x30EB]]), (0x3350, [[0x30E6, 0x30A2, 0x30F3], [0x30EA, 0x30C3, 0x30C8, 0x30EB],
  [0x30EA, 0x30E9], [0x30EB, 0x30D4, 0x30FC], [0x30EB, 0x30FC, 0x30D6, 0x30EB]]), (0x3355,
  [[0x30EC, 0x30E0], [0x30EC, 0x30F3, 0x30C8, 0x30B2, 0x30F3], [0x30EF, 0x30C3, 0x30C8],
  [0x30, 0x70B9], [0x31, 0x70B9], [0x32, 0x70B9], [0x33, 0x70B9]]), (0x335C, [[0x34, 0x70B9],
  [0x35, 0x70B9], [0x36, 0x70B9], [0x37, 0x70B9], [0x38, 0x70B9], [0x39, 0x70B9],
  [0x31, 0x30, 0x70B9], [0x31, 0x31, 0x70B9], [0x31, 0x32, 0x70B9]]), (0x3365,
  [[0x31, 0x33, 0x70B9], [0x31, 0x34, 0x70B9], [0x31, 0x35, 0x70B9], [0x31, 0x36, 0x70B9],
  [0x31, 0x37, 0x70B9], [0x31, 0x38, 0x70B9], [0x31, 0x39, 0x70B9], [0x32, 0x30, 0x70B9]]), (0x336D,
  [[0x32, 0x31, 0x70B9], [0x32, 0x32, 0x70B9], [0x32, 0x33, 0x70B9], [0x32, 0x34, 0x70B9],
  [0x68, 0x70, 0x61], [0x64, 0x61], [0x61, 0x75], [0x62, 0x61, 0x72], [0x6F, 0x76]]), (0x3376,
  [[0x70, 0x63], [0x64, 0x6D], [0x64, 0x6D, 0x32], [0x64, 0x6D, 0x33], [0x69, 0x75],
  [0x5E73, 0x6210], [0x662D, 0x548C], [0x5927, 0x6B63], [0x660E, 0x6CBB],
  [0x682A, 0x5F0F, 0x4F1A, 0x793E]]), (0x3380, [[0x70, 0x61], [0x6E, 0x61], [0x3BC, 0x61],
  [0x6D, 0x61], [0x6B, 0x61], [0x6B, 0x62], [0x6D, 0x62], [0x67, 0x62], [0x63, 0x61, 0x6C],
  [0x6B, 0x63, 0x61, 0x6C], [0x70, 0x66], [0x6E, 0x66]]), (0x338C, [[0x3BC, 0x66], [0x3BC, 0x67],
  [0x6D, 0x67], [0x6B, 0x67], [0x68, 0x7A], [0x6B, 0x68, 0x7A], [0x6D, 0x68, 0x7A],
  [0x67, 0x68, 0x7A], [0x74, 0x68, 0x7A], [0x3BC, 0x6C], [0x6D, 0x6C]]), (0x3397, [[0x64, 0x6C],
  [0x6B, 0x6C], [0x66, 0x6D], [0x6E, 0x6D], [0x3BC, 0x6D], [0x6D, 0x6D], [0x63, 0x6D], [0x6B, 0x6D],
  [0x6D, 0x6D, 0x32], [0x63, 0x6D, 0x32], [0x6D, 0x32], [0x6B, 0x6D, 0x32]]), (0x33A3,
  [[0x6D, 0x6D, 0x33], [0x63, 0x6D, 0x33], [0x6D, 0x33], [0x6B, 0x6D, 0x33], [0x6D, 0x2215, 0x73],
  [0x6D, 0x2215, 0x73, 0x32], [0x70, 0x61], [0x6B, 0x70, 0x61], [0x6D, 0x70, 0x61]]), (0x33AC,
  [[0x67, 0x70, 0x61], [0x72, 0x61, 0x64], [0x72, 0x61, 0x64, 0x2215, 0x73],
  [0x72, 0x61, 0x64, 0x2215, 0x73, 0x32], [0x70, 0x73], [0x6E, 0x73], [0x3BC, 0x73], [0x6D, 0x73]]),
  (0x33B4, [[0x70, 0x76], [0x6E, 0x76], [0x3BC, 0x76], [0x6D, 0x76], [0x6B, 0x76], [0x6D, 0x76],
  [0x70, 0x77], [0x6E, 0x77], [0x3BC, 0x77], [0x6D, 0x77], [0x6B, 0x77], [0x6D, 0x77],
  [0x6B, 0x3C9]]), (0x33C1, [[0x6D, 0x3C9]]), (0x33C3, [[0x62, 0x71], [0x63, 0x63], [0x63, 0x64],
  [0x63, 0x2215, 0x6B, 0x67]]), (0x33C8, [[0x64, 0x62], [0x67, 0x79], [0x68, 0x61], [0x68, 0x70],
  [0x69, 0x6E], [0x6B, 0x6B], [0x6B, 0x6D], [0x6B, 0x74], [0x6C, 0x6D], [0x6C, 0x6E],
  [0x6C, 0x6F, 0x67], [0x6C, 0x78], [0x6D, 0x62]]), (0x33D5, [[0x6D, 0x69, 0x6C],
  [0x6D, 0x6F, 0x6C], [0x70, 0x68]]), (0x33D9, [[0x70, 0x70, 0x6D], [0x70, 0x72], [0x73, 0x72],
  [0x73, 0x76], [0x77, 0x62], [0x76, 0x2215, 0x6D], [0x61, 0x2215, 0x6D], [0x31, 0x65E5],
  [0x32, 0x65E5], [0x33, 0x65E5], [0x34, 0x65E5]]), (0x33E4, [[0x35, 0x65E5], [0x36, 0x65E5],
  [0x37, 0x65E5], [0x38, 0x65E5], [0x39, 0x65E5], [0x31, 0x30, 0x65E5], [0x31, 0x31, 0x65E5],
  [0x31, 0x32, 0x65E5], [0x31, 0x33, 0x65E5]]), (0x33ED, [[0x31, 0x34, 0x65E5],
  [0x31, 0x35, 0x65E5], [0x31, 0x36, 0x65E5], [0x31, 0x37, 0x65E5], [0x31, 0x38, 0x65E5],
  [0x31, 0x39, 0x65E5], [0x32, 0x30, 0x65E5], [0x32, 0x31, 0x65E5]]), (0x33F5,
  [[0x32, 0x32, 0x65E5], [0x32, 0x33, 0x65E5], [0x32, 0x34, 0x65E5], [0x32, 0x35, 0x65E5],
  [0x32, 0x36, 0x65E5], [0x32, 0x37, 0x65E5], [0x32, 0x38, 0x65E5], [0x32, 0x39, 0x65E5]]), (0x33FD,
  [[0x33, 0x30, 0x65E5], [0x33, 0x31, 0x65E5], [0x67, 0x61, 0x6C]]), (0xA69C, [[0x44A], [0x44C]]),
  (0xA770, [[0xA76F]]), (0xA779, [[0xA77A]]), (0xA77B, [[0xA77C]]), (0xA77D, [[0x1D79]]), (0xA78B,
  [[0xA78C]]), (0xA78D, [[0x265]]), (0xA790, [[0xA791]]), (0xA792, [[0xA793]]), (0xA7AA, [[0x266],
  [0x25C], [0x261], [0x26C], [0x26A]]), (0xA7B0, [[0x29E], [0x287], [0x29D], [0xAB53]]), (0xA7C4,
  [[0xA794], [0x282], [0x1D8E], [0xA7C8]]), (0xA7C9, [[0xA7CA]]), (0xA7CB, [[0x264]]), (0xA7DC,
  [[0x19B]]), (0xA7F1, [[0x73], [0x63], [0x66], [0x71], [0xA7F6]]), (0xA7F8, [[0x127], [0x153]]),
  (0xAB5C, [[0xA727], [0xAB37], [0x26B], [0xAB52]]), (0xAB69, [[0x28D]]), (0xFB00, [[0x66, 0x66],
  [0x66, 0x69], [0x66, 0x6C], [0x66, 0x66, 0x69], [0x66, 0x66, 0x6C], [0x73, 0x74], [0x73, 0x74]]),
  (0xFB13, [[0x574, 0x576], [0x574, 0x565], [0x574, 0x56B], [0x57E, 0x576], [0x574, 0x56D]]),
  (0xFB20, [[0x5E2], [0x5D0], [0x5D3], [0x5D4]]), (0xFB27, [[0x5E8], [0x5EA], [0x2B]]), (0xFB4F,
  [[0x5D0, 0x5DC], [0x671], [0x671], [0x67B], [0x67B], [0x67B], [0x67B], [0x67E], [0x67E], [0x67E],
  [0x67E], [0x680], [0x680], [0x680], [0x680], [0x67A], [0x67A], [0x67A], [0x67A]]), (0xFB62,
  [[0x67F], [0x67F], [0x67F], [0x67F], [0x679], [0x679], [0x679], [0x679], [0x6A4], [0x6A4],
  [0x6A4], [0x6A4], [0x6A6], [0x6A6], [0x6A6], [0x6A6], [0x684], [0x684], [0x684], [0x684]]),
  (0xFB76, [[0x683], [0x683], [0x683], [0x683], [0x686], [0x686], [0x686], [0x686], [0x687],
  [0x687], [0x687], [0x687], [0x68D], [0x68D], [0x68C], [0x68C], [0x68E], [0x68E], [0x688],
  [0x688]]), (0xFB8A, [[0x698], [0x698], [0x691], [0x691], [0x6A9], [0x6A9], [0x6A9], [0x6A9],
  [0x6AF], [0x6AF], [0x6AF], [0x6AF], [0x6B3], [0x6B3], [0x6B3], [0x6B3], [0x6B1], [0x6B1], [0x6B1],
  [0x6B1]]), (0xFB9E, [[0x6BA], [0x6BA], [0x6BB], [0x6BB], [0x6BB], [0x6BB], [0x6C0], [0x6C0],
  [0x6C1], [0x6C1], [0x6C1], [0x6C1], [0x6BE], [0x6BE], [0x6BE], [0x6BE], [0x6D2], [0x6D2], [0x6D3],
  [0x6D3]]), (0xFBD3, [[0x6AD], [0x6AD], [0x6AD], [0x6AD], [0x6C7], [0x6C7], [0x6C6], [0x6C6],
  [0x6C8], [0x6C8], [0x6C7, 0x674], [0x6CB], [0x6CB], [0x6C5], [0x6C5], [0x6C9], [0x6C9], [0x6D0],
  [0x6D0]]), (0xFBE6, [[0x6D0], [0x6D0], [0x649], [0x649], [0x626, 0x627], [0x626, 0x627],
  [0x626, 0x6D5], [0x626, 0x6D5], [0x626, 0x648], [0x626, 0x648], [0x626, 0x6C7], [0x626, 0x6C7]]),
  (0xFBF2, [[0x626, 0x6C6], [0x626, 0x6C6], [0x626, 0x6C8], [0x626, 0x6C8], [0x626, 0x6D0],
  [0x626, 0x6D0], [0x626, 0x6D0], [0x626, 0x649], [0x626, 0x649], [0x626, 0x649]]), (0xFBFC,
  [[0x6CC], [0x6CC], [0x6CC], [0x6CC], [0x626, 0x62C], [0x626, 0x62D], [0x626, 0x645],
  [0x626, 0x649], [0x626, 0x64A], [0x628, 0x62C], [0x628, 0x62D], [0x628, 0x62E]]), (0xFC08,
  [[0x628, 0x645], [0x628, 0x649], [0x628, 0x64A], [0x62A, 0x62C], [0x62A, 0x62D], [0x62A, 0x62E],
  [0x62A, 0x645], [0x62A, 0x649], [0x62A, 0x64A], [0x62B, 0x62C]]), (0xFC12, [[0x62B, 0x645],
  [0x62B, 0x649], [0x62B, 0x64A], [0x62C, 0x62D], [0x62C, 0x645], [0x62D, 0x62C], [0x62D, 0x645],
  [0x62E, 0x62C], [0x62E, 0x62D], [0x62E, 0x645]]), (0xFC1C, [[0x633, 0x62C], [0x633, 0x62D],
  [0x633, 0x62E], [0x633, 0x645], [0x635, 0x62D], [0x635, 0x645], [0x636, 0x62C], [0x636, 0x62D],
  [0x636, 0x62E], [0x636, 0x645]]), (0xFC26, [[0x637, 0x62D], [0x637, 0x645], [0x638, 0x645],
  [0x639, 0x62C], [0x639, 0x645], [0x63A, 0x62C], [0x63A, 0x645], [0x641, 0x62C], [0x641, 0x62D],
  [0x641, 0x62E]]), (0xFC30, [[0x641, 0x645], [0x641, 0x649], [0x641, 0x64A], [0x642, 0x62D],
  [0x642, 0x645], [0x642, 0x649], [0x642, 0x64A], [0x643, 0x627], [0x643, 0x62C], [0x643, 0x62D]]),
  (0xFC3A, [[0x643, 0x62E], [0x643, 0x644], [0x643, 0x645], [0x643, 0x649], [0x643, 0x64A],
  [0x644, 0x62C], [0x644, 0x62D], [0x644, 0x62E], [0x644, 0x645], [0x644, 0x649]]), (0xFC44,
  [[0x644, 0x64A], [0x645, 0x62C], [0x645, 0x62D], [0x645, 0x62E], [0x645, 0x645], [0x645, 0x649],
  [0x645, 0x64A], [0x646, 0x62C], [0x646, 0x62D], [0x646, 0x62E]]), (0xFC4E, [[0x646, 0x645],
  [0x646, 0x649], [0x646, 0x64A], [0x647, 0x62C], [0x647, 0x645], [0x647, 0x649], [0x647, 0x64A],
  [0x64A, 0x62C], [0x64A, 0x62D], [0x64A, 0x62E]]), (0xFC58, [[0x64A, 0x645], [0x64A, 0x649],
  [0x64A, 0x64A], [0x630, 0x670], [0x631, 0x670], [0x649, 0x670], [0x20, 0x64C, 0x651],
  [0x20, 0x64D, 0x651], [0x20, 0x64E, 0x651]]), (0xFC61, [[0x20, 0x64F, 0x651],
  [0x20, 0x650, 0x651], [0x20, 0x651, 0x670], [0x626, 0x631], [0x626, 0x632], [0x626, 0x645],
  [0x626, 0x646], [0x626, 0x649], [0x626, 0x64A]]), (0xFC6A, [[0x628, 0x631], [0x628, 0x632],
  [0x628, 0x645], [0x628, 0x646], [0x628, 0x649], [0x628, 0x64A], [0x62A, 0x631], [0x62A, 0x632],
  [0x62A, 0x645], [0x62A, 0x646]]), (0xFC74, [[0x62A, 0x649], [0x62A, 0x64A], [0x62B, 0x631],
  [0x62B, 0x632], [0x62B, 0x645], [0x62B, 0x646], [0x62B, 0x649], [0x62B, 0x64A], [0x641, 0x649],
  [0x641, 0x64A]]), (0xFC7E, [[0x642, 0x649], [0x642, 0x64A], [0x643, 0x627], [0x643, 0x644],
  [0x643, 0x645], [0x643, 0x649], [0x643, 0x64A], [0x644, 0x645], [0x644, 0x649], [0x644, 0x64A]]),
  (0xFC88, [[0x645, 0x627], [0x645, 0x645], [0x646, 0x631], [0x646, 0x632], [0x646, 0x645],
  [0x646, 0x646], [0x646, 0x649], [0x646, 0x64A], [0x649, 0x670], [0x64A, 0x631]]), (0xFC92,
  [[0x64A, 0x632], [0x64A, 0x645], [0x64A, 0x646], [0x64A, 0x649], [0x64A, 0x64A], [0x626, 0x62C],
  [0x626, 0x62D], [0x626, 0x62E], [0x626, 0x645], [0x626, 0x647]]), (0xFC9C, [[0x628, 0x62C],
  [0x628, 0x62D], [0x628, 0x62E], [0x628, 0x645], [0x628, 0x647], [0x62A, 0x62C], [0x62A, 0x62D],
  [0x62A, 0x62E], [0x62A, 0x645], [0x62A, 0x647]]), (0xFCA6, [[0x62B, 0x645], [0x62C, 0x62D],
  [0x62C, 0x645], [0x62D, 0x62C], [0x62D, 0x645], [0x62E, 0x62C], [0x62E, 0x645], [0x633, 0x62C],
  [0x633, 0x62D], [0x633, 0x62E]]), (0xFCB0, [[0x633, 0x645], [0x635, 0x62D], [0x635, 0x62E],
  [0x635, 0x645], [0x636, 0x62C], [0x636, 0x62D], [0x636, 0x62E], [0x636, 0x645], [0x637, 0x62D],
  [0x638, 0x645]]), (0xFCBA, [[0x639, 0x62C], [0x639, 0x645], [0x63A, 0x62C], [0x63A, 0x645],
  [0x641, 0x62C], [0x641, 0x62D], [0x641, 0x62E], [0x641, 0x645], [0x642, 0x62D], [0x642, 0x645]]),
  (0xFCC4, [[0x643, 0x62C], [0x643, 0x62D], [0x643, 0x62E], [0x643, 0x644], [0x643, 0x645],
  [0x644, 0x62C], [0x644, 0x62D], [0x644, 0x62E], [0x644, 0x645], [0x644, 0x647]]), (0xFCCE,
  [[0x645, 0x62C], [0x645, 0x62D], [0x645, 0x62E], [0x645, 0x645], [0x646, 0x62C], [0x646, 0x62D],
  [0x646, 0x62E], [0x646, 0x645], [0x646, 0x647], [0x647, 0x62C]]), (0xFCD8, [[0x647, 0x645],
  [0x647, 0x670], [0x64A, 0x62C], [0x64A, 0x62D], [0x64A, 0x62E], [0x64A, 0x645], [0x64A, 0x647],
  [0x626, 0x645], [0x626, 0x647], [0x628, 0x645]]), (0xFCE2, [[0x628, 0x647], [0x62A, 0x645],
  [0x62A, 0x647], [0x62B, 0x645], [0x62B, 0x647], [0x633, 0x645], [0x633, 0x647], [0x634, 0x645],
  [0x634, 0x647], [0x643, 0x644]]), (0xFCEC, [[0x643, 0x645], [0x644, 0x645], [0x646, 0x645],
  [0x646, 0x647], [0x64A, 0x645], [0x64A, 0x647], [0x640, 0x64E, 0x651], [0x640, 0x64F, 0x651],
  [0x640, 0x650, 0x651]]), (0xFCF5, [[0x637, 0x649], [0x637, 0x64A], [0x639, 0x649], [0x639, 0x64A],
  [0x63A, 0x649], [0x63A, 0x64A], [0x633, 0x649], [0x633, 0x64A], [0x634, 0x649], [0x634, 0x64A]]),
  (0xFCFF, [[0x62D, 0x649], [0x62D, 0x64A], [0x62C, 0x649], [0x62C, 0x64A], [0x62E, 0x649],
  [0x62E, 0x64A], [0x635, 0x649], [0x635, 0x64A], [0x636, 0x649], [0x636, 0x64A]]), (0xFD09,
  [[0x634, 0x62C], [0x634, 0x62D], [0x634, 0x62E], [0x634, 0x645], [0x634, 0x631], [0x633, 0x631],
  [0x635, 0x631], [0x636, 0x631], [0x637, 0x649], [0x637, 0x64A]]), (0xFD13, [[0x639, 0x649],
  [0x639, 0x64A], [0x63A, 0x649], [0x63A, 0x64A], [0x633, 0x649], [0x633, 0x64A], [0x634, 0x649],
  [0x634, 0x64A], [0x62D, 0x649], [0x62D, 0x64A]]), (0xFD1D, [[0x62C, 0x649], [0x62C, 0x64A],
  [0x62E, 0x649], [0x62E, 0x64A], [0x635, 0x649], [0x635, 0x64A], [0x636, 0x649], [0x636, 0x64A],
  [0x634, 0x62C], [0x634, 0x62D]]), (0xFD27, [[0x634, 0x62E], [0x634, 0x645], [0x634, 0x631],
  [0x633, 0x631], [0x635, 0x631], [0x636, 0x631], [0x634, 0x62C], [0x634, 0x62D], [0x634, 0x62E],
  [0x634, 0x645]]), (0xFD31, [[0x633, 0x647], [0x634, 0x647], [0x637, 0x645], [0x633, 0x62C],
  [0x633, 0x62D], [0x633, 0x62E], [0x634, 0x62C], [0x634, 0x62D], [0x634, 0x62E], [0x637, 0x645]]),
  (0xFD3B, [[0x638, 0x645], [0x627, 0x64B], [0x627, 0x64B]]), (0xFD50, [[0x62A, 0x62C, 0x645],
  [0x62A, 0x62D, 0x62C], [0x62A, 0x62D, 0x62C], [0x62A, 0x62D, 0x645], [0x62A, 0x62E, 0x645],
  [0x62A, 0x645, 0x62C], [0x62A, 0x645, 0x62D]]), (0xFD57, [[0x62A, 0x645, 0x62E],
  [0x62C, 0x645, 0x62D], [0x62C, 0x645, 0x62D], [0x62D, 0x645, 0x64A], [0x62D, 0x645, 0x649],
  [0x633, 0x62D, 0x62C], [0x633, 0x62C, 0x62D]]), (0xFD5E, [[0x633, 0x62C, 0x649],
  [0x633, 0x645, 0x62D], [0x633, 0x645, 0x62D], [0x633, 0x645, 0x62C], [0x633, 0x645, 0x645],
  [0x633, 0x645, 0x645], [0x635, 0x62D, 0x62D]]), (0xFD65, [[0x635, 0x62D, 0x62D],
  [0x635, 0x645, 0x645], [0x634, 0x62D, 0x645], [0x634, 0x62D, 0x645], [0x634, 0x62C, 0x64A],
  [0x634, 0x645, 0x62E], [0x634, 0x645, 0x62E]]), (0xFD6C, [[0x634, 0x645, 0x645],
  [0x634, 0x645, 0x645], [0x636, 0x62D, 0x649], [0x636, 0x62E, 0x645], [0x636, 0x62E, 0x645],
  [0x637, 0x645, 0x62D], [0x637, 0x645, 0x62D]]), (0xFD73, [[0x637, 0x645, 0x645],
  [0x637, 0x645, 0x64A], [0x639, 0x62C, 0x645], [0x639, 0x645, 0x645], [0x639, 0x645, 0x645],
  [0x639, 0x645, 0x649], [0x63A, 0x645, 0x645]]), (0xFD7A, [[0x63A, 0x645, 0x64A],
  [0x63A, 0x645, 0x649], [0x641, 0x62E, 0x645], [0x641, 0x62E, 0x645], [0x642, 0x645, 0x62D],
  [0x642, 0x645, 0x645], [0x644, 0x62D, 0x645]]), (0xFD81, [[0x644, 0x62D, 0x64A],
  [0x644, 0x62D, 0x649], [0x644, 0x62C, 0x62C], [0x644, 0x62C, 0x62C], [0x644, 0x62E, 0x645],
  [0x644, 0x62E, 0x645], [0x644, 0x645, 0x62D]]), (0xFD88, [[0x644, 0x645, 0x62D],
  [0x645, 0x62D, 0x62C], [0x645, 0x62D, 0x645], [0x645, 0x62D, 0x64A], [0x645, 0x62C, 0x62D],
  [0x645, 0x62C, 0x645], [0x645, 0x62E, 0x62C]]), (0xFD8F, [[0x645, 0x62E, 0x645]]), (0xFD92,
  [[0x645, 0x62C, 0x62E], [0x647, 0x645, 0x62C], [0x647, 0x645, 0x645], [0x646, 0x62D, 0x645],
  [0x646, 0x62D, 0x649], [0x646, 0x62C, 0x645], [0x646, 0x62C, 0x645]]), (0xFD99,
  [[0x646, 0x62C, 0x649], [0x646, 0x645, 0x64A], [0x646, 0x645, 0x649], [0x64A, 0x645, 0x645],
  [0x64A, 0x645, 0x645], [0x628, 0x62E, 0x64A], [0x62A, 0x62C, 0x64A]]), (0xFDA0,
  [[0x62A, 0x62C, 0x649], [0x62A, 0x62E, 0x64A], [0x62A, 0x62E, 0x649], [0x62A, 0x645, 0x64A],
  [0x62A, 0x645, 0x649], [0x62C, 0x645, 0x64A], [0x62C, 0x62D, 0x649]]), (0xFDA7,
  [[0x62C, 0x645, 0x649], [0x633, 0x62E, 0x649], [0x635, 0x62D, 0x64A], [0x634, 0x62D, 0x64A],
  [0x636, 0x62D, 0x64A], [0x644, 0x62C, 0x64A], [0x644, 0x645, 0x64A]]), (0xFDAE,
  [[0x64A, 0x62D, 0x64A], [0x64A, 0x62C, 0x64A], [0x64A, 0x645, 0x64A], [0x645, 0x645, 0x64A],
  [0x642, 0x645, 0x64A], [0x646, 0x62D, 0x64A], [0x642, 0x645, 0x62D]]), (0xFDB5,
  [[0x644, 0x62D, 0x645], [0x639, 0x645, 0x64A], [0x643, 0x645, 0x64A], [0x646, 0x62C, 0x62D],
  [0x645, 0x62E, 0x64A], [0x644, 0x62C, 0x645], [0x643, 0x645, 0x645]]), (0xFDBC,
  [[0x644, 0x62C, 0x645], [0x646, 0x62C, 0x62D], [0x62C, 0x62D, 0x64A], [0x62D, 0x62C, 0x64A],
  [0x645, 0x62C, 0x64A], [0x641, 0x645, 0x64A], [0x628, 0x62D, 0x64A]]), (0xFDC3,
  [[0x643, 0x645, 0x645], [0x639, 0x62C, 0x645], [0x635, 0x645, 0x645], [0x633, 0x62E, 0x64A],
  [0x646, 0x62C, 0x64A]]), (0xFDF0, [[0x635, 0x644, 0x6D2], [0x642, 0x644, 0x6D2],
  [0x627, 0x644, 0x644, 0x647], [0x627, 0x643, 0x628, 0x631], [0x645, 0x62D, 0x645, 0x62F],
  [0x635, 0x644, 0x639, 0x645]]), (0xFDF6, [[0x631, 0x633, 0x648, 0x644],
  [0x639, 0x644, 0x64A, 0x647], [0x648, 0x633, 0x644, 0x645], [0x635, 0x644, 0x649], [0x635, 0x644,
  0x649, 0x20, 0x627, 0x644, 0x644, 0x647, 0x20, 0x639, 0x644, 0x64A, 0x647, 0x20, 0x648, 0x633,
  0x644, 0x645]]), (0xFDFB, [[0x62C, 0x644, 0x20, 0x62C, 0x644, 0x627, 0x644, 0x647],
  [0x631, 0x6CC, 0x627, 0x644]]), (0xFE10, [[0x2C], [0x3001]]), (0xFE13, [[0x3A], [0x3B], [0x21],
  [0x3F], [0x3016], [0x3017]]), (0xFE31, [[0x2014], [0x2013], [0x5F], [0x5F], [0x28], [0x29],
  [0x7B], [0x7D], [0x3014], [0x3015], [0x3010], [0x3011], [0x300A], [0x300B], [0x3008], [0x3009]]),
  (0xFE47, [[0x5B], [0x5D], [0x20, 0x305], [0x20, 0x305], [0x20, 0x305], [0x20, 0x305], [0x5F],
  [0x5F], [0x5F], [0x2C], [0x3001]]), (0xFE54, [[0x3B], [0x3A], [0x3F], [0x21], [0x2014], [0x28],
  [0x29], [0x7B], [0x7D], [0x3014], [0x3015], [0x23], [0x26], [0x2A], [0x2B], [0x2D], [0x3C],
  [0x3E], [0x3D]]), (0xFE68, [[0x5C], [0x24], [0x25], [0x40]]), (0xFE70, [[0x20, 0x64B],
  [0x640, 0x64B], [0x20, 0x64C]]), (0xFE74, [[0x20, 0x64D]]), (0xFE76, [[0x20, 0x64E],
  [0x640, 0x64E], [0x20, 0x64F], [0x640, 0x64F], [0x20, 0x650], [0x640, 0x650], [0x20, 0x651],
  [0x640, 0x651], [0x20, 0x652], [0x640, 0x652], [0x621], [0x622]]), (0xFE82, [[0x622], [0x623],
  [0x623], [0x624], [0x624], [0x625], [0x625], [0x626], [0x626], [0x626], [0x626], [0x627], [0x627],
  [0x628], [0x628], [0x628], [0x628], [0x629], [0x629], [0x62A]]), (0xFE96, [[0x62A], [0x62A],
  [0x62A], [0x62B], [0x62B], [0x62B], [0x62B], [0x62C], [0x62C], [0x62C], [0x62C], [0x62D], [0x62D],
  [0x62D], [0x62D], [0x62E], [0x62E], [0x62E], [0x62E], [0x62F]]), (0xFEAA, [[0x62F], [0x630],
  [0x630], [0x631], [0x631], [0x632], [0x632], [0x633], [0x633], [0x633], [0x633], [0x634], [0x634],
  [0x634], [0x634], [0x635], [0x635], [0x635], [0x635], [0x636]]), (0xFEBE, [[0x636], [0x636],
  [0x636], [0x637], [0x637], [0x637], [0x637], [0x638], [0x638], [0x638], [0x638], [0x639], [0x639],
  [0x639], [0x639], [0x63A], [0x63A], [0x63A], [0x63A], [0x641]]), (0xFED2, [[0x641], [0x641],
  [0x641], [0x642], [0x642], [0x642], [0x642], [0x643], [0x643], [0x643], [0x643], [0x644], [0x644],
  [0x644], [0x644], [0x645], [0x645], [0x645], [0x645], [0x646]]), (0xFEE6, [[0x646], [0x646],
  [0x646], [0x647], [0x647], [0x647], [0x647], [0x648], [0x648], [0x649], [0x649], [0x64A], [0x64A],
  [0x64A], [0x64A], [0x644, 0x622], [0x644, 0x622], [0x644, 0x623]]), (0xFEF8, [[0x644, 0x623],
  [0x644, 0x625], [0x644, 0x625], [0x644, 0x627], [0x644, 0x627]]), (0xFF5F, [[0x2985], [0x2986],
  [0x2E], [0x300C], [0x300D], [0x3001], [0x30FB], [0x30F2], [0x30A1], [0x30A3], [0x30A5], [0x30A7],
  [0x30A9], [0x30E3], [0x30E5], [0x30E7], [0x30C3]]), (0xFF70, [[0x30FC], [0x30A2], [0x30A4],
  [0x30A6], [0x30A8], [0x30AA], [0x30AB], [0x30AD], [0x30AF], [0x30B1], [0x30B3], [0x30B5],
  [0x30B7], [0x30B9], [0x30BB], [0x30BD]]), (0xFF80, [[0x30BF], [0x30C1], [0x30C4], [0x30C6],
  [0x30C8]]), (0xFF8B, [[0x30D2], [0x30D5], [0x30D8], [0x30DB]]), (0xFF94, [[0x30E4], [0x30E6]]),
  (0xFF9C, [[0x30EF], [0x30F3], [0x3099], [0x309A]]), (0xFFA1, [[0x1100], [0x1101], [0x11AA],
  [0x1102], [0x11AC], [0x11AD]]), (0xFFB0, [[0x111A]]), (0xFFB4, [[0x1121]]), (0xFFE0, [[0xA2],
  [0xA3], [0xAC], [0x20, 0x304], [0xA6], [0xA5], [0x20A9]]), (0xFFE8, [[0x2502]]), (0xFFED,
  [[0x25A0], [0x25CB]]), (0x10594, [[0x105BB], [0x105BC]]), (0x10781, [[0x2D0], [0x2D1], [0xE6],
  [0x299], [0x253]]), (0x10787, [[0x2A3], [0xAB66], [0x2A5], [0x2A4], [0x256], [0x257], [0x1D91],
  [0x258], [0x25E], [0x2A9], [0x264], [0x262], [0x260], [0x29B], [0x127], [0x29C], [0x267], [0x284],
  [0x2AA], [0x2AB]]), (0x1079B, [[0x26C], [0x1DF04], [0xA78E], [0x26E], [0x1DF05], [0x28E],
  [0x1DF06], [0xF8], [0x276], [0x277], [0x71], [0x27A], [0x1DF08], [0x27D], [0x27E], [0x280],
  [0x2A8], [0x2A6], [0xAB67]]), (0x107AE, [[0x2A7], [0x288], [0x2C71]]), (0x107B2, [[0x28F],
  [0x2A1], [0x2A2], [0x298]]), (0x107B9, [[0x1DF0A], [0x1DF1E]]), (0x1D49C, [[0x61]]), (0x1D49E,
  [[0x63], [0x64]]), (0x1D4A2, [[0x67]]), (0x1D4A5, [[0x6A], [0x6B]]), (0x1D4BB, [[0x66]]),
  (0x1D504, [[0x61], [0x62]]), (0x1D538, [[0x61], [0x62]]), (0x1D546, [[0x6F]]), (0x1D6A4, [[0x131],
  [0x237]]), (0x1D6B9, [[0x3B8]]), (0x1D6C1, [[0x2207]]), (0x1D6D3, [[0x3C3]]), (0x1D6DB, [[0x2202],
  [0x3B5], [0x3B8], [0x3BA], [0x3C6], [0x3C1], [0x3C0]]), (0x1D6F3, [[0x3B8]]), (0x1D6FB,
  [[0x2207]]), (0x1D70D, [[0x3C3]]), (0x1D715, [[0x2202], [0x3B5], [0x3B8], [0x3BA], [0x3C6],
  [0x3C1], [0x3C0]]), (0x1D72D, [[0x3B8]]), (0x1D735, [[0x2207]]), (0x1D747, [[0x3C3]]), (0x1D74F,
  [[0x2202], [0x3B5], [0x3B8], [0x3BA], [0x3C6], [0x3C1], [0x3C0]]), (0x1D767, [[0x3B8]]), (0x1D76F,
  [[0x2207]]), (0x1D781, [[0x3C3]]), (0x1D789, [[0x2202], [0x3B5], [0x3B8], [0x3BA], [0x3C6],
  [0x3C1], [0x3C0]]), (0x1D7A1, [[0x3B8]]), (0x1D7A9, [[0x2207]]), (0x1D7BB, [[0x3C3]]), (0x1D7C3,
  [[0x2202], [0x3B5], [0x3B8], [0x3BA], [0x3C6], [0x3C1], [0x3C0], [0x3DD], [0x3DD]]), (0x1E047,
  [[0x44B], [0x44D], [0x44E], [0xA689], [0x4D9], [0x456], [0x458], [0x4E9], [0x4AF], [0x4CF]]),
  (0x1E05A, [[0x43A], [0x43B], [0x43E], [0x43F], [0x441]]), (0x1E065, [[0x44A], [0x44B], [0x491],
  [0x456], [0x455], [0x45F], [0x4AB], [0xA651], [0x4B1]]), (0x1EE00, [[0x627], [0x628], [0x62C],
  [0x62F]]), (0x1EE05, [[0x648], [0x632], [0x62D], [0x637], [0x64A]]), (0x1EE0E, [[0x633], [0x639],
  [0x641], [0x635], [0x642], [0x631], [0x634], [0x62A], [0x62B], [0x62E], [0x630], [0x636], [0x638],
  [0x63A], [0x66E], [0x6BA], [0x6A1], [0x66F]]), (0x1EE21, [[0x628], [0x62C]]), (0x1EE24,
  [[0x647]]), (0x1EE27, [[0x62D]]), (0x1EE29, [[0x64A]]), (0x1EE2E, [[0x633], [0x639], [0x641],
  [0x635], [0x642]]), (0x1EE34, [[0x634], [0x62A], [0x62B], [0x62E]]), (0x1EE39, [[0x636]]),
  (0x1EE3B, [[0x63A]]), (0x1EE42, [[0x62C]]), (0x1EE47, [[0x62D]]), (0x1EE49, [[0x64A]]), (0x1EE4B,
  [[0x644]]), (0x1EE4D, [[0x646], [0x633], [0x639]]), (0x1EE51, [[0x635], [0x642]]), (0x1EE54,
  [[0x634]]), (0x1EE57, [[0x62E]]), (0x1EE59, [[0x636]]), (0x1EE5B, [[0x63A]]), (0x1EE5D,
  [[0x6BA]]), (0x1EE5F, [[0x66F]]), (0x1EE61, [[0x628], [0x62C]]), (0x1EE64, [[0x647]]), (0x1EE67,
  [[0x62D], [0x637], [0x64A], [0x643]]), (0x1EE6C, [[0x645], [0x646], [0x633], [0x639], [0x641],
  [0x635], [0x642]]), (0x1EE74, [[0x634], [0x62A], [0x62B], [0x62E]]), (0x1EE79, [[0x636], [0x638],
  [0x63A], [0x66E]]), (0x1EE7E, [[0x6A1]]), (0x1EE80, [[0x627], [0x628], [0x62C], [0x62F], [0x647],
  [0x648], [0x632], [0x62D], [0x637], [0x64A]]), (0x1EE8E, [[0x633], [0x639], [0x641], [0x635],
  [0x642], [0x631], [0x634], [0x62A], [0x62B], [0x62E], [0x630], [0x636], [0x638], [0x63A]]),
  (0x1EEA1, [[0x628], [0x62C], [0x62F]]), (0x1EEA5, [[0x648], [0x632], [0x62D], [0x637], [0x64A]]),
  (0x1EEAE, [[0x633], [0x639], [0x641], [0x635], [0x642], [0x631], [0x634], [0x62A], [0x62B],
  [0x62E], [0x630], [0x636], [0x638], [0x63A]]), (0x1F101, [[0x30, 0x2C], [0x31, 0x2C],
  [0x32, 0x2C], [0x33, 0x2C], [0x34, 0x2C], [0x35, 0x2C], [0x36, 0x2C], [0x37, 0x2C], [0x38, 0x2C],
  [0x39, 0x2C]]), (0x1F110, [[0x28, 0x61, 0x29], [0x28, 0x62, 0x29], [0x28, 0x63, 0x29],
  [0x28, 0x64, 0x29], [0x28, 0x65, 0x29], [0x28, 0x66, 0x29], [0x28, 0x67, 0x29],
  [0x28, 0x68, 0x29], [0x28, 0x69, 0x29]]), (0x1F119, [[0x28, 0x6A, 0x29], [0x28, 0x6B, 0x29],
  [0x28, 0x6C, 0x29], [0x28, 0x6D, 0x29], [0x28, 0x6E, 0x29], [0x28, 0x6F, 0x29],
  [0x28, 0x70, 0x29], [0x28, 0x71, 0x29], [0x28, 0x72, 0x29]]), (0x1F122, [[0x28, 0x73, 0x29],
  [0x28, 0x74, 0x29], [0x28, 0x75, 0x29], [0x28, 0x76, 0x29], [0x28, 0x77, 0x29],
  [0x28, 0x78, 0x29], [0x28, 0x79, 0x29], [0x28, 0x7A, 0x29], [0x3014, 0x73, 0x3015]]), (0x1F12B,
  [[0x63], [0x72], [0x63, 0x64], [0x77, 0x7A]]), (0x1F14A, [[0x68, 0x76], [0x6D, 0x76],
  [0x73, 0x64], [0x73, 0x73], [0x70, 0x70, 0x76], [0x77, 0x63]]), (0x1F16A, [[0x6D, 0x63],
  [0x6D, 0x64], [0x6D, 0x72]]), (0x1F190, [[0x64, 0x6A]]), (0x1F200, [[0x307B, 0x304B],
  [0x30B3, 0x30B3], [0x30B5]]), (0x1F210, [[0x624B], [0x5B57], [0x53CC], [0x30C7], [0x4E8C],
  [0x591A], [0x89E3], [0x5929], [0x4EA4], [0x6620], [0x7121], [0x6599], [0x524D], [0x5F8C],
  [0x518D], [0x65B0]]), (0x1F220, [[0x521D], [0x7D42], [0x751F], [0x8CA9], [0x58F0], [0x5439],
  [0x6F14], [0x6295], [0x6355], [0x4E00], [0x4E09], [0x904A], [0x5DE6], [0x4E2D], [0x53F3],
  [0x6307]]), (0x1F230, [[0x8D70], [0x6253], [0x7981], [0x7A7A], [0x5408], [0x6E80], [0x6709],
  [0x6708], [0x7533], [0x5272], [0x55B6], [0x914D]]), (0x1F240, [[0x3014, 0x672C, 0x3015],
  [0x3014, 0x4E09, 0x3015], [0x3014, 0x4E8C, 0x3015], [0x3014, 0x5B89, 0x3015],
  [0x3014, 0x70B9, 0x3015], [0x3014, 0x6253, 0x3015]]), (0x1F246, [[0x3014, 0x76D7, 0x3015],
  [0x3014, 0x52DD, 0x3015], [0x3014, 0x6557, 0x3015]]), (0x1F250, [[0x5F97], [0x53EF]])]

def fate (c : Char) : Fate :=
  let n := c.toNat
  if stayingRanges.contains n then .stays
  else if vanishingRanges.contains n then .vanishes
  else
    match alternatingRanges.start? n with
    | some first => if (n - first) % 2 = 0 then .becomes [Char.ofNat (n + 1)] else .stays
    | none =>
      match movedRanges.find? n with
      | some (_, distance) => .becomes [Char.ofNat (n + distance).toNat]
      | none =>
        match spelledTable.find? n with
        | some (first, spellings) =>
          match spellings[n - first]? with
          | some text => .becomes text
          | none => .refused
        | none => .refused

end Sitemaps.Unicode
