import LabEditor.Text.Basic

/-! The ASCII part of the compatibility decomposition: letters without their marks, plain forms of
full-width, styled, circled and ligature characters, and nothing of all others. -/
namespace LabEditor.Text

/-- Code points in a row whose ASCII parts are the single characters of a text. -/
def plainForms : List (Nat × String) := [
  (0xa0, " "), (0xa8, " "), (0xaa, "a"), (0xaf, " "), (0xb2, "23 "), (0xb8, " 1o"),
  (0xc0, "AAAAAA"), (0xc7, "CEEEEIIII"), (0xd1, "NOOOOO"), (0xd9, "UUUUY"), (0xe0, "aaaaaa"),
  (0xe7, "ceeeeiiii"), (0xf1, "nooooo"), (0xf9, "uuuuy"), (0xff, "yAaAaAaCcCcCcCcDd"),
  (0x112, "EeEeEeEeEeGgGgGgGgHh"), (0x128, "IiIiIiIiI"), (0x134, "JjKk"), (0x139, "LlLlLlLl"),
  (0x143, "NnNnNnn"), (0x14c, "OoOoOo"), (0x154, "RrRrRrSsSsSsSsTtTt"),
  (0x168, "UuUuUuUuUuUuWwYyYZzZzZzs"), (0x1a0, "Oo"), (0x1af, "Uu"), (0x1cd, "AaIiOoUuUuUuUuUu"),
  (0x1de, "AaAa"), (0x1e6, "GgKkOoOo"), (0x1f0, "j"), (0x1f4, "Gg"), (0x1f8, "NnAa"),
  (0x200, "AaAaEeEeIiIiOoOoRrRrUuUuSsTt"), (0x21e, "Hh"), (0x226, "AaEeOoOoOoOoYy"),
  (0x2b0, "h"), (0x2b2, "jr"), (0x2b7, "wy"), (0x2d8, "      "), (0x2e1, "lsx"), (0x37a, " "),
  (0x37e, ";"), (0x384, "  "), (0x1d2c, "A"), (0x1d2e, "B"), (0x1d30, "DE"),
  (0x1d33, "GHIJKLMN"), (0x1d3c, "O"), (0x1d3e, "PRTUWa"), (0x1d47, "bde"), (0x1d4d, "g"),
  (0x1d4f, "km"), (0x1d52, "o"), (0x1d56, "ptu"), (0x1d5b, "v"), (0x1d62, "iruv"), (0x1d9c, "c"),
  (0x1da0, "f"), (0x1dbb, "z"),
  (0x1e00, "AaBbBbBbCcDdDdDdDdDdEeEeEeEeEeFfGgHhHhHhHhHhIiIiKkKkKkLlLlLlLlMmMmMmNnNnNnNnOo"),
  (0x1e4e, "OoOoOoPpPpRrRrRrRrSsSsSsSsSsTtTtTtTtUuUuUuUuUuVvVvWwWwWwWwWwXxXxYyZzZzZzhtwyas"),
  (0x1ea0, "AaAaAaAaAaAaAaAaAaAaAaAaEeEeEeEeEeEeEeEeIiIiOoOoOoOoOoOoOoOoOoOoOoOoUuUuUuUuUu"),
  (0x1eee, "UuUuYyYyYyYy"), (0x1fbd, " "), (0x1fbf, "   "), (0x1fcd, "   "), (0x1fdd, "   "),
  (0x1fed, "  `"), (0x1ffd, "  "), (0x2000, "           "), (0x2017, " "), (0x2024, "."),
  (0x202f, " "), (0x203e, " "), (0x205f, " "), (0x2070, "0i"), (0x2074, "456789+"),
  (0x207c, "=()n0123456789+"), (0x208c, "=()"), (0x2090, "aeox"), (0x2095, "hklmnpst"),
  (0x2102, "CC"), (0x2109, "FgHHHh"), (0x2110, "IILl"), (0x2115, "N"), (0x2119, "PQRRR"),
  (0x2124, "Z"), (0x2128, "Z"), (0x212a, "KABC"), (0x212f, "eEF"), (0x2133, "Mo"), (0x2139, "i"),
  (0x2145, "Ddeij"), (0x215f, "1I"), (0x2164, "V"), (0x2169, "X"), (0x216c, "LCDMi"),
  (0x2174, "v"), (0x2179, "x"), (0x217c, "lcdm"), (0x2260, "="), (0x226e, "<>"),
  (0x2460, "123456789"), (0x24b6, "ABCDEFGHIJKLMNOPQRSTUVWXYZabcdefghijklmnopqrstuvwxyz0"),
  (0x2c7c, "jV"), (0x3000, " "), (0x309b, "  "), (0x32c0, "123456789"), (0x3358, "0123456789"),
  (0x3382, "A"), (0x338c, "Fg"), (0x3395, "l"), (0x339b, "m"), (0x33b2, "s"), (0x33b6, "V"),
  (0x33bc, "W"), (0x33c0, "kM"), (0x33e0, "123456789"), (0xa7f2, "CFQ"), (0xfb29, "+"),
  (0xfc5e, "      "), (0xfdfb, " "), (0xfe10, ","), (0xfe13, ":;!?"), (0xfe33, "__()\x7b\x7d"),
  (0xfe47, "[]    ___,"), (0xfe52, "."), (0xfe54, ";:?!"), (0xfe59, "()\x7b\x7d"),
  (0xfe5f, "#&*+-<>="), (0xfe68, "\\$%@"), (0xfe70, " "), (0xfe72, " "), (0xfe74, " "),
  (0xfe76, " "), (0xfe78, " "), (0xfe7a, " "), (0xfe7c, " "), (0xfe7e, " "),
  (0xff01, "!\"#$%&'()*+,-./0123456789:;<=>?@ABCDEFGHIJKLMNOPQRSTUVWXYZ[\\]^_`abcdefghijklmn"),
  (0xff4f, "opqrstuvwxyz\x7b|\x7d~"), (0xffe3, " "), (0x107a5, "q"),
  (0x1d400, "ABCDEFGHIJKLMNOPQRSTUVWXYZabcdefghijklmnopqrstuvwxyzABCDEFGHIJKLMNOPQRSTUVWXYZ"),
  (0x1d44e, "abcdefg"),
  (0x1d456, "ijklmnopqrstuvwxyzABCDEFGHIJKLMNOPQRSTUVWXYZabcdefghijklmnopqrstuvwxyzA"),
  (0x1d49e, "CD"), (0x1d4a2, "G"), (0x1d4a5, "JK"), (0x1d4a9, "NOPQ"), (0x1d4ae, "STUVWXYZabcd"),
  (0x1d4bb, "f"), (0x1d4bd, "hijklmn"),
  (0x1d4c5, "pqrstuvwxyzABCDEFGHIJKLMNOPQRSTUVWXYZabcdefghijklmnopqrstuvwxyzAB"),
  (0x1d507, "DEFG"), (0x1d50d, "JKLMNOPQ"), (0x1d516, "STUVWXY"),
  (0x1d51e, "abcdefghijklmnopqrstuvwxyzAB"), (0x1d53b, "DEFG"), (0x1d540, "IJKLM"),
  (0x1d546, "O"), (0x1d54a, "STUVWXY"),
  (0x1d552, "abcdefghijklmnopqrstuvwxyzABCDEFGHIJKLMNOPQRSTUVWXYZabcdefghijklmnopqrstuvwxyz"),
  (0x1d5a0, "ABCDEFGHIJKLMNOPQRSTUVWXYZabcdefghijklmnopqrstuvwxyzABCDEFGHIJKLMNOPQRSTUVWXYZ"),
  (0x1d5ee, "abcdefghijklmnopqrstuvwxyzABCDEFGHIJKLMNOPQRSTUVWXYZabcdefghijklmnopqrstuvwxyz"),
  (0x1d63c, "ABCDEFGHIJKLMNOPQRSTUVWXYZabcdefghijklmnopqrstuvwxyzABCDEFGHIJKLMNOPQRSTUVWXYZ"),
  (0x1d68a, "abcdefghijklmnopqrstuvwxyz"),
  (0x1d7ce, "01234567890123456789012345678901234567890123456789"), (0x1f12a, "SCR"),
  (0x1f130, "ABCDEFGHIJKLMNOPQRSTUVWXYZ"), (0x1fbf0, "0123456789")]

/-- Code points whose ASCII part has several characters. -/
def plainSequences : List (Nat × String) := [
  (0xbc, "14"), (0xbd, "12"), (0xbe, "34"), (0x132, "IJ"), (0x133, "ij"), (0x1c4, "DZ"),
  (0x1c5, "Dz"), (0x1c6, "dz"), (0x1c7, "LJ"), (0x1c8, "Lj"), (0x1c9, "lj"), (0x1ca, "NJ"),
  (0x1cb, "Nj"), (0x1cc, "nj"), (0x1f1, "DZ"), (0x1f2, "Dz"), (0x1f3, "dz"), (0x2025, ".."),
  (0x2026, "..."), (0x203c, "!!"), (0x2047, "??"), (0x2048, "?!"), (0x2049, "!?"),
  (0x20a8, "Rs"), (0x2100, "a/c"), (0x2101, "a/s"), (0x2105, "c/o"), (0x2106, "c/u"),
  (0x2116, "No"), (0x2120, "SM"), (0x2121, "TEL"), (0x2122, "TM"), (0x213b, "FAX"),
  (0x2150, "17"), (0x2151, "19"), (0x2152, "110"), (0x2153, "13"), (0x2154, "23"),
  (0x2155, "15"), (0x2156, "25"), (0x2157, "35"), (0x2158, "45"), (0x2159, "16"), (0x215a, "56"),
  (0x215b, "18"), (0x215c, "38"), (0x215d, "58"), (0x215e, "78"), (0x2161, "II"),
  (0x2162, "III"), (0x2163, "IV"), (0x2165, "VI"), (0x2166, "VII"), (0x2167, "VIII"),
  (0x2168, "IX"), (0x216a, "XI"), (0x216b, "XII"), (0x2171, "ii"), (0x2172, "iii"),
  (0x2173, "iv"), (0x2175, "vi"), (0x2176, "vii"), (0x2177, "viii"), (0x2178, "ix"),
  (0x217a, "xi"), (0x217b, "xii"), (0x2189, "03"), (0x2469, "10"), (0x246a, "11"),
  (0x246b, "12"), (0x246c, "13"), (0x246d, "14"), (0x246e, "15"), (0x246f, "16"), (0x2470, "17"),
  (0x2471, "18"), (0x2472, "19"), (0x2473, "20"), (0x2474, "(1)"), (0x2475, "(2)"),
  (0x2476, "(3)"), (0x2477, "(4)"), (0x2478, "(5)"), (0x2479, "(6)"), (0x247a, "(7)"),
  (0x247b, "(8)"), (0x247c, "(9)"), (0x247d, "(10)"), (0x247e, "(11)"), (0x247f, "(12)"),
  (0x2480, "(13)"), (0x2481, "(14)"), (0x2482, "(15)"), (0x2483, "(16)"), (0x2484, "(17)"),
  (0x2485, "(18)"), (0x2486, "(19)"), (0x2487, "(20)"), (0x2488, "1."), (0x2489, "2."),
  (0x248a, "3."), (0x248b, "4."), (0x248c, "5."), (0x248d, "6."), (0x248e, "7."), (0x248f, "8."),
  (0x2490, "9."), (0x2491, "10."), (0x2492, "11."), (0x2493, "12."), (0x2494, "13."),
  (0x2495, "14."), (0x2496, "15."), (0x2497, "16."), (0x2498, "17."), (0x2499, "18."),
  (0x249a, "19."), (0x249b, "20."), (0x249c, "(a)"), (0x249d, "(b)"), (0x249e, "(c)"),
  (0x249f, "(d)"), (0x24a0, "(e)"), (0x24a1, "(f)"), (0x24a2, "(g)"), (0x24a3, "(h)"),
  (0x24a4, "(i)"), (0x24a5, "(j)"), (0x24a6, "(k)"), (0x24a7, "(l)"), (0x24a8, "(m)"),
  (0x24a9, "(n)"), (0x24aa, "(o)"), (0x24ab, "(p)"), (0x24ac, "(q)"), (0x24ad, "(r)"),
  (0x24ae, "(s)"), (0x24af, "(t)"), (0x24b0, "(u)"), (0x24b1, "(v)"), (0x24b2, "(w)"),
  (0x24b3, "(x)"), (0x24b4, "(y)"), (0x24b5, "(z)"), (0x2a74, "::="), (0x2a75, "=="),
  (0x2a76, "==="), (0x3200, "()"), (0x3201, "()"), (0x3202, "()"), (0x3203, "()"),
  (0x3204, "()"), (0x3205, "()"), (0x3206, "()"), (0x3207, "()"), (0x3208, "()"), (0x3209, "()"),
  (0x320a, "()"), (0x320b, "()"), (0x320c, "()"), (0x320d, "()"), (0x320e, "()"), (0x320f, "()"),
  (0x3210, "()"), (0x3211, "()"), (0x3212, "()"), (0x3213, "()"), (0x3214, "()"), (0x3215, "()"),
  (0x3216, "()"), (0x3217, "()"), (0x3218, "()"), (0x3219, "()"), (0x321a, "()"), (0x321b, "()"),
  (0x321c, "()"), (0x321d, "()"), (0x321e, "()"), (0x3220, "()"), (0x3221, "()"), (0x3222, "()"),
  (0x3223, "()"), (0x3224, "()"), (0x3225, "()"), (0x3226, "()"), (0x3227, "()"), (0x3228, "()"),
  (0x3229, "()"), (0x322a, "()"), (0x322b, "()"), (0x322c, "()"), (0x322d, "()"), (0x322e, "()"),
  (0x322f, "()"), (0x3230, "()"), (0x3231, "()"), (0x3232, "()"), (0x3233, "()"), (0x3234, "()"),
  (0x3235, "()"), (0x3236, "()"), (0x3237, "()"), (0x3238, "()"), (0x3239, "()"), (0x323a, "()"),
  (0x323b, "()"), (0x323c, "()"), (0x323d, "()"), (0x323e, "()"), (0x323f, "()"), (0x3240, "()"),
  (0x3241, "()"), (0x3242, "()"), (0x3243, "()"), (0x3250, "PTE"), (0x3251, "21"),
  (0x3252, "22"), (0x3253, "23"), (0x3254, "24"), (0x3255, "25"), (0x3256, "26"), (0x3257, "27"),
  (0x3258, "28"), (0x3259, "29"), (0x325a, "30"), (0x325b, "31"), (0x325c, "32"), (0x325d, "33"),
  (0x325e, "34"), (0x325f, "35"), (0x32b1, "36"), (0x32b2, "37"), (0x32b3, "38"), (0x32b4, "39"),
  (0x32b5, "40"), (0x32b6, "41"), (0x32b7, "42"), (0x32b8, "43"), (0x32b9, "44"), (0x32ba, "45"),
  (0x32bb, "46"), (0x32bc, "47"), (0x32bd, "48"), (0x32be, "49"), (0x32bf, "50"), (0x32c9, "10"),
  (0x32ca, "11"), (0x32cb, "12"), (0x32cc, "Hg"), (0x32cd, "erg"), (0x32ce, "eV"),
  (0x32cf, "LTD"), (0x3362, "10"), (0x3363, "11"), (0x3364, "12"), (0x3365, "13"),
  (0x3366, "14"), (0x3367, "15"), (0x3368, "16"), (0x3369, "17"), (0x336a, "18"), (0x336b, "19"),
  (0x336c, "20"), (0x336d, "21"), (0x336e, "22"), (0x336f, "23"), (0x3370, "24"),
  (0x3371, "hPa"), (0x3372, "da"), (0x3373, "AU"), (0x3374, "bar"), (0x3375, "oV"),
  (0x3376, "pc"), (0x3377, "dm"), (0x3378, "dm2"), (0x3379, "dm3"), (0x337a, "IU"),
  (0x3380, "pA"), (0x3381, "nA"), (0x3383, "mA"), (0x3384, "kA"), (0x3385, "KB"), (0x3386, "MB"),
  (0x3387, "GB"), (0x3388, "cal"), (0x3389, "kcal"), (0x338a, "pF"), (0x338b, "nF"),
  (0x338e, "mg"), (0x338f, "kg"), (0x3390, "Hz"), (0x3391, "kHz"), (0x3392, "MHz"),
  (0x3393, "GHz"), (0x3394, "THz"), (0x3396, "ml"), (0x3397, "dl"), (0x3398, "kl"),
  (0x3399, "fm"), (0x339a, "nm"), (0x339c, "mm"), (0x339d, "cm"), (0x339e, "km"),
  (0x339f, "mm2"), (0x33a0, "cm2"), (0x33a1, "m2"), (0x33a2, "km2"), (0x33a3, "mm3"),
  (0x33a4, "cm3"), (0x33a5, "m3"), (0x33a6, "km3"), (0x33a7, "ms"), (0x33a8, "ms2"),
  (0x33a9, "Pa"), (0x33aa, "kPa"), (0x33ab, "MPa"), (0x33ac, "GPa"), (0x33ad, "rad"),
  (0x33ae, "rads"), (0x33af, "rads2"), (0x33b0, "ps"), (0x33b1, "ns"), (0x33b3, "ms"),
  (0x33b4, "pV"), (0x33b5, "nV"), (0x33b7, "mV"), (0x33b8, "kV"), (0x33b9, "MV"), (0x33ba, "pW"),
  (0x33bb, "nW"), (0x33bd, "mW"), (0x33be, "kW"), (0x33bf, "MW"), (0x33c2, "a.m."),
  (0x33c3, "Bq"), (0x33c4, "cc"), (0x33c5, "cd"), (0x33c6, "Ckg"), (0x33c7, "Co."),
  (0x33c8, "dB"), (0x33c9, "Gy"), (0x33ca, "ha"), (0x33cb, "HP"), (0x33cc, "in"), (0x33cd, "KK"),
  (0x33ce, "KM"), (0x33cf, "kt"), (0x33d0, "lm"), (0x33d1, "ln"), (0x33d2, "log"),
  (0x33d3, "lx"), (0x33d4, "mb"), (0x33d5, "mil"), (0x33d6, "mol"), (0x33d7, "PH"),
  (0x33d8, "p.m."), (0x33d9, "PPM"), (0x33da, "PR"), (0x33db, "sr"), (0x33dc, "Sv"),
  (0x33dd, "Wb"), (0x33de, "Vm"), (0x33df, "Am"), (0x33e9, "10"), (0x33ea, "11"), (0x33eb, "12"),
  (0x33ec, "13"), (0x33ed, "14"), (0x33ee, "15"), (0x33ef, "16"), (0x33f0, "17"), (0x33f1, "18"),
  (0x33f2, "19"), (0x33f3, "20"), (0x33f4, "21"), (0x33f5, "22"), (0x33f6, "23"), (0x33f7, "24"),
  (0x33f8, "25"), (0x33f9, "26"), (0x33fa, "27"), (0x33fb, "28"), (0x33fc, "29"), (0x33fd, "30"),
  (0x33fe, "31"), (0x33ff, "gal"), (0xfb00, "ff"), (0xfb01, "fi"), (0xfb02, "fl"),
  (0xfb03, "ffi"), (0xfb04, "ffl"), (0xfb05, "st"), (0xfb06, "st"), (0xfdfa, "   "),
  (0xfe19, "..."), (0xfe30, ".."), (0x1f100, "0."), (0x1f101, "0,"), (0x1f102, "1,"),
  (0x1f103, "2,"), (0x1f104, "3,"), (0x1f105, "4,"), (0x1f106, "5,"), (0x1f107, "6,"),
  (0x1f108, "7,"), (0x1f109, "8,"), (0x1f10a, "9,"), (0x1f110, "(A)"), (0x1f111, "(B)"),
  (0x1f112, "(C)"), (0x1f113, "(D)"), (0x1f114, "(E)"), (0x1f115, "(F)"), (0x1f116, "(G)"),
  (0x1f117, "(H)"), (0x1f118, "(I)"), (0x1f119, "(J)"), (0x1f11a, "(K)"), (0x1f11b, "(L)"),
  (0x1f11c, "(M)"), (0x1f11d, "(N)"), (0x1f11e, "(O)"), (0x1f11f, "(P)"), (0x1f120, "(Q)"),
  (0x1f121, "(R)"), (0x1f122, "(S)"), (0x1f123, "(T)"), (0x1f124, "(U)"), (0x1f125, "(V)"),
  (0x1f126, "(W)"), (0x1f127, "(X)"), (0x1f128, "(Y)"), (0x1f129, "(Z)"), (0x1f12d, "CD"),
  (0x1f12e, "WZ"), (0x1f14a, "HV"), (0x1f14b, "MV"), (0x1f14c, "SD"), (0x1f14d, "SS"),
  (0x1f14e, "PPV"), (0x1f14f, "WC"), (0x1f16a, "MC"), (0x1f16b, "MD"), (0x1f16c, "MR"),
  (0x1f190, "DJ")]

/-- The ASCII characters of a character's compatibility decomposition. -/
def asciiPart (c : CodePoint) : Text :=
  if c.toNat < 0x80 then [c]
  else
    match plainForms.find? fun (first, forms) =>
      first ≤ c.toNat && c.toNat < first + forms.length with
    | some (first, forms) => ((forms : Text)[c.toNat - first]?).toList
    | none =>
      match plainSequences.find? fun (code, _) => code == c.toNat with
      | some (_, sequence) => sequence
      | none => []

/-- The text decomposed, with all but its ASCII characters dropped. -/
def toAscii (t : Text) : Text :=
  (t.flatMap asciiPart).filter fun c => c.toNat < 0x80

end LabEditor.Text
