import RowQuery.Text.Runs

/-!
# Characters that a domain name spells out

Ligatures, fractions, signs in brackets and the like, each mapped to a text of several characters.
-/
namespace RowQuery.Url.Domain

open Text (Runs)

def spellings : Runs (List Nat) :=
  [
    (0xa8, [[0x20, 0x308]]), (0xaf, [[0x20, 0x304]]), (0xb4, [[0x20, 0x301]]),
    (0xb8, [[0x20, 0x327]]), (0xbc, [[0x31, 0x2044, 0x34], [0x31, 0x2044, 0x32],
    [0x33, 0x2044, 0x34]]), (0x132, [[0x69, 0x6a], [0x69, 0x6a]]), (0x13f, [[0x6c, 0xb7],
    [0x6c, 0xb7]]), (0x149, [[0x2bc, 0x6e]]), (0x1c4, [[0x64, 0x7a, 0x30c], [0x64, 0x7a, 0x30c],
    [0x64, 0x7a, 0x30c], [0x6c, 0x6a], [0x6c, 0x6a], [0x6c, 0x6a], [0x6e, 0x6a], [0x6e, 0x6a],
    [0x6e, 0x6a]]), (0x1f1, [[0x64, 0x7a], [0x64, 0x7a], [0x64, 0x7a]]), (0x2d8, [[0x20, 0x306],
    [0x20, 0x307], [0x20, 0x30a], [0x20, 0x328], [0x20, 0x303], [0x20, 0x30b]]),
    (0x37a, [[0x20, 0x3b9]]), (0x384, [[0x20, 0x301]]), (0x587, [[0x565, 0x582]]),
    (0x675, [[0x627, 0x674], [0x648, 0x674], [0x6c7, 0x674], [0x64a, 0x674]]),
    (0xe33, [[0xe4d, 0xe32]]), (0xeb3, [[0xecd, 0xeb2]]), (0xedc, [[0xeab, 0xe99], [0xeab, 0xea1]]),
    (0xf77, [[0xfb2, 0xf71, 0xf80]]), (0xf79, [[0xfb3, 0xf71, 0xf80]]), (0x1e9a, [[0x61, 0x2be]]),
    (0x1fbd, [[0x20, 0x313]]), (0x1fbf, [[0x20, 0x313], [0x20, 0x342]]), (0x1ffe, [[0x20, 0x314]]),
    (0x2017, [[0x20, 0x333]]), (0x2033, [[0x2032, 0x2032], [0x2032, 0x2032, 0x2032]]),
    (0x2036, [[0x2035, 0x2035], [0x2035, 0x2035, 0x2035]]), (0x203c, [[0x21, 0x21]]),
    (0x203e, [[0x20, 0x305]]), (0x2047, [[0x3f, 0x3f], [0x3f, 0x21], [0x21, 0x3f]]),
    (0x2057, [[0x2032, 0x2032, 0x2032, 0x2032]]), (0x20a8, [[0x72, 0x73]]),
    (0x2100, [[0x61, 0x2f, 0x63], [0x61, 0x2f, 0x73]]), (0x2103, [[0xb0, 0x63]]),
    (0x2105, [[0x63, 0x2f, 0x6f], [0x63, 0x2f, 0x75]]), (0x2109, [[0xb0, 0x66]]),
    (0x2116, [[0x6e, 0x6f]]), (0x2120, [[0x73, 0x6d], [0x74, 0x65, 0x6c], [0x74, 0x6d]]),
    (0x213b, [[0x66, 0x61, 0x78]]), (0x2150, [[0x31, 0x2044, 0x37], [0x31, 0x2044, 0x39],
    [0x31, 0x2044, 0x31, 0x30], [0x31, 0x2044, 0x33], [0x32, 0x2044, 0x33], [0x31, 0x2044, 0x35],
    [0x32, 0x2044, 0x35], [0x33, 0x2044, 0x35], [0x34, 0x2044, 0x35], [0x31, 0x2044, 0x36],
    [0x35, 0x2044, 0x36], [0x31, 0x2044, 0x38], [0x33, 0x2044, 0x38], [0x35, 0x2044, 0x38],
    [0x37, 0x2044, 0x38], [0x31, 0x2044]]), (0x2161, [[0x69, 0x69], [0x69, 0x69, 0x69],
    [0x69, 0x76]]), (0x2165, [[0x76, 0x69], [0x76, 0x69, 0x69], [0x76, 0x69, 0x69, 0x69],
    [0x69, 0x78]]), (0x216a, [[0x78, 0x69], [0x78, 0x69, 0x69]]), (0x2171, [[0x69, 0x69],
    [0x69, 0x69, 0x69], [0x69, 0x76]]), (0x2175, [[0x76, 0x69], [0x76, 0x69, 0x69],
    [0x76, 0x69, 0x69, 0x69], [0x69, 0x78]]), (0x217a, [[0x78, 0x69], [0x78, 0x69, 0x69]]),
    (0x2189, [[0x30, 0x2044, 0x33]]), (0x222c, [[0x222b, 0x222b], [0x222b, 0x222b, 0x222b]]),
    (0x222f, [[0x222e, 0x222e], [0x222e, 0x222e, 0x222e]]), (0x2469, [[0x31, 0x30], [0x31, 0x31],
    [0x31, 0x32], [0x31, 0x33], [0x31, 0x34], [0x31, 0x35], [0x31, 0x36], [0x31, 0x37],
    [0x31, 0x38], [0x31, 0x39], [0x32, 0x30], [0x28, 0x31, 0x29], [0x28, 0x32, 0x29],
    [0x28, 0x33, 0x29], [0x28, 0x34, 0x29], [0x28, 0x35, 0x29], [0x28, 0x36, 0x29],
    [0x28, 0x37, 0x29], [0x28, 0x38, 0x29], [0x28, 0x39, 0x29], [0x28, 0x31, 0x30, 0x29],
    [0x28, 0x31, 0x31, 0x29], [0x28, 0x31, 0x32, 0x29], [0x28, 0x31, 0x33, 0x29],
    [0x28, 0x31, 0x34, 0x29], [0x28, 0x31, 0x35, 0x29], [0x28, 0x31, 0x36, 0x29],
    [0x28, 0x31, 0x37, 0x29], [0x28, 0x31, 0x38, 0x29], [0x28, 0x31, 0x39, 0x29],
    [0x28, 0x32, 0x30, 0x29]]), (0x249c, [[0x28, 0x61, 0x29], [0x28, 0x62, 0x29],
    [0x28, 0x63, 0x29], [0x28, 0x64, 0x29], [0x28, 0x65, 0x29], [0x28, 0x66, 0x29],
    [0x28, 0x67, 0x29], [0x28, 0x68, 0x29], [0x28, 0x69, 0x29], [0x28, 0x6a, 0x29],
    [0x28, 0x6b, 0x29], [0x28, 0x6c, 0x29], [0x28, 0x6d, 0x29], [0x28, 0x6e, 0x29],
    [0x28, 0x6f, 0x29], [0x28, 0x70, 0x29], [0x28, 0x71, 0x29], [0x28, 0x72, 0x29],
    [0x28, 0x73, 0x29], [0x28, 0x74, 0x29], [0x28, 0x75, 0x29], [0x28, 0x76, 0x29],
    [0x28, 0x77, 0x29], [0x28, 0x78, 0x29], [0x28, 0x79, 0x29], [0x28, 0x7a, 0x29]]),
    (0x2a0c, [[0x222b, 0x222b, 0x222b, 0x222b]]), (0x2a74, [[0x3a, 0x3a, 0x3d], [0x3d, 0x3d],
    [0x3d, 0x3d, 0x3d]]), (0x309b, [[0x20, 0x3099], [0x20, 0x309a]]), (0x309f, [[0x3088, 0x308a]]),
    (0x30ff, [[0x30b3, 0x30c8]]), (0x3200, [[0x28, 0x1100, 0x29], [0x28, 0x1102, 0x29],
    [0x28, 0x1103, 0x29], [0x28, 0x1105, 0x29], [0x28, 0x1106, 0x29], [0x28, 0x1107, 0x29],
    [0x28, 0x1109, 0x29], [0x28, 0x110b, 0x29], [0x28, 0x110c, 0x29], [0x28, 0x110e, 0x29],
    [0x28, 0x110f, 0x29], [0x28, 0x1110, 0x29], [0x28, 0x1111, 0x29], [0x28, 0x1112, 0x29],
    [0x28, 0x1100, 0x1161, 0x29], [0x28, 0x1102, 0x1161, 0x29], [0x28, 0x1103, 0x1161, 0x29],
    [0x28, 0x1105, 0x1161, 0x29], [0x28, 0x1106, 0x1161, 0x29], [0x28, 0x1107, 0x1161, 0x29],
    [0x28, 0x1109, 0x1161, 0x29], [0x28, 0x110b, 0x1161, 0x29], [0x28, 0x110c, 0x1161, 0x29],
    [0x28, 0x110e, 0x1161, 0x29], [0x28, 0x110f, 0x1161, 0x29], [0x28, 0x1110, 0x1161, 0x29],
    [0x28, 0x1111, 0x1161, 0x29], [0x28, 0x1112, 0x1161, 0x29], [0x28, 0x110c, 0x116e, 0x29], [0x28,
    0x110b, 0x1169, 0x110c, 0x1165, 0x11ab, 0x29], [0x28, 0x110b, 0x1169, 0x1112, 0x116e, 0x29]]),
    (0x3220, [[0x28, 0x4e00, 0x29], [0x28, 0x4e8c, 0x29], [0x28, 0x4e09, 0x29],
    [0x28, 0x56db, 0x29], [0x28, 0x4e94, 0x29], [0x28, 0x516d, 0x29], [0x28, 0x4e03, 0x29],
    [0x28, 0x516b, 0x29], [0x28, 0x4e5d, 0x29], [0x28, 0x5341, 0x29], [0x28, 0x6708, 0x29],
    [0x28, 0x706b, 0x29], [0x28, 0x6c34, 0x29], [0x28, 0x6728, 0x29], [0x28, 0x91d1, 0x29],
    [0x28, 0x571f, 0x29], [0x28, 0x65e5, 0x29], [0x28, 0x682a, 0x29], [0x28, 0x6709, 0x29],
    [0x28, 0x793e, 0x29], [0x28, 0x540d, 0x29], [0x28, 0x7279, 0x29], [0x28, 0x8ca1, 0x29],
    [0x28, 0x795d, 0x29], [0x28, 0x52b4, 0x29], [0x28, 0x4ee3, 0x29], [0x28, 0x547c, 0x29],
    [0x28, 0x5b66, 0x29], [0x28, 0x76e3, 0x29], [0x28, 0x4f01, 0x29], [0x28, 0x8cc7, 0x29],
    [0x28, 0x5354, 0x29], [0x28, 0x796d, 0x29], [0x28, 0x4f11, 0x29], [0x28, 0x81ea, 0x29],
    [0x28, 0x81f3, 0x29]]), (0x3250, [[0x70, 0x74, 0x65], [0x32, 0x31], [0x32, 0x32], [0x32, 0x33],
    [0x32, 0x34], [0x32, 0x35], [0x32, 0x36], [0x32, 0x37], [0x32, 0x38], [0x32, 0x39],
    [0x33, 0x30], [0x33, 0x31], [0x33, 0x32], [0x33, 0x33], [0x33, 0x34], [0x33, 0x35]]),
    (0x326e, [[0x1100, 0x1161], [0x1102, 0x1161], [0x1103, 0x1161], [0x1105, 0x1161],
    [0x1106, 0x1161], [0x1107, 0x1161], [0x1109, 0x1161], [0x110b, 0x1161], [0x110c, 0x1161],
    [0x110e, 0x1161], [0x110f, 0x1161], [0x1110, 0x1161], [0x1111, 0x1161], [0x1112, 0x1161],
    [0x110e, 0x1161, 0x11b7, 0x1100, 0x1169], [0x110c, 0x116e, 0x110b, 0x1174], [0x110b, 0x116e]]),
    (0x32b1, [[0x33, 0x36], [0x33, 0x37], [0x33, 0x38], [0x33, 0x39], [0x34, 0x30], [0x34, 0x31],
    [0x34, 0x32], [0x34, 0x33], [0x34, 0x34], [0x34, 0x35], [0x34, 0x36], [0x34, 0x37],
    [0x34, 0x38], [0x34, 0x39], [0x35, 0x30], [0x31, 0x6708], [0x32, 0x6708], [0x33, 0x6708],
    [0x34, 0x6708], [0x35, 0x6708], [0x36, 0x6708], [0x37, 0x6708], [0x38, 0x6708], [0x39, 0x6708],
    [0x31, 0x30, 0x6708], [0x31, 0x31, 0x6708], [0x31, 0x32, 0x6708], [0x68, 0x67],
    [0x65, 0x72, 0x67], [0x65, 0x76], [0x6c, 0x74, 0x64]]), (0x32ff, [[0x4ee4, 0x548c],
    [0x30a2, 0x30cf, 0x309a, 0x30fc, 0x30c8], [0x30a2, 0x30eb, 0x30d5, 0x30a1],
    [0x30a2, 0x30f3, 0x30d8, 0x309a, 0x30a2], [0x30a2, 0x30fc, 0x30eb],
    [0x30a4, 0x30cb, 0x30f3, 0x30af, 0x3099], [0x30a4, 0x30f3, 0x30c1], [0x30a6, 0x30a9, 0x30f3],
    [0x30a8, 0x30b9, 0x30af, 0x30fc, 0x30c8, 0x3099], [0x30a8, 0x30fc, 0x30ab, 0x30fc],
    [0x30aa, 0x30f3, 0x30b9], [0x30aa, 0x30fc, 0x30e0], [0x30ab, 0x30a4, 0x30ea],
    [0x30ab, 0x30e9, 0x30c3, 0x30c8], [0x30ab, 0x30ed, 0x30ea, 0x30fc],
    [0x30ab, 0x3099, 0x30ed, 0x30f3], [0x30ab, 0x3099, 0x30f3, 0x30de],
    [0x30ad, 0x3099, 0x30ab, 0x3099], [0x30ad, 0x3099, 0x30cb, 0x30fc],
    [0x30ad, 0x30e5, 0x30ea, 0x30fc], [0x30ad, 0x3099, 0x30eb, 0x30bf, 0x3099, 0x30fc],
    [0x30ad, 0x30ed], [0x30ad, 0x30ed, 0x30af, 0x3099, 0x30e9, 0x30e0], [0x30ad, 0x30ed, 0x30e1,
    0x30fc, 0x30c8, 0x30eb], [0x30ad, 0x30ed, 0x30ef, 0x30c3, 0x30c8],
    [0x30af, 0x3099, 0x30e9, 0x30e0], [0x30af, 0x3099, 0x30e9, 0x30e0, 0x30c8, 0x30f3], [0x30af,
    0x30eb, 0x30bb, 0x3099, 0x30a4, 0x30ed], [0x30af, 0x30ed, 0x30fc, 0x30cd],
    [0x30b1, 0x30fc, 0x30b9], [0x30b3, 0x30eb, 0x30ca], [0x30b3, 0x30fc, 0x30db, 0x309a],
    [0x30b5, 0x30a4, 0x30af, 0x30eb], [0x30b5, 0x30f3, 0x30c1, 0x30fc, 0x30e0],
    [0x30b7, 0x30ea, 0x30f3, 0x30af, 0x3099], [0x30bb, 0x30f3, 0x30c1], [0x30bb, 0x30f3, 0x30c8],
    [0x30bf, 0x3099, 0x30fc, 0x30b9], [0x30c6, 0x3099, 0x30b7], [0x30c8, 0x3099, 0x30eb],
    [0x30c8, 0x30f3], [0x30ca, 0x30ce], [0x30ce, 0x30c3, 0x30c8], [0x30cf, 0x30a4, 0x30c4], [0x30cf,
    0x309a, 0x30fc, 0x30bb, 0x30f3, 0x30c8], [0x30cf, 0x309a, 0x30fc, 0x30c4],
    [0x30cf, 0x3099, 0x30fc, 0x30ec, 0x30eb], [0x30d2, 0x309a, 0x30a2, 0x30b9, 0x30c8, 0x30eb],
    [0x30d2, 0x309a, 0x30af, 0x30eb], [0x30d2, 0x309a, 0x30b3], [0x30d2, 0x3099, 0x30eb], [0x30d5,
    0x30a1, 0x30e9, 0x30c3, 0x30c8, 0x3099], [0x30d5, 0x30a3, 0x30fc, 0x30c8], [0x30d5, 0x3099,
    0x30c3, 0x30b7, 0x30a7, 0x30eb], [0x30d5, 0x30e9, 0x30f3],
    [0x30d8, 0x30af, 0x30bf, 0x30fc, 0x30eb], [0x30d8, 0x309a, 0x30bd],
    [0x30d8, 0x309a, 0x30cb, 0x30d2], [0x30d8, 0x30eb, 0x30c4], [0x30d8, 0x309a, 0x30f3, 0x30b9],
    [0x30d8, 0x309a, 0x30fc, 0x30b7, 0x3099], [0x30d8, 0x3099, 0x30fc, 0x30bf],
    [0x30db, 0x309a, 0x30a4, 0x30f3, 0x30c8], [0x30db, 0x3099, 0x30eb, 0x30c8], [0x30db, 0x30f3],
    [0x30db, 0x309a, 0x30f3, 0x30c8, 0x3099], [0x30db, 0x30fc, 0x30eb], [0x30db, 0x30fc, 0x30f3],
    [0x30de, 0x30a4, 0x30af, 0x30ed], [0x30de, 0x30a4, 0x30eb], [0x30de, 0x30c3, 0x30cf],
    [0x30de, 0x30eb, 0x30af], [0x30de, 0x30f3, 0x30b7, 0x30e7, 0x30f3],
    [0x30df, 0x30af, 0x30ed, 0x30f3], [0x30df, 0x30ea], [0x30df, 0x30ea, 0x30cf, 0x3099, 0x30fc,
    0x30eb], [0x30e1, 0x30ab, 0x3099], [0x30e1, 0x30ab, 0x3099, 0x30c8, 0x30f3],
    [0x30e1, 0x30fc, 0x30c8, 0x30eb], [0x30e4, 0x30fc, 0x30c8, 0x3099], [0x30e4, 0x30fc, 0x30eb],
    [0x30e6, 0x30a2, 0x30f3], [0x30ea, 0x30c3, 0x30c8, 0x30eb], [0x30ea, 0x30e9],
    [0x30eb, 0x30d2, 0x309a, 0x30fc], [0x30eb, 0x30fc, 0x30d5, 0x3099, 0x30eb], [0x30ec, 0x30e0],
    [0x30ec, 0x30f3, 0x30c8, 0x30b1, 0x3099, 0x30f3], [0x30ef, 0x30c3, 0x30c8], [0x30, 0x70b9],
    [0x31, 0x70b9], [0x32, 0x70b9], [0x33, 0x70b9], [0x34, 0x70b9], [0x35, 0x70b9], [0x36, 0x70b9],
    [0x37, 0x70b9], [0x38, 0x70b9], [0x39, 0x70b9], [0x31, 0x30, 0x70b9], [0x31, 0x31, 0x70b9],
    [0x31, 0x32, 0x70b9], [0x31, 0x33, 0x70b9], [0x31, 0x34, 0x70b9], [0x31, 0x35, 0x70b9],
    [0x31, 0x36, 0x70b9], [0x31, 0x37, 0x70b9], [0x31, 0x38, 0x70b9], [0x31, 0x39, 0x70b9],
    [0x32, 0x30, 0x70b9], [0x32, 0x31, 0x70b9], [0x32, 0x32, 0x70b9], [0x32, 0x33, 0x70b9],
    [0x32, 0x34, 0x70b9], [0x68, 0x70, 0x61], [0x64, 0x61], [0x61, 0x75], [0x62, 0x61, 0x72],
    [0x6f, 0x76], [0x70, 0x63], [0x64, 0x6d], [0x64, 0x6d, 0x32], [0x64, 0x6d, 0x33], [0x69, 0x75],
    [0x5e73, 0x6210], [0x662d, 0x548c], [0x5927, 0x6b63], [0x660e, 0x6cbb],
    [0x682a, 0x5f0f, 0x4f1a, 0x793e], [0x70, 0x61], [0x6e, 0x61], [0x3bc, 0x61], [0x6d, 0x61],
    [0x6b, 0x61], [0x6b, 0x62], [0x6d, 0x62], [0x67, 0x62], [0x63, 0x61, 0x6c],
    [0x6b, 0x63, 0x61, 0x6c], [0x70, 0x66], [0x6e, 0x66], [0x3bc, 0x66], [0x3bc, 0x67],
    [0x6d, 0x67], [0x6b, 0x67], [0x68, 0x7a], [0x6b, 0x68, 0x7a], [0x6d, 0x68, 0x7a],
    [0x67, 0x68, 0x7a], [0x74, 0x68, 0x7a], [0x3bc, 0x6c], [0x6d, 0x6c], [0x64, 0x6c], [0x6b, 0x6c],
    [0x66, 0x6d], [0x6e, 0x6d], [0x3bc, 0x6d], [0x6d, 0x6d], [0x63, 0x6d], [0x6b, 0x6d],
    [0x6d, 0x6d, 0x32], [0x63, 0x6d, 0x32], [0x6d, 0x32], [0x6b, 0x6d, 0x32], [0x6d, 0x6d, 0x33],
    [0x63, 0x6d, 0x33], [0x6d, 0x33], [0x6b, 0x6d, 0x33], [0x6d, 0x2215, 0x73],
    [0x6d, 0x2215, 0x73, 0x32], [0x70, 0x61], [0x6b, 0x70, 0x61], [0x6d, 0x70, 0x61],
    [0x67, 0x70, 0x61], [0x72, 0x61, 0x64], [0x72, 0x61, 0x64, 0x2215, 0x73],
    [0x72, 0x61, 0x64, 0x2215, 0x73, 0x32], [0x70, 0x73], [0x6e, 0x73], [0x3bc, 0x73], [0x6d, 0x73],
    [0x70, 0x76], [0x6e, 0x76], [0x3bc, 0x76], [0x6d, 0x76], [0x6b, 0x76], [0x6d, 0x76],
    [0x70, 0x77], [0x6e, 0x77], [0x3bc, 0x77], [0x6d, 0x77], [0x6b, 0x77], [0x6d, 0x77],
    [0x6b, 0x3c9], [0x6d, 0x3c9]]), (0x33c3, [[0x62, 0x71], [0x63, 0x63], [0x63, 0x64],
    [0x63, 0x2215, 0x6b, 0x67]]), (0x33c8, [[0x64, 0x62], [0x67, 0x79], [0x68, 0x61], [0x68, 0x70],
    [0x69, 0x6e], [0x6b, 0x6b], [0x6b, 0x6d], [0x6b, 0x74], [0x6c, 0x6d], [0x6c, 0x6e],
    [0x6c, 0x6f, 0x67], [0x6c, 0x78], [0x6d, 0x62], [0x6d, 0x69, 0x6c], [0x6d, 0x6f, 0x6c],
    [0x70, 0x68]]), (0x33d9, [[0x70, 0x70, 0x6d], [0x70, 0x72], [0x73, 0x72], [0x73, 0x76],
    [0x77, 0x62], [0x76, 0x2215, 0x6d], [0x61, 0x2215, 0x6d], [0x31, 0x65e5], [0x32, 0x65e5],
    [0x33, 0x65e5], [0x34, 0x65e5], [0x35, 0x65e5], [0x36, 0x65e5], [0x37, 0x65e5], [0x38, 0x65e5],
    [0x39, 0x65e5], [0x31, 0x30, 0x65e5], [0x31, 0x31, 0x65e5], [0x31, 0x32, 0x65e5],
    [0x31, 0x33, 0x65e5], [0x31, 0x34, 0x65e5], [0x31, 0x35, 0x65e5], [0x31, 0x36, 0x65e5],
    [0x31, 0x37, 0x65e5], [0x31, 0x38, 0x65e5], [0x31, 0x39, 0x65e5], [0x32, 0x30, 0x65e5],
    [0x32, 0x31, 0x65e5], [0x32, 0x32, 0x65e5], [0x32, 0x33, 0x65e5], [0x32, 0x34, 0x65e5],
    [0x32, 0x35, 0x65e5], [0x32, 0x36, 0x65e5], [0x32, 0x37, 0x65e5], [0x32, 0x38, 0x65e5],
    [0x32, 0x39, 0x65e5], [0x33, 0x30, 0x65e5], [0x33, 0x31, 0x65e5], [0x67, 0x61, 0x6c]]),
    (0xfb00, [[0x66, 0x66], [0x66, 0x69], [0x66, 0x6c], [0x66, 0x66, 0x69], [0x66, 0x66, 0x6c],
    [0x73, 0x74], [0x73, 0x74]]), (0xfb13, [[0x574, 0x576], [0x574, 0x565], [0x574, 0x56b],
    [0x57e, 0x576], [0x574, 0x56d]]), (0xfb4f, [[0x5d0, 0x5dc]]), (0xfba4, [[0x6d5, 0x654],
    [0x6d5, 0x654]]), (0xfbb0, [[0x6d2, 0x654], [0x6d2, 0x654]]), (0xfbdd, [[0x6c7, 0x674]]),
    (0xfbea, [[0x64a, 0x654, 0x627], [0x64a, 0x654, 0x627], [0x64a, 0x654, 0x6d5],
    [0x64a, 0x654, 0x6d5], [0x64a, 0x654, 0x648], [0x64a, 0x654, 0x648], [0x64a, 0x654, 0x6c7],
    [0x64a, 0x654, 0x6c7], [0x64a, 0x654, 0x6c6], [0x64a, 0x654, 0x6c6], [0x64a, 0x654, 0x6c8],
    [0x64a, 0x654, 0x6c8], [0x64a, 0x654, 0x6d0], [0x64a, 0x654, 0x6d0], [0x64a, 0x654, 0x6d0],
    [0x64a, 0x654, 0x649], [0x64a, 0x654, 0x649], [0x64a, 0x654, 0x649]]),
    (0xfc00, [[0x64a, 0x654, 0x62c], [0x64a, 0x654, 0x62d], [0x64a, 0x654, 0x645],
    [0x64a, 0x654, 0x649], [0x64a, 0x654, 0x64a], [0x628, 0x62c], [0x628, 0x62d], [0x628, 0x62e],
    [0x628, 0x645], [0x628, 0x649], [0x628, 0x64a], [0x62a, 0x62c], [0x62a, 0x62d], [0x62a, 0x62e],
    [0x62a, 0x645], [0x62a, 0x649], [0x62a, 0x64a], [0x62b, 0x62c], [0x62b, 0x645], [0x62b, 0x649],
    [0x62b, 0x64a], [0x62c, 0x62d], [0x62c, 0x645], [0x62d, 0x62c], [0x62d, 0x645], [0x62e, 0x62c],
    [0x62e, 0x62d], [0x62e, 0x645], [0x633, 0x62c], [0x633, 0x62d], [0x633, 0x62e], [0x633, 0x645],
    [0x635, 0x62d], [0x635, 0x645], [0x636, 0x62c], [0x636, 0x62d], [0x636, 0x62e], [0x636, 0x645],
    [0x637, 0x62d], [0x637, 0x645], [0x638, 0x645], [0x639, 0x62c], [0x639, 0x645], [0x63a, 0x62c],
    [0x63a, 0x645], [0x641, 0x62c], [0x641, 0x62d], [0x641, 0x62e], [0x641, 0x645], [0x641, 0x649],
    [0x641, 0x64a], [0x642, 0x62d], [0x642, 0x645], [0x642, 0x649], [0x642, 0x64a], [0x643, 0x627],
    [0x643, 0x62c], [0x643, 0x62d], [0x643, 0x62e], [0x643, 0x644], [0x643, 0x645], [0x643, 0x649],
    [0x643, 0x64a], [0x644, 0x62c], [0x644, 0x62d], [0x644, 0x62e], [0x644, 0x645], [0x644, 0x649],
    [0x644, 0x64a], [0x645, 0x62c], [0x645, 0x62d], [0x645, 0x62e], [0x645, 0x645], [0x645, 0x649],
    [0x645, 0x64a], [0x646, 0x62c], [0x646, 0x62d], [0x646, 0x62e], [0x646, 0x645], [0x646, 0x649],
    [0x646, 0x64a], [0x647, 0x62c], [0x647, 0x645], [0x647, 0x649], [0x647, 0x64a], [0x64a, 0x62c],
    [0x64a, 0x62d], [0x64a, 0x62e], [0x64a, 0x645], [0x64a, 0x649], [0x64a, 0x64a], [0x630, 0x670],
    [0x631, 0x670], [0x649, 0x670], [0x20, 0x64c, 0x651], [0x20, 0x64d, 0x651],
    [0x20, 0x64e, 0x651], [0x20, 0x64f, 0x651], [0x20, 0x650, 0x651], [0x20, 0x651, 0x670],
    [0x64a, 0x654, 0x631], [0x64a, 0x654, 0x632], [0x64a, 0x654, 0x645], [0x64a, 0x654, 0x646],
    [0x64a, 0x654, 0x649], [0x64a, 0x654, 0x64a], [0x628, 0x631], [0x628, 0x632], [0x628, 0x645],
    [0x628, 0x646], [0x628, 0x649], [0x628, 0x64a], [0x62a, 0x631], [0x62a, 0x632], [0x62a, 0x645],
    [0x62a, 0x646], [0x62a, 0x649], [0x62a, 0x64a], [0x62b, 0x631], [0x62b, 0x632], [0x62b, 0x645],
    [0x62b, 0x646], [0x62b, 0x649], [0x62b, 0x64a], [0x641, 0x649], [0x641, 0x64a], [0x642, 0x649],
    [0x642, 0x64a], [0x643, 0x627], [0x643, 0x644], [0x643, 0x645], [0x643, 0x649], [0x643, 0x64a],
    [0x644, 0x645], [0x644, 0x649], [0x644, 0x64a], [0x645, 0x627], [0x645, 0x645], [0x646, 0x631],
    [0x646, 0x632], [0x646, 0x645], [0x646, 0x646], [0x646, 0x649], [0x646, 0x64a], [0x649, 0x670],
    [0x64a, 0x631], [0x64a, 0x632], [0x64a, 0x645], [0x64a, 0x646], [0x64a, 0x649], [0x64a, 0x64a],
    [0x64a, 0x654, 0x62c], [0x64a, 0x654, 0x62d], [0x64a, 0x654, 0x62e], [0x64a, 0x654, 0x645],
    [0x64a, 0x654, 0x647], [0x628, 0x62c], [0x628, 0x62d], [0x628, 0x62e], [0x628, 0x645],
    [0x628, 0x647], [0x62a, 0x62c], [0x62a, 0x62d], [0x62a, 0x62e], [0x62a, 0x645], [0x62a, 0x647],
    [0x62b, 0x645], [0x62c, 0x62d], [0x62c, 0x645], [0x62d, 0x62c], [0x62d, 0x645], [0x62e, 0x62c],
    [0x62e, 0x645], [0x633, 0x62c], [0x633, 0x62d], [0x633, 0x62e], [0x633, 0x645], [0x635, 0x62d],
    [0x635, 0x62e], [0x635, 0x645], [0x636, 0x62c], [0x636, 0x62d], [0x636, 0x62e], [0x636, 0x645],
    [0x637, 0x62d], [0x638, 0x645], [0x639, 0x62c], [0x639, 0x645], [0x63a, 0x62c], [0x63a, 0x645],
    [0x641, 0x62c], [0x641, 0x62d], [0x641, 0x62e], [0x641, 0x645], [0x642, 0x62d], [0x642, 0x645],
    [0x643, 0x62c], [0x643, 0x62d], [0x643, 0x62e], [0x643, 0x644], [0x643, 0x645], [0x644, 0x62c],
    [0x644, 0x62d], [0x644, 0x62e], [0x644, 0x645], [0x644, 0x647], [0x645, 0x62c], [0x645, 0x62d],
    [0x645, 0x62e], [0x645, 0x645], [0x646, 0x62c], [0x646, 0x62d], [0x646, 0x62e], [0x646, 0x645],
    [0x646, 0x647], [0x647, 0x62c], [0x647, 0x645], [0x647, 0x670], [0x64a, 0x62c], [0x64a, 0x62d],
    [0x64a, 0x62e], [0x64a, 0x645], [0x64a, 0x647], [0x64a, 0x654, 0x645], [0x64a, 0x654, 0x647],
    [0x628, 0x645], [0x628, 0x647], [0x62a, 0x645], [0x62a, 0x647], [0x62b, 0x645], [0x62b, 0x647],
    [0x633, 0x645], [0x633, 0x647], [0x634, 0x645], [0x634, 0x647], [0x643, 0x644], [0x643, 0x645],
    [0x644, 0x645], [0x646, 0x645], [0x646, 0x647], [0x64a, 0x645], [0x64a, 0x647],
    [0x640, 0x64e, 0x651], [0x640, 0x64f, 0x651], [0x640, 0x650, 0x651], [0x637, 0x649],
    [0x637, 0x64a], [0x639, 0x649], [0x639, 0x64a], [0x63a, 0x649], [0x63a, 0x64a], [0x633, 0x649],
    [0x633, 0x64a], [0x634, 0x649], [0x634, 0x64a], [0x62d, 0x649], [0x62d, 0x64a], [0x62c, 0x649],
    [0x62c, 0x64a], [0x62e, 0x649], [0x62e, 0x64a], [0x635, 0x649], [0x635, 0x64a], [0x636, 0x649],
    [0x636, 0x64a], [0x634, 0x62c], [0x634, 0x62d], [0x634, 0x62e], [0x634, 0x645], [0x634, 0x631],
    [0x633, 0x631], [0x635, 0x631], [0x636, 0x631], [0x637, 0x649], [0x637, 0x64a], [0x639, 0x649],
    [0x639, 0x64a], [0x63a, 0x649], [0x63a, 0x64a], [0x633, 0x649], [0x633, 0x64a], [0x634, 0x649],
    [0x634, 0x64a], [0x62d, 0x649], [0x62d, 0x64a], [0x62c, 0x649], [0x62c, 0x64a], [0x62e, 0x649],
    [0x62e, 0x64a], [0x635, 0x649], [0x635, 0x64a], [0x636, 0x649], [0x636, 0x64a], [0x634, 0x62c],
    [0x634, 0x62d], [0x634, 0x62e], [0x634, 0x645], [0x634, 0x631], [0x633, 0x631], [0x635, 0x631],
    [0x636, 0x631], [0x634, 0x62c], [0x634, 0x62d], [0x634, 0x62e], [0x634, 0x645], [0x633, 0x647],
    [0x634, 0x647], [0x637, 0x645], [0x633, 0x62c], [0x633, 0x62d], [0x633, 0x62e], [0x634, 0x62c],
    [0x634, 0x62d], [0x634, 0x62e], [0x637, 0x645], [0x638, 0x645], [0x627, 0x64b],
    [0x627, 0x64b]]), (0xfd50, [[0x62a, 0x62c, 0x645], [0x62a, 0x62d, 0x62c], [0x62a, 0x62d, 0x62c],
    [0x62a, 0x62d, 0x645], [0x62a, 0x62e, 0x645], [0x62a, 0x645, 0x62c], [0x62a, 0x645, 0x62d],
    [0x62a, 0x645, 0x62e], [0x62c, 0x645, 0x62d], [0x62c, 0x645, 0x62d], [0x62d, 0x645, 0x64a],
    [0x62d, 0x645, 0x649], [0x633, 0x62d, 0x62c], [0x633, 0x62c, 0x62d], [0x633, 0x62c, 0x649],
    [0x633, 0x645, 0x62d], [0x633, 0x645, 0x62d], [0x633, 0x645, 0x62c], [0x633, 0x645, 0x645],
    [0x633, 0x645, 0x645], [0x635, 0x62d, 0x62d], [0x635, 0x62d, 0x62d], [0x635, 0x645, 0x645],
    [0x634, 0x62d, 0x645], [0x634, 0x62d, 0x645], [0x634, 0x62c, 0x64a], [0x634, 0x645, 0x62e],
    [0x634, 0x645, 0x62e], [0x634, 0x645, 0x645], [0x634, 0x645, 0x645], [0x636, 0x62d, 0x649],
    [0x636, 0x62e, 0x645], [0x636, 0x62e, 0x645], [0x637, 0x645, 0x62d], [0x637, 0x645, 0x62d],
    [0x637, 0x645, 0x645], [0x637, 0x645, 0x64a], [0x639, 0x62c, 0x645], [0x639, 0x645, 0x645],
    [0x639, 0x645, 0x645], [0x639, 0x645, 0x649], [0x63a, 0x645, 0x645], [0x63a, 0x645, 0x64a],
    [0x63a, 0x645, 0x649], [0x641, 0x62e, 0x645], [0x641, 0x62e, 0x645], [0x642, 0x645, 0x62d],
    [0x642, 0x645, 0x645], [0x644, 0x62d, 0x645], [0x644, 0x62d, 0x64a], [0x644, 0x62d, 0x649],
    [0x644, 0x62c, 0x62c], [0x644, 0x62c, 0x62c], [0x644, 0x62e, 0x645], [0x644, 0x62e, 0x645],
    [0x644, 0x645, 0x62d], [0x644, 0x645, 0x62d], [0x645, 0x62d, 0x62c], [0x645, 0x62d, 0x645],
    [0x645, 0x62d, 0x64a], [0x645, 0x62c, 0x62d], [0x645, 0x62c, 0x645], [0x645, 0x62e, 0x62c],
    [0x645, 0x62e, 0x645]]), (0xfd92, [[0x645, 0x62c, 0x62e], [0x647, 0x645, 0x62c],
    [0x647, 0x645, 0x645], [0x646, 0x62d, 0x645], [0x646, 0x62d, 0x649], [0x646, 0x62c, 0x645],
    [0x646, 0x62c, 0x645], [0x646, 0x62c, 0x649], [0x646, 0x645, 0x64a], [0x646, 0x645, 0x649],
    [0x64a, 0x645, 0x645], [0x64a, 0x645, 0x645], [0x628, 0x62e, 0x64a], [0x62a, 0x62c, 0x64a],
    [0x62a, 0x62c, 0x649], [0x62a, 0x62e, 0x64a], [0x62a, 0x62e, 0x649], [0x62a, 0x645, 0x64a],
    [0x62a, 0x645, 0x649], [0x62c, 0x645, 0x64a], [0x62c, 0x62d, 0x649], [0x62c, 0x645, 0x649],
    [0x633, 0x62e, 0x649], [0x635, 0x62d, 0x64a], [0x634, 0x62d, 0x64a], [0x636, 0x62d, 0x64a],
    [0x644, 0x62c, 0x64a], [0x644, 0x645, 0x64a], [0x64a, 0x62d, 0x64a], [0x64a, 0x62c, 0x64a],
    [0x64a, 0x645, 0x64a], [0x645, 0x645, 0x64a], [0x642, 0x645, 0x64a], [0x646, 0x62d, 0x64a],
    [0x642, 0x645, 0x62d], [0x644, 0x62d, 0x645], [0x639, 0x645, 0x64a], [0x643, 0x645, 0x64a],
    [0x646, 0x62c, 0x62d], [0x645, 0x62e, 0x64a], [0x644, 0x62c, 0x645], [0x643, 0x645, 0x645],
    [0x644, 0x62c, 0x645], [0x646, 0x62c, 0x62d], [0x62c, 0x62d, 0x64a], [0x62d, 0x62c, 0x64a],
    [0x645, 0x62c, 0x64a], [0x641, 0x645, 0x64a], [0x628, 0x62d, 0x64a], [0x643, 0x645, 0x645],
    [0x639, 0x62c, 0x645], [0x635, 0x645, 0x645], [0x633, 0x62e, 0x64a], [0x646, 0x62c, 0x64a]]),
    (0xfdf0, [[0x635, 0x644, 0x6d2], [0x642, 0x644, 0x6d2], [0x627, 0x644, 0x644, 0x647],
    [0x627, 0x643, 0x628, 0x631], [0x645, 0x62d, 0x645, 0x62f], [0x635, 0x644, 0x639, 0x645],
    [0x631, 0x633, 0x648, 0x644], [0x639, 0x644, 0x64a, 0x647], [0x648, 0x633, 0x644, 0x645],
    [0x635, 0x644, 0x649], [0x635, 0x644, 0x649, 0x20, 0x627, 0x644, 0x644, 0x647, 0x20, 0x639,
    0x644, 0x64a, 0x647, 0x20, 0x648, 0x633, 0x644, 0x645], [0x62c, 0x644, 0x20, 0x62c, 0x644,
    0x627, 0x644, 0x647], [0x631, 0x6cc, 0x627, 0x644]]), (0xfe49, [[0x20, 0x305], [0x20, 0x305],
    [0x20, 0x305], [0x20, 0x305]]), (0xfe70, [[0x20, 0x64b], [0x640, 0x64b], [0x20, 0x64c]]),
    (0xfe74, [[0x20, 0x64d]]), (0xfe76, [[0x20, 0x64e], [0x640, 0x64e], [0x20, 0x64f],
    [0x640, 0x64f], [0x20, 0x650], [0x640, 0x650], [0x20, 0x651], [0x640, 0x651], [0x20, 0x652],
    [0x640, 0x652]]), (0xfe81, [[0x627, 0x653], [0x627, 0x653], [0x627, 0x654], [0x627, 0x654],
    [0x648, 0x654], [0x648, 0x654], [0x627, 0x655], [0x627, 0x655], [0x64a, 0x654], [0x64a, 0x654],
    [0x64a, 0x654], [0x64a, 0x654]]), (0xfef5, [[0x644, 0x627, 0x653], [0x644, 0x627, 0x653],
    [0x644, 0x627, 0x654], [0x644, 0x627, 0x654], [0x644, 0x627, 0x655], [0x644, 0x627, 0x655],
    [0x644, 0x627], [0x644, 0x627]]), (0xffe3, [[0x20, 0x304]]), (0x1f101, [[0x30, 0x2c],
    [0x31, 0x2c], [0x32, 0x2c], [0x33, 0x2c], [0x34, 0x2c], [0x35, 0x2c], [0x36, 0x2c],
    [0x37, 0x2c], [0x38, 0x2c], [0x39, 0x2c]]), (0x1f110, [[0x28, 0x61, 0x29], [0x28, 0x62, 0x29],
    [0x28, 0x63, 0x29], [0x28, 0x64, 0x29], [0x28, 0x65, 0x29], [0x28, 0x66, 0x29],
    [0x28, 0x67, 0x29], [0x28, 0x68, 0x29], [0x28, 0x69, 0x29], [0x28, 0x6a, 0x29],
    [0x28, 0x6b, 0x29], [0x28, 0x6c, 0x29], [0x28, 0x6d, 0x29], [0x28, 0x6e, 0x29],
    [0x28, 0x6f, 0x29], [0x28, 0x70, 0x29], [0x28, 0x71, 0x29], [0x28, 0x72, 0x29],
    [0x28, 0x73, 0x29], [0x28, 0x74, 0x29], [0x28, 0x75, 0x29], [0x28, 0x76, 0x29],
    [0x28, 0x77, 0x29], [0x28, 0x78, 0x29], [0x28, 0x79, 0x29], [0x28, 0x7a, 0x29],
    [0x3014, 0x73, 0x3015]]), (0x1f12d, [[0x63, 0x64], [0x77, 0x7a]]), (0x1f14a, [[0x68, 0x76],
    [0x6d, 0x76], [0x73, 0x64], [0x73, 0x73], [0x70, 0x70, 0x76], [0x77, 0x63]]),
    (0x1f16a, [[0x6d, 0x63], [0x6d, 0x64], [0x6d, 0x72]]), (0x1f190, [[0x64, 0x6a]]),
    (0x1f200, [[0x307b, 0x304b], [0x30b3, 0x30b3]]), (0x1f213, [[0x30c6, 0x3099]]),
    (0x1f240, [[0x3014, 0x672c, 0x3015], [0x3014, 0x4e09, 0x3015], [0x3014, 0x4e8c, 0x3015],
    [0x3014, 0x5b89, 0x3015], [0x3014, 0x70b9, 0x3015], [0x3014, 0x6253, 0x3015],
    [0x3014, 0x76d7, 0x3015], [0x3014, 0x52dd, 0x3015], [0x3014, 0x6557, 0x3015]])
  ]

end RowQuery.Url.Domain
